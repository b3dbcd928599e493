import ChannelAccess.Proofs.RoleEdits

/-!
# The verdict on a role edit

Three rules decide whether a role may be edited, and the first one broken is the one reported. The
last rule is about the permissions that the author of the edit lacks. It counts only the named ones:
a reserved bit of the new mask passes, whether its author has it or not.
-/

namespace ChannelAccess

set_option autoImplicit false

namespace Rank

/-- A role that somebody at a position may touch: `@everyone`, or a role they rank above. -/
def InReach (position : Int32) (target : Role) : Prop :=
  target.isEveryone = true ∨ position < target.position

/-- What the rules for editing a role come to, taken in order. The last one depends on what counts
as `lacking`: the part of a wanted mask that the author is not to hand out. -/
inductive EditVerdict (lacking : Mask → Mask) (actorMask : Mask) (actorPosition : Int32)
    (target : Role) (newMask : Option Mask) : Except RankError Unit → Prop where
  | unauthorised
      (unable : actorMask.has (.ofFlag .manageRoles) = false) :
      EditVerdict lacking actorMask actorPosition target newMask
        (.error (.missingPermission (.ofFlag .manageRoles)))
  | outranked
      (able : actorMask.has (.ofFlag .manageRoles) = true)
      (outOfReach : ¬ InReach actorPosition target) :
      EditVerdict lacking actorMask actorPosition target newMask
        (.error (.outranked actorPosition target.position))
  | escalating (wanted : Mask)
      (able : actorMask.has (.ofFlag .manageRoles) = true)
      (inReach : InReach actorPosition target)
      (asked : newMask = some wanted)
      (lacked : lacking wanted ≠ ∅) :
      EditVerdict lacking actorMask actorPosition target newMask
        (.error (.cannotEscalate (lacking wanted)))
  | allowed
      (able : actorMask.has (.ofFlag .manageRoles) = true)
      (inReach : InReach actorPosition target)
      (nothingLacked : ∀ wanted, newMask = some wanted → lacking wanted = ∅) :
      EditVerdict lacking actorMask actorPosition target newMask (.ok ())

section Verdict

variable {lacking : Mask → Mask} {actorMask : Mask} {actorPosition : Int32} {target : Role}
  {newMask : Option Mask}

theorem EditVerdict.unique {first second : Except RankError Unit}
    (one : EditVerdict lacking actorMask actorPosition target newMask first)
    (other : EditVerdict lacking actorMask actorPosition target newMask second) :
    first = second := by
  cases one with
  | unauthorised unable =>
      cases other with
      | unauthorised => rfl
      | outranked able | escalating _ able | allowed able => simp [unable] at able
  | outranked able outOfReach =>
      cases other with
      | unauthorised unable => simp [unable] at able
      | outranked => rfl
      | escalating _ _ inReach | allowed _ inReach => exact absurd inReach outOfReach
  | escalating wanted able inReach asked lacked =>
      cases other with
      | unauthorised unable => simp [unable] at able
      | outranked _ outOfReach => exact absurd inReach outOfReach
      | escalating again _ _ askedAgain =>
          rw [Option.some.inj (asked.symm.trans askedAgain)]
      | allowed _ _ nothingLacked => exact absurd (nothingLacked wanted asked) lacked
  | allowed able inReach nothingLacked =>
      cases other with
      | unauthorised unable => simp [unable] at able
      | outranked _ outOfReach => exact absurd inReach outOfReach
      | escalating wanted _ _ asked lacked => exact absurd (nothingLacked wanted asked) lacked
      | allowed => rfl

/-- A verdict stands under every reading of the last rule that says the same of the mask asked for,
if it comes to that rule. -/
theorem EditVerdict.of_agree {reading : Mask → Mask} {verdict : Except RankError Unit}
    (given : EditVerdict lacking actorMask actorPosition target newMask verdict)
    (agree : actorMask.has (.ofFlag .manageRoles) = true → InReach actorPosition target →
      ∀ wanted, newMask = some wanted → lacking wanted = reading wanted) :
    EditVerdict reading actorMask actorPosition target newMask verdict := by
  cases given with
  | unauthorised unable => exact .unauthorised unable
  | outranked able outOfReach => exact .outranked able outOfReach
  | escalating wanted able inReach asked lacked =>
      rw [agree able inReach wanted asked] at lacked ⊢
      exact .escalating wanted able inReach asked lacked
  | allowed able inReach nothingLacked =>
      apply EditVerdict.allowed able inReach
      intro wanted asked
      rw [← agree able inReach wanted asked]
      exact nothingLacked wanted asked

theorem EditVerdict.eq_of_asked {verdict : Except RankError Unit} {wanted : Mask}
    (given : EditVerdict lacking actorMask actorPosition target newMask verdict)
    (able : actorMask.has (.ofFlag .manageRoles) = true)
    (inReach : InReach actorPosition target) (asked : newMask = some wanted) :
    verdict =
      if lacking wanted = ∅ then .ok () else .error (.cannotEscalate (lacking wanted)) := by
  cases given with
  | unauthorised unable => simp [able] at unable
  | outranked _ outOfReach => exact absurd inReach outOfReach
  | escalating other _ _ askedOther lacked =>
      obtain rfl : other = wanted := Option.some.inj (askedOther.symm.trans asked)
      rw [if_neg lacked]
  | allowed _ _ nothingLacked => rw [if_pos (nothingLacked wanted asked)]

theorem EditVerdict.agree {reading : Mask → Mask} {verdict : Except RankError Unit} {wanted : Mask}
    (given : EditVerdict lacking actorMask actorPosition target newMask verdict)
    (other : EditVerdict reading actorMask actorPosition target newMask verdict)
    (able : actorMask.has (.ofFlag .manageRoles) = true)
    (inReach : InReach actorPosition target) (asked : newMask = some wanted) :
    lacking wanted = reading wanted := by
  have underFirst := given.eq_of_asked able inReach asked
  have underSecond := other.eq_of_asked able inReach asked
  rw [underFirst] at underSecond
  by_cases nothing : lacking wanted = ∅ <;> by_cases nothingElse : reading wanted = ∅
  · rw [nothing, nothingElse]
  · rw [if_pos nothing, if_neg nothingElse] at underSecond
    nomatch underSecond
  · rw [if_neg nothing, if_pos nothingElse] at underSecond
    nomatch underSecond
  · rw [if_neg nothing, if_neg nothingElse] at underSecond
    exact RankError.cannotEscalate.inj (Except.error.inj underSecond)

theorem in_reach_iff (position : Int32) (target : Role) :
    InReach position target ↔
      (!target.isEveryone && !outranks position target.position) = false := by
  unfold InReach outranks
  cases target.isEveryone <;> simp

/-- The check follows the rules if the lacking permissions are the named ones of the mask asked for
that its author does not have. -/
theorem edit_verdict_ensure_role_edit (actorMask : Mask) (actorPosition : Int32) (target : Role)
    (newMask : Option Mask) :
    EditVerdict (fun wanted => (wanted \ actorMask).truncate) actorMask actorPosition target newMask
      (ensureRoleEdit actorMask actorPosition target newMask) := by
  unfold ensureRoleEdit
  cases able : actorMask.has (.ofFlag .manageRoles) with
  | false => exact .unauthorised able
  | true =>
      cases blocked : !target.isEveryone && !outranks actorPosition target.position with
      | true =>
          have outOfReach : ¬ InReach actorPosition target := by
            simp [in_reach_iff, blocked]
          exact .outranked able outOfReach
      | false =>
          have inReach : InReach actorPosition target := (in_reach_iff _ _).mpr blocked
          cases newMask with
          | none => exact .allowed able inReach fun _ asked => nomatch asked
          | some wanted =>
              simp only [Bool.not_true, Bool.false_eq_true, if_false, Mask.is_empty_eq_true_iff,
                Mask.inter_complement]
              split
              case isTrue nothing =>
                apply EditVerdict.allowed able inReach
                intro again asked
                rw [← Option.some.inj asked, nothing]
              case isFalse lacked => exact .escalating wanted able inReach rfl lacked

end Verdict

/-- The verdict on a role edit is that of the three rules in their order, where the last one counts
named permissions only: an edit is refused for those of the new mask that its author lacks, and the
refusal carries exactly them. Were reserved bits to count as well, the verdict would be the same
exactly if an earlier rule is broken or the author lacks none of those in the new mask. -/
theorem role_edit_follows_rules_on_named_bits (actorMask : Mask) (actorPosition : Int32)
    (target : Role) (newMask : Option Mask) :
    (∀ verdict, ensureRoleEdit actorMask actorPosition target newMask = verdict ↔
      EditVerdict (fun wanted => (wanted \ actorMask).truncate) actorMask actorPosition target
        newMask verdict) ∧
    (∀ wanted position, (wanted \ actorMask).truncate.testBit position = true ↔
      position < 23 ∧ wanted.testBit position = true ∧ actorMask.testBit position = false) ∧
    (EditVerdict (fun wanted => wanted \ actorMask) actorMask actorPosition target newMask
        (ensureRoleEdit actorMask actorPosition target newMask) ↔
      actorMask.has (.ofFlag .manageRoles) = false ∨ ¬ InReach actorPosition target ∨
        ∀ wanted, newMask = some wanted → (wanted \ actorMask).reserved = ∅) := by
  have followed := edit_verdict_ensure_role_edit actorMask actorPosition target newMask
  refine ⟨?verdict, ?lacked, ?everyBit⟩
  case verdict =>
    intro verdict
    constructor
    · rintro rfl
      exact followed
    · exact followed.unique
  case lacked =>
    intro wanted position
    simp only [Mask.truncate, Mask.test_bit_inter, Mask.test_bit_sdiff, Mask.test_bit_all,
      Bool.and_eq_true, Bool.not_eq_true', decide_eq_true_eq]
    tauto
  case everyBit =>
    constructor
    · intro strict
      cases able : actorMask.has (.ofFlag .manageRoles) with
      | false => exact .inl rfl
      | true =>
          by_cases inReach : InReach actorPosition target
          · refine .inr (.inr fun wanted asked => ?_)
            rw [← Mask.truncate_eq_self_iff]
            exact followed.agree strict able inReach asked
          · exact .inr (.inl inReach)
    · intro earlierOrNamed
      apply followed.of_agree
      intro able inReach wanted asked
      rcases earlierOrNamed with unable | outOfReach | noneReserved
      · simp [able] at unable
      · exact absurd inReach outOfReach
      · exact (Mask.truncate_eq_self_iff _).mpr (noneReserved wanted asked)

/-- Somebody who may manage roles, and nothing else, gives a role below them a reserved bit that
they do not have. -/
theorem role_edit_grants_lacked_reserved_bit :
    let actorMask : Mask := .ofFlag .manageRoles
    let target : Role :=
      ⟨.ofNat 1, "", ∅, 10, false, false, .ofSeconds 0, .ofSeconds 0⟩
    let wanted := Mask.ofNat 0x800000
    actorMask.has (.ofFlag .manageRoles) = true ∧ InReach 0 target ∧
      wanted.testBit 23 = true ∧ actorMask.testBit 23 = false ∧
      ensureRoleEdit actorMask 0 target (some wanted) = .ok () ∧
      ¬ EditVerdict (fun wanted => wanted \ actorMask) actorMask 0 target (some wanted)
        (ensureRoleEdit actorMask 0 target (some wanted)) := by
  intro actorMask target wanted
  have inReach : InReach 0 target := .inr (by decide)
  have accepted : ensureRoleEdit actorMask 0 target (some wanted) = .ok () :=
    (ensure_role_edit_ok_iff actorMask 0 target wanted).mpr ⟨by decide, inReach, by decide⟩
  refine ⟨by decide, inReach, by decide, by decide, accepted, ?_⟩
  intro strict
  rw [accepted] at strict
  cases strict with
  | allowed able inReach nothingLacked =>
      have lacked : (wanted \ actorMask).testBit 23 = true := by decide
      rw [nothingLacked wanted rfl, Mask.test_bit_empty] at lacked
      nomatch lacked

end Rank

end ChannelAccess
