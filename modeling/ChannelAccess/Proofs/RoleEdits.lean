import Mathlib.Data.List.Nodup
import ChannelAccess.Error
import ChannelAccess.Proofs.Effective

/-!
# Runs of role edits

Members who may manage roles rewrite the masks of roles, each edit checked against what its author
may do at that moment. Authors can edit roles that they or their accomplices hold, and so change
what later edits are checked against. An accepted edit gives a role nothing that its author does not
have already, and leaves the roles at or above its author alone; both survive any run.
-/

namespace ChannelAccess

set_option autoImplicit false

namespace Mask

theorem validated_eq_ok {mask accepted : Mask} (valid : mask.validated = .ok accepted) :
    accepted = mask ∧ mask.reserved.isEmpty = true := by
  unfold validated at valid
  split at valid
  · exact ⟨(Except.ok.inj valid).symm, ‹_›⟩
  · nomatch valid

theorem has_of_nothing_lacking {mask wanted : Mask} (named : wanted.reserved.isEmpty = true)
    (nothingLacking : (wanted ∩ mask.complement).isEmpty = true) : mask.has wanted = true := by
  rw [is_empty_iff] at named nothingLacking
  rw [has_iff]
  intro position inWanted
  have isNamed := named position
  have notLacking := nothingLacking position
  simp only [reserved, complement, test_bit_sdiff, test_bit_inter, inWanted, Bool.true_and,
    Bool.not_eq_false'] at isNamed notLacking
  simpa [isNamed] using notLacking

end Mask

namespace Rank

theorem ensure_role_edit_ok_iff (actorMask : Mask) (actorPosition : Int32) (target : Role)
    (wanted : Mask) :
    ensureRoleEdit actorMask actorPosition target (some wanted) = .ok () ↔
      actorMask.has (.ofFlag .manageRoles) = true ∧
        (target.isEveryone = true ∨ actorPosition < target.position) ∧
        (wanted ∩ actorMask.complement).isEmpty = true := by
  unfold ensureRoleEdit outranks
  cases actorMask.has (.ofFlag .manageRoles) <;> cases target.isEveryone <;>
    by_cases below : actorPosition < target.position <;> simp [below]

end Rank

/-- The roles of a server, no two of which have the same identifier. -/
structure RoleBook where
  roles : List Role
  distinct : (roles.map Role.id).Nodup

/-- Somebody who is not the owner, with the roles given to them besides `@everyone`. -/
structure RoleActor where
  user : UserId
  given : List RoleId

structure RoleEdit where
  author : RoleActor
  target : RoleId
  wanted : Mask
  moment : Timestamp

def RoleEdit.rewrite (edit : RoleEdit) (role : Role) : Role :=
  if role.id = edit.target then
    { role with permissions := edit.wanted, updatedAt := edit.moment }
  else role

namespace RoleEdit

variable (edit : RoleEdit) (role : Role)

@[simp]
theorem rewrite_id : (edit.rewrite role).id = role.id := by
  unfold rewrite
  split <;> rfl

@[simp]
theorem rewrite_position : (edit.rewrite role).position = role.position := by
  unfold rewrite
  split <;> rfl

@[simp]
theorem rewrite_is_everyone : (edit.rewrite role).isEveryone = role.isEveryone := by
  unfold rewrite
  split <;> rfl

theorem rewrite_of_ne {edit : RoleEdit} {role : Role} (other : role.id ≠ edit.target) :
    edit.rewrite role = role :=
  if_neg other

theorem rewrite_permissions_of_eq {edit : RoleEdit} {role : Role} (meant : role.id = edit.target) :
    (edit.rewrite role).permissions = edit.wanted := by
  rw [rewrite, if_pos meant]

end RoleEdit

namespace RoleBook

def find? (book : RoleBook) (id : RoleId) : Option Role :=
  book.roles.find? fun role => role.id == id

def heldBy (book : RoleBook) (actor : RoleActor) : List Role :=
  book.roles.filter fun role => role.isEveryone || actor.given.contains role.id

/-- What an actor may do server-wide: everything that one of the roles held gives. -/
def maskOf (book : RoleBook) (actor : RoleActor) : Mask :=
  effectivePermissions actor.user false
    ((book.heldBy actor).map fun role => ⟨role.id, role.permissions⟩) []

def positionOf (book : RoleBook) (actor : RoleActor) : Option Int32 :=
  Rank.highestPosition (book.heldBy actor)

/-- What the members of a group may do between them. -/
def reach (book : RoleBook) (group : List RoleActor) : Mask :=
  Mask.unionAll (group.map book.maskOf)

def rewrite (book : RoleBook) (edit : RoleEdit) : RoleBook where
  roles := book.roles.map edit.rewrite
  distinct := by
    have sameIds : Role.id ∘ edit.rewrite = Role.id := funext edit.rewrite_id
    rw [List.map_map, sameIds]
    exact book.distinct

/-- The roles after an edit, if it is accepted: the role exists, its author has a rank, the mask
has no reserved bit, and the author may set it. -/
def edit? (book : RoleBook) (edit : RoleEdit) : Option RoleBook := do
  let target ← book.find? edit.target
  let position ← book.positionOf edit.author
  match edit.wanted.validated with
  | .error _ => none
  | .ok wanted =>
      match Rank.ensureRoleEdit (book.maskOf edit.author) position target (some wanted) with
      | .error _ => none
      | .ok () => some (book.rewrite edit)

def editAll? (book : RoleBook) (edits : List RoleEdit) : Option RoleBook :=
  edits.foldlM edit? book

theorem find_eq_some_iff (book : RoleBook) (id : RoleId) (role : Role) :
    book.find? id = some role ↔ role ∈ book.roles ∧ role.id = id := by
  unfold find?
  constructor
  · intro found
    have hasId := List.find?_some found
    exact ⟨List.mem_of_find?_eq_some found, eq_of_beq hasId⟩
  · rintro ⟨listed, rfl⟩
    cases looked : book.roles.find? fun other => other.id == role.id with
    | none =>
        have absent := List.find?_eq_none.mp looked role listed
        simp at absent
    | some found =>
        have sameId := List.find?_some looked
        have same : found = role := List.inj_on_of_nodup_map book.distinct
          (List.mem_of_find?_eq_some looked) listed (eq_of_beq sameId)
        rw [same]

theorem held_by_rewrite (book : RoleBook) (edit : RoleEdit) (actor : RoleActor) :
    (book.rewrite edit).heldBy actor = (book.heldBy actor).map edit.rewrite := by
  simp only [heldBy, rewrite, List.filter_map]
  congr 2
  funext role
  simp

theorem position_of_rewrite (book : RoleBook) (edit : RoleEdit) (actor : RoleActor) :
    (book.rewrite edit).positionOf actor = book.positionOf actor := by
  rw [positionOf, held_by_rewrite, Rank.highestPosition, List.filter_map, List.map_map]
  simp [Function.comp_def, positionOf, Rank.highestPosition]

theorem test_bit_mask_of (book : RoleBook) (actor : RoleActor) (position : Nat) :
    (book.maskOf actor).testBit position = true ↔
      ∃ role ∈ book.heldBy actor, role.permissions.testBit position = true := by
  rw [maskOf, test_bit_effective_permissions]
  simp only [Override.SomeHas, List.mem_map, exists_exists_and_eq_and, List.not_mem_nil, false_and,
    exists_false, not_false_eq_true, true_and, false_or]

theorem test_bit_reach (book : RoleBook) (group : List RoleActor) (position : Nat) :
    (book.reach group).testBit position = true ↔
      ∃ actor ∈ group, (book.maskOf actor).testBit position = true :=
  Mask.test_bit_union_all_map book.maskOf group position

theorem edit_eq_some {book after : RoleBook} {edit : RoleEdit}
    (accepted : book.edit? edit = some after) :
    ∃ target position,
      book.find? edit.target = some target ∧
      book.positionOf edit.author = some position ∧
      (target.isEveryone = true ∨ position < target.position) ∧
      (book.maskOf edit.author).has edit.wanted = true ∧
      after = book.rewrite edit := by
  unfold edit? at accepted
  simp only [Option.bind_eq_bind, Option.bind_eq_some_iff] at accepted
  obtain ⟨target, found, position, ranked, permitted⟩ := accepted
  cases valid : edit.wanted.validated with
  | error fault => simp [valid] at permitted
  | ok wanted =>
      obtain ⟨rfl, named⟩ := Mask.validated_eq_ok valid
      cases allowed : Rank.ensureRoleEdit (book.maskOf edit.author) position target
          (some edit.wanted) with
      | error refusal => simp [valid, allowed] at permitted
      | ok _ =>
          obtain ⟨_, mayTouch, nothingLacking⟩ :=
            (Rank.ensure_role_edit_ok_iff _ _ _ _).mp allowed
          simp only [valid, allowed, Option.some.injEq] at permitted
          exact ⟨target, position, found, ranked, mayTouch,
            Mask.has_of_nothing_lacking named nothingLacking, permitted.symm⟩

/-- A role other than `@everyone` that nobody in the group ranks above. -/
def Above (book : RoleBook) (group : List RoleActor) (role : Role) : Prop :=
  role.isEveryone = false ∧
    ∀ actor ∈ group, ∀ position, book.positionOf actor = some position → role.position ≤ position

section Step

variable {book after : RoleBook} {group : List RoleActor} {edit : RoleEdit}

/-- An edit gives the group nothing new: the roles that it leaves alone gave what they give, and
the one it rewrites gives what its author had. -/
theorem reach_has_reach_edit (inGroup : edit.author ∈ group)
    (accepted : book.edit? edit = some after) :
    (book.reach group).has (after.reach group) = true := by
  obtain ⟨_, _, _, _, _, within, rfl⟩ := edit_eq_some accepted
  rw [Mask.has_iff] at within ⊢
  intro position inAfter
  rw [test_bit_reach] at inAfter ⊢
  obtain ⟨actor, member, inMask⟩ := inAfter
  rw [test_bit_mask_of, held_by_rewrite] at inMask
  obtain ⟨rewritten, listed, given⟩ := inMask
  obtain ⟨role, held, rfl⟩ := List.mem_map.mp listed
  by_cases meant : role.id = edit.target
  · rw [edit.rewrite_permissions_of_eq meant] at given
    exact ⟨edit.author, inGroup, within position given⟩
  · rw [edit.rewrite_of_ne meant] at given
    exact ⟨actor, member, (book.test_bit_mask_of actor position).mpr ⟨role, held, given⟩⟩

theorem position_of_edit (accepted : book.edit? edit = some after) (actor : RoleActor) :
    after.positionOf actor = book.positionOf actor := by
  obtain ⟨_, _, _, _, _, _, rfl⟩ := edit_eq_some accepted
  exact book.position_of_rewrite edit actor

theorem find_edit_of_above (inGroup : edit.author ∈ group) (accepted : book.edit? edit = some after)
    {id : RoleId} {role : Role} (found : book.find? id = some role)
    (above : book.Above group role) : after.find? id = some role := by
  obtain ⟨target, position, targetFound, ranked, mayTouch, _, rfl⟩ := edit_eq_some accepted
  obtain ⟨listed, rfl⟩ := (book.find_eq_some_iff id role).mp found
  have other : role.id ≠ edit.target := by
    rintro meant
    rw [← meant, found] at targetFound
    obtain rfl := Option.some.inj targetFound
    obtain ⟨notEveryone, highest⟩ := above
    rcases mayTouch with isEveryone | below
    · simp [notEveryone] at isEveryone
    · exact Int32.not_lt.mpr (highest _ inGroup position ranked) below
  rw [find_eq_some_iff]
  exact ⟨List.mem_map.mpr ⟨role, listed, edit.rewrite_of_ne other⟩, rfl⟩

end Step

theorem edit_all_eq_some {start now : RoleBook} {group : List RoleActor} {edits : List RoleEdit}
    (byGroup : ∀ edit ∈ edits, edit.author ∈ group) (accepted : start.editAll? edits = some now) :
    (start.reach group).has (now.reach group) = true ∧
      ∀ id role, start.find? id = some role → start.Above group role →
        now.find? id = some role := by
  induction edits generalizing start with
  | nil =>
      obtain rfl := Option.some.inj accepted
      exact ⟨(Mask.has_iff _ _).mpr fun _ within => within, fun _ _ found _ => found⟩
  | cons edit rest ih =>
      obtain ⟨after, first, others⟩ := Option.bind_eq_some_iff.mp accepted
      have inGroup : edit.author ∈ group := byGroup edit List.mem_cons_self
      obtain ⟨contained, kept⟩ :=
        ih (fun later member => byGroup later (List.mem_cons_of_mem edit member)) others
      refine ⟨Mask.has_trans (reach_has_reach_edit inGroup first) contained, ?_⟩
      intro id role found above
      apply kept id role (find_edit_of_above inGroup first found above)
      -- An edit moves nobody, so a role that was above the group still is.
      refine ⟨above.1, fun actor member position ranked => ?_⟩
      rw [position_of_edit first] at ranked
      exact above.2 actor member position ranked

/-- A run of accepted edits never raises its authors. After every part of the run, the group may do
between them no more than they could at the start, and a role other than `@everyone` that none of
them ranks above is as it was. -/
theorem edits_never_raise_authors (start now : RoleBook) (group : List RoleActor)
    (edits : List RoleEdit) (byGroup : ∀ edit ∈ edits, edit.author ∈ group)
    (accepted : start.editAll? edits = some now) :
    ∀ earlier, earlier <+: edits → ∃ book, start.editAll? earlier = some book ∧
      (start.reach group).has (book.reach group) = true ∧
      ∀ id role, start.find? id = some role → role.isEveryone = false →
        (∀ actor ∈ group, ∀ position, start.positionOf actor = some position →
          role.position ≤ position) →
        book.find? id = some role := by
  rintro earlier ⟨later, rfl⟩
  rw [editAll?, List.foldlM_append] at accepted
  obtain ⟨book, reached, _⟩ := Option.bind_eq_some_iff.mp accepted
  obtain ⟨contained, kept⟩ := edit_all_eq_some
    (fun edit member => byGroup edit (List.mem_append_left later member)) reached
  exact ⟨book, reached, contained, fun id role found notEveryone highest =>
    kept id role found ⟨notEveryone, highest⟩⟩

/-- A moderator lets helpers manage roles, and a helper who holds no other role at once gives
everyone what the helpers have. Nothing changes for the role of moderators, and between them the two
end up with what they started with. -/
theorem edits_never_raise_authors_through_helper :
    let role (id : Nat) (position : Int32) (isEveryone : Bool) (flags : List Flag) : Role :=
      ⟨.ofNat id, "", .ofFlags flags, position, isEveryone, false, .ofSeconds 0, .ofSeconds 0⟩
    let everyone := role 1 0 true [.viewChannels]
    let moderators := role 2 1 false [.manageRoles, .createInvite]
    let helpers := role 3 2 false []
    let start : RoleBook := ⟨[everyone, moderators, helpers], by decide⟩
    let moderator : RoleActor := ⟨.ofNat 7, [moderators.id]⟩
    let helper : RoleActor := ⟨.ofNat 8, [helpers.id]⟩
    let edits : List RoleEdit := [
      ⟨moderator, helpers.id, .ofFlags [.manageRoles, .createInvite], .ofSeconds 1⟩,
      ⟨helper, everyone.id, .ofFlags [.manageRoles, .viewChannels], .ofSeconds 2⟩]
    ∃ now, start.editAll? edits = some now ∧
      (start.reach [moderator, helper]).has (now.reach [moderator, helper]) = true ∧
      now.find? moderators.id = some moderators ∧
      now.find? everyone.id ≠ some everyone := by
  intro role everyone moderators helpers start moderator helper edits
  have byGroup : ∀ edit ∈ edits, edit.author ∈ [moderator, helper] := by
    simp [edits]
  obtain ⟨now, accepted⟩ : ∃ now, start.editAll? edits = some now := by
    rw [← Option.isSome_iff_exists]
    decide +kernel
  obtain ⟨book, reached, contained, kept⟩ :=
    edits_never_raise_authors start now [moderator, helper] edits byGroup accepted edits
      List.prefix_rfl
  obtain rfl : now = book := Option.some.inj (accepted.symm.trans reached)
  refine ⟨now, accepted, contained, ?_, ?_⟩
  · apply kept moderators.id moderators
    · decide +kernel
    · rfl
    · have highest : ∀ actor ∈ [moderator, helper],
          (start.positionOf actor).all (fun position => moderators.position ≤ position) = true := by
        decide +kernel
      intro actor member position ranked
      have high := highest actor member
      rw [ranked] at high
      exact of_decide_eq_true high
  · have changed : (start.editAll? edits).bind (·.find? everyone.id) ≠ some everyone := by
      decide +kernel
    rwa [accepted] at changed

end RoleBook

end ChannelAccess
