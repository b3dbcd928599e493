import ChannelAccess.Rank

/-!
# Who may act on a role

Assigning, removing, renaming and deleting a role takes a role of one's own that ranks above it.
`@everyone` counts on neither side: it is never acted on, and holding it gives no rank, however low
its position is. A refusal states the position of the highest role held, or the largest position
there is for somebody without one.
-/

namespace ChannelAccess.Rank

set_option autoImplicit false

/-- A role that somebody holds and that none of their others ranks above. -/
structure Heads (roles : List Role) (role : Role) : Prop where
  held : role ∈ roles
  ranked : role.isEveryone = false
  first : ∀ other ∈ roles, other.isEveryone = false → role.position ≤ other.position

/-- The position that a refusal states for somebody with some roles. -/
inductive Stands (roles : List Role) : Int32 → Prop where
  | ranked (role : Role) (heads : Heads roles role) : Stands roles role.position
  | unranked (onlyEveryone : ∀ role ∈ roles, role.isEveryone = true) :
      Stands roles Int32.maxValue

theorem best_some (current position : Int32) :
    best (some current) position = some (min current position) := by
  have chosen : min current position = if current ≤ position then current else position := rfl
  rw [best, chosen]
  by_cases below : position < current
  · rw [if_pos below, if_neg (Int32.not_le.mpr below)]
  · rw [if_neg below, if_pos (Int32.not_lt.mp below)]

theorem fold_best_eq_min (positions : List Int32) :
    positions.foldl best none = positions.min? := by
  cases positions with
  | nil => rfl
  | cons first rest =>
      rw [List.foldl_cons, List.min?_cons']
      exact List.foldl_hom some fun current position => best_some current position

theorem mem_ranked_positions_iff (roles : List Role) (position : Int32) :
    position ∈ (roles.filter fun role => !role.isEveryone).map Role.position ↔
      ∃ role ∈ roles, role.isEveryone = false ∧ role.position = position := by
  simp [and_assoc]

theorem highest_position_eq_some_iff (roles : List Role) (position : Int32) :
    highestPosition roles = some position ↔ ∃ role, Heads roles role ∧ role.position = position := by
  rw [highestPosition, fold_best_eq_min, List.min?_eq_some_iff, mem_ranked_positions_iff]
  simp only [mem_ranked_positions_iff]
  constructor
  · rintro ⟨⟨role, held, ranked, rfl⟩, least⟩
    refine ⟨role, ⟨held, ranked, ?_⟩, rfl⟩
    intro other member otherRanked
    exact least other.position ⟨other, member, otherRanked, rfl⟩
  · rintro ⟨role, heads, rfl⟩
    refine ⟨⟨role, heads.held, heads.ranked, rfl⟩, ?_⟩
    rintro _ ⟨other, member, otherRanked, rfl⟩
    exact heads.first other member otherRanked

theorem highest_position_eq_none_iff (roles : List Role) :
    highestPosition roles = none ↔ ∀ role ∈ roles, role.isEveryone = true := by
  rw [highestPosition, fold_best_eq_min, List.min?_eq_none_iff]
  simp

theorem exists_heads_iff (roles : List Role) :
    (∃ role, Heads roles role) ↔ ∃ role ∈ roles, role.isEveryone = false := by
  constructor
  · rintro ⟨role, heads⟩
    exact ⟨role, heads.held, heads.ranked⟩
  · rintro ⟨role, held, ranked⟩
    cases highest : highestPosition roles with
    | none =>
        rw [(highest_position_eq_none_iff roles).mp highest role held] at ranked
        nomatch ranked
    | some position =>
        obtain ⟨top, heads, _⟩ := (highest_position_eq_some_iff roles position).mp highest
        exact ⟨top, heads⟩

theorem Heads.above_iff {roles : List Role} {role : Role} (heads : Heads roles role)
    (position : Int32) :
    role.position < position ↔
      ∃ other ∈ roles, other.isEveryone = false ∧ other.position < position := by
  constructor
  · intro above
    exact ⟨role, heads.held, heads.ranked, above⟩
  · rintro ⟨other, member, ranked, above⟩
    exact Int32.lt_of_le_of_lt (heads.first other member ranked) above

theorem ensure_role_target_of_ordinary (roles : List Role) {target : Role}
    (ordinary : target.isEveryone = false) :
    (∃ role ∈ roles, role.isEveryone = false ∧ role.position < target.position) ∧
        ensureRoleTarget (highestPosition roles) target = .ok () ∨
      (¬∃ role ∈ roles, role.isEveryone = false ∧ role.position < target.position) ∧
        ∃ position, Stands roles position ∧
          ensureRoleTarget (highestPosition roles) target =
            .error (.outranked position target.position) := by
  cases highest : highestPosition roles with
  | none =>
      have onlyEveryone := (highest_position_eq_none_iff roles).mp highest
      refine .inr ⟨?_, _, .unranked onlyEveryone, ?_⟩
      · rintro ⟨role, held, ranked, _⟩
        rw [onlyEveryone role held] at ranked
        nomatch ranked
      · simp [ensureRoleTarget, ordinary, lowest]
  | some position =>
      obtain ⟨top, heads, rfl⟩ := (highest_position_eq_some_iff roles position).mp highest
      rw [← heads.above_iff]
      by_cases above : top.position < target.position
      · refine .inl ⟨above, ?_⟩
        simp [ensureRoleTarget, ordinary, outranks, above]
      · refine .inr ⟨above, _, .ranked top heads, ?_⟩
        simp [ensureRoleTarget, ordinary, outranks, above]

theorem ensure_role_target_of_everyone (actor : Option Int32) {target : Role}
    (everyone : target.isEveryone = true) :
    ensureRoleTarget actor target = .error .everyoneImmutable := by
  simp [ensureRoleTarget, everyone]

theorem ensure_role_target_eq_ok_iff (roles : List Role) (target : Role) :
    ensureRoleTarget (highestPosition roles) target = .ok () ↔
      target.isEveryone = false ∧
        ∃ role ∈ roles, role.isEveryone = false ∧ role.position < target.position := by
  cases everyone : target.isEveryone with
  | true => simp [ensure_role_target_of_everyone _ everyone]
  | false =>
      rcases ensure_role_target_of_ordinary roles everyone with
        ⟨above, allowed⟩ | ⟨noneAbove, position, _, refused⟩
      · exact iff_of_true allowed ⟨rfl, above⟩
      · rw [refused]
        exact iff_of_false (fun allowed => nomatch allowed) fun above => noneAbove above.2

theorem not_ok_of_stands {roles : List Role} {role : Role} (stands : Stands roles role.position) :
    ensureRoleTarget (highestPosition roles) role ≠ .ok () := by
  intro allowed
  obtain ⟨_, other, held, ranked, above⟩ := (ensure_role_target_eq_ok_iff roles role).mp allowed
  generalize position : role.position = here at stands above
  cases stands with
  | ranked top heads =>
      exact Int32.not_le.mpr above (heads.first other held ranked)
  | unranked onlyEveryone =>
      rw [onlyEveryone other held] at ranked
      nomatch ranked

theorem not_both_ok_of_heads {first second : List Role} {top other : Role}
    (firstHeads : Heads first top) (secondHeads : Heads second other) :
    ¬(ensureRoleTarget (highestPosition first) other = .ok () ∧
      ensureRoleTarget (highestPosition second) top = .ok ()) := by
  simp only [ensure_role_target_eq_ok_iff, ← firstHeads.above_iff, ← secondHeads.above_iff]
  rintro ⟨⟨_, above⟩, _, below⟩
  exact Int32.lt_asymm above below

/-- Acting on a role takes exactly a role of one's own that ranks above it, `@everyone` aside, and a
refusal says which of the two is missing. So nobody acts on a role at their own rank, and of two
members who have a rank at most one acts on a highest role of the other. -/
theorem role_targets_gated_by_rank :
    (∀ (roles : List Role) (target : Role),
      (ensureRoleTarget (highestPosition roles) target = .ok () ↔
        target.isEveryone = false ∧
          ∃ role ∈ roles, role.isEveryone = false ∧ role.position < target.position) ∧
      (target.isEveryone = true →
        ensureRoleTarget (highestPosition roles) target = .error .everyoneImmutable) ∧
      (target.isEveryone = false →
        (¬∃ role ∈ roles, role.isEveryone = false ∧ role.position < target.position) →
        ∃ position, Stands roles position ∧
          ensureRoleTarget (highestPosition roles) target =
            .error (.outranked position target.position))) ∧
    (∀ (roles : List Role) (role : Role), Stands roles role.position →
      ensureRoleTarget (highestPosition roles) role ≠ .ok ()) ∧
    (∀ roles : List Role,
      (∃ role, Heads roles role) ↔ ∃ role ∈ roles, role.isEveryone = false) ∧
    ∀ (first second : List Role) (top other : Role), Heads first top → Heads second other →
      ¬(ensureRoleTarget (highestPosition first) other = .ok () ∧
        ensureRoleTarget (highestPosition second) top = .ok ()) := by
  refine ⟨?gate, ?own, exists_heads_iff, ?pair⟩
  case gate =>
    intro roles target
    refine ⟨ensure_role_target_eq_ok_iff roles target, ensure_role_target_of_everyone _, ?_⟩
    intro ordinary noneAbove
    rcases ensure_role_target_of_ordinary roles ordinary with ⟨above, _⟩ | ⟨_, refused⟩
    · exact absurd above noneAbove
    · exact refused
  case own =>
    intro roles role stands
    exact not_ok_of_stands stands
  case pair =>
    intro first second top other firstHeads secondHeads
    exact not_both_ok_of_heads firstHeads secondHeads

end ChannelAccess.Rank
