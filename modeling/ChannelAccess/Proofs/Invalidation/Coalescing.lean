import ChannelAccess.Invalidation

/-!
# Coalescing keeps what is covered

A batch and what coalescing leaves of it cover the same entries: a repetition is
covered by the first occurrence, and an entry that was left out by the scope for its
user or channel, wherever in the batch that stands.
-/

namespace ChannelAccess

set_option autoImplicit false

namespace Invalidation

def AnyCovers (scopes : List Invalidation) (user : UserId) (channel : ChannelId) : Prop :=
  ∃ scope ∈ scopes, scope.covers user channel = true

theorem mem_first_occurrences (seen batch : List Invalidation) (scope : Invalidation) :
    scope ∈ firstOccurrences seen batch ↔ scope ∈ batch ∧ scope ∉ seen := by
  induction batch generalizing seen with
  | nil => simp [firstOccurrences]
  | cons first rest ih =>
      rw [firstOccurrences]
      split
      case isTrue known =>
        rw [List.contains_iff_mem] at known
        rw [ih, List.mem_cons]
        constructor
        · rintro ⟨later, unseen⟩
          exact ⟨.inr later, unseen⟩
        · rintro ⟨here | later, unseen⟩
          · exact absurd (here ▸ known) unseen
          · exact ⟨later, unseen⟩
      case isFalse new =>
        rw [List.contains_iff_mem] at new
        simp only [List.mem_cons, ih, not_or]
        constructor
        · rintro (here | ⟨later, _, unseen⟩)
          · exact ⟨.inl here, here ▸ new⟩
          · exact ⟨.inr later, unseen⟩
        · rintro ⟨here | later, unseen⟩
          · exact .inl here
          · by_cases same : scope = first
            · exact .inl same
            · exact .inr ⟨later, same, unseen⟩

theorem mem_coalesce {batch : List Invalidation} (partial_batch : Invalidation.all ∉ batch)
    (scope : Invalidation) :
    scope ∈ coalesce batch ↔ scope ∈ batch ∧ scope.absorbed batch = false := by
  rw [coalesce, if_neg (by rwa [List.contains_iff_mem]), mem_first_occurrences, List.mem_filter]
  simp

/-- A scope that leaves nothing uncovered that another one covers. -/
def Subsumes (wider scope : Invalidation) : Prop :=
  ∀ user channel, scope.covers user channel = true → wider.covers user channel = true

/-- A scope that is left out has another in the batch that covers as much and stays. -/
theorem kept_of_absorbed {batch : List Invalidation} {scope : Invalidation}
    (absorbed : scope.absorbed batch = true) :
    ∃ wider ∈ batch, wider.absorbed batch = false ∧ wider.Subsumes scope := by
  cases scope with
  | all => nomatch absorbed
  | ofChannel channel => nomatch absorbed
  | ofUser user => nomatch absorbed
  | ofEntry scopeUser scopeChannel =>
      rw [Invalidation.absorbed, Bool.or_eq_true, List.contains_iff_mem, List.contains_iff_mem]
        at absorbed
      rcases absorbed with forUser | forChannel
      · exact ⟨.ofUser scopeUser, forUser, rfl, fun _ _ covers =>
          (Bool.and_eq_true_iff.mp covers).1⟩
      · exact ⟨.ofChannel scopeChannel, forChannel, rfl, fun _ _ covers =>
          (Bool.and_eq_true_iff.mp covers).2⟩

theorem exists_wider_in_coalesce {batch : List Invalidation} {scope : Invalidation}
    (member : scope ∈ batch) : ∃ wider ∈ coalesce batch, wider.Subsumes scope := by
  by_cases whole : Invalidation.all ∈ batch
  · have everything : coalesce batch = [.all] := if_pos (List.contains_iff_mem.mpr whole)
    rw [everything]
    exact ⟨.all, List.mem_cons_self, fun _ _ _ => rfl⟩
  · cases absorbed : scope.absorbed batch with
    | false =>
        exact ⟨scope, (mem_coalesce whole scope).mpr ⟨member, absorbed⟩, fun _ _ covers => covers⟩
    | true =>
        obtain ⟨wider, present, stays, subsumes⟩ := kept_of_absorbed absorbed
        exact ⟨wider, (mem_coalesce whole wider).mpr ⟨present, stays⟩, subsumes⟩

theorem mem_of_mem_coalesce {batch : List Invalidation} {scope : Invalidation}
    (stays : scope ∈ coalesce batch) : scope ∈ batch := by
  by_cases whole : Invalidation.all ∈ batch
  · have everything : coalesce batch = [.all] := if_pos (List.contains_iff_mem.mpr whole)
    rw [everything, List.mem_singleton] at stays
    rwa [stays]
  · exact ((mem_coalesce whole scope).mp stays).1

theorem any_covers_coalesce (batch : List Invalidation) (user : UserId) (channel : ChannelId) :
    AnyCovers (coalesce batch) user channel ↔ AnyCovers batch user channel := by
  constructor
  · rintro ⟨scope, stays, covers⟩
    exact ⟨scope, mem_of_mem_coalesce stays, covers⟩
  · rintro ⟨scope, member, covers⟩
    obtain ⟨wider, stays, subsumes⟩ := exists_wider_in_coalesce member
    exact ⟨wider, stays, subsumes user channel covers⟩

theorem any_covers_append (first second : List Invalidation) (user : UserId)
    (channel : ChannelId) :
    AnyCovers (first ++ second) user channel ↔
      AnyCovers first user channel ∨ AnyCovers second user channel := by
  simp only [AnyCovers, List.mem_append, or_and_right, exists_or]

end Invalidation

end ChannelAccess
