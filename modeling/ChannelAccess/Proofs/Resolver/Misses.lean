import Mathlib.Data.List.Basic
import ChannelAccess.Resolver
import ChannelAccess.Proofs.Cache.View

/-!
# Batches by identifier

What the filters do with lists and maps of identifiers: which identifiers are computed
anew, how rows are handed out to them, and how the results are put together. An
identifier is computed at most once, which is what lets its rows be taken out of the
map that holds them.
-/

namespace ChannelAccess

set_option autoImplicit false

variable {α β : Type}

theorem mem_misses_after (hits : IdMap α) (seen ids : List Uuid) (id : Uuid) :
    id ∈ missesAfter hits seen ids ↔ id ∈ ids ∧ hits[id]? = none ∧ id ∉ seen := by
  induction ids generalizing seen with
  | nil => simp [missesAfter]
  | cons first rest ih =>
      have contains : hits.contains first = true ↔ hits[first]? ≠ none := by
        rw [Std.ExtTreeMap.contains_eq_isSome_getElem?, Option.isSome_iff_ne_none]
      rw [missesAfter]
      split
      -- A head that is known drops out; it is not missed if it comes again.
      case isTrue known =>
        rw [Bool.or_eq_true, contains, List.contains_iff_mem] at known
        rw [ih, List.mem_cons]
        constructor
        · rintro ⟨later, rest⟩
          exact ⟨.inr later, rest⟩
        · rintro ⟨here | later, missed, unseen⟩
          · subst here
            rcases known with hit | before
            · exact absurd missed hit
            · exact absurd before unseen
          · exact ⟨later, missed, unseen⟩
      case isFalse unknown =>
        rw [Bool.or_eq_true, contains, List.contains_iff_mem, not_or, ne_eq,
          Decidable.not_not] at unknown
        obtain ⟨missed, unseen⟩ := unknown
        simp only [List.mem_cons, ih, not_or]
        constructor
        · rintro (here | ⟨later, missedLater, _, unseenLater⟩)
          · subst here
            exact ⟨.inl rfl, missed, unseen⟩
          · exact ⟨.inr later, missedLater, unseenLater⟩
        · rintro ⟨here | later, missedLater, unseenLater⟩
          · exact .inl here
          · by_cases same : id = first
            · exact .inl same
            · exact .inr ⟨later, missedLater, same, unseenLater⟩

theorem nodup_misses_after (hits : IdMap α) (seen ids : List Uuid) :
    (missesAfter hits seen ids).Nodup := by
  induction ids generalizing seen with
  | nil => exact List.nodup_nil
  | cons first rest ih =>
      rw [missesAfter]
      split
      · exact ih seen
      · rw [List.nodup_cons]
        refine ⟨?_, ih (first :: seen)⟩
        intro again
        exact ((mem_misses_after hits _ rest first).mp again).2.2 List.mem_cons_self

theorem misses_after_in_order (hits : IdMap α) (seen ids : List Uuid) :
    (missesAfter hits seen ids).Pairwise fun first second =>
      ids.idxOf first < ids.idxOf second := by
  induction ids generalizing seen with
  | nil => exact .nil
  | cons head rest ih =>
      -- The head is not missed later on, so all that is moves on by one place.
      have shifted {known : List Uuid} (past : head ∉ missesAfter hits known rest) :
          (missesAfter hits known rest).Pairwise fun first second =>
            (head :: rest).idxOf first < (head :: rest).idxOf second := by
        refine List.Pairwise.imp_of_mem ?_ (ih known)
        intro first second firstMember secondMember before
        have firstLater : head ≠ first := fun same => past (same ▸ firstMember)
        have secondLater : head ≠ second := fun same => past (same ▸ secondMember)
        rw [List.idxOf_cons_ne _ firstLater, List.idxOf_cons_ne _ secondLater]
        exact Nat.succ_lt_succ before
      rw [missesAfter]
      split
      case isTrue known =>
        apply shifted
        intro missed
        obtain ⟨_, absent, unseen⟩ := (mem_misses_after hits seen rest head).mp missed
        rw [Bool.or_eq_true, List.contains_iff_mem, Std.ExtTreeMap.contains_eq_isSome_getElem?,
          absent] at known
        exact known.elim nofun unseen
      case isFalse =>
        have past : head ∉ missesAfter hits (head :: seen) rest := fun missed =>
          ((mem_misses_after hits _ rest head).mp missed).2.2 List.mem_cons_self
        refine List.pairwise_cons.mpr ⟨?_, shifted past⟩
        intro later member
        have apart : head ≠ later := fun same => past (same ▸ member)
        rw [List.idxOf_cons_self, List.idxOf_cons_ne _ apart]
        exact Nat.succ_pos _

theorem mem_unique_misses (hits : IdMap α) (ids : List Uuid) (id : Uuid) :
    id ∈ uniqueMisses hits ids ↔ id ∈ ids ∧ hits[id]? = none := by
  simp [uniqueMisses, mem_misses_after]

theorem nodup_unique_misses (hits : IdMap α) (ids : List Uuid) : (uniqueMisses hits ids).Nodup :=
  nodup_misses_after hits [] ids

theorem draw_each_eq (compute : Uuid → List α → β) {ids : List Uuid} (distinct : ids.Nodup)
    (filed : IdMap (List α)) :
    drawEach compute ids filed = ids.map fun id => (id, compute id (filed[id]?.getD [])) := by
  induction ids generalizing filed with
  | nil => rfl
  | cons first rest ih =>
      obtain ⟨new, distinctRest⟩ := List.nodup_cons.mp distinct
      rw [drawEach, ih distinctRest, List.map_cons]
      congr 1
      apply List.map_congr_left
      intro id later
      have other : first ≠ id := fun same => new (same ▸ later)
      rw [Std.ExtTreeMap.getElem?_erase, if_neg (by simpa using other)]

/-- Entries that agree with a function, put into a map one after the other. -/
theorem get_foldl_insert (value : Uuid → Option α) {entries : List (Uuid × α)}
    (agree : ∀ entry ∈ entries, value entry.1 = some entry.2) (base : IdMap α) (id : Uuid) :
    (entries.foldl (fun filed entry => filed.insert entry.1 entry.2) base)[id]? =
      if id ∈ entries.map Prod.fst then value id else base[id]? := by
  induction entries generalizing base with
  | nil => simp
  | cons first rest ih =>
      rw [List.foldl_cons, ih fun entry later => agree entry (List.mem_cons_of_mem _ later)]
      have here := agree first List.mem_cons_self
      simp only [List.map_cons, List.mem_cons, Std.ExtTreeMap.getElem?_insert,
        Std.compare_eq_iff_eq]
      by_cases later : id ∈ rest.map Prod.fst
      · simp [later]
      · by_cases same : id = first.1
        · subst same
          simp [later, here]
        · simp [later, same, eq_comm (a := first.1)]

theorem of_entries_map (value : Uuid → α) (ids : List Uuid) :
    IdMap.ofEntries (ids.map fun id => (id, value id)) =
      gather (fun id => some (value id)) ids := by
  apply eq_gather
  intro id
  rw [IdMap.ofEntries, get_foldl_insert fun id => some (value id)]
  · simp
  · intro entry member
    obtain ⟨id, _, rfl⟩ := List.mem_map.mp member
    rfl

theorem get_overlay (base top : IdMap α) (id : Uuid) :
    (base.overlay top)[id]? = top[id]?.or base[id]? := by
  rw [IdMap.overlay, get_foldl_insert fun id => top[id]?]
  · simp only [Std.ExtTreeMap.map_fst_toList_eq_keys, Std.ExtTreeMap.mem_keys,
      Std.ExtTreeMap.mem_iff_isSome_getElem?]
    cases top[id]? <;> simp
  · intro entry member
    exact Std.ExtTreeMap.mem_toList_iff_getElem?_eq_some.mp member

/-! Hits and what is computed for the rest. -/

namespace Resolver

theorem get_resolved (hits : IdMap Mask) (computed : Uuid → Option Mask) {ids : List Uuid}
    {id : Uuid} (asked : id ∈ ids) :
    (hits.overlay (gather computed (uniqueMisses hits ids)))[id]? = hits[id]?.or (computed id) := by
  rw [get_overlay, get_gather]
  cases known : hits[id]? with
  | none =>
      rw [if_pos ((mem_unique_misses _ _ _).mpr ⟨asked, known⟩)]
      simp
  | some mask =>
      rw [if_neg fun missed => by
        rw [((mem_unique_misses _ _ _).mp missed).2] at known
        contradiction]
      simp

theorem no_misses_iff (hits : IdMap Mask) (ids : List Uuid) :
    (uniqueMisses hits ids).isEmpty = true ↔ ¬∃ id ∈ ids, hits[id]? = none := by
  rw [List.isEmpty_iff, List.eq_nil_iff_forall_not_mem]
  simp only [mem_unique_misses, not_and, not_exists]

theorem get_hits {hits : IdMap Mask} (computed : Uuid → Option Mask) {ids : List Uuid}
    (known : ¬∃ id ∈ ids, hits[id]? = none) {id : Uuid} (asked : id ∈ ids) :
    hits[id]? = hits[id]?.or (computed id) := by
  obtain ⟨mask, same⟩ := Option.ne_none_iff_exists'.mp fun missing => known ⟨id, asked, missing⟩
  rw [same, Option.some_or]

theorem judged_of_resolved {ids : List Uuid} {permission : Mask} {resolved : IdMap Mask}
    {mask : Uuid → Option Mask} (gets : ∀ id ∈ ids, resolved[id]? = mask id) :
    (ids.map fun id =>
      match resolved[id]? with
      | some mask => mask.grants permission
      | none => false) =
      ids.map fun id => (mask id).any fun mask => mask.grants permission := by
  apply List.map_congr_left
  intro id asked
  rw [gets id asked]
  cases mask id <;> rfl

end Resolver

end ChannelAccess
