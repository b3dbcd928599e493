import Mathlib.Data.List.Nodup
import ChannelAccess.Proofs.Plan.Transcript
import ChannelAccess.Proofs.Resolver.Misses

/-!
# Rows taken out for computations

A batch is computed from rows that the store filed under identifiers, and the rows of an identifier
are taken out of their map when it comes to its turn. An identifier that came twice would find
nothing the second time, and what is computed from nothing would replace what was computed from its
rows. What is missing names every identifier once, so each of them is looked up once, finds all rows
that were fetched for it, and gets what is computed from these.
-/

namespace ChannelAccess

set_option autoImplicit false

variable {α β : Type}

def taken (ids : List Uuid) (filed : IdMap (List α)) : List (Uuid × List α) :=
  drawEach (fun _ rows => rows) ids filed

theorem draw_each_eq_map_taken (compute : Uuid → List α → β) (ids : List Uuid)
    (filed : IdMap (List α)) :
    drawEach compute ids filed =
      (taken ids filed).map fun lookup => (lookup.1, compute lookup.1 lookup.2) := by
  induction ids generalizing filed with
  | nil => rfl
  | cons first rest ih => exact congrArg (List.cons _) (ih (filed.erase first))

theorem taken_eq_of_distinct {ids : List Uuid} (distinct : ids.Nodup) (filed : IdMap (List α)) :
    taken ids filed = ids.map fun id => (id, filed[id]?.getD []) :=
  draw_each_eq _ distinct filed

/-- Drawn values put into a map one after the other. Where an identifier comes again its rows are
gone, so only one that comes once keeps what was computed from them. -/
theorem get_foldl_insert_draw_each (compute : Uuid → List α → β) (ids : List Uuid)
    (filed : IdMap (List α)) (base : IdMap β) (id : Uuid) :
    ((drawEach compute ids filed).foldl
      (fun collected entry => collected.insert entry.1 entry.2) base)[id]? =
      if id ∈ ids then
        some (compute id (if ids.count id = 1 then filed[id]?.getD [] else []))
      else base[id]? := by
  induction ids generalizing filed base with
  | nil => rfl
  | cons first rest ih =>
      rw [drawEach, List.foldl_cons, ih, List.count_cons]
      simp only [List.mem_cons, Std.ExtTreeMap.getElem?_erase, Std.ExtTreeMap.getElem?_insert,
        Std.compare_eq_iff_eq]
      by_cases later : id ∈ rest
      · have counted : rest.count id ≠ 0 := Nat.ne_of_gt (List.count_pos_iff.mpr later)
        by_cases same : first = id
        · subst same
          simp [later, counted]
        · simp [later, same]
      · have uncounted : rest.count id = 0 := List.count_eq_zero.mpr later
        by_cases same : first = id
        · subst same
          simp [later, uncounted]
        · simp [later, same, eq_comm (a := id)]

theorem get_of_entries_draw_each (compute : Uuid → List α → β) (ids : List Uuid)
    (filed : IdMap (List α)) (id : Uuid) :
    (IdMap.ofEntries (drawEach compute ids filed))[id]? =
      if id ∈ ids then
        some (compute id (if ids.count id = 1 then filed[id]?.getD [] else []))
      else none := by
  rw [IdMap.ofEntries, get_foldl_insert_draw_each, Std.ExtTreeMap.getElem?_empty]

example : (IdMap.ofEntries (drawEach (fun _ rows => rows.length) [Uuid.ofNat 7, Uuid.ofNat 7]
    (IdMap.ofEntries [(Uuid.ofNat 7, ["first", "second"])])))[Uuid.ofNat 7]? = some 0 := by
  decide +kernel

/-- A map is collected from the rows of some identifiers. Each identifier is looked up once and
finds all of its rows, and it is filed under what is computed from them. -/
structure CollectedInFull (compute : Uuid → List α → β) (ids : List Uuid) (filed : IdMap (List α))
    (collected : IdMap β) : Prop where
  once : ((taken ids filed).map Prod.fst).Nodup
  full : ∀ lookup ∈ taken ids filed, lookup.2 = filed[lookup.1]?.getD []
  collects : collected = IdMap.ofEntries
    ((taken ids filed).map fun lookup => (lookup.1, compute lookup.1 lookup.2))
  values : ∀ id, collected[id]? =
    if id ∈ ids then some (compute id (filed[id]?.getD [])) else none

theorem collected_in_full_iff (compute : Uuid → List α → β) {ids : List Uuid}
    (distinct : ids.Nodup) (filed : IdMap (List α)) (collected : IdMap β) :
    CollectedInFull compute ids filed collected ↔
      collected = IdMap.ofEntries (drawEach compute ids filed) := by
  constructor
  · intro collects
    rw [draw_each_eq_map_taken]
    exact collects.collects
  · rintro rfl
    refine ⟨?_, ?_, ?_, ?_⟩
    · rw [taken_eq_of_distinct distinct, List.map_map]
      simpa [Function.comp_def] using distinct
    · rw [taken_eq_of_distinct distinct]
      intro lookup member
      obtain ⟨id, _, rfl⟩ := List.mem_map.mp member
      rfl
    · rw [draw_each_eq_map_taken]
    · intro id
      rw [get_of_entries_draw_each]
      by_cases asked : id ∈ ids
      · rw [if_pos asked, if_pos asked, if_pos (List.count_eq_one_of_mem distinct asked)]
      · rw [if_neg asked, if_neg asked]

namespace Resolver

/-- How masks of a user in some channels come about. If none of the channels exists or the user is
the owner, nobody's rows are looked at. -/
inductive ComputesChannels (user : UserId) (channels : List ChannelId) :
    List Asked → IdMap Mask → Prop where
  | unread (known : IdMap Channel) (owns : Bool) (computed : IdMap Mask)
      (settled : channels.filter known.contains = [] ∨ owns = true)
      (masks : ∀ id, computed[id]? =
        if id ∈ channels.filter known.contains then some .all else none) :
      ComputesChannels user channels
        [⟨.store (.channelMany channels), .ok known⟩, ⟨.store (.isOwner user), .ok owns⟩] computed
  | drawn (known : IdMap Channel) (grants : List RoleGrant) (overrides : IdMap (List Override))
      (computed : IdMap Mask) (existing : channels.filter known.contains ≠ [])
      (collected : CollectedInFull (fun _ rows => effectivePermissions user false grants rows)
        (channels.filter known.contains) overrides computed) :
      ComputesChannels user channels
        [⟨.store (.channelMany channels), .ok known⟩, ⟨.store (.isOwner user), .ok false⟩,
          ⟨.store (.grants user), .ok grants⟩,
          ⟨.store (.overridesMany (channels.filter known.contains)), .ok overrides⟩] computed

inductive ComputesUsers (users : List UserId) (channel : ChannelId) :
    List Asked → IdMap Mask → Prop where
  | drawn (found : Channel) (overrides : List Override) (owner : Option UserId)
      (grants : IdMap (List RoleGrant)) (computed : IdMap Mask)
      (collected : CollectedInFull
        (fun user rows => effectivePermissions user (owner == some user) rows overrides)
        users grants computed) :
      ComputesUsers users channel
        [⟨.store (.channel channel), .ok found⟩, ⟨.store (.overrides channel), .ok overrides⟩,
          ⟨.store .owner, .ok owner⟩, ⟨.store (.grantsMany users), .ok grants⟩] computed

variable {asked : List Asked} {computed : IdMap Mask}

theorem eq_of_entries_const_iff (ids : List Uuid) (mask : Mask) (filed : IdMap Mask) :
    filed = IdMap.ofEntries (ids.map fun id => (id, mask)) ↔
      ∀ id, filed[id]? = if id ∈ ids then some mask else none := by
  rw [of_entries_map fun _ => mask]
  constructor
  · rintro rfl
    exact get_gather _ ids
  · exact eq_gather

theorem compute_channels_course_iff {user : UserId} {channels : List ChannelId}
    (distinct : channels.Nodup) :
    (computeChannels user channels).run.Course asked (.ok computed) ↔
      ComputesChannels user channels asked computed := by
  constructor
  · intro course
    obtain ⟨known, _, rfl, owning⟩ := Attempt.course_store_bind_ok_iff.mp course
    obtain ⟨owns, _, rfl, settling⟩ := Attempt.course_store_bind_ok_iff.mp owning
    dsimp only at settling
    -- Nobody's rows are fetched where no channel exists, nor for the owner.
    split at settling
    case isTrue nothing =>
      obtain ⟨rfl, same⟩ := Attempt.course_pure_iff.mp settling
      have empty := List.isEmpty_iff.mp nothing
      refine .unread known owns computed (.inl empty) ((eq_of_entries_const_iff _ _ _).mp ?_)
      rw [empty]
      exact Except.ok.inj same
    case isFalse existing =>
      have existing := mt List.isEmpty_iff.mpr existing
      split at settling
      case isTrue owned =>
        obtain ⟨rfl, same⟩ := Attempt.course_pure_iff.mp settling
        exact .unread known owns computed (.inr owned)
          ((eq_of_entries_const_iff _ _ _).mp (Except.ok.inj same))
      case isFalse other =>
        obtain ⟨grants, _, rfl, drawing⟩ := Attempt.course_store_bind_ok_iff.mp settling
        obtain ⟨overrides, _, rfl, ending⟩ := Attempt.course_store_bind_ok_iff.mp drawing
        obtain ⟨rfl, same⟩ := Attempt.course_pure_iff.mp ending
        obtain rfl := Bool.eq_false_iff.mpr other
        exact .drawn known grants overrides computed existing
          ((collected_in_full_iff _ (distinct.filter _) overrides computed).mpr
            (Except.ok.inj same))
  · intro computes
    cases computes with
    | unread known owns _ settled masks =>
        have same := (eq_of_entries_const_iff _ _ _).mpr masks
        refine Attempt.course_store_bind_ok_iff.mpr ⟨known, _, rfl, ?_⟩
        refine Attempt.course_store_bind_ok_iff.mpr ⟨owns, _, rfl, ?_⟩
        dsimp only
        by_cases empty : channels.filter known.contains = []
        · rw [empty] at same
          rw [if_pos (List.isEmpty_iff.mpr empty)]
          exact Attempt.course_pure_iff.mpr ⟨rfl, congrArg Except.ok same⟩
        · rw [if_neg (mt List.isEmpty_iff.mp empty), if_pos (settled.resolve_left empty)]
          exact Attempt.course_pure_iff.mpr ⟨rfl, congrArg Except.ok same⟩
    | drawn known grants overrides _ existing collected =>
        have same := (collected_in_full_iff _ (distinct.filter _) overrides computed).mp collected
        refine Attempt.course_store_bind_ok_iff.mpr ⟨known, _, rfl, ?_⟩
        refine Attempt.course_store_bind_ok_iff.mpr ⟨false, _, rfl, ?_⟩
        dsimp only
        rw [if_neg (mt List.isEmpty_iff.mp existing), if_neg Bool.false_ne_true]
        refine Attempt.course_store_bind_ok_iff.mpr ⟨grants, _, rfl, ?_⟩
        refine Attempt.course_store_bind_ok_iff.mpr ⟨overrides, _, rfl, ?_⟩
        exact Attempt.course_pure_iff.mpr ⟨rfl, congrArg Except.ok same⟩

theorem compute_users_course_iff {users : List UserId} {channel : ChannelId}
    (distinct : users.Nodup) :
    (computeUsers users channel).run.Course asked (.ok computed) ↔
      ComputesUsers users channel asked computed := by
  constructor
  · intro course
    obtain ⟨found, _, rfl, layering⟩ := Attempt.course_store_bind_ok_iff.mp course
    obtain ⟨overrides, _, rfl, owning⟩ := Attempt.course_store_bind_ok_iff.mp layering
    obtain ⟨owner, _, rfl, granting⟩ := Attempt.course_store_bind_ok_iff.mp owning
    obtain ⟨grants, _, rfl, ending⟩ := Attempt.course_store_bind_ok_iff.mp granting
    obtain ⟨rfl, same⟩ := Attempt.course_pure_iff.mp ending
    exact .drawn found overrides owner grants computed
      ((collected_in_full_iff _ distinct grants computed).mpr (Except.ok.inj same))
  · rintro ⟨found, overrides, owner, grants, _, collected⟩
    have same := (collected_in_full_iff _ distinct grants computed).mp collected
    refine Attempt.course_store_bind_ok_iff.mpr ⟨found, _, rfl, ?_⟩
    refine Attempt.course_store_bind_ok_iff.mpr ⟨overrides, _, rfl, ?_⟩
    refine Attempt.course_store_bind_ok_iff.mpr ⟨owner, _, rfl, ?_⟩
    refine Attempt.course_store_bind_ok_iff.mpr ⟨grants, _, rfl, ?_⟩
    exact Attempt.course_pure_iff.mpr ⟨rfl, congrArg Except.ok same⟩

end Resolver

/-- What is missing names each identifier of a list that is no key of a map once, in the order of
first occurrence. Whatever the store replies, masks are computed from it with at most one lookup for
each identifier, and each mask is computed from all rows that were fetched for its identifier. -/
theorem misses_computed_once_from_all_rows {α : Type} (hits : IdMap α) (ids : List Uuid) :
    let misses := uniqueMisses hits ids
    misses.Nodup ∧ (∀ id, id ∈ misses ↔ id ∈ ids ∧ id ∉ hits) ∧
      misses.Pairwise (fun first second => ids.idxOf first < ids.idxOf second) ∧
      (∀ (user : UserId) (asked : List Asked) (computed : IdMap Mask),
        (Resolver.computeChannels user misses).run.Course asked (.ok computed) ↔
          Resolver.ComputesChannels user misses asked computed) ∧
      ∀ (channel : ChannelId) (asked : List Asked) (computed : IdMap Mask),
        (Resolver.computeUsers misses channel).run.Course asked (.ok computed) ↔
          Resolver.ComputesUsers misses channel asked computed := by
  intro misses
  have distinct : misses.Nodup := nodup_unique_misses hits ids
  refine ⟨distinct, fun id => ?_, misses_after_in_order hits [] ids, fun _ _ _ => ?_,
    fun _ _ _ => ?_⟩
  · rw [mem_unique_misses, Std.ExtTreeMap.mem_iff_isSome_getElem?, Option.not_isSome_iff_eq_none]
  · exact Resolver.compute_channels_course_iff distinct
  · exact Resolver.compute_users_course_iff distinct

end ChannelAccess
