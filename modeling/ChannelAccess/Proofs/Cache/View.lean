import ChannelAccess.Cache.Shared
import ChannelAccess.Cache.InProcess

/-!
# Queries to a cache as seen from outside

A view says which mask, if any, is found under each key. Given what a cache shows,
the right answer to every query is determined, and so is what it shows afterwards:
what the query writes is found, and what it drops is not. No backend is mentioned;
what a backend does is compared with this.
-/

namespace ChannelAccess

set_option autoImplicit false

abbrev CacheView := EntryKey → Option Mask

variable {α : Type}

def gather (found : Uuid → Option α) (ids : List Uuid) : IdMap α :=
  ids.foldr
    (fun id filed =>
      match found id with
      | some value => filed.insert id value
      | none => filed)
    ∅

theorem get_gather (found : Uuid → Option α) (ids : List Uuid) (id : Uuid) :
    (gather found ids)[id]? = if id ∈ ids then found id else none := by
  induction ids with
  | nil => simp [gather]
  | cons first rest ih =>
      simp only [gather, List.foldr_cons, List.mem_cons] at ih ⊢
      cases hit : found first with
      | none =>
          rw [ih]
          by_cases same : id = first
          · subst same
            simp [hit]
          · simp [same]
      | some value =>
          simp only [Std.ExtTreeMap.getElem?_insert, Std.compare_eq_iff_eq, ih]
          by_cases same : id = first
          · subst same
            simp [hit]
          · simp [same, eq_comm (a := first)]

/-- A map that has what is found for the identifiers asked for, and nothing else. -/
theorem eq_gather {found : Uuid → Option α} {ids : List Uuid} {filed : IdMap α}
    (answers : ∀ id, filed[id]? = if id ∈ ids then found id else none) :
    filed = gather found ids := by
  apply Std.ExtTreeMap.ext_getElem?
  intro id
  rw [answers, get_gather]

theorem gather_congr {first second : Uuid → Option α} {ids : List Uuid}
    (same : ∀ id ∈ ids, first id = second id) : gather first ids = gather second ids := by
  apply eq_gather
  intro id
  rw [get_gather]
  by_cases asked : id ∈ ids
  · rw [if_pos asked, if_pos asked, same id asked]
  · rw [if_neg asked, if_neg asked]

namespace CacheQuery

def entries : CacheQuery → List SharedCache.Entry
  | .set user channel mask => [⟨user, channel, mask⟩]
  | .setMany user masks => masks.toList.map fun entry => ⟨user, entry.1, entry.2⟩
  | .setManyUsers channel masks => masks.toList.map fun entry => ⟨entry.1, channel, entry.2⟩
  | _ => []

def dropped : CacheQuery → Option Invalidation
  | .deleteByUser user => some (.ofUser user)
  | .deleteByChannel channel => some (.ofChannel channel)
  | .deleteExact user channel => some (.ofEntry user channel)
  | .deleteAll => some .all
  | _ => none

def written : CacheQuery → EntryKey → Option Mask
  | .set user channel mask, key => if key = ⟨user, channel⟩ then some mask else none
  | .setMany user masks, key => if key.user = user then masks[key.channel]? else none
  | .setManyUsers channel masks, key => if key.channel = channel then masks[key.user]? else none
  | _, _ => none

def drops (query : CacheQuery) (key : EntryKey) : Bool :=
  query.dropped.any fun scope => scope.covers key.user key.channel

/-- What is found after a query: what it writes, and what it does not drop. -/
def effectOn (query : CacheQuery) (view : CacheView) : CacheView := fun key =>
  (query.written key).or (if query.drops key then none else view key)

def answerFrom (view : CacheView) : (query : CacheQuery) → query.Answer
  | .get user channel => view ⟨user, channel⟩
  | .set _ _ _ => ()
  | .getMany user channels => gather (fun channel => view ⟨user, channel⟩) channels
  | .setMany _ _ => ()
  | .getManyUsers channel users => gather (fun user => view ⟨user, channel⟩) users
  | .setManyUsers _ _ => ()
  | .deleteByUser _ => ()
  | .deleteByChannel _ => ()
  | .deleteExact _ _ => ()
  | .deleteAll => ()

@[simp]
theorem dropped_drop (scope : Invalidation) : (drop scope).dropped = some scope := by
  cases scope <;> rfl

theorem drops_drop (scope : Invalidation) (key : EntryKey) :
    (drop scope).drops key = scope.covers key.user key.channel := by
  simp [drops]

theorem written_drop (scope : Invalidation) (key : EntryKey) :
    (drop scope).written key = none := by
  cases scope <;> rfl

theorem written_eq_some_iff (query : CacheQuery) (key : EntryKey) (mask : Mask) :
    query.written key = some mask ↔ ⟨key.user, key.channel, mask⟩ ∈ query.entries := by
  cases query with
  | set user channel given =>
      simp only [written, entries, List.mem_singleton, SharedCache.Entry.mk.injEq,
        EntryKey.ext_iff, Option.ite_none_right_eq_some, Option.some.injEq]
      grind
  | setMany user masks =>
      simp only [written, entries, List.mem_map, SharedCache.Entry.mk.injEq, Prod.exists,
        Std.ExtTreeMap.mem_toList_iff_getElem?_eq_some, Option.ite_none_right_eq_some]
      grind
  | setManyUsers channel masks =>
      simp only [written, entries, List.mem_map, SharedCache.Entry.mk.injEq, Prod.exists,
        Std.ExtTreeMap.mem_toList_iff_getElem?_eq_some, Option.ite_none_right_eq_some]
      grind
  | _ => simp [written, entries]

theorem drops_eq_false (query : CacheQuery) (keeps : query.dropped = none) (key : EntryKey) :
    query.drops key = false := by
  simp [drops, keeps]

end CacheQuery

namespace CacheView

def put (view : CacheView) (entry : SharedCache.Entry) : CacheView := fun key =>
  if key = ⟨entry.user, entry.channel⟩ then some entry.mask else view key

theorem put_all_of_absent {entries : List SharedCache.Entry} {key : EntryKey}
    (absent : ∀ mask, ⟨key.user, key.channel, mask⟩ ∉ entries) (view : CacheView) :
    entries.foldl put view key = view key := by
  induction entries generalizing view with
  | nil => rfl
  | cons entry rest ih =>
      have other : key ≠ ⟨entry.user, entry.channel⟩ := by
        rintro rfl
        exact absent entry.mask List.mem_cons_self
      rw [List.foldl_cons, ih fun mask member => absent mask (List.mem_cons_of_mem _ member), put,
        if_neg other]

/-- Where entries for the same key agree, their order does not matter. -/
theorem put_all_of_present {entries : List SharedCache.Entry} {key : EntryKey} {mask : Mask}
    (present : ⟨key.user, key.channel, mask⟩ ∈ entries)
    (only : ∀ other, ⟨key.user, key.channel, other⟩ ∈ entries → other = mask)
    (view : CacheView) : entries.foldl put view key = some mask := by
  induction entries generalizing view with
  | nil => simp at present
  | cons entry rest ih =>
      rw [List.foldl_cons]
      by_cases later : ⟨key.user, key.channel, mask⟩ ∈ rest
      · exact ih later (fun other member => only other (List.mem_cons_of_mem _ member)) _
      · have absent : ∀ other, ⟨key.user, key.channel, other⟩ ∉ rest := by
          intro other member
          have same := only other (List.mem_cons_of_mem _ member)
          exact later (same ▸ member)
        rw [put_all_of_absent absent]
        rcases List.mem_cons.mp present with here | there
        · simp [put, ← here]
        · exact absurd there later

theorem put_written {query : CacheQuery} {order : List SharedCache.Entry}
    (arranged : order.Perm query.entries) (view : CacheView) (key : EntryKey) :
    order.foldl put view key = (query.written key).or (view key) := by
  have member (mask : Mask) :
      query.written key = some mask ↔ ⟨key.user, key.channel, mask⟩ ∈ order := by
    rw [query.written_eq_some_iff, arranged.mem_iff]
  cases given : query.written key with
  | none =>
      apply put_all_of_absent
      intro mask present
      rw [(member mask).mpr present] at given
      contradiction
  | some mask =>
      apply put_all_of_present ((member mask).mp given)
      intro other present
      rw [(member other).mpr present, Option.some.injEq] at given
      exact given

def Within (part whole : CacheView) : Prop :=
  ∀ key mask, part key = some mask → whole key = some mask

theorem within_refl (view : CacheView) : view.Within view :=
  fun _ _ found => found

theorem within_trans {first second third : CacheView} (lower : first.Within second)
    (upper : second.Within third) : first.Within third :=
  fun key mask found => upper key mask (lower key mask found)

theorem within_put {part whole : CacheView} (within : part.Within whole)
    (entry : SharedCache.Entry) : (part.put entry).Within (whole.put entry) := by
  intro key mask found
  rw [put] at found ⊢
  split
  case isTrue here => rwa [if_pos here] at found
  case isFalse elsewhere =>
    rw [if_neg elsewhere] at found
    exact within key mask found

end CacheView

namespace CacheQuery

variable {query : CacheQuery}

theorem effect_of_write {order : List SharedCache.Entry} (keeps : query.dropped = none)
    (arranged : order.Perm query.entries) (view : CacheView) :
    query.effectOn view = order.foldl CacheView.put view := by
  funext key
  rw [CacheView.put_written arranged, effectOn, query.drops_eq_false keeps,
    if_neg Bool.false_ne_true]

theorem effect_of_drop {scope : Invalidation} (drops_scope : query.dropped = some scope)
    (nothing : ∀ key, query.written key = none) (view : CacheView) (key : EntryKey) :
    query.effectOn view key = if scope.covers key.user key.channel then none else view key := by
  rw [effectOn, nothing, Option.none_or, drops, drops_scope, Option.any_some]

theorem effect_of_read (keeps : query.dropped = none) (nothing : ∀ key, query.written key = none)
    (view : CacheView) : query.effectOn view = view := by
  funext key
  rw [effectOn, nothing, query.drops_eq_false keeps, Option.none_or, if_neg Bool.false_ne_true]

end CacheQuery

end ChannelAccess
