import ChannelAccess.Proofs.Cache.Holdings

/-!
# Commands on the keys of a scope

What each command of a script does to the holdings of a scope. Commands follow one
another by `performs_bind`; the ones without an answer do so by `does_then`.
-/

namespace ChannelAccess

set_option autoImplicit false

open Holdings

/-- On any server that depicts the holdings a script is not refused, and it leaves a server that
depicts holdings for which the condition holds, together with the script's answer. -/
def Performs {α : Type} (names : KeyNames) (script : KeyspaceScript α) (held : Holdings)
    (post : α → Holdings → Prop) : Prop :=
  ∀ space, Depicts names space held →
    ∃ answer after next, script.run.run space = (.ok answer, after) ∧
      Depicts names after next ∧ post answer next

def Does (names : KeyNames) (script : KeyspaceScript Unit) (held next : Holdings) : Prop :=
  Performs names script held fun _ after => after = next

variable {α β : Type} {names : KeyNames} {held mid next : Holdings}

theorem run_script_bind (first : KeyspaceScript α) (rest : α → KeyspaceScript β)
    (space after : Keyspace) (answer : α) (ran : first.run.run space = (.ok answer, after)) :
    (first >>= rest).run.run space = (rest answer).run.run after := by
  have opened : (first >>= rest).run.run space =
      (first.run >>= ExceptT.bindCont rest).run space := rfl
  rw [opened, StateT.run_bind, ran]
  rfl

theorem performs_bind {first : KeyspaceScript α} {rest : α → KeyspaceScript β}
    {between : α → Holdings → Prop} {post : β → Holdings → Prop}
    (start : Performs names first held between)
    (further : ∀ answer next, between answer next → Performs names (rest answer) next post) :
    Performs names (first >>= rest) held post := by
  intro space depicts
  obtain ⟨answer, after, mid, ran, depictsMid, holds⟩ := start space depicts
  obtain ⟨result, final, next, ranRest, depictsNext, holdsNext⟩ :=
    further answer mid holds after depictsMid
  refine ⟨result, final, next, ?_, depictsNext, holdsNext⟩
  rw [run_script_bind first rest space after answer ran, ranRest]

theorem does_then {first rest : KeyspaceScript Unit} (start : Does names first held mid)
    (further : Does names rest mid next) : Does names (first >>= fun _ => rest) held next := by
  apply performs_bind start
  rintro _ _ rfl
  exact further

theorem performs_pure {answer : α} {post : α → Holdings → Prop} (holds : post answer held) :
    Performs names (pure answer) held post :=
  fun space depicts => ⟨answer, space, held, rfl, depicts, holds⟩

theorem does_nothing : Does names (pure ()) held held :=
  performs_pure rfl

theorem does_modify {change : Keyspace → Keyspace}
    (changes : ∀ space, Depicts names space held → Depicts names (change space) next) :
    Does names (modify change) held next :=
  fun space depicts => ⟨(), change space, next, rfl, changes space depicts, rfl⟩

theorem performs_time :
    Performs names KeyspaceScript.time held fun now after => now = held.seconds ∧ after = held :=
  fun space depicts =>
    ⟨space.seconds, space, held, rfl, depicts, seconds_of_depicts depicts, rfl⟩

theorem performs_members_bind {name : IndexName}
    {rest : Std.ExtTreeMap String Int × Option Nat → KeyspaceScript α}
    {post : α → Holdings → Prop}
    (further : Performs names
      (rest (Roster.texts (held.index name).scores, (held.index name).expiry)) held post) :
    Performs names (KeyspaceScript.members (names.indexKey name) >>= rest) held post := by
  intro space depicts
  have ran : (KeyspaceScript.members (names.indexKey name)).run.run space =
      (.ok (Roster.texts (held.index name).scores, (held.index name).expiry), space) := by
    change (MonadExcept.ofExcept (space.membersAt (names.indexKey name)) :
      KeyspaceScript (Std.ExtTreeMap String Int × Option Nat)).run.run space = _
    rw [members_at_index depicts name]
    rfl
  rw [run_script_bind _ rest space space _ ran]
  exact further space depicts

theorem does_set (key : EntryKey) (mask : Mask) (seconds : Nat) :
    Does names
      (KeyspaceScript.set (names.entryKey key) (SharedCache.maskText mask) seconds) held
      (held.setEntry key (some ⟨mask, held.clock + seconds * Keyspace.second⟩)) := by
  apply does_modify
  intro space depicts
  have written := depicts_put_entry depicts key
    ⟨mask, held.clock + seconds * Keyspace.second⟩
  rw [entrySlot, ← depicts.clock] at written
  rw [← depicts.clock]
  exact written

theorem does_delete_entry (key : EntryKey) :
    Does names (KeyspaceScript.delete (names.entryKey key)) held (held.setEntry key none) :=
  does_modify fun _ depicts => depicts_erase_entry depicts key

theorem does_delete_index (name : IndexName) :
    Does names (KeyspaceScript.delete (names.indexKey name)) held
      (held.setIndex name .blank) :=
  does_modify fun _ depicts => depicts_erase_index depicts name

theorem does_store_members (name : IndexName) (scores : IdMap Int) (expiry : Option Nat) :
    Does names
      (KeyspaceScript.storeMembers (names.indexKey name) (Roster.texts scores) expiry) held
      (held.setIndex name (.ofScores scores expiry)) :=
  does_modify fun _ depicts => depicts_put_index depicts name scores expiry

theorem does_add_member (name : IndexName) (id : Uuid) (score : Int) :
    Does names (KeyspaceScript.addMember (names.indexKey name) id.text score) held
      (held.setIndex name ((held.index name).add id score)) := by
  apply performs_members_bind
  dsimp only
  rw [Roster.texts_insert]
  exact does_store_members name _ _

theorem does_remove_member (name : IndexName) (id : Uuid) :
    Does names (KeyspaceScript.removeMember (names.indexKey name) id.text) held
      (held.setIndex name ((held.index name).remove id)) := by
  apply performs_members_bind
  dsimp only
  rw [Roster.texts_erase, ← Roster.scores_remove]
  exact does_store_members name _ _

theorem does_remove_up_to (name : IndexName) (bound : Int) :
    Does names (KeyspaceScript.removeUpTo (names.indexKey name) bound) held
      (held.setIndex name ((held.index name).prune bound)) := by
  apply performs_members_bind
  dsimp only
  rw [Roster.texts_filter _ fun score => decide (bound < score)]
  exact does_store_members name _ _

theorem does_expire (name : IndexName) (seconds : Nat) :
    Does names (KeyspaceScript.expire (names.indexKey name) seconds) held
      (held.setIndex name
        ((held.index name).keepUntil (held.clock + seconds * Keyspace.second))) := by
  apply does_modify
  intro space depicts
  have kept := depicts_put_index depicts name (held.index name).scores
    (some (held.clock + seconds * Keyspace.second))
  rw [depicts.index name, Roster.slot?]
  by_cases empty : (held.index name).scores = ∅
  · have same : (held.index name).keepUntil (held.clock + seconds * Keyspace.second) =
        held.index name := by
      apply Roster.ext
      · rfl
      · rw [Roster.keepUntil, Roster.expiry_of_scores, (held.index name).expiry_of_empty empty]
        simp [empty]
    simp only [same, empty, setIndex, Function.update_eq_self]
    exact depicts
  · have some_member : (held.index name).scores.isEmpty = false := by simpa using empty
    simp only [some_member, depicts.clock]
    exact kept

theorem performs_count (name : IndexName) :
    Performs names (KeyspaceScript.count (names.indexKey name)) held fun number after =>
      (number = 0 ↔ (held.index name).scores.isEmpty = true) ∧ after = held := by
  apply performs_members_bind
  apply performs_pure
  refine ⟨?_, rfl⟩
  rw [← Roster.texts_is_empty, Std.ExtTreeMap.isEmpty_iff,
    Std.ExtTreeMap.eq_empty_iff_size_eq_zero]

theorem exists_ids_of_texts (found : List String)
    (texts : ∀ text ∈ found, ∃ id : Uuid, id.text = text) :
    ∃ ids : List Uuid, found = ids.map Uuid.text := by
  induction found with
  | nil => exact ⟨[], rfl⟩
  | cons text rest ih =>
      obtain ⟨id, rfl⟩ := texts text (by simp)
      obtain ⟨ids, rfl⟩ := ih fun text member => texts text (by simp [member])
      exact ⟨id :: ids, rfl⟩

/-- The members of an index are listed in the order of their scores; only who is listed matters
here. -/
theorem performs_range (name : IndexName) :
    Performs names (KeyspaceScript.range (names.indexKey name)) held fun found after =>
      (∃ ids : List Uuid, found = ids.map Uuid.text ∧
        ∀ id, id ∈ ids ↔ (held.index name).Lists id) ∧ after = held := by
  apply performs_members_bind
  apply performs_pure
  refine ⟨?_, rfl⟩
  have listed (text : String) :
      text ∈ ((Roster.texts (held.index name).scores).toList.mergeSort
          fun first second => first.2 ≤ second.2).map (·.1) ↔
        ∃ id ∈ (held.index name).scores, Uuid.text id = text := by
    rw [← Roster.mem_texts, ← Std.ExtTreeMap.mem_keys, ← Std.ExtTreeMap.map_fst_toList_eq_keys]
    simp only [List.mem_map, List.mem_mergeSort]
  obtain ⟨ids, same⟩ := exists_ids_of_texts _ fun text member => by
    obtain ⟨id, _, same⟩ := (listed text).mp member
    exact ⟨id, same⟩
  refine ⟨ids, same, ?_⟩
  intro id
  have here := listed id.text
  rw [same, List.mem_map] at here
  simpa [Roster.Lists] using here

end ChannelAccess
