import ChannelAccess.Cache.Keyspace
import ChannelAccess.Proofs.Identifier

/-!
# Rosters

An index key of the shared cache holds the texts of identifiers. A roster is
the same index with the identifiers themselves: who is on it, with which score,
and when its key is over. Roster operations are given by what a look-up finds
afterwards; each of them is matched by one on the stored texts.
-/

namespace ChannelAccess

set_option autoImplicit false

/-- The members of an index, their scores, and when the index is over. An index without members does
not exist and has no expiry. -/
@[ext]
structure Roster where
  scores : IdMap Int
  /-- When the index is over, if ever. -/
  expiry : Option Nat
  expiry_of_empty : scores = ∅ → expiry = none := by simp

namespace Roster

def blank : Roster where
  scores := ∅
  expiry := none

/-- The index of some members, which has an expiry only if there are any. -/
def ofScores (scores : IdMap Int) (expiry : Option Nat) : Roster where
  scores := scores
  expiry := if scores.isEmpty then none else expiry
  expiry_of_empty := by
    intro empty
    simp [empty]

def Lists (roster : Roster) (id : Uuid) : Prop :=
  id ∈ roster.scores

def add (roster : Roster) (id : Uuid) (score : Int) : Roster :=
  ofScores (roster.scores.insert id score) roster.expiry

def select (roster : Roster) (stays : Uuid → Int → Bool) : Roster :=
  ofScores (roster.scores.filter stays) roster.expiry

def remove (roster : Roster) (id : Uuid) : Roster :=
  roster.select fun other _ => other != id

def prune (roster : Roster) (bound : Int) : Roster :=
  roster.select fun _ score => bound < score

def keepUntil (roster : Roster) (expiry : Nat) : Roster :=
  ofScores roster.scores (some expiry)

def atTime (roster : Roster) (clock : Nat) : Roster :=
  match roster.expiry with
  | none => roster
  | some expiry => if clock < expiry then roster else blank

def texts (scores : IdMap Int) : Std.ExtTreeMap String Int :=
  .ofList (scores.toList.map fun member => (member.1.text, member.2))

def slot? (roster : Roster) : Option Slot :=
  if roster.scores.isEmpty then none else some ⟨.members (texts roster.scores), roster.expiry⟩

@[simp]
theorem scores_of_scores (scores : IdMap Int) (expiry : Option Nat) :
    (ofScores scores expiry).scores = scores := rfl

theorem expiry_of_scores (scores : IdMap Int) (expiry : Option Nat) :
    (ofScores scores expiry).expiry = if scores.isEmpty then none else expiry := rfl

theorem expiry_of_scores_eq_some {scores : IdMap Int} {expiry : Option Nat} {time : Nat}
    (ends : (ofScores scores expiry).expiry = some time) : expiry = some time := by
  rw [expiry_of_scores] at ends
  split at ends
  · contradiction
  · exact ends

@[simp]
theorem of_scores_self (roster : Roster) : ofScores roster.scores roster.expiry = roster := by
  apply Roster.ext
  · rfl
  · rw [expiry_of_scores]
    split
    case isTrue empty => exact (roster.expiry_of_empty (by simpa using empty)).symm
    case isFalse => rfl

theorem score_add (roster : Roster) (id other : Uuid) (score : Int) :
    (roster.add id score).scores[other]? =
      if other = id then some score else roster.scores[other]? := by
  simp only [add, scores_of_scores, Std.ExtTreeMap.getElem?_insert, Std.compare_eq_iff_eq]
  grind

theorem score_select (roster : Roster) (stays : Uuid → Int → Bool) (other : Uuid) :
    (roster.select stays).scores[other]? = (roster.scores[other]?).filter (stays other) :=
  Std.ExtTreeMap.getElem?_filter'

theorem score_remove (roster : Roster) (id other : Uuid) :
    (roster.remove id).scores[other]? = if other = id then none else roster.scores[other]? := by
  rw [remove, score_select]
  cases roster.scores[other]? with
  | none => simp
  | some score => by_cases same : other = id <;> simp [same]

theorem scores_remove (roster : Roster) (id : Uuid) :
    (roster.remove id).scores = roster.scores.erase id := by
  apply Std.ExtTreeMap.ext_getElem?
  intro other
  simp only [score_remove, Std.ExtTreeMap.getElem?_erase, Std.compare_eq_iff_eq,
    eq_comm (a := id)]

theorem mem_keys_iff (roster : Roster) (id : Uuid) :
    id ∈ roster.scores.keys ↔ roster.Lists id := by
  rw [Lists, Std.ExtTreeMap.mem_keys]

theorem lists_iff (roster : Roster) (id : Uuid) :
    roster.Lists id ↔ ∃ score, roster.scores[id]? = some score := by
  rw [Lists, Std.ExtTreeMap.mem_iff_isSome_getElem?, Option.isSome_iff_exists]

theorem lists_remove (roster : Roster) (id other : Uuid) :
    (roster.remove id).Lists other ↔ other ≠ id ∧ roster.Lists other := by
  simp only [lists_iff, score_remove]
  by_cases same : other = id <;> simp [same]

theorem is_empty_iff (roster : Roster) :
    roster.scores.isEmpty = true ↔ ∀ id, ¬roster.Lists id := by
  rw [Std.ExtTreeMap.isEmpty_iff]
  constructor
  · intro empty id listed
    rw [Lists, empty] at listed
    simp at listed
  · intro nobody
    apply Std.ExtTreeMap.ext_getElem?
    intro id
    rw [Std.ExtTreeMap.getElem?_empty]
    exact Std.ExtTreeMap.getElem?_eq_none (nobody id)

/-- Of two changes in a row only the first can find an index that exists, so its expiry is the one
that the second goes on with. -/
theorem of_scores_of_scores {first second : IdMap Int} (expiry : Option Nat)
    (stays_empty : first = ∅ → second = ∅) :
    ofScores second (ofScores first expiry).expiry = ofScores second expiry := by
  apply Roster.ext
  · rfl
  · simp only [expiry_of_scores]
    by_cases empty : first = ∅
    · simp [stays_empty empty]
    · simp [empty]

theorem select_select (roster : Roster) (first second : Uuid → Int → Bool) :
    (roster.select first).select second =
      roster.select fun id score => first id score && second id score := by
  have scores : (roster.scores.filter first).filter second =
      roster.scores.filter fun id score => first id score && second id score := by
    apply Std.ExtTreeMap.ext_getElem?
    intro id
    simp [Option.filter_filter]
  simp only [select, scores_of_scores]
  rw [of_scores_of_scores, scores]
  intro empty
  rw [empty]
  apply Std.ExtTreeMap.ext_getElem?
  intro id
  simp

theorem select_congr (roster : Roster) {first second : Uuid → Int → Bool}
    (same : ∀ id score, first id score = second id score) :
    roster.select first = roster.select second := by
  have functions : first = second := funext fun id => funext fun score => same id score
  rw [functions]

@[simp]
theorem select_all (roster : Roster) : (roster.select fun _ _ => true) = roster := by
  have scores : (roster.scores.filter fun _ _ => true) = roster.scores := by
    apply Std.ExtTreeMap.ext_getElem?
    intro id
    cases found : roster.scores[id]? <;> simp [found]
  rw [select, scores, of_scores_self]

theorem remove_if (roster : Roster) (id : Uuid) (condition : Bool) :
    (if condition then roster.remove id else roster) =
      roster.select fun other _ => !(other == id && condition) := by
  cases condition with
  | true =>
      rw [if_pos rfl, remove]
      exact select_congr roster fun other _ => by simp [bne]
  | false =>
      rw [if_neg Bool.false_ne_true]
      simp only [Bool.and_false, Bool.not_false]
      exact (select_all roster).symm

@[simp]
theorem remove_remove (roster : Roster) (id : Uuid) :
    (roster.remove id).remove id = roster.remove id := by
  rw [remove, remove, select_select]
  exact select_congr roster fun _ _ => Bool.and_self _

/-! What is stored for an index. -/

theorem distinct_texts (scores : IdMap Int) :
    (scores.toList.map fun member => (member.1.text, member.2)).Pairwise
      fun first second => ¬compare first.1 second.1 = .eq := by
  rw [List.pairwise_map]
  apply List.Pairwise.imp _ (Std.ExtTreeMap.distinct_keys_toList (t := scores))
  intro first second different
  simpa using different

theorem text_of_member (scores : IdMap Int) (id : Uuid) :
    (texts scores)[id.text]? = scores[id]? := by
  cases found : scores[id]? with
  | none =>
      apply Std.ExtTreeMap.getElem?_ofList_of_contains_eq_false
      simp only [List.map_map, List.contains_eq_mem, decide_eq_false_iff_not, List.mem_map,
        Function.comp_apply, Uuid.text_inj, not_exists, not_and]
      rintro ⟨other, score⟩ member rfl
      rw [Std.ExtTreeMap.mem_toList_iff_getElem?_eq_some, found] at member
      contradiction
  | some score =>
      apply Std.ExtTreeMap.getElem?_ofList_of_mem (k := id.text) Std.ReflCmp.compare_self
      · exact distinct_texts scores
      · rw [List.mem_map]
        exact ⟨(id, score), Std.ExtTreeMap.mem_toList_iff_getElem?_eq_some.mpr found, rfl⟩

theorem text_of_stranger (scores : IdMap Int) (text : String)
    (stranger : ∀ id : Uuid, id.text ≠ text) : (texts scores)[text]? = none := by
  apply Std.ExtTreeMap.getElem?_ofList_of_contains_eq_false
  simp only [List.map_map, List.contains_eq_mem, decide_eq_false_iff_not, List.mem_map,
    Function.comp_apply, not_exists, not_and]
  intro member _ same
  exact stranger member.1 same

theorem eq_texts {stored : Std.ExtTreeMap String Int} {scores : IdMap Int}
    (members : ∀ id : Uuid, stored[id.text]? = scores[id]?)
    (strangers : ∀ text : String, (∀ id : Uuid, id.text ≠ text) → stored[text]? = none) :
    stored = texts scores := by
  apply Std.ExtTreeMap.ext_getElem?
  intro text
  by_cases known : ∃ id : Uuid, id.text = text
  · obtain ⟨id, rfl⟩ := known
    rw [members, text_of_member]
  · have stranger : ∀ id : Uuid, id.text ≠ text := fun id same => known ⟨id, same⟩
    rw [strangers text stranger, text_of_stranger scores text stranger]

theorem texts_insert (scores : IdMap Int) (id : Uuid) (score : Int) :
    (texts scores).insert id.text score = texts (scores.insert id score) := by
  apply eq_texts
  · intro other
    simp [Std.ExtTreeMap.getElem?_insert, text_of_member]
  · intro text stranger
    simp [Std.ExtTreeMap.getElem?_insert, stranger id, text_of_stranger scores text stranger]

theorem texts_erase (scores : IdMap Int) (id : Uuid) :
    (texts scores).erase id.text = texts (scores.erase id) := by
  apply eq_texts
  · intro other
    simp [Std.ExtTreeMap.getElem?_erase, text_of_member]
  · intro text stranger
    simp [Std.ExtTreeMap.getElem?_erase, text_of_stranger scores text stranger]

theorem texts_filter (scores : IdMap Int) (stays : Int → Bool) :
    ((texts scores).filter fun _ score => stays score) =
      texts (scores.filter fun _ score => stays score) := by
  apply eq_texts
  · intro id
    simp [text_of_member]
  · intro text stranger
    simp [text_of_stranger scores text stranger]

theorem texts_is_empty (scores : IdMap Int) : (texts scores).isEmpty = scores.isEmpty := by
  rw [Bool.eq_iff_iff, Std.ExtTreeMap.isEmpty_iff, Std.ExtTreeMap.isEmpty_iff]
  constructor
  · intro empty
    apply Std.ExtTreeMap.ext_getElem?
    intro id
    rw [← text_of_member, empty, Std.ExtTreeMap.getElem?_empty, Std.ExtTreeMap.getElem?_empty]
  · intro empty
    subst empty
    rfl

theorem mem_texts (scores : IdMap Int) (text : String) :
    text ∈ texts scores ↔ ∃ id ∈ scores, Uuid.text id = text := by
  constructor
  · intro member
    by_cases known : ∃ id : Uuid, id.text = text
    · obtain ⟨id, rfl⟩ := known
      refine ⟨id, ?_, rfl⟩
      rw [Std.ExtTreeMap.mem_iff_isSome_getElem?, text_of_member] at member
      exact Std.ExtTreeMap.mem_iff_isSome_getElem?.mpr member
    · have absent := text_of_stranger scores text fun id same => known ⟨id, same⟩
      rw [Std.ExtTreeMap.mem_iff_isSome_getElem?, absent] at member
      contradiction
  · rintro ⟨id, member, rfl⟩
    rw [Std.ExtTreeMap.mem_iff_isSome_getElem?, text_of_member]
    exact Std.ExtTreeMap.mem_iff_isSome_getElem?.mp member

end Roster

end ChannelAccess
