import Mathlib.Data.List.Forall2
import ChannelAccess.Text.Blank

/-!
# Parts of a text

A text is taken apart at a separator, and what white space stands around each part is left
out. The core of a text is what is between its first and its last character that is not
white space; trimming finds it.
-/

namespace ChannelAccess.Text

set_option autoImplicit false

/-! Splitting. -/

theorem split_eq_split_on (separator : Char) (text : List Char) :
    split separator text = text.splitOn separator := by
  induction text with
  | nil => rfl
  | cons c rest ih =>
      rw [split, List.splitOn_cons_eq_if_modifyHead, ← ih]
      by_cases here : c = separator
      · simp [here]
      · rw [if_neg here, if_neg (by simpa using here)]
        cases parts : split separator rest with
        | nil => exact absurd parts (split_ne_nil separator rest)
        | cons piece pieces => rfl

/-! Trimming. -/

/-- A text is another one, the core, with white space around it. The core neither starts nor ends
with white space. -/
structure HasCore (text core : List Char) : Prop where
  around : ∃ left right, text = left ++ core ++ right ∧
    (∀ c ∈ left, isBlank c = true) ∧ ∀ c ∈ right, isBlank c = true
  first : ∀ c ∈ core.head?, isBlank c = false
  last : ∀ c ∈ core.getLast?, isBlank c = false

theorem drop_blanks_eq_nil {text : List Char} (blank : ∀ c ∈ text, isBlank c = true) :
    text.dropWhile isBlank = [] := by
  rw [← List.append_nil text, List.dropWhile_append_of_pos blank]
  rfl

theorem not_blank_of_drop_blanks (text : List Char) :
    ∀ c ∈ (text.dropWhile isBlank).head?, isBlank c = false := by
  intro c member
  have first := List.head?_dropWhile_not isBlank text
  rwa [Option.mem_def.mp member] at first

theorem drop_blanks_append {left core right : List Char} (blank : ∀ c ∈ left, isBlank c = true)
    (first : ∀ c ∈ core.head?, isBlank c = false) (given : core ≠ []) :
    (left ++ core ++ right).dropWhile isBlank = core ++ right := by
  rw [List.append_assoc, List.dropWhile_append_of_pos blank]
  cases core with
  | nil => exact absurd rfl given
  | cons c rest =>
      apply List.dropWhile_cons_of_neg
      simp [first c rfl]

theorem HasCore.trim_eq {text core : List Char} (has : HasCore text core) : trim text = core := by
  obtain ⟨left, right, rfl, blankLeft, blankRight⟩ := has.around
  by_cases given : core = []
  · subst given
    have blank : ∀ c ∈ left ++ [] ++ right, isBlank c = true := by
      intro c member
      rw [List.append_nil, List.mem_append] at member
      exact member.elim (blankLeft c) (blankRight c)
    rw [trim, drop_blanks_eq_nil blank]
    rfl
  · have firstBack : ∀ c ∈ core.reverse.head?, isBlank c = false := by
      rw [List.head?_reverse]
      exact has.last
    have back : (right.reverse ++ core.reverse ++ []).dropWhile isBlank = core.reverse ++ [] :=
      drop_blanks_append (by simpa using blankRight) firstBack (by simpa using given)
    rw [List.append_nil, List.append_nil] at back
    rw [trim, drop_blanks_append blankLeft has.first given, List.reverse_append, back,
      List.reverse_reverse]

theorem has_core_trim (text : List Char) : HasCore text (trim text) := by
  let rest := text.dropWhile isBlank
  let back := rest.reverse.takeWhile isBlank
  have ends : rest = trim text ++ back.reverse := by
    have parts : back ++ rest.reverse.dropWhile isBlank = rest.reverse :=
      List.takeWhile_append_dropWhile
    rw [trim, ← List.reverse_append, parts, List.reverse_reverse]
  refine ⟨⟨text.takeWhile isBlank, back.reverse, ?_, ?_, ?_⟩, ?_, ?_⟩
  · rw [List.append_assoc, ← ends, List.takeWhile_append_dropWhile]
  · exact List.all_eq_true.mp List.all_takeWhile
  · intro c member
    exact List.all_eq_true.mp List.all_takeWhile c (List.mem_reverse.mp member)
  · intro c member
    apply not_blank_of_drop_blanks text c
    rw [show text.dropWhile isBlank = rest from rfl, ends, List.head?_append,
      Option.mem_def.mp member]
    rfl
  · intro c member
    apply not_blank_of_drop_blanks rest.reverse c
    rwa [trim, List.getLast?_reverse] at member

theorem has_core_iff (text core : List Char) : HasCore text core ↔ trim text = core := by
  constructor
  · exact HasCore.trim_eq
  · rintro rfl
    exact has_core_trim text

theorem trim_eq_nil_iff (text : List Char) : trim text = [] ↔ ∀ c ∈ text, isBlank c = true := by
  rw [← has_core_iff]
  constructor
  · rintro ⟨⟨left, right, rfl, blankLeft, blankRight⟩, _, _⟩ c member
    rw [List.append_nil, List.mem_append] at member
    exact member.elim (blankLeft c) (blankRight c)
  · intro blank
    exact ⟨⟨text, [], by simp, blank, by simp⟩, by simp, by simp⟩

/-! Terms joined by separators. -/

theorem has_core_of_shown {left core right : List Char} (blankLeft : ∀ c ∈ left, isBlank c = true)
    (blankRight : ∀ c ∈ right, isBlank c = true) (shown : ∀ c ∈ core, isBlank c = false) :
    HasCore (left ++ core ++ right) core where
  around := ⟨left, right, rfl, blankLeft, blankRight⟩
  first c member := shown c (List.mem_of_mem_head? member)
  last c member := shown c (List.mem_of_mem_getLast? member)

theorem has_cores_of_joined {separator : Char} (visible : isBlank separator = false)
    {terms : List (List Char)} (given : terms ≠ [])
    (words : ∀ term ∈ terms, ∀ c ∈ term, isBlank c = false ∧ c ≠ separator) {lead : List Char}
    (blank : ∀ c ∈ lead, isBlank c = true) :
    List.Forall₂ HasCore (split separator (lead ++ [' ', separator, ' '].intercalate terms))
      terms := by
  have blanks : ∀ c ∈ [' '], isBlank c = true := List.forall_mem_singleton.mpr rfl
  have apart (text : List Char) (white : ∀ c ∈ text, isBlank c = true) : separator ∉ text := by
    intro member
    rw [white separator member] at visible
    contradiction
  rw [split_eq_split_on]
  induction terms generalizing lead with
  | nil => exact absurd rfl given
  | cons term rest ih =>
      have shown (c : Char) (member : c ∈ term) := (words term (by simp) c member).1
      have absent : separator ∉ term := fun member => (words term (by simp) separator member).2 rfl
      cases rest with
      | nil =>
          have whole : HasCore (lead ++ term ++ []) term :=
            has_core_of_shown blank (by simp) shown
          rw [List.append_nil] at whole
          have clear : separator ∉ lead ++ term := by simp [apart lead blank, absent]
          rw [List.intercalate_singleton, List.splitOn_eq_singleton clear]
          exact .cons whole .nil
      | cons next more =>
          have further := ih (by simp) (fun term member => words term (by simp [member])) blanks
          have joined : lead ++ [' ', separator, ' '].intercalate (term :: next :: more) =
              (lead ++ term ++ [' ']) ++
                separator :: ([' '] ++ [' ', separator, ' '].intercalate (next :: more)) := by
            simp [List.intercalate_cons_cons]
          have clear : separator ∉ lead ++ term ++ [' '] := by
            simpa [apart lead blank, absent] using apart [' '] blanks
          rw [joined, List.splitOn_append_cons_self_of_not_mem clear]
          exact .cons (has_core_of_shown blank blanks shown) further

end ChannelAccess.Text
