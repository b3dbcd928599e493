import ChannelAccess.Mask.Text
import ChannelAccess.Proofs.Json.Quoting
import ChannelAccess.Proofs.Mask.Bits
import ChannelAccess.Proofs.Mask.Number
import ChannelAccess.Proofs.Text.Parts

/-!
# The grammar of masks

A mask is read from terms between bars, with white space around them. A term is the exact label of a
flag, or `0x` and a hexadecimal numeral of a 64-bit word. Whatever is written for a mask is read
back as that mask, its reserved bits included.
-/

namespace ChannelAccess.Mask

set_option autoImplicit false

open ChannelAccess.Text

/-- What a term comes to. A numeral that denotes the number of no mask is a bad number. -/
inductive TermReads : List Char → Except TextError Mask → Prop where
  | name (flag : Flag) : TermReads flag.label.toList (.ok (ofFlag flag))
  | number (digits : List Char) (mask : Mask) (denotes : Denotes 16 digits mask.toNat) :
      TermReads ('0' :: 'x' :: digits) (.ok mask)
  | empty : TermReads [] (.error .emptyTerm)
  | badNumber (digits : List Char) (invalid : ∀ mask : Mask, ¬Denotes 16 digits mask.toNat) :
      TermReads ('0' :: 'x' :: digits) (.error .badNumber)
  | unknownName (term : List Char) (given : term ≠ []) (noNumber : ¬['0', 'x'] <+: term)
      (unknown : ∀ flag : Flag, flag.label.toList ≠ term) :
      TermReads term (.error .unknownName)

def PartReads (part : List Char) (result : Except TextError Mask) : Prop :=
  ∃ term, HasCore part term ∧ TermReads term result

/-- The terms of a mask: the labels of its flags in bit order, then one number for its reserved bits
if it has any. -/
inductive WrittenAs (mask : Mask) : List String → Prop where
  | named (flags : List Flag) (ordered : flags.Pairwise (·.index < ·.index))
      (exactly : ∀ flag, flag ∈ flags ↔ mask.testBit flag.index = true)
      (whole : mask.ReservedIn ∅) :
      WrittenAs mask (flags.map Flag.label)
  | mixed (flags : List Flag) (ordered : flags.Pairwise (·.index < ·.index))
      (exactly : ∀ flag, flag ∈ flags ↔ mask.testBit flag.index = true) (bits : Mask)
      (rest : mask.ReservedIn bits) (some_bits : bits ≠ ∅) :
      WrittenAs mask
        (flags.map Flag.label ++ ["0x" ++ String.ofList (Nat.toDigits 16 bits.toNat)])

/-! Reading. -/

theorem of_label_eq_none_iff (label : List Char) :
    Flag.ofLabel? (String.ofList label) = none ↔ ∀ flag : Flag, flag.label.toList ≠ label := by
  simp [Flag.ofLabel?, Flag.mem_all, String.ext_iff]

/-- A label starts with a letter, so it is not taken for a number. -/
theorem of_trimmed_term_label (flag : Flag) :
    ofTrimmedTerm flag.label.toList = .ok (ofFlag flag) := by
  have spelled : ∃ c rest, flag.label.toList = c :: rest ∧ c ≠ '0' := by
    cases flag <;> exact ⟨_, _, rfl, by decide⟩
  obtain ⟨c, rest, same, letter⟩ := spelled
  have found : Flag.ofLabel? (String.ofList (c :: rest)) = some flag := by
    rw [← same, String.ofList_toList, Flag.of_label_label]
  rw [same, ofTrimmedTerm, found]
  · exact List.cons_ne_nil c rest
  · rintro digits ⟨⟩
    exact letter rfl

theorem term_reads_of_trimmed_term (term : List Char) : TermReads term (ofTrimmedTerm term) := by
  unfold ofTrimmedTerm
  split
  case h_1 => exact .empty
  case h_2 digits =>
    cases read : readBelow 16 wordBound digits with
    | none =>
        exact .badNumber digits ((read_word_eq_none_iff (by decide) (by decide) digits).mp read)
    | some value =>
        obtain ⟨mask, rfl⟩ := exists_mask_of_read (by decide) (by decide) read
        simp only [of_nat_to_nat]
        apply TermReads.number
        exact (read_word_eq_some_iff (by decide) (by decide) digits mask).mp read
  case h_3 given noNumber =>
    cases found : Flag.ofLabel? (String.ofList term) with
    | none =>
        refine .unknownName term given ?_ ((of_label_eq_none_iff term).mp found)
        rintro ⟨digits, rfl⟩
        exact noNumber digits rfl
    | some flag =>
        have labelled : flag.label = String.ofList term := by simpa using List.find?_some found
        rw [← String.toList_ofList (l := term), ← labelled]
        exact .name flag

theorem of_trimmed_term_of_reads {term : List Char} {result : Except TextError Mask}
    (reads : TermReads term result) : ofTrimmedTerm term = result := by
  cases reads with
  | name flag => exact of_trimmed_term_label flag
  | number digits mask denotes =>
      rw [ofTrimmedTerm, (read_word_eq_some_iff (by decide) (by decide) digits mask).mpr denotes]
      exact congrArg Except.ok (of_nat_to_nat mask)
  | empty => rfl
  | badNumber digits invalid =>
      rw [ofTrimmedTerm, (read_word_eq_none_iff (by decide) (by decide) digits).mpr invalid]
  | unknownName _ given noNumber unknown =>
      unfold ofTrimmedTerm
      split
      case h_1 => exact absurd rfl given
      case h_2 digits => exact absurd ⟨digits, rfl⟩ noNumber
      case h_3 => rw [(of_label_eq_none_iff term).mpr unknown]

theorem of_trimmed_term_trim_eq_iff (part : List Char) (result : Except TextError Mask) :
    ofTrimmedTerm (trim part) = result ↔ PartReads part result := by
  constructor
  · rintro rfl
    exact ⟨trim part, has_core_trim part, term_reads_of_trimmed_term _⟩
  · rintro ⟨term, core, reads⟩
    rw [core.trim_eq]
    exact of_trimmed_term_of_reads reads

theorem of_terms_eq_ok_iff (parts : List (List Char)) (mask : Mask) :
    ofTerms parts = .ok mask ↔
      ∃ masks, List.Forall₂ (fun part mask => PartReads part (.ok mask)) parts masks ∧
        mask = unionAll masks := by
  induction parts generalizing mask with
  | nil => simp [ofTerms, unionAll, eq_comm]
  | cons part rest ih =>
      rw [ofTerms]
      constructor
      · intro read
        cases here : ofTrimmedTerm (trim part) with
        | error problem => simp [here] at read
        | ok first =>
            cases there : ofTerms rest with
            | error problem => simp [here, there] at read
            | ok others =>
                obtain ⟨masks, reads, rfl⟩ := (ih others).mp there
                simp only [here, there, Except.ok.injEq] at read
                refine ⟨first :: masks, .cons ?_ reads, ?_⟩
                · exact (of_trimmed_term_trim_eq_iff part _).mp here
                · rw [← read, union_all_cons]
      · rintro ⟨_, reads, rfl⟩
        cases reads with
        | @cons _ first _ masks here there =>
            rw [(of_trimmed_term_trim_eq_iff part _).mpr here, (ih _).mpr ⟨masks, there, rfl⟩,
              union_all_cons]

theorem of_terms_eq_error_iff (parts : List (List Char)) (problem : TextError) :
    ofTerms parts = .error problem ↔
      ∃ before part after, parts = before ++ part :: after ∧
        (∀ earlier ∈ before, ∃ mask, PartReads earlier (.ok mask)) ∧
        PartReads part (.error problem) := by
  induction parts with
  | nil => simp [ofTerms]
  | cons first rest ih =>
      rw [ofTerms]
      constructor
      · intro read
        cases here : ofTrimmedTerm (trim first) with
        | error found =>
            simp only [here, Except.error.injEq] at read
            subst read
            exact ⟨[], first, rest, rfl, by simp, (of_trimmed_term_trim_eq_iff first _).mp here⟩
        | ok mask =>
            cases there : ofTerms rest with
            | ok others => simp [here, there] at read
            | error found =>
                simp only [here, there, Except.error.injEq] at read
                subst read
                obtain ⟨before, part, after, rfl, good, bad⟩ := ih.mp there
                have reads := (of_trimmed_term_trim_eq_iff first _).mp here
                refine ⟨first :: before, part, after, rfl, ?_, bad⟩
                exact List.forall_mem_cons.mpr ⟨⟨mask, reads⟩, good⟩
      · rintro ⟨before, part, after, parts, good, bad⟩
        cases before with
        | nil =>
            obtain ⟨rfl, rfl⟩ := List.cons.inj parts
            rw [(of_trimmed_term_trim_eq_iff first _).mpr bad]
        | cons _ before =>
            obtain ⟨rfl, rfl⟩ := List.cons.inj parts
            obtain ⟨⟨mask, reads⟩, good⟩ := List.forall_mem_cons.mp good
            rw [(of_trimmed_term_trim_eq_iff first _).mpr reads,
              ih.mpr ⟨before, part, after, rfl, good, bad⟩]

/-- White space alone has one part, and no term in it. -/
theorem trim_ne_nil_of_parts_read {source : List Char} {masks : List Mask}
    (read : List.Forall₂ (fun part mask => PartReads part (.ok mask)) (source.splitOn '|') masks) :
    trim source ≠ [] := by
  intro nothing
  have blank := (trim_eq_nil_iff source).mp nothing
  have single : '|' ∉ source := by
    intro member
    have visible : isBlank '|' = false := by decide
    rw [blank '|' member] at visible
    contradiction
  rw [List.splitOn_eq_singleton single] at read
  cases read with
  | cons here _ =>
      rw [← of_trimmed_term_trim_eq_iff, nothing] at here
      nomatch here

theorem of_text_eq_ok_iff (source : String) (mask : Mask) :
    ofText source = .ok mask ↔
      trim source.toList = [] ∧ mask = ∅ ∨
        ∃ masks, List.Forall₂ (fun part mask => PartReads part (.ok mask))
            (source.toList.splitOn '|') masks ∧
          mask = unionAll masks := by
  unfold ofText
  rw [split_eq_split_on]
  split
  case isTrue nothing =>
    constructor
    · intro read
      exact .inl ⟨nothing, (Except.ok.inj read).symm⟩
    · rintro (⟨_, rfl⟩ | ⟨masks, read, _⟩)
      · rfl
      · exact absurd nothing (trim_ne_nil_of_parts_read read)
  case isFalse something =>
    rw [of_terms_eq_ok_iff]
    simp [something]

theorem of_text_eq_error_iff (source : String) (problem : TextError) :
    ofText source = .error problem ↔
      trim source.toList ≠ [] ∧
        ∃ before part after, source.toList.splitOn '|' = before ++ part :: after ∧
          (∀ earlier ∈ before, ∃ mask, PartReads earlier (.ok mask)) ∧
          PartReads part (.error problem) := by
  unfold ofText
  rw [split_eq_split_on]
  split
  case isTrue nothing => simp [nothing]
  case isFalse something =>
    rw [of_terms_eq_error_iff]
    simp [something]

/-! Writing. -/

theorem flags_ordered (mask : Mask) : mask.flags.Pairwise (·.index < ·.index) := by
  have ordered : Flag.all.Pairwise (·.index < ·.index) := by decide
  exact ordered.filter _

theorem written_as_terms (mask : Mask) : mask.WrittenAs (mask.terms.map String.ofList) := by
  have exactly (flag : Flag) : flag ∈ mask.flags ↔ mask.testBit flag.index = true := by
    simp [flags, Flag.mem_all]
  have rest := (reserved_in_iff mask mask.reserved).mpr rfl
  have labels : (mask.flags.map fun flag => flag.label.toList).map String.ofList =
      mask.flags.map Flag.label := by
    simp [String.ofList_toList]
  rw [terms, List.map_append, labels]
  split
  case isTrue blank =>
    rw [(is_empty_eq_true_iff _).mp blank] at rest
    simpa using WrittenAs.named mask.flags mask.flags_ordered exactly rest
  case isFalse something =>
    rw [is_empty_eq_true_iff] at something
    have number (digits : List Char) :
        String.ofList ('0' :: 'x' :: digits) = "0x" ++ String.ofList digits := by
      rw [← String.toList_inj]
      simp
    rw [List.map_singleton, number]
    exact .mixed mask.flags mask.flags_ordered exactly mask.reserved rest something

theorem text_eq (mask : Mask) : mask.text = " | ".intercalate (mask.terms.map String.ofList) := by
  rw [text, ← String.toList_inj, String.toList_ofList, String.toList_intercalate]
  simp

theorem terms_read_pieces (mask : Mask) :
    List.Forall₂ (fun term piece => TermReads term (.ok piece)) mask.terms mask.pieces := by
  have named (flags : List Flag) : List.Forall₂ (fun term piece => TermReads term (.ok piece))
      (flags.map fun flag => flag.label.toList) (flags.map ofFlag) := by
    induction flags with
    | nil => exact .nil
    | cons flag rest ih => exact .cons (.name flag) ih
  apply List.rel_append (named mask.flags)
  split
  case isTrue => exact .nil
  case isFalse =>
    have denotes : DigitsDenote 16 _ mask.reserved.toNat :=
      digits_denote_write_nat (by decide) (by decide) _
    exact .cons (.number _ _ (.plain _ _ denotes)) .nil

theorem shown_in_label (flag : Flag) :
    ∀ c ∈ flag.label.toList, isBlank c = false ∧ c ≠ '|' := by
  have shown : (flag.label.toList.all fun c => !isBlank c && c != '|') = true := by
    cases flag <;> rfl
  simpa using shown

theorem shown_of_spells {c : Char} {digit : Nat} (spells : Spells 16 c digit) :
    isBlank c = false ∧ c ≠ '|' := by
  have shown : ∀ digit < 16, (isBlank digit.digitChar = false ∧ digit.digitChar ≠ '|') ∧
      isBlank digit.digitChar.toUpper = false ∧ digit.digitChar.toUpper ≠ '|' := by
    decide
  obtain ⟨bound, rfl | rfl⟩ := spells
  · exact (shown digit bound).1
  · exact (shown digit bound).2

theorem shown_in_term {term : List Char} {mask : Mask} (member : term ∈ mask.terms) :
    ∀ c ∈ term, isBlank c = false ∧ c ≠ '|' := by
  rw [terms, List.mem_append, List.mem_map] at member
  obtain ⟨flag, _, rfl⟩ | number := member
  · exact shown_in_label flag
  · split at number
    case isTrue => nomatch number
    case isFalse =>
      rw [List.mem_singleton.mp number]
      obtain ⟨_, digits, spelled, _⟩ : DigitsDenote 16 _ mask.reserved.toNat :=
        digits_denote_write_nat (by decide) (by decide) _
      refine List.forall_mem_cons.mpr ⟨by decide, List.forall_mem_cons.mpr ⟨by decide, ?_⟩⟩
      intro c digit
      obtain ⟨value, spells⟩ := exists_digit_of_mem spelled digit
      exact shown_of_spells spells

theorem parts_read_of_cores {parts terms : List (List Char)} {masks : List Mask}
    (cores : List.Forall₂ HasCore parts terms)
    (read : List.Forall₂ (fun term mask => TermReads term (.ok mask)) terms masks) :
    List.Forall₂ (fun part mask => PartReads part (.ok mask)) parts masks := by
  induction cores generalizing masks with
  | nil =>
      cases read
      exact .nil
  | cons core _ ih =>
      cases read with
      | cons here there => exact .cons ⟨_, core, here⟩ (ih there)

theorem of_text_text (mask : Mask) : ofText mask.text = .ok mask := by
  have read := terms_read_pieces mask
  have whole := union_all_pieces mask
  rw [of_text_eq_ok_iff, text, String.toList_ofList]
  by_cases given : mask.terms = []
  · rw [given, List.forall₂_nil_left_iff] at read
    rw [read] at whole
    left
    rw [given]
    exact ⟨rfl, whole.symm⟩
  · have cores : List.Forall₂ HasCore
        (split '|' ([] ++ [' ', '|', ' '].intercalate mask.terms)) mask.terms :=
      has_cores_of_joined (by decide) given (fun _ member => shown_in_term member) (by simp)
    rw [List.nil_append, split_eq_split_on] at cores
    right
    exact ⟨mask.pieces, parts_read_of_cores cores read, whole.symm⟩

/-- Every mask survives its written form, all of its bits included. A text is read exactly if it is
blank or all of its parts come to masks, and then as their union. The first other part decides the
error. -/
theorem text_keeps_masks_and_reading_follows_grammar :
    (∀ mask : Mask,
      (∃ terms, mask.WrittenAs terms ∧ mask.text = " | ".intercalate terms) ∧
      (Json.ofText? (Json.text mask.text).compactText).map ofJson = some (.ok mask)) ∧
    ∀ source : String,
      (∀ mask, ofJson (.text source) = .ok mask ↔
        (∀ c ∈ source.toList, isBlank c = true) ∧ mask = ∅ ∨
          ∃ masks, List.Forall₂ (fun part mask => PartReads part (.ok mask))
              (source.toList.splitOn '|') masks ∧
            ∀ position, mask.testBit position = true ↔
              ∃ part ∈ masks, part.testBit position = true) ∧
      ∀ problem, ofJson (.text source) = .error problem ↔
        ∃ fault, problem = .badText fault.message ∧ (∃ c ∈ source.toList, isBlank c = false) ∧
          ∃ before part after, source.toList.splitOn '|' = before ++ part :: after ∧
            (∀ earlier ∈ before, ∃ mask, PartReads earlier (.ok mask)) ∧
            PartReads part (.error fault) := by
  have of_json_ok_iff (source : String) (mask : Mask) :
      ofJson (.text source) = .ok mask ↔ ofText source = .ok mask := by
    rw [ofJson]
    cases ofText source <;> simp
  have of_json_error_iff (source : String) (problem : JsonError) :
      ofJson (.text source) = .error problem ↔
        ∃ fault, problem = .badText fault.message ∧ ofText source = .error fault := by
    rw [ofJson]
    cases ofText source <;> simp [eq_comm]
  refine ⟨fun mask => ⟨⟨_, written_as_terms mask, text_eq mask⟩, ?_⟩, fun source => ⟨?_, ?_⟩⟩
  · rw [Json.of_text_of_compact_text, Option.map_some, (of_json_ok_iff _ _).mpr (of_text_text mask)]
  · intro mask
    rw [of_json_ok_iff, of_text_eq_ok_iff, trim_eq_nil_iff]
    simp only [eq_union_all_iff]
  · intro problem
    have given : trim source.toList ≠ [] ↔ ∃ c ∈ source.toList, isBlank c = false := by
      rw [Ne, trim_eq_nil_iff]
      simp
    rw [of_json_error_iff]
    simp only [of_text_eq_error_iff, given]

end ChannelAccess.Mask
