import Mathlib.Data.List.Nodup
import ChannelAccess.Mask

/-!
# Masks, one bit at a time

What a test of a mask says about its bits: no bit is set, every wanted bit is set, a bit is
set in one mask of several. The named permissions are the lowest bits, and a mask is the
union of its pieces.
-/

namespace ChannelAccess.Mask

set_option autoImplicit false

theorem is_empty_eq_true_iff (mask : Mask) : mask.isEmpty = true ↔ mask = ∅ := by
  rw [isEmpty, beq_iff_eq]

theorem is_empty_iff (mask : Mask) :
    mask.isEmpty = true ↔ ∀ position, mask.testBit position = false := by
  rw [isEmpty, beq_iff_eq]
  constructor
  · rintro rfl position
    exact test_bit_empty position
  · intro blank
    apply ext_test_bit
    intro position
    rw [blank, test_bit_empty]

theorem has_iff (mask wanted : Mask) :
    mask.has wanted = true ↔
      ∀ position, wanted.testBit position = true → mask.testBit position = true := by
  rw [has, beq_iff_eq]
  constructor
  · intro same position inWanted
    rw [← same, test_bit_inter, Bool.and_eq_true] at inWanted
    exact inWanted.1
  · intro within
    apply ext_test_bit
    intro position
    rw [test_bit_inter, Bool.and_eq_right_iff_imp]
    exact within position

theorem has_trans {large middle small : Mask} (outer : large.has middle = true)
    (inner : middle.has small = true) : large.has small = true := by
  rw [has_iff] at *
  intro position inSmall
  exact outer position (inner position inSmall)

theorem test_bit_foldl_union {α : Type} (part : α → Mask) (items : List α) (base : Mask)
    (position : Nat) :
    (items.foldl (fun mask item => mask ∪ part item) base).testBit position = true ↔
      base.testBit position = true ∨ ∃ item ∈ items, (part item).testBit position = true := by
  induction items generalizing base with
  | nil => simp
  | cons first rest ih =>
      rw [List.foldl_cons, ih, test_bit_union, Bool.or_eq_true]
      simp only [List.mem_cons, exists_eq_or_imp, or_assoc]

theorem test_bit_union_all (masks : List Mask) (position : Nat) :
    (unionAll masks).testBit position = true ↔
      ∃ mask ∈ masks, mask.testBit position = true := by
  have folded := test_bit_foldl_union (fun mask : Mask => mask) masks ∅ position
  rw [unionAll, folded, test_bit_empty]
  simp

theorem union_all_cons (mask : Mask) (masks : List Mask) :
    unionAll (mask :: masks) = mask ∪ unionAll masks := by
  apply ext_test_bit
  intro position
  rw [Bool.eq_iff_iff, test_bit_union, Bool.or_eq_true, test_bit_union_all, test_bit_union_all,
    List.exists_mem_cons_iff]

theorem eq_union_all_iff (mask : Mask) (masks : List Mask) :
    mask = unionAll masks ↔
      ∀ position, mask.testBit position = true ↔
        ∃ part ∈ masks, part.testBit position = true := by
  constructor
  · rintro rfl
    exact test_bit_union_all masks
  · intro exactly
    apply ext_test_bit
    intro position
    rw [Bool.eq_iff_iff, exactly, test_bit_union_all]

theorem test_bit_union_all_map {α : Type} (part : α → Mask) (items : List α)
    (position : Nat) :
    (unionAll (items.map part)).testBit position = true ↔
      ∃ item ∈ items, (part item).testBit position = true := by
  simp [test_bit_union_all]

/-- A mask has these bits without a name, and no others. -/
def ReservedIn (mask bits : Mask) : Prop :=
  ∀ position, bits.testBit position = true ↔
    mask.testBit position = true ∧ ∀ flag : Flag, flag.index ≠ position

theorem test_bit_all (position : Nat) : all.testBit position = decide (position < 23) := by
  have filled : all = ofNat (2 ^ 23 - 1) := by decide
  rw [filled, testBit, ofNat, BitVec.getLsbD_ofNat, Nat.testBit_two_pow_sub_one]
  by_cases named : position < 23
  · have inWord : position < 64 := by omega
    simp [named, inWord]
  · simp [named]

theorem named_iff (position : Nat) :
    (∃ flag : Flag, flag.index = position) ↔ all.testBit position = true := by
  rw [test_bit_all, decide_eq_true_eq]
  constructor
  · rintro ⟨flag, rfl⟩
    cases flag <;> decide
  · intro low
    have listed : ∀ index < 23, ∃ flag ∈ Flag.all, flag.index = index := by decide
    obtain ⟨flag, _, same⟩ := listed position low
    exact ⟨flag, same⟩

theorem inter_complement (wanted mask : Mask) :
    wanted ∩ mask.complement = (wanted \ mask).truncate := by
  apply ext_test_bit
  intro position
  simp only [complement, truncate, test_bit_inter, test_bit_sdiff]
  cases wanted.testBit position <;> cases mask.testBit position <;> simp

theorem truncate_eq_self_iff (mask : Mask) : mask.truncate = mask ↔ mask.reserved = ∅ := by
  constructor
  · intro kept
    apply ext_test_bit
    intro position
    have inNamed := congrArg (fun mask => mask.testBit position) kept
    simp only [truncate, test_bit_inter, Bool.and_eq_left_iff_imp] at inNamed
    simp only [reserved, test_bit_sdiff, test_bit_empty]
    cases held : mask.testBit position with
    | false => rfl
    | true => simp [inNamed held]
  · intro named
    apply ext_test_bit
    intro position
    have notReserved := congrArg (fun mask => mask.testBit position) named
    simp only [reserved, test_bit_sdiff, test_bit_empty] at notReserved
    simp only [truncate, test_bit_inter]
    cases held : mask.testBit position with
    | false => rfl
    | true => simpa [held] using notReserved

theorem test_bit_of_flag (flag : Flag) (position : Nat) :
    (ofFlag flag).testBit position = true ↔ flag.index = position := by
  have inWord := flag.index_lt
  rw [ofFlag, testBit, BitVec.getLsbD_twoPow, Bool.and_eq_true, decide_eq_true_eq,
    decide_eq_true_eq]
  omega

theorem test_bit_reserved (mask : Mask) (position : Nat) :
    mask.reserved.testBit position = true ↔
      mask.testBit position = true ∧ ¬all.testBit position = true := by
  rw [reserved, test_bit_sdiff, Bool.and_eq_true, Bool.not_eq_true', Bool.not_eq_true]

theorem reserved_in_iff (mask bits : Mask) : mask.ReservedIn bits ↔ bits = mask.reserved := by
  have unnamed : mask.ReservedIn mask.reserved := by
    intro position
    rw [test_bit_reserved, ← named_iff, not_exists]
  constructor
  · intro exactly
    apply ext_test_bit
    intro position
    rw [Bool.eq_iff_iff, exactly, unnamed]
  · rintro rfl
    exact unnamed

theorem mem_pieces_iff (mask piece : Mask) :
    piece ∈ mask.pieces ↔
      (∃ flag : Flag, mask.testBit flag.index = true ∧ ofFlag flag = piece) ∨
        mask.reserved ≠ ∅ ∧ piece = mask.reserved := by
  rw [pieces, List.mem_append, List.mem_map]
  refine or_congr ?_ ?_
  · simp [flags, Flag.mem_all]
  · split
    case isTrue blank => simp [(is_empty_eq_true_iff _).mp blank]
    case isFalse some => simp [(is_empty_eq_true_iff _).not.mp some]

/-- A bit of a mask is either named, and in the piece of its flag, or in the reserved piece. -/
theorem union_all_pieces (mask : Mask) : unionAll mask.pieces = mask := by
  apply ext_test_bit
  intro position
  rw [Bool.eq_iff_iff, test_bit_union_all]
  constructor
  · rintro ⟨piece, member, set⟩
    obtain ⟨flag, held, rfl⟩ | ⟨_, rfl⟩ := (mem_pieces_iff mask piece).mp member
    · rw [test_bit_of_flag] at set
      rwa [← set]
    · exact ((test_bit_reserved mask position).mp set).1
  · intro set
    by_cases named : all.testBit position = true
    · obtain ⟨flag, rfl⟩ := (named_iff position).mpr named
      exact ⟨ofFlag flag, (mem_pieces_iff _ _).mpr (.inl ⟨flag, set, rfl⟩),
        (test_bit_of_flag flag _).mpr rfl⟩
    · have unnamed := (test_bit_reserved mask position).mpr ⟨set, named⟩
      have some_reserved : mask.reserved ≠ ∅ := by
        intro blank
        rw [blank, test_bit_empty] at unnamed
        contradiction
      exact ⟨mask.reserved, (mem_pieces_iff _ _).mpr (.inr ⟨some_reserved, rfl⟩), unnamed⟩

end ChannelAccess.Mask
