import ChannelAccess.Proofs.Cache.SharedReply
import ChannelAccess.Proofs.Mask.Number
import ChannelAccess.Tables.Reading

/-!
# Masks in storage

The tables keep a mask as a signed number and the shared cache as a decimal text. Neither loses a
bit, and no text is taken for the number of another mask.
-/

namespace ChannelAccess

set_option autoImplicit false

open ChannelAccess.Text

namespace SharedCache

theorem mask_of_eq_ok_iff (raw : String) (mask : Mask) :
    maskOf raw = .ok mask ↔ Denotes 10 raw.toList mask.toNat := by
  rw [← Mask.read_word_eq_some_iff (by decide) (by decide), maskOf]
  cases read : readBelow 10 wordBound raw.toList with
  | none => simp
  | some value =>
      obtain ⟨found, rfl⟩ := Mask.exists_mask_of_read (by decide) (by decide) read
      simp only [Mask.of_nat_to_nat, Except.ok.injEq, Option.some.injEq, Mask.to_nat_inj]

theorem mask_of_eq_error_iff (raw : String) (problem : CacheError) :
    maskOf raw = .error problem ↔
      (∀ mask : Mask, ¬Denotes 10 raw.toList mask.toNat) ∧ problem = .malformed raw := by
  rw [← Mask.read_word_eq_none_iff (by decide) (by decide), maskOf]
  cases readBelow 10 wordBound raw.toList with
  | none => simp [eq_comm]
  | some value => simp

end SharedCache

/-- A row with the labels of a target's and a principal's kind is read with each part as it is, its
numbers as masks. -/
theorem OverrideRow.override_of_labels (row : OverrideRow) (target : TargetKind)
    (principal : PrincipalKind) (labelled : row.targetKind = TargetKind.choice.label target)
    (principalLabelled : row.principalKind = PrincipalKind.choice.label principal) :
    row.override = .ok ⟨row.id, row.target, .ofKind principal row.principal,
      .ofSigned row.allow, .ofSigned row.deny, row.createdAt, row.updatedAt⟩ := by
  unfold OverrideRow.override
  rw [labelled, principalLabelled]
  cases target
  cases principal <;> rfl

/-- Masks and the numbers of their columns stand for each other, a row keeps the masks of its
override, and decimal texts keep all masks and denote no others. -/
theorem stored_masks_survive :
    (∀ mask : Mask, -2 ^ 63 ≤ mask.toSigned ∧ mask.toSigned < 2 ^ 63 ∧
      Mask.ofSigned mask.toSigned = mask) ∧
    (∀ value : Int64, (Mask.ofSigned value.toInt).toSigned = value.toInt) ∧
    (∀ (row : OverrideRow) (target : TargetKind) (principal : PrincipalKind) (allow deny : Mask),
      OverrideRow.override { row with
          targetKind := TargetKind.choice.label target
          principalKind := PrincipalKind.choice.label principal
          allow := allow.toSigned
          deny := deny.toSigned } =
        .ok {
          id := row.id
          channel := row.target
          principal := .ofKind principal row.principal
          allow := allow
          deny := deny
          createdAt := row.createdAt
          updatedAt := row.updatedAt }) ∧
    (∀ mask : Mask, SharedCache.maskOf (SharedCache.maskText mask) = .ok mask) ∧
    ∀ raw : String,
      (∀ mask : Mask, SharedCache.maskOf raw = .ok mask ↔ Denotes 10 raw.toList mask.toNat) ∧
      ∀ problem, SharedCache.maskOf raw = .error problem ↔
        (∀ mask : Mask, ¬Denotes 10 raw.toList mask.toNat) ∧ problem = .malformed raw := by
  refine ⟨?column, ?number, ?row, SharedCache.mask_of_mask_text, ?text⟩
  case column =>
    intro mask
    have bounds := mask.to_signed_bounds
    exact ⟨bounds.1, bounds.2, mask.of_signed_to_signed⟩
  case number =>
    intro value
    exact Mask.to_signed_of_signed value.le_toInt value.toInt_lt
  case row =>
    intro row target principal allow deny
    rw [OverrideRow.override_of_labels _ target principal rfl rfl]
    simp only [Mask.of_signed_to_signed]
  case text =>
    intro raw
    exact ⟨SharedCache.mask_of_eq_ok_iff raw, SharedCache.mask_of_eq_error_iff raw⟩

end ChannelAccess
