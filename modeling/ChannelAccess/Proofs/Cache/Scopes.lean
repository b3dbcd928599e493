import ChannelAccess.Proofs.Cache.KeyNames

/-!
# Keys of different scopes are different

A key is a scope with an ending. A scope may be any text, the beginning of another one or something
that looks like a key itself. Still no key has two readings: the endings of two keys have the same
length, and then so have the scopes, or the longer ending has a digit of an identifier where the
shorter one starts with a colon.
-/

namespace ChannelAccess

set_option autoImplicit false

theorem Text.colon_not_mem_of_read_digits {value number : Nat} {digits : List Char}
    (read : Text.readDigits 16 value digits = some number) : ':' ∉ digits := by
  induction digits generalizing value with
  | nil => exact List.not_mem_nil
  | cons c rest ih =>
      obtain ⟨digit, isDigit, further⟩ := Option.bind_eq_some_iff.mp read
      rw [List.mem_cons, not_or]
      refine ⟨?_, ih further⟩
      rintro rfl
      have noDigit : Text.digitIn 16 ':' = none := rfl
      rw [noDigit] at isDigit
      nomatch isDigit

theorem Uuid.colon_not_mem_characters (id : Uuid) : ':' ∉ id.characters := by
  have noDigit := Text.colon_not_mem_of_read_digits (read_digits_digits id)
  have noneTaken (start count : Nat) : ':' ∉ (id.digits.drop start).take count := fun member =>
    noDigit (List.mem_of_mem_drop (List.mem_of_mem_take member))
  have noneAtStart : ':' ∉ id.digits.take 8 := fun member => noDigit (List.mem_of_mem_take member)
  have noneAtEnd : ':' ∉ id.digits.drop 20 := fun member => noDigit (List.mem_of_mem_drop member)
  simp [characters, noneTaken, noneAtStart, noneAtEnd]

inductive ScopedName where
  | entry (key : EntryKey)
  | index (name : IndexName)
deriving DecidableEq

namespace ScopedName

def ending : ScopedName → List Char
  | .entry key => ':' :: 'e' :: ':' :: (key.user.characters ++ ':' :: key.channel.characters)
  | .index name => ':' :: name.characters

theorem ending_length (name : ScopedName) :
    name.ending.length =
      match name with
      | .entry _ => 76
      | .index .users => 6
      | .index _ => 39 := by
  cases name with
  | entry key => simp [ending, Uuid.characters_length]
  | index name => cases name <;> simp [ending, IndexName.characters, Uuid.characters_length]

theorem ending_starts_with_colon (name : ScopedName) : name.ending[0]? = some ':' := by
  cases name <;> rfl

/-- Where a shorter ending starts, a longer one has a digit. -/
theorem no_colon_in_longer {longer shorter : ScopedName}
    (isShorter : shorter.ending.length < longer.ending.length) :
    longer.ending[longer.ending.length - shorter.ending.length]? ≠ some ':' := by
  have noColon (id : Uuid) (place : Nat) (inside : place < id.characters.length) :
      id.characters[place] ≠ ':' := fun colon =>
    id.colon_not_mem_characters (colon ▸ List.getElem_mem inside)
  rw [ending_length, ending_length] at isShorter ⊢
  rcases longer with ⟨user, channel⟩ | (_ | user | channel) <;>
    rcases shorter with _ | (_ | _ | _) <;>
      simp [ending, IndexName.characters, Uuid.characters_length, noColon] at isShorter ⊢

end ScopedName

namespace KeyNames

theorem ext_scope {first second : KeyNames} (same : first.scope = second.scope) :
    first = second := by
  cases first
  cases second
  exact congrArg KeyNames.mk same

def key (names : KeyNames) : ScopedName → String
  | .entry key => names.entryKey key
  | .index name => names.indexKey name

theorem key_to_list (names : KeyNames) (name : ScopedName) :
    (names.key name).toList = names.scope.toList ++ name.ending := by
  cases name with
  | entry key => exact entry_key_to_list key
  | index name => exact index_key_to_list name

theorem ending_length_le {first second : KeyNames} {left right : ScopedName}
    (same : first.key left = second.key right) : right.ending.length ≤ left.ending.length := by
  apply Nat.le_of_not_lt
  intro isShorter
  have characters := congrArg String.toList same
  rw [key_to_list, key_to_list] at characters
  have lengths := congrArg List.length characters
  simp only [List.length_append] at lengths
  -- The place in the key where the shorter ending starts.
  have there : (first.scope.toList ++ left.ending)[first.scope.toList.length]? = some ':' := by
    rw [List.getElem?_append_right (Nat.le_refl _), Nat.sub_self]
    exact left.ending_starts_with_colon
  have place : first.scope.toList.length - second.scope.toList.length =
      right.ending.length - left.ending.length := by omega
  rw [characters, List.getElem?_append_right (by omega), place] at there
  exact ScopedName.no_colon_in_longer isShorter there

theorem key_eq_key_iff {first second : KeyNames} {left right : ScopedName} :
    first.key left = second.key right ↔ first = second ∧ left = right := by
  constructor
  · intro same
    have sameLength := Nat.le_antisymm (ending_length_le same.symm) (ending_length_le same)
    have characters := congrArg String.toList same
    rw [key_to_list, key_to_list] at characters
    have sameScope := (List.append_inj' characters sameLength).1
    obtain rfl : first = second := ext_scope (String.toList_inj.mp sameScope)
    refine ⟨rfl, ?_⟩
    cases left <;> cases right <;> simp [key] at same <;> rw [same]
  · rintro ⟨rfl, rfl⟩
    rfl

def Owns (names : KeyNames) (key : String) : Prop :=
  ∃ name, names.key name = key

theorem owns_entry (names : KeyNames) (key : EntryKey) : names.Owns (names.entryKey key) :=
  ⟨.entry key, rfl⟩

theorem owns_index (names : KeyNames) (name : IndexName) : names.Owns (names.indexKey name) :=
  ⟨.index name, rfl⟩

theorem eq_of_owns {first second : KeyNames} {key : String} (one : first.Owns key)
    (other : second.Owns key) : first = second := by
  obtain ⟨left, rfl⟩ := one
  obtain ⟨right, same⟩ := other
  exact (key_eq_key_iff.mp same).1.symm

end KeyNames

end ChannelAccess
