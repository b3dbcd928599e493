import ChannelAccess.Cache.InProcess
import ChannelAccess.Cache.Script
import ChannelAccess.Proofs.Identifier

/-!
# Keys of different things are different

A scope of the shared cache has a key for every entry and for every index. Since the texts of
identifiers all have the same length, no two of these keys are equal, whatever the scope is.
-/

namespace ChannelAccess

set_option autoImplicit false

inductive IndexName where
  | users
  | ofUser (user : UserId)
  | ofChannel (channel : ChannelId)
deriving DecidableEq

/-- What follows the scope and a colon in the key of an index. -/
def IndexName.characters : IndexName → List Char
  | .users => ['u', 's', 'e', 'r', 's']
  | .ofUser user => 'u' :: ':' :: user.characters
  | .ofChannel channel => 'c' :: ':' :: channel.characters

theorem IndexName.characters_injective {first second : IndexName}
    (same : first.characters = second.characters) : first = second := by
  cases first <;> cases second <;> simp [characters] at same
  case users.users => rfl
  case ofUser.ofUser => rw [Uuid.characters_injective same]
  case ofChannel.ofChannel => rw [Uuid.characters_injective same]

namespace KeyNames

def entryKey (names : KeyNames) (key : EntryKey) : String :=
  names.entry key.user.text key.channel.text

def indexKey (names : KeyNames) : IndexName → String
  | .users => names.users
  | .ofUser user => names.userIndex user.text
  | .ofChannel channel => names.channelIndex channel.text

variable {names : KeyNames}

theorem entry_key_to_list (key : EntryKey) :
    (names.entryKey key).toList = names.scope.toList ++
      (':' :: 'e' :: ':' :: (key.user.characters ++ ':' :: key.channel.characters)) := by
  simp [entryKey, entry, Uuid.text_to_list, String.toList_append]

theorem index_key_to_list (name : IndexName) :
    (names.indexKey name).toList = names.scope.toList ++ ':' :: name.characters := by
  cases name <;>
    simp [indexKey, users, userIndex, channelIndex, IndexName.characters, Uuid.text_to_list,
      String.toList_append]

theorem entry_key_injective {first second : EntryKey}
    (same : names.entryKey first = names.entryKey second) : first = second := by
  have characters := congrArg String.toList same
  rw [entry_key_to_list, entry_key_to_list] at characters
  have afterScope := List.append_cancel_left characters
  simp only [List.cons.injEq, true_and] at afterScope
  obtain ⟨sameUser, afterUser⟩ := List.append_inj afterScope (by
    rw [Uuid.characters_length, Uuid.characters_length])
  have sameChannel := (List.cons.inj afterUser).2
  exact EntryKey.ext (Uuid.characters_injective sameUser) (Uuid.characters_injective sameChannel)

theorem index_key_injective {first second : IndexName}
    (same : names.indexKey first = names.indexKey second) : first = second := by
  have characters := congrArg String.toList same
  rw [index_key_to_list, index_key_to_list] at characters
  have afterScope := List.append_cancel_left characters
  exact IndexName.characters_injective (List.cons.inj afterScope).2

@[simp]
theorem entry_key_ne_index_key (key : EntryKey) (name : IndexName) :
    names.entryKey key ≠ names.indexKey name := by
  intro same
  have characters := congrArg String.toList same
  rw [entry_key_to_list, index_key_to_list] at characters
  have afterScope := List.append_cancel_left characters
  cases name <;> simp [IndexName.characters] at afterScope

@[simp]
theorem index_key_ne_entry_key (name : IndexName) (key : EntryKey) :
    names.indexKey name ≠ names.entryKey key :=
  (entry_key_ne_index_key key name).symm

@[simp]
theorem entry_key_inj {first second : EntryKey} :
    names.entryKey first = names.entryKey second ↔ first = second :=
  ⟨entry_key_injective, congrArg names.entryKey⟩

@[simp]
theorem index_key_inj {first second : IndexName} :
    names.indexKey first = names.indexKey second ↔ first = second :=
  ⟨index_key_injective, congrArg names.indexKey⟩

end KeyNames

end ChannelAccess
