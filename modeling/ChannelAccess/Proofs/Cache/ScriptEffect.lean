import ChannelAccess.Proofs.Cache.Performing

/-!
# What the scripts do

Every script of the shared cache as an operation on the holdings of a scope. The
writes go entry by entry, as the script does. The drops are given by what is left
under each entry and each index afterwards; the order in which an index lists its
members is gone from them.
-/

namespace ChannelAccess

set_option autoImplicit false

namespace Holdings

def score (held : Holdings) (lifetime : Nat) : Int :=
  (held.seconds : Int) + lifetime + 1

def indexExpiry (held : Holdings) (lifetime : Nat) : Nat :=
  held.clock + (lifetime + 1) * Keyspace.second

def touch (held : Holdings) (name : IndexName) (id : Uuid) (lifetime : Nat) : Holdings :=
  held.setIndex name ((((held.index name).add id (held.score lifetime)).prune
    held.seconds).keepUntil (held.indexExpiry lifetime))

/-- An entry written and its indexes touched, but for the expiry of the users index. -/
def writeEntry (lifetime : Nat) (held : Holdings) (entry : SharedCache.Entry) : Holdings :=
  let written := held.setEntry ⟨entry.user, entry.channel⟩
    (some ⟨entry.mask, held.clock + lifetime * Keyspace.second⟩)
  let listed := (written.touch (.ofUser entry.user) entry.channel lifetime).touch
    (.ofChannel entry.channel) entry.user lifetime
  listed.setIndex .users ((listed.index .users).add entry.user (held.score lifetime))

/-- Entries written one after the other, then the users index pruned and kept alive. -/
def write (held : Holdings) (lifetime : Nat) (entries : List SharedCache.Entry) : Holdings :=
  let written := entries.foldl (writeEntry lifetime) held
  written.setIndex .users
    (((written.index .users).prune held.seconds).keepUntil (held.indexExpiry lifetime))

/-- Without the entries of a user in some channels, in the channels' indexes too. -/
def forgetChannels (held : Holdings) (user : UserId) (channels : List ChannelId) : Holdings where
  clock := held.clock
  entry key := if key.user = user ∧ key.channel ∈ channels then none else held.entry key
  index
    | .ofChannel channel =>
        if channel ∈ channels then (held.index (.ofChannel channel)).remove user
        else held.index (.ofChannel channel)
    | name => held.index name

/-- Without a user: the entries that the user's index lists, the index, and the user everywhere
else. -/
def dropUser (held : Holdings) (user : UserId) : Holdings :=
  let forgotten := held.forgetChannels user (held.index (.ofUser user)).scores.keys
  let unlisted := forgotten.setIndex (.ofUser user) .blank
  unlisted.setIndex .users ((unlisted.index .users).remove user)

/-- Without the entries of some users in a channel, in the users' indexes too; users whose index is
empty then leave the users index. -/
def forgetUsers (held : Holdings) (channel : ChannelId) (users : List UserId) : Holdings where
  clock := held.clock
  entry key := if key.channel = channel ∧ key.user ∈ users then none else held.entry key
  index
    | .users => (held.index .users).select fun user _ =>
        !(users.contains user && ((held.index (.ofUser user)).remove channel).scores.isEmpty)
    | .ofUser user =>
        if user ∈ users then (held.index (.ofUser user)).remove channel
        else held.index (.ofUser user)
    | name => held.index name

def dropChannel (held : Holdings) (channel : ChannelId) : Holdings :=
  (held.forgetUsers channel (held.index (.ofChannel channel)).scores.keys).setIndex
    (.ofChannel channel) .blank

/-- Without one entry, in its two indexes too; a user whose index is empty then leaves the users
index. -/
def dropEntry (held : Holdings) (key : EntryKey) : Holdings :=
  (held.setIndex (.ofChannel key.channel)
    ((held.index (.ofChannel key.channel)).remove key.user)).forgetUsers key.channel [key.user]

/-- Without the entries of a user in some channels, and without these channels' indexes. -/
def clearChannels (held : Holdings) (user : UserId) (channels : List ChannelId) : Holdings where
  clock := held.clock
  entry key := if key.user = user ∧ key.channel ∈ channels then none else held.entry key
  index
    | .ofChannel channel => if channel ∈ channels then .blank else held.index (.ofChannel channel)
    | name => held.index name

def clearUsers (held : Holdings) (users : List UserId) : Holdings where
  clock := held.clock
  entry key :=
    if key.user ∈ users ∧ key.channel ∈ (held.index (.ofUser key.user)).scores then none
    else held.entry key
  index
    | .ofUser user => if user ∈ users then .blank else held.index (.ofUser user)
    | .ofChannel channel =>
        if ∃ user ∈ users, channel ∈ (held.index (.ofUser user)).scores then .blank
        else held.index (.ofChannel channel)
    | .users => held.index .users

def dropAll (held : Holdings) : Holdings :=
  (held.clearUsers (held.index .users).scores.keys).setIndex .users .blank

@[simp]
theorem forget_channels_nil (held : Holdings) (user : UserId) :
    held.forgetChannels user [] = held := by
  apply Holdings.ext
  · rfl
  · simp [forgetChannels]
  · funext name
    cases name <;> simp [forgetChannels]

theorem forget_channels_cons (held : Holdings) (user : UserId) (channel : ChannelId)
    (rest : List ChannelId) :
    ((held.setEntry ⟨user, channel⟩ none).setIndex (.ofChannel channel)
        ((held.index (.ofChannel channel)).remove user)).forgetChannels user rest =
      held.forgetChannels user (channel :: rest) := by
  apply Holdings.ext
  · rfl
  · funext key
    simp only [forgetChannels, entry_set_index, entry_set_entry, EntryKey.ext_iff,
      List.mem_cons]
    grind
  · funext name
    cases name with
    | users => simp [forgetChannels, index_set_index]
    | ofUser other => simp [forgetChannels, index_set_index]
    | ofChannel other =>
        by_cases same : other = channel
        · subst same
          by_cases later : other ∈ rest <;> simp [forgetChannels, index_set_index, later]
        · simp [forgetChannels, index_set_index, same]

@[simp]
theorem forget_users_nil (held : Holdings) (channel : ChannelId) :
    held.forgetUsers channel [] = held := by
  apply Holdings.ext
  · rfl
  · simp [forgetUsers]
  · funext name
    cases name <;> simp [forgetUsers]

theorem forget_users_cons (held : Holdings) (channel : ChannelId) (user : UserId)
    (rest : List UserId) (empty : Bool)
    (is_empty : empty = ((held.index (.ofUser user)).remove channel).scores.isEmpty) :
    (((held.setEntry ⟨user, channel⟩ none).setIndex (.ofUser user)
        ((held.index (.ofUser user)).remove channel)).setIndex .users
          (if empty then (held.index .users).remove user
            else held.index .users)).forgetUsers channel rest =
      held.forgetUsers channel (user :: rest) := by
  apply Holdings.ext
  · rfl
  · funext key
    simp only [forgetUsers, entry_set_index, entry_set_entry, EntryKey.ext_iff,
      List.mem_cons]
    grind
  · funext name
    cases name with
    | users =>
        simp only [forgetUsers, index_set_index, reduceCtorEq, if_false, if_true,
          IndexName.ofUser.injEq]
        rw [Roster.remove_if, Roster.select_select]
        apply Roster.select_congr
        intro other score
        rw [is_empty]
        by_cases same : other = user
        · subst same
          by_cases later : other ∈ rest <;> simp [later]
        · simp [same]
    | ofChannel other => simp [forgetUsers, index_set_index]
    | ofUser other =>
        by_cases same : other = user
        · subst same
          by_cases later : other ∈ rest <;> simp [forgetUsers, index_set_index, later]
        · simp [forgetUsers, index_set_index, same]

@[simp]
theorem clear_channels_nil (held : Holdings) (user : UserId) :
    held.clearChannels user [] = held := by
  apply Holdings.ext
  · rfl
  · simp [clearChannels]
  · funext name
    cases name <;> simp [clearChannels]

theorem clear_channels_cons (held : Holdings) (user : UserId) (channel : ChannelId)
    (rest : List ChannelId) :
    ((held.setEntry ⟨user, channel⟩ none).setIndex (.ofChannel channel)
        .blank).clearChannels user rest = held.clearChannels user (channel :: rest) := by
  apply Holdings.ext
  · rfl
  · funext key
    simp only [clearChannels, entry_set_index, entry_set_entry, EntryKey.ext_iff,
      List.mem_cons]
    grind
  · funext name
    cases name with
    | users => simp [clearChannels, index_set_index]
    | ofUser other => simp [clearChannels, index_set_index]
    | ofChannel other =>
        by_cases same : other = channel <;> by_cases later : other ∈ rest <;>
          simp [clearChannels, index_set_index, same, later]

@[simp]
theorem clear_users_nil (held : Holdings) : held.clearUsers [] = held := by
  apply Holdings.ext
  · rfl
  · simp [clearUsers]
  · funext name
    cases name <;> simp [clearUsers]

theorem clear_users_cons (held : Holdings) (user : UserId) (rest : List UserId)
    (channels : List ChannelId)
    (listed : ∀ channel, channel ∈ channels ↔ (held.index (.ofUser user)).Lists channel) :
    ((held.clearChannels user channels).setIndex (.ofUser user) .blank).clearUsers rest =
      held.clearUsers (user :: rest) := by
  apply Holdings.ext
  · rfl
  · funext key
    simp only [clearUsers, clearChannels, entry_set_index, index_set_index,
      List.mem_cons, Roster.Lists] at listed ⊢
    grind [Roster.blank]
  · funext name
    cases name with
    | users => simp [clearUsers, clearChannels, index_set_index]
    | ofUser other =>
        by_cases same : other = user <;> by_cases later : other ∈ rest <;>
          simp [clearUsers, clearChannels, index_set_index, same, later]
    | ofChannel other =>
        have reached : (∃ next ∈ user :: rest, other ∈ (held.index (.ofUser next)).scores) ↔
            (∃ next ∈ rest, other ∈ (if next = user then Roster.blank
              else held.index (.ofUser next)).scores) ∨ other ∈ channels := by
          rw [listed other, Roster.Lists]
          constructor
          · rintro ⟨next, member, found⟩
            by_cases same : next = user
            · subst same
              exact .inr found
            · have later : next ∈ rest := by simpa [same] using member
              exact .inl ⟨next, later, by simpa [same] using found⟩
          · rintro (⟨next, member, found⟩ | found)
            · by_cases same : next = user
              · simp [same, Roster.blank] at found
              · exact ⟨next, by simp [member], by simpa [same] using found⟩
            · exact ⟨user, by simp, found⟩
        simp only [clearUsers, clearChannels, index_set_index, IndexName.ofUser.injEq,
          reduceCtorEq, if_false, reached]
        split <;> split <;> simp_all

theorem forget_channels_congr (held : Holdings) (user : UserId) {first second : List ChannelId}
    (same : ∀ channel, channel ∈ first ↔ channel ∈ second) :
    held.forgetChannels user first = held.forgetChannels user second := by
  simp only [forgetChannels, same]

theorem forget_users_congr (held : Holdings) (channel : ChannelId) {first second : List UserId}
    (same : ∀ user, user ∈ first ↔ user ∈ second) :
    held.forgetUsers channel first = held.forgetUsers channel second := by
  simp only [forgetUsers, List.contains_eq_mem, same]

theorem clear_users_congr (held : Holdings) {first second : List UserId}
    (same : ∀ user, user ∈ first ↔ user ∈ second) :
    held.clearUsers first = held.clearUsers second := by
  simp only [clearUsers, same]

end Holdings

open Holdings

variable {names : KeyNames}

theorem does_touch_index (held : Holdings) (name : IndexName) (id : Uuid) (lifetime : Nat) :
    Does names (Script.touchIndex (names.indexKey name) id.text held.seconds lifetime) held
      (held.touch name id lifetime) := by
  have added := @does_add_member names held name id (held.score lifetime)
  have pruned := @does_remove_up_to names
    (held.setIndex name ((held.index name).add id (held.score lifetime))) name
    held.seconds
  have kept := @does_expire names
    (held.setIndex name
      (((held.index name).add id (held.score lifetime)).prune held.seconds)) name (lifetime + 1)
  simp only [index_set_index_self, set_index_set_index, clock_set_index] at pruned kept
  exact does_then added (does_then pruned kept)

theorem clock_write_entries (held : Holdings) (lifetime : Nat)
    (entries : List SharedCache.Entry) :
    (entries.foldl (writeEntry lifetime) held).clock = held.clock := by
  induction entries generalizing held with
  | nil => rfl
  | cons entry rest ih => exact ih (writeEntry lifetime held entry)

theorem does_write_each (cache : SharedCache) (held : Holdings) (lifetime : Nat)
    (entries : List SharedCache.Entry) :
    Does cache.names
      (Script.writeEach cache.names.users held.seconds lifetime
        (entries.flatMap cache.entryKeys) (entries.flatMap SharedCache.entryArguments))
      held (entries.foldl (writeEntry lifetime) held) := by
  induction entries generalizing held with
  | nil => exact does_nothing
  | cons entry rest ih =>
      have stored := @does_set cache.names held
        ⟨entry.user, entry.channel⟩ entry.mask lifetime
      have listed := @does_touch_index cache.names
        (held.setEntry ⟨entry.user, entry.channel⟩
          (some ⟨entry.mask, held.clock + lifetime * Keyspace.second⟩))
        (.ofUser entry.user) entry.channel lifetime
      refine does_then stored (does_then listed ?_)
      refine does_then (does_touch_index _ (.ofChannel entry.channel) entry.user lifetime) ?_
      refine does_then (does_add_member .users entry.user (held.score lifetime)) ?_
      exact ih (writeEntry lifetime held entry)

theorem does_drop_channels (held : Holdings) (user : UserId) (channels : List ChannelId) :
    Does names (Script.dropChannels names user.text (channels.map Uuid.text)) held
      (held.forgetChannels user channels) := by
  induction channels generalizing held with
  | nil =>
      rw [forget_channels_nil]
      exact does_nothing
  | cons channel rest ih =>
      rw [← forget_channels_cons]
      exact does_then (does_delete_entry ⟨user, channel⟩)
        (does_then (does_remove_member (.ofChannel channel) user) (ih _))

theorem does_forget_if_idle (held : Holdings) (user : UserId) :
    Does names (Script.forgetIfIdle (names.indexKey .users) (names.indexKey (.ofUser user))
        user.text) held
      (held.setIndex .users
        (if (held.index (.ofUser user)).scores.isEmpty then (held.index .users).remove user
          else held.index .users)) := by
  apply performs_bind (performs_count (.ofUser user))
  rintro number after ⟨zero_iff, same⟩
  subst after
  by_cases idle : number = 0
  · rw [if_pos idle, if_pos (zero_iff.mp idle)]
    exact does_remove_member .users user
  · have busy : ¬(held.index (.ofUser user)).scores.isEmpty = true := fun empty =>
      idle (zero_iff.mpr empty)
    rw [if_neg idle, if_neg busy]
    have same : held.setIndex .users (held.index .users) = held := by
      simp [setIndex, Function.update_eq_self]
    rw [same]
    exact does_nothing

theorem does_drop_users (held : Holdings) (channel : ChannelId) (users : List UserId) :
    Does names (Script.dropUsers names (names.indexKey .users) channel.text
        (users.map Uuid.text)) held (held.forgetUsers channel users) := by
  induction users generalizing held with
  | nil =>
      rw [forget_users_nil]
      exact does_nothing
  | cons user rest ih =>
      rw [← forget_users_cons held channel user rest _ rfl]
      refine does_then (does_delete_entry ⟨user, channel⟩)
        (does_then (does_remove_member (.ofUser user) channel) ?_)
      refine does_then (does_forget_if_idle _ user) ?_
      simp only [index_set_index_self, index_set_entry]
      exact ih _

theorem does_clear_channels (held : Holdings) (user : UserId) (channels : List ChannelId) :
    Does names (Script.clearChannels names user.text (channels.map Uuid.text)) held
      (held.clearChannels user channels) := by
  induction channels generalizing held with
  | nil =>
      rw [clear_channels_nil]
      exact does_nothing
  | cons channel rest ih =>
      rw [← clear_channels_cons]
      exact does_then (does_delete_entry ⟨user, channel⟩)
        (does_then (does_delete_index (.ofChannel channel)) (ih _))

theorem does_clear_users (held : Holdings) (users : List UserId) :
    Does names (Script.clearUsers names (users.map Uuid.text)) held
      (held.clearUsers users) := by
  induction users generalizing held with
  | nil =>
      rw [clear_users_nil]
      exact does_nothing
  | cons user rest ih =>
      apply performs_bind (performs_range (.ofUser user))
      rintro found after ⟨⟨channels, rfl, listed⟩, same⟩
      subst after
      rw [← clear_users_cons held user rest channels listed]
      exact does_then (does_clear_channels held user channels)
        (does_then (does_delete_index (.ofUser user)) (ih _))

/-! The scripts as the shared cache calls them. -/

variable (cache : SharedCache) (held : Holdings)

theorem does_write_entries (entries : List SharedCache.Entry)
    (fits : cache.seconds < Text.wordBound) :
    Does cache.names
      (Script.perform .writeEntries (cache.names.users :: entries.flatMap cache.entryKeys)
        (String.ofList (Text.writeNat 10 cache.seconds) ::
          entries.flatMap SharedCache.entryArguments))
      held (held.write cache.seconds entries) := by
  have lifetime : Text.readBelow 10 Text.wordBound
      (String.ofList (Text.writeNat 10 cache.seconds)).toList = some cache.seconds := by
    rw [String.toList_ofList]
    exact Text.read_below_write_nat 10 Text.wordBound cache.seconds (by decide) (by decide) fits
  simp only [Script.perform, lifetime]
  apply performs_bind performs_time
  rintro now after ⟨rfl, same⟩
  subst after
  have pruned := @does_remove_up_to cache.names
    (entries.foldl (writeEntry cache.seconds) held) .users held.seconds
  have kept := @does_expire cache.names
    ((entries.foldl (writeEntry cache.seconds) held).setIndex .users
      (((entries.foldl (writeEntry cache.seconds) held).index .users).prune held.seconds))
    .users (cache.seconds + 1)
  simp only [index_set_index_self, set_index_set_index, clock_set_index,
    clock_write_entries] at kept
  exact does_then (does_write_each cache held cache.seconds entries) (does_then pruned kept)

theorem does_drop_user (user : UserId) :
    Does cache.names
      (Script.perform .dropUser [cache.names.users, cache.names.userIndex user.text]
        [cache.names.scope, user.text])
      held (held.dropUser user) := by
  apply performs_bind (performs_range (.ofUser user))
  rintro found after ⟨⟨channels, rfl, listed⟩, same⟩
  subst after
  have forgotten : held.forgetChannels user channels =
      held.forgetChannels user (held.index (.ofUser user)).scores.keys := by
    apply forget_channels_congr
    intro channel
    rw [listed, Roster.mem_keys_iff]
  rw [dropUser, ← forgotten]
  exact does_then (does_drop_channels held user channels)
    (does_then (does_delete_index (.ofUser user)) (does_remove_member .users user))

theorem does_drop_channel (channel : ChannelId) :
    Does cache.names
      (Script.perform .dropChannel [cache.names.users, cache.names.channelIndex channel.text]
        [cache.names.scope, channel.text])
      held (held.dropChannel channel) := by
  apply performs_bind (performs_range (.ofChannel channel))
  rintro found after ⟨⟨users, rfl, listed⟩, same⟩
  subst after
  have forgotten : held.forgetUsers channel users =
      held.forgetUsers channel (held.index (.ofChannel channel)).scores.keys := by
    apply forget_users_congr
    intro user
    rw [listed, Roster.mem_keys_iff]
  rw [dropChannel, ← forgotten]
  exact does_then (does_drop_users held channel users) (does_delete_index (.ofChannel channel))

theorem does_drop_entry (key : EntryKey) :
    Does cache.names
      (Script.perform .dropEntry
        [cache.names.users, cache.names.entryKey key, cache.names.userIndex key.user.text,
          cache.names.channelIndex key.channel.text]
        [key.user.text, key.channel.text])
      held (held.dropEntry key) := by
  let unlisted := held.setIndex (.ofChannel key.channel)
    ((held.index (.ofChannel key.channel)).remove key.user)
  -- The script takes the channel out of the user's index before the user out of the channel's.
  have reordered : ((held.setEntry key none).setIndex (.ofUser key.user)
      ((held.index (.ofUser key.user)).remove key.channel)).setIndex (.ofChannel key.channel)
        ((held.index (.ofChannel key.channel)).remove key.user) =
      (unlisted.setEntry key none).setIndex (.ofUser key.user)
        ((unlisted.index (.ofUser key.user)).remove key.channel) := by
    apply Holdings.ext
    · rfl
    · rfl
    · exact Function.update_comm (by simp) _ _ _
  have dropped := forget_users_cons unlisted key.channel key.user [] _ rfl
  rw [forget_users_nil] at dropped
  refine does_then (does_delete_entry key)
    (does_then (does_remove_member (.ofUser key.user) key.channel)
      (does_then (does_remove_member (.ofChannel key.channel) key.user) ?_))
  simp only [index_set_index, index_set_entry, reduceCtorEq, if_false, reordered]
  rw [dropEntry, ← dropped]
  have idle := @does_forget_if_idle cache.names
    ((unlisted.setEntry key none).setIndex (.ofUser key.user)
      ((unlisted.index (.ofUser key.user)).remove key.channel)) key.user
  simp only [index_set_index_self] at idle
  exact idle

theorem does_drop_all :
    Does cache.names (Script.perform .dropAll [cache.names.users] [cache.names.scope])
      held held.dropAll := by
  apply performs_bind (performs_range .users)
  rintro found after ⟨⟨users, rfl, listed⟩, same⟩
  subst after
  have cleared : held.clearUsers users = held.clearUsers (held.index .users).scores.keys := by
    apply clear_users_congr
    intro user
    rw [listed, Roster.mem_keys_iff]
  rw [dropAll, ← cleared]
  exact does_then (does_clear_users held users) (does_delete_index .users)

end ChannelAccess
