import ChannelAccess.Proofs.Cache.Clearing
import Mathlib.Data.Set.Card

/-!
# Indexes are exact while nothing expires

As long as no entry runs out, the indexes of a scope list what is there and nothing else. Every
entry is listed by the members that stand for it; conversely every member stands for an entry. A
write adds the members of the entries that it writes, and a drop takes away those of the entries
that it drops, except that a user stays on the users index while another entry of the user is left.
So the sizes of the indexes count entries, and when the last entry is dropped the scope has no keys.
-/

namespace ChannelAccess

set_option autoImplicit false

/-! The members of an index, and the entries that they stand for. -/

section Standing

variable {present : EntryKey → Prop} {user : UserId} {channel : ChannelId}

theorem exists_stands_for_user_index :
    (∃ key, present key ∧ StandsFor key (.ofUser user) channel) ↔ present ⟨user, channel⟩ := by
  constructor
  · rintro ⟨key, there, stands⟩
    cases stands
    exact there
  · exact fun there => ⟨_, there, .channelOfUser⟩

theorem exists_stands_for_channel_index :
    (∃ key, present key ∧ StandsFor key (.ofChannel channel) user) ↔ present ⟨user, channel⟩ := by
  constructor
  · rintro ⟨key, there, stands⟩
    cases stands
    exact there
  · exact fun there => ⟨_, there, .userOfChannel⟩

theorem exists_stands_for_users_index :
    (∃ key, present key ∧ StandsFor key .users user) ↔ ∃ channel, present ⟨user, channel⟩ := by
  constructor
  · rintro ⟨key, there, stands⟩
    cases stands
    exact ⟨key.channel, there⟩
  · exact fun ⟨channel, there⟩ => ⟨_, there, .user⟩

end Standing

namespace Roster

theorem lists_add_iff (roster : Roster) (id other : Uuid) (score : Int) :
    (roster.add id score).Lists other ↔ other = id ∨ roster.Lists other := by
  simp only [lists_iff, score_add]
  by_cases same : other = id <;> simp [same]

theorem texts_size (roster : Roster) :
    (texts roster.scores).size = {id | roster.Lists id}.ncard := by
  have members : {id | roster.Lists id} = ↑roster.scores.keys.toFinset := by
    ext id
    rw [Set.mem_ofPred_eq, List.coe_toFinset, Set.mem_ofPred_eq, mem_keys_iff]
  rw [members, Set.ncard_coe_finset, List.toFinset_card_of_nodup Std.ExtTreeMap.nodup_keys,
    Std.ExtTreeMap.length_keys, texts, Std.ExtTreeMap.size_ofList (distinct_texts _),
    List.length_map, Std.ExtTreeMap.length_toList]

end Roster

namespace Holdings

/-- Every member of an index stands for an entry that is there. -/
def Grounded (held : Holdings) : Prop :=
  ∀ name id, (held.index name).Lists id →
    ∃ key, (∃ entry, held.entry key = some entry) ∧ StandsFor key name id

variable {lifetime : Nat} {held : Holdings} {name : IndexName} {id : Uuid}

theorem lists_iff_stands (indexed : held.Indexed) (grounded : held.Grounded) :
    (held.index name).Lists id ↔
      ∃ key, (∃ entry, held.entry key = some entry) ∧ StandsFor key name id := by
  constructor
  · exact grounded name id
  · rintro ⟨key, ⟨entry, found⟩, stands⟩
    exact indexed key entry found name id stands

theorem grounded_blank (clock : Nat) : (blank clock).Grounded :=
  fun _ _ listed => absurd listed Roster.not_lists_blank

theorem grounded_advance (grounded : held.Grounded) {micros : Nat}
    (unexpired : ∀ key entry, held.entry key = some entry → held.clock + micros < entry.expiry) :
    (held.advance micros).Grounded := by
  intro name id listed
  have before : (held.index name).Lists id := Roster.lists_of_at_time listed
  obtain ⟨key, ⟨entry, found⟩, stands⟩ := grounded name id before
  exact ⟨key, ⟨entry, (entry_advance micros).mpr ⟨found, unexpired key entry found⟩⟩, stands⟩

/-! Writes. -/

theorem lists_of_touch {other : Uuid}
    (listed : ((held.touch name id lifetime).index name).Lists other) :
    other = id ∨ (held.index name).Lists other := by
  rw [touch, index_set_index_self] at listed
  have added : ((held.index name).add id (held.score lifetime)).Lists other :=
    Roster.lists_of_select listed
  exact (Roster.lists_add_iff _ _ _ _).mp added

theorem lists_of_write_entry {entry : SharedCache.Entry}
    (listed : ((writeEntry lifetime held entry).index name).Lists id) :
    StandsFor ⟨entry.user, entry.channel⟩ name id ∨ (held.index name).Lists id := by
  cases name with
  | users =>
      rw [index_write_entry_users, Roster.lists_add_iff] at listed
      refine listed.imp_left ?_
      rintro rfl
      exact .user
  | ofUser user =>
      rw [index_write_entry_of_user] at listed
      split at listed
      case isTrue same =>
        subst same
        refine (lists_of_touch listed).imp_left ?_
        rintro rfl
        exact .channelOfUser
      case isFalse => exact .inr listed
  | ofChannel channel =>
      rw [index_write_entry_of_channel] at listed
      split at listed
      case isTrue same =>
        subst same
        refine (lists_of_touch listed).imp_left ?_
        rintro rfl
        exact .userOfChannel
      case isFalse => exact .inr listed

theorem grounded_write_entry (grounded : held.Grounded) (entry : SharedCache.Entry) :
    (writeEntry lifetime held entry).Grounded := by
  intro name id listed
  have there : ∀ key, (key = ⟨entry.user, entry.channel⟩ ∨ ∃ given, held.entry key = some given) →
      ∃ given, (writeEntry lifetime held entry).entry key = some given := by
    intro key origin
    rw [entry_write_entry]
    split
    case isTrue => exact ⟨_, rfl⟩
    case isFalse other => exact origin.resolve_left other
  rcases lists_of_write_entry listed with written | before
  · exact ⟨_, there _ (.inl rfl), written⟩
  · obtain ⟨key, found, stands⟩ := grounded name id before
    exact ⟨key, there key (.inr found), stands⟩

theorem grounded_write_entries (grounded : held.Grounded) (entries : List SharedCache.Entry) :
    (entries.foldl (writeEntry lifetime) held).Grounded := by
  induction entries generalizing held with
  | nil => exact grounded
  | cons entry rest ih => exact ih (grounded_write_entry grounded entry)

theorem grounded_set_index {written : IndexName} {roster : Roster} (grounded : held.Grounded)
    (fewer : ∀ id, roster.Lists id → (held.index written).Lists id) :
    (held.setIndex written roster).Grounded := by
  intro name id listed
  refine grounded name id ?_
  rw [index_set_index] at listed
  split at listed
  case isTrue same =>
    rw [same]
    exact fewer id listed
  case isFalse => exact listed

theorem grounded_write (grounded : held.Grounded) (entries : List SharedCache.Entry) :
    (held.write lifetime entries).Grounded :=
  grounded_set_index (grounded_write_entries grounded entries)
    fun _ listed => Roster.lists_of_select listed

/-! Drops. -/

theorem not_lists_dropped (indexed : held.Indexed) {scope : Invalidation} {key : EntryKey}
    {entry : TimedMask} (found : held.entry key = some entry)
    (covers : scope.covers key.user key.channel = true) (notUsers : name ≠ .users)
    (stands : StandsFor key name id) : ¬((held.dropScope scope).index name).Lists id := by
  have onUser : key.channel ∈ (held.index (.ofUser key.user)).scores :=
    indexed key entry found _ _ .channelOfUser
  have onChannel : key.user ∈ (held.index (.ofChannel key.channel)).scores :=
    indexed key entry found _ _ .userOfChannel
  -- A scoped drop erases the index that it goes through; in the other one it removes what it met.
  cases scope with
  | all =>
      rw [dropScope, index_drop_all_of_visits (visits_of_indexed indexed found stands)]
      exact Roster.not_lists_blank
  | ofUser user =>
      obtain rfl : user = key.user := by simpa [Invalidation.covers] using covers
      cases stands with
      | user => exact absurd rfl notUsers
      | channelOfUser =>
          simp [dropScope, dropUser, index_set_index, Roster.not_lists_blank]
      | userOfChannel =>
          simp [dropScope, dropUser, forgetChannels, index_set_index, onUser, Roster.lists_remove]
  | ofChannel channel =>
      obtain rfl : channel = key.channel := by simpa [Invalidation.covers] using covers
      cases stands with
      | user => exact absurd rfl notUsers
      | channelOfUser =>
          simp [dropScope, dropChannel, forgetUsers, index_set_index, onChannel,
            Roster.lists_remove]
      | userOfChannel =>
          simp [dropScope, dropChannel, Roster.not_lists_blank]
  | ofEntry user channel =>
      obtain ⟨rfl, rfl⟩ : user = key.user ∧ channel = key.channel := by
        simpa [Invalidation.covers] using covers
      cases stands with
      | user => exact absurd rfl notUsers
      | channelOfUser =>
          simp [dropScope, dropEntry, forgetUsers, index_set_index, Roster.lists_remove]
      | userOfChannel =>
          simp [dropScope, dropEntry, forgetUsers, index_set_index, Roster.lists_remove]

theorem busy_after_forget_users {channel : ChannelId} {users : List UserId} {user : UserId}
    (busy : ∃ channel, (held.index (.ofUser user)).Lists channel)
    (listed : ((held.forgetUsers channel users).index .users).Lists user) :
    ∃ other, ((held.forgetUsers channel users).index (.ofUser user)).Lists other := by
  by_cases leaves : user ∈ users
  case pos =>
    obtain ⟨score, found⟩ := (Roster.lists_iff _ _).mp listed
    rw [forgetUsers, Roster.score_select] at found
    have stays := (Option.filter_eq_some_iff.mp found).2
    have others : ¬((held.index (.ofUser user)).remove channel).scores.isEmpty = true := by
      simpa [leaves] using stays
    have left : (held.forgetUsers channel users).index (.ofUser user) =
        (held.index (.ofUser user)).remove channel := if_pos leaves
    rw [left]
    rw [Roster.is_empty_iff] at others
    exact Classical.not_forall_not.mp others
  case neg =>
    have same : (held.forgetUsers channel users).index (.ofUser user) =
        held.index (.ofUser user) := if_neg leaves
    rwa [same]

theorem busy_after_drop_scope (indexed : held.Indexed) (grounded : held.Grounded)
    {scope : Invalidation} {user : UserId}
    (listed : ((held.dropScope scope).index .users).Lists user) :
    ∃ channel, ((held.dropScope scope).index (.ofUser user)).Lists channel := by
  have listedBefore := Roster.lists_of_shrinks (shrinks_drop_scope held scope .users) listed
  have busy : ∃ channel, (held.index (.ofUser user)).Lists channel := by
    obtain ⟨key, ⟨entry, found⟩, stands⟩ := grounded _ _ listedBefore
    cases stands
    exact ⟨key.channel, indexed key entry found _ _ .channelOfUser⟩
  cases scope with
  | all =>
      have cleared : (held.dropScope .all).index .users = .blank :=
        @index_drop_all_of_visits held .users trivial
      rw [cleared] at listed
      exact absurd listed Roster.not_lists_blank
  | ofUser dropped =>
      have removed : (held.dropScope (.ofUser dropped)).index .users =
          (held.index .users).remove dropped := by
        simp [dropScope, dropUser, forgetChannels, index_set_index]
      rw [removed, Roster.lists_remove] at listed
      simpa [dropScope, dropUser, forgetChannels, index_set_index, listed.1] using busy
  | ofChannel channel =>
      have after := @busy_after_forget_users held channel
        (held.index (.ofChannel channel)).scores.keys user busy
      simpa [dropScope, dropChannel, index_set_index] using after listed
  | ofEntry dropped channel =>
      let unlisted := held.setIndex (.ofChannel channel)
        ((held.index (.ofChannel channel)).remove dropped)
      have busyStill : ∃ channel, (unlisted.index (.ofUser user)).Lists channel := by
        simpa [unlisted, index_set_index] using busy
      exact busy_after_forget_users busyStill listed

theorem entry_left_of_lists (indexed : held.Indexed) (grounded : held.Grounded)
    {scope : Invalidation} (notUsers : name ≠ .users)
    (listed : ((held.dropScope scope).index name).Lists id) :
    ∃ key, (∃ entry, (held.dropScope scope).entry key = some entry) ∧ StandsFor key name id := by
  have listedBefore := Roster.lists_of_shrinks (shrinks_drop_scope held scope name) listed
  obtain ⟨key, ⟨entry, found⟩, stands⟩ := grounded name id listedBefore
  have outside : ¬scope.covers key.user key.channel = true := fun covers =>
    not_lists_dropped indexed found covers notUsers stands listed
  refine ⟨key, ⟨entry, ?_⟩, stands⟩
  rw [entry_drop_scope indexed, if_neg outside]
  exact found

theorem grounded_drop_scope (indexed : held.Indexed) (grounded : held.Grounded)
    (scope : Invalidation) : (held.dropScope scope).Grounded := by
  intro name id listed
  by_cases users : name = .users
  · subst users
    obtain ⟨channel, onUser⟩ := busy_after_drop_scope indexed grounded listed
    obtain ⟨key, left, stands⟩ := entry_left_of_lists indexed grounded (by simp) onUser
    cases stands
    exact ⟨key, left, .user⟩
  · exact entry_left_of_lists indexed grounded users listed

theorem grounded_after (indexed : held.Indexed) (grounded : held.Grounded)
    (order : List SharedCache.Entry) (query : CacheQuery) :
    (held.after lifetime order query).Grounded :=
  kept_after grounded (grounded_write grounded order) (grounded_drop_scope indexed grounded)

end Holdings

/-- An index key holds a set of so many members. -/
def CacheServer.IndexHas (server : CacheServer) (key : String) (number : Nat) : Prop :=
  ∃ scores expiry, server.space.membersAt key = .ok (scores, expiry) ∧ scores.size = number

namespace SharedCache

open Holdings

/-- The servers that caches at work leave behind when they start without keys of a scope and time
never passes so far that an entry runs out. -/
inductive ReachedUnexpired (names : KeyNames) (atWork : SharedCache → Prop) :
    CacheServer → Prop where
  | start (server : CacheServer) (untouched : server.Untouched names) :
      ReachedUnexpired names atWork server
  | wait (server : CacheServer) (micros : Nat) (reached : ReachedUnexpired names atWork server)
      (unexpired : ∀ key, names.entryKey key ∈ server.space.slots →
        names.entryKey key ∈ (server.advance micros).space.slots) :
      ReachedUnexpired names atWork (server.advance micros)
  | ask (server : CacheServer) (cache : SharedCache) (query : CacheQuery) (order : List Entry)
      (reached : ReachedUnexpired names atWork server) (working : atWork cache)
      (arranged : order.Perm query.entries) :
      ReachedUnexpired names atWork ((cache.exchangeInOrder order query).settle server).2

variable {cache : SharedCache} {server : CacheServer} {held : Holdings}

theorem reached_unexpired_reply {names : KeyNames} {atWork : SharedCache → Prop}
    (reached : ReachedUnexpired names atWork server) (working : atWork cache)
    (query : CacheQuery) : ReachedUnexpired names atWork (cache.reply query server).2 := by
  rw [reply_eq_settle]
  exact .ask server cache query query.entries reached working (.refl _)

theorem mem_slots_iff (serves : cache.Serves server held) (key : EntryKey) :
    cache.names.entryKey key ∈ server.space.slots ↔ ∃ entry, held.entry key = some entry := by
  rw [Std.ExtTreeMap.mem_iff_isSome_getElem?, serves.depicts.entry, Option.isSome_map,
    Option.isSome_iff_exists]

theorem unexpired_iff (serves : cache.Serves server held) (micros : Nat) :
    (∀ key, cache.names.entryKey key ∈ server.space.slots →
        cache.names.entryKey key ∈ (server.advance micros).space.slots) ↔
      ∀ key entry, held.entry key = some entry → held.clock + micros < entry.expiry := by
  simp only [mem_slots_iff serves, mem_slots_iff (serves_advance serves micros), entry_advance]
  constructor
  · intro kept key entry found
    obtain ⟨same, foundToo, alive⟩ := kept key ⟨entry, found⟩
    obtain rfl : entry = same := Option.some.inj (found.symm.trans foundToo)
    exact alive
  · rintro alive key ⟨entry, found⟩
    exact ⟨entry, found, alive key entry found⟩

theorem serves_grounded_of_unexpired {atWork : SharedCache → Prop}
    (fits : cache.seconds < Text.wordBound) (alike : ∀ other, atWork other → other = cache)
    (reached : ReachedUnexpired cache.names atWork server) :
    ∃ held, cache.Serves server held ∧ held.Covered cache.seconds ∧ held.Grounded := by
  induction reached with
  | start server untouched =>
      exact ⟨_, serves_untouched untouched, covered_blank _, grounded_blank _⟩
  | wait server micros _ unexpired ih =>
      obtain ⟨held, serves, covered, grounded⟩ := ih
      exact ⟨_, serves_advance serves micros, covered_advance covered micros,
        grounded_advance grounded ((unexpired_iff serves micros).mp unexpired)⟩
  | ask server other query order _ working arranged ih =>
      obtain ⟨held, serves, covered, grounded⟩ := ih
      obtain rfl := alike other working
      obtain ⟨next, settled, servesNext⟩ := settle_in_order serves fits order query
      rw [settled]
      exact ⟨_, servesNext, covered_after other.seconds_pos covered,
        grounded_after (indexed_of_covered covered) grounded order query⟩

theorem index_lists_iff_stands (serves : cache.Serves server held) (indexed : held.Indexed)
    (grounded : held.Grounded) (name : IndexName) (id : Uuid) :
    server.IndexLists (cache.names.indexKey name) id ↔
      ∃ key, cache.names.entryKey key ∈ server.space.slots ∧ StandsFor key name id := by
  simp only [index_lists_iff serves, lists_iff_stands indexed grounded, mem_slots_iff serves]

theorem index_has_of_grounded (serves : cache.Serves server held) (indexed : held.Indexed)
    (grounded : held.Grounded) (name : IndexName) :
    server.IndexHas (cache.names.indexKey name) {id | ∃ key,
      cache.names.entryKey key ∈ server.space.slots ∧ StandsFor key name id}.ncard := by
  refine ⟨_, _, members_at_index serves.depicts name, ?_⟩
  simp only [Roster.texts_size, lists_iff_stands indexed grounded, mem_slots_iff serves]

theorem index_exists_iff (serves : cache.Serves server held) (name : IndexName) :
    cache.names.indexKey name ∈ server.space.slots ↔
      ∃ id, server.IndexLists (cache.names.indexKey name) id := by
  simp only [index_lists_iff serves]
  rw [Std.ExtTreeMap.mem_iff_isSome_getElem?, serves.depicts.index, Option.isSome_iff_ne_none,
    ne_eq, Roster.slot_eq_none_iff, Classical.not_forall_not]

/-- On every server that caches of one scope and one lifetime leave behind while no entry runs out
the index of a user and that of a channel list each other exactly if the entry of the two is there,
and a user is on the users index exactly if the user has an index. So the sizes of the indexes are
numbers of entries that are there, and without entries there are no keys of the scope at all. -/
theorem indexes_exact_while_nothing_expires {names : KeyNames} {seconds : Nat}
    {server : CacheServer} (fits : seconds < Text.wordBound)
    (reached : ReachedUnexpired names (Under names seconds) server) {cache : SharedCache}
    (atWork : cache.Under names seconds) :
    (∀ user channel,
      (server.IndexLists (names.userIndex user.text) channel ↔
        names.entryKey ⟨user, channel⟩ ∈ server.space.slots) ∧
      (server.IndexLists (names.channelIndex channel.text) user ↔
        names.entryKey ⟨user, channel⟩ ∈ server.space.slots)) ∧
    (∀ user, server.IndexLists names.users user ↔
      names.userIndex user.text ∈ server.space.slots) ∧
    (∀ user, server.IndexHas (names.userIndex user.text)
      {channel | names.entryKey ⟨user, channel⟩ ∈ server.space.slots}.ncard) ∧
    (∀ channel, server.IndexHas (names.channelIndex channel.text)
      {user | names.entryKey ⟨user, channel⟩ ∈ server.space.slots}.ncard) ∧
    server.IndexHas names.users
      {user | ∃ channel, names.entryKey ⟨user, channel⟩ ∈ server.space.slots}.ncard ∧
    ((∀ key, names.entryKey key ∉ server.space.slots) → server.Untouched names) := by
  obtain ⟨rfl, rfl⟩ := atWork
  obtain ⟨held, serves, covered, grounded⟩ := serves_grounded_of_unexpired fits
    (fun other working => eq_of_under ⟨rfl, rfl⟩ working) reached
  have indexed := indexed_of_covered covered
  have lists := index_lists_iff_stands serves indexed grounded
  have has := index_has_of_grounded serves indexed grounded
  refine ⟨?pairs, ?users, ?ofUser, ?ofChannel, ?all, ?none⟩
  case pairs =>
    intro user channel
    exact ⟨(lists (.ofUser user) channel).trans exists_stands_for_user_index,
      (lists (.ofChannel channel) user).trans exists_stands_for_channel_index⟩
  case users =>
    intro user
    have listed := (lists .users user).trans exists_stands_for_users_index
    have existing := index_exists_iff serves (.ofUser user)
    simp only [lists, exists_stands_for_user_index] at existing
    exact listed.trans existing.symm
  case ofUser =>
    intro user
    have number := has (.ofUser user)
    simp only [exists_stands_for_user_index] at number
    exact number
  case ofChannel =>
    intro channel
    have number := has (.ofChannel channel)
    simp only [exists_stands_for_channel_index] at number
    exact number
  case all =>
    have number := has .users
    simp only [exists_stands_for_users_index] at number
    exact number
  case none =>
    intro empty
    have noEntry : ∀ key, held.entry key = none := fun key =>
      (slot_at_entry_eq_none_iff serves key).mp (Std.ExtTreeMap.getElem?_eq_none (empty key))
    apply untouched_of_nothing_held serves noEntry
    intro name id listed
    obtain ⟨key, ⟨entry, found⟩, _⟩ := grounded name id listed
    rw [noEntry key] at found
    contradiction

/-- Two channels of a user, cached 200 seconds apart, and a drop of the first of them while its
entry is there. -/
theorem indexes_exact_while_nothing_expires_after_drop :
    let user : UserId := .ofNat 1
    let dropped : ChannelId := .ofNat 2
    let kept : ChannelId := .ofNat 3
    let cache := SharedCache.opened "permissions" 300
    let first := (cache.reply (.set user dropped .all) ⟨.blank 0, none⟩).2
    let second := (cache.reply (.set user kept .all) (first.advance 200000000)).2
    let server := (cache.reply (.deleteByChannel dropped) second).2
    300 < Text.wordBound ∧ ReachedUnexpired cache.names (Under cache.names 300) server ∧
      cache.Under cache.names 300 ∧
      ¬server.IndexLists (cache.names.userIndex user.text) dropped ∧
      server.IndexLists (cache.names.userIndex user.text) kept ∧
      server.IndexLists (cache.names.channelIndex kept.text) user ∧
      server.IndexLists cache.names.users user := by
  intro user dropped kept cache first second server
  have fits : cache.seconds < Text.wordBound := by decide
  have atWork : cache.Under cache.names 300 := ⟨rfl, rfl⟩
  have untouched := CacheServer.untouched_blank cache.names 0
  -- The same on the holdings, which have no texts to compare.
  let heldFirst := (Holdings.blank 0).after 300 [⟨user, dropped, .all⟩] (.set user dropped .all)
  let heldSecond := (heldFirst.advance 200000000).after 300 [⟨user, kept, .all⟩]
    (.set user kept .all)
  have servesFirst : cache.Serves first heldFirst :=
    serves_reply (serves_untouched untouched) fits _
  have servesSecond : cache.Serves second heldSecond :=
    serves_reply (serves_advance servesFirst _) fits _
  have serves : cache.Serves server (heldSecond.dropScope (.ofChannel dropped)) :=
    serves_reply servesSecond fits _
  have unexpired : ∀ key entry, heldFirst.entry key = some entry →
      heldFirst.clock + 200000000 < entry.expiry := by
    intro key entry found
    rcases entry_after found with before | written
    · simp [Holdings.blank] at before
    · rw [written, clock_after]
      decide
  have reachedFirst : ReachedUnexpired cache.names (Under cache.names 300) first :=
    reached_unexpired_reply (.start _ untouched) atWork _
  have reached : ReachedUnexpired cache.names (Under cache.names 300) server :=
    reached_unexpired_reply (reached_unexpired_reply (.wait first 200000000 reachedFirst
      ((unexpired_iff servesFirst _).mpr unexpired)) atWork _) atWork _
  have entries : (heldSecond.dropScope (.ofChannel dropped)).entry ⟨user, dropped⟩ = none ∧
      (heldSecond.dropScope (.ofChannel dropped)).entry ⟨user, kept⟩ =
        some ⟨.all, 500000000⟩ := by
    decide +kernel
  have gone : cache.names.entryKey ⟨user, dropped⟩ ∉ server.space.slots := by
    rw [mem_slots_iff serves, entries.1]
    simp
  have there : cache.names.entryKey ⟨user, kept⟩ ∈ server.space.slots :=
    (mem_slots_iff serves _).mpr ⟨_, entries.2⟩
  obtain ⟨pairs, users, _⟩ := indexes_exact_while_nothing_expires fits reached atWork
  have onUser := (pairs user kept).1.mpr there
  have hasIndex : cache.names.userIndex user.text ∈ server.space.slots :=
    (index_exists_iff serves (.ofUser user)).mpr ⟨kept, onUser⟩
  exact ⟨fits, reached, atWork, fun listed => gone ((pairs user dropped).1.mp listed), onUser,
    (pairs user kept).2.mpr there, (users user).mpr hasIndex⟩

end SharedCache

end ChannelAccess
