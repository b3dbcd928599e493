import ChannelAccess.Proofs.Cache.MixedLifetimes

/-!
# What a full drop leaves behind

A drop of everything walks from the users index to the indexes of the users on it, and from these to
the channels that they list. It takes away every entry, the users index, and every index that it
visits. The index of a channel can be kept alive by a later write of another user, whose entries are
then dropped, until the index of the only user on it is over; the walk does not visit it any more,
and it stays. An index that stays is one of a user or a channel without entries, and is over when
the lifetime of an entry and a second have gone by.
-/

namespace ChannelAccess

set_option autoImplicit false

namespace Roster

def Shrinks (before after : Roster) : Prop :=
  ∃ stays, after = before.select stays

def EndsBy (roster : Roster) (time : Nat) : Prop :=
  ∀ id, roster.Lists id → ∃ deadline, roster.expiry = some deadline ∧ deadline ≤ time

variable {roster before after : Roster} {id : Uuid} {time : Nat}

theorem not_lists_blank : ¬blank.Lists id := by
  simp [Lists, blank]

theorem lists_of_select {stays : Uuid → Int → Bool} (listed : (roster.select stays).Lists id) :
    roster.Lists id := by
  obtain ⟨score, found⟩ := (lists_iff _ id).mp listed
  rw [score_select] at found
  exact (lists_iff roster id).mpr ⟨score, (Option.filter_eq_some_iff.mp found).1⟩

theorem lists_of_shrinks (shrinks : before.Shrinks after) (listed : after.Lists id) :
    before.Lists id := by
  obtain ⟨stays, rfl⟩ := shrinks
  exact lists_of_select listed

theorem shrinks_self : roster.Shrinks roster :=
  ⟨fun _ _ => true, (select_all roster).symm⟩

theorem shrinks_blank : roster.Shrinks blank := by
  refine ⟨fun _ _ => false, ?_⟩
  have nobody : roster.scores.filter (fun _ _ => false) = ∅ := by
    apply Std.ExtTreeMap.ext_getElem?
    intro id
    cases found : roster.scores[id]? <;> simp [found]
  rw [select, nobody]
  rfl

theorem shrinks_remove : roster.Shrinks (roster.remove id) :=
  ⟨_, rfl⟩

theorem shrinks_trans {middle : Roster} (first : before.Shrinks middle)
    (second : middle.Shrinks after) : before.Shrinks after := by
  obtain ⟨stays, rfl⟩ := first
  obtain ⟨stay, rfl⟩ := second
  exact ⟨_, select_select before stays stay⟩

theorem expiry_of_listed {scores : IdMap Int} {expiry : Option Nat}
    (listed : (ofScores scores expiry).Lists id) : (ofScores scores expiry).expiry = expiry := by
  rw [expiry_of_scores, if_neg]
  intro empty
  exact (is_empty_iff _).mp empty id listed

theorem ends_by_shrinks (ends : before.EndsBy time) (shrinks : before.Shrinks after) :
    after.EndsBy time := by
  intro id listed
  obtain ⟨deadline, expires, soon⟩ := ends id (lists_of_shrinks shrinks listed)
  obtain ⟨stays, rfl⟩ := shrinks
  exact ⟨deadline, (expiry_of_listed listed).trans expires, soon⟩

theorem ends_by_keep_until {expiry : Nat} : (roster.keepUntil expiry).EndsBy expiry :=
  fun _ listed => ⟨expiry, expiry_of_listed listed, Nat.le_refl expiry⟩

theorem at_time_eq_or (roster : Roster) (clock : Nat) :
    roster.atTime clock = roster ∨ roster.atTime clock = blank := by
  rw [atTime]
  split
  · exact .inl rfl
  · split
    · exact .inl rfl
    · exact .inr rfl

theorem ends_by_at_time (ends : roster.EndsBy time) {later : Nat} (after : time ≤ later)
    (clock : Nat) : (roster.atTime clock).EndsBy later := by
  intro id listed
  rcases roster.at_time_eq_or clock with same | ended
  · rw [same] at listed ⊢
    obtain ⟨deadline, expires, soon⟩ := ends id listed
    exact ⟨deadline, expires, by omega⟩
  · rw [ended] at listed
    exact absurd listed not_lists_blank

theorem lists_of_at_time {clock : Nat} (listed : (roster.atTime clock).Lists id) :
    roster.Lists id := by
  rcases roster.at_time_eq_or clock with same | ended
  · rwa [same] at listed
  · rw [ended] at listed
    exact absurd listed not_lists_blank

theorem not_lists_at_time (ends : roster.EndsBy time) {clock : Nat} (past : time ≤ clock) :
    ¬(roster.atTime clock).Lists id := by
  intro listed
  obtain ⟨deadline, expires, soon⟩ := ends id (lists_of_at_time listed)
  have ended : roster.atTime clock = blank := by
    rw [atTime, expires]
    exact if_neg (by omega)
  rw [ended] at listed
  exact not_lists_blank listed

theorem slot_eq_none_iff (roster : Roster) : roster.slot? = none ↔ ∀ id, ¬roster.Lists id := by
  rw [← is_empty_iff, slot?]
  split <;> simp_all

end Roster

namespace Holdings

/-- The indexes that a drop of everything visits. -/
def Visits (held : Holdings) : IndexName → Prop
  | .users => True
  | .ofUser user => (held.index .users).Lists user
  | .ofChannel channel =>
      ∃ user, (held.index .users).Lists user ∧ (held.index (.ofUser user)).Lists channel

/-- No index lasts longer than one that is written now. -/
def Ending (lifetime : Nat) (held : Holdings) : Prop :=
  ∀ name, (held.index name).EndsBy (held.indexExpiry lifetime)

variable {lifetime : Nat} {held : Holdings} {name : IndexName}

/-! The walk. -/

theorem index_drop_all_of_visits (visits : held.Visits name) :
    held.dropAll.index name = .blank := by
  cases name with
  | users => exact index_set_index_self _ _ _
  | ofUser user =>
      have walked := (Roster.mem_keys_iff _ user).mpr visits
      rw [dropAll, index_set_index, if_neg (by simp), clearUsers]
      exact if_pos walked
  | ofChannel channel =>
      obtain ⟨user, onUsers, onUser⟩ := visits
      have walked : ∃ user ∈ (held.index .users).scores.keys,
          channel ∈ (held.index (.ofUser user)).scores :=
        ⟨user, (Roster.mem_keys_iff _ user).mpr onUsers, onUser⟩
      rw [dropAll, index_set_index, if_neg (by simp), clearUsers]
      exact if_pos walked

theorem index_drop_all_of_not_visits (unvisited : ¬held.Visits name) :
    held.dropAll.index name = held.index name := by
  cases name with
  | users => exact absurd trivial unvisited
  | ofUser user =>
      have unwalked : user ∉ (held.index .users).scores.keys :=
        fun walked => unvisited ((Roster.mem_keys_iff _ user).mp walked)
      rw [dropAll, index_set_index, if_neg (by simp), clearUsers]
      exact if_neg unwalked
  | ofChannel channel =>
      have unwalked : ¬∃ user ∈ (held.index .users).scores.keys,
          channel ∈ (held.index (.ofUser user)).scores := by
        rintro ⟨user, onUsers, onUser⟩
        exact unvisited ⟨user, (Roster.mem_keys_iff _ user).mp onUsers, onUser⟩
      rw [dropAll, index_set_index, if_neg (by simp), clearUsers]
      exact if_neg unwalked

theorem visits_of_indexed (indexed : held.Indexed) {key : EntryKey} {entry : TimedMask}
    (found : held.entry key = some entry) {id : Uuid} (stands : StandsFor key name id) :
    held.Visits name := by
  have onUsers := indexed key entry found _ _ .user
  cases stands with
  | user => trivial
  | channelOfUser => exact onUsers
  | userOfChannel => exact ⟨key.user, onUsers, indexed key entry found _ _ .channelOfUser⟩

/-! Drops take members out of indexes and do nothing else to them. -/

theorem shrinks_forget_users (held : Holdings) (channel : ChannelId) (users : List UserId)
    (name : IndexName) :
    (held.index name).Shrinks ((held.forgetUsers channel users).index name) := by
  cases name with
  | users => exact ⟨_, rfl⟩
  | ofUser user =>
      change Roster.Shrinks _ (if user ∈ users then (held.index (.ofUser user)).remove channel
        else held.index (.ofUser user))
      split
      · exact Roster.shrinks_remove
      · exact Roster.shrinks_self
  | ofChannel _ => exact Roster.shrinks_self

theorem shrinks_forget_channels (held : Holdings) (user : UserId) (channels : List ChannelId)
    (name : IndexName) :
    (held.index name).Shrinks ((held.forgetChannels user channels).index name) := by
  cases name with
  | users => exact Roster.shrinks_self
  | ofUser _ => exact Roster.shrinks_self
  | ofChannel channel =>
      change Roster.Shrinks _ (if channel ∈ channels then
        (held.index (.ofChannel channel)).remove user else held.index (.ofChannel channel))
      split
      · exact Roster.shrinks_remove
      · exact Roster.shrinks_self

theorem shrinks_set_index {written : IndexName} {roster : Roster}
    (shrinks : (held.index written).Shrinks roster) (name : IndexName) :
    (held.index name).Shrinks ((held.setIndex written roster).index name) := by
  rw [index_set_index]
  split
  case isTrue same => rwa [same]
  case isFalse => exact Roster.shrinks_self

theorem shrinks_drop_scope (held : Holdings) (scope : Invalidation) (name : IndexName) :
    (held.index name).Shrinks ((held.dropScope scope).index name) := by
  cases scope with
  | all =>
      by_cases visits : held.Visits name
      · rw [dropScope, index_drop_all_of_visits visits]
        exact Roster.shrinks_blank
      · rw [dropScope, index_drop_all_of_not_visits visits]
        exact Roster.shrinks_self
  | ofUser user =>
      refine Roster.shrinks_trans (shrinks_forget_channels held user
        (held.index (.ofUser user)).scores.keys name) ?_
      exact Roster.shrinks_trans (shrinks_set_index Roster.shrinks_blank name)
        (shrinks_set_index Roster.shrinks_remove name)
  | ofChannel channel =>
      exact Roster.shrinks_trans (shrinks_forget_users _ _ _ name)
        (shrinks_set_index Roster.shrinks_blank name)
  | ofEntry user channel =>
      exact Roster.shrinks_trans (shrinks_set_index Roster.shrinks_remove name)
        (shrinks_forget_users _ _ _ name)

/-! How long indexes last. -/

theorem ending_blank (clock : Nat) : (blank clock).Ending lifetime :=
  fun _ _ listed => absurd listed Roster.not_lists_blank

theorem ending_advance (ending : held.Ending lifetime) (micros : Nat) :
    (held.advance micros).Ending lifetime := by
  intro name
  have later : held.indexExpiry lifetime ≤ (held.advance micros).indexExpiry lifetime := by
    simp only [indexExpiry, advance]
    omega
  exact Roster.ends_by_at_time (ending name) later _

theorem ending_drop_scope (ending : held.Ending lifetime) (scope : Invalidation) :
    (held.dropScope scope).Ending lifetime := by
  intro name
  rw [indexExpiry, clock_drop_scope]
  exact Roster.ends_by_shrinks (ending name) (shrinks_drop_scope held scope name)

theorem ends_by_touch {id : Uuid} :
    ((held.touch name id lifetime).index name).EndsBy (held.indexExpiry lifetime) := by
  rw [touch, index_set_index_self]
  exact Roster.ends_by_keep_until

/-- The users index is left out, since its expiry is set when all entries are written. -/
theorem ending_write_entries (entries : List SharedCache.Entry)
    (ending : ∀ name, name ≠ .users → (held.index name).EndsBy (held.indexExpiry lifetime)) :
    ∀ name, name ≠ .users → ((entries.foldl (writeEntry lifetime) held).index name).EndsBy
      (held.indexExpiry lifetime) := by
  induction entries generalizing held with
  | nil => exact ending
  | cons entry rest ih =>
      apply @ih (writeEntry lifetime held entry)
      intro name notUsers
      cases name with
      | users => exact absurd rfl notUsers
      | ofUser user =>
          rw [index_write_entry_of_user]
          split
          · exact ends_by_touch
          · exact ending _ notUsers
      | ofChannel channel =>
          rw [index_write_entry_of_channel]
          split
          · exact ends_by_touch
          · exact ending _ notUsers

theorem ending_write (ending : held.Ending lifetime) (entries : List SharedCache.Entry) :
    (held.write lifetime entries).Ending lifetime := by
  have others := ending_write_entries entries fun name _ => ending name
  have clock : (held.write lifetime entries).clock = held.clock :=
    clock_write_entries held lifetime entries
  intro name
  rw [indexExpiry, clock, ← indexExpiry, write, index_set_index]
  split
  case isTrue => exact Roster.ends_by_keep_until
  case isFalse notUsers => exact others name notUsers

theorem ending_after (ending : held.Ending lifetime) (order : List SharedCache.Entry)
    (query : CacheQuery) : (held.after lifetime order query).Ending lifetime :=
  kept_after ending (ending_write ending order) (ending_drop_scope ending)

theorem not_lists_past_ending (ending : held.Ending lifetime) {micros : Nat}
    (long : (lifetime + 1) * Keyspace.second ≤ micros) (name : IndexName) (id : Uuid) :
    ¬((held.advance micros).index name).Lists id :=
  Roster.not_lists_at_time (ending name) (Nat.add_le_add_left long held.clock)

end Holdings

/-- The indexes on a server that a drop of everything under a scope visits. -/
def CacheServer.Visits (server : CacheServer) (names : KeyNames) : IndexName → Prop
  | .users => True
  | .ofUser user => server.IndexLists names.users user
  | .ofChannel channel =>
      ∃ user, server.IndexLists names.users user ∧
        server.IndexLists (names.userIndex user.text) channel

namespace SharedCache

open Holdings

variable {cache : SharedCache} {server : CacheServer} {held : Holdings}

theorem visits_iff (serves : cache.Serves server held) (name : IndexName) :
    server.Visits cache.names name ↔ held.Visits name := by
  cases name with
  | users => rfl
  | ofUser user => exact index_lists_iff serves .users user
  | ofChannel channel =>
      apply exists_congr
      intro user
      exact and_congr (index_lists_iff serves .users user)
        (index_lists_iff serves (.ofUser user) channel)

theorem slot_at_entry_eq_none_iff (serves : cache.Serves server held) (key : EntryKey) :
    server.space.slots[cache.names.entryKey key]? = none ↔ held.entry key = none := by
  rw [serves.depicts.entry, Option.map_eq_none_iff]

theorem untouched_of_nothing_held (serves : cache.Serves server held)
    (noEntry : ∀ key, held.entry key = none) (noMember : ∀ name id, ¬(held.index name).Lists id) :
    server.Untouched cache.names := by
  constructor
  · exact serves.refusal
  · exact fun key => (slot_at_entry_eq_none_iff serves key).mpr (noEntry key)
  · intro name
    rw [serves.depicts.index, Roster.slot_eq_none_iff]
    exact noMember name

theorem serves_ending_of_reached {atWork : SharedCache → Prop}
    (fits : cache.seconds < Text.wordBound) (alike : ∀ other, atWork other → other = cache)
    (reached : Reached cache.names atWork server) :
    ∃ held, cache.Serves server held ∧ held.Covered cache.seconds ∧
      held.Ending cache.seconds := by
  induction reached with
  | start server untouched =>
      exact ⟨_, serves_untouched untouched, covered_blank _, ending_blank _⟩
  | next _ step ih =>
      obtain ⟨held, serves, covered, ending⟩ := ih
      cases step with
      | wait _ micros =>
          exact ⟨_, serves_advance serves micros, covered_advance covered micros,
            ending_advance ending micros⟩
      | ask other query order _ working arranged =>
          have same := alike other working
          subst same
          obtain ⟨next, settled, servesNext⟩ := settle_in_order serves fits order query
          rw [settled]
          exact ⟨_, servesNext, covered_after other.seconds_pos covered,
            ending_after ending order query⟩

/-- On every server that caches of one scope and one lifetime leave behind a drop of everything
succeeds. Of the keys of the scope there are left exactly the indexes that its walk does not visit,
as they were. These are indexes of users and channels that had no entries any more, and they are
over as well when the lifetime of an entry and a second have gone by. -/
theorem full_drop_leaves_unvisited_indexes {names : KeyNames} {seconds : Nat}
    {server : CacheServer} (fits : seconds < Text.wordBound)
    (reached : Reached names (Under names seconds) server) {cache : SharedCache}
    (atWork : cache.Under names seconds) :
    ∃ after, cache.reply .deleteAll server = (.ok (), after) ∧
      (∀ key, after.space.slots[names.entryKey key]? = none) ∧
      (∀ name, server.Visits names name → after.space.slots[names.indexKey name]? = none) ∧
      (∀ name, ¬server.Visits names name →
        after.space.slots[names.indexKey name]? = server.space.slots[names.indexKey name]? ∧
          ∀ key id, StandsFor key name id → server.space.slots[names.entryKey key]? = none) ∧
      ∀ micros, (seconds + 1) * Keyspace.second ≤ micros →
        (after.advance micros).Untouched names := by
  obtain ⟨rfl, rfl⟩ := atWork
  obtain ⟨held, serves, covered, ending⟩ :=
    serves_ending_of_reached fits (fun other working => eq_of_under ⟨rfl, rfl⟩ working) reached
  have indexed := indexed_of_covered covered
  obtain ⟨answer, after, replied, servesAfter⟩ := reply_drop serves fits .all
  have noEntry : ∀ key, (held.dropScope .all).entry key = none := by
    intro key
    rw [entry_drop_scope indexed]
    rfl
  refine ⟨after, replied, ?entries, ?visited, ?unvisited, ?later⟩
  case entries =>
    intro key
    exact (slot_at_entry_eq_none_iff servesAfter key).mpr (noEntry key)
  case visited =>
    intro name visits
    rw [servesAfter.depicts.index, dropScope,
      index_drop_all_of_visits ((visits_iff serves name).mp visits)]
    rfl
  case unvisited =>
    intro name unvisited
    have passed : ¬held.Visits name := fun visits => unvisited ((visits_iff serves name).mpr visits)
    constructor
    · rw [servesAfter.depicts.index, serves.depicts.index, dropScope,
        index_drop_all_of_not_visits passed]
    · intro key id stands
      rw [slot_at_entry_eq_none_iff serves, Option.eq_none_iff_forall_ne_some]
      intro entry found
      exact passed (visits_of_indexed indexed found stands)
  case later =>
    intro micros long
    apply untouched_of_nothing_held (serves_advance servesAfter micros)
    · intro key
      simp [advance, noEntry key]
    · exact not_lists_past_ending (ending_drop_scope ending .all) long

/-- An entry, one of another user in another channel seven seconds later, and a drop of everything
when the first of them is over. -/
theorem full_drop_leaves_unvisited_indexes_past_first_expiry :
    let cache := SharedCache.opened "permissions" 10
    let first := (cache.reply (.set (.ofNat 1) (.ofNat 3) .all) ⟨.blank 0, none⟩).2
    let second := (cache.reply (.set (.ofNat 2) (.ofNat 4) .all) (first.advance 7000000)).2
    let server := second.advance 5000000
    10 < Text.wordBound ∧ Reached cache.names (Under cache.names 10) server ∧
      cache.Under cache.names 10 ∧
      ∃ after, cache.reply .deleteAll server = (.ok (), after) ∧
        (∀ key, after.space.slots[cache.names.entryKey key]? = none) ∧
        (after.advance 11000000).Untouched cache.names := by
  intro cache first second server
  have fits : 10 < Text.wordBound := by decide
  have atWork : cache.Under cache.names 10 := ⟨rfl, rfl⟩
  have untouched := CacheServer.untouched_blank cache.names 0
  have reached : Reached cache.names (Under cache.names 10) server :=
    reached_advance (reached_reply (reached_advance (reached_reply (.start _ untouched)
      atWork _) _) atWork _) _
  obtain ⟨after, replied, noEntry, _, _, later⟩ :=
    full_drop_leaves_unvisited_indexes fits reached atWork
  exact ⟨fits, reached, atWork, after, replied, noEntry, later 11000000 (by decide)⟩

/-- A user's entry in a channel, one of another user five seconds later, and a drop of that other
user. After seven more seconds the index of the first user is over, but that of the channel is not,
since the later write has prolonged it. The users index still has the first user on it, whose index
does not lead to the channel any more. -/
theorem full_drop_misses_index_of_channel :
    let lone : UserId := .ofNat 1
    let other : UserId := .ofNat 2
    let channel : ChannelId := .ofNat 3
    let cache := SharedCache.opened "permissions" 10
    let first := (cache.reply (.set lone channel .all) ⟨.blank 0, none⟩).2
    let second := (cache.reply (.set other channel .all) (first.advance 5000000)).2
    let third := (cache.reply (.deleteByUser other) second).2
    let server := third.advance 7000000
    Reached cache.names (Under cache.names 10) server ∧
      ∃ after, cache.reply .deleteAll server = (.ok (), after) ∧
        after.space.slots[cache.names.channelIndex channel.text]?.isSome = true := by
  intro lone other channel cache first second third server
  have fits : cache.seconds < Text.wordBound := by decide
  have atWork : cache.Under cache.names 10 := ⟨rfl, rfl⟩
  have untouched := CacheServer.untouched_blank cache.names 0
  have reachedSecond : Reached cache.names (Under cache.names 10) second :=
    reached_reply (reached_advance (reached_reply (.start _ untouched) atWork _) _) atWork _
  have reached : Reached cache.names (Under cache.names 10) server :=
    reached_advance (reached_reply reachedSecond atWork _) _
  -- The same on the holdings, which have no texts to compare.
  let heldFirst := (Holdings.blank 0).after 10 [⟨lone, channel, .all⟩] (.set lone channel .all)
  let heldSecond := (heldFirst.advance 5000000).after 10 [⟨other, channel, .all⟩]
    (.set other channel .all)
  let held := (heldSecond.after 10 [] (.deleteByUser other)).advance 7000000
  have servesFirst : cache.Serves first heldFirst :=
    serves_reply (serves_untouched untouched) fits _
  have servesSecond : cache.Serves second heldSecond :=
    serves_reply (serves_advance servesFirst _) fits _
  have serves : cache.Serves server held := serves_advance (serves_reply servesSecond fits _) _
  have left : ((held.dropScope .all).index (.ofChannel channel)).slot?.isSome = true := by
    decide +kernel
  obtain ⟨answer, after, replied, servesAfter⟩ := reply_drop serves fits .all
  refine ⟨reached, after, replied, ?_⟩
  have depicted := servesAfter.depicts.index (.ofChannel channel)
  rw [← depicted] at left
  exact left

end SharedCache

end ChannelAccess
