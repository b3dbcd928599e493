import ChannelAccess.Proofs.Cache.SharedRun

/-!
# Shared caches with lifetimes of their own

Instances of the shared cache that use one scope may be configured with different lifetimes. The
indexes are theirs in common, and every write lets the indexes that it touches end by its own
lifetime. A drop still succeeds, but of its scope it takes away only what the indexes list at that
time. They list every entry as long as no write is for a shorter time than what is left to an entry
that is there; a write that is can end an index before an entry of another instance, and the entry
then outlives the drops of its scope.
-/

namespace ChannelAccess

set_option autoImplicit false

/-- The indexes on a server that a drop of a scope goes through lead it to an entry. -/
def CacheServer.LeadsTo (server : CacheServer) (names : KeyNames) (user : UserId)
    (channel : ChannelId) : Invalidation → Prop
  | .all =>
      server.IndexLists names.users user ∧ server.IndexLists (names.userIndex user.text) channel
  | .ofChannel _ => server.IndexLists (names.channelIndex channel.text) user
  | .ofUser _ => server.IndexLists (names.userIndex user.text) channel
  | .ofEntry _ _ => True

namespace Holdings

variable {lifetime longest : Nat} {held : Holdings}

/-- Coverage depends on the lifetime only by what entries have left. -/
theorem covered_of_soon (covered : held.Covered longest)
    (soon : ∀ key entry, held.entry key = some entry →
      entry.expiry ≤ held.clock + lifetime * Keyspace.second) : held.Covered lifetime where
  listed := ⟨covered.listed.alive, soon, covered.listed.past⟩
  lasting := covered.lasting

theorem covered_after_nothing (covered : held.Covered longest) (query : CacheQuery) :
    (held.after lifetime [] query).Covered longest := by
  rcases after_cases held lifetime [] query with
    ⟨_, _, same⟩ | ⟨_, same⟩ | ⟨scope, _, _, same⟩
  · rwa [same]
  · rw [same]
    exact covered
  · rw [same]
    exact covered_drop_scope covered scope

end Holdings

namespace SharedCache

open Holdings

/-- The servers that instances of one scope leave behind together when they start without keys of
it. A query that writes happens only where it is permitted; reads, drops and time are free. -/
inductive ReachedTogether (names : KeyNames) (permitted : SharedCache → CacheServer → Prop) :
    CacheServer → Prop where
  | start (server : CacheServer) (untouched : server.Untouched names) :
      ReachedTogether names permitted server
  | wait (server : CacheServer) (micros : Nat) (reached : ReachedTogether names permitted server) :
      ReachedTogether names permitted (server.advance micros)
  | ask (server : CacheServer) (cache : SharedCache) (query : CacheQuery) (order : List Entry)
      (reached : ReachedTogether names permitted server) (under : cache.names = names)
      (fits : cache.seconds < Text.wordBound) (arranged : order.Perm query.entries)
      (mayWrite : query.entries = [] ∨ permitted cache server) :
      ReachedTogether names permitted ((cache.exchangeInOrder order query).settle server).2

/-- What an instance writes now ends no earlier than any entry of its scope that is there. -/
def OutlastsEntries (cache : SharedCache) (server : CacheServer) : Prop :=
  ∀ key slot expiry, server.space.slots[cache.names.entryKey key]? = some slot →
    slot.expiry = some expiry → expiry ≤ server.space.clock + cache.seconds * Keyspace.second

variable {names : KeyNames} {permitted : SharedCache → CacheServer → Prop} {server : CacheServer}
  {cache : SharedCache} {held : Holdings}

theorem reached_together_reply (cache : SharedCache)
    (reached : ReachedTogether names permitted server) (under : cache.names = names)
    (fits : cache.seconds < Text.wordBound) (query : CacheQuery)
    (mayWrite : query.entries = [] ∨ permitted cache server) :
    ReachedTogether names permitted (cache.reply query server).2 := by
  rw [reply_eq_settle]
  exact .ask server cache query query.entries reached under fits (.refl _) mayWrite

theorem serves_of_under {other : SharedCache} (serves : cache.Serves server held)
    (under : other.names = cache.names) : other.Serves server held where
  refusal := serves.refusal
  depicts := by
    rw [under]
    exact serves.depicts

theorem serves_reply (serves : cache.Serves server held) (fits : cache.seconds < Text.wordBound)
    (query : CacheQuery) :
    cache.Serves (cache.reply query server).2
      (held.after cache.seconds query.entries query) := by
  obtain ⟨after, replied, servesAfter⟩ := reply_serves serves fits query
  rw [replied]
  exact servesAfter

theorem outlasts_iff (serves : cache.Serves server held) :
    cache.OutlastsEntries server ↔ ∀ key entry, held.entry key = some entry →
      entry.expiry ≤ held.clock + cache.seconds * Keyspace.second := by
  unfold OutlastsEntries
  simp only [serves.depicts.entry, serves.depicts.clock, Option.map_eq_some_iff]
  constructor
  · intro outlasts key entry found
    exact outlasts key _ entry.expiry ⟨entry, found, rfl⟩ rfl
  · rintro soon key _ expiry ⟨entry, found, rfl⟩ expires
    have ends : entry.expiry = expiry := Option.some.inj expires
    rw [← ends]
    exact soon key entry found

theorem outlasts_after_reply {other : SharedCache} (serves : cache.Serves server held)
    (fits : cache.seconds < Text.wordBound) (under : other.names = cache.names)
    (longer : cache.seconds ≤ other.seconds) (outlasts : other.OutlastsEntries server)
    (query : CacheQuery) : other.OutlastsEntries (cache.reply query server).2 := by
  have servesAfter := serves_of_under (serves_reply serves fits query) under
  rw [outlasts_iff servesAfter, clock_after]
  intro key entry found
  rcases entry_after found with before | new
  · exact (outlasts_iff (serves_of_under serves under)).mp outlasts key entry before
  · have scaled := Nat.mul_le_mul_right Keyspace.second longer
    omega

/-- All instances of a scope find the same holdings on a server, and the indexes cover these if
writes are permitted only where they outlast the entries. -/
structure FoundByAll (names : KeyNames) (permitted : SharedCache → CacheServer → Prop)
    (server : CacheServer) (held : Holdings) : Prop where
  serves : ∀ cache : SharedCache, cache.names = names → cache.Serves server held
  covered : (∀ cache server, permitted cache server → cache.OutlastsEntries server) →
    ∃ longest, held.Covered longest

theorem found_by_all_advance (found : FoundByAll names permitted server held) (micros : Nat) :
    FoundByAll names permitted (server.advance micros) (held.advance micros) where
  serves cache under := serves_advance (found.serves cache under) micros
  covered outlasting := by
    obtain ⟨longest, covered⟩ := found.covered outlasting
    exact ⟨longest, covered_advance covered micros⟩

theorem covered_after_outlasting (serves : cache.Serves server held)
    (outlasts : cache.OutlastsEntries server) {longest : Nat} (covered : held.Covered longest)
    (order : List Entry) (query : CacheQuery) :
    (held.after cache.seconds order query).Covered cache.seconds := by
  have soon := (outlasts_iff serves).mp outlasts
  exact covered_after cache.seconds_pos (covered_of_soon covered soon)

theorem found_by_all_ask (found : FoundByAll names permitted server held)
    (under : cache.names = names) (fits : cache.seconds < Text.wordBound) {query : CacheQuery}
    {order : List Entry} (arranged : order.Perm query.entries)
    (mayWrite : query.entries = [] ∨ permitted cache server) :
    FoundByAll names permitted ((cache.exchangeInOrder order query).settle server).2
      (held.after cache.seconds order query) := by
  have serves := found.serves cache under
  obtain ⟨after, settled, servesAfter⟩ := settle_in_order serves fits order query
  rw [settled]
  constructor
  · intro other underToo
    exact serves_of_under servesAfter (underToo.trans under.symm)
  · intro outlasting
    obtain ⟨longest, covered⟩ := found.covered outlasting
    cases mayWrite with
    | inl idle =>
        rw [idle] at arranged
        rw [arranged.eq_nil]
        exact ⟨longest, covered_after_nothing covered query⟩
    | inr writes =>
        have outlasts := outlasting cache server writes
        exact ⟨cache.seconds, covered_after_outlasting serves outlasts covered order query⟩

theorem found_by_all_of_reached (reached : ReachedTogether names permitted server) :
    ∃ held, FoundByAll names permitted server held := by
  induction reached with
  | start server untouched =>
      have serves (cache : SharedCache) (under : cache.names = names) :
          cache.Serves server (.blank server.space.clock) := by
        subst under
        exact serves_untouched untouched
      exact ⟨_, serves, fun _ => ⟨0, covered_blank _⟩⟩
  | wait server micros _ ih =>
      obtain ⟨held, found⟩ := ih
      exact ⟨held.advance micros, found_by_all_advance found micros⟩
  | ask server cache query order _ under fits arranged mayWrite ih =>
      obtain ⟨held, found⟩ := ih
      exact ⟨_, found_by_all_ask found under fits arranged mayWrite⟩

theorem index_lists_iff (serves : cache.Serves server held) (name : IndexName) (id : Uuid) :
    server.IndexLists (cache.names.indexKey name) id ↔ (held.index name).Lists id := by
  constructor
  · rintro ⟨scores, expiry, found, listed⟩
    rw [members_at_index serves.depicts, Except.ok.injEq, Prod.mk.injEq] at found
    rw [← found.1, Roster.mem_texts] at listed
    obtain ⟨other, member, sameText⟩ := listed
    rwa [← Uuid.text_injective sameText]
  · exact index_lists_of_lists serves

theorem leads_to_iff (serves : cache.Serves server held) (user : UserId) (channel : ChannelId)
    (scope : Invalidation) :
    server.LeadsTo cache.names user channel scope ↔ held.LeadsTo ⟨user, channel⟩ scope := by
  cases scope with
  | all =>
      exact and_congr (index_lists_iff serves .users user)
        (index_lists_iff serves (.ofUser user) channel)
  | ofChannel dropped => exact index_lists_iff serves (.ofChannel channel) user
  | ofUser dropped => exact index_lists_iff serves (.ofUser user) channel
  | ofEntry droppedUser droppedChannel => rfl

/-- Whatever lifetimes the instances of a scope have, a drop by any of them succeeds. Afterwards an
instance finds what it found before, less the entries of the dropped scope that the indexes led to.
If no write was for a shorter time than what was left to an entry, the indexes lead to all of them:
no entry of the scope is found any more, and every other is as before. -/
theorem drop_reaches_what_indexes_lead_to (reached : ReachedTogether names permitted server)
    (under : cache.names = names) (fits : cache.seconds < Text.wordBound)
    (scope : Invalidation) :
    ∃ answer after, cache.reply (.drop scope) server = (.ok answer, after) ∧
      (∀ reader : SharedCache, reader.names = names → ∀ user channel mask,
        (reader.reply (.get user channel) after).1 = .ok (some mask) ↔
          (reader.reply (.get user channel) server).1 = .ok (some mask) ∧
            ¬(scope.covers user channel = true ∧ server.LeadsTo names user channel scope)) ∧
      ((∀ cache server, permitted cache server → cache.OutlastsEntries server) →
        ∀ reader : SharedCache, reader.names = names → ∀ user channel,
          (reader.reply (.get user channel) after).1 =
            if scope.covers user channel then .ok none
            else (reader.reply (.get user channel) server).1) := by
  subst under
  obtain ⟨held, found⟩ := found_by_all_of_reached reached
  have serves := found.serves cache rfl
  obtain ⟨answer, after, replied, servesAfter⟩ := reply_drop serves fits scope
  refine ⟨answer, after, replied, ?led, ?exact⟩
  case led =>
    intro reader under user channel mask
    have readsBefore := reply_get (found.serves reader under) user channel
    have readsAfter := reply_get (serves_of_under servesAfter under) user channel
    rw [readsBefore, readsAfter, leads_to_iff serves]
    simp only [view, Except.ok.injEq, Option.map_eq_some_iff, entry_drop_scope_iff]
    grind
  case exact =>
    intro outlasting reader under user channel
    obtain ⟨longest, covered⟩ := found.covered outlasting
    have readsBefore := reply_get (found.serves reader under) user channel
    have readsAfter := reply_get (serves_of_under servesAfter under) user channel
    rw [readsBefore, readsAfter, view_drop_scope covered]
    split <;> rfl

/-- An entry for one second, another of the same user for 100 seconds, and a drop of the user while
both are there. -/
theorem drop_reaches_what_indexes_lead_to_after_longer_write :
    let user : UserId := .ofNat 1
    let short := SharedCache.opened "permissions" 1
    let long := SharedCache.opened "permissions" 100
    let first := (short.reply (.set user (.ofNat 2) .all) ⟨.blank 0, none⟩).2
    let second := (long.reply (.set user (.ofNat 3) .all) first).2
    let server := second.advance 500000
    ReachedTogether short.names OutlastsEntries server ∧ short.seconds < Text.wordBound ∧
      ∃ answer after, short.reply (.drop (.ofUser user)) server = (.ok answer, after) ∧
        ∀ channel, (long.reply (.get user channel) after).1 = .ok none := by
  intro user short long first second server
  have fits : short.seconds < Text.wordBound := by decide
  have fitsLong : long.seconds < Text.wordBound := by decide
  have untouched := CacheServer.untouched_blank short.names 0
  have started := serves_untouched untouched
  have outlastsNothing {cache : SharedCache} (under : cache.names = short.names) :
      cache.OutlastsEntries ⟨.blank 0, none⟩ := by
    simp [outlasts_iff (serves_of_under started under), Holdings.blank]
  have reachedFirst : ReachedTogether short.names OutlastsEntries first :=
    reached_together_reply short (.start _ untouched) rfl fits _ (.inr (outlastsNothing rfl))
  have sameScope : long.names = short.names := rfl
  have longer : short.seconds ≤ long.seconds := by decide
  have outlastsFirst : long.OutlastsEntries first :=
    outlasts_after_reply started fits sameScope longer (outlastsNothing sameScope) _
  have reachedSecond : ReachedTogether short.names OutlastsEntries second :=
    reached_together_reply long reachedFirst rfl fitsLong _ (.inr outlastsFirst)
  have reached : ReachedTogether short.names OutlastsEntries server :=
    .wait second 500000 reachedSecond
  obtain ⟨answer, after, replied, _, exactly⟩ :=
    drop_reaches_what_indexes_lead_to reached rfl fits (.ofUser user)
  refine ⟨reached, fits, answer, after, replied, ?_⟩
  intro channel
  have gone := exactly (fun _ _ outlasts => outlasts) long rfl user channel
  simpa [Invalidation.covers] using gone

/-- An entry for 100 seconds, then one for a second beside it under its user and another under its
channel. Three seconds later the indexes of the user, of the channel and of all users are over. The
first entry is found in spite of the drops of its user, of its channel and of everything. -/
theorem drop_misses_entry_of_longer_lifetime :
    let user : UserId := .ofNat 1
    let channel : ChannelId := .ofNat 3
    let long := SharedCache.opened "permissions" 100
    let short := SharedCache.opened "permissions" 1
    let first := (long.reply (.set user channel .all) ⟨.blank 0, none⟩).2
    let second := (short.reply (.set user (.ofNat 4) .all) first).2
    let third := (short.reply (.set (.ofNat 2) channel .all) second).2
    let server := third.advance 3000000
    ReachedTogether long.names (fun _ _ => True) server ∧
      ∀ scope ∈ [.ofUser user, .ofChannel channel, .all],
        scope.covers user channel = true ∧
          ∃ answer after, short.reply (.drop scope) server = (.ok answer, after) ∧
            (long.reply (.get user channel) after).1 = .ok (some .all) := by
  intro user channel long short first second third server
  have fits : short.seconds < Text.wordBound := by decide
  have fitsLong : long.seconds < Text.wordBound := by decide
  have untouched := CacheServer.untouched_blank long.names 0
  have reachedFirst : ReachedTogether long.names (fun _ _ => True) first :=
    reached_together_reply long (.start _ untouched) rfl fitsLong _ (.inr trivial)
  have reachedSecond : ReachedTogether long.names (fun _ _ => True) second :=
    reached_together_reply short reachedFirst rfl fits _ (.inr trivial)
  have reachedThird : ReachedTogether long.names (fun _ _ => True) third :=
    reached_together_reply short reachedSecond rfl fits _ (.inr trivial)
  refine ⟨.wait third 3000000 reachedThird, ?_⟩
  -- The same on the holdings, which have no texts to compare.
  let heldFirst := (blank 0).after 100 [⟨user, channel, .all⟩] (.set user channel .all)
  let heldSecond := heldFirst.after 1 [⟨user, .ofNat 4, .all⟩] (.set user (.ofNat 4) .all)
  let heldThird := heldSecond.after 1 [⟨.ofNat 2, channel, .all⟩] (.set (.ofNat 2) channel .all)
  have servesFirst : short.Serves first heldFirst :=
    serves_of_under (serves_reply (serves_untouched untouched) fitsLong _) rfl
  have servesSecond : short.Serves second heldSecond := serves_reply servesFirst fits _
  have servesThird : short.Serves third heldThird := serves_reply servesSecond fits _
  have serves := serves_advance servesThird 3000000
  intro scope member
  have missed : scope.covers user channel = true ∧
      ((heldThird.advance 3000000).dropScope scope).view ⟨user, channel⟩ = some .all := by
    revert scope
    decide +kernel
  obtain ⟨answer, after, replied, servesAfter⟩ := reply_drop serves fits scope
  have servesLong : long.Serves after _ := serves_of_under servesAfter rfl
  refine ⟨missed.1, answer, after, replied, ?_⟩
  rw [reply_get servesLong, missed.2]

end SharedCache

end ChannelAccess
