import ChannelAccess.Proofs.Cache.Coverage

/-!
# Servers that shared caches leave behind

Several instances of the shared cache use one server under one scope and with one
lifetime. Each query takes effect as a whole, time passes between queries by any
amount, and a batched write names its entries in any order. The server starts without
keys of the scope; keys of others may be there and are not looked at.

Every entry that such a server still answers with is listed in the indexes, so a drop
takes away exactly the entries of its scope.
-/

namespace ChannelAccess

set_option autoImplicit false

namespace Holdings

variable {lifetime : Nat} {held : Holdings} {order : List SharedCache.Entry} {query : CacheQuery}

theorem view_write_entry (entry : SharedCache.Entry) :
    (writeEntry lifetime held entry).view = held.view.put entry := by
  funext key
  rw [view, entry_write_entry, CacheView.put]
  split <;> rfl

theorem view_write_all (entries : List SharedCache.Entry) :
    (held.writeAll lifetime entries).view = entries.foldl CacheView.put held.view := by
  have each : (entries.foldl (writeEntry lifetime) held).view =
      entries.foldl CacheView.put held.view := by
    induction entries generalizing held with
    | nil => rfl
    | cons entry rest ih => rw [List.foldl_cons, List.foldl_cons, ih, view_write_entry]
  rw [writeAll]
  split
  case isTrue none_given =>
    rw [List.isEmpty_iff.mp none_given]
    rfl
  case isFalse => exact each

theorem view_drop_scope (covered : held.Covered lifetime) (scope : Invalidation)
    (key : EntryKey) :
    (held.dropScope scope).view key =
      if scope.covers key.user key.channel then none else held.view key := by
  rw [view, entry_drop_scope (indexed_of_covered covered)]
  split <;> rfl

theorem after_cases (held : Holdings) (lifetime : Nat) (order : List SharedCache.Entry)
    (query : CacheQuery) :
    (query.dropped = none ∧ (∀ key, query.written key = none) ∧
        held.after lifetime order query = held) ∨
      (query.dropped = none ∧
        held.after lifetime order query = held.writeAll lifetime order) ∨
      ∃ scope, query.dropped = some scope ∧ (∀ key, query.written key = none) ∧
        held.after lifetime order query = held.dropScope scope := by
  cases query with
  | get user channel => exact .inl ⟨rfl, fun _ => rfl, rfl⟩
  | set user channel mask => exact .inr (.inl ⟨rfl, rfl⟩)
  | getMany user channels => exact .inl ⟨rfl, fun _ => rfl, rfl⟩
  | setMany user masks => exact .inr (.inl ⟨rfl, rfl⟩)
  | getManyUsers channel users => exact .inl ⟨rfl, fun _ => rfl, rfl⟩
  | setManyUsers channel masks => exact .inr (.inl ⟨rfl, rfl⟩)
  | deleteByUser user => exact .inr (.inr ⟨.ofUser user, rfl, fun _ => rfl, rfl⟩)
  | deleteByChannel channel => exact .inr (.inr ⟨.ofChannel channel, rfl, fun _ => rfl, rfl⟩)
  | deleteExact user channel =>
      exact .inr (.inr ⟨.ofEntry user channel, rfl, fun _ => rfl, rfl⟩)
  | deleteAll => exact .inr (.inr ⟨.all, rfl, fun _ => rfl, rfl⟩)

theorem view_after_keeping (keeps : query.dropped = none)
    (arranged : order.Perm query.entries) :
    (held.after lifetime order query).view = query.effectOn held.view := by
  rcases after_cases held lifetime order query with
    ⟨_, nothing, same⟩ | ⟨_, same⟩ | ⟨scope, drops, _, _⟩
  · rw [same, CacheQuery.effect_of_read keeps nothing]
  · rw [same, view_write_all, CacheQuery.effect_of_write keeps arranged]
  · rw [keeps] at drops
    contradiction

theorem view_after (covered : held.Covered lifetime) (arranged : order.Perm query.entries) :
    (held.after lifetime order query).view = query.effectOn held.view := by
  rcases after_cases held lifetime order query with
    ⟨keeps, _, _⟩ | ⟨keeps, _⟩ | ⟨scope, drops, nothing, same⟩
  · exact view_after_keeping keeps arranged
  · exact view_after_keeping keeps arranged
  · funext key
    rw [same, view_drop_scope covered, CacheQuery.effect_of_drop drops nothing]

theorem clock_write_all (held : Holdings) (lifetime : Nat) (entries : List SharedCache.Entry) :
    (held.writeAll lifetime entries).clock = held.clock := by
  rw [writeAll]
  split
  · rfl
  · exact clock_write_entries held lifetime entries

theorem clock_after (held : Holdings) (lifetime : Nat) (order : List SharedCache.Entry)
    (query : CacheQuery) : (held.after lifetime order query).clock = held.clock := by
  rcases after_cases held lifetime order query with
    ⟨_, _, same⟩ | ⟨_, same⟩ | ⟨scope, _, _, same⟩
  · rw [same]
  · rw [same, clock_write_all]
  · rw [same, clock_drop_scope]

theorem entry_write_entries (entries : List SharedCache.Entry) {key : EntryKey}
    {entry : TimedMask}
    (found : (entries.foldl (writeEntry lifetime) held).entry key = some entry) :
    held.entry key = some entry ∨
      entry.expiry = held.clock + lifetime * Keyspace.second := by
  induction entries generalizing held with
  | nil => exact .inl found
  | cons first rest ih =>
      rcases ih found with before | new
      · rw [entry_write_entry] at before
        split at before
        · rw [Option.some.injEq] at before
          subst before
          exact .inr rfl
        · exact .inl before
      · exact .inr new

theorem entry_after {key : EntryKey} {entry : TimedMask}
    (found : (held.after lifetime order query).entry key = some entry) :
    held.entry key = some entry ∨
      entry.expiry = held.clock + lifetime * Keyspace.second := by
  rcases after_cases held lifetime order query with
    ⟨_, _, same⟩ | ⟨_, same⟩ | ⟨scope, _, _, same⟩
  · rw [same] at found
    exact .inl found
  · rw [same, writeAll] at found
    split at found
    · exact .inl found
    · exact entry_write_entries order found
  · rw [same] at found
    exact .inl (entry_of_drop_scope found)

theorem kept_after {kept : Holdings → Prop} (before : kept held)
    (write : kept (held.write lifetime order)) (drop : ∀ scope, kept (held.dropScope scope)) :
    kept (held.after lifetime order query) := by
  rcases after_cases held lifetime order query with
    ⟨_, _, same⟩ | ⟨_, same⟩ | ⟨scope, _, _, same⟩
  · rwa [same]
  · rw [same, writeAll]
    split
    · exact before
    · exact write
  · rw [same]
    exact drop scope

theorem covered_after (positive : 0 < lifetime) (covered : held.Covered lifetime) :
    (held.after lifetime order query).Covered lifetime :=
  kept_after covered (covered_write positive covered order) (covered_drop_scope covered)

end Holdings

namespace CacheServer

def advance (server : CacheServer) (micros : Nat) : CacheServer :=
  { server with space := server.space.advance micros }

/-- A server that answers commands and has no key of a scope. -/
structure Untouched (names : KeyNames) (server : CacheServer) : Prop where
  refusal : server.refusal = none
  entries : ∀ key, server.space.slots[names.entryKey key]? = none
  indexes : ∀ name, server.space.slots[names.indexKey name]? = none

theorem untouched_blank (names : KeyNames) (clock : Nat) :
    Untouched names ⟨.blank clock, none⟩ :=
  ⟨rfl, fun _ => by simp [Keyspace.blank], fun _ => by simp [Keyspace.blank]⟩

/-- An index key holds a set with an identifier among its members. -/
def IndexLists (server : CacheServer) (key : String) (id : Uuid) : Prop :=
  ∃ scores expiry, server.space.membersAt key = .ok (scores, expiry) ∧ id.text ∈ scores

end CacheServer

namespace SharedCache

/-- One query of a cache at work, with the entries of a write in any order, or the passing of time.
-/
inductive SharedStep (atWork : SharedCache → Prop) : CacheServer → CacheServer → Prop where
  | wait (server : CacheServer) (micros : Nat) : SharedStep atWork server (server.advance micros)
  | ask (cache : SharedCache) (query : CacheQuery) (order : List Entry) (server : CacheServer)
      (working : atWork cache) (arranged : order.Perm query.entries) :
      SharedStep atWork server ((cache.exchangeInOrder order query).settle server).2

/-- The servers that caches at work leave behind when they start without keys of a scope. -/
inductive Reached (names : KeyNames) (atWork : SharedCache → Prop) : CacheServer → Prop where
  | start (server : CacheServer) (untouched : server.Untouched names) :
      Reached names atWork server
  | next {server after : CacheServer} (reached : Reached names atWork server)
      (step : SharedStep atWork server after) : Reached names atWork after

theorem reached_advance {names : KeyNames} {atWork : SharedCache → Prop} {server : CacheServer}
    (reached : Reached names atWork server) (micros : Nat) :
    Reached names atWork (server.advance micros) :=
  .next reached (.wait server micros)

theorem reached_reply {names : KeyNames} {atWork : SharedCache → Prop} {server : CacheServer}
    (reached : Reached names atWork server) {cache : SharedCache} (working : atWork cache)
    (query : CacheQuery) : Reached names atWork (cache.reply query server).2 := by
  rw [reply_eq_settle]
  exact .next reached (.ask cache query query.entries server working (.refl _))

def Under (names : KeyNames) (seconds : Nat) (cache : SharedCache) : Prop :=
  cache.names = names ∧ cache.seconds = seconds

variable {cache : SharedCache} {server : CacheServer} {held : Holdings}

theorem serves_untouched (untouched : server.Untouched cache.names) :
    cache.Serves server (.blank server.space.clock) where
  refusal := untouched.refusal
  depicts := ⟨rfl, untouched.entries, untouched.indexes⟩

theorem serves_advance (serves : cache.Serves server held) (micros : Nat) :
    cache.Serves (server.advance micros) (held.advance micros) where
  refusal := serves.refusal
  depicts := Holdings.depicts_advance serves.depicts micros

theorem serves_step {atWork : SharedCache → Prop} {after : CacheServer}
    (fits : cache.seconds < Text.wordBound)
    (alike : ∀ other, atWork other → other = cache) (serves : cache.Serves server held)
    (covered : held.Covered cache.seconds) (step : SharedStep atWork server after) :
    ∃ next, cache.Serves after next ∧ next.Covered cache.seconds := by
  cases step with
  | wait _ micros =>
      exact ⟨held.advance micros, serves_advance serves micros,
        Holdings.covered_advance covered micros⟩
  | ask other query order _ working arranged =>
      have same := alike other working
      subst same
      obtain ⟨next, settled, servesNext⟩ := settle_in_order serves fits order query
      refine ⟨held.after other.seconds order query, ?_,
        Holdings.covered_after other.seconds_pos covered⟩
      rw [settled]
      exact servesNext

theorem serves_of_reached {atWork : SharedCache → Prop} (fits : cache.seconds < Text.wordBound)
    (alike : ∀ other, atWork other → other = cache)
    (reached : Reached cache.names atWork server) :
    ∃ held, cache.Serves server held ∧ held.Covered cache.seconds := by
  induction reached with
  | start server untouched =>
      exact ⟨.blank server.space.clock, serves_untouched untouched, Holdings.covered_blank _⟩
  | next reached step ih =>
      obtain ⟨held, serves, covered⟩ := ih
      exact serves_step fits alike serves covered step

theorem reply_get (serves : cache.Serves server held) (user : UserId) (channel : ChannelId) :
    cache.reply (.get user channel) server = (.ok (held.view ⟨user, channel⟩), server) := by
  rw [reply_eq_settle]
  exact settle_get serves user channel

theorem index_lists_of_lists (serves : cache.Serves server held) {name : IndexName} {id : Uuid}
    (listed : (held.index name).Lists id) :
    server.IndexLists (cache.names.indexKey name) id :=
  ⟨_, _, Holdings.members_at_index serves.depicts name,
    (Roster.mem_texts _ _).mpr ⟨id, listed, rfl⟩⟩

theorem reply_drop (serves : cache.Serves server held) (fits : cache.seconds < Text.wordBound)
    (scope : Invalidation) :
    ∃ answer after, cache.reply (.drop scope) server = (.ok answer, after) ∧
      cache.Serves after (held.dropScope scope) := by
  obtain ⟨after, replied, servesAfter⟩ := reply_serves serves fits (.drop scope)
  refine ⟨_, after, replied, ?_⟩
  cases scope <;> exact servesAfter

theorem eq_of_under {names : KeyNames} {seconds : Nat} {other : SharedCache}
    (first : cache.Under names seconds) (second : other.Under names seconds) : other = cache := by
  obtain ⟨names, seconds, _⟩ := cache
  obtain ⟨otherNames, otherSeconds, _⟩ := other
  obtain ⟨rfl, rfl⟩ := first
  obtain ⟨rfl, rfl⟩ := second
  rfl

/-- On every server that caches of one scope and one lifetime leave behind, each entry that can be
read is listed in its three indexes, and a drop succeeds, after which no entry of its scope can be
read and every other entry is read as before. -/
theorem drop_complete_and_exact {names : KeyNames} {seconds : Nat} {server : CacheServer}
    (fits : seconds < Text.wordBound) (reached : Reached names (Under names seconds) server)
    {cache : SharedCache} (atWork : cache.Under names seconds) :
    (∀ user channel mask, (cache.reply (.get user channel) server).1 = .ok (some mask) →
      server.IndexLists (names.userIndex user.text) channel ∧
        server.IndexLists (names.channelIndex channel.text) user ∧
          server.IndexLists names.users user) ∧
    ∀ scope, ∃ answer after, cache.reply (.drop scope) server = (.ok answer, after) ∧
      ∀ user channel, (cache.reply (.get user channel) after).1 =
        if scope.covers user channel then .ok none
        else (cache.reply (.get user channel) server).1 := by
  obtain ⟨rfl, rfl⟩ := atWork
  obtain ⟨held, serves, covered⟩ :=
    serves_of_reached fits (fun other working => eq_of_under ⟨rfl, rfl⟩ working) reached
  constructor
  · intro user channel mask found
    rw [reply_get serves] at found
    obtain ⟨entry, present, _⟩ := Option.map_eq_some_iff.mp (Except.ok.inj found)
    have listed {name : IndexName} {id : Uuid} (stands : StandsFor ⟨user, channel⟩ name id) :=
      index_lists_of_lists serves (Holdings.lists_of_covered covered present stands)
    exact ⟨listed .channelOfUser, listed .userOfChannel, listed .user⟩
  · intro scope
    obtain ⟨answer, after, replied, servesAfter⟩ := reply_drop serves fits scope
    refine ⟨answer, after, replied, ?_⟩
    intro user channel
    rw [reply_get servesAfter, reply_get serves, Holdings.view_drop_scope covered]
    split <;> rfl

/-- Two channels of a user, cached 200 seconds apart, and a drop of the user when the first entry
has ended and the second has not. -/
theorem drop_complete_and_exact_between_expiries :
    let cache := SharedCache.opened "permissions" 300
    let early := (cache.reply (.set (.ofNat 1) (.ofNat 2) .all) ⟨.blank 0, none⟩).2
    let late := (cache.reply (.set (.ofNat 1) (.ofNat 3) .all) (early.advance 200000000)).2
    let server := late.advance 150000000
    300 < Text.wordBound ∧ Reached cache.names (Under cache.names 300) server ∧
      cache.Under cache.names 300 ∧
      ∃ answer after, cache.reply (.drop (.ofUser (.ofNat 1))) server = (.ok answer, after) ∧
        ∀ user channel, (cache.reply (.get user channel) after).1 =
          if user = .ofNat 1 then .ok none
          else (cache.reply (.get user channel) server).1 := by
  intro cache early late server
  have fits : 300 < Text.wordBound := by decide
  have atWork : cache.Under cache.names 300 := ⟨rfl, rfl⟩
  have untouched := CacheServer.untouched_blank cache.names 0
  have reached : Reached cache.names (Under cache.names 300) server :=
    reached_advance (reached_reply (reached_advance (reached_reply (.start _ untouched)
      atWork _) _) atWork _) _
  obtain ⟨answer, after, replied, reads⟩ :=
    (drop_complete_and_exact fits reached atWork).2 (.ofUser (.ofNat 1))
  refine ⟨fits, reached, atWork, answer, after, replied, ?_⟩
  intro user channel
  simpa [Invalidation.covers, eq_comm (a := user)] using reads user channel

end SharedCache

end ChannelAccess
