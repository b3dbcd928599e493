import ChannelAccess.Proofs.Cache.Clearing

/-!
# Pruning drops dead members only

The score of a member says when the latest write that it stands for is over, in whole seconds and
one second late. Every write prunes the indexes that it touches by the second on the clock. What is
kept was written within the lifetime; what is taken out stands for entries that are over, since an
entry ends within the second after the last second of its lifetime at the latest.

The entries of one write may share indexes, so an index can be pruned and prolonged several times in
one script. The score of a member that the write adds is beyond the pruning of its other entries,
which is why the order of the entries does not matter.
-/

namespace ChannelAccess

set_option autoImplicit false

section Standing

variable {key : EntryKey} {id : Uuid}

theorem stands_for_users_iff : StandsFor key .users id ↔ id = key.user := by
  constructor
  · rintro ⟨⟩
    rfl
  · rintro rfl
    exact .user

theorem stands_for_of_user_iff {user : UserId} :
    StandsFor key (.ofUser user) id ↔ user = key.user ∧ id = key.channel := by
  constructor
  · rintro ⟨⟩
    exact ⟨rfl, rfl⟩
  · rintro ⟨rfl, rfl⟩
    exact .channelOfUser

theorem stands_for_of_channel_iff {channel : ChannelId} :
    StandsFor key (.ofChannel channel) id ↔ channel = key.channel ∧ id = key.user := by
  constructor
  · rintro ⟨⟩
    exact ⟨rfl, rfl⟩
  · rintro ⟨rfl, rfl⟩
    exact .userOfChannel

end Standing

structure Writing where
  second : Nat
  key : EntryKey

namespace SharedCache

def writings (second : Nat) (entries : List Entry) : List Writing :=
  entries.map fun entry => ⟨second, entry.user, entry.channel⟩

/-- A member of an index stands for one of the entries. -/
def Adds (entries : List Entry) (name : IndexName) (id : Uuid) : Prop :=
  ∃ entry ∈ entries, StandsFor ⟨entry.user, entry.channel⟩ name id

theorem adds_iff_of_writings {entries : List Entry} {name : IndexName} {id : Uuid} (second : Nat) :
    Adds entries name id ↔ ∃ writing ∈ writings second entries, StandsFor writing.key name id := by
  simp [Adds, writings]

end SharedCache

theorem CacheQuery.entries_of_unwritten {query : CacheQuery}
    (nothing : ∀ key, query.written key = none) : query.entries = [] := by
  rw [List.eq_nil_iff_forall_not_mem]
  rintro ⟨user, channel, mask⟩ member
  have written := (query.written_eq_some_iff ⟨user, channel⟩ mask).mpr member
  rw [nothing] at written
  contradiction

namespace Holdings

open SharedCache

variable {lifetime : Nat} {held : Holdings} {name : IndexName} {id : Uuid} {score : Int}

/-! Scores after a write. -/

theorem lt_written_score : (held.seconds : Int) < held.score lifetime := by
  rw [Holdings.score]
  omega

theorem score_touch {added : Uuid} :
    ((held.touch name added lifetime).index name).scores[id]? = some score ↔
      id = added ∧ score = held.score lifetime ∨
        id ≠ added ∧ (held.index name).scores[id]? = some score ∧ held.seconds < score := by
  have later := @lt_written_score lifetime held
  rw [touch, index_set_index_self, Roster.keepUntil, Roster.scores_of_scores, Roster.prune,
    Roster.score_select, Roster.score_add, Option.filter_eq_some_iff, decide_eq_true_eq]
  by_cases same : id = added
  · simp only [same, if_true, Option.some.injEq, true_and, ne_eq, not_true, false_and, or_false]
    constructor
    · exact fun both => both.1.symm
    · rintro rfl
      exact ⟨rfl, later⟩
  · simp [same]

/-- One entry of a write adds its members and prunes its two indexes. The users index is pruned when
all entries are written. -/
theorem score_write_entry {entry : Entry} :
    ((writeEntry lifetime held entry).index name).scores[id]? = some score ↔
      StandsFor ⟨entry.user, entry.channel⟩ name id ∧ score = held.score lifetime ∨
        ¬StandsFor ⟨entry.user, entry.channel⟩ name id ∧
          (held.index name).scores[id]? = some score ∧
            (name ≠ .users → (∃ other, StandsFor ⟨entry.user, entry.channel⟩ name other) →
              held.seconds < score) := by
  cases name with
  | users =>
      rw [index_write_entry_users, Roster.score_add, stands_for_users_iff]
      by_cases same : id = entry.user <;> simp [same, eq_comm]
  | ofUser user =>
      rw [index_write_entry_of_user]
      simp only [stands_for_of_user_iff]
      by_cases same : user = entry.user
      · rw [if_pos same, score_touch]
        simp [same]
      · simp [same]
  | ofChannel channel =>
      rw [index_write_entry_of_channel]
      simp only [stands_for_of_channel_iff]
      by_cases same : channel = entry.channel
      · rw [if_pos same, score_touch]
        simp [same]
      · simp [same]

theorem score_write_entries (entries : List Entry) :
    ((entries.foldl (writeEntry lifetime) held).index name).scores[id]? = some score ↔
      Adds entries name id ∧ score = held.score lifetime ∨
        ¬Adds entries name id ∧ (held.index name).scores[id]? = some score ∧
          (name ≠ .users → (∃ other, Adds entries name other) → held.seconds < score) := by
  induction entries generalizing held with
  | nil => simp [Adds]
  | cons entry rest ih =>
      have later := @lt_written_score lifetime held
      have adds (id : Uuid) : Adds (entry :: rest) name id ↔
          StandsFor ⟨entry.user, entry.channel⟩ name id ∨ Adds rest name id := by
        simp [Adds]
      have seconds : (writeEntry lifetime held entry).seconds = held.seconds := rfl
      have scores : (writeEntry lifetime held entry).score lifetime = held.score lifetime := rfl
      rw [List.foldl_cons, ih, score_write_entry, seconds, scores]
      simp only [adds]
      grind

theorem score_write {entries : List Entry} (given : entries ≠ []) :
    ((held.write lifetime entries).index name).scores[id]? = some score ↔
      Adds entries name id ∧ score = held.score lifetime ∨
        ¬Adds entries name id ∧ (held.index name).scores[id]? = some score ∧
          ((∃ other, Adds entries name other) → held.seconds < score) := by
  have later := @lt_written_score lifetime held
  by_cases users : name = .users
  · subst users
    obtain ⟨entry, member⟩ := List.exists_mem_of_ne_nil entries given
    have touched : ∃ other, Adds entries .users other := ⟨entry.user, entry, member, .user⟩
    rw [write, index_set_index_self, Roster.keepUntil, Roster.scores_of_scores, Roster.prune,
      Roster.score_select, Option.filter_eq_some_iff, score_write_entries, decide_eq_true_eq]
    grind
  · rw [write, index_set_index, if_neg users, score_write_entries]
    simp only [users, ne_eq, not_false_eq_true, forall_const]

/-! Scores and the writes that they come from. -/

/-- Every member was added by a write, and its score is that of the latest write that it stands for.
-/
structure Dated (lifetime : Nat) (ledger : List Writing) (held : Holdings) : Prop where
  past : ∀ writing ∈ ledger, writing.second ≤ held.seconds
  origin : ∀ name id score, (held.index name).scores[id]? = some score →
    ∃ writing ∈ ledger, StandsFor writing.key name id ∧
      score = (writing.second : Int) + lifetime + 1
  latest : ∀ name id score, (held.index name).scores[id]? = some score →
    ∀ writing ∈ ledger, StandsFor writing.key name id →
      (writing.second : Int) + lifetime + 1 ≤ score

variable {ledger : List Writing}

theorem dated_blank (clock : Nat) : (blank clock).Dated lifetime [] where
  past := by simp
  origin name id score found := by simp [blank, Roster.blank] at found
  latest name id score found := by simp [blank, Roster.blank] at found

theorem dated_of_part {next : Holdings} (dated : held.Dated lifetime ledger)
    (later : held.seconds ≤ next.seconds)
    (part : ∀ (name : IndexName) (id : Uuid) (score : Int),
      (next.index name).scores[id]? = some score → (held.index name).scores[id]? = some score) :
    next.Dated lifetime ledger where
  past writing member := Nat.le_trans (dated.past writing member) later
  origin name id score found := dated.origin name id score (part name id score found)
  latest name id score found := dated.latest name id score (part name id score found)

theorem dated_advance (dated : held.Dated lifetime ledger) (micros : Nat) :
    (held.advance micros).Dated lifetime ledger := by
  apply dated_of_part dated
  · exact Nat.div_le_div_right (Nat.le_add_right held.clock micros)
  · intro name id score found
    change ((held.index name).atTime (held.clock + micros)).scores[id]? = some score at found
    rcases (held.index name).at_time_eq_or (held.clock + micros) with same | ended
    · rwa [same] at found
    · simp [ended, Roster.blank] at found

theorem dated_drop_scope (dated : held.Dated lifetime ledger) (scope : Invalidation) :
    (held.dropScope scope).Dated lifetime ledger := by
  apply dated_of_part dated
  · exact Nat.le_of_eq (by rw [seconds, seconds, clock_drop_scope])
  · intro name id score found
    obtain ⟨stays, shrunk⟩ := shrinks_drop_scope held scope name
    rw [shrunk, Roster.score_select] at found
    exact (Option.filter_eq_some_iff.mp found).1

theorem dated_write (dated : held.Dated lifetime ledger) {entries : List Entry}
    (given : entries ≠ []) :
    (held.write lifetime entries).Dated lifetime (ledger ++ writings held.seconds entries) := by
  have clock : (held.write lifetime entries).clock = held.clock :=
    clock_write_entries held lifetime entries
  have now : ∀ writing ∈ writings held.seconds entries, writing.second = held.seconds := by
    simp [writings]
  constructor
  · intro writing member
    rw [seconds, clock, ← seconds]
    rcases List.mem_append.mp member with before | new
    · exact dated.past writing before
    · exact Nat.le_of_eq (now writing new)
  · intro name id score found
    rcases (score_write given).mp found with ⟨added, same⟩ | ⟨_, before, _⟩
    · obtain ⟨writing, new, stands⟩ := (adds_iff_of_writings held.seconds).mp added
      refine ⟨writing, List.mem_append_right _ new, stands, ?_⟩
      rw [same, now writing new, Holdings.score]
    · obtain ⟨writing, member, stands, same⟩ := dated.origin name id score before
      exact ⟨writing, List.mem_append_left _ member, stands, same⟩
  · intro name id score found writing member stands
    rcases List.mem_append.mp member with before | new
    · have past := dated.past writing before
      rcases (score_write given).mp found with ⟨_, same⟩ | ⟨_, foundBefore, _⟩
      · rw [same, Holdings.score]
        omega
      · exact dated.latest name id score foundBefore writing before stands
    · have added : Adds entries name id :=
        (adds_iff_of_writings held.seconds).mpr ⟨writing, new, stands⟩
      rcases (score_write given).mp found with ⟨_, same⟩ | ⟨notAdded, _, _⟩
      · refine Int.le_of_eq ?_
        rw [same, now writing new, Holdings.score]
      · exact absurd added notAdded

theorem dated_after (dated : held.Dated lifetime ledger) {order : List Entry} {query : CacheQuery}
    (arranged : order.Perm query.entries) :
    (held.after lifetime order query).Dated lifetime
      (ledger ++ writings held.seconds order) := by
  have idle (nothing : ∀ key, query.written key = none) :
      ledger ++ writings held.seconds order = ledger := by
    rw [query.entries_of_unwritten nothing] at arranged
    rw [arranged.eq_nil, writings, List.map_nil, List.append_nil]
  rcases after_cases held lifetime order query with
    ⟨_, nothing, same⟩ | ⟨_, same⟩ | ⟨scope, _, nothing, same⟩
  · rwa [same, idle nothing]
  · rw [same, writeAll]
    split
    case isTrue none_given =>
      rwa [List.isEmpty_iff.mp none_given, writings, List.map_nil, List.append_nil]
    case isFalse given => exact dated_write dated fun nothing => given (by rw [nothing]; rfl)
  · rw [same, idle nothing]
    exact dated_drop_scope dated scope

theorem no_entry_of_score_over (covered : held.Covered lifetime)
    (found : (held.index name).scores[id]? = some score) (ended : score ≤ held.seconds)
    {key : EntryKey} (stands : StandsFor key name id) : held.entry key = none := by
  rw [Option.eq_none_iff_forall_ne_some]
  intro entry present
  have alive := covered.listed.alive key entry present
  obtain ⟨given, same, past⟩ := covered.listed.past key entry present name id stands
  obtain rfl : given = score := Option.some.inj (same.symm.trans found)
  simp only [seconds, Keyspace.second] at ended past
  omega

end Holdings

/-- An index key holds a set with a text among its members, and with a score. -/
def CacheServer.IndexScore (server : CacheServer) (key member : String) (score : Int) : Prop :=
  ∃ scores expiry, server.space.membersAt key = .ok (scores, expiry) ∧
    scores[member]? = some score

namespace SharedCache

open Holdings

/-- The servers that caches at work leave behind when they start without keys of a scope, each with
the writes that it has seen. -/
inductive ReachedWriting (names : KeyNames) (atWork : SharedCache → Prop) :
    List Writing → CacheServer → Prop where
  | start (server : CacheServer) (untouched : server.Untouched names) :
      ReachedWriting names atWork [] server
  | wait (ledger : List Writing) (server : CacheServer) (micros : Nat)
      (reached : ReachedWriting names atWork ledger server) :
      ReachedWriting names atWork ledger (server.advance micros)
  | ask (ledger : List Writing) (server : CacheServer) (cache : SharedCache) (query : CacheQuery)
      (order : List Entry) (reached : ReachedWriting names atWork ledger server)
      (working : atWork cache) (arranged : order.Perm query.entries) :
      ReachedWriting names atWork (ledger ++ writings server.space.seconds order)
        ((cache.exchangeInOrder order query).settle server).2

variable {cache : SharedCache} {server : CacheServer} {held : Holdings} {ledger : List Writing}

theorem reached_writing_reply {names : KeyNames} {atWork : SharedCache → Prop}
    (reached : ReachedWriting names atWork ledger server) (working : atWork cache)
    (query : CacheQuery) :
    ReachedWriting names atWork (ledger ++ writings server.space.seconds query.entries)
      (cache.reply query server).2 := by
  rw [reply_eq_settle]
  exact .ask ledger server cache query query.entries reached working (.refl _)

theorem clock_reply (serves : cache.Serves server held) (fits : cache.seconds < Text.wordBound)
    (query : CacheQuery) : (cache.reply query server).2.space.clock = server.space.clock := by
  rw [(serves_reply serves fits query).depicts.clock, clock_after, serves.depicts.clock]

theorem clock_advance (server : CacheServer) (micros : Nat) :
    (server.advance micros).space.clock = server.space.clock + micros :=
  rfl

theorem serves_dated_of_reached {atWork : SharedCache → Prop}
    (fits : cache.seconds < Text.wordBound) (alike : ∀ other, atWork other → other = cache)
    (reached : ReachedWriting cache.names atWork ledger server) :
    ∃ held, cache.Serves server held ∧ held.Covered cache.seconds ∧
      held.Dated cache.seconds ledger := by
  induction reached with
  | start server untouched =>
      exact ⟨_, serves_untouched untouched, covered_blank _, dated_blank _⟩
  | wait ledger server micros _ ih =>
      obtain ⟨held, serves, covered, dated⟩ := ih
      exact ⟨_, serves_advance serves micros, covered_advance covered micros,
        dated_advance dated micros⟩
  | ask ledger server other query order _ working arranged ih =>
      obtain ⟨held, serves, covered, dated⟩ := ih
      obtain rfl := alike other working
      obtain ⟨next, settled, servesNext⟩ := settle_in_order serves fits order query
      rw [settled, seconds_of_depicts serves.depicts]
      exact ⟨_, servesNext, covered_after other.seconds_pos covered, dated_after dated arranged⟩

theorem index_score_iff (serves : cache.Serves server held) (name : IndexName) (member : String)
    (score : Int) :
    server.IndexScore (cache.names.indexKey name) member score ↔
      ∃ id : Uuid, id.text = member ∧ (held.index name).scores[id]? = some score := by
  unfold CacheServer.IndexScore
  rw [members_at_index serves.depicts]
  constructor
  · rintro ⟨scores, expiry, found, given⟩
    obtain ⟨rfl, rfl⟩ := Prod.mk.inj (Except.ok.inj found)
    have listed : member ∈ Roster.texts (held.index name).scores :=
      Std.ExtTreeMap.mem_iff_isSome_getElem?.mpr (by rw [given]; rfl)
    obtain ⟨id, _, rfl⟩ := (Roster.mem_texts _ _).mp listed
    exact ⟨id, rfl, by rwa [Roster.text_of_member] at given⟩
  · rintro ⟨id, rfl, found⟩
    exact ⟨_, _, rfl, by rwa [Roster.text_of_member]⟩

theorem index_lists_iff_score (serves : cache.Serves server held) (name : IndexName) (id : Uuid) :
    server.IndexLists (cache.names.indexKey name) id ↔
      ∃ score, server.IndexScore (cache.names.indexKey name) id.text score := by
  simp only [index_lists_iff serves, index_score_iff serves, Uuid.text_inj, exists_eq_left,
    Roster.lists_iff]

theorem settle_of_entries {entries : List Entry} (given : entries ≠ []) {query : CacheQuery}
    (arranged : entries.Perm query.entries) (server : CacheServer) :
    ((cache.exchangeInOrder entries query).settle server).2 =
      ((cache.writing entries).settle server).2 := by
  cases query with
  | set user channel mask => rfl
  | setMany user masks => rfl
  | setManyUsers channel masks => rfl
  | _ => exact absurd arranged.eq_nil given

/-- On every server that caches of one scope and one lifetime leave behind a write of any entries,
in any order, succeeds. In every index that it touches no member is left whose score is over, what
it wrote has the score that is over a second after the lifetime, and every member was written within
the lifetime and that second. A member that is taken out, or that has a score with which pruning
takes it out, stands for no entry that is there, and all writes of such entries are past the
lifetime. -/
theorem write_prunes_only_what_is_over {names : KeyNames} {seconds : Nat} {ledger : List Writing}
    {server : CacheServer} (fits : seconds < Text.wordBound)
    (reached : ReachedWriting names (Under names seconds) ledger server) {cache : SharedCache}
    (atWork : cache.Under names seconds) {entries : List Entry} (given : entries ≠ []) :
    ∃ after, (cache.writing entries).settle server = (.ok (), after) ∧
      (∀ query : CacheQuery, entries.Perm query.entries →
        ((cache.exchangeInOrder entries query).settle server).2 = after) ∧
      ∀ name, (∃ id, Adds entries name id) →
        (∀ member score, after.IndexScore (names.indexKey name) member score →
          (server.space.seconds : Int) < score) ∧
        (∀ id, Adds entries name id → after.IndexScore (names.indexKey name) id.text
          ((server.space.seconds : Int) + seconds + 1)) ∧
        (∀ member score, after.IndexScore (names.indexKey name) member score →
          ∃ id : Uuid, id.text = member ∧
            ∃ writing ∈ ledger ++ writings server.space.seconds entries,
              StandsFor writing.key name id ∧
                (server.space.seconds : Int) - seconds - 1 < writing.second) ∧
        ∀ (id : Uuid) (score : Int),
          server.IndexScore (names.indexKey name) id.text score →
          score ≤ server.space.seconds ∨ ¬after.IndexLists (names.indexKey name) id →
          ∀ key, StandsFor key name id →
            server.space.slots[names.entryKey key]? = none ∧
              ∀ writing ∈ ledger, writing.key = key →
                writing.second + seconds < server.space.seconds := by
  obtain ⟨rfl, rfl⟩ := atWork
  obtain ⟨held, serves, covered, dated⟩ :=
    serves_dated_of_reached fits (fun other working => eq_of_under ⟨rfl, rfl⟩ working) reached
  obtain ⟨after, settled, servesAfter⟩ := settle_writing serves fits entries
  have wrote : held.writeAll cache.seconds entries = held.write cache.seconds entries :=
    if_neg fun nothing => given (List.isEmpty_iff.mp nothing)
  rw [wrote] at servesAfter
  have datedAfter := dated_write dated given
  refine ⟨after, settled, ?queries, ?indexes⟩
  case queries =>
    intro query arranged
    rw [settle_of_entries given arranged, settled]
  case indexes =>
    intro name touched
    simp only [index_lists_iff_score servesAfter, index_score_iff servesAfter,
      index_score_iff serves, seconds_of_depicts serves.depicts]
    have kept {id : Uuid} {score : Int}
        (found : ((held.write cache.seconds entries).index name).scores[id]? = some score) :
        (held.seconds : Int) < score := by
      rcases (score_write given).mp found with ⟨_, rfl⟩ | ⟨_, _, later⟩
      · exact lt_written_score
      · exact later touched
    refine ⟨?left, ?written, ?origin, ?taken⟩
    case left =>
      rintro _ score ⟨id, rfl, found⟩
      exact kept found
    case written =>
      intro id added
      exact ⟨id, rfl, (score_write given).mpr (.inl ⟨added, rfl⟩)⟩
    case origin =>
      rintro _ score ⟨id, rfl, found⟩
      obtain ⟨writing, member, stands, same⟩ := datedAfter.origin name id score found
      have later := kept found
      exact ⟨id, rfl, writing, member, stands, by omega⟩
    case taken =>
      rintro id score ⟨same, sameText, found⟩ leaves key stands
      obtain rfl := Uuid.text_injective sameText
      have ended : score ≤ held.seconds := by
        rcases leaves with due | gone
        · exact due
        -- Pruning spares a score that is not over, so the member would still be listed.
        · by_contra alive
          refine gone ?_
          by_cases added : Adds entries name same
          · exact ⟨_, same, rfl, (score_write given).mpr (.inl ⟨added, rfl⟩)⟩
          · have later : (held.seconds : Int) < score := by omega
            exact ⟨score, same, rfl, (score_write given).mpr (.inr ⟨added, found, fun _ => later⟩)⟩
      refine ⟨(slot_at_entry_eq_none_iff serves key).mpr
        (no_entry_of_score_over covered found ended stands), ?_⟩
      rintro writing member rfl
      have latest := dated.latest name same score found writing member stands
      omega

/-- A user's entry in a channel, one of another user five seconds later, and after seven more
seconds two entries of a third user, one of them in the channel. The write takes the first user out
of the index of the channel, and leaves the second there. -/
theorem write_prunes_only_what_is_over_at_third_write :
    let gone : UserId := .ofNat 1
    let kept : UserId := .ofNat 2
    let writer : UserId := .ofNat 3
    let channel : ChannelId := .ofNat 4
    let cache := SharedCache.opened "permissions" 10
    let first := (cache.reply (.set gone channel .all) ⟨.blank 0, none⟩).2
    let second := (cache.reply (.set kept channel .all) (first.advance 5000000)).2
    let server := second.advance 7000000
    let entries : List Entry := [⟨writer, channel, .all⟩, ⟨writer, .ofNat 5, ∅⟩]
    10 < Text.wordBound ∧
      ReachedWriting cache.names (Under cache.names 10) [⟨0, gone, channel⟩, ⟨5, kept, channel⟩]
        server ∧
      cache.Under cache.names 10 ∧ entries ≠ [] ∧
      ∃ after, (cache.writing entries).settle server = (.ok (), after) ∧
        after.IndexScore (cache.names.channelIndex channel.text) writer.text 23 ∧
        ∀ score, ¬after.IndexScore (cache.names.channelIndex channel.text) gone.text score := by
  intro gone kept writer channel cache first second server entries
  have fits : cache.seconds < Text.wordBound := by decide
  have atWork : cache.Under cache.names 10 := ⟨rfl, rfl⟩
  have untouched := CacheServer.untouched_blank cache.names 0
  have started := serves_untouched untouched
  have servesFirst : cache.Serves (first.advance 5000000) _ :=
    serves_advance (serves_reply started fits _) _
  have atFirst : first.space.clock = 0 := clock_reply started fits _
  have reachedFirst : ReachedWriting cache.names (Under cache.names 10) [⟨0, gone, channel⟩]
      (first.advance 5000000) :=
    .wait _ _ _ (reached_writing_reply (.start _ untouched) atWork (.set gone channel .all))
  -- From here on it does not matter how this server came about, and nothing is to compute it.
  clear_value first
  have atSecond : second.space.clock = (first.advance 5000000).space.clock :=
    clock_reply servesFirst fits _
  have fifth : (first.advance 5000000).space.seconds = 5 := by
    rw [Keyspace.seconds, clock_advance, atFirst]
    rfl
  have twelfth : server.space.seconds = 12 := by
    rw [Keyspace.seconds, clock_advance, atSecond, clock_advance, atFirst]
    rfl
  have reached : ReachedWriting cache.names (Under cache.names 10)
      [⟨0, gone, channel⟩, ⟨5, kept, channel⟩] server := by
    have step := reached_writing_reply reachedFirst atWork (.set kept channel .all)
    rw [fifth] at step
    exact .wait _ _ _ step
  have some_entries : entries ≠ [] := List.cons_ne_nil _ _
  obtain ⟨after, settled, _, indexes⟩ :=
    write_prunes_only_what_is_over fits reached atWork some_entries
  have added : Adds entries (.ofChannel channel) writer :=
    ⟨_, List.mem_cons_self, .userOfChannel⟩
  obtain ⟨_, scores, origin, _⟩ := indexes (.ofChannel channel) ⟨writer, added⟩
  refine ⟨fits, reached, atWork, some_entries, after, settled, ?_, ?_⟩
  · have written := scores writer added
    rw [twelfth] at written
    exact written
  · intro score listed
    obtain ⟨id, sameText, writing, member, stands, later⟩ := origin gone.text score listed
    obtain rfl := Uuid.text_injective sameText
    rw [twelfth] at later member
    obtain ⟨_, sameUser⟩ := stands_for_of_channel_iff.mp stands
    simp only [writings, entries, List.map_cons, List.map_nil, List.cons_append, List.nil_append,
      List.mem_cons, List.not_mem_nil, or_false] at member
    rcases member with rfl | rfl | rfl | rfl
    · exact absurd later (by decide)
    · exact absurd sameUser (by decide)
    · exact absurd sameUser (by decide)
    · exact absurd sameUser (by decide)

end SharedCache

end ChannelAccess
