import ChannelAccess.Proofs.Cache.InProcessReply
import ChannelAccess.Proofs.Cache.SharedRun

/-!
# The two caches agree

The in-process cache and the shared cache, started empty and given the same queries,
answer each of them alike for as long as no lifetime runs out: both answer what a
plain table of masks would. Each side has a clock of its own, and each side may write
the entries of a batch in an order of its own. The in-process cache stores as many
entries as the table has.
-/

namespace ChannelAccess

set_option autoImplicit false

abbrev MaskTable := Std.ExtTreeMap EntryKey Mask

namespace MaskTable

def view (table : MaskTable) : CacheView := fun key => table[key]?

def put (table : MaskTable) (entry : SharedCache.Entry) : MaskTable :=
  table.insert ⟨entry.user, entry.channel⟩ entry.mask

/-- The table after a query: what the query drops is taken out, what it writes is put in. -/
def after (table : MaskTable) (query : CacheQuery) : MaskTable :=
  query.entries.foldl put (table.filter fun key _ => !query.drops key)

theorem view_put (table : MaskTable) (entry : SharedCache.Entry) :
    (table.put entry).view = table.view.put entry := by
  funext key
  simp only [view, put, CacheView.put, Std.ExtTreeMap.getElem?_insert, Std.compare_eq_iff_eq,
    eq_comm (b := key)]

theorem view_put_all (entries : List SharedCache.Entry) (table : MaskTable) :
    view (entries.foldl put table) = entries.foldl CacheView.put table.view := by
  induction entries generalizing table with
  | nil => rfl
  | cons entry rest ih => rw [List.foldl_cons, List.foldl_cons, ih, view_put]

theorem view_after (table : MaskTable) (query : CacheQuery) :
    (table.after query).view = query.effectOn table.view := by
  funext key
  rw [after, view_put_all, CacheView.put_written (.refl _), CacheQuery.effectOn]
  congr 1
  simp only [view, Std.ExtTreeMap.getElem?_filter']
  cases query.drops key with
  | true => simp
  | false => cases table[key]? <;> rfl

end MaskTable

/-- A lifetime whose milliseconds a signed 64-bit word can count, as the server wants it. -/
def SharedCache.Accepted (cache : SharedCache) : Prop :=
  cache.seconds * 1000 < Nat.pow 2 63

theorem SharedCache.fits_of_accepted {cache : SharedCache} (accepted : cache.Accepted) :
    cache.seconds < Text.wordBound := by
  rw [Accepted, Nat.pow_eq] at accepted
  rw [Text.wordBound, Nat.pow_eq]
  omega

/-- An in-process cache, a server and a table, started together and given the same queries. Between
queries time passes for each cache. -/
inductive Alongside (cache : SharedCache) (started : Nat) :
    InProcessCache → CacheServer → MaskTable → Prop where
  | start (server : CacheServer) (untouched : server.Untouched cache.names)
      (clock : server.space.clock = started) :
      Alongside cache started (.fresh cache.seconds) server ∅
  | wait {memory : InProcessCache} {server : CacheServer} {table : MaskTable}
      (reached : Alongside cache started memory server table)
      (memoryMicros serverMicros : Nat) :
      Alongside cache started (memory.advance memoryMicros) (server.advance serverMicros) table
  | turn {memory : InProcessCache} {server : CacheServer} {table : MaskTable}
      (reached : Alongside cache started memory server table) (query : CacheQuery)
      {memoryOrder serverOrder : List SharedCache.Entry}
      (memoryArranged : memoryOrder.Perm query.entries)
      (serverArranged : serverOrder.Perm query.entries) :
      Alongside cache started (memory.replyInOrder memoryOrder query).2
        ((cache.exchangeInOrder serverOrder query).settle server).2 (table.after query)

/-- An in-process cache whose entries all outlive the lifetime counted from time zero, and are those
of a table. -/
structure InProcessCache.Agrees (seconds : Nat) (memory : InProcessCache) (table : MaskTable) :
    Prop where
  lifetime : memory.lifetime = seconds * Keyspace.second
  long : ∀ (key : EntryKey) (entry : TimedMask),
    memory.entries[key]? = some entry → memory.lifetime ≤ entry.expiry
  within : memory.overran = false
  view : memory.view = table.view

/-- A server whose entries all outlive the lifetime counted from the start, and are those of a
table. -/
structure SharedCache.Agrees (cache : SharedCache) (started : Nat) (server : CacheServer)
    (table : MaskTable) (held : Holdings) : Prop where
  serves : cache.Serves server held
  covered : held.Covered cache.seconds
  since : started ≤ held.clock
  long : ∀ key entry, held.entry key = some entry →
    started + cache.seconds * Keyspace.second ≤ entry.expiry
  view : held.view = table.view

namespace InProcessCache

variable {seconds : Nat} {memory : InProcessCache} {table : MaskTable}

theorem agrees_fresh (seconds : Nat) : (fresh seconds).Agrees seconds ∅ where
  lifetime := rfl
  long key entry stored := by simp [fresh] at stored
  within := rfl
  view := by
    funext key
    simp [view, fresh, MaskTable.view]

theorem agrees_advance (agrees : memory.Agrees seconds table) (micros : Nat)
    (inTime : memory.clock + micros < seconds * Keyspace.second) :
    (memory.advance micros).Agrees seconds table where
  lifetime := agrees.lifetime
  long := agrees.long
  within := agrees.within
  view := by
    rw [← agrees.view]
    funext key
    rw [view, view]
    cases stored : memory.entries[key]? with
    | none => simp [advance, stored]
    | some entry =>
        have long := agrees.long key entry stored
        rw [agrees.lifetime] at long
        have before : memory.alive entry = true :=
          decide_eq_true (show memory.clock < entry.expiry by omega)
        have later : (memory.advance micros).alive entry = true :=
          decide_eq_true (show memory.clock + micros < entry.expiry by omega)
        have same : (memory.advance micros).entries[key]? = some entry := stored
        rw [same, Option.filter_some, Option.filter_some, if_pos before, if_pos later]

theorem agrees_reply (agrees : memory.Agrees seconds table) (positive : 0 < seconds)
    (accepted : seconds * 1000 < Nat.pow 2 63) (inTime : memory.clock < seconds * Keyspace.second)
    {query : CacheQuery} {order : List SharedCache.Entry}
    (arranged : order.Perm query.entries) :
    (memory.replyInOrder order query).2.Agrees seconds (table.after query) := by
  have steady := @steady_reply_in_order memory order query
  have lives : 0 < memory.lifetime := by
    rw [agrees.lifetime]
    exact Nat.mul_pos positive (by decide)
  constructor
  · exact steady.lifetime.trans agrees.lifetime
  · intro key entry stored
    rw [steady.lifetime]
    rcases steady.entry key entry stored with before | new
    · exact agrees.long key entry before
    · omega
  · cases ran : (memory.replyInOrder order query).2.overran with
    | false => rfl
    | true =>
        rcases steady.overran ran with before | late
        · rw [agrees.within] at before
          contradiction
        · rw [agrees.lifetime] at late
          simp only [clockEnd, second, Keyspace.second, Nat.pow_eq] at late inTime accepted
          omega
  · rw [(view_reply_in_order arranged).2 lives, agrees.view, MaskTable.view_after]

theorem size_of_agrees (agrees : memory.Agrees seconds table)
    (inTime : memory.clock < seconds * Keyspace.second) : memory.size = table.size := by
  have same : memory.entries.map (fun _ entry => entry.mask) = table := by
    apply Std.ExtTreeMap.ext_getElem?
    intro key
    have found := congrFun agrees.view key
    rw [MaskTable.view] at found
    rw [← found, view, Std.ExtTreeMap.getElem?_map]
    cases stored : memory.entries[key]? with
    | none => rfl
    | some entry =>
        have long := agrees.long key entry stored
        rw [agrees.lifetime] at long
        have living : memory.alive entry = true :=
          decide_eq_true (show memory.clock < entry.expiry by omega)
        rw [Option.filter_some, if_pos living]
  rw [size, ← same, Std.ExtTreeMap.size_map]

end InProcessCache

namespace SharedCache

variable {cache : SharedCache} {started : Nat} {server : CacheServer} {table : MaskTable}
  {held : Holdings}

theorem agrees_untouched (untouched : server.Untouched cache.names)
    (clock : server.space.clock = started) :
    cache.Agrees started server ∅ (.blank server.space.clock) where
  serves := serves_untouched untouched
  covered := Holdings.covered_blank _
  since := Nat.le_of_eq clock.symm
  long key entry found := by simp [Holdings.blank] at found
  view := by
    funext key
    simp [Holdings.view, Holdings.blank, MaskTable.view]

theorem agrees_advance (agrees : cache.Agrees started server table held) (micros : Nat)
    (inTime : held.clock + micros < started + cache.seconds * Keyspace.second) :
    cache.Agrees started (server.advance micros) table (held.advance micros) where
  serves := serves_advance agrees.serves micros
  covered := Holdings.covered_advance agrees.covered micros
  since := Nat.le_trans agrees.since (Nat.le_add_right _ _)
  long key entry left := agrees.long key entry ((Holdings.entry_advance micros).mp left).1
  view := by
    rw [← agrees.view]
    funext key
    rw [Holdings.view, Holdings.view]
    cases found : held.entry key with
    | none => simp [Holdings.advance, found]
    | some entry =>
        have long := agrees.long key entry found
        have later : (held.advance micros).entry key = some entry :=
          (Holdings.entry_advance micros).mpr ⟨found, by omega⟩
        rw [later]

theorem clock_settle (serves : cache.Serves server held) (fits : cache.seconds < Text.wordBound)
    (order : List Entry) (query : CacheQuery) :
    ((cache.exchangeInOrder order query).settle server).2.space.clock = server.space.clock := by
  obtain ⟨after, settled, servesAfter⟩ := settle_in_order serves fits order query
  rw [settled, servesAfter.depicts.clock, Holdings.clock_after, ← serves.depicts.clock]

theorem agrees_settle (agrees : cache.Agrees started server table held)
    (fits : cache.seconds < Text.wordBound) {query : CacheQuery} {order : List Entry}
    (arranged : order.Perm query.entries) :
    cache.Agrees started ((cache.exchangeInOrder order query).settle server).2
      (table.after query) (held.after cache.seconds order query) := by
  obtain ⟨after, settled, serves⟩ := settle_in_order agrees.serves fits order query
  rw [settled]
  constructor
  · exact serves
  · exact Holdings.covered_after cache.seconds_pos agrees.covered
  · rw [Holdings.clock_after]
    exact agrees.since
  · intro key entry found
    rcases Holdings.entry_after found with before | new
    · exact agrees.long key entry before
    · have since := agrees.since
      omega
  · rw [Holdings.view_after agrees.covered arranged, agrees.view, MaskTable.view_after]

end SharedCache

theorem reached_of_alongside {cache : SharedCache} {started : Nat} {memory : InProcessCache}
    {server : CacheServer} {table : MaskTable}
    (reached : Alongside cache started memory server table) :
    SharedCache.Reached cache.names (SharedCache.Under cache.names cache.seconds) server := by
  induction reached with
  | start server untouched clock => exact .start server untouched
  | wait reached memoryMicros serverMicros ih => exact SharedCache.reached_advance ih serverMicros
  | turn reached query memoryArranged serverArranged ih =>
      exact .next ih (.ask cache query _ _ ⟨rfl, rfl⟩ serverArranged)

theorem agrees_of_alongside {cache : SharedCache} (accepted : cache.Accepted) {started : Nat}
    {memory : InProcessCache} {server : CacheServer} {table : MaskTable}
    (reached : Alongside cache started memory server table)
    (memoryInTime : memory.clock < cache.seconds * Keyspace.second)
    (serverInTime : server.space.clock < started + cache.seconds * Keyspace.second) :
    memory.Agrees cache.seconds table ∧ ∃ held, cache.Agrees started server table held := by
  have fits := SharedCache.fits_of_accepted accepted
  induction reached with
  | start server untouched clock =>
      exact ⟨InProcessCache.agrees_fresh _, _, SharedCache.agrees_untouched untouched clock⟩
  | @wait memory server table reached memoryMicros serverMicros ih =>
      have memoryBefore : memory.clock < cache.seconds * Keyspace.second :=
        Nat.lt_of_le_of_lt (Nat.le_add_right _ _) memoryInTime
      have serverBefore : server.space.clock < started + cache.seconds * Keyspace.second :=
        Nat.lt_of_le_of_lt (Nat.le_add_right _ _) serverInTime
      obtain ⟨inProcess, held, shared⟩ := ih memoryBefore serverBefore
      have inTime : held.clock + serverMicros < started + cache.seconds * Keyspace.second := by
        rw [← shared.serves.depicts.clock]
        exact serverInTime
      exact ⟨InProcessCache.agrees_advance inProcess memoryMicros memoryInTime,
        _, SharedCache.agrees_advance shared serverMicros inTime⟩
  | @turn memory server table reached query memoryOrder serverOrder memoryArranged serverArranged
      ih =>
      rw [(InProcessCache.steady_reply_in_order memoryOrder query).clock] at memoryInTime
      -- The bound on the clock is known after the query only.
      have sameClock : ((cache.exchangeInOrder serverOrder query).settle server).2.space.clock =
          server.space.clock := by
        obtain ⟨held, serves, _⟩ := SharedCache.serves_of_reached fits
          (fun other working => SharedCache.eq_of_under ⟨rfl, rfl⟩ working)
          (reached_of_alongside reached)
        exact SharedCache.clock_settle serves fits serverOrder query
      rw [sameClock] at serverInTime
      obtain ⟨inProcess, held, shared⟩ := ih memoryInTime serverInTime
      exact ⟨InProcessCache.agrees_reply inProcess cache.seconds_pos accepted memoryInTime
        memoryArranged, _, SharedCache.agrees_settle shared fits serverArranged⟩

/-- Both caches answer every query as the table does, in whatever order each of them writes the
entries of a batch. The in-process cache stores as many entries as the table has and never asks for
a time beyond the end of its clock. -/
theorem caches_answer_as_table {cache : SharedCache} (accepted : cache.Accepted) {started : Nat}
    {memory : InProcessCache} {server : CacheServer} {table : MaskTable}
    (reached : Alongside cache started memory server table)
    (memoryInTime : memory.clock < cache.seconds * Keyspace.second)
    (serverInTime : server.space.clock < started + cache.seconds * Keyspace.second) :
    memory.size = table.size ∧ memory.overran = false ∧
      ∀ query : CacheQuery,
        (memory.reply query).1 = .ok (query.answerFrom table.view) ∧
        (cache.reply query server).1 = .ok (query.answerFrom table.view) ∧
        ∀ order : List SharedCache.Entry, order.Perm query.entries →
          (memory.replyInOrder order query).1 = .ok (query.answerFrom table.view) ∧
          ((cache.exchangeInOrder order query).settle server).1 =
            .ok (query.answerFrom table.view) := by
  obtain ⟨inProcess, held, shared⟩ :=
    agrees_of_alongside accepted reached memoryInTime serverInTime
  have inOrder (query : CacheQuery) (order : List SharedCache.Entry) :
      (memory.replyInOrder order query).1 = .ok (query.answerFrom table.view) ∧
        ((cache.exchangeInOrder order query).settle server).1 =
          .ok (query.answerFrom table.view) := by
    constructor
    · rw [InProcessCache.reply_in_order_fst, inProcess.view]
    · obtain ⟨after, settled, _⟩ := SharedCache.settle_in_order shared.serves
        (SharedCache.fits_of_accepted accepted) order query
      rw [settled, shared.view]
  refine ⟨InProcessCache.size_of_agrees inProcess memoryInTime, inProcess.within, ?_⟩
  intro query
  refine ⟨?_, ?_, fun order _ => inOrder query order⟩
  · rw [← InProcessCache.reply_in_order_entries]
    exact (inOrder query query.entries).1
  · rw [SharedCache.reply_eq_settle]
    exact (inOrder query query.entries).2

/-- An empty mask, written and read 59 of 60 seconds later, is found by both caches. -/
theorem caches_answer_as_table_on_empty_mask :
    let cache := SharedCache.opened "permissions" 60
    let query : CacheQuery := .set (.ofNat 1) (.ofNat 2) ∅
    let memory := ((InProcessCache.fresh 60).reply query).2.advance 59000000
    let server := (cache.reply query ⟨.blank 0, none⟩).2.advance 59000000
    cache.Accepted ∧ Alongside cache 0 memory server (MaskTable.after ∅ query) ∧
      memory.clock < cache.seconds * Keyspace.second ∧
      server.space.clock < 0 + cache.seconds * Keyspace.second ∧
      (memory.reply (.get (.ofNat 1) (.ofNat 2))).1 = .ok (some ∅) ∧
      (cache.reply (.get (.ofNat 1) (.ofNat 2)) server).1 = .ok (some ∅) := by
  intro cache query memory server
  have accepted : cache.Accepted := by
    change 60 * 1000 < Nat.pow 2 63
    decide
  have untouched := CacheServer.untouched_blank cache.names 0
  have reached : Alongside cache 0 memory server (MaskTable.after ∅ query) := by
    have turned := Alongside.turn (.start _ untouched rfl) query (.refl _) (.refl _)
    rw [InProcessCache.reply_in_order_entries, ← SharedCache.reply_eq_settle] at turned
    exact .wait turned 59000000 59000000
  have memoryInTime : memory.clock < cache.seconds * Keyspace.second := by decide
  have serverInTime : server.space.clock < 0 + cache.seconds * Keyspace.second := by
    have same := SharedCache.clock_settle (SharedCache.serves_untouched untouched)
      (SharedCache.fits_of_accepted accepted) query.entries query
    rw [← SharedCache.reply_eq_settle] at same
    change (cache.reply query ⟨.blank 0, none⟩).2.space.clock + 59000000 < _
    rw [same]
    decide
  have found : query.effectOn (MaskTable.view ∅) ⟨.ofNat 1, .ofNat 2⟩ = some ∅ := rfl
  have answers := (caches_answer_as_table accepted reached memoryInTime serverInTime).2.2
    (.get (.ofNat 1) (.ofNat 2))
  simp only [CacheQuery.answerFrom, MaskTable.view_after, found] at answers
  exact ⟨accepted, reached, memoryInTime, serverInTime, answers.1, answers.2.1⟩

end ChannelAccess
