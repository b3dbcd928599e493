import ChannelAccess.Proofs.Service.Underway
import ChannelAccess.Proofs.Store.Directory

/-!
# Stale entries come from reads in flight

A service without a queue, with any number of resolves and mutations in between each
other. A cached mask that is not what would be computed has been made stale by a change
that was persisted after the resolve which wrote it had begun to read. Either the drop
of what the change makes stale is still ahead, or the entry was written after that drop.
There is no other way for an entry to be stale; so where nothing is persisted every
entry is right, and so is the result of every resolve.
-/

namespace ChannelAccess

set_option autoImplicit false

namespace BusyWorld

variable {σ : Type}

/-- A task that resolves a key read from the store and then wrote a mask, which nothing has written
or dropped since. -/
structure LastWrote (state : BusyWorld σ) (key : EntryKey) (mask : Mask)
    (reader readAt writtenAt : Nat) : Prop where
  resolves : ∃ order rest,
    state.tasks[reader]? = some ⟨.resolve order key.user key.channel, rest⟩
  read : ∃ query, state.deeds[readAt]? = some ⟨reader, .asked (.store query)⟩
  written : state.deeds[writtenAt]? =
    some ⟨reader, .asked (.cache (.set key.user key.channel mask))⟩
  ordered : readAt < writtenAt
  untouched : ∀ (later task : Nat) (request : Request), writtenAt < later →
    state.deeds[later]? = some ⟨task, .asked request⟩ → ¬request.Touches key

def Dropped (state : BusyWorld σ) (mutation : Nat) (scope : Invalidation) (droppedAt : Nat) :
    Prop :=
  state.deeds[droppedAt]? = some ⟨mutation, .asked (.cache (.drop scope))⟩

/-- A mutation has the drop of a scope before it. -/
def Outstanding (state : BusyWorld σ) (mutation : Nat) (scope : Invalidation) : Prop :=
  ∃ kind rest, state.tasks[mutation]? = some ⟨.mutate kind, rest⟩ ∧
    rest.Owes (.cache (.drop scope))

structure Sound (facts : σ → Facts) (state : BusyWorld σ) : Prop where
  works : state.world.cache.Working
  tasks : ∀ (number : Nat) (task : Task), state.tasks[number]? = some task →
    task.Sound (facts state.world.store) state.deeds number
  entries : ∀ key mask, state.world.cache.view key = some mask →
    ∃ reader readAt writtenAt, state.LastWrote key mask reader readAt writtenAt ∧
      HoldsSince (facts state.world.store) state.deeds readAt key fun grounds =>
        grounds.mask key.user = some mask
  drops : ∀ (persistedAt mutation : Nat) (change : Change),
    state.deeds[persistedAt]? = some ⟨mutation, .persisted change⟩ →
      ∀ scope ∈ change.invalidations,
        (∃ droppedAt, persistedAt < droppedAt ∧ state.Dropped mutation scope droppedAt) ∨
          state.Outstanding mutation scope

variable {reply : StoreReply σ} {facts : σ → Facts} {state after : BusyWorld σ}

theorem last_wrote_append {key : EntryKey} {mask : Mask} {reader readAt writtenAt : Nat}
    {more : List Deed} (wrote : state.LastWrote key mask reader readAt writtenAt)
    (deeds : after.deeds = state.deeds ++ more)
    (errands : ∀ order rest,
      state.tasks[reader]? = some ⟨.resolve order key.user key.channel, rest⟩ →
        ∃ left, after.tasks[reader]? = some ⟨.resolve order key.user key.channel, left⟩)
    (spared : ∀ deed ∈ more, ∀ request, deed.act = .asked request → ¬request.Touches key) :
    after.LastWrote key mask reader readAt writtenAt where
  resolves := by
    obtain ⟨order, rest, found⟩ := wrote.resolves
    exact ⟨order, errands order rest found⟩
  read := by
    obtain ⟨query, noted⟩ := wrote.read
    exact ⟨query, deeds ▸ found_append_left noted more⟩
  written := deeds ▸ found_append_left wrote.written more
  ordered := wrote.ordered
  untouched later task request afterwards noted := by
    rw [deeds] at noted
    rcases found_append_cases noted with old | ⟨_, _, new⟩
    · exact wrote.untouched later task request afterwards old
    · exact spared _ (List.mem_of_getElem? new) request rfl

theorem read_before_end {key : EntryKey} {mask : Mask} {reader readAt writtenAt : Nat}
    (wrote : state.LastWrote key mask reader readAt writtenAt) :
    readAt ≤ state.deeds.length := by
  obtain ⟨bound, _⟩ := List.getElem?_eq_some_iff.mp wrote.written
  have ordered := wrote.ordered
  omega

theorem sound_extended {newcomers : List Task} {more : List Deed} (sound : state.Sound facts)
    (world : World σ) (works : world.cache.Working)
    (within : world.cache.view.Within state.world.cache.view)
    (explained : Explained (facts state.world.store) (facts world.store) more)
    (accepted : ∀ task ∈ newcomers, ∃ errand, task = ⟨errand, Errand.plan errand⟩)
    (spared : ∀ deed ∈ more, ∃ change, deed.act = .persisted change)
    (owed : ∀ deed ∈ more, ∀ change, deed.act = .persisted change →
      ∀ scope ∈ change.invalidations,
        Outstanding ⟨world, state.tasks ++ newcomers, state.deeds ++ more⟩ deed.task scope) :
    (⟨world, state.tasks ++ newcomers, state.deeds ++ more⟩ : BusyWorld σ).Sound facts where
  works := works
  tasks number task found := by
    rcases found_append_cases found with old | ⟨_, _, new⟩
    · exact Task.sound_append (sound.tasks number task old) explained
    · obtain ⟨errand, rfl⟩ := accepted task (List.mem_of_getElem? new)
      exact Task.sound_accepted _ _ number errand
  entries key mask found := by
    obtain ⟨reader, readAt, writtenAt, wrote, right⟩ :=
      sound.entries key mask (within key mask found)
    refine ⟨reader, readAt, writtenAt, ?_,
      holds_since_append right (read_before_end wrote) explained⟩
    apply last_wrote_append wrote rfl
    · intro order rest resolves
      exact ⟨rest, found_append_left resolves newcomers⟩
    · intro deed member request asked
      obtain ⟨change, persisted⟩ := spared deed member
      rw [asked] at persisted
      contradiction
  drops persistedAt mutation change noted scope member := by
    rcases found_append_cases noted with old | ⟨_, _, new⟩
    · rcases sound.drops persistedAt mutation change old scope member with
        ⟨droppedAt, afterwards, dropped⟩ | ⟨kind, rest, found, owes⟩
      · exact .inl ⟨droppedAt, afterwards, found_append_left dropped more⟩
      · exact .inr ⟨kind, rest, found_append_left found newcomers, owes⟩
    · exact .inr (owed _ (List.mem_of_getElem? new) change rfl scope member)

theorem sound_accept (sound : state.Sound facts) (errand : Errand) :
    (state.accept errand).Sound facts := by
  have extended : (⟨state.world, state.tasks ++ [⟨errand, errand.plan⟩], state.deeds ++ []⟩ :
      BusyWorld σ).Sound facts := by
    apply sound_extended sound state.world sound.works (CacheView.within_refl _)
      (explained_refl _ _)
    · intro task member
      exact ⟨errand, List.mem_singleton.mp member⟩
    · simp
    · simp
  rw [List.append_nil] at extended
  exact extended

theorem sound_wait (sound : state.Sound facts) (micros : Nat) :
    (state.wait micros).Sound facts := by
  obtain ⟨works, within⟩ := CacheState.advance_working sound.works micros
  have extended : (⟨(state.wait micros).world, state.tasks ++ [], state.deeds ++ []⟩ :
      BusyWorld σ).Sound facts := by
    apply sound_extended sound (state.wait micros).world works within (explained_refl _ _) <;> simp
  rw [List.append_nil, List.append_nil] at extended
  exact extended

theorem sound_persist (sound : state.Sound facts) {change : Change} {store : σ}
    (permitted : change.Permits (facts state.world.store) (facts store)) :
    (state.persist change store).Sound facts := by
  apply sound_extended sound { state.world with store := store } sound.works
    (CacheView.within_refl _) (explained_of_persisted permitted state.tasks.length)
  · intro task member
    exact ⟨.mutate (.applyChange change), List.mem_singleton.mp member⟩
  · intro deed member
    rw [List.mem_singleton.mp member]
    exact ⟨change, rfl⟩
  · intro deed member other persisted scope stale
    rw [List.mem_singleton.mp member] at persisted ⊢
    cases persisted
    exact ⟨.applyChange change, _, List.getElem?_concat_length, Mutation.owes_apply_all stale⟩

section Granting

variable {number : Nat} {errand : Errand} {request : Request}
  {next : request.Reply → Plan errand.Result}
  (asking : state.tasks[number]? = some ⟨errand, .ask request next⟩)

include asking

theorem granted_task (reply : StoreReply σ) :
    (state.grant reply number errand request next).tasks[number]? =
      some ⟨errand, next (World.answer reply request state.world).1⟩ := by
  obtain ⟨bound, _⟩ := List.getElem?_eq_some_iff.mp asking
  exact List.getElem?_set_self bound

theorem errand_grant (reply : StoreReply σ) {other : Nat} {given : Errand}
    {rest : Plan given.Result} (found : state.tasks[other]? = some ⟨given, rest⟩) :
    ∃ left, (state.grant reply number errand request next).tasks[other]? = some ⟨given, left⟩ := by
  by_cases same : number = other
  · subst same
    rw [asking] at found
    cases found
    exact ⟨_, granted_task asking reply⟩
  · exact ⟨rest, (List.getElem?_set_ne same).trans found⟩

theorem entries_grant (answers : StoreAnswers reply facts) (sound : state.Sound facts)
    {key : EntryKey} {mask : Mask}
    (found : (state.grant reply number errand request next).world.cache.view key = some mask) :
    ∃ reader readAt writtenAt,
      (state.grant reply number errand request next).LastWrote key mask reader readAt writtenAt ∧
        HoldsSince (facts (state.grant reply number errand request next).world.store)
          (state.grant reply number errand request next).deeds readAt key fun grounds =>
            grounds.mask key.user = some mask := by
  rcases World.found_after_answer sound.works found with ⟨query, rfl, written⟩ | ⟨spares, before⟩
  · -- The entry is new, so the task resolves its key and has read before.
    obtain ⟨⟨order, rfl⟩, rfl, readAt, read, noted, right⟩ :=
      Task.written_of_sound (sound.tasks number _ asking) written
    obtain ⟨bound, _⟩ := List.getElem?_eq_some_iff.mp noted
    refine ⟨number, readAt, state.deeds.length, ?_,
      holds_since_append right (Nat.le_of_lt bound) (explained_refl _ _)⟩
    refine ⟨⟨order, _, granted_task asking reply⟩, ⟨read, found_append_left noted _⟩,
      List.getElem?_concat_length, bound, ?_⟩
    intro later task request afterwards late
    obtain ⟨inside, _⟩ := List.getElem?_eq_some_iff.mp late
    rw [grant, List.length_append, List.length_singleton] at inside
    omega
  · obtain ⟨reader, readAt, writtenAt, wrote, right⟩ := sound.entries key mask before
    refine ⟨reader, readAt, writtenAt, ?_, holds_since_append right (read_before_end wrote)
      (World.explained_of_answer answers request state.world number)⟩
    apply last_wrote_append wrote rfl fun _ _ resolves => errand_grant asking reply resolves
    intro deed member other asked
    rw [List.mem_singleton.mp member] at asked
    rwa [← act_of_eq_asked asked]

theorem drops_grant (reply : StoreReply σ) (sound : state.Sound facts)
    {persistedAt mutation : Nat} {change : Change}
    (noted : (state.grant reply number errand request next).deeds[persistedAt]? =
      some ⟨mutation, .persisted change⟩)
    {scope : Invalidation} (member : scope ∈ change.invalidations) :
    (∃ droppedAt, persistedAt < droppedAt ∧
        (state.grant reply number errand request next).Dropped mutation scope droppedAt) ∨
      (state.grant reply number errand request next).Outstanding mutation scope := by
  rcases found_append_cases noted with old | ⟨_, _, new⟩
  · rcases sound.drops persistedAt mutation change old scope member with
      ⟨droppedAt, afterwards, dropped⟩ | ⟨kind, rest, found, owes⟩
    · exact .inl ⟨droppedAt, afterwards, found_append_left dropped _⟩
    · by_cases same : number = mutation
      · subst same
        rw [asking] at found
        cases found
        rcases owes with rfl | later
        · obtain ⟨bound, _⟩ := List.getElem?_eq_some_iff.mp old
          exact .inl ⟨state.deeds.length, bound, List.getElem?_concat_length⟩
        · exact .inr ⟨kind, _, granted_task asking reply, later _⟩
      · exact .inr ⟨kind, rest, (List.getElem?_set_ne same).trans found, owes⟩
  · -- What is persisted now is owed by the task that has just persisted it.
    obtain ⟨rfl, persisted⟩ := Deed.mk.inj (List.mem_singleton.mp (List.mem_of_getElem? new))
    obtain ⟨⟨kind, rfl⟩, owes⟩ :=
      Task.persisted_of_sound (sound.tasks mutation _ asking) persisted.symm
    exact .inr ⟨kind, _, granted_task asking reply, owes scope member⟩

theorem sound_grant (answers : StoreAnswers reply facts) (sound : state.Sound facts) :
    (state.grant reply number errand request next).Sound facts where
  works := World.working_after_answer sound.works request
  tasks other task found := by
    by_cases same : number = other
    · subst same
      rw [granted_task asking reply] at found
      cases found
      apply Task.sound_answer answers sound.works _ (sound.tasks number _ asking)
      intro key mask cached
      obtain ⟨_, _, _, _, right⟩ := sound.entries key mask cached
      exact holds_since_weaken right
    · have waited : state.tasks[other]? = some task :=
        (List.getElem?_set_ne same).symm.trans found
      exact Task.sound_append (sound.tasks other task waited)
        (World.explained_of_answer answers request state.world number)
  entries key mask found := entries_grant asking answers sound found
  drops _ _ _ noted _ member := drops_grant asking reply sound noted member

end Granting

theorem sound_of_turn (answers : StoreAnswers reply facts) (sound : state.Sound facts)
    (turn : Turn reply facts state after) : after.Sound facts := by
  cases turn with
  | accept errand => exact sound_accept sound errand
  | persist change store permitted => exact sound_persist sound permitted
  | proceed number =>
      rcases proceed_cases reply number state with same | ⟨errand, request, next, asking, same⟩
      · rw [same]
        exact sound
      · rw [same]
        exact sound_grant asking answers sound
  | wait micros => exact sound_wait sound micros

theorem sound_of_visited (answers : StoreAnswers reply facts)
    (visited : Visited reply facts state) : state.Sound facts := by
  induction visited with
  | start store cache unused =>
      obtain ⟨works, empty⟩ := CacheState.working_of_unused unused
      refine ⟨works, ?_, ?_, ?_⟩
      · intro number task found
        contradiction
      · intro key mask found
        simp [empty] at found
      · intro persistedAt mutation change noted
        contradiction
  | next visited turn ih => exact sound_of_turn answers ih turn

theorem dropped_before_written {key : EntryKey} {mask : Mask} {reader readAt writtenAt : Nat}
    (wrote : state.LastWrote key mask reader readAt writtenAt) {mutation droppedAt : Nat}
    {scope : Invalidation} (dropped : state.Dropped mutation scope droppedAt)
    (covers : scope.covers key.user key.channel = true) : droppedAt < writtenAt := by
  rcases Nat.lt_trichotomy droppedAt writtenAt with before | same | after
  · exact before
  · have clash := (same ▸ dropped).symm.trans wrote.written
    cases scope <;> simp [CacheQuery.drop] at clash
  · have drops : (CacheQuery.drop scope).drops key = true := by
      rw [CacheQuery.drops_drop, covers]
    exact absurd (.inr drops) (wrote.untouched droppedAt mutation _ after dropped)

theorem read_before_persisted {key : EntryKey} {mask : Mask} {reader readAt writtenAt : Nat}
    (wrote : state.LastWrote key mask reader readAt writtenAt) {mutation persistedAt : Nat}
    {change : Change} (persisted : state.deeds[persistedAt]? = some ⟨mutation, .persisted change⟩)
    (late : readAt ≤ persistedAt) : readAt < persistedAt := by
  obtain ⟨query, read⟩ := wrote.read
  have apart : readAt ≠ persistedAt := by
    rintro rfl
    rw [persisted] at read
    simp at read
  omega

theorem holds_of_nothing_persisted {key : EntryKey} {start : Nat} {so : Facts.Grounds → Prop}
    (quiet : ∀ deed ∈ state.deeds, ∀ change, deed.act ≠ .persisted change)
    (holds : HoldsSince (facts state.world.store) state.deeds start key so) :
    so ((facts state.world.store).grounds key) := by
  rcases holds with now | ⟨_, deed, _, noted, change, persisted, _⟩
  · exact now
  · exact absurd persisted (quiet deed (List.mem_of_getElem? noted) change)

/-- Wherever a service without a queue gets to from an empty cache, with any tasks in between each
other: a cached mask that is not what would be computed on the store as it is then is in a scope
that a mutation, persisted before, makes stale. That scope has yet to be dropped, or the mask was
written after it had been, by a resolve that had read the store before the mutation was persisted.
Where nothing was persisted, every cached mask and the result of every resolve is what would be
computed. -/
theorem stale_entries_were_in_flight (answers : StoreAnswers reply facts)
    (visited : Visited reply facts state) :
    (∀ user channel mask,
      (state.world.cache.reply (.get user channel)).1 = .ok (some mask) →
      (state.world.carryOut reply (Resolver.compute user channel).run).1 ≠ .ok mask →
      ∃ (mutation persistedAt : Nat) (change : Change), ∃ scope ∈ change.invalidations,
        state.deeds[persistedAt]? = some ⟨mutation, .persisted change⟩ ∧
        scope.covers user channel = true ∧
        ((state.Outstanding mutation scope ∧
            ∀ droppedAt, persistedAt < droppedAt → ¬state.Dropped mutation scope droppedAt) ∨
          ∃ reader readAt droppedAt writtenAt,
            state.LastWrote ⟨user, channel⟩ mask reader readAt writtenAt ∧
            state.Dropped mutation scope droppedAt ∧
            readAt < persistedAt ∧ persistedAt < droppedAt ∧ droppedAt < writtenAt)) ∧
    ((∀ deed ∈ state.deeds, ∀ change, deed.act ≠ .persisted change) →
      (∀ user channel mask,
        (state.world.cache.reply (.get user channel)).1 = .ok (some mask) →
        (state.world.carryOut reply (Resolver.compute user channel).run).1 = .ok mask) ∧
      ∀ (number : Nat) (order : ReadOrder) (user : UserId) (channel : ChannelId)
        (result : Except AccessError Mask),
        state.tasks[number]? = some ⟨.resolve order user channel, .done result⟩ →
        (state.world.carryOut reply (Resolver.compute user channel).run).1 = result) := by
  have sound := sound_of_visited answers visited
  have cached {user : UserId} {channel : ChannelId} {mask : Mask}
      (got : (state.world.cache.reply (.get user channel)).1 = .ok (some mask)) :
      state.world.cache.view ⟨user, channel⟩ = some mask := by
    rw [(CacheState.reply_working sound.works (.get user channel)).1] at got
    exact Except.ok.inj got
  constructor
  · intro user channel mask got differs
    obtain ⟨reader, readAt, writtenAt, wrote, right⟩ :=
      sound.entries ⟨user, channel⟩ mask (cached got)
    -- The mask still follows, or a mutation was persisted after its resolve had read.
    rcases right with now | ⟨persistedAt, ⟨mutation, _⟩, late, persisted, change, rfl, stale⟩
    · exact absurd (computed_of_follows answers sound.works now) differs
    · obtain ⟨scope, member, covers⟩ := stale
      refine ⟨mutation, persistedAt, change, scope, member, persisted, covers, ?_⟩
      by_cases later : ∃ droppedAt, persistedAt < droppedAt ∧ state.Dropped mutation scope droppedAt
      · obtain ⟨droppedAt, afterwards, dropped⟩ := later
        exact .inr ⟨reader, readAt, droppedAt, writtenAt, wrote, dropped,
          read_before_persisted wrote persisted late, afterwards,
          dropped_before_written wrote dropped covers⟩
      · have outstanding :=
          (sound.drops persistedAt mutation change persisted scope member).resolve_left later
        exact .inl ⟨outstanding, fun droppedAt afterwards dropped =>
          later ⟨droppedAt, afterwards, dropped⟩⟩
  · intro quiet
    constructor
    · intro user channel mask got
      obtain ⟨_, _, _, _, right⟩ := sound.entries ⟨user, channel⟩ mask (cached got)
      exact computed_of_follows answers sound.works (holds_of_nothing_persisted quiet right)
    · intro number order user channel result done
      have right := Resolver.progress_done (sound.tasks number _ done)
      rw [compute_eq answers sound.works, holds_of_nothing_persisted quiet right]
      rfl

/-- A resolve has read everything when the permission is denied to its user and the channel is
dropped; then it writes the mask as it was. -/
theorem stale_entries_were_in_flight_past_drop :
    let user : UserId := .ofNat 7
    let channel : ChannelId := .ofNat 2
    let directory : Directory :=
      ⟨.ofNat 1, .ofEntries [(.ofNat 1, .ofNat 4)], ∅, .ofEntries [(channel, "general")], [],
        none, 0, false⟩
    let fresh : BusyWorld Directory := ⟨⟨directory, .inProcess (.fresh 300), none⟩, [], []⟩
    let read := (fresh.accept (.resolve ⟨false, false⟩ user channel)).proceedAll
      Directory.fullReply [0, 0, 0, 0, 0]
    let denial : Mutation := .setOverride channel (.user user) ∅ (.ofNat 4)
    let denied := (read.accept (.mutate denial)).proceedAll Directory.fullReply [1, 1]
    let written := denied.proceed Directory.fullReply 0
    StoreAnswers Directory.fullReply Directory.facts ∧
      Visited Directory.fullReply Directory.facts written ∧
      (denied.world.cache.reply (.get user channel)).1 = .ok none ∧
      (written.world.cache.reply (.get user channel)).1 = .ok (some (.ofNat 4)) ∧
      (written.world.carryOut Directory.fullReply (Resolver.compute user channel).run).1 ≠
        .ok (.ofNat 4) ∧
      ∃ (mutation persistedAt : Nat) (change : Change), ∃ scope ∈ change.invalidations,
        written.deeds[persistedAt]? = some ⟨mutation, .persisted change⟩ ∧
        scope.covers user channel = true ∧
        ((written.Outstanding mutation scope ∧
            ∀ droppedAt, persistedAt < droppedAt → ¬written.Dropped mutation scope droppedAt) ∨
          ∃ reader readAt droppedAt writtenAt,
            written.LastWrote ⟨user, channel⟩ (.ofNat 4) reader readAt writtenAt ∧
            written.Dropped mutation scope droppedAt ∧
            readAt < persistedAt ∧ persistedAt < droppedAt ∧ droppedAt < writtenAt) := by
  intro user channel directory fresh read denial denied written
  have started : Visited Directory.fullReply Directory.facts fresh :=
    .start directory (.inProcess (.fresh 300)) ⟨300, rfl⟩
  have visitedRead : Visited Directory.fullReply Directory.facts read :=
    visited_proceed_all _ (started.next (.accept _))
  have visited : Visited Directory.fullReply Directory.facts written :=
    .next (visited_proceed_all _ (visitedRead.next (.accept _))) (.proceed 0)
  have dropped : (denied.world.cache.reply (.get user channel)).1 = .ok none := by
    subst denied denial read fresh directory user channel
    rfl
  have got : (written.world.cache.reply (.get user channel)).1 = .ok (some (.ofNat 4)) := by
    subst written denied denial read fresh directory user channel
    rfl
  have differs : (written.world.carryOut Directory.fullReply
      (Resolver.compute user channel).run).1 ≠ .ok (.ofNat 4) := by
    intro same
    have nothing : (written.world.carryOut Directory.fullReply
        (Resolver.compute user channel).run).1 = .ok (.ofNat 0) := by
      subst written denied denial read fresh directory user channel
      rfl
    have equal : Mask.ofNat 0 = .ofNat 4 := Except.ok.inj (nothing.symm.trans same)
    exact absurd equal (by decide)
  have answers := Directory.full_reply_answers
  exact ⟨answers, visited, dropped, got, differs,
    (stale_entries_were_in_flight answers visited).1 user channel (.ofNat 4) got differs⟩

end BusyWorld

end ChannelAccess
