import ChannelAccess.Proofs.Service.StoreFailures
import ChannelAccess.Proofs.Store.Directory
import ChannelAccess.Proofs.Store.Telling

/-!
# What filters leave in the cache

A filter judges many channels of one user or many users of one channel. One that comes
to a result leaves in the cache what was there, and for each identifier that it was
asked about and did not find, the mask that follows from what the store says, if there
is one. So the same filter at once finds all of its entries whose channels exist.
-/

namespace ChannelAccess

set_option autoImplicit false

namespace CacheState

/-- A cache that answers, and whose entries live for a while. -/
def Keeping : CacheState → Prop
  | .inProcess cache => 0 < cache.lifetime
  | .shared cache server => cache.seconds < Text.wordBound ∧ ∃ held, cache.Serves server held

theorem answering_of_keeping {state : CacheState} (keeping : state.Keeping) : state.Answering := by
  cases state with
  | inProcess cache => trivial
  | shared cache server => exact keeping

theorem reply_keeping {state : CacheState} (keeping : state.Keeping) {query : CacheQuery}
    (keeps : query.dropped = none) :
    (state.reply query).1 = .ok (query.answerFrom state.view) ∧
      (state.reply query).2.Keeping ∧
        (state.reply query).2.view = query.effectOn state.view := by
  cases state with
  | inProcess cache =>
      have steady : InProcessCache.Steady cache (cache.replyInOrder query.entries query).2 :=
        InProcessCache.steady_reply_in_order query.entries query
      have exactly : (cache.replyInOrder query.entries query).2.view = _ :=
        (InProcessCache.view_reply_in_order (.refl _)).2 keeping
      rw [InProcessCache.reply_in_order_entries] at steady exactly
      refine ⟨(reply_in_process cache query).1, ?_, exactly⟩
      change 0 < (cache.reply query).2.lifetime
      rw [steady.lifetime]
      exact keeping
  | shared cache server =>
      obtain ⟨fits, held, serves⟩ := keeping
      obtain ⟨after, replied, servesAfter⟩ := reply_shared serves fits query
      rw [replied, view_shared serves]
      refine ⟨rfl, ⟨fits, _, servesAfter⟩, ?_⟩
      rw [view_shared servesAfter, Holdings.view_after_keeping keeps (.refl _)]

end CacheState

/-- The user or the channel that a filter is about. -/
inductive Subject where
  | ofUser (user : UserId)
  | ofChannel (channel : ChannelId)

namespace Subject

def key : Subject → Uuid → EntryKey
  | .ofUser user, channel => ⟨user, channel⟩
  | .ofChannel channel, user => ⟨user, channel⟩

def filter : Subject → List Uuid → Mask → Attempt (List Bool)
  | .ofUser user, channels, permission => Resolver.filterPermitted user channels permission
  | .ofChannel channel, users, permission => Resolver.filterUsersPermitted users channel permission

def compute : Subject → List Uuid → Attempt (IdMap Mask)
  | .ofUser user, channels => Resolver.computeChannels user channels
  | .ofChannel channel, users => Resolver.computeUsers users channel

/-- The facts as a filter meets them. One over channels asks whether its user is the owner, and one
over users who is. -/
def met (facts : Facts) (owns : UserId → Bool) : Subject → Facts
  | .ofUser user => facts.metBy owns user
  | .ofChannel _ => facts

/-- What is found when the entries of some identifiers are filled in from the facts. -/
def fill (subject : Subject) (facts : Facts) (ids : List Uuid) (view : CacheView) : CacheView :=
  fun key => if key ∈ ids.map subject.key then (view key).or (facts.mask key) else view key

def write : Subject → IdMap Mask → CacheQuery
  | .ofUser user, masks => .setMany user masks
  | .ofChannel channel, masks => .setManyUsers channel masks

variable (subject : Subject)

theorem key_injective {first second : Uuid} (same : subject.key first = subject.key second) :
    first = second := by
  cases subject with
  | ofUser user => exact congrArg EntryKey.channel same
  | ofChannel channel => exact congrArg EntryKey.user same

theorem effect_of_write (masks : IdMap Mask) (view : CacheView) (id : Uuid) :
    (subject.write masks).effectOn view (subject.key id) =
      masks[id]?.or (view (subject.key id)) := by
  cases subject <;> simp [write, key, CacheQuery.effectOn, CacheQuery.written, CacheQuery.drops,
    CacheQuery.dropped]

theorem effect_of_write_elsewhere (masks : IdMap Mask) (view : CacheView) {key : EntryKey}
    (elsewhere : ∀ id, key ≠ subject.key id) :
    (subject.write masks).effectOn view key = view key := by
  cases subject with
  | ofUser user =>
      have other : key.user ≠ user := by
        rintro rfl
        exact elsewhere key.channel rfl
      simp [write, CacheQuery.effectOn, CacheQuery.written, CacheQuery.drops, CacheQuery.dropped,
        other]
  | ofChannel channel =>
      have other : key.channel ≠ channel := by
        rintro rfl
        exact elsewhere key.user rfl
      simp [write, CacheQuery.effectOn, CacheQuery.written, CacheQuery.drops, CacheQuery.dropped,
        other]

theorem effect_of_nothing {masks : IdMap Mask} (nothing : masks.isEmpty = true)
    (view : CacheView) : (subject.write masks).effectOn view = view := by
  obtain rfl := Std.ExtTreeMap.isEmpty_iff.mp nothing
  have empty : ∀ key, (subject.write ∅).written key = none := by
    intro key
    cases subject <;> simp [write, CacheQuery.written]
  cases subject <;> exact CacheQuery.effect_of_read rfl empty view

theorem effect_of_missing (facts : Facts) {ids missing : List Uuid} {view : CacheView}
    (missed : ∀ id, id ∈ missing ↔ id ∈ ids ∧ view (subject.key id) = none) :
    (subject.write (gather (fun id => facts.mask (subject.key id)) missing)).effectOn view =
      subject.fill facts ids view := by
  funext key
  by_cases here : ∃ id, key = subject.key id
  · obtain ⟨id, rfl⟩ := here
    have asked : subject.key id ∈ ids.map subject.key ↔ id ∈ ids := by
      rw [List.mem_map]
      constructor
      · rintro ⟨other, member, same⟩
        rwa [← subject.key_injective same]
      · exact fun member => ⟨id, member, rfl⟩
    rw [effect_of_write, get_gather, fill]
    simp only [missed, asked]
    by_cases member : id ∈ ids
    · cases found : view (subject.key id) <;> simp [member]
    · simp [member]
  · have elsewhere : ∀ id, key ≠ subject.key id := fun id same => here ⟨id, same⟩
    have unasked : key ∉ ids.map subject.key := by
      rw [List.mem_map]
      rintro ⟨id, _, rfl⟩
      exact elsewhere id rfl
    rw [subject.effect_of_write_elsewhere _ _ elsewhere, fill, if_neg unasked]

theorem fill_of_found (facts : Facts) {ids : List Uuid} {view : CacheView}
    (found : ∀ id ∈ ids, view (subject.key id) ≠ none) : subject.fill facts ids view = view := by
  funext key
  rw [fill]
  split
  case isTrue asked =>
    obtain ⟨id, member, rfl⟩ := List.mem_map.mp asked
    obtain ⟨mask, same⟩ := Option.ne_none_iff_exists'.mp (found id member)
    rw [same, Option.some_or]
  case isFalse => rfl

theorem fill_congr (facts : Facts) {ids others : List Uuid} (same : ∀ id, id ∈ others ↔ id ∈ ids)
    (view : CacheView) : subject.fill facts others view = subject.fill facts ids view := by
  funext key
  simp only [fill, List.mem_map, same]

theorem fill_of_existing {facts : Facts} {ids : List Uuid} (view : CacheView) {id : Uuid}
    (member : id ∈ ids) (present : facts.channel (subject.key id).channel ≠ none) :
    subject.fill facts ids view (subject.key id) = some ((view (subject.key id)).getD
      (facts.effective (subject.key id).user (subject.key id).channel)) := by
  obtain ⟨channel, found⟩ := Option.ne_none_iff_exists'.mp present
  rw [fill, if_pos (List.mem_map_of_mem member), Facts.mask, found]
  cases view (subject.key id) <;> rfl

theorem fill_elsewhere {facts : Facts} {ids : List Uuid} (view : CacheView) {key : EntryKey}
    (elsewhere : facts.channel key.channel = none ∨ key ∉ ids.map subject.key) :
    subject.fill facts ids view key = view key := by
  rw [fill]
  split
  case isTrue asked =>
    have absent := elsewhere.resolve_right (not_not_intro asked)
    rw [(Facts.mask_eq_none_iff key).mpr absent, Option.or_none]
  case isFalse => rfl

theorem judged_of_fill (facts : Facts) (ids : List Uuid) (view : CacheView) (permission : Mask) :
    facts.judged (subject.fill facts ids view) subject.key ids permission =
      facts.judged view subject.key ids permission := by
  refine List.map_congr_left fun id member => congrArg (Option.any _) ?_
  rw [Facts.shown, Facts.shown, fill, if_pos (List.mem_map_of_mem member), Option.or_assoc,
    Option.or_self]

variable {subject} {ids : List Uuid} {asked : List Asked} {computed : IdMap Mask}

theorem reads_of_compute (course : (subject.compute ids).run.Course asked (.ok computed)) :
    ∀ call ∈ asked, ∃ query : StoreQuery, query.reads = true ∧
      ∃ answer, call = ⟨.store query, .ok answer⟩ := by
  intro call member
  cases subject with
  | ofUser user =>
      rcases Resolver.compute_channels_in_turn course with
        ⟨_, impossible, _⟩ | ⟨known, more, rfl, turn⟩
      · contradiction
      · rcases List.mem_cons.mp member with rfl | later
        · exact ⟨.channelMany ids, rfl, known, rfl⟩
        · obtain ⟨query, asks, answered⟩ := turn.answers later
          refine ⟨query, ?_, answered⟩
          simp only [List.mem_cons, List.not_mem_nil, or_false] at asks
          rcases asks with rfl | rfl | rfl <;> rfl
  | ofChannel channel =>
      obtain ⟨query, asks, answered⟩ := (Resolver.compute_users_in_turn course).answers member
      refine ⟨query, ?_, answered⟩
      simp only [List.mem_cons, List.not_mem_nil, or_false] at asks
      rcases asks with rfl | rfl | rfl | rfl <;> rfl

/-- What is computed follows from the facts. Only a filter over channels goes on without a mask. -/
theorem computed_of_course {facts : Facts} {owns : UserId → Bool} (distinct : ids.Nodup)
    (told : AllTold facts owns asked)
    (course : (subject.compute ids).run.Course asked (.ok computed)) :
    computed = gather (fun id => (subject.met facts owns).mask (subject.key id)) ids ∧
      ∀ id, (subject.met facts owns).mask (subject.key id) = none →
        ∃ user, subject = .ofUser user := by
  cases subject with
  | ofUser user => exact ⟨Resolver.computed_channels distinct told course, fun _ _ => ⟨user, rfl⟩⟩
  | ofChannel channel =>
      obtain ⟨present, same⟩ := Resolver.computed_users distinct told course
      exact ⟨same, fun id missing => absurd ((Facts.mask_eq_none_iff _).mp missing) present⟩

end Subject

namespace World

variable {σ : Type} {reply : StoreReply σ} {facts : σ → Facts} {owns : σ → UserId → Bool}
  {world : World σ}

theorem state_after_reports (world : World σ) (events : List Event) :
    stateAfter (answer reply) world (reports events) = world := by
  induction events with
  | nil => rfl
  | cons event rest ih => exact ih

/-- What a filter comes to on a world, and how it leaves it. -/
structure Fills (facts : σ → Facts) (owns : σ → UserId → Bool) (subject : Subject)
    (ids : List Uuid) (permission : Mask) (world : World σ) (judged : List Bool)
    (after : World σ) : Prop where
  judges : judged = (subject.met (facts world.store) (owns world.store)).judged world.cache.view
    subject.key ids permission
  keeping : after.cache.Keeping
  view : after.cache.view =
    subject.fill (subject.met (facts world.store) (owns world.store)) ids world.cache.view
  /-- A filter over users leaves nothing to compute. -/
  complete : ∀ id ∈ ids, after.cache.view (subject.key id) = none → ∃ user, subject = .ofUser user
  factsKept : facts after.store = facts world.store
  ownsKept : owns after.store = owns world.store

theorem looked_first {query : CacheQuery} {given : query.Reply} {events : List Event}
    {more : List Asked} (keeping : world.cache.Keeping) (keeps : query.dropped = none)
    (nothing : ∀ key, query.written key = none)
    (answered : Answered (answer reply) world
      (⟨.cache query, given⟩ :: reports events ++ more)) :
    given = .ok (query.answerFrom world.cache.view) ∧
      ∃ between : World σ, between.store = world.store ∧ between.cache.Keeping ∧
        between.cache.view = world.cache.view ∧ Answered (answer reply) between more ∧
          stateAfter (answer reply) world (⟨.cache query, given⟩ :: reports events ++ more) =
            stateAfter (answer reply) between more := by
  obtain ⟨replies, stillKeeping, exactly⟩ := CacheState.reply_keeping keeping keeps
  rw [CacheQuery.effect_of_read keeps nothing] at exactly
  obtain ⟨⟨replied, _⟩, answeredMore⟩ := answered_append_iff.mp answered
  have same : stateAfter (answer reply) world (⟨.cache query, given⟩ :: reports events) =
      (answer reply (.cache query) world).2 := state_after_reports _ events
  rw [same] at answeredMore
  rw [state_after_append, same]
  exact ⟨replied.trans replies, (answer reply (.cache query) world).2, rfl, stillKeeping, exactly,
    answeredMore, rfl⟩

theorem wrote_masks {subject : Subject} {masks : IdMap Mask} {asked : List Asked}
    (keeping : world.cache.Keeping)
    (writes : (masks.isEmpty = true ∧ asked = []) ∨
      ∃ (given : (subject.write masks).Reply) (events : List Event),
        asked = ⟨.cache (subject.write masks), given⟩ :: reports events) :
    (stateAfter (answer reply) world asked).cache.Keeping ∧
      (stateAfter (answer reply) world asked).cache.view =
        (subject.write masks).effectOn world.cache.view ∧
      (stateAfter (answer reply) world asked).store = world.store := by
  rcases writes with ⟨nothing, rfl⟩ | ⟨given, events, rfl⟩
  · exact ⟨keeping, (subject.effect_of_nothing nothing _).symm, rfl⟩
  · have same : stateAfter (answer reply) world
        (⟨.cache (subject.write masks), given⟩ :: reports events) =
          (answer reply (.cache (subject.write masks)) world).2 := state_after_reports _ events
    have keeps : (subject.write masks).dropped = none := by cases subject <;> rfl
    obtain ⟨_, stillKeeping, exactly⟩ := CacheState.reply_keeping keeping keeps
    rw [same]
    exact ⟨stillKeeping, exactly, rfl⟩

section Judging

variable {subject : Subject} {ids : List Uuid} {permission : Mask} {hits : IdMap Mask}
  {writes : IdMap Mask → List Asked → Prop} {asked : List Asked} {judged : List Bool}

theorem judge_fills (tells : StoreTells reply facts owns) (keeping : world.cache.Keeping)
    (hit : ∀ id ∈ ids, hits[id]? = world.cache.view (subject.key id))
    (wrote : ∀ computed after, writes computed after →
      (computed.isEmpty = true ∧ after = []) ∨
        ∃ (given : (subject.write computed).Reply) (events : List Event),
          after = ⟨.cache (subject.write computed), given⟩ :: reports events)
    (course : Resolver.JudgeCourse ids permission hits subject.compute writes asked (.ok judged))
    (answered : Answered (answer reply) world asked) :
    Fills facts owns subject ids permission world judged
      (stateAfter (answer reply) world asked) := by
  have judges := @Facts.judged_of_hits (subject.met (facts world.store) (owns world.store))
    world.cache.view subject.key ids hits hit permission
  cases course with
  | known none_missing =>
      have known : ¬∃ id ∈ ids, hits[id]? = none :=
        (Resolver.no_misses_iff hits ids).mp (List.isEmpty_iff.mpr none_missing)
      have found : ∀ id ∈ ids, world.cache.view (subject.key id) ≠ none := by
        intro id member missed
        exact known ⟨id, member, (hit id member).trans missed⟩
      refine ⟨?_, keeping, (subject.fill_of_found _ found).symm, ?_, rfl, rfl⟩
      · rw [judges]
        refine List.map_congr_left fun id member => congrArg (Option.any _) ?_
        exact Resolver.get_hits (fun id => Facts.mask _ (subject.key id)) known member
      · exact fun id member missed => absurd missed (found id member)
  | computed _ before after computed computing written =>
      obtain ⟨answeredBefore, _⟩ := answered_append_iff.mp answered
      obtain ⟨told, sameCache, sameFacts, sameOwns⟩ :=
        told_of_answered tells (Subject.reads_of_compute computing) answeredBefore
      obtain ⟨rfl, present⟩ :=
        Subject.computed_of_course (nodup_unique_misses hits ids) told computing
      -- Computing asks the store alone, so the write meets the cache that was looked at.
      have keepingBetween : (stateAfter (answer reply) world before).cache.Keeping := by
        rwa [sameCache]
      obtain ⟨stillKeeping, exactly, sameStore⟩ :=
        @wrote_masks _ reply _ subject _ after keepingBetween (wrote _ after written)
      have missed (id : Uuid) : id ∈ uniqueMisses hits ids ↔
          id ∈ ids ∧ world.cache.view (subject.key id) = none := by
        rw [mem_unique_misses]
        exact and_congr_right fun member => by rw [hit id member]
      rw [sameCache, subject.effect_of_missing _ missed] at exactly
      rw [state_after_append]
      refine ⟨?_, stillKeeping, exactly, ?_, by rw [sameStore, sameFacts],
        by rw [sameStore, sameOwns]⟩
      · rw [judges]
        refine List.map_congr_left fun id member => congrArg (Option.any _) ?_
        exact Resolver.get_resolved hits (fun id => Facts.mask _ (subject.key id)) member
      · intro id member absent
        apply present id
        rw [exactly, Subject.fill, if_pos (List.mem_map_of_mem member)] at absent
        exact (Option.or_eq_none_iff.mp absent).2

end Judging

theorem Fills.of_looked {subject : Subject} {ids : List Uuid} {permission : Mask}
    {between after : World σ} {judged : List Bool}
    (fills : Fills facts owns subject ids permission between judged after)
    (sameStore : between.store = world.store) (sameView : between.cache.view = world.cache.view) :
    Fills facts owns subject ids permission world judged after := by
  obtain ⟨judges, keeping, view, complete, factsKept, ownsKept⟩ := fills
  rw [sameStore] at judges view factsKept ownsKept
  rw [sameView] at judges view
  exact ⟨judges, keeping, view, complete, factsKept, ownsKept⟩

theorem fills_nothing {subject : Subject} {permission : Mask} (keeping : world.cache.Keeping) :
    Fills facts owns subject [] permission world [] world where
  judges := rfl
  keeping := keeping
  view := (subject.fill_of_found _ fun _ asked => absurd asked List.not_mem_nil).symm
  complete _ asked := absurd asked List.not_mem_nil
  factsKept := rfl
  ownsKept := rfl

theorem run_fills (tells : StoreTells reply facts owns) (keeping : world.cache.Keeping)
    {subject : Subject} {ids : List Uuid} {permission : Mask} {judged : List Bool}
    (ran : (world.carryOut reply (subject.filter ids permission).run).1 = .ok judged) :
    Fills facts owns subject ids permission world judged
      (world.carryOut reply (subject.filter ids permission).run).2 := by
  obtain ⟨course, answered, after⟩ :=
    Plan.course_transcript (answer reply) (subject.filter ids permission).run world
  unfold carryOut at ran ⊢
  rw [ran] at course
  rw [after]
  -- From here on only the course of the filter matters, and the replies on it.
  generalize (subject.filter ids permission).run.transcript (answer reply) world = asked at *
  cases subject with
  | ofUser user =>
      rcases Resolver.filter_permitted_course course with
        ⟨rfl, rfl, ended⟩ | ⟨_, given, more, rfl, judging⟩
      · obtain rfl := Except.ok.inj ended
        exact fills_nothing keeping
      · obtain ⟨rfl, between, sameStore, keepingBetween, sameView, answeredMore, same⟩ :=
          looked_first keeping rfl (fun _ => rfl) answered
        rw [same]
        refine (judge_fills tells keepingBetween ?_ ?_ judging answeredMore).of_looked
          sameStore sameView
        · intro channel member
          rw [sameView]
          exact (get_gather _ _ _).trans (if_pos member)
        · intro computed after writes
          cases writes with
          | nothing none_computed => exact .inl ⟨none_computed, rfl⟩
          | written _ given => exact .inr ⟨given, _, rfl⟩
  | ofChannel channel =>
      rcases Resolver.filter_users_permitted_course course with
        ⟨rfl, rfl, ended⟩ | ⟨_, given, more, rfl, judging⟩
      · obtain rfl := Except.ok.inj ended
        exact fills_nothing keeping
      · obtain ⟨rfl, between, sameStore, keepingBetween, sameView, answeredMore, same⟩ :=
          looked_first keeping rfl (fun _ => rfl) answered
        rw [same]
        refine (judge_fills tells keepingBetween ?_ ?_ judging answeredMore).of_looked
          sameStore sameView
        · intro user member
          rw [sameView]
          exact (get_gather _ _ _).trans (if_pos member)
        · intro computed after writes
          cases writes with
          | written given => exact .inr ⟨given, _, rfl⟩

theorem Fills.again {subject : Subject} {ids : List Uuid} {permission : Mask}
    {judged again : List Bool} {after later : World σ}
    (fills : Fills facts owns subject ids permission world judged after)
    (repeated : Fills facts owns subject ids permission after again later) : again = judged := by
  rw [repeated.judges, fills.factsKept, fills.ownsKept, fills.view, subject.judged_of_fill,
    fills.judges]

theorem filter_of_cached {subject : Subject} {ids : List Uuid} (permission : Mask)
    (cached : ∀ id ∈ ids, world.cache.view (subject.key id) ≠ none) :
    (∃ given, (world.carryOut reply (subject.filter ids permission).run).1 = .ok given) ∧
      ∀ call ∈ (subject.filter ids permission).run.transcript (answer reply) world, ∀ query,
        call.request ≠ .store query := by
  have found : ∀ key ∈ ids.map subject.key, world.cache.view key ≠ none := by
    intro key member
    obtain ⟨id, asked, rfl⟩ := List.mem_map.mp member
    exact cached id asked
  cases subject with
  | ofUser user =>
      exact @succeeds_of_cached _ reply world (.filterPermitted user ids permission) nofun found
  | ofChannel channel =>
      exact @succeeds_of_cached _ reply world (.filterUsersPermitted ids channel permission) nofun
        found

theorem filter_of_reads (reads : StoreReads reply facts owns) (keeping : world.cache.Keeping)
    (user : UserId) (channels : List ChannelId) (permission : Mask) :
    ∃ given,
      (world.carryOut reply (Resolver.filterPermitted user channels permission).run).1 =
        .ok given := by
  obtain ⟨_, ran, _⟩ := Resolver.settles_filter_permitted
    (legible_answer (reads.met_by user)) (CacheState.answering_of_keeping keeping)
    (owner_known_met_by facts owns user) channels permission
  exact ⟨_, congrArg Prod.fst ran⟩

/-- A filter that comes to a result leaves each entry that it was asked for and whose channel exists
with the mask that it had, or else with the one that is computed from what the store says. It leaves
all other entries as they were. So what the cache holds then depends neither on the permission nor
on the order and the repetitions of the identifiers.

The same filter at once comes to the same result, for certain if the store answers, and without
asking it anything if all the channels exist. -/
theorem batch_read_fills_cache_exactly (tells : StoreTells reply facts owns)
    (keeping : world.cache.Keeping) {subject : Subject} {ids : List Uuid} {permission : Mask}
    {judged : List Bool}
    (ran : (world.carryOut reply (subject.filter ids permission).run).1 = .ok judged) :
    let met := subject.met (facts world.store) (owns world.store)
    let after := (world.carryOut reply (subject.filter ids permission).run).2
    (∀ id ∈ ids, met.channel (subject.key id).channel ≠ none →
      after.cache.view (subject.key id) = some ((world.cache.view (subject.key id)).getD
        (met.effective (subject.key id).user (subject.key id).channel))) ∧
      (∀ key, met.channel key.channel = none ∨ key ∉ ids.map subject.key →
        after.cache.view key = world.cache.view key) ∧
      (∀ others other given, (∀ id, id ∈ others ↔ id ∈ ids) →
        (world.carryOut reply (subject.filter others other).run).1 = .ok given →
        (world.carryOut reply (subject.filter others other).run).2.cache.view =
          after.cache.view) ∧
      (∀ again, (after.carryOut reply (subject.filter ids permission).run).1 = .ok again →
        again = judged) ∧
      (StoreReads reply facts owns →
        (after.carryOut reply (subject.filter ids permission).run).1 = .ok judged) ∧
      ((∀ id ∈ ids, met.channel (subject.key id).channel ≠ none) →
        (after.carryOut reply (subject.filter ids permission).run).1 = .ok judged ∧
          ∀ call ∈ (subject.filter ids permission).run.transcript (answer reply) after, ∀ query,
            call.request ≠ .store query) := by
  intro met after
  have fills : Fills facts owns subject ids permission world judged after :=
    run_fills tells keeping ran
  have same : ∀ again, (after.carryOut reply (subject.filter ids permission).run).1 = .ok again →
      again = judged :=
    fun again repeated => fills.again (run_fills tells fills.keeping repeated)
  have succeeds (given : ∃ again,
      (after.carryOut reply (subject.filter ids permission).run).1 = .ok again) :
      (after.carryOut reply (subject.filter ids permission).run).1 = .ok judged := by
    obtain ⟨again, repeated⟩ := given
    rw [repeated, same again repeated]
  refine ⟨?_, ?_, ?_, same, ?_, ?_⟩
  · intro id member present
    rw [fills.view]
    exact subject.fill_of_existing world.cache.view member present
  · intro key elsewhere
    rw [fills.view]
    exact subject.fill_elsewhere world.cache.view elsewhere
  · intro others other given alike otherRan
    rw [(run_fills tells keeping otherRan).view, subject.fill_congr _ alike, fills.view]
  · intro reads
    by_cases missing : ∃ id ∈ ids, after.cache.view (subject.key id) = none
    · obtain ⟨id, member, absent⟩ := missing
      obtain ⟨user, rfl⟩ := fills.complete id member absent
      exact succeeds (filter_of_reads reads fills.keeping user ids permission)
    · exact succeeds (filter_of_cached permission fun id member absent =>
        missing ⟨id, member, absent⟩).1
  · intro present
    have cached : ∀ id ∈ ids, after.cache.view (subject.key id) ≠ none := by
      intro id member
      rw [fills.view, subject.fill_of_existing world.cache.view member (present id member)]
      exact Option.some_ne_none _
    obtain ⟨given, storeless⟩ := filter_of_cached permission cached
    exact ⟨succeeds given, storeless⟩

/-- A channel with a mask in the cache that the store no longer bears out, asked for twice, one that
does not exist, and one to compute. -/
theorem batch_read_fills_cache_exactly_around_stale_mask :
    let user : UserId := .ofNat 7
    let general : ChannelId := .ofNat 2
    let hall : ChannelId := .ofNat 3
    let gone : ChannelId := .ofNat 9
    let directory : Directory :=
      ⟨.ofNat 1, .ofEntries [(.ofNat 1, .ofNat 4)], ∅,
        .ofEntries [(general, "general"), (hall, "hall")],
        [⟨.ofNat 5, hall, .user user, ∅, .ofNat 4, .ofSeconds 0, .ofSeconds 0⟩], none, 0, false⟩
    let world : World Directory :=
      ⟨directory, ((CacheState.inProcess (.fresh 300)).reply (.set user hall (.ofNat 4))).2, none⟩
    let filter := ((Subject.ofUser user).filter [hall, gone, general, hall] (.ofNat 4)).run
    let after := (world.carryOut Directory.fullReply filter).2
    StoreTells Directory.fullReply Directory.facts (fun store => store.facts.owns) ∧
      world.cache.Keeping ∧
      (world.carryOut Directory.fullReply filter).1 = .ok [true, false, true, true] ∧
      after.cache.view ⟨user, hall⟩ = some (.ofNat 4) ∧
      after.cache.view ⟨user, general⟩ = some (directory.facts.effective user general) ∧
      after.cache.view ⟨user, gone⟩ = none ∧
      (after.carryOut Directory.fullReply filter).1 = .ok [true, false, true, true] := by
  intro user general hall gone directory world filter after
  -- With these names in place a comparison of two terms would run the filter.
  subst after filter
  have tells := Directory.full_reply_answers.tells
  have keeping : world.cache.Keeping :=
    (@CacheState.reply_keeping (.inProcess (.fresh 300))
      (show 0 < (InProcessCache.fresh 300).lifetime by decide) (.set user hall (.ofNat 4)) rfl).2.1
  have ran : (world.carryOut Directory.fullReply ((Subject.ofUser user).filter
      [hall, gone, general, hall] (.ofNat 4)).run).1 = .ok [true, false, true, true] := by
    decide +kernel
  obtain ⟨filled, kept, _, _, again, _⟩ := batch_read_fills_cache_exactly tells keeping ran
  have stale : world.cache.view ⟨user, hall⟩ = some (.ofNat 4) := by decide +kernel
  have missed : world.cache.view ⟨user, general⟩ = none := by decide +kernel
  have unknown : world.cache.view ⟨user, gone⟩ = none := by decide +kernel
  have fillsHall := filled hall (by decide) (by decide +kernel)
  have fillsGeneral := filled general (by decide) (by decide +kernel)
  have keepsGone := kept ⟨user, gone⟩ (.inl (by decide +kernel))
  rw [Subject.key, stale, Option.getD_some] at fillsHall
  rw [Subject.key, missed, Option.getD_none] at fillsGeneral
  rw [unknown] at keepsGone
  refine ⟨tells, keeping, ran, fillsHall, ?_, keepsGone,
    again Directory.full_reply_answers.store_reads⟩
  rw [fillsGeneral]
  decide +kernel

end World

end ChannelAccess
