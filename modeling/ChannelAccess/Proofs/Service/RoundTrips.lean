import ChannelAccess.Proofs.Service.CacheFilling

/-!
# Round trips of filters

A filter looks at the cache once and writes to it at most once, and it asks the store at most four
times, however many identifiers it is given. A query of the store for several identifiers at once
names those that were not found, each once and in the order in which the filter was given them.
-/

namespace ChannelAccess

set_option autoImplicit false

def storeQueries (asked : List Asked) : List StoreQuery :=
  asked.filterMap fun call =>
    match call.request with
    | .store query => some query
    | _ => none

def cacheQueries (asked : List Asked) : List CacheQuery :=
  asked.filterMap fun call =>
    match call.request with
    | .cache query => some query
    | _ => none

def StoreQuery.ids? : StoreQuery → Option (List Uuid)
  | .grantsMany users => some users
  | .channelMany channels => some channels
  | .overridesMany channels => some channels
  | _ => none

/-- Identifiers are those of a list that are wanted, each once, in the order in which they first
occur in it. -/
structure FirstOccurrences (wanted : Uuid → Prop) (ids given : List Uuid) : Prop where
  exactly : ∀ id, id ∈ given ↔ id ∈ ids ∧ wanted id
  ordered : given.Pairwise fun first second => ids.idxOf first < ids.idxOf second

namespace Subject

def look (ids : List Uuid) : Subject → CacheQuery
  | .ofUser user => .getMany user ids
  | .ofChannel channel => .getManyUsers channel ids

def found (ids : List Uuid) : (subject : Subject) → (subject.look ids).Reply → IdMap Mask
  | .ofUser _, reply => reply.toOption.getD (∅ : IdMap Mask)
  | .ofChannel _, reply => reply.toOption.getD (∅ : IdMap Mask)

def Writes : Subject → IdMap Mask → List Asked → Prop
  | .ofUser user => Resolver.WritesChannels user
  | .ofChannel channel => Resolver.WritesUsers channel

end Subject

/-- What the store is asked by a filter that found some hits. Overrides are asked for no other
channels than those that the store knows. -/
structure StoreTrips (hits : IdMap Mask) (ids : List Uuid) (asked : List Asked) : Prop where
  few : (storeQueries asked).length ≤ 4
  missed : ∀ query ∈ storeQueries asked, ∀ given, query.ids? = some given →
    (∀ channels, query ≠ .overridesMany channels) →
    FirstOccurrences (fun id => hits[id]? = none) ids given
  existing : ∀ given, .overridesMany given ∈ storeQueries asked →
    ∃ (channels : List ChannelId) (known : IdMap Channel),
      ⟨.store (.channelMany channels), .ok known⟩ ∈ asked ∧
        FirstOccurrences (fun id => hits[id]? = none ∧ known.contains id = true) ids given

/-- What a filter asks that is given some identifiers and found some hits: a look at the cache, what
the store is asked, and at most one write. -/
structure FilterTrips (subject : Subject) (hits : IdMap Mask) (ids : List Uuid)
    (asked : List Asked) : Prop where
  cache : cacheQueries asked = [subject.look ids] ∨
    ∃ masks, cacheQueries asked = [subject.look ids, subject.write masks]
  store : StoreTrips hits ids asked
  storeless : storeQueries asked = [] ↔ ∀ id ∈ ids, hits[id]? ≠ none
  unwritten : (∀ id ∈ ids, hits[id]? ≠ none) → cacheQueries asked = [subject.look ids]

/-! Requests of one kind. -/

theorem store_queries_append (before after : List Asked) :
    storeQueries (before ++ after) = storeQueries before ++ storeQueries after :=
  List.filterMap_append

theorem cache_queries_append (before after : List Asked) :
    cacheQueries (before ++ after) = cacheQueries before ++ cacheQueries after :=
  List.filterMap_append

theorem store_queries_reports (events : List Event) : storeQueries (reports events) = [] := by
  simp [storeQueries, reports]

theorem cache_queries_reports (events : List Event) : cacheQueries (reports events) = [] := by
  simp [cacheQueries, reports]

theorem queries_reported (query : CacheQuery) (reply : query.Reply) (events : List Event) :
    storeQueries (⟨.cache query, reply⟩ :: reports events) = [] ∧
      cacheQueries (⟨.cache query, reply⟩ :: reports events) = [query] :=
  ⟨store_queries_reports events, congrArg (List.cons query) (cache_queries_reports events)⟩

theorem queries_in_turn {α : Type} {order : List StoreQuery} {asked : List Asked}
    {result : Except AccessError α} (turn : InTurn order asked result) :
    storeQueries asked <+: order ∧ cacheQueries asked = [] := by
  induction turn with
  | ended order _ => exact ⟨List.nil_prefix, rfl⟩
  | failed query order _ => exact ⟨⟨order, rfl⟩, rfl⟩
  | answered query _ order asked _ _ ih =>
      exact ⟨(List.prefix_cons_inj query).mpr ih.1, ih.2⟩

/-! Misses. -/

theorem first_occurrences_misses (hits : IdMap Mask) (ids : List Uuid) :
    FirstOccurrences (fun id => hits[id]? = none) ids (uniqueMisses hits ids) where
  exactly := mem_unique_misses hits ids
  ordered := misses_after_in_order hits [] ids

theorem FirstOccurrences.filter {wanted : Uuid → Prop} {ids given : List Uuid}
    (first : FirstOccurrences wanted ids given) (stays : Uuid → Bool) :
    FirstOccurrences (fun id => wanted id ∧ stays id = true) ids (given.filter stays) where
  exactly id := by rw [List.mem_filter, first.exactly, and_assoc]
  ordered := first.ordered.filter stays

theorem StoreTrips.within {hits : IdMap Mask} {ids : List Uuid} {asked whole : List Asked}
    (trips : StoreTrips hits ids asked) (part : asked ⊆ whole)
    (same : storeQueries whole = storeQueries asked) : StoreTrips hits ids whole where
  few := same ▸ trips.few
  missed := same ▸ trips.missed
  existing given member := by
    rw [same] at member
    obtain ⟨channels, known, answered, first⟩ := trips.existing given member
    exact ⟨channels, known, part answered, first⟩

/-! Filters. -/

namespace Subject

variable {subject : Subject} {ids : List Uuid} {permission : Mask} {hits : IdMap Mask}
  {asked : List Asked}

theorem store_trips_compute {result : Except AccessError (IdMap Mask)}
    (course : (subject.compute (uniqueMisses hits ids)).run.Course asked result) :
    StoreTrips hits ids asked ∧ cacheQueries asked = [] := by
  have misses := first_occurrences_misses hits ids
  cases subject with
  | ofUser user =>
      rcases Resolver.compute_channels_in_turn course with
        ⟨problem, rfl, rfl⟩ | ⟨known, more, rfl, turn⟩
      · refine ⟨⟨show 1 ≤ 4 by decide, ?_, ?_⟩, rfl⟩
        · intro query member given lists
          obtain rfl := List.mem_singleton.mp member
          obtain rfl := Option.some.inj lists
          exact fun _ => misses
        · intro given member
          nomatch List.mem_singleton.mp member
      -- The query for the channels comes first, and the three others depend on its answer.
      · obtain ⟨order, uncached⟩ := queries_in_turn turn
        have few := order.length_le
        refine ⟨⟨Nat.succ_le_succ few, ?_, ?_⟩, uncached⟩
        · intro query member given lists other
          rcases List.mem_cons.mp member with rfl | later
          · obtain rfl := Option.some.inj lists
            exact misses
          · have asks := order.subset later
            simp only [List.mem_cons, List.not_mem_nil, or_false] at asks
            rcases asks with rfl | rfl | rfl
            · nomatch lists
            · nomatch lists
            · exact absurd rfl (other _)
        · intro given member
          rcases List.mem_cons.mp member with here | later
          · nomatch here
          · have asks := order.subset later
            simp only [List.mem_cons, List.not_mem_nil, or_false, reduceCtorEq, false_or,
              StoreQuery.overridesMany.injEq] at asks
            subst asks
            exact ⟨_, known, List.mem_cons_self, misses.filter known.contains⟩
  | ofChannel channel =>
      obtain ⟨order, uncached⟩ := queries_in_turn (Resolver.compute_users_in_turn course)
      refine ⟨⟨order.length_le, ?_, ?_⟩, uncached⟩
      · intro query member given lists _
        have asks := order.subset member
        simp only [List.mem_cons, List.not_mem_nil, or_false] at asks
        rcases asks with rfl | rfl | rfl | rfl
        · nomatch lists
        · nomatch lists
        · nomatch lists
        · obtain rfl := Option.some.inj lists
          exact misses
      · intro given member
        have asks := order.subset member
        simp only [List.mem_cons, List.not_mem_nil, or_false, reduceCtorEq] at asks

theorem asks_to_compute {result : Except AccessError (IdMap Mask)}
    (course : (subject.compute ids).run.Course asked result) : storeQueries asked ≠ [] := by
  cases subject with
  | ofUser user =>
      rcases Attempt.course_store_bind_iff.mp course with ⟨_, _, rfl⟩ | ⟨_, _, rfl, _⟩
      · exact List.cons_ne_nil _ _
      · exact List.cons_ne_nil _ _
  | ofChannel channel =>
      rcases Attempt.course_store_bind_iff.mp course with ⟨_, _, rfl⟩ | ⟨_, _, rfl, _⟩
      · exact List.cons_ne_nil _ _
      · exact List.cons_ne_nil _ _

theorem queries_of_writes {computed : IdMap Mask} (writes : subject.Writes computed asked) :
    storeQueries asked = [] ∧
      (cacheQueries asked = [] ∨ cacheQueries asked = [subject.write computed]) := by
  cases subject with
  | ofUser user =>
      cases writes with
      | nothing => exact ⟨rfl, .inl rfl⟩
      | written _ reply => exact (queries_reported (.setMany user computed) reply _).imp id .inr
  | ofChannel channel =>
      cases writes with
      | written reply =>
          exact (queries_reported (.setManyUsers channel computed) reply _).imp id .inr

/-- Judging looks at the cache no more and writes to it at most once. It asks the store if and only
if something was not found. -/
theorem judge_trips {result : Except AccessError (List Bool)}
    (course : Resolver.JudgeCourse ids permission hits subject.compute subject.Writes asked
      result) :
    StoreTrips hits ids asked ∧
      (cacheQueries asked = [] ∨ ∃ masks, cacheQueries asked = [subject.write masks]) ∧
      (storeQueries asked = [] ↔ ∀ id ∈ ids, hits[id]? ≠ none) ∧
      ((∀ id ∈ ids, hits[id]? ≠ none) → cacheQueries asked = []) := by
  have known_iff : uniqueMisses hits ids = [] ↔ ∀ id ∈ ids, hits[id]? ≠ none := by
    rw [← List.isEmpty_iff, Resolver.no_misses_iff]
    simp
  cases course with
  | known none_missing =>
      have known := known_iff.mp none_missing
      refine ⟨⟨Nat.zero_le 4, ?_, ?_⟩, .inl rfl, iff_of_true rfl known, fun _ => rfl⟩
      · intro query member
        nomatch member
      · intro given member
        nomatch member
  | failed some_missing _ problem computes =>
      obtain ⟨trips, uncached⟩ := store_trips_compute computes
      have missing := mt known_iff.mpr some_missing
      exact ⟨trips, .inl uncached, iff_of_false (asks_to_compute computes) missing,
        fun known => absurd known missing⟩
  | computed some_missing before after computed computes written =>
      obtain ⟨trips, uncached⟩ := store_trips_compute computes
      obtain ⟨storeless, cached⟩ := queries_of_writes written
      have missing := mt known_iff.mpr some_missing
      have same : storeQueries (before ++ after) = storeQueries before := by
        rw [store_queries_append, storeless, List.append_nil]
      refine ⟨trips.within (List.subset_append_left before after) same, ?_, ?_, ?_⟩
      · rw [cache_queries_append, uncached, List.nil_append]
        exact cached.imp id fun same => ⟨computed, same⟩
      · rw [same]
        exact iff_of_false (asks_to_compute computes) missing
      · exact fun known => absurd known missing

theorem filter_course {result : Except AccessError (List Bool)}
    (course : (subject.filter ids permission).run.Course asked result) :
    (ids = [] ∧ asked = []) ∨
      ids ≠ [] ∧ ∃ (reply : (subject.look ids).Reply) (events : List Event) (more : List Asked),
        asked = ⟨.cache (subject.look ids), reply⟩ :: reports events ++ more ∧
          Resolver.JudgeCourse ids permission (subject.found ids reply) subject.compute
            subject.Writes more result := by
  cases subject with
  | ofUser user =>
      rcases Resolver.filter_permitted_course course with
        ⟨nothing, unasked, _⟩ | ⟨given, reply, more, same, judging⟩
      · exact .inl ⟨nothing, unasked⟩
      · exact .inr ⟨given, reply, _, more, same, judging⟩
  | ofChannel channel =>
      rcases Resolver.filter_users_permitted_course course with
        ⟨nothing, unasked, _⟩ | ⟨given, reply, more, same, judging⟩
      · exact .inl ⟨nothing, unasked⟩
      · exact .inr ⟨given, reply, _, more, same, judging⟩

theorem filter_trips_of_judged {reply : (subject.look ids).Reply} {events : List Event}
    {more : List Asked} {result : Except AccessError (List Bool)}
    (judging : Resolver.JudgeCourse ids permission hits subject.compute subject.Writes more
      result) :
    FilterTrips subject hits ids
      (⟨.cache (subject.look ids), reply⟩ :: reports events ++ more) := by
  obtain ⟨trips, cached, storeless, unwritten⟩ := judge_trips judging
  obtain ⟨lookStoreless, looked⟩ := queries_reported (subject.look ids) reply events
  have sameStore : storeQueries
      (⟨.cache (subject.look ids), reply⟩ :: reports events ++ more) = storeQueries more := by
    rw [store_queries_append, lookStoreless, List.nil_append]
  have sameCache : cacheQueries (⟨.cache (subject.look ids), reply⟩ :: reports events ++ more) =
      subject.look ids :: cacheQueries more := by
    rw [cache_queries_append, looked, List.singleton_append]
  refine ⟨?_, trips.within (List.subset_append_right _ more) sameStore, ?_, ?_⟩
  · rw [sameCache]
    rcases cached with same | ⟨masks, same⟩
    · exact .inl (congrArg _ same)
    · exact .inr ⟨masks, congrArg _ same⟩
  · rwa [sameStore]
  · intro known
    rw [sameCache, unwritten known]

end Subject

/-- However many identifiers a filter is given, and whatever the cache and the store reply, it asks
nothing if there are none. Otherwise it looks at the cache once, writes to it at most once, and asks
the store at most four times, and not at all if and only if it finds everything. Identifiers are
named to the store only if they were not found, each once and in the order in which they were
given. -/
theorem filter_round_trips_do_not_grow {σ : Type} (answer : Plan.Answerer σ) (state : σ)
    (subject : Subject) (ids : List Uuid) (permission : Mask) :
    let asked := (subject.filter ids permission).run.transcript answer state
    let hits := subject.found ids (answer (.cache (subject.look ids)) state).1
    (ids = [] → asked = []) ∧ (ids ≠ [] → FilterTrips subject hits ids asked) := by
  intro asked hits
  obtain ⟨course, answered, _⟩ :=
    Plan.course_transcript answer (subject.filter ids permission).run state
  rcases Subject.filter_course course with
    ⟨nothing, unasked⟩ | ⟨given, reply, events, more, same, judging⟩
  · exact ⟨fun _ => unasked, fun given => absurd nothing given⟩
  · refine ⟨fun nothing => absurd nothing given, fun _ => ?_⟩
    rw [same] at answered
    obtain rfl : reply = (answer (.cache (subject.look ids)) state).1 := answered.1
    rw [show asked = _ from same]
    exact Subject.filter_trips_of_judged judging

/-- A channel that is found, one that does not exist and one to compute, two of them asked for
twice. -/
theorem filter_round_trips_do_not_grow_with_repetitions :
    let user : UserId := .ofNat 7
    let general : ChannelId := .ofNat 2
    let hall : ChannelId := .ofNat 3
    let gone : ChannelId := .ofNat 9
    let directory : Directory :=
      ⟨.ofNat 1, .ofEntries [(.ofNat 1, .ofNat 4)], ∅,
        .ofEntries [(general, "general"), (hall, "hall")], [], none, 0, false⟩
    let world : World Directory :=
      ⟨directory, ((CacheState.inProcess (.fresh 300)).reply (.set user hall (.ofNat 4))).2, none⟩
    let answer := World.answer Directory.fullReply
    let ids := [gone, hall, general, gone, general]
    let asked := ((Subject.ofUser user).filter ids (.ofNat 4)).run.transcript answer world
    ids ≠ [] ∧
      FilterTrips (.ofUser user)
        ((Subject.ofUser user).found ids
          (answer (.cache ((Subject.ofUser user).look ids)) world).1) ids asked ∧
      (storeQueries asked).length = 4 ∧
      (storeQueries asked).filterMap StoreQuery.ids? = [[gone, general], [general]] ∧
      (cacheQueries asked).length = 2 := by
  intro user general hall gone directory world answer ids asked
  have given : ids ≠ [] := List.cons_ne_nil _ _
  have trips := (filter_round_trips_do_not_grow answer world (.ofUser user) ids (.ofNat 4)).2 given
  -- With this name in place a comparison of two terms would run the filter.
  subst asked
  refine ⟨given, trips, ?_, ?_, ?_⟩
  · decide +kernel
  · decide +kernel
  · decide +kernel

end ChannelAccess
