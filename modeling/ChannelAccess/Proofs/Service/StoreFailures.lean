import ChannelAccess.Proofs.Cache.Lookups
import ChannelAccess.Proofs.Resolver.Calls
import ChannelAccess.Proofs.Service.FailingCache
import ChannelAccess.Proofs.Service.World

/-!
# A failing store leaves the cache alone

A read of permissions writes to the cache only after everything that it needs of the
store has been answered. So a read that fails has looked at the cache at most, which
takes nothing out of it that is not over. Its error is that of the first query, in the
order in which they are put, that the store did not answer. A read that finds everything
in the cache does not depend on the store at all.
-/

namespace ChannelAccess

set_option autoImplicit false

/-- Groups of queries to the store that a read of permissions puts side by side, one group after the
other. -/
inductive JoinedGroups : Inquiry → List (List StoreQuery) → Prop where
  | resolve (user : UserId) (channel : ChannelId) :
      JoinedGroups (.resolve user channel)
        [[.channel channel, .isOwner user], [.grants user, .overrides channel]]
  | hasPermission (user : UserId) (channel : ChannelId) (permission : Mask) :
      JoinedGroups (.hasPermission user channel permission)
        [[.channel channel, .isOwner user], [.grants user, .overrides channel]]
  | filterPermitted (user : UserId) (channels missing existing : List ChannelId)
      (permission : Mask) :
      JoinedGroups (.filterPermitted user channels permission)
        [[.channelMany missing, .isOwner user], [.grants user, .overridesMany existing]]
  | filterUsersPermitted (users missing : List UserId) (channel : ChannelId) (permission : Mask) :
      JoinedGroups (.filterUsersPermitted users channel permission)
        [[.channel channel, .overrides channel, .owner, .grantsMany missing]]

inductive Asked.Looks : Asked → Prop where
  | cache (query : CacheQuery) (reply : query.Reply) (reads : query.reads = true) :
      Asked.Looks ⟨.cache query, reply⟩
  | report (event : Event) : Asked.Looks ⟨.report event, ()⟩

/-- A read fails after some looks at the cache with the first query of its groups that fails. -/
def FailsBeforeWriting (inquiry : Inquiry) (problem : AccessError) (asked : List Asked) : Prop :=
  ∃ groups looks turn, JoinedGroups inquiry groups ∧ asked = looks ++ turn ∧
    (∀ call ∈ looks, call.Looks) ∧ FailsInTurn groups.flatten problem turn

section Courses

variable {asked : List Asked} {problem : AccessError}

theorem looks_of_read (query : CacheQuery) (reply : query.Reply) (reads : query.reads = true)
    (events : List Event) :
    ∀ call ∈ (⟨.cache query, reply⟩ :: reports events : List Asked), call.Looks := by
  intro call member
  rcases List.mem_cons.mp member with rfl | reported
  · exact .cache query reply reads
  · obtain ⟨event, _, rfl⟩ := List.mem_map.mp reported
    exact .report event

theorem compute_channels_fails {user : UserId} {channels : List ChannelId}
    (course : (Resolver.computeChannels user channels).run.Course asked (.error problem)) :
    ∃ existing, FailsInTurn [.channelMany channels, .isOwner user, .grants user,
      .overridesMany existing] problem asked := by
  rcases Resolver.compute_channels_in_turn course with
    ⟨_, same, rfl⟩ | ⟨known, more, rfl, turn⟩
  · obtain rfl := Except.error.inj same
    exact ⟨[], [], _, _, [], rfl, .nil, rfl⟩
  · exact ⟨_, (InTurn.answered (.channelMany channels) known _ more _ turn).fails⟩

theorem resolve_fails {user : UserId} {channel : ChannelId}
    (course : Resolver.ResolveCourse user channel asked (.error problem)) :
    ∃ looks turn, asked = looks ++ turn ∧ (∀ call ∈ looks, call.Looks) ∧
      FailsInTurn [.channel channel, .isOwner user, .grants user, .overrides channel] problem
        turn := by
  cases course with
  | failed reply missed turn _ computes =>
      exact ⟨_, turn, rfl, looks_of_read (.get user channel) reply rfl _,
        (Resolver.compute_in_turn computes).fails⟩

theorem fails_before_writing {inquiry : Inquiry}
    (ofResolver : ∀ user channel permission, inquiry ≠ .requirePermission user channel permission)
    (course : inquiry.attempt.run.Course asked (.error problem)) :
    FailsBeforeWriting inquiry problem asked := by
  cases inquiry with
  | resolve user channel =>
      obtain ⟨looks, turn, same, looking, fails⟩ := resolve_fails (Resolver.resolve_course course)
      exact ⟨_, looks, turn, .resolve user channel, same, looking, fails⟩
  | hasPermission user channel permission =>
      obtain ⟨found, resolving, failed⟩ := Resolver.has_permission_course course
      cases found with
      | ok mask => contradiction
      | error other =>
          obtain rfl := Except.error.inj failed
          obtain ⟨looks, turn, same, looking, fails⟩ := resolve_fails resolving
          exact ⟨_, looks, turn, .hasPermission user channel permission, same, looking, fails⟩
  | requirePermission user channel permission =>
      exact absurd rfl (ofResolver user channel permission)
  | filterPermitted user channels permission =>
      rcases Resolver.filter_permitted_course course with
        ⟨_, _, impossible⟩ | ⟨_, reply, more, rfl, judging⟩
      · contradiction
      · cases judging with
        | failed _ _ _ computes =>
            obtain ⟨existing, fails⟩ := compute_channels_fails computes
            exact ⟨_, _, more, .filterPermitted user channels _ existing permission, rfl,
              looks_of_read (.getMany user channels) reply rfl _, fails⟩
  | filterUsersPermitted users channel permission =>
      rcases Resolver.filter_users_permitted_course course with
        ⟨_, _, impossible⟩ | ⟨_, reply, more, rfl, judging⟩
      · contradiction
      · cases judging with
        | failed _ _ _ computes =>
            exact ⟨_, _, more, .filterUsersPermitted users _ channel permission, rfl,
              looks_of_read (.getManyUsers channel users) reply rfl _,
              (Resolver.compute_users_in_turn computes).fails⟩

theorem reads_of_fails {inquiry : Inquiry} (fails : FailsBeforeWriting inquiry problem asked) :
    ∀ call ∈ asked, ∀ query, call.request = .cache query → query.reads = true := by
  obtain ⟨groups, looks, _, _, rfl, looking, before, failed, _, calls, _, answered, rfl⟩ := fails
  intro call member query isCache
  rcases List.mem_append.mp member with looked | asked
  · cases looking call looked with
    | cache other _ reads =>
        obtain rfl := Request.cache.inj isCache
        exact reads
    | report event => contradiction
  · rcases List.mem_append.mp asked with before | last
    · obtain ⟨_, _, rfl⟩ := answered.of_mem before
      contradiction
    · rw [List.mem_singleton.mp last] at isCache
      contradiction

end Courses

namespace World

variable {σ : Type} {reply : StoreReply σ} {world : World σ} {asked : List Asked}

theorem live_state_after
    (reads : ∀ call ∈ asked, ∀ query, call.request = .cache query → query.reads = true) :
    (stateAfter (answer reply) world asked).cache.live? = world.cache.live? := by
  induction asked generalizing world with
  | nil => rfl
  | cons call rest ih =>
      have unchanged : (answer reply call.request world).2.cache.live? = world.cache.live? := by
        cases asks : call.request with
        | store query => rfl
        | cache query =>
            exact world.cache.live_reply_of_reads (reads call List.mem_cons_self query asks)
        | enqueue scope => cases queued : world.queue <;> simp [answer, queued]
        | report event => rfl
      exact (ih fun other later => reads other (List.mem_cons_of_mem call later)).trans unchanged

/-! Reads that find everything. -/

theorem resolve_of_hit {user : UserId} {channel : ChannelId} {result : Except AccessError Mask}
    (cached : world.cache.view ⟨user, channel⟩ ≠ none)
    (course : Resolver.ResolveCourse user channel asked result)
    (answered : Answered (answer reply) world asked) :
    (∃ mask, result = .ok mask) ∧ ∀ call ∈ asked, ∀ query, call.request ≠ .store query := by
  obtain ⟨mask, found⟩ := Option.ne_none_iff_exists'.mp cached
  have shown := CacheState.reply_get_of_cached cached
  rw [found] at shown
  cases course with
  | hit mask =>
      refine ⟨⟨mask, rfl⟩, ?_⟩
      intro call member query
      rw [List.mem_singleton.mp member]
      exact nofun
  | failed _ missed => exact absurd (answered.1.trans shown) (missed mask)
  | computed _ missed => exact absurd (answered.1.trans shown) (missed mask)

theorem judge_of_hits {ids : List Uuid} {permission : Mask} {key : Uuid → EntryKey}
    {query : CacheQuery} {given : query.Reply} {hits : IdMap Mask} {events : List Event}
    {computeMissing : List Uuid → Attempt (IdMap Mask)} {writes : IdMap Mask → List Asked → Prop}
    {result : Except AccessError (List Bool)}
    (cached : ∀ id ∈ ids, world.cache.view (key id) ≠ none)
    (hit : ∀ id ∈ ids, hits[id]? = world.cache.view (key id))
    (course : Resolver.JudgeCourse ids permission hits computeMissing writes asked result) :
    (∃ judged, result = .ok judged) ∧
      ∀ call ∈ (⟨.cache query, given⟩ :: reports events ++ asked : List Asked),
        ∀ query, call.request ≠ .store query := by
  have known : uniqueMisses hits ids = [] := by
    rw [← List.isEmpty_iff, Resolver.no_misses_iff]
    rintro ⟨id, member, missed⟩
    exact cached id member ((hit id member).symm.trans missed)
  cases course with
  | known =>
      refine ⟨⟨_, rfl⟩, ?_⟩
      intro call member other
      rw [List.append_nil] at member
      rcases List.mem_cons.mp member with rfl | reported
      · exact nofun
      · obtain ⟨event, _, rfl⟩ := List.mem_map.mp reported
        exact nofun
  | failed missing => exact absurd known missing
  | computed missing => exact absurd known missing

theorem succeeds_of_cached (reply : StoreReply σ) (world : World σ) {inquiry : Inquiry}
    (ofResolver : ∀ user channel permission, inquiry ≠ .requirePermission user channel permission)
    (cached : ∀ key ∈ inquiry.keys, world.cache.view key ≠ none) :
    (∃ given, (world.carryOut reply inquiry.attempt.run).1 = .ok given) ∧
      ∀ call ∈ inquiry.attempt.run.transcript (answer reply) world, ∀ query,
        call.request ≠ .store query := by
  obtain ⟨course, answered, _⟩ :=
    Plan.course_transcript (answer reply) inquiry.attempt.run world
  unfold carryOut
  -- From here on only the course of the read matters, and the replies on it.
  generalize inquiry.attempt.run.transcript (answer reply) world = asked at *
  generalize (inquiry.attempt.run.run (answer reply) world).1 = result at *
  cases inquiry with
  | resolve user channel =>
      exact resolve_of_hit (cached _ List.mem_cons_self) (Resolver.resolve_course course) answered
  | hasPermission user channel permission =>
      obtain ⟨found, resolving, rfl⟩ := Resolver.has_permission_course course
      obtain ⟨⟨mask, rfl⟩, storeless⟩ :=
        resolve_of_hit (cached _ List.mem_cons_self) resolving answered
      exact ⟨⟨_, rfl⟩, storeless⟩
  | requirePermission user channel permission =>
      exact absurd rfl (ofResolver user channel permission)
  | filterPermitted user channels permission =>
      rcases Resolver.filter_permitted_course course with
        ⟨_, rfl, rfl⟩ | ⟨_, given, more, rfl, judging⟩
      · exact ⟨⟨[], rfl⟩, by simp⟩
      · have cachedEach (channel : ChannelId) (member : channel ∈ channels) :
            world.cache.view ⟨user, channel⟩ ≠ none :=
          cached _ (List.mem_map_of_mem member)
        have replied : given = _ := answered.1.trans
          (CacheState.reply_get_many_of_gets fun channel member =>
            CacheState.reply_get_of_cached (cachedEach channel member))
        refine judge_of_hits cachedEach ?_ judging
        intro channel member
        rw [replied]
        exact (get_gather _ _ _).trans (if_pos member)
  | filterUsersPermitted users channel permission =>
      rcases Resolver.filter_users_permitted_course course with
        ⟨_, rfl, rfl⟩ | ⟨_, given, more, rfl, judging⟩
      · exact ⟨⟨[], rfl⟩, by simp⟩
      · have cachedEach (user : UserId) (member : user ∈ users) :
            world.cache.view ⟨user, channel⟩ ≠ none :=
          cached _ (List.mem_map_of_mem member)
        have replied : given = _ := answered.1.trans
          (CacheState.reply_get_many_users_of_gets fun user member =>
            CacheState.reply_get_of_cached (cachedEach user member))
        refine judge_of_hits cachedEach ?_ judging
        intro user member
        rw [replied]
        exact (get_gather _ _ _).trans (if_pos member)

/-- A read of permissions that fails because of the store leaves the cache alone, whichever calls to
the store fail, whatever is in the cache and whatever is asked for. Its error is that of the first
query, in the order in which the queries of a group are put, that the store failed; that query was
the last request of all, and every request to the cache before it was a read. Every entry in the
cache is there afterwards with its content and its expiry. A read that finds all its entries in the
cache succeeds without asking the store. -/
theorem store_failures_leave_cache_alone (reply : StoreReply σ) (world : World σ)
    {inquiry : Inquiry}
    (ofResolver : ∀ user channel permission,
      inquiry ≠ .requirePermission user channel permission) :
    (∀ problem, (world.carryOut reply inquiry.attempt.run).1 = .error problem →
      FailsBeforeWriting inquiry problem (inquiry.attempt.run.transcript (answer reply) world) ∧
        (∀ call ∈ inquiry.attempt.run.transcript (answer reply) world, ∀ query,
          call.request = .cache query → query.reads = true) ∧
        ∀ key, (world.carryOut reply inquiry.attempt.run).2.cache.live? key =
          world.cache.live? key) ∧
      ((∀ key ∈ inquiry.keys, world.cache.view key ≠ none) →
        (∃ given, (world.carryOut reply inquiry.attempt.run).1 = .ok given) ∧
          ∀ call ∈ inquiry.attempt.run.transcript (answer reply) world, ∀ query,
            call.request ≠ .store query) := by
  refine ⟨fun problem failed => ?_, succeeds_of_cached reply world ofResolver⟩
  obtain ⟨course, _, after⟩ := Plan.course_transcript (answer reply) inquiry.attempt.run world
  change (inquiry.attempt.run.run (answer reply) world).1 = .error problem at failed
  rw [failed] at course
  have fails := fails_before_writing ofResolver course
  have reads := reads_of_fails fails
  exact ⟨fails, reads, fun key => by rw [carryOut, after, live_state_after reads]⟩

def replyWithoutRows : StoreReply Directory
  | .grants _, directory => (.error (.storage .poolTimedOut), directory)
  | .overrides _, directory => (.error (.storage .poolClosed), directory)
  | query, directory => directory.reply query

/-- Two reads that are put side by side fail, and the first of them is what the resolve fails with.
The entry of another user stays, and is enough to answer for that user. -/
theorem store_failures_leave_cache_alone_beside_cached_user :
    let user : UserId := .ofNat 7
    let known : UserId := .ofNat 8
    let channel : ChannelId := .ofNat 2
    let directory : Directory :=
      ⟨.ofNat 1, ∅, ∅, .ofEntries [(channel, "general")], [], none, 0, false⟩
    let cache : CacheState :=
      ((CacheState.inProcess (.fresh 300)).reply (.set known channel .all)).2
    let world : World Directory := ⟨directory, cache, none⟩
    (∀ user' channel' permission,
        Inquiry.resolve user channel ≠ .requirePermission user' channel' permission) ∧
      (world.carryOut replyWithoutRows (Resolver.resolve user channel).run).1 =
        .error (.storage .poolTimedOut) ∧
      (∀ key, (world.carryOut replyWithoutRows (Resolver.resolve user channel).run).2.cache.live?
        key = cache.live? key) ∧
      cache.view ⟨known, channel⟩ ≠ none ∧
      ∃ given, (world.carryOut replyWithoutRows
        (Resolver.hasPermission known channel .all).run).1 = .ok given := by
  intro user known channel directory cache world
  have failed : (world.carryOut replyWithoutRows (Resolver.resolve user channel).run).1 =
      .error (.storage .poolTimedOut) := by
    decide +kernel
  have cached : cache.view ⟨known, channel⟩ ≠ none := by decide +kernel
  obtain ⟨fails, _⟩ :=
    @store_failures_leave_cache_alone _ replyWithoutRows world (.resolve user channel) nofun
  obtain ⟨_, hits⟩ :=
    @store_failures_leave_cache_alone _ replyWithoutRows world (.hasPermission known channel .all)
      nofun
  have cachedEach : ∀ key ∈ (Inquiry.hasPermission known channel .all).keys,
      world.cache.view key ≠ none := by
    intro key member
    rw [List.mem_singleton.mp member]
    exact cached
  exact ⟨nofun, failed, (fails _ failed).2.2, cached, (hits cachedEach).1⟩

end World

end ChannelAccess
