import Mathlib.Data.List.Forall2
import ChannelAccess.Proofs.Resolver.Reading
import ChannelAccess.Proofs.Service.World
import ChannelAccess.Proofs.Store.Directory

/-!
# Filters judge as single checks do

A filter over many channels of one user, or many users of one channel, says of each
what a check of that one alone would say on the same store and the same cache. The
cache may hold anything, stale and wrong masks included; a mask that is found is taken
by both.

Both ways through many channels ask whether the user is the owner, so they agree even
where that answer does not fit who the owner is. Many users are compared with the
owner, and there it has to fit.
-/

namespace ChannelAccess

set_option autoImplicit false

namespace World

variable {σ : Type} {reply : StoreReply σ} {facts : σ → Facts} {owns : σ → UserId → Bool}
  {world : World σ}

/-- What the store says and what the cache shows, as long as the cache answers. -/
def readOutlook (facts : σ → Facts) : Outlook (World σ) where
  facts world := facts world.store
  view world := world.cache.view
  working world := world.cache.Answering

theorem legible_answer (reads : StoreReads reply facts owns) :
    Legible (answer reply) (readOutlook facts) fun world => owns world.store where
  toStoreLegible := reads.store_legible World.store (fun _ _ => rfl) (fun _ _ => rfl) (fun _ => rfl)
    fun _ _ answering => ⟨answering, rfl⟩
  cache _ _ keeps answering := CacheState.reply_answering answering keeps
  cacheApart _ _ _ := rfl

theorem owner_known_met_by (facts : σ → Facts) (owns : σ → UserId → Bool) (user : UserId) :
    OwnerKnown (readOutlook fun store => (facts store).metBy (owns store) user)
      (fun world => owns world.store) user :=
  fun world => ((facts world.store).owns_met_by (owns world.store) user).symm

theorem has_permission_eq (reads : StoreReads reply facts owns)
    (answering : world.cache.Answering) {user : UserId}
    (known : OwnerKnown (readOutlook facts) (fun world => owns world.store) user)
    (channel : ChannelId) (permission : Mask) :
    (world.carryOut reply (Resolver.hasPermission user channel permission).run).1 =
      (Facts.require ⟨user, channel⟩
        ((facts world.store).shown world.cache.view ⟨user, channel⟩)).map fun mask =>
          mask.grants permission := by
  obtain ⟨after, ran, _⟩ := Resolver.settles_has_permission (legible_answer reads) answering known
    channel permission
  rw [carryOut, ran]
  rfl

/-- A filter over channels says of each channel what a single check says, and grants nothing where
that finds no channel. -/
theorem filter_permitted_as_single_checks (reads : StoreReads reply facts owns)
    (answering : world.cache.Answering) (user : UserId) (channels : List ChannelId)
    (permission : Mask) :
    ∃ judged,
      (world.carryOut reply (Resolver.filterPermitted user channels permission).run).1 =
        .ok judged ∧
      List.Forall₂ (fun channel granted =>
        (world.carryOut reply (Resolver.hasPermission user channel permission).run).1 =
            .ok granted ∨
          (world.carryOut reply (Resolver.hasPermission user channel permission).run).1 =
              .error (.channelNotFound channel) ∧ granted = false) channels judged := by
  have told := reads.met_by user
  have known := owner_known_met_by facts owns user
  obtain ⟨after, ran, _⟩ := Resolver.settles_filter_permitted (legible_answer told) answering known
    channels permission
  refine ⟨_, congrArg Prod.fst ran, ?_⟩
  rw [Facts.judged, List.forall₂_map_right_iff, List.forall₂_same]
  intro channel _
  rw [has_permission_eq told answering known]
  cases shown : ((facts world.store).metBy (owns world.store) user).shown world.cache.view
    ⟨user, channel⟩ with
  | none => exact .inr ⟨rfl, by simp [readOutlook, shown]⟩
  | some mask => exact .inl (by simp [readOutlook, shown, Facts.require, Except.map])

/-- A channel with a mask in the cache that the store no longer bears out, one that does not exist,
and one to compute, each asked for twice. -/
theorem filter_permitted_as_single_checks_on_stale_mask :
    let user : UserId := .ofNat 7
    let general : ChannelId := .ofNat 2
    let hall : ChannelId := .ofNat 3
    let channels := [hall, .ofNat 9, general, hall, general, .ofNat 9]
    let directory : Directory :=
      ⟨.ofNat 1, .ofEntries [(.ofNat 1, .ofNat 4)], ∅,
        .ofEntries [(general, "general"), (hall, "hall")],
        [⟨.ofNat 5, hall, .user user, ∅, .ofNat 4, .ofSeconds 0, .ofSeconds 0⟩], none, 0, false⟩
    let world : World Directory :=
      ⟨directory, ((CacheState.inProcess (.fresh 300)).reply (.set user hall (.ofNat 4))).2, none⟩
    StoreReads Directory.fullReply Directory.facts (fun store => store.facts.owns) ∧
      world.cache.Answering ∧
      (world.carryOut Directory.fullReply
        (Resolver.filterPermitted user channels (.ofNat 4)).run).1 =
          .ok [true, false, true, true, true, false] ∧
      ∃ judged,
        (world.carryOut Directory.fullReply
          (Resolver.filterPermitted user channels (.ofNat 4)).run).1 = .ok judged ∧
        List.Forall₂ (fun channel granted =>
          (world.carryOut Directory.fullReply
            (Resolver.hasPermission user channel (.ofNat 4)).run).1 = .ok granted ∨
          (world.carryOut Directory.fullReply
            (Resolver.hasPermission user channel (.ofNat 4)).run).1 =
              .error (.channelNotFound channel) ∧ granted = false) channels judged := by
  intro user general hall channels directory world
  have reads := Directory.full_reply_answers.store_reads
  have answering : world.cache.Answering := trivial
  refine ⟨reads, answering, ?_,
    filter_permitted_as_single_checks reads answering user channels (.ofNat 4)⟩
  subst world directory channels hall general user
  rfl

/-- A store that names the owner, and tells users whether they are the owner accordingly. -/
structure OwnerNamed (reply : StoreReply σ) (facts : σ → Facts) (owns : σ → UserId → Bool) :
    Prop where
  owner : ∀ store, (reply .owner store).1 = .ok (facts store).owner
  owns : ∀ store user, owns store user = (facts store).owns user

theorem filter_users_permitted_eq (reads : StoreReads reply facts owns)
    (named : OwnerNamed reply facts owns) (answering : world.cache.Answering)
    (users : List UserId) (channel : ChannelId) (permission : Mask) :
    (world.carryOut reply (Resolver.filterUsersPermitted users channel permission).run).1 =
      (facts world.store).outcome world.cache.view
        (.filterUsersPermitted users channel permission) := by
  have ownerReply : ∀ world : World σ,
      (answer reply (.store .owner) world).1 = .ok ((readOutlook facts).facts world).owner :=
    fun world => named.owner world.store
  obtain ⟨after, ran, _⟩ := Resolver.settles_filter_users_permitted (legible_answer reads)
    answering ownerReply users channel permission
  exact congrArg Prod.fst ran

theorem checks_of_shown (reads : StoreReads reply facts owns)
    (named : OwnerNamed reply facts owns) (answering : world.cache.Answering)
    {users : List UserId} {channel : ChannelId}
    (shows : ∀ user ∈ users, (facts world.store).shown world.cache.view ⟨user, channel⟩ ≠ none)
    (permission : Mask) :
    List.Forall₂ (fun user granted =>
      (world.carryOut reply (Resolver.hasPermission user channel permission).run).1 = .ok granted)
      users ((facts world.store).judged world.cache.view (fun user => ⟨user, channel⟩) users
        permission) := by
  rw [Facts.judged, List.forall₂_map_right_iff, List.forall₂_same]
  intro user member
  obtain ⟨mask, shown⟩ := Option.ne_none_iff_exists'.mp (shows user member)
  rw [has_permission_eq reads answering fun world => named.owns world.store user, shown]
  rfl

/-- A filter over users says of each user what a single check says. It fails exactly if the channel
does not exist and one of the users is not found in the cache. -/
theorem filter_users_permitted_as_single_checks (reads : StoreReads reply facts owns)
    (named : OwnerNamed reply facts owns) (answering : world.cache.Answering)
    (users : List UserId) (channel : ChannelId) (permission : Mask) :
    (∀ judged,
      (world.carryOut reply (Resolver.filterUsersPermitted users channel permission).run).1 =
        .ok judged →
      List.Forall₂ (fun user granted =>
        (world.carryOut reply (Resolver.hasPermission user channel permission).run).1 =
          .ok granted) users judged) ∧
    ∀ problem,
      (world.carryOut reply (Resolver.filterUsersPermitted users channel permission).run).1 =
        .error problem ↔
      problem = .channelNotFound channel ∧ (facts world.store).channel channel = none ∧
        ∃ user ∈ users, (world.cache.reply (.get user channel)).1 = .ok none := by
  have missed (user : UserId) : (world.cache.reply (.get user channel)).1 = .ok none ↔
      world.cache.view ⟨user, channel⟩ = none := by
    rw [(CacheState.reply_answering answering rfl).1, Except.ok.injEq]
    rfl
  simp only [filter_users_permitted_eq reads named answering, missed]
  by_cases failing : (∃ user ∈ users, world.cache.view ⟨user, channel⟩ = none) ∧
      (facts world.store).channel channel = none
  · rw [Facts.outcome, if_pos failing]
    refine ⟨fun judged same => by contradiction, fun problem => ?_⟩
    constructor
    · intro same
      exact ⟨(Except.error.inj same).symm, failing.2, failing.1⟩
    · rintro ⟨rfl, _⟩
      rfl
  · rw [Facts.outcome, if_neg failing]
    refine ⟨fun judged same => ?_, fun problem => ?_⟩
    · rw [← Except.ok.inj same]
      apply checks_of_shown reads named answering
      intro user member nothing
      obtain ⟨unseen, unknown⟩ := Option.or_eq_none_iff.mp nothing
      exact failing ⟨⟨user, member, unseen⟩, (Facts.mask_eq_none_iff _).mp unknown⟩
    · constructor
      · intro same
        contradiction
      · rintro ⟨_, absent, some_missed⟩
        exact absurd ⟨some_missed, absent⟩ failing

/-- The owner, a member twice, and two who are denied the permission, one of them with a stale mask
in the cache; and a channel that does not exist, with one user cached there and one not. -/
theorem filter_users_permitted_as_single_checks_on_mixed_users :
    let owner : UserId := .ofNat 8
    let member : UserId := .ofNat 7
    let denied : UserId := .ofNat 6
    let muted : UserId := .ofNat 5
    let hall : ChannelId := .ofNat 3
    let gone : ChannelId := .ofNat 9
    let users := [denied, member, owner, muted, member]
    let denial (user : UserId) : Override :=
      ⟨.ofNat 4, hall, .user user, ∅, .ofNat 4, .ofSeconds 0, .ofSeconds 0⟩
    let directory : Directory :=
      ⟨.ofNat 1, .ofEntries [(.ofNat 1, .ofNat 4)], ∅, .ofEntries [(hall, "hall")],
        [denial denied, denial muted], some owner, 0, false⟩
    let cache :=
      ((CacheState.inProcess (.fresh 300)).reply (.set denied hall (.ofNat 4))).2
    let world : World Directory := ⟨directory, (cache.reply (.set denied gone (.ofNat 4))).2, none⟩
    StoreReads Directory.fullReply Directory.facts (fun store => store.facts.owns) ∧
      OwnerNamed Directory.fullReply Directory.facts (fun store => store.facts.owns) ∧
      world.cache.Answering ∧
      List.Forall₂ (fun user granted =>
        (world.carryOut Directory.fullReply
          (Resolver.hasPermission user hall (.ofNat 4)).run).1 = .ok granted)
        users [true, true, true, false, true] ∧
      (world.carryOut Directory.fullReply
        (Resolver.filterUsersPermitted [denied, member] gone (.ofNat 4)).run).1 =
          .error (.channelNotFound gone) := by
  intro owner member denied muted hall gone users denial directory cache world
  have reads := Directory.full_reply_answers.store_reads
  have named : OwnerNamed Directory.fullReply Directory.facts fun store => store.facts.owns :=
    ⟨fun _ => rfl, fun _ _ => rfl⟩
  have answering : world.cache.Answering := trivial
  refine ⟨reads, named, answering, ?_, ?_⟩
  · apply (filter_users_permitted_as_single_checks reads named answering users hall (.ofNat 4)).1
    subst world cache directory denial users gone hall muted denied member owner
    rfl
  · apply (filter_users_permitted_as_single_checks reads named answering [denied, member] gone
      (.ofNat 4)).2 _ |>.mpr
    refine ⟨rfl, ?_, member, by simp, ?_⟩
    · subst world cache directory denial users gone hall muted denied member owner
      rfl
    · subst world cache directory denial users gone hall muted denied member owner
      rfl

end World

end ChannelAccess
