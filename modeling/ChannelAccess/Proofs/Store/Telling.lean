import ChannelAccess.Proofs.Resolver.Calls
import ChannelAccess.Proofs.Resolver.Drawing
import ChannelAccess.Proofs.Resolver.Reading
import ChannelAccess.Proofs.Service.World

/-!
# Stores that may fail

A store any of whose queries may fail at any time, but which tells facts where it does
answer a read, and leaves them as they are. A computation that such a store lets come to
its end has computed what follows from the facts.
-/

namespace ChannelAccess

set_option autoImplicit false

/-- What an answer to a read tells. An identifier that a batched answer leaves out has nothing of
its own. Whether a user is the owner need not agree with who the owner is. -/
def Told (facts : Facts) (owns : UserId → Bool) : (query : StoreQuery) → query.Answer → Prop
  | .grants user, rows => rows = facts.grants user
  | .grantsMany users, rows => ∀ user ∈ users, rows[user]?.getD [] = facts.grants user
  | .channel channel, found => facts.channel channel = some found
  | .channelMany channels, known =>
      ∀ channel ∈ channels, known.contains channel = (facts.channel channel).isSome
  | .overrides channel, rows => rows = facts.overrides channel
  | .overridesMany channels, rows =>
      ∀ channel ∈ channels, rows[channel]?.getD [] = facts.overrides channel
  | .owner, owner => owner = facts.owner
  | .isOwner user, told => told = owns user
  | _, _ => True

/-- The reads of a store tell facts where they are answered, and leave the facts as they are. -/
structure StoreTells {σ : Type} (reply : StoreReply σ) (facts : σ → Facts)
    (owns : σ → UserId → Bool) : Prop where
  tells : ∀ query store answer, query.reads = true → (reply query store).1 = .ok answer →
    Told (facts store) (owns store) query answer
  factsKept : ∀ query store, query.reads = true → facts (reply query store).2 = facts store
  ownsKept : ∀ query store, query.reads = true → owns (reply query store).2 = owns store

theorem StoreAnswers.tells {σ : Type} {reply : StoreReply σ} {facts : σ → Facts}
    (answers : StoreAnswers reply facts) :
    StoreTells reply facts fun store => (facts store).owns where
  tells query store answer reads replied := by
    cases query with
    | grants user => exact Except.ok.inj (replied.symm.trans (answers.grants store user))
    | grantsMany users =>
        obtain ⟨rows, same, rowsOf⟩ := answers.grantsMany store users
        rw [Except.ok.inj (replied.symm.trans same)]
        exact rowsOf
    | channel channel =>
        have same := replied.symm.trans (answers.channel store channel)
        cases found : (facts store).channel channel with
        | none => simp [found] at same
        | some known =>
            rw [found] at same
            rw [Except.ok.inj same]
            exact found
    | channelMany channels =>
        obtain ⟨known, same, knows⟩ := answers.channelMany store channels
        rw [Except.ok.inj (replied.symm.trans same)]
        exact knows
    | overrides channel =>
        exact Except.ok.inj (replied.symm.trans (answers.overrides store channel))
    | overridesMany channels =>
        obtain ⟨rows, same, rowsOf⟩ := answers.overridesMany store channels
        rw [Except.ok.inj (replied.symm.trans same)]
        exact rowsOf
    | owner => exact Except.ok.inj (replied.symm.trans (answers.owner store))
    | isOwner user => exact Except.ok.inj (replied.symm.trans (answers.isOwner store user))
    | _ => trivial
  factsKept := answers.reads
  ownsKept query store reads := by rw [answers.reads query store reads]

def AllTold (facts : Facts) (owns : UserId → Bool) (asked : List Asked) : Prop :=
  ∀ query answer, (⟨.store query, .ok answer⟩ : Asked) ∈ asked → Told facts owns query answer

namespace Resolver

variable {facts : Facts} {owns : UserId → Bool} {asked : List Asked} {computed : IdMap Mask}

theorem computed_channels {user : UserId} {channels : List ChannelId} (distinct : channels.Nodup)
    (told : AllTold facts owns asked)
    (course : (computeChannels user channels).run.Course asked (.ok computed)) :
    computed = gather (fun channel => (facts.metBy owns user).mask ⟨user, channel⟩) channels := by
  have met : ((facts.metBy owns user).owner == some user) = owns user :=
    facts.owns_met_by owns user
  have existing {known : IdMap Channel} (knows : Told facts owns (.channelMany channels) known) :
      channels.filter known.contains =
        channels.filter fun channel => ((facts.metBy owns user).channel channel).isSome :=
    List.filter_congr knows
  rw [← gather_existing]
  cases (compute_channels_course_iff distinct).mp course with
  | unread known owned _ settled masks =>
      rw [← existing (told (.channelMany channels) known (.head _))]
      apply eq_gather
      intro channel
      rw [masks]
      split
      case isTrue member =>
        have same : owned = owns user := told (.isOwner user) owned (.tail _ (.head _))
        have owner := settled.resolve_left (List.ne_nil_of_mem member)
        rw [Facts.effective, met, ← same, owner]
        rfl
      case isFalse => rfl
  | drawn known grants overrides _ _ collected =>
      have other : false = owns user := told (.isOwner user) false (.tail _ (.head _))
      obtain rfl : grants = facts.grants user :=
        told (.grants user) grants (.tail _ (.tail _ (.head _)))
      have rowsOf := told (.overridesMany (channels.filter known.contains)) overrides
        (.tail _ (.tail _ (.tail _ (.head _))))
      have distinctExisting := distinct.filter known.contains
      rw [← existing (told (.channelMany channels) known (.head _)),
        gather_of_rows (met.trans other.symm) distinctExisting rowsOf]
      exact (collected_in_full_iff _ distinctExisting overrides computed).mp collected

theorem computed_users {users : List UserId} {channel : ChannelId} (distinct : users.Nodup)
    (told : AllTold facts owns asked)
    (course : (computeUsers users channel).run.Course asked (.ok computed)) :
    facts.channel channel ≠ none ∧
      computed = gather (fun user => facts.mask ⟨user, channel⟩) users := by
  obtain ⟨found, overrides, owner, grants, _, collected⟩ :=
    (compute_users_course_iff distinct).mp course
  have present : facts.channel channel = some found := told (.channel channel) found (.head _)
  obtain rfl : overrides = facts.overrides channel :=
    told (.overrides channel) overrides (.tail _ (.head _))
  obtain rfl : owner = facts.owner := told .owner owner (.tail _ (.tail _ (.head _)))
  have rowsOf := told (.grantsMany users) grants (.tail _ (.tail _ (.tail _ (.head _))))
  refine ⟨Option.ne_none_iff_exists'.mpr ⟨found, present⟩, ?_⟩
  rw [gather_of_grants present distinct rowsOf]
  exact (collected_in_full_iff _ distinct grants computed).mp collected

end Resolver

/-! What a world tells. -/

namespace World

variable {σ : Type} {reply : StoreReply σ} {facts : σ → Facts} {owns : σ → UserId → Bool}
  {world : World σ} {asked : List Asked}

/-- Reads that a store answers tell its facts. They do not touch the cache. -/
theorem told_of_answered (tells : StoreTells reply facts owns)
    (reads : ∀ call ∈ asked, ∃ query : StoreQuery, query.reads = true ∧
      ∃ answer, call = ⟨.store query, .ok answer⟩)
    (answered : Answered (answer reply) world asked) :
    AllTold (facts world.store) (owns world.store) asked ∧
      (stateAfter (answer reply) world asked).cache = world.cache ∧
      facts (stateAfter (answer reply) world asked).store = facts world.store ∧
      owns (stateAfter (answer reply) world asked).store = owns world.store := by
  induction asked generalizing world with
  | nil => exact ⟨fun _ _ nothing => absurd nothing List.not_mem_nil, rfl, rfl, rfl⟩
  | cons call rest ih =>
      obtain ⟨query, isRead, given, rfl⟩ := reads call List.mem_cons_self
      obtain ⟨replied, answeredRest⟩ := answered
      obtain ⟨told, sameCache, sameFacts, sameOwns⟩ :=
        ih (fun other later => reads other (List.mem_cons_of_mem _ later)) answeredRest
      have factsHere : facts (answer reply (.store query) world).2.store = facts world.store :=
        tells.factsKept query world.store isRead
      have ownsHere : owns (answer reply (.store query) world).2.store = owns world.store :=
        tells.ownsKept query world.store isRead
      rw [factsHere, ownsHere] at told
      refine ⟨?_, sameCache, sameFacts.trans factsHere, sameOwns.trans ownsHere⟩
      intro other found member
      rcases List.mem_cons.mp member with here | later
      · cases here
        exact tells.tells query world.store given isRead replied.symm
      · exact told other found later

end World

end ChannelAccess
