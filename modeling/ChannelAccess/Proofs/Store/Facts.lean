import ChannelAccess.Effective
import ChannelAccess.Store
import ChannelAccess.Proofs.Cache.View

/-!
# Facts and what changes them

What a store says at one moment, and the mask that follows from it for a user and a
channel. A change of the store's data names what it may have touched; outside the
scopes that the change makes stale, every mask is what it was.
-/

namespace ChannelAccess

set_option autoImplicit false

structure Facts where
  grants : UserId → List RoleGrant
  channel : ChannelId → Option Channel
  overrides : ChannelId → List Override
  /-- The owner, if there is one. -/
  owner : Option UserId

namespace Facts

def effective (facts : Facts) (user : UserId) (channel : ChannelId) : Mask :=
  effectivePermissions user (facts.owner == some user) (facts.grants user)
    (facts.overrides channel)

/-- The mask that follows from the facts, if the channel exists. -/
def mask (facts : Facts) (key : EntryKey) : Option Mask :=
  (facts.channel key.channel).map fun _ => facts.effective key.user key.channel

structure Grounds where
  /-- The channel, if it exists. -/
  channel : Option Channel
  owns : Bool
  grants : List RoleGrant
  overrides : List Override

def Grounds.mask (grounds : Grounds) (user : UserId) : Option Mask :=
  grounds.channel.map fun _ =>
    effectivePermissions user grounds.owns grounds.grants grounds.overrides

def grounds (facts : Facts) (key : EntryKey) : Grounds :=
  ⟨facts.channel key.channel, facts.owner == some key.user, facts.grants key.user,
    facts.overrides key.channel⟩

def Correct (facts : Facts) (view : CacheView) : Prop :=
  view.Within facts.mask

structure AlikeButOverrides (channel : ChannelId) (before after : Facts) : Prop where
  grants : after.grants = before.grants
  channels : after.channel = before.channel
  overrides : ∀ other, other ≠ channel → after.overrides other = before.overrides other
  owner : after.owner = before.owner

structure AlikeButGrants (user : UserId) (before after : Facts) : Prop where
  grants : ∀ other, other ≠ user → after.grants other = before.grants other
  channels : after.channel = before.channel
  overrides : after.overrides = before.overrides
  owner : after.owner = before.owner

/-- A channel that did not exist may exist now. -/
structure AlikeButCreated (channel : ChannelId) (before after : Facts) : Prop where
  absent : before.channel channel = none
  grants : after.grants = before.grants
  channels : ∀ other, other ≠ channel → after.channel other = before.channel other
  overrides : ∀ other, other ≠ channel → after.overrides other = before.overrides other
  owner : after.owner = before.owner

theorem mask_eq_mask_grounds (facts : Facts) (key : EntryKey) :
    facts.mask key = (facts.grounds key).mask key.user := rfl

theorem mask_of_same_grounds {before after : Facts} {key : EntryKey}
    (same : after.grounds key = before.grounds key) : after.mask key = before.mask key := by
  rw [mask_eq_mask_grounds, same, mask_eq_mask_grounds]

theorem grounds_of_alike {before after : Facts} {key : EntryKey}
    (channel : after.channel key.channel = before.channel key.channel)
    (owns : (after.owner == some key.user) = (before.owner == some key.user))
    (grants : after.grants key.user = before.grants key.user)
    (overrides : after.overrides key.channel = before.overrides key.channel) :
    after.grounds key = before.grounds key := by
  rw [grounds, grounds, channel, owns, grants, overrides]

theorem mask_of_created {before after : Facts} {channel : ChannelId} {key : EntryKey}
    {found : Mask} (created : AlikeButCreated channel before after)
    (known : before.mask key = some found) : after.mask key = some found := by
  have other : key.channel ≠ channel := by
    intro same
    rw [mask, same, created.absent] at known
    contradiction
  rw [← known]
  exact mask_of_same_grounds (grounds_of_alike (created.channels _ other)
    (by rw [created.owner]) (by rw [created.grants]) (created.overrides _ other))

end Facts

def Change.Permits (before after : Facts) : Change → Prop
  | .roleStructure =>
      after.channel = before.channel ∧ after.overrides = before.overrides ∧
        after.owner = before.owner
  | .channelOverrides channel => before.AlikeButOverrides channel after
  | .memberRoles user => before.AlikeButGrants user after
  | .memberBanned user => before.AlikeButGrants user after
  | .memberTimedOut user => before.AlikeButGrants user after
  | .ownershipTransferred former next =>
      (before.owner = some former ∨ before.owner = none) ∧ after.owner = some next ∧
        after.grants = before.grants ∧ after.channel = before.channel ∧
          after.overrides = before.overrides

namespace Facts

variable {before after : Facts} {key : EntryKey}

theorem grounds_of_alike_but_overrides {channel : ChannelId}
    (alike : before.AlikeButOverrides channel after)
    (outside : (Invalidation.ofChannel channel).covers key.user key.channel = false) :
    after.grounds key = before.grounds key := by
  have other : key.channel ≠ channel := by
    simpa [Invalidation.covers, eq_comm (a := channel)] using outside
  exact grounds_of_alike (by rw [alike.channels]) (by rw [alike.owner]) (by rw [alike.grants])
    (alike.overrides _ other)

theorem grounds_of_alike_but_grants {user : UserId} (alike : before.AlikeButGrants user after)
    (outside : (Invalidation.ofUser user).covers key.user key.channel = false) :
    after.grounds key = before.grounds key := by
  have other : key.user ≠ user := by
    simpa [Invalidation.covers, eq_comm (a := user)] using outside
  exact grounds_of_alike (by rw [alike.channels]) (by rw [alike.owner]) (alike.grants _ other)
    (by rw [alike.overrides])

theorem owns_of_transferred {former next user : UserId}
    (start : before.owner = some former ∨ before.owner = none) (finish : after.owner = some next)
    (notFormer : former ≠ user) (notNext : next ≠ user) :
    (after.owner == some user) = (before.owner == some user) := by
  have nextDiffers : (some next == some user) = false := by simpa using notNext
  have formerDiffers : (some former == some user) = false := by simpa using notFormer
  rcases start with owned | unowned
  · rw [owned, finish, nextDiffers, formerDiffers]
  · rw [unowned, finish, nextDiffers]
    rfl

theorem grounds_of_uncovered {change : Change} (permits : change.Permits before after)
    (outside : ∀ scope ∈ change.invalidations, scope.covers key.user key.channel = false) :
    after.grounds key = before.grounds key := by
  cases change with
  | roleStructure => simp [Change.invalidations, Invalidation.covers] at outside
  | channelOverrides channel =>
      exact grounds_of_alike_but_overrides permits (outside _ List.mem_cons_self)
  | memberRoles user => exact grounds_of_alike_but_grants permits (outside _ List.mem_cons_self)
  | memberBanned user => exact grounds_of_alike_but_grants permits (outside _ List.mem_cons_self)
  | memberTimedOut user =>
      exact grounds_of_alike_but_grants permits (outside _ List.mem_cons_self)
  | ownershipTransferred former next =>
      obtain ⟨start, finish, grants, channels, overrides⟩ := permits
      have notFormer : former ≠ key.user := by
        simpa [Invalidation.covers] using outside (.ofUser former) List.mem_cons_self
      have notNext : next ≠ key.user := by
        simpa [Invalidation.covers] using
          outside (.ofUser next) (List.mem_cons_of_mem _ List.mem_cons_self)
      exact grounds_of_alike (by rw [channels])
        (owns_of_transferred start finish notFormer notNext) (by rw [grants]) (by rw [overrides])

theorem mask_of_uncovered {change : Change} (permits : change.Permits before after)
    (outside : ∀ scope ∈ change.invalidations, scope.covers key.user key.channel = false) :
    after.mask key = before.mask key :=
  mask_of_same_grounds (grounds_of_uncovered permits outside)

end Facts

end ChannelAccess
