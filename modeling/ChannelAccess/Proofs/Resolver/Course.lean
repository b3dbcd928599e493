import ChannelAccess.Resolver
import ChannelAccess.Proofs.Plan.Terms
import ChannelAccess.Proofs.Resolver.Reading

/-!
# A resolve taken one request at a time

A resolve asks the cache, and then, if nothing is found, reads what the mask depends on
and writes it. Two reads at a time are made side by side, so either may be answered
first; in one of the orders this is the resolve that is run at once.

As long as every reply agrees with the grounds of the key, whatever else goes on between
the requests, the mask that is written and the result are the ones that follow from
these grounds. Where nothing is known of the replies, a resolve still reads the store,
and writes to its own key only.
-/

namespace ChannelAccess

set_option autoImplicit false

/-- Which of two reads that are made side by side is answered first. -/
structure ReadOrder where
  ownerFirst : Bool
  overridesFirst : Bool

namespace Resolver

def sideBySide {α β : Type} (swapped : Bool) (first : Attempt α) (second : Attempt β) :
    Attempt (α × β) :=
  if swapped then do
    let right ← second
    let left ← first
    return (left, right)
  else do
    let left ← first
    let right ← second
    return (left, right)

def computeInOrder (order : ReadOrder) (user : UserId) (channel : ChannelId) : Attempt Mask := do
  let (_, owns) ← sideBySide order.ownerFirst (Attempt.store (.channel channel))
    (Attempt.store (.isOwner user))
  if owns then
    return .all
  else
    let (grants, overrides) ← sideBySide order.overridesFirst (Attempt.store (.grants user))
      (Attempt.store (.overrides channel))
    return effectivePermissions user false grants overrides

def refill (order : ReadOrder) (user : UserId) (channel : ChannelId) : Attempt Mask := do
  let mask ← computeInOrder order user channel
  remember user channel mask
  return mask

def resolveInOrder (order : ReadOrder) (user : UserId) (channel : ChannelId) : Attempt Mask := do
  match ← lookUp user channel with
  | some mask => return mask
  | none => refill order user channel

theorem compute_in_order_eq (user : UserId) (channel : ChannelId) :
    computeInOrder ⟨false, false⟩ user channel = compute user channel := by
  simp only [computeInOrder, compute, sideBySide, Bool.false_eq_true, if_false, bind_assoc,
    pure_bind]

theorem resolve_in_order_eq (user : UserId) (channel : ChannelId) :
    resolveInOrder ⟨false, false⟩ user channel = resolve user channel := by
  unfold resolveInOrder refill
  rw [compute_in_order_eq]
  rfl

theorem resolve_in_order_asks (order : ReadOrder) (user : UserId) (channel : ChannelId) :
    ∃ next, (resolveInOrder order user channel).run = .ask (.cache (.get user channel)) next ∧
      (∀ mask, next (.ok (some mask)) = .done (.ok mask)) ∧
        next (.ok none) = (refill order user channel).run :=
  ⟨_, rfl, fun _ => rfl, rfl⟩

theorem refill_asks (order : ReadOrder) (user : UserId) (channel : ChannelId) :
    ∃ query next, query.reads = true ∧
      (refill order user channel).run = .ask (.store query) next := by
  obtain ⟨ownerFirst, overridesFirst⟩ := order
  cases ownerFirst with
  | false => exact ⟨.channel channel, _, rfl, rfl⟩
  | true => exact ⟨.isOwner user, _, rfl, rfl⟩

end Resolver

namespace Facts.Grounds

/-- Whether a reply to a read about a key agrees with its grounds. Any other reply does. -/
def Tells (grounds : Grounds) (key : EntryKey) : (request : Request) → request.Reply → Prop
  | .store (.channel channel), reply => channel = key.channel →
      reply = match grounds.channel with
        | some found => .ok found
        | none => .error (.channelNotFound channel)
  | .store (.isOwner user), reply => user = key.user → reply = .ok grounds.owns
  | .store (.grants user), reply => user = key.user → reply = .ok grounds.grants
  | .store (.overrides channel), reply => channel = key.channel → reply = .ok grounds.overrides
  | _, _ => True

def result (grounds : Grounds) (key : EntryKey) : Except AccessError Mask :=
  require key (grounds.mask key.user)

end Facts.Grounds

namespace Resolver

open Facts

/-- The requests of a resolve that found nothing. A mask that it writes is right, if the grounds are
known. -/
inductive Refills (known : Option Grounds) (key : EntryKey) : Request → Prop where
  | read (query : StoreQuery) (reads : query.reads = true) : Refills known key (.store query)
  | write (mask : Mask) (right : ∀ grounds ∈ known, grounds.mask key.user = some mask) :
      Refills known key (.cache (.set key.user key.channel mask))
  | report (event : Event) : Refills known key (.report event)

def refillTerms (known : Option Grounds) (key : EntryKey) : Terms where
  may := Refills known key
  expects request reply := ∀ grounds ∈ known, grounds.Tells key request reply

theorem keeps_side_by_side {α β : Type} {terms : Terms} {swapped : Bool} {first : Attempt α}
    {second : Attempt β} {left : Except AccessError α → Prop} {right : Except AccessError β → Prop}
    {wanted : Except AccessError (α × β) → Prop} (keepsFirst : first.run.Keeps terms left)
    (keepsSecond : second.run.Keeps terms right)
    (both : ∀ given other, left (.ok given) → right (.ok other) → wanted (.ok (given, other)))
    (firstFailed : ∀ problem, left (.error problem) → wanted (.error problem))
    (secondFailed : ∀ problem, right (.error problem) → wanted (.error problem)) :
    (sideBySide swapped first second).run.Keeps terms wanted := by
  cases swapped with
  | false =>
      apply Attempt.keeps_bind keepsFirst _ firstFailed
      intro given heldFirst
      apply Attempt.keeps_bind keepsSecond _ secondFailed
      intro other heldSecond
      exact both given other heldFirst heldSecond
  | true =>
      apply Attempt.keeps_bind keepsSecond _ secondFailed
      intro other heldSecond
      apply Attempt.keeps_bind keepsFirst _ firstFailed
      intro given heldFirst
      exact both given other heldFirst heldSecond

variable {known : Option Grounds} {key : EntryKey}

theorem keeps_read {query : StoreQuery} (reads : query.reads = true) :
    (Attempt.store query).run.Keeps (refillTerms known key) fun reply =>
      ∀ grounds ∈ known, grounds.Tells key (.store query) reply :=
  Attempt.keeps_store (.read query reads) fun _ expected => expected

theorem keeps_remember {user : UserId} {channel : ChannelId} {mask : Mask}
    (right : ∀ grounds ∈ known, grounds.mask user = some mask) {wanted : Unit → Prop}
    (ends : wanted ()) :
    (remember user channel mask).Keeps (refillTerms known ⟨user, channel⟩) wanted := by
  refine ⟨.write mask right, ?_⟩
  intro reply _
  cases reply with
  | ok _ => exact ends
  | error problem => exact ⟨.report _, fun _ _ => ends⟩

variable (order : ReadOrder) (user : UserId) (channel : ChannelId)

theorem keeps_channel_and_owner :
    (sideBySide order.ownerFirst (Attempt.store (.channel channel))
      (Attempt.store (.isOwner user))).run.Keeps (refillTerms known ⟨user, channel⟩) fun result =>
        ∀ grounds ∈ known, match result with
          | .ok (found, owns) => grounds.channel = some found ∧ grounds.owns = owns
          | .error problem =>
              grounds.channel = none ∧ problem = .channelNotFound channel := by
  apply keeps_side_by_side (keeps_read rfl) (keeps_read rfl)
  · intro found owns channelTold ownsTold grounds member
    have sameChannel := channelTold grounds member rfl
    have sameOwns := Except.ok.inj (ownsTold grounds member rfl)
    refine ⟨?_, sameOwns.symm⟩
    cases exists_channel : grounds.channel with
    | none => simp [exists_channel] at sameChannel
    | some channel => simpa [exists_channel, eq_comm] using sameChannel
  · intro problem told grounds member
    have same := told grounds member rfl
    cases exists_channel : grounds.channel with
    | none => simpa [exists_channel] using same
    | some channel => simp [exists_channel] at same
  · intro problem told grounds member
    have impossible := told grounds member rfl
    contradiction

theorem keeps_grants_and_overrides :
    (sideBySide order.overridesFirst (Attempt.store (.grants user))
      (Attempt.store (.overrides channel))).run.Keeps (refillTerms known ⟨user, channel⟩)
        fun result => ∀ grounds ∈ known, result = .ok (grounds.grants, grounds.overrides) := by
  apply keeps_side_by_side (keeps_read rfl) (keeps_read rfl)
  · intro grants overrides grantsTold overridesTold grounds member
    have sameGrants := Except.ok.inj (grantsTold grounds member rfl)
    have sameOverrides := Except.ok.inj (overridesTold grounds member rfl)
    rw [sameGrants, sameOverrides]
  · intro problem told grounds member
    have impossible := told grounds member rfl
    contradiction
  · intro problem told grounds member
    have impossible := told grounds member rfl
    contradiction

theorem keeps_compute_in_order :
    (computeInOrder order user channel).run.Keeps (refillTerms known ⟨user, channel⟩) fun result =>
      ∀ grounds ∈ known, result = grounds.result ⟨user, channel⟩ := by
  apply Attempt.keeps_bind (keeps_channel_and_owner order user channel)
  · rintro ⟨found, owns⟩ told
    cases owns with
    | true =>
        intro grounds member
        obtain ⟨exists_channel, ownsAll⟩ := told grounds member
        simp [Grounds.result, Grounds.mask, exists_channel, ownsAll, effectivePermissions, require]
    | false =>
        apply Attempt.keeps_bind (keeps_grants_and_overrides order user channel)
        · rintro ⟨grants, overrides⟩ rowsTold grounds member
          obtain ⟨exists_channel, ownsNothing⟩ := told grounds member
          have same := Except.ok.inj (rowsTold grounds member)
          obtain ⟨sameGrants, sameOverrides⟩ := Prod.mk.inj same
          rw [Grounds.result, Grounds.mask, exists_channel, ownsNothing, sameGrants, sameOverrides]
          rfl
        · intro problem failed grounds member
          have impossible := failed grounds member
          contradiction
  · intro problem told grounds member
    obtain ⟨absent, same⟩ := told grounds member
    rw [Grounds.result, Grounds.mask, absent, same]
    rfl

/-- On known grounds a resolve that found nothing writes the mask that follows from them and comes
to it; on any, it keeps to its own key. -/
theorem keeps_refill :
    (refill order user channel).run.Keeps (refillTerms known ⟨user, channel⟩) fun result =>
      ∀ grounds ∈ known, result = grounds.result ⟨user, channel⟩ := by
  apply Attempt.keeps_bind (keeps_compute_in_order order user channel)
  · intro mask right
    apply Attempt.keeps_lift
    apply keeps_remember
    · intro grounds member
      have same := right grounds member
      cases follows : grounds.mask user with
      | none => simp [Grounds.result, follows, require] at same
      | some other => simpa [Grounds.result, follows, require, eq_comm] using same
    · exact right
  · exact fun _ failed => failed

end Resolver

end ChannelAccess
