import ChannelAccess.Proofs.Invalidation.Coalescing
import ChannelAccess.Proofs.Service.World

/-!
# Coalescing keeps the effect

A batch of drops and what coalescing leaves of it end with the same entries in the cache. One drop
takes away what its scope covers and leaves every other entry with its mask and its expiry; so do
several in a row, in whatever order, and coalescing keeps what is covered.
-/

namespace ChannelAccess

set_option autoImplicit false

namespace CacheState

/-- What is kept under the key of an entry, with the time when it is over. -/
def slot? : CacheState → EntryKey → Option Slot
  | .inProcess cache, key => cache.entries[key]?.map Holdings.entrySlot
  | .shared cache server, key => server.space.slots[cache.names.entryKey key]?

/-- A cache whose drops take effect: one in the process, or one on a server that answers commands
and whose indexes list every entry. -/
inductive Droppable : CacheState → Prop where
  | inProcess (cache : InProcessCache) : Droppable (.inProcess cache)
  | shared (cache : SharedCache) (server : CacheServer) (held : Holdings)
      (fits : cache.seconds < Text.wordBound) (serves : cache.Serves server held)
      (indexed : held.Indexed) : Droppable (.shared cache server)

theorem droppable_of_working {state : CacheState} (working : state.Working) : state.Droppable := by
  cases state with
  | inProcess cache => exact .inProcess cache
  | shared cache server =>
      obtain ⟨fits, held, serves, covered⟩ := working
      exact .shared cache server held fits serves (Holdings.indexed_of_covered covered)

theorem droppable_of_used {state : CacheState} (unused : state.Unused)
    (queries : List CacheQuery) : (state.replyAll queries).Droppable :=
  droppable_of_working (reply_all_working (working_of_unused unused).1 queries)

theorem reply_drop_in_process (cache : InProcessCache) (scope : Invalidation) :
    ((inProcess cache).reply (.drop scope)).2 = .inProcess (cache.drop scope) := by
  cases scope <;> rfl

theorem slot_reply_drop {state : CacheState} (droppable : state.Droppable)
    (scope : Invalidation) :
    (state.reply (.drop scope)).2.Droppable ∧
      ∀ key, (state.reply (.drop scope)).2.slot? key =
        if scope.covers key.user key.channel then none else state.slot? key := by
  cases droppable with
  | inProcess cache =>
      rw [reply_drop_in_process]
      constructor
      · exact .inProcess _
      · intro key
        simp only [slot?, InProcessCache.drop, Std.ExtTreeMap.getElem?_filter']
        cases cache.entries[key]? <;> cases scope.covers key.user key.channel <;> simp
  | shared cache server held fits serves indexed =>
      obtain ⟨answer, after, replied, servesAfter⟩ := SharedCache.reply_drop serves fits scope
      have left : ((shared cache server).reply (.drop scope)).2 = .shared cache after := by
        rw [reply, replied]
      rw [left]
      constructor
      · have stillIndexed := Holdings.indexed_drop_scope indexed scope
        exact .shared cache after _ fits servesAfter stillIndexed
      · intro key
        simp only [slot?]
        rw [servesAfter.depicts.entry, serves.depicts.entry, Holdings.entry_drop_scope indexed]
        cases scope.covers key.user key.channel <;> rfl

theorem slot_drop_all {state : CacheState} (droppable : state.Droppable)
    (scopes : List Invalidation) (key : EntryKey) :
    (state.replyAll (scopes.map .drop)).slot? key =
      if scopes.any fun scope => scope.covers key.user key.channel then none
      else state.slot? key := by
  induction scopes generalizing state with
  | nil => rfl
  | cons scope rest ih =>
      obtain ⟨stillDroppable, first⟩ := slot_reply_drop droppable scope
      have later := ih stillDroppable
      rw [first] at later
      rw [replyAll] at later
      rw [replyAll, List.map_cons, List.foldl_cons, List.any_cons, later]
      cases scope.covers key.user key.channel <;> simp

end CacheState

namespace Invalidation

theorem any_covers_iff (scopes : List Invalidation) (user : UserId) (channel : ChannelId) :
    (scopes.any fun scope => scope.covers user channel) = true ↔
      AnyCovers scopes user channel := by
  simp [AnyCovers]

end Invalidation

namespace World

variable {σ : Type}

/-- A coalesced batch has the effect of the whole batch. Applying either leaves the same entries
with the same expiries, namely those that no scope of the batch covers, and the store and the queue
as they were. -/
theorem coalescing_keeps_effect (reply : StoreReply σ) (world : World σ)
    (droppable : world.cache.Droppable) (batch : List Invalidation) :
    let merged := (world.carryOut reply (Publisher.applyAll (Invalidation.coalesce batch))).2
    let whole := (world.carryOut reply (Publisher.applyAll batch)).2
    (∀ key, merged.cache.slot? key = whole.cache.slot? key) ∧
      (∀ key, whole.cache.slot? key =
        if batch.any fun scope => scope.covers key.user key.channel then none
        else world.cache.slot? key) ∧
      merged.store = world.store ∧ whole.store = world.store ∧
      merged.queue = world.queue ∧ whole.queue = world.queue := by
  intro merged whole
  have appliedMerged : merged =
      { world with cache := world.cache.replyAll ((Invalidation.coalesce batch).map .drop) } :=
    congrArg Prod.snd (carry_out_apply_all reply world _)
  have appliedWhole : whole = { world with cache := world.cache.replyAll (batch.map .drop) } :=
    congrArg Prod.snd (carry_out_apply_all reply world _)
  rw [appliedMerged, appliedWhole]
  refine ⟨?same, ?left, rfl, rfl, rfl, rfl⟩
  case same =>
    intro key
    have sameCovered : (Invalidation.coalesce batch).any
        (fun scope => scope.covers key.user key.channel) =
        batch.any fun scope => scope.covers key.user key.channel := by
      rw [Bool.eq_iff_iff, Invalidation.any_covers_iff, Invalidation.any_covers_iff,
        Invalidation.any_covers_coalesce]
    rw [CacheState.slot_drop_all droppable, CacheState.slot_drop_all droppable, sameCovered]
  case left =>
    intro key
    exact CacheState.slot_drop_all droppable batch key

/-- An entry is dropped, then its user, a channel, and the user again. Coalescing leaves the user
and the channel, and of three cached masks the one that neither covers stays. -/
theorem coalescing_keeps_effect_on_covered_entry :
    let user : UserId := .ofNat 1
    let other : UserId := .ofNat 2
    let channel : ChannelId := .ofNat 3
    let elsewhere : ChannelId := .ofNat 4
    let empty : CacheState := .shared (.opened "permissions" 300) ⟨.blank 0, none⟩
    let filled := empty.replyAll
      [.set user channel .all, .set other channel .all, .set other elsewhere .all]
    let world : World Directory := ⟨⟨.ofNat 1, ∅, ∅, ∅, [], none, 0, false⟩, filled, none⟩
    let batch : List Invalidation :=
      [.ofEntry user channel, .ofUser user, .ofChannel channel, .ofUser user]
    let left (scopes : List Invalidation) : CacheState :=
      (world.carryOut (fun query => Directory.reply query) (Publisher.applyAll scopes)).2.cache
    world.cache.Droppable ∧ Invalidation.coalesce batch = [.ofUser user, .ofChannel channel] ∧
      (∀ key, (left (Invalidation.coalesce batch)).slot? key = (left batch).slot? key) ∧
      (left batch).slot? ⟨user, channel⟩ = none ∧ (left batch).slot? ⟨other, channel⟩ = none ∧
      (left batch).slot? ⟨other, elsewhere⟩ = world.cache.slot? ⟨other, elsewhere⟩ := by
  intro user other channel elsewhere empty filled world batch left
  have untouched : empty.Unused := ⟨by decide, CacheServer.untouched_blank _ 0⟩
  have droppable : filled.Droppable := CacheState.droppable_of_used untouched _
  -- Nothing below depends on how the cache was filled.
  clear_value filled
  obtain ⟨same, remains, _⟩ :=
    coalescing_keeps_effect (fun query => Directory.reply query) world droppable batch
  have covered : (batch.any fun scope => scope.covers user channel) = true := by decide
  have coveredToo : (batch.any fun scope => scope.covers other channel) = true := by decide
  have outside : ¬(batch.any fun scope => scope.covers other elsewhere) = true := by decide
  exact ⟨droppable, by decide, same, (remains ⟨user, channel⟩).trans (if_pos covered),
    (remains ⟨other, channel⟩).trans (if_pos coveredToo),
    (remains ⟨other, elsewhere⟩).trans (if_neg outside)⟩

end World

end ChannelAccess
