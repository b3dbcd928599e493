import ChannelAccess.Proofs.Cache.ScriptEffect
import ChannelAccess.Proofs.Cache.View

/-!
# Replies of the shared cache

A shared cache on a server that depicts the holdings of its scope answers every query
from the entries held, and the server depicts the holdings after the query. The
entries of a batched write may go to the server in any order.
-/

namespace ChannelAccess

set_option autoImplicit false

namespace Holdings

def view (held : Holdings) : CacheView := fun key =>
  (held.entry key).map TimedMask.mask

def writeAll (held : Holdings) (lifetime : Nat) (entries : List SharedCache.Entry) : Holdings :=
  if entries.isEmpty then held else held.write lifetime entries

def dropScope (held : Holdings) : Invalidation → Holdings
  | .all => held.dropAll
  | .ofChannel channel => held.dropChannel channel
  | .ofUser user => held.dropUser user
  | .ofEntry user channel => held.dropEntry ⟨user, channel⟩

def after (held : Holdings) (lifetime : Nat) (order : List SharedCache.Entry) :
    CacheQuery → Holdings
  | .set _ _ _ => held.writeAll lifetime order
  | .setMany _ _ => held.writeAll lifetime order
  | .setManyUsers _ _ => held.writeAll lifetime order
  | query =>
      match query.dropped with
      | some scope => held.dropScope scope
      | none => held

end Holdings

namespace SharedCache

open Holdings

def Exchange.settle {α : Type} (exchange : Exchange α) (server : CacheServer) :
    Except CacheError α × CacheServer :=
  match exchange with
  | .settled answer => (.ok answer, server)
  | .asking command decode =>
      match server.execute command with
      | (.error reason, server) => (.error (.refused reason), server)
      | (.ok answer, server) => (decode answer, server)

def exchangeInOrder (cache : SharedCache) (order : List Entry) :
    (query : CacheQuery) → Exchange query.Answer
  | .set _ _ _ => cache.writing order
  | .setMany _ _ => cache.writing order
  | .setManyUsers _ _ => cache.writing order
  | query => cache.exchange query

theorem exchange_in_order_entries (cache : SharedCache) (query : CacheQuery) :
    cache.exchangeInOrder query.entries query = cache.exchange query := by
  cases query <;> rfl

theorem reply_eq_settle (cache : SharedCache) (query : CacheQuery) (server : CacheServer) :
    cache.reply query server = (cache.exchangeInOrder query.entries query).settle server := by
  rw [exchange_in_order_entries, reply]
  cases cache.exchange query <;> rfl

/-- A server that refuses nothing and depicts the holdings of a cache's scope. -/
structure Serves (cache : SharedCache) (server : CacheServer) (held : Holdings) : Prop where
  refusal : server.refusal = none
  depicts : Depicts cache.names server.space held

theorem mask_of_mask_text (mask : Mask) : maskOf (maskText mask) = .ok mask := by
  have read : Text.readBelow 10 Text.wordBound (maskText mask).toList = some mask.toNat := by
    rw [maskText, String.toList_ofList]
    exact Text.read_below_write_nat 10 Text.wordBound mask.toNat (by decide) (by decide)
      mask.bits.isLt
  rw [maskOf, read]
  simp [Mask.ofNat, Mask.toNat]

variable {cache : SharedCache} {server : CacheServer} {held next : Holdings}

theorem settle_evaluating {script : Script} {keys arguments : List String}
    (serves : cache.Serves server held)
    (does : Does cache.names (script.perform keys arguments) held next) :
    ∃ after, (evaluating script keys arguments).settle server = (.ok (), after) ∧
      cache.Serves after next := by
  obtain ⟨_, space, _, ran, depicts, rfl⟩ := does server.space serves.depicts
  refine ⟨⟨space, none⟩, ?_, ⟨rfl, depicts⟩⟩
  simp only [evaluating, Exchange.settle, CacheServer.execute, serves.refusal, Command.perform,
    ran]

theorem settle_writing (serves : cache.Serves server held) (fits : cache.seconds < Text.wordBound)
    (entries : List Entry) :
    ∃ after, (cache.writing entries).settle server = (.ok (), after) ∧
      cache.Serves after (held.writeAll cache.seconds entries) := by
  unfold writing writeAll
  by_cases none_given : entries.isEmpty = true
  · rw [if_pos none_given, if_pos none_given]
    exact ⟨server, rfl, serves⟩
  · rw [if_neg none_given, if_neg none_given]
    exact settle_evaluating serves (does_write_entries cache held entries fits)

theorem run_get (serves : cache.Serves server held) (key : EntryKey) :
    (KeyspaceScript.get (cache.names.entryKey key)).run.run server.space =
      (.ok ((held.view key).map maskText), server.space) := by
  change (MonadExcept.ofExcept (server.space.textAt (cache.names.entryKey key)) :
    KeyspaceScript (Option String)).run.run server.space = _
  rw [text_at_entry serves.depicts, view, Option.map_map]
  rfl

theorem run_get_all (serves : cache.Serves server held) (ids : List Uuid)
    (key : Uuid → EntryKey) :
    (KeyspaceScript.getAll (ids.map fun id => cache.names.entryKey (key id))).run.run
        server.space =
      (.ok (ids.map fun id => (held.view (key id)).map maskText), server.space) := by
  refine Prod.ext (congrArg Except.ok ?_) rfl
  rw [List.map_map]
  apply List.map_congr_left
  intro id _
  simp [text_at_entry serves.depicts, view, Function.comp_def]

theorem settle_get (serves : cache.Serves server held) (user : UserId) (channel : ChannelId) :
    (cache.exchange (.get user channel)).settle server =
      (.ok (held.view ⟨user, channel⟩), server) := by
  have ran : (KeyspaceScript.get (cache.entryKey user channel)).run.run server.space =
      (.ok ((held.view ⟨user, channel⟩).map maskText), server.space) :=
    run_get serves ⟨user, channel⟩
  simp only [exchange, Exchange.settle, CacheServer.execute, serves.refusal, Command.perform, ran]
  rw [← serves.refusal]
  cases held.view ⟨user, channel⟩ with
  | none => rfl
  | some mask => simp [decodeOne, mask_of_mask_text, Except.map]

theorem decode_many_of_masks (found : Uuid → Option Mask) (ids : List Uuid) :
    decodeMany ids (ids.map fun id => (found id).map maskText) = .ok (gather found ids) := by
  induction ids with
  | nil => rfl
  | cons id rest ih =>
      rw [List.map_cons, gather, List.foldr_cons]
      cases hit : found id with
      | none =>
          rw [Option.map_none, decodeMany]
          exact ih
      | some mask =>
          rw [Option.map_some, decodeMany]
          simp only [mask_of_mask_text, ih, Except.map]
          rfl

theorem settle_reading (serves : cache.Serves server held) (ids : List Uuid)
    (key : Uuid → EntryKey) :
    (reading ids fun id => cache.names.entryKey (key id)).settle server =
      (.ok (gather (fun id => held.view (key id)) ids), server) := by
  unfold reading
  by_cases none_asked : ids.isEmpty = true
  · rw [if_pos none_asked, List.isEmpty_iff.mp none_asked]
    rfl
  · rw [if_neg none_asked]
    have ran := run_get_all serves ids key
    simp only [Exchange.settle, CacheServer.execute, serves.refusal, Command.perform, ran,
      decode_many_of_masks]
    rw [← serves.refusal]

theorem settle_in_order (serves : cache.Serves server held)
    (fits : cache.seconds < Text.wordBound) (order : List Entry) (query : CacheQuery) :
    ∃ after, (cache.exchangeInOrder order query).settle server =
        (.ok (query.answerFrom held.view), after) ∧
      cache.Serves after (held.after cache.seconds order query) := by
  cases query with
  | get user channel => exact ⟨server, settle_get serves user channel, serves⟩
  | set user channel mask => exact settle_writing serves fits order
  | getMany user channels =>
      exact ⟨server, settle_reading serves channels fun channel => ⟨user, channel⟩, serves⟩
  | setMany user masks => exact settle_writing serves fits order
  | getManyUsers channel users =>
      exact ⟨server, settle_reading serves users fun user => ⟨user, channel⟩, serves⟩
  | setManyUsers channel masks => exact settle_writing serves fits order
  | deleteByUser user => exact settle_evaluating serves (does_drop_user cache held user)
  | deleteByChannel channel =>
      exact settle_evaluating serves (does_drop_channel cache held channel)
  | deleteExact user channel =>
      exact settle_evaluating serves (does_drop_entry cache held ⟨user, channel⟩)
  | deleteAll => exact settle_evaluating serves (does_drop_all cache held)

theorem reply_serves (serves : cache.Serves server held) (fits : cache.seconds < Text.wordBound)
    (query : CacheQuery) :
    ∃ after, cache.reply query server = (.ok (query.answerFrom held.view), after) ∧
      cache.Serves after (held.after cache.seconds query.entries query) := by
  rw [reply_eq_settle]
  exact settle_in_order serves fits query.entries query

end SharedCache

end ChannelAccess
