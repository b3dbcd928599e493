import ChannelAccess.Proofs.Cache.AnyState

/-!
# Lookups

Reads leave every entry of a cache with its content and its expiry, whatever state the
cache is in. A batched read of keys that single reads have an answer for comes to the
masks that these find, filed under their identifiers.
-/

namespace ChannelAccess

set_option autoImplicit false

open Keyspace

def CacheQuery.reads : CacheQuery → Bool
  | .get _ _ => true
  | .getMany _ _ => true
  | .getManyUsers _ _ => true
  | _ => false

namespace SharedCache

variable {cache : SharedCache} {server : CacheServer}

theorem settle_of_look {α : Type} {command : Command}
    {decode : command.Answer → Except CacheError α} {look : Keyspace → Except String command.Answer}
    (looks : ∀ space, command.perform.run.run space = (look space, space)) :
    (Exchange.asking command decode).settle server =
      (match server.refusal with
        | some reason => .error (.refused reason)
        | none =>
            match look server.space with
            | .error reason => .error (.refused reason)
            | .ok answer => decode answer, server) := by
  obtain ⟨space, refusal⟩ := server
  cases refusal with
  | some reason => rfl
  | none =>
      simp only [Exchange.settle, CacheServer.execute, looks]
      cases look space <;> rfl

theorem perform_get (key : String) (space : Keyspace) :
    (Command.get key).perform.run.run space = (space.textAt key, space) :=
  run_look (fun space => space.textAt key) space

theorem perform_get_all (keys : List String) (space : Keyspace) :
    (Command.getAll keys).perform.run.run space =
      (.ok (keys.map fun key => (space.textAt key).toOption.getD none), space) := by
  refine Prod.ext (congrArg Except.ok (List.map_congr_left fun key _ => ?_)) rfl
  cases space.textAt key <;> rfl

theorem settle_reading_snd (ids : List Uuid) (key : Uuid → String) :
    ((reading ids key).settle server).2 = server := by
  unfold reading
  split
  · rfl
  · rw [settle_of_look (perform_get_all _)]

theorem reply_of_reads {query : CacheQuery} (reads : query.reads = true) :
    (cache.reply query server).2 = server := by
  rw [reply_eq_settle]
  cases query with
  | get user channel =>
      exact congrArg Prod.snd (settle_of_look (perform_get _))
  | getMany user channels => exact settle_reading_snd channels _
  | getManyUsers channel users => exact settle_reading_snd users _
  | _ => simp [CacheQuery.reads] at reads

theorem decode_many_of_decoded {text : Uuid → Option String} {value : Uuid → Option Mask}
    {ids : List Uuid} (decodes : ∀ id ∈ ids, decodeOne (text id) = .ok (value id)) :
    decodeMany ids (ids.map text) = .ok (gather value ids) := by
  induction ids with
  | nil => rfl
  | cons id rest ih =>
      have first := decodes id List.mem_cons_self
      have others := ih fun other later => decodes other (List.mem_cons_of_mem id later)
      rw [List.map_cons, gather, List.foldr_cons]
      cases found : text id with
      | none =>
          rw [found] at first
          rw [← Except.ok.inj first, decodeMany]
          exact others
      | some raw =>
          rw [found, decodeOne] at first
          cases decoded : maskOf raw with
          | error problem => simp [decoded, Except.map] at first
          | ok mask =>
              rw [decoded] at first
              rw [← Except.ok.inj first, decodeMany]
              simp only [decoded, others, Except.map]
              rfl

theorem settle_reading_of_gets {ids : List Uuid} {key : Uuid → EntryKey}
    {value : Uuid → Option Mask}
    (gets : ∀ id ∈ ids,
      (cache.reply (.get (key id).user (key id).channel) server).1 = .ok (value id)) :
    ((reading ids fun id => cache.names.entryKey (key id)).settle server).1 =
      .ok (gather value ids) := by
  unfold reading
  split
  case isTrue nothing =>
    rw [List.isEmpty_iff.mp nothing]
    rfl
  case isFalse given =>
    rw [settle_of_look (perform_get_all _)]
    simp only [reply_get_fst] at gets
    cases refused : server.refusal with
    | some reason =>
        obtain ⟨id, member⟩ := List.exists_mem_of_ne_nil ids fun nothing =>
          given (List.isEmpty_iff.mpr nothing)
        have impossible := gets id member
        simp [refused] at impossible
    | none =>
        dsimp only
        rw [List.map_map]
        apply decode_many_of_decoded
        intro id member
        have found := gets id member
        simp only [refused] at found
        rw [Function.comp_apply]
        cases text : server.space.textAt (cache.names.entryKey (key id)) with
        | error reason => simp [text] at found
        | ok given => simpa [text, Except.toOption] using found

end SharedCache

namespace CacheState

variable {state : CacheState} {key : EntryKey}

/-- The entry under a key that is not over, with the time when it will be. -/
def live? : CacheState → EntryKey → Option Slot
  | .inProcess cache, key => (cache.entries[key]?.filter cache.alive).map Holdings.entrySlot
  | .shared cache server, key => server.space.slots[cache.names.entryKey key]?

theorem live_of_erased {cache : InProcessCache} {entry : TimedMask}
    (stored : cache.entries[key]? = some entry) (ended : ¬cache.alive entry = true) :
    (CacheState.inProcess { cache with entries := cache.entries.erase key }).live? =
      (CacheState.inProcess cache).live? := by
  funext other
  by_cases same : key = other
  · subst same
    simp [live?, stored, Option.filter_some, ended]
  · simp only [live?, Std.ExtTreeMap.getElem?_erase, Std.compare_eq_iff_eq, if_neg same]
    rfl

theorem live_read (cache : InProcessCache) (key : EntryKey) :
    (CacheState.inProcess (cache.read key).2).live? = (CacheState.inProcess cache).live? := by
  unfold InProcessCache.read
  split
  · rfl
  case h_2 entry stored =>
    split
    · rfl
    case isFalse ended => exact live_of_erased stored ended

theorem live_read_all (key : Uuid → EntryKey) (ids : List Uuid) (cache : InProcessCache) :
    (CacheState.inProcess (InProcessCache.readAll key ids cache).2).live? =
      (CacheState.inProcess cache).live? := by
  induction ids generalizing cache with
  | nil => rfl
  | cons id rest ih =>
      have same := (ih (cache.read (key id)).2).trans (live_read cache (key id))
      unfold InProcessCache.readAll
      dsimp only
      split <;> exact same

/-- Reads take nothing away but what is over. -/
theorem live_reply_of_reads (state : CacheState) {query : CacheQuery}
    (reads : query.reads = true) : (state.reply query).2.live? = state.live? := by
  cases state with
  | inProcess cache =>
      cases query with
      | get user channel => exact live_read cache ⟨user, channel⟩
      | getMany user channels => exact live_read_all _ channels cache
      | getManyUsers channel users => exact live_read_all _ users cache
      | _ => simp [CacheQuery.reads] at reads
  | shared cache server =>
      have unchanged : ((CacheState.shared cache server).reply query).2 =
          .shared cache (cache.reply query server).2 := rfl
      rw [unchanged, SharedCache.reply_of_reads reads]

theorem reply_get_of_cached (cached : state.view key ≠ none) :
    (state.reply (.get key.user key.channel)).1 = .ok (state.view key) := by
  cases state with
  | inProcess cache => exact (reply_in_process cache _).1
  | shared cache server =>
      change (cache.reply (.get key.user key.channel) server).1 = _
      cases replied : (cache.reply (.get key.user key.channel) server).1 with
      | ok given => simp only [view, replied]
      | error problem => simp [view, replied] at cached

theorem reply_get_many_of_gets {user : UserId} {channels : List ChannelId}
    {value : Uuid → Option Mask}
    (gets : ∀ channel ∈ channels, (state.reply (.get user channel)).1 = .ok (value channel)) :
    (state.reply (.getMany user channels)).1 = .ok (gather value channels) := by
  cases state with
  | inProcess cache =>
      rw [(reply_in_process cache _).1]
      refine congrArg Except.ok (gather_congr fun channel member => ?_)
      exact Except.ok.inj ((reply_in_process cache _).1.symm.trans (gets channel member))
  | shared cache server =>
      change (cache.reply (.getMany user channels) server).1 = _
      rw [SharedCache.reply_eq_settle]
      exact @SharedCache.settle_reading_of_gets cache server channels
        (fun channel => ⟨user, channel⟩) value gets

theorem reply_get_many_users_of_gets {channel : ChannelId} {users : List UserId}
    {value : Uuid → Option Mask}
    (gets : ∀ user ∈ users, (state.reply (.get user channel)).1 = .ok (value user)) :
    (state.reply (.getManyUsers channel users)).1 = .ok (gather value users) := by
  cases state with
  | inProcess cache =>
      rw [(reply_in_process cache _).1]
      refine congrArg Except.ok (gather_congr fun user member => ?_)
      exact Except.ok.inj ((reply_in_process cache _).1.symm.trans (gets user member))
  | shared cache server =>
      change (cache.reply (.getManyUsers channel users) server).1 = _
      rw [SharedCache.reply_eq_settle]
      exact @SharedCache.settle_reading_of_gets cache server users
        (fun user => ⟨user, channel⟩) value gets

end CacheState

end ChannelAccess
