import ChannelAccess.Proofs.Cache.Confinement
import ChannelAccess.Proofs.Cache.Working

/-!
# Caches in any state

What replies tell of a cache of which nothing is known. Its server may refuse commands,
and its keys may hold texts that are no masks, and sets where texts should be. A reply
with masks shows what reads of single entries find. A write that succeeds leaves its
masks to be found for a whole lifetime, whatever was there before.
-/

namespace ChannelAccess

set_option autoImplicit false

open Keyspace

namespace CacheQuery

def shows : (query : CacheQuery) → query.Answer → CacheView
  | .get user channel, found, key => if key = ⟨user, channel⟩ then found else none
  | .getMany user _, hits, key => if key.user = user then hits[key.channel]? else none
  | .getManyUsers channel _, hits, key => if key.channel = channel then hits[key.user]? else none
  | _, _, _ => none

theorem shows_answer_from (query : CacheQuery) (view : CacheView) :
    (query.shows (query.answerFrom view)).Within view := by
  intro key mask shown
  cases query with
  | get user channel =>
      obtain ⟨rfl, found⟩ := Option.ite_none_right_eq_some.mp shown
      exact found
  | getMany user channels =>
      obtain ⟨rfl, found⟩ := Option.ite_none_right_eq_some.mp shown
      rw [answerFrom, get_gather] at found
      exact (Option.ite_none_right_eq_some.mp found).2
  | getManyUsers channel users =>
      obtain ⟨rfl, found⟩ := Option.ite_none_right_eq_some.mp shown
      rw [answerFrom, get_gather] at found
      exact (Option.ite_none_right_eq_some.mp found).2
  | _ => simp [shows] at shown

theorem only_of_written {query : CacheQuery} {key : EntryKey} {mask : Mask}
    (written : query.written key = some mask) (other : Mask)
    (present : ⟨key.user, key.channel, other⟩ ∈ query.entries) : other = mask := by
  rw [← query.written_eq_some_iff, written] at present
  exact (Option.some.inj present).symm

end CacheQuery

section Scripts

variable {α β : Type} {space after : Keyspace}

theorem ok_of_bind {first : KeyspaceScript α} {rest : α → KeyspaceScript β} {answer : β}
    (ran : (first >>= rest).run.run space = (.ok answer, after)) :
    ∃ middle between, first.run.run space = (.ok middle, between) ∧
      (rest middle).run.run between = (.ok answer, after) := by
  cases start : first.run.run space with
  | mk outcome between =>
      cases outcome with
      | error reason =>
          rw [run_script_bind_error first rest space between reason start] at ran
          cases ran
      | ok middle =>
          rw [run_script_bind first rest space between middle start] at ran
          exact ⟨middle, between, rfl, ran⟩

/-- A text was put under a key just now, for a number of seconds. -/
def Keyspace.JustPut (key value : String) (seconds : Nat) (space : Keyspace) : Prop :=
  space.slots[key]? = some ⟨.text value, some (space.clock + seconds * second)⟩

variable {key value : String} {seconds : Nat}

theorem just_put_set {answer : Unit}
    (ran : (KeyspaceScript.set key value seconds).run.run space = (.ok answer, after)) :
    after.JustPut key value seconds := by
  obtain rfl := (Prod.mk.inj ran).2
  rw [JustPut, Holdings.get_put, Holdings.clock_put, if_pos rfl]
  rfl

theorem just_put_of_besides {script : KeyspaceScript α} {outcome : Except String α}
    (stays : Stays (.besides key) script) (ran : script.run.run space = (outcome, after))
    (put : space.JustPut key value seconds) : after.JustPut key value seconds := by
  have tidy : space.Tidy (.besides key) := by
    rintro _ _ ⟨content, _⟩ _
    cases content with
    | text _ => trivial
    | members scores => exact fun _ _ => trivial
  obtain ⟨_, final, _, ranHere, _, _, _, spared, _⟩ := stays space space (alike_refl space) tidy
  obtain rfl : final = after := (Prod.mk.inj (ranHere.symm.trans ran)).2
  rw [JustPut, spared.clock, spared.slots key fun other => other rfl]
  exact put

end Scripts

namespace SharedCache

variable {cache : SharedCache} {key : EntryKey} {mask : Mask}

theorem mem_of_other {entry : Entry} {rest : List Entry} (other : key ≠ ⟨entry.user, entry.channel⟩)
    (member : ⟨key.user, key.channel, mask⟩ ∈ entry :: rest) :
    ⟨key.user, key.channel, mask⟩ ∈ rest := by
  refine (List.mem_cons.mp member).resolve_left fun here => ?_
  exact other (EntryKey.ext (congrArg Entry.user here) (congrArg Entry.channel here))

theorem outside_index (names : KeyNames) (key : EntryKey) (name : IndexName) :
    (Realm.besides (names.entryKey key)).owns (names.indexKey name) :=
  KeyNames.index_key_ne_entry_key name key

/-- The entry's own key is written first; what follows for this entry touches indexes only. -/
theorem just_put_entry (key : EntryKey) (mask : Mask) {entry : Entry} {now seconds : Nat}
    {space after : Keyspace} {rest : KeyspaceScript Unit}
    (ran : (do
      KeyspaceScript.set (cache.names.entryKey ⟨entry.user, entry.channel⟩) (maskText entry.mask)
        seconds
      Script.touchIndex (cache.names.indexKey (.ofUser entry.user)) entry.channel.text now seconds
      Script.touchIndex (cache.names.indexKey (.ofChannel entry.channel)) entry.user.text now
        seconds
      KeyspaceScript.addMember (cache.names.indexKey .users) entry.user.text (now + seconds + 1)
      rest : KeyspaceScript Unit).run.run space = (.ok (), after)) :
    ∃ between, rest.run.run between = (.ok (), after) ∧
      (key = ⟨entry.user, entry.channel⟩ ∧ mask = entry.mask ∨
          key ≠ ⟨entry.user, entry.channel⟩ ∧
            space.JustPut (cache.names.entryKey key) (maskText mask) seconds →
        between.JustPut (cache.names.entryKey key) (maskText mask) seconds) := by
  have outside := outside_index cache.names key
  obtain ⟨_, first, ranSet, ran⟩ := ok_of_bind ran
  obtain ⟨_, second, ranUser, ran⟩ := ok_of_bind ran
  obtain ⟨_, third, ranChannel, ran⟩ := ok_of_bind ran
  obtain ⟨_, fourth, ranUsers, ran⟩ := ok_of_bind ran
  refine ⟨fourth, ran, fun put => ?_⟩
  have putFirst : first.JustPut (cache.names.entryKey key) (maskText mask) seconds := by
    rcases put with ⟨rfl, rfl⟩ | ⟨other, before⟩
    · exact just_put_set ranSet
    · have elsewhere : (Realm.besides (cache.names.entryKey key)).owns
          (cache.names.entryKey ⟨entry.user, entry.channel⟩) :=
        fun equal => other (KeyNames.entry_key_injective equal).symm
      exact just_put_of_besides (stays_set elsewhere _ _) ranSet before
  have putSecond := just_put_of_besides (stays_touch_index (outside _) trivial _ _) ranUser putFirst
  have putThird :=
    just_put_of_besides (stays_touch_index (outside _) trivial _ _) ranChannel putSecond
  exact just_put_of_besides (stays_add_member (outside _) trivial _) ranUsers putThird

theorem just_put_write_each {entries : List Entry} {now seconds : Nat} {space after : Keyspace}
    (only : ∀ other, ⟨key.user, key.channel, other⟩ ∈ entries → other = mask)
    (ran : (Script.writeEach cache.names.users now seconds (entries.flatMap cache.entryKeys)
      (entries.flatMap entryArguments)).run.run space = (.ok (), after))
    (put : ⟨key.user, key.channel, mask⟩ ∈ entries ∨
      space.JustPut (cache.names.entryKey key) (maskText mask) seconds) :
    after.JustPut (cache.names.entryKey key) (maskText mask) seconds := by
  induction entries generalizing space with
  | nil =>
      obtain rfl := (Prod.mk.inj ran).2
      simpa using put
  | cons entry rest ih =>
      have onlyRest : ∀ other, ⟨key.user, key.channel, other⟩ ∈ rest → other = mask :=
        fun other member => only other (List.mem_cons_of_mem entry member)
      obtain ⟨between, ranRest, puts⟩ := just_put_entry key mask ran
      apply ih onlyRest ranRest
      by_cases same : key = ⟨entry.user, entry.channel⟩
      · subst same
        exact .inr (puts (.inl ⟨rfl, (only entry.mask List.mem_cons_self).symm⟩))
      · rcases put with member | before
        · exact .inl (mem_of_other same member)
        · exact .inr (puts (.inr ⟨same, before⟩))

theorem ok_of_settle {α : Type} {command : Command} {decode : command.Answer → Except CacheError α}
    {server after : CacheServer} {answer : α}
    (settled : (Exchange.asking command decode).settle server = (.ok answer, after)) :
    ∃ given space, server.refusal = none ∧
      command.perform.run.run server.space = (.ok given, space) ∧ decode given = .ok answer ∧
        after = ⟨space, none⟩ := by
  cases refused : server.refusal with
  | some reply => simp [Exchange.settle, CacheServer.execute, refused] at settled
  | none =>
      cases ran : command.perform.run.run server.space with
      | mk outcome space =>
          simp only [Exchange.settle, CacheServer.execute, refused, ran] at settled
          cases outcome with
          | error reason => simp at settled
          | ok given =>
              obtain ⟨decoded, rfl⟩ := Prod.mk.inj settled
              exact ⟨given, space, rfl, rfl, decoded, rfl⟩

theorem just_put_writing {entries : List Entry} {server after : CacheServer}
    (present : ⟨key.user, key.channel, mask⟩ ∈ entries)
    (only : ∀ other, ⟨key.user, key.channel, other⟩ ∈ entries → other = mask)
    (settled : (cache.writing entries).settle server = (.ok (), after)) :
    after.refusal = none ∧
      after.space.JustPut (cache.names.entryKey key) (maskText mask) cache.seconds := by
  have some_given : ¬entries.isEmpty = true := by
    intro nothing
    rw [List.isEmpty_iff.mp nothing] at present
    simp at present
  unfold writing at settled
  rw [if_neg some_given] at settled
  obtain ⟨_, space, _, ran, _, rfl⟩ := ok_of_settle settled
  refine ⟨rfl, ?_⟩
  simp only [Command.perform, Script.perform] at ran
  split at ran
  · have refused := (Prod.mk.inj ran).1
    contradiction
  case h_2 seconds read =>
    rw [String.toList_ofList] at read
    obtain rfl := Text.eq_of_read_below_write_nat 10 _ _ _ (by decide) (by decide) read
    obtain ⟨now, first, ranTime, ran⟩ := ok_of_bind ran
    obtain ⟨_, second, ranEach, ran⟩ := ok_of_bind ran
    obtain ⟨_, third, ranPrune, ran⟩ := ok_of_bind ran
    have users := outside_index cache.names key .users
    have put := just_put_write_each only ranEach (.inl present)
    exact just_put_of_besides (stays_expire users _) ran
      (just_put_of_besides (stays_remove_up_to users _) ranPrune put)

theorem reply_get_fst (cache : SharedCache) (user : UserId) (channel : ChannelId)
    (server : CacheServer) :
    (cache.reply (.get user channel) server).1 =
      match server.refusal with
      | some reason => .error (.refused reason)
      | none =>
          match server.space.textAt (cache.names.entryKey ⟨user, channel⟩) with
          | .error reason => .error (.refused reason)
          | .ok found => decodeOne found := by
  have ran : (KeyspaceScript.get (cache.entryKey user channel)).run.run server.space =
      (server.space.textAt (cache.names.entryKey ⟨user, channel⟩), server.space) :=
    run_look (fun space => space.textAt (cache.names.entryKey ⟨user, channel⟩)) server.space
  simp only [reply, exchange, CacheServer.execute, Command.perform, ran]
  cases server.refusal with
  | some reason => rfl
  | none => cases server.space.textAt _ <;> rfl

theorem reply_get_of_just_put {server : CacheServer} {micros : Nat}
    (refusal : server.refusal = none)
    (put : server.space.JustPut (cache.names.entryKey key) (maskText mask) cache.seconds)
    (soon : micros < cache.seconds * second) :
    (cache.reply (.get key.user key.channel) (server.advance micros)).1 = .ok (some mask) := by
  have living : lives (server.space.clock + micros)
      ⟨.text (maskText mask), some (server.space.clock + cache.seconds * second)⟩ = true :=
    decide_eq_true (by omega)
  have stillThere : (server.space.advance micros).slots[cache.names.entryKey key]? =
      some ⟨.text (maskText mask), some (server.space.clock + cache.seconds * second)⟩ := by
    rw [advance, Std.ExtTreeMap.getElem?_filter', put, Option.filter_some, if_pos living]
  have text : (server.space.advance micros).textAt (cache.names.entryKey key) =
      .ok (some (maskText mask)) := by
    rw [textAt, stillThere]
  rw [reply_get_fst]
  simp only [CacheServer.advance, refusal, text, decodeOne, mask_of_mask_text]
  rfl

theorem just_put_reply {query : CacheQuery} {server : CacheServer} {answer : query.Answer}
    (written : query.written key = some mask)
    (succeeds : (cache.reply query server).1 = .ok answer) :
    (cache.reply query server).2.refusal = none ∧
      (cache.reply query server).2.space.JustPut (cache.names.entryKey key) (maskText mask)
        cache.seconds := by
  have present := (query.written_eq_some_iff key mask).mp written
  have only := query.only_of_written written
  rw [reply_eq_settle] at succeeds ⊢
  cases query with
  | set user channel given => exact just_put_writing present only (Prod.ext succeeds rfl)
  | setMany user masks => exact just_put_writing present only (Prod.ext succeeds rfl)
  | setManyUsers channel masks => exact just_put_writing present only (Prod.ext succeeds rfl)
  | _ => simp [CacheQuery.written] at written

theorem text_of_decoded {look : Uuid → Option String} {ids : List Uuid} {hits : IdMap Mask}
    (decoded : decodeMany ids (ids.map look) = .ok hits) {id : Uuid} {mask : Mask}
    (hit : hits[id]? = some mask) : ∃ raw, look id = some raw ∧ maskOf raw = .ok mask := by
  induction ids generalizing hits with
  | nil =>
      obtain rfl := Except.ok.inj decoded
      simp at hit
  | cons first rest ih =>
      rw [List.map_cons] at decoded
      cases text : look first with
      | none =>
          rw [text, decodeMany] at decoded
          exact ih decoded hit
      | some raw =>
          rw [text, decodeMany] at decoded
          cases value : maskOf raw with
          | error problem => simp [value] at decoded
          | ok given =>
              simp only [value] at decoded
              cases decodedRest : decodeMany rest (rest.map look) with
              | error problem => simp [decodedRest, Except.map] at decoded
              | ok others =>
                  rw [decodedRest] at decoded
                  obtain rfl := Except.ok.inj decoded
                  rw [Std.ExtTreeMap.getElem?_insert] at hit
                  split at hit
                  case isTrue same =>
                    obtain rfl := Std.compare_eq_iff_eq.mp same
                    obtain rfl := Option.some.inj hit
                    exact ⟨raw, text, value⟩
                  case isFalse => exact ih decodedRest hit

theorem view_of_reading {ids : List Uuid} {key : Uuid → EntryKey} {server : CacheServer}
    {hits : IdMap Mask}
    (settled : ((reading ids fun id => cache.names.entryKey (key id)).settle server).1 = .ok hits)
    {id : Uuid} {mask : Mask} (hit : hits[id]? = some mask) :
    (CacheState.shared cache server).view (key id) = some mask := by
  unfold reading at settled
  split at settled
  case isTrue =>
    obtain rfl := Except.ok.inj settled
    simp at hit
  case isFalse =>
    obtain ⟨texts, space, refusal, ran, decoded, _⟩ := ok_of_settle (Prod.ext settled rfl)
    obtain rfl := Except.ok.inj (Prod.mk.inj ran).1
    rw [List.map_map] at decoded
    obtain ⟨raw, text, value⟩ := text_of_decoded decoded hit
    have found : server.space.textAt (cache.names.entryKey (key id)) = .ok (some raw) := by
      simp only [Function.comp_apply] at text
      split at text
      case h_1 there => rw [there, text]
      case h_2 => contradiction
    simp [CacheState.view, reply_get_fst, refusal, found, decodeOne, value, Except.map]

theorem shows_within_view {query : CacheQuery} {server : CacheServer} {answer : query.Answer}
    (replied : (cache.reply query server).1 = .ok answer) :
    (query.shows answer).Within (CacheState.shared cache server).view := by
  intro key mask shown
  cases query with
  | get user channel =>
      obtain ⟨rfl, found⟩ := Option.ite_none_right_eq_some.mp shown
      simp only [CacheState.view, replied]
      exact found
  | getMany user channels =>
      obtain ⟨rfl, found⟩ := Option.ite_none_right_eq_some.mp shown
      rw [reply_eq_settle] at replied
      exact @view_of_reading cache channels (fun channel => ⟨key.user, channel⟩) server answer
        replied key.channel mask found
  | getManyUsers channel users =>
      obtain ⟨rfl, found⟩ := Option.ite_none_right_eq_some.mp shown
      rw [reply_eq_settle] at replied
      exact @view_of_reading cache users (fun user => ⟨user, key.channel⟩) server answer replied
        key.user mask found
  | _ => simp [CacheQuery.shows] at shown

end SharedCache

namespace InProcessCache

variable {cache : InProcessCache} {key : EntryKey} {mask : Mask}

def JustWritten (cache : InProcessCache) (key : EntryKey) (mask : Mask) : Prop :=
  cache.entries[key]? = some ⟨mask, cache.clock + cache.lifetime⟩

theorem just_written_write (lives : 0 < cache.lifetime) {other : EntryKey} {given : Mask}
    (written : key = other ∧ mask = given ∨ key ≠ other ∧ cache.JustWritten key mask) :
    (cache.write other given).JustWritten key mask := by
  have stored : (cache.entries.insert other ⟨given, cache.clock + cache.lifetime⟩)[key]? =
      some ⟨mask, cache.clock + cache.lifetime⟩ := by
    rw [Std.ExtTreeMap.getElem?_insert]
    rcases written with ⟨rfl, rfl⟩ | ⟨elsewhere, before⟩
    · simp
    · rw [if_neg fun same => elsewhere (Std.compare_eq_iff_eq.mp same).symm]
      exact before
  have living : cache.clock < cache.clock + cache.lifetime := by omega
  unfold write
  dsimp only
  split
  · simp only [JustWritten, sweep, Std.ExtTreeMap.getElem?_filter', stored, Option.filter_some]
    exact if_pos (decide_eq_true living)
  · exact stored

theorem just_written_write_each {entries : List SharedCache.Entry} {cache : InProcessCache}
    (lives : 0 < cache.lifetime)
    (only : ∀ other, ⟨key.user, key.channel, other⟩ ∈ entries → other = mask)
    (written : ⟨key.user, key.channel, mask⟩ ∈ entries ∨ cache.JustWritten key mask) :
    (cache.writeEach entries).JustWritten key mask := by
  induction entries generalizing cache with
  | nil =>
      rcases written with member | before
      · simp at member
      · exact before
  | cons entry rest ih =>
      have onlyRest : ∀ other, ⟨key.user, key.channel, other⟩ ∈ rest → other = mask :=
        fun other member => only other (List.mem_cons_of_mem entry member)
      have livesAfter : 0 < (cache.write ⟨entry.user, entry.channel⟩ entry.mask).lifetime := by
        rwa [lifetime_write]
      apply ih livesAfter onlyRest
      by_cases same : key = ⟨entry.user, entry.channel⟩
      · subst same
        have given := (only entry.mask List.mem_cons_self).symm
        exact .inr (just_written_write lives (.inl ⟨rfl, given⟩))
      · rcases written with member | before
        · exact .inl (SharedCache.mem_of_other same member)
        · exact .inr (just_written_write lives (.inr ⟨same, before⟩))

theorem just_written_reply {query : CacheQuery} (lives : 0 < (cache.reply query).2.lifetime)
    (written : query.written key = some mask) : (cache.reply query).2.JustWritten key mask := by
  have present := (query.written_eq_some_iff key mask).mp written
  have only := query.only_of_written written
  rw [← reply_in_order_entries] at lives ⊢
  have livesBefore : 0 < cache.lifetime := by
    rwa [(steady_reply_in_order query.entries query).lifetime] at lives
  cases query with
  | set user channel given => exact just_written_write_each livesBefore only (.inl present)
  | setMany user masks => exact just_written_write_each livesBefore only (.inl present)
  | setManyUsers channel masks => exact just_written_write_each livesBefore only (.inl present)
  | _ => simp [CacheQuery.written] at written

theorem reply_get_of_just_written {micros : Nat} (written : cache.JustWritten key mask)
    (soon : micros < cache.lifetime) :
    ((cache.advance micros).reply (.get key.user key.channel)).1 = .ok (some mask) := by
  have living : (cache.advance micros).alive ⟨mask, cache.clock + cache.lifetime⟩ = true :=
    decide_eq_true (by simp only [advance]; omega)
  have stored : (cache.advance micros).entries[key]? =
      some ⟨mask, cache.clock + cache.lifetime⟩ := written
  rw [← reply_in_order_entries, reply_in_order_fst]
  exact congrArg Except.ok (view_of_alive stored living)

end InProcessCache

namespace CacheState

def lifetime : CacheState → Nat
  | .inProcess cache => cache.lifetime
  | .shared cache _ => cache.seconds * second

/-- A mask is found under a key, now and for as long as an entry lives that is written now. -/
def Holds (state : CacheState) (key : EntryKey) (mask : Mask) : Prop :=
  ∀ micros, micros < state.lifetime →
    ((state.advance micros).reply (.get key.user key.channel)).1 = .ok (some mask)

variable {state : CacheState} {query : CacheQuery} {key : EntryKey}

/-- Whatever was under a key before, a write that succeeds leaves its mask there. -/
theorem holds_of_written {answer : query.Answer} {mask : Mask}
    (written : query.written key = some mask) (succeeds : (state.reply query).1 = .ok answer) :
    (state.reply query).2.Holds key mask := by
  intro micros soon
  cases state with
  | inProcess cache =>
      have lives : 0 < (cache.reply query).2.lifetime := Nat.lt_of_le_of_lt micros.zero_le soon
      exact InProcessCache.reply_get_of_just_written
        (InProcessCache.just_written_reply lives written) soon
  | shared cache server =>
      obtain ⟨refusal, put⟩ := SharedCache.just_put_reply written succeeds
      exact SharedCache.reply_get_of_just_put refusal put soon

theorem shows_within_view {answer : query.Answer} (replied : (state.reply query).1 = .ok answer) :
    (query.shows answer).Within state.view := by
  cases state with
  | inProcess cache =>
      have answered : answer = query.answerFrom cache.view :=
        (Except.ok.inj ((reply_in_process cache query).1.symm.trans replied)).symm
      rw [answered]
      exact query.shows_answer_from cache.view
  | shared cache server => exact SharedCache.shows_within_view replied

end CacheState

end ChannelAccess
