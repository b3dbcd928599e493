import ChannelAccess.Connection
import ChannelAccess.Proofs.Cache.InProcessReply
import ChannelAccess.Proofs.Cache.SharedRun

/-!
# Caches that work

What users of a cache may rely on, whichever of the two it is: a query is answered
from what is found, and afterwards nothing is found but what the query wrote and what
was found before and not dropped. A cache may always find less, since entries end on
their own.
-/

namespace ChannelAccess

set_option autoImplicit false

namespace CacheState

def view : CacheState → CacheView
  | .inProcess cache => cache.view
  | .shared cache server => fun key =>
      match (cache.reply (.get key.user key.channel) server).1 with
      | .ok found => found
      | .error _ => none

def advance (micros : Nat) : CacheState → CacheState
  | .inProcess cache => .inProcess (cache.advance micros)
  | .shared cache server => .shared cache (server.advance micros)

def replyAll (state : CacheState) (queries : List CacheQuery) : CacheState :=
  queries.foldl (fun state query => (state.reply query).2) state

/-- A cache in the process works. One on a server does if the server answers commands and the keys
of its scope are as its instances leave them. -/
def Working : CacheState → Prop
  | .inProcess _ => True
  | .shared cache server =>
      cache.seconds < Text.wordBound ∧
        ∃ held, cache.Serves server held ∧ held.Covered cache.seconds

/-- A cache whose queries are answered. One in the process always is; one on a server is if the
server answers commands and its keys are those of some entries and indexes, however they came
there. -/
def Answering : CacheState → Prop
  | .inProcess _ => True
  | .shared cache server => cache.seconds < Text.wordBound ∧ ∃ held, cache.Serves server held

/-- A cache without entries: one in the process as it is made, or one on a server that answers
commands and has no keys of its scope. -/
def Unused : CacheState → Prop
  | .inProcess cache => ∃ seconds, cache = .fresh seconds
  | .shared cache server => cache.seconds < Text.wordBound ∧ server.Untouched cache.names

theorem view_shared {cache : SharedCache} {server : CacheServer} {held : Holdings}
    (serves : cache.Serves server held) : (CacheState.shared cache server).view = held.view := by
  funext key
  simp only [view, SharedCache.reply_get serves]

theorem working_of_unused {state : CacheState} (unused : state.Unused) :
    state.Working ∧ state.view = fun _ => none := by
  cases state with
  | inProcess cache =>
      obtain ⟨seconds, rfl⟩ := unused
      refine ⟨trivial, ?_⟩
      funext key
      simp [view, InProcessCache.view, InProcessCache.fresh]
  | shared cache server =>
      obtain ⟨fits, untouched⟩ := unused
      have serves := SharedCache.serves_untouched untouched
      exact ⟨⟨fits, _, serves, Holdings.covered_blank _⟩, view_shared serves⟩

theorem answering_of_working {state : CacheState} (working : state.Working) : state.Answering := by
  cases state with
  | inProcess cache => trivial
  | shared cache server =>
      obtain ⟨fits, held, serves, _⟩ := working
      exact ⟨fits, held, serves⟩

theorem reply_in_process (cache : InProcessCache) (query : CacheQuery) :
    ((inProcess cache).reply query).1 = .ok (query.answerFrom cache.view) ∧
      ((inProcess cache).reply query).2.Working ∧
        ((inProcess cache).reply query).2.view.Within (query.effectOn cache.view) := by
  rw [reply, ← InProcessCache.reply_in_order_entries]
  exact ⟨InProcessCache.reply_in_order_fst cache _ query, trivial,
    (InProcessCache.view_reply_in_order (.refl _)).1⟩

theorem reply_shared {cache : SharedCache} {server : CacheServer} {held : Holdings}
    (serves : cache.Serves server held) (fits : cache.seconds < Text.wordBound)
    (query : CacheQuery) :
    ∃ after, (shared cache server).reply query =
        (.ok (query.answerFrom held.view), shared cache after) ∧
      cache.Serves after (held.after cache.seconds query.entries query) := by
  obtain ⟨after, replied, servesAfter⟩ := SharedCache.reply_serves serves fits query
  exact ⟨after, by rw [reply, replied], servesAfter⟩

/-- A cache that answers does so from what is found, and after a query that drops nothing it goes on
to answer and finds nothing but what the query makes of that. -/
theorem reply_answering {state : CacheState} (answering : state.Answering) {query : CacheQuery}
    (keeps : query.dropped = none) :
    (state.reply query).1 = .ok (query.answerFrom state.view) ∧
      (state.reply query).2.Answering ∧
        (state.reply query).2.view.Within (query.effectOn state.view) := by
  cases state with
  | inProcess cache =>
      obtain ⟨replies, works, within⟩ := reply_in_process cache query
      exact ⟨replies, answering_of_working works, within⟩
  | shared cache server =>
      obtain ⟨fits, held, serves⟩ := answering
      obtain ⟨after, replied, servesAfter⟩ := reply_shared serves fits query
      rw [replied, view_shared serves]
      refine ⟨rfl, ⟨fits, _, servesAfter⟩, ?_⟩
      rw [view_shared servesAfter, Holdings.view_after_keeping keeps (.refl _)]
      exact CacheView.within_refl _

theorem reply_working {state : CacheState} (working : state.Working) (query : CacheQuery) :
    (state.reply query).1 = .ok (query.answerFrom state.view) ∧
      (state.reply query).2.Working ∧
        (state.reply query).2.view.Within (query.effectOn state.view) := by
  cases state with
  | inProcess cache => exact reply_in_process cache query
  | shared cache server =>
      obtain ⟨fits, held, serves, covered⟩ := working
      obtain ⟨after, replied, servesAfter⟩ := reply_shared serves fits query
      rw [replied, view_shared serves]
      refine ⟨rfl, ⟨fits, _, servesAfter, Holdings.covered_after cache.seconds_pos covered⟩, ?_⟩
      rw [view_shared servesAfter, Holdings.view_after covered (.refl _)]
      exact CacheView.within_refl _

theorem reply_all_working {state : CacheState} (working : state.Working)
    (queries : List CacheQuery) : (state.replyAll queries).Working := by
  induction queries generalizing state with
  | nil => exact working
  | cons query rest ih => exact ih (reply_working working query).2.1

theorem advance_working {state : CacheState} (working : state.Working) (micros : Nat) :
    (state.advance micros).Working ∧ (state.advance micros).view.Within state.view := by
  cases state with
  | inProcess cache =>
      refine ⟨trivial, ?_⟩
      intro key mask found
      obtain ⟨entry, left, same⟩ := Option.map_eq_some_iff.mp found
      obtain ⟨stored, later⟩ := Option.filter_eq_some_iff.mp left
      have living : cache.alive entry = true := by
        have alive : cache.clock + micros < entry.expiry := of_decide_eq_true later
        exact decide_eq_true (by omega)
      have before : cache.entries[key]? = some entry := stored
      exact (InProcessCache.view_of_alive before living).trans (congrArg some same)
  | shared cache server =>
      obtain ⟨fits, held, serves, covered⟩ := working
      have servesAfter := SharedCache.serves_advance serves micros
      refine ⟨⟨fits, _, servesAfter, Holdings.covered_advance covered micros⟩, ?_⟩
      have later : (CacheState.shared cache server).advance micros =
          .shared cache (server.advance micros) := rfl
      rw [later, view_shared servesAfter, view_shared serves]
      intro key mask found
      obtain ⟨entry, left, same⟩ := Option.map_eq_some_iff.mp found
      rw [Holdings.view, ((Holdings.entry_advance micros).mp left).1, Option.map_some, same]

end CacheState

end ChannelAccess
