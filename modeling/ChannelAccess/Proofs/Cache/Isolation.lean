import ChannelAccess.Proofs.Cache.Confinement
import ChannelAccess.Proofs.Cache.SharedRun

/-!
# Caches of different scopes never interfere

Caches of any number of scopes work on one server, in turn and with pauses. To the caches of one
scope it makes no difference whether the others are there.
-/

namespace ChannelAccess

set_option autoImplicit false

open Keyspace

namespace Keyspace

variable {realm : Realm} {names : KeyNames} {first second : Keyspace}

theorem tidy_of_alike (alike : Alike realm first second) (tidy : first.Tidy realm) :
    second.Tidy realm := by
  intro key owned slot isThere
  rw [← alike.slots key owned] at isThere
  exact tidy key owned slot isThere

theorem alike_advance (alike : Alike realm first second) (micros : Nat) :
    Alike realm (first.advance micros) (second.advance micros) where
  clock := congrArg (· + micros) alike.clock
  slots key owned := by
    simp only [advance, Std.ExtTreeMap.getElem?_filter', alike.slots key owned, alike.clock]

theorem tidy_advance (tidy : first.Tidy realm) (micros : Nat) :
    (first.advance micros).Tidy realm := by
  intro key owned slot isThere
  simp only [advance, Std.ExtTreeMap.getElem?_filter', Option.filter_eq_some_iff] at isThere
  exact tidy key owned slot isThere.1

theorem alike_of_spared {other : KeyNames} (apart : other ≠ names)
    (spared : Spared (.of other) first second) : Alike (.of names) first second where
  clock := spared.clock.symm
  slots key owned := by
    refine (spared.slots key fun foreign => ?_).symm
    exact apart (KeyNames.eq_of_owns foreign owned)

theorem tidy_blank (realm : Realm) (clock : Nat) : (blank clock).Tidy realm := by
  intro key _ slot isThere
  simp [blank] at isThere

end Keyspace

namespace SharedCache

/-- Two servers that caches of a scope cannot tell apart. -/
structure Indistinct (names : KeyNames) (first second : CacheServer) : Prop where
  refusal : first.refusal = second.refusal
  alike : Alike (.of names) first.space second.space

variable {names : KeyNames} {first second : CacheServer}

theorem settle_of_stays {α : Type} {exchange : Exchange α} (stays : exchange.StaysIn names)
    (indistinct : Indistinct names first second) (tidy : first.space.Tidy (.of names)) :
    ∃ answer after other, exchange.settle first = (answer, after) ∧
      exchange.settle second = (answer, other) ∧ Indistinct names after other ∧
      after.space.Tidy (.of names) ∧ Spared (.of names) first.space after.space ∧
      after.refusal = first.refusal := by
  cases exchange with
  | settled answer =>
      exact ⟨.ok answer, first, second, rfl, rfl, indistinct, tidy, spared_refl _, rfl⟩
  | asking command decode =>
      cases refused : first.refusal with
      | some reply =>
          have otherRefused := indistinct.refusal.symm.trans refused
          refine ⟨.error (.refused reply), first, second, ?_, ?_, indistinct, tidy,
            spared_refl _, refused⟩
          · simp only [Exchange.settle, CacheServer.execute, refused]
          · simp only [Exchange.settle, CacheServer.execute, otherRefused]
      | none =>
          have otherRefused := indistinct.refusal.symm.trans refused
          obtain ⟨outcome, after, other, ran, ranOther, alike, tidyAfter, spared, _⟩ :=
            stays first.space second.space indistinct.alike tidy
          cases outcome with
          | error reason =>
              refine ⟨.error (.refused reason), ⟨after, none⟩, ⟨other, none⟩, ?_, ?_,
                ⟨rfl, alike⟩, tidyAfter, spared, rfl⟩
              · simp only [Exchange.settle, CacheServer.execute, refused, ran]
              · simp only [Exchange.settle, CacheServer.execute, otherRefused, ranOther]
          | ok answer =>
              refine ⟨decode answer, ⟨after, none⟩, ⟨other, none⟩, ?_, ?_, ⟨rfl, alike⟩,
                tidyAfter, spared, rfl⟩
              · simp only [Exchange.settle, CacheServer.execute, refused, ran]
              · simp only [Exchange.settle, CacheServer.execute, otherRefused, ranOther]

/-- A query by a cache, its entries in any order, or the passing of time. -/
inductive Move where
  | wait (micros : Nat)
  | ask (cache : SharedCache) (query : CacheQuery) (order : List Entry)
      (arranged : order.Perm query.entries)

structure Replied where
  cache : SharedCache
  query : CacheQuery
  reply : query.Reply

def Move.perform : Move → CacheServer → List Replied × CacheServer
  | .wait micros, server => ([], server.advance micros)
  | .ask cache query order _, server =>
      let (reply, after) := (cache.exchangeInOrder order query).settle server
      ([⟨cache, query, reply⟩], after)

def performAll : List Move → CacheServer → List Replied × CacheServer
  | [], server => ([], server)
  | move :: rest, server =>
      let (replies, after) := move.perform server
      let (further, final) := performAll rest after
      (replies ++ further, final)

/-- The moves of caches of one scope, and the passing of time. -/
def Move.isOf (scope : String) : Move → Bool
  | .wait _ => true
  | .ask cache _ _ _ => cache.names.scope == scope

def Replied.isOf (scope : String) (replied : Replied) : Bool :=
  replied.cache.names.scope == scope

def Move.TidyOn (server : CacheServer) : Move → Prop
  | .wait _ => True
  | .ask cache _ _ _ => server.space.Tidy (.of cache.names)

theorem spared_by_ask (cache : SharedCache) (query : CacheQuery) (order : List Entry)
    {server : CacheServer} (tidy : server.space.Tidy (.of cache.names)) :
    let after := ((cache.exchangeInOrder order query).settle server).2
    Spared (.of cache.names) server.space after.space ∧ after.refusal = server.refusal ∧
      ∀ names, server.space.Tidy (.of names) → after.space.Tidy (.of names) := by
  obtain ⟨_, after, _, settled, _, _, tidyAfter, spared, refusal⟩ :=
    settle_of_stays (exchange_in_order_stays cache order query)
      (⟨rfl, alike_refl _⟩ : Indistinct cache.names server server) tidy
  rw [settled]
  refine ⟨spared, refusal, fun names tidyBefore => ?_⟩
  by_cases same : cache.names = names
  · rwa [← same]
  · exact tidy_of_alike (alike_of_spared same spared) tidyBefore

theorem tidy_on_perform {move later : Move} {server : CacheServer} (tidy : move.TidyOn server)
    (tidyLater : later.TidyOn server) : later.TidyOn (move.perform server).2 := by
  cases later with
  | wait _ => trivial
  | ask cache _ _ _ =>
      cases move with
      | wait micros => exact tidy_advance tidyLater micros
      | ask asking query order _ =>
          exact (spared_by_ask asking query order tidy).2.2 cache.names tidyLater

theorem tidy_on_perform_all {moves : List Move} {later : Move} {server : CacheServer}
    (tidy : ∀ move ∈ moves, move.TidyOn server) (tidyLater : later.TidyOn server) :
    later.TidyOn (performAll moves server).2 := by
  induction moves generalizing server with
  | nil => exact tidyLater
  | cons move rest ih =>
      have tidyMove := tidy move List.mem_cons_self
      apply ih
      · intro next member
        exact tidy_on_perform tidyMove (tidy next (List.mem_cons_of_mem move member))
      · exact tidy_on_perform tidyMove tidyLater

theorem indistinct_own {scope : String} {move : Move} (own : move.isOf scope = true)
    (indistinct : Indistinct ⟨scope⟩ first second) (tidy : move.TidyOn first) :
    (move.perform first).1.filter (Replied.isOf scope) = (move.perform second).1 ∧
      Indistinct ⟨scope⟩ (move.perform first).2 (move.perform second).2 := by
  cases move with
  | wait micros => exact ⟨rfl, indistinct.refusal, alike_advance indistinct.alike micros⟩
  | ask cache query order _ =>
      obtain rfl : cache.names.scope = scope := eq_of_beq own
      obtain ⟨_, _, _, settled, settledAlone, next, _⟩ :=
        settle_of_stays (exchange_in_order_stays cache order query) indistinct tidy
      simpa [Move.perform, Replied.isOf, settled, settledAlone] using next

theorem indistinct_foreign {scope : String} {move : Move} (foreign : move.isOf scope = false)
    (indistinct : Indistinct ⟨scope⟩ first second) (tidy : move.TidyOn first) :
    (move.perform first).1.filter (Replied.isOf scope) = [] ∧
      Indistinct ⟨scope⟩ (move.perform first).2 second := by
  cases move with
  | wait micros => nomatch foreign
  | ask cache query order _ =>
      have differs : cache.names.scope ≠ scope := by simpa [Move.isOf] using foreign
      have apart : cache.names ≠ ⟨scope⟩ := fun same => differs (congrArg KeyNames.scope same)
      obtain ⟨spared, refusal, _⟩ := spared_by_ask cache query order tidy
      have unnoticed := alike_of_spared apart spared
      refine ⟨by simp [Move.perform, Replied.isOf, differs], refusal.trans indistinct.refusal, ?_⟩
      exact ⟨unnoticed.clock.symm.trans indistinct.alike.clock, fun key owned =>
        (unnoticed.slots key owned).symm.trans (indistinct.alike.slots key owned)⟩

theorem indistinct_perform_all {scope : String} {moves : List Move}
    (indistinct : Indistinct ⟨scope⟩ first second)
    (tidy : ∀ move ∈ moves, move.TidyOn first) :
    (performAll moves first).1.filter (Replied.isOf scope) =
        (performAll (moves.filter (Move.isOf scope)) second).1 ∧
      Indistinct ⟨scope⟩ (performAll moves first).2
        (performAll (moves.filter (Move.isOf scope)) second).2 := by
  induction moves generalizing first second with
  | nil => exact ⟨rfl, indistinct⟩
  | cons move rest ih =>
      have tidyMove := tidy move List.mem_cons_self
      have tidyRest : ∀ next ∈ rest, next.TidyOn (move.perform first).2 := fun next member =>
        tidy_on_perform tidyMove (tidy next (List.mem_cons_of_mem move member))
      cases own : move.isOf scope with
      | true =>
          obtain ⟨sameReplies, next⟩ := indistinct_own own indistinct tidyMove
          obtain ⟨sameRest, final⟩ := ih next tidyRest
          rw [List.filter_cons_of_pos own]
          refine ⟨?_, final⟩
          simp only [performAll, List.filter_append, sameReplies, sameRest]
      | false =>
          obtain ⟨noReply, next⟩ := indistinct_foreign own indistinct tidyMove
          obtain ⟨sameRest, final⟩ := ih next tidyRest
          rw [List.filter_cons_of_neg (by simp [own])]
          refine ⟨?_, final⟩
          simp only [performAll, List.filter_append, noReply, List.nil_append, sameRest]

/-- Caches of different scopes on one server never interfere, whatever texts the scopes are. The
replies to the caches of a scope, and all that is left under its keys, are what they would be if
nobody else had asked anything. A query changes nothing but keys of the scope of its cache. And a
key is that of one entry or index in one scope only. -/
theorem scopes_never_interfere (moves : List Move) (server : CacheServer)
    (tidy : ∀ move ∈ moves, move.TidyOn server) (scope : String) :
    (performAll moves server).1.filter (Replied.isOf scope) =
        (performAll (moves.filter (Move.isOf scope)) server).1 ∧
      (∀ name : ScopedName,
        (performAll moves server).2.space.slots[KeyNames.key ⟨scope⟩ name]? =
          (performAll (moves.filter (Move.isOf scope)) server).2.space.slots[
            KeyNames.key ⟨scope⟩ name]?) ∧
      (∀ earlier cache query order arranged later,
        moves = earlier ++ .ask cache query order arranged :: later →
        let before := (performAll earlier server).2
        let after := ((cache.exchangeInOrder order query).settle before).2
        ∀ key, after.space.slots[key]? ≠ before.space.slots[key]? →
          (∃ name, cache.names.key name = key) ∧
            (cache.names.scope ≠ scope → ∀ name, KeyNames.key ⟨scope⟩ name ≠ key)) ∧
      ∀ (one other : KeyNames) (left right : ScopedName),
        one.key left = other.key right ↔ one = other ∧ left = right := by
  obtain ⟨replies, final⟩ :=
    indistinct_perform_all (⟨rfl, alike_refl _⟩ : Indistinct ⟨scope⟩ server server) tidy
  refine ⟨replies, fun name => final.alike.slots _ ⟨name, rfl⟩, ?_,
    fun _ _ _ _ => KeyNames.key_eq_key_iff⟩
  rintro earlier cache query order arranged later rfl before after key changed
  have tidyBefore : (Move.ask cache query order arranged).TidyOn before :=
    tidy_on_perform_all (fun move member => tidy move (List.mem_append_left _ member))
      (tidy _ (by simp))
  obtain ⟨spared, _⟩ := spared_by_ask cache query order tidyBefore
  have owned : cache.names.Owns key := by
    apply Classical.byContradiction
    intro foreign
    exact changed (spared.slots key foreign)
  refine ⟨owned, ?_⟩
  intro apart name same
  exact apart (congrArg KeyNames.scope (KeyNames.eq_of_owns owned ⟨name, same⟩))

/-- A scope that looks like the start of another scope's entry keys. A drop of everything under the
other one makes no difference to what is cached under it. -/
theorem scopes_never_interfere_on_nested_scope :
    let user : UserId := .ofNat 1
    let channel : ChannelId := .ofNat 2
    let outer := opened "permissions" 300
    let inner := opened ("permissions:e:" ++ user.text) 300
    let ask (cache : SharedCache) (query : CacheQuery) : Move :=
      .ask cache query query.entries (.refl _)
    let set := ask inner (.set user channel .all)
    let get := ask inner (.get user channel)
    let moves := [set, ask outer (.set user channel ∅), ask outer .deleteAll, .wait 7, get]
    (∀ move ∈ moves, move.TidyOn ⟨.blank 0, none⟩) ∧
      (performAll moves ⟨.blank 0, none⟩).1.filter (Replied.isOf inner.names.scope) =
        (performAll [set, .wait 7, get] ⟨.blank 0, none⟩).1 := by
  intro user channel outer inner ask set get moves
  have tidy : ∀ move ∈ moves, move.TidyOn ⟨.blank 0, none⟩ := by
    simp [moves, set, get, ask, Move.TidyOn, tidy_blank]
  have outerDiffers : (outer.names.scope == inner.names.scope) = false := by decide +kernel
  have alone : moves.filter (Move.isOf inner.names.scope) = [set, .wait 7, get] := by
    simp [moves, set, get, ask, Move.isOf, outerDiffers]
  refine ⟨tidy, ?_⟩
  rw [(scopes_never_interfere moves ⟨.blank 0, none⟩ tidy inner.names.scope).1, alone]

end SharedCache

end ChannelAccess
