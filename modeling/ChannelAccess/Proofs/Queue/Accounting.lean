import ChannelAccess.Deployment
import ChannelAccess.Proofs.Invalidation.Coalescing
import ChannelAccess.Proofs.Queue.Traffic

/-!
# A queue neither loses nor invents work

What a sender is told, what the queue holds and what the worker drops account for each other,
however senders and worker take turns and whatever the cache replies. Scopes that were taken are in
the blocks that the worker received or still wait; only a worker that was killed leaves some behind.
-/

namespace ChannelAccess

set_option autoImplicit false

namespace Queue

theorem offer_cases (queue : Queue) (scope : Invalidation) :
    queue.worker = .running ∧ queue.pending.length < queue.capacity ∧
        queue.offer scope = (.ok (), { queue with pending := queue.pending ++ [scope] }) ∨
      ¬(queue.worker = .running ∧ queue.pending.length < queue.capacity) ∧
        ∃ reason, queue.offer scope = (.error reason, queue) := by
  unfold offer
  split
  case h_1 stopped => exact .inr ⟨by simp [stopped], .stopped, rfl⟩
  case h_2 running =>
    by_cases room : queue.pending.length < queue.capacity
    · exact .inl ⟨running, room, by rw [if_pos room]⟩
    · exact .inr ⟨fun taken => room taken.2, .full, by rw [if_neg room]⟩

theorem worker_offer (queue : Queue) (scope : Invalidation) :
    (queue.offer scope).2.worker = queue.worker := by
  rcases queue.offer_cases scope with ⟨_, _, taken⟩ | ⟨_, _, refused⟩
  · rw [taken]
  · rw [refused]

end Queue

theorem split_of_append_singleton {α : Type} {history before after : List α} {last item : α}
    (split : history ++ [last] = before ++ item :: after) :
    item = last ∧ before = history ∧ after = [] ∨
      ∃ earlier, after = earlier ++ [last] ∧ history = before ++ item :: earlier := by
  rcases List.eq_nil_or_concat after with rfl | ⟨earlier, final, rfl⟩
  · obtain ⟨sameFront, sameLast⟩ := List.append_inj' split rfl
    exact .inl ⟨(List.singleton_inj.mp sameLast).symm, sameFront.symm, rfl⟩
  · rw [List.concat_eq_append, ← List.cons_append, ← List.append_assoc] at split
    obtain ⟨sameFront, sameLast⟩ := List.append_inj' split rfl
    refine .inr ⟨earlier, ?_, sameFront⟩
    rw [List.singleton_inj.mp sameLast, List.concat_eq_append]

namespace BusyQueue

open Traffic Invalidation

variable {capacity : Nat} {state after : BusyQueue}

structure Roomy (capacity : Nat) (queue : Queue) : Prop where
  places : queue.capacity = max capacity 1
  within : queue.pending.length ≤ max capacity 1

theorem roomy_offer {queue : Queue} (roomy : Roomy capacity queue) (scope : Invalidation) :
    Roomy capacity (queue.offer scope).2 := by
  rcases queue.offer_cases scope with ⟨_, room, taken⟩ | ⟨_, _, refused⟩
  · rw [taken]
    refine ⟨roomy.places, ?_⟩
    rw [roomy.places] at room
    rw [List.length_append, List.length_singleton]
    omega
  · rwa [refused]

theorem roomy_step (roomy : Roomy capacity state.queue) (step : Step state after) :
    Roomy capacity after.queue := by
  cases step with
  | call | report | drop | log | close => exact roomy
  | offer asking => exact roomy_offer roomy _
  | receive count =>
      refine ⟨roomy.places, ?_⟩
      have within := roomy.within
      simp only [receive, List.length_drop]
      omega
  | finish => exact ⟨roomy.places, Nat.zero_le _⟩
  | abort => exact ⟨roomy.places, Nat.zero_le _⟩

def EndsClean (state : BusyQueue) : Prop :=
  state.finished = true →
    state.queue.worker = .aborted ∧ state.queue.pending = [] ∧ state.rest = .done ()

theorem ends_clean_step (clean : EndsClean state) (step : Step state after) :
    EndsClean after := by
  intro finished
  cases step with
  | call | report | close => exact clean finished
  | @offer number posting scope next asking =>
      obtain ⟨stopped, empty, idle⟩ := clean finished
      rcases state.queue.offer_cases scope with ⟨running, _⟩ | ⟨_, _, refused⟩
      · simp [stopped] at running
      · simp only [offer, refused]
        exact ⟨stopped, empty, idle⟩
  | receive count positive fits waiting idle running =>
      simp [(clean finished).1] at running
  | drop asking => simp [(clean finished).2.2] at asking
  | log asking => simp [(clean finished).2.2] at asking
  | finish closed empty idle running => exact ⟨rfl, rfl, idle⟩
  | abort => exact ⟨rfl, rfl, rfl⟩

/-- Scopes that were taken have been received in blocks or wait, in the order in which they were
taken, but for what a worker that was killed has lost. -/
structure Balanced (state : BusyQueue) : Prop where
  sizes : ∀ block ∈ blocks state.history, 0 < block.length ∧ block.length ≤ Queue.batchSize
  ledger : ∃ lost, accepted state.history =
      (blocks state.history).flatten ++ (state.queue.pending ++ lost) ∧
        (state.Unbroken → lost = [])

theorem balanced_step (balanced : Balanced state) (clean : EndsClean state)
    (step : Step state after) : Balanced after := by
  obtain ⟨sizes, lost, ledger, whole⟩ := balanced
  cases step with
  | call | report | log | close => exact ⟨sizes, lost, ledger, whole⟩
  | @offer number posting scope next asking =>
      rcases state.queue.offer_cases scope with ⟨running, _, taken⟩ | ⟨_, _, refused⟩
      · refine ⟨?_, [], ?_, fun _ => rfl⟩
        · simpa [offer, blocks] using sizes
        · rw [whole (.inl running)] at ledger
          simp only [accepted, blocks] at ledger
          simp [offer, taken, accepted, blocks, ledger, Except.isOk, Except.toBool]
      · refine ⟨?_, lost, ?_, ?_⟩
        · simpa [offer, blocks] using sizes
        · simpa [offer, refused, accepted, blocks, Except.isOk, Except.toBool] using ledger
        · simpa [offer, refused, Unbroken] using whole
  | receive count positive fits waiting idle running =>
      refine ⟨?_, [], ?_, fun _ => rfl⟩
      · intro block member
        simp only [receive, blocks, List.filterMap_append, List.mem_append] at member
        rcases member with before | new
        · exact sizes block before
        · obtain rfl : block = state.queue.pending.take count := by simpa using new
          rw [List.length_take, Nat.min_eq_left waiting]
          exact ⟨positive, fits⟩
      · rw [whole (.inl running), List.append_nil] at ledger
        simp only [accepted, blocks] at ledger
        simp [receive, accepted, blocks, ledger]
  | drop asking reply =>
      refine ⟨?_, lost, ?_, whole⟩
      · simpa [blocks] using sizes
      · simpa [accepted, blocks] using ledger
  | finish closed empty idle running =>
      rw [whole (.inl running)] at ledger
      exact ⟨sizes, [], by simpa [Queue.abort, empty] using ledger, fun _ => rfl⟩
  | abort =>
      -- What waited is lost now. A worker that had ended by itself left nothing waiting.
      refine ⟨sizes, state.queue.pending ++ lost, ledger, fun unbroken => ?_⟩
      rcases unbroken with running | finished
      · nomatch running
      · obtain ⟨_, empty, _⟩ := clean finished
        rw [empty, whole (.inr finished), List.nil_append]

/-- What a call has offered is the first part of what it was to offer, and it goes on with the rest.
-/
structure Tried (state : BusyQueue) : Prop where
  course : ∀ number call, state.calls[number]? = some call → ∃ untried,
    call.posting.scopes = (offers number state.history).map Prod.fst ++ untried ∧
      Publishes call.rest untried ((offers number state.history).all Prod.snd)
  unborn : ∀ number, state.calls.length ≤ number → offers number state.history = []

theorem tried_of_same_offers (tried : Tried state) (sameCalls : after.calls = state.calls)
    (sameOffers : ∀ number, offers number after.history = offers number state.history) :
    Tried after := by
  constructor
  · intro number call found
    rw [sameCalls] at found
    rw [sameOffers]
    exact tried.course number call found
  · intro number beyond
    rw [sameCalls] at beyond
    rw [sameOffers]
    exact tried.unborn number beyond

theorem tried_of_proceeded {caller : Nat} {call : Call} (tried : Tried state)
    (known : caller < state.calls.length) (changed : after.calls = state.calls.set caller call)
    (others : ∀ number, number ≠ caller →
      offers number after.history = offers number state.history)
    (course : ∃ untried,
      call.posting.scopes = (offers caller after.history).map Prod.fst ++ untried ∧
        Publishes call.rest untried ((offers caller after.history).all Prod.snd)) :
    Tried after := by
  constructor
  · intro number found isThere
    rw [changed] at isThere
    by_cases same : number = caller
    · subst same
      rw [List.getElem?_set_self known, Option.some.injEq] at isThere
      rwa [← isThere]
    · rw [List.getElem?_set_ne (Ne.symm same)] at isThere
      rw [others number same]
      exact tried.course number found isThere
  · intro number beyond
    rw [changed, List.length_set] at beyond
    rw [others number (by omega)]
    exact tried.unborn number beyond

theorem tried_step (tried : Tried state) (step : Step state after) : Tried after := by
  cases step with
  | close | log | finish | abort => exact tried_of_same_offers tried rfl fun _ => rfl
  | receive | drop =>
      exact tried_of_same_offers tried rfl fun number => by simp [receive, offers]
  | call posting =>
      constructor
      · intro number call found
        rcases Nat.lt_or_ge number state.calls.length with before | beyond
        · rw [List.getElem?_append_left before] at found
          exact tried.course number call found
        · rw [List.getElem?_append_right beyond, List.getElem?_singleton] at found
          obtain ⟨_, isNew⟩ := Option.ite_none_right_eq_some.mp found
          obtain rfl := Option.some.inj isNew
          rw [tried.unborn number beyond]
          exact ⟨posting.scopes, rfl, Queue.publishes_plan posting⟩
      · intro number beyond
        rw [List.length_append] at beyond
        exact tried.unborn number (by omega)
  | @offer caller posting scope next asking =>
      have known : caller < state.calls.length := (List.getElem?_eq_some_iff.mp asking).1
      obtain ⟨untried, scopes, publishes⟩ := tried.course caller _ asking
      cases publishes with
      | @offer _ others _ _ further =>
          refine tried_of_proceeded tried known rfl ?_ ⟨others, ?_, ?_⟩
          · intro number other
            simp [offer, offers, other.symm]
          · simpa [offer, offers] using scopes
          · simpa [offer, offers] using further (state.queue.offer scope).1
  | @report caller posting event next asking =>
      have known : caller < state.calls.length := (List.getElem?_eq_some_iff.mp asking).1
      obtain ⟨untried, scopes, publishes⟩ := tried.course caller _ asking
      cases publishes with
      | report further =>
          exact tried_of_proceeded tried known rfl (fun _ _ => rfl) ⟨untried, scopes, further⟩

/-- Scopes that were taken wait, or are subsumed by one that has been dropped since or that the
worker has left to drop. -/
def Covered (history : List Traffic) (pending left : List Invalidation) : Prop :=
  ∀ before number scope later, history = before ++ .offered number scope true :: later →
    scope ∈ pending ∨ ∃ wider, wider.Subsumes scope ∧ (.asked (.drop wider) ∈ later ∨ wider ∈ left)

theorem covered_append {history : List Traffic} {pending left waiting further : List Invalidation}
    {event : Traffic} (covered : Covered history pending left)
    (new : ∀ number scope, event = .offered number scope true → scope ∈ waiting)
    (kept : ∀ scope ∈ pending, scope ∈ waiting ∨ ∃ wider ∈ further, wider.Subsumes scope)
    (goes_on : ∀ wider ∈ left, event = .asked (.drop wider) ∨ wider ∈ further) :
    Covered (history ++ [event]) waiting further := by
  intro before number scope later split
  rcases split_of_append_singleton split with ⟨same, _, _⟩ | ⟨earlier, rfl, splitBefore⟩
  · exact .inl (new number scope same.symm)
  · rcases covered before number scope earlier splitBefore with
      waits | ⟨wider, subsumes, asked | isLeft⟩
    · rcases kept scope waits with stillWaits | ⟨wider, isNext, subsumes⟩
      · exact .inl stillWaits
      · exact .inr ⟨wider, subsumes, .inr isNext⟩
    · exact .inr ⟨wider, subsumes, .inl (List.mem_append_left _ asked)⟩
    · rcases goes_on wider isLeft with rfl | isNext
      · exact .inr ⟨wider, subsumes, .inl (by simp)⟩
      · exact .inr ⟨wider, subsumes, .inr isNext⟩

/-- What the worker has left of the last block, and what it will never get to because it was killed.
It has dropped the rest of what coalescing leaves of each block. -/
structure Serving (state : BusyQueue) (left cut : List Invalidation) : Prop where
  owes : Drops state.rest left
  block : left ++ cut <:+ coalesce ((blocks state.history).getLast?.getD [])
  issued : queries state.history ++ (left ++ cut).map CacheQuery.drop =
    ((blocks state.history).flatMap coalesce).map CacheQuery.drop
  whole : state.Unbroken → cut = []
  covered : state.Unbroken → Covered state.history state.queue.pending left

theorem serving_offer {left cut : List Invalidation} (serving : Serving state left cut)
    (number : Nat) (posting : Posting) (scope : Invalidation)
    (next : Except QueueRefusal Unit → Plan Bool) :
    Serving (state.offer number posting scope next) left cut := by
  have sameWorker := Queue.worker_offer state.queue scope
  refine ⟨serving.owes, ?_, ?_, ?_, ?_⟩
  · simpa [offer, blocks] using serving.block
  · simpa [offer, blocks, queries] using serving.issued
  · simpa [offer, Unbroken, sameWorker] using serving.whole
  · intro unbroken
    have covered := serving.covered (by simpa [offer, Unbroken, sameWorker] using unbroken)
    rcases Queue.offer_cases state.queue scope with ⟨_, _, taken⟩ | ⟨_, _, refused⟩
    · simp only [offer, taken]
      refine covered_append covered ?_ (fun _ waits => .inl ?_) fun _ isLeft => .inr isLeft
      · rintro _ _ ⟨⟩
        exact List.mem_append_right _ List.mem_cons_self
      · exact List.mem_append_left _ waits
    · simp only [offer, refused]
      exact covered_append covered nofun (fun _ waits => .inl waits) fun _ isLeft => .inr isLeft

theorem serving_receive {left cut : List Invalidation} (serving : Serving state left cut)
    (idle : state.rest = .done ()) (running : state.queue.worker = .running) (count : Nat) :
    Serving (state.receive count) (coalesce (state.queue.pending.take count)) [] := by
  obtain ⟨owes, _, issued, whole, covered⟩ := serving
  rw [idle] at owes
  cases owes
  obtain rfl := whole (.inl running)
  refine ⟨?_, ?_, ?_, fun _ => rfl, ?_⟩
  · exact Publisher.drops_apply_all _
  · simp [receive, blocks]
  · simp only [List.append_nil, List.map_nil, queries, blocks] at issued
    simp [receive, queries, blocks, issued]
  · intro _
    refine covered_append (covered (.inl running)) nofun ?_ nofun
    intro scope member
    rw [← List.take_append_drop count state.queue.pending, List.mem_append] at member
    rcases member with taken | waits
    · exact .inr (exists_wider_in_coalesce taken)
    · exact .inl waits

theorem serving_drop {left cut : List Invalidation} {query : CacheQuery}
    {next : query.Reply → Plan Unit} (serving : Serving state left cut)
    (asking : state.rest = .ask (.cache query) next) (reply : query.Reply) :
    ∃ left, Serving { state with rest := next reply, history := state.history ++ [.asked query] }
      left cut := by
  obtain ⟨owes, block, issued, whole, covered⟩ := serving
  rw [asking] at owes
  cases owes with
  | @drop scope others _ further =>
      refine ⟨others, further reply, ?_, ?_, whole, ?_⟩
      · simpa [blocks] using (List.suffix_cons scope (others ++ cut)).trans block
      · simpa [blocks, queries] using issued
      · intro unbroken
        refine covered_append (covered unbroken) nofun (fun _ waits => .inl waits) ?_
        intro wider member
        rcases List.mem_cons.mp member with rfl | later
        · exact .inl rfl
        · exact .inr later

/-- Killing the worker cuts off what it had left. One that has ended by itself had nothing. -/
theorem serving_abort {left cut : List Invalidation} (serving : Serving state left cut)
    (clean : EndsClean state) :
    Serving { state with queue := state.queue.abort, rest := .done () } [] (left ++ cut) := by
  obtain ⟨owes, block, issued, whole, covered⟩ := serving
  have ended (unbroken : Unbroken { state with queue := state.queue.abort, rest := .done () }) :
      state.finished = true ∧ state.queue.pending = [] ∧ left = [] ∧ cut = [] := by
    rcases unbroken with running | finished
    · nomatch running
    · obtain ⟨_, empty, idle⟩ := clean finished
      rw [idle] at owes
      cases owes
      exact ⟨finished, empty, rfl, whole (.inr finished)⟩
  refine ⟨.done, block, issued, ?_, ?_⟩
  · intro unbroken
    obtain ⟨_, _, rfl, rfl⟩ := ended unbroken
    rfl
  · intro unbroken
    obtain ⟨finished, empty, rfl, _⟩ := ended unbroken
    have coveredBefore := covered (.inr finished)
    rwa [empty] at coveredBefore

theorem serving_step {left cut : List Invalidation} (serving : Serving state left cut)
    (clean : EndsClean state) (step : Step state after) :
    ∃ left cut, Serving after left cut := by
  cases step with
  | call | report | close =>
      obtain ⟨owes, block, issued, whole, covered⟩ := serving
      exact ⟨left, cut, owes, block, issued, whole, covered⟩
  | @offer number posting scope next =>
      exact ⟨left, cut, serving_offer serving number posting scope next⟩
  | receive count _ _ _ idle running => exact ⟨_, [], serving_receive serving idle running count⟩
  | drop asking reply =>
      obtain ⟨others, further⟩ := serving_drop serving asking reply
      exact ⟨others, cut, further⟩
  | log asking =>
      obtain ⟨owes, block, issued, whole, covered⟩ := serving
      rw [asking] at owes
      cases owes with
      | log further => exact ⟨left, cut, further, block, issued, whole, covered⟩
  | finish _ empty _ running =>
      obtain ⟨owes, block, issued, whole, covered⟩ := serving
      refine ⟨left, cut, owes, block, issued, fun _ => whole (.inl running), fun _ => ?_⟩
      have coveredBefore := covered (.inl running)
      rwa [empty] at coveredBefore
  | abort => exact ⟨[], left ++ cut, serving_abort serving clean⟩

structure Accounted (capacity : Nat) (state : BusyQueue) : Prop where
  roomy : Roomy capacity state.queue
  clean : EndsClean state
  balanced : Balanced state
  tried : Tried state
  serving : ∃ left cut, Serving state left cut

theorem accounted_fresh {queue : Queue} (started : Queue.start? capacity = some queue) :
    Accounted capacity (fresh queue) := by
  unfold Queue.start? at started
  split at started
  · obtain rfl := Option.some.inj started
    exact {
      roomy := ⟨rfl, Nat.zero_le _⟩
      clean := nofun
      balanced := ⟨nofun, [], rfl, fun _ => rfl⟩
      tried := ⟨nofun, fun _ _ => rfl⟩
      serving := ⟨[], [], .done, List.nil_suffix, rfl, fun _ => rfl, fun _ before _ _ _ split => by
        simp [fresh] at split⟩ }
  · nomatch started

theorem accounted_step (accounted : Accounted capacity state) (step : Step state after) :
    Accounted capacity after where
  roomy := roomy_step accounted.roomy step
  clean := ends_clean_step accounted.clean step
  balanced := balanced_step accounted.balanced accounted.clean step
  tried := tried_step accounted.tried step
  serving := by
    obtain ⟨_, _, serving⟩ := accounted.serving
    exact serving_step serving accounted.clean step

theorem accounted_of_reached (reached : Reached capacity state) : Accounted capacity state := by
  induction reached with
  | start started => exact accounted_fresh started
  | next reached step ih => exact accounted_step ih step

theorem carry_out_publish {deployment : Deployment} {queue : Queue}
    (queued : deployment.queue = some queue) (scope : Invalidation) :
    let after := deployment.carryOut (Queue.publish scope)
    (after.1 = true ↔ queue.worker = .running ∧ queue.pending.length < queue.capacity) ∧
      after.2.queue =
        some (if after.1 then { queue with pending := queue.pending ++ [scope] } else queue) := by
  rcases queue.offer_cases scope with ⟨running, room, taken⟩ | ⟨noPlace, reason, refused⟩
  · simp [Deployment.carryOut, Queue.publish, Plan.request, Deployment.answer,
      Deployment.replyQueue, queued, taken, running, room]
  · simp [Deployment.carryOut, Queue.publish, Plan.request, Plan.report, Deployment.answer,
      Deployment.replyQueue, queued, refused, noPlace]

/-- A queue of any capacity neither loses nor invents work, whatever its senders and its worker have
done so far and whatever the cache has replied.

There is never more waiting than there are places. Publishing a scope succeeds exactly if the worker
runs and there is a place, and otherwise leaves the queue as it was. A call that has ended has
offered all its scopes in turn, and it returns whether all of them were taken. Scopes that were
taken make up, in their order, the blocks that the worker received and what waits; and the worker's
drops are what coalescing leaves of these blocks, one after the other, up to the part of the last
block that it has not got to. After the worker has ended by itself, each scope that was taken is
subsumed by one that was dropped later. -/
theorem neither_loses_nor_invents (reached : Reached capacity state) :
    state.queue.pending.length ≤ max capacity 1 ∧
      (∀ (deployment : Deployment) (scope : Invalidation), deployment.queue = some state.queue →
        let after := deployment.carryOut (Queue.publish scope)
        (after.1 = true ↔ state.queue.worker = .running ∧
            state.queue.pending.length < max capacity 1) ∧
          after.2.queue = some (if after.1 then
            { state.queue with pending := state.queue.pending ++ [scope] } else state.queue)) ∧
      (∀ number posting result, state.calls[number]? = some ⟨posting, .done result⟩ →
        (offers number state.history).map Prod.fst = posting.scopes ∧
          (result = true ↔ ∀ offer ∈ offers number state.history, offer.2 = true)) ∧
      (∃ lost, accepted state.history =
          (blocks state.history).flatten ++ (state.queue.pending ++ lost) ∧
        (state.Unbroken → lost = [])) ∧
      (∀ block ∈ blocks state.history, 0 < block.length ∧ block.length ≤ 64) ∧
      (∃ left, queries state.history ++ left.map CacheQuery.drop =
          ((blocks state.history).flatMap coalesce).map CacheQuery.drop ∧
        left <:+ coalesce ((blocks state.history).getLast?.getD []) ∧
        (state.Unbroken → state.rest = .done () → left = [])) ∧
      (state.finished = true → ∀ before number scope later,
        state.history = before ++ .offered number scope true :: later →
        ∃ wider, .asked (.drop wider) ∈ later ∧
          ∀ user channel, scope.covers user channel = true →
            wider.covers user channel = true) := by
  obtain ⟨roomy, clean, balanced, tried, left, cut, serving⟩ := accounted_of_reached reached
  refine ⟨roomy.within, ?_, ?_, balanced.ledger, balanced.sizes, ?_, ?_⟩
  · intro deployment scope queued
    rw [← roomy.places]
    exact carry_out_publish queued scope
  · intro number posting result ended
    obtain ⟨untried, scopes, publishes⟩ := tried.course number _ ended
    cases publishes
    rw [List.append_nil] at scopes
    exact ⟨scopes.symm, List.all_eq_true⟩
  · refine ⟨left ++ cut, serving.issued, serving.block, fun unbroken idle => ?_⟩
    have owes := serving.owes
    rw [idle] at owes
    cases owes
    exact serving.whole unbroken
  · intro finished before number scope later split
    obtain ⟨_, empty, idle⟩ := clean finished
    have owes := serving.owes
    rw [idle] at owes
    cases owes
    rcases serving.covered (.inr finished) before number scope later split with
      waits | ⟨wider, subsumes, asked | isLeft⟩
    · simp [empty] at waits
    · exact ⟨wider, asked, subsumes⟩
    · nomatch isLeft

/-- A transfer of ownership is published to a queue with a single place. The former owner is taken,
the next one is not; the cache then fails to drop the former, and the worker ends. -/
theorem neither_loses_nor_invents_on_full_queue :
    let former : Invalidation := .ofUser (.ofNat 1)
    let next : Invalidation := .ofUser (.ofNat 2)
    let calls : List Call := [⟨.implied (.ownershipTransferred (.ofNat 1) (.ofNat 2)), .done false⟩]
    let later : List Traffic :=
      [.offered 0 next false, .received [former], .asked (.drop former)]
    let state : BusyQueue :=
      ⟨⟨1, [], .aborted⟩, calls, .done (), true, true, .offered 0 former true :: later⟩
    Reached 0 state ∧ ∃ wider, .asked (.drop wider) ∈ later ∧
      ∀ user channel, former.covers user channel = true → wider.covers user channel = true := by
  intro former next calls later state
  let posting : Posting := .implied (.ownershipTransferred (.ofNat 1) (.ofNat 2))
  let busy (pending : List Invalidation) (call : Plan Bool) (rest : Plan Unit)
      (history : List Traffic) : BusyQueue :=
    ⟨⟨1, pending, .running⟩, [⟨posting, call⟩], rest, false, false, history⟩
  let problem : CacheError := .malformed ""
  let oneMore : Plan Bool := do
    let others ← Queue.publishAll [next]
    return true && others
  let noPlace : Plan Bool := do
    Plan.report (.notQueued .full next)
    return false
  let offered : List Traffic := [.offered 0 former true, .offered 0 next false]
  have published : Reached 0 (busy [] posting.plan (.done ()) []) :=
    .next (.start rfl) (.call posting rfl)
  have isTaken := @Step.offer (busy [] posting.plan (.done ()) []) 0 posting former _ rfl
  have taken : Reached 0 (busy [former] oneMore (.done ()) [.offered 0 former true]) :=
    .next published isTaken
  have isRefused := @Step.offer (busy [former] oneMore (.done ()) [.offered 0 former true]) 0
    posting next _ rfl
  have refused : Reached 0 (busy [former] noPlace (.done ()) offered) := .next taken isRefused
  have isReported := @Step.report (busy [former] noPlace (.done ()) offered) 0 posting _ _ rfl
  have reported : Reached 0 (busy [former] (.done false) (.done ()) offered) :=
    .next refused isReported
  have received : Reached 0 (busy [] (.done false) (Publisher.applyAll [former])
      (offered ++ [.received [former]])) :=
    .next reported (.receive 1 (by decide) (by decide) (by decide) rfl rfl)
  have hasFailed := @Step.drop (busy [] (.done false) (Publisher.applyAll [former])
    (offered ++ [.received [former]])) (.drop former) _ rfl (.error problem)
  have failed : Reached 0 (busy [] (.done false) (Plan.report (.dropFailed former problem))
      (offered ++ [.received [former], .asked (.drop former)])) := .next received hasFailed
  have logged := Reached.next failed (.log rfl)
  have closed := Reached.next logged (.close fun call member => by
    rw [List.mem_singleton.mp member]
    exact ⟨false, rfl⟩)
  have finished : Reached 0 state := .next closed (.finish rfl rfl rfl rfl)
  obtain ⟨_, _, _, _, _, _, covered⟩ := neither_loses_nor_invents finished
  exact ⟨finished, covered rfl [] 0 former later rfl⟩

end BusyQueue

end ChannelAccess
