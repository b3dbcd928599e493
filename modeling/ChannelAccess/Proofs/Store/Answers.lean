import ChannelAccess.Plan
import ChannelAccess.Proofs.Store.Facts

/-!
# Plans on a lawful answerer

A store that answers from facts, batched queries like single ones, and a cache that
works make an answerer lawful. Where nothing is asked of edits and drops it is legible,
which is all that reads rely on. On a legible answerer a plan that only reads settles
with a result, leaves the facts alone, and adds nothing to the cache but masks that
follow from the facts. The store is any store with these laws; how it keeps its data,
and which identifiers a batched query leaves out, is not looked at.
-/

namespace ChannelAccess

set_option autoImplicit false

def StoreQuery.reads : StoreQuery → Bool
  | .setOverride _ _ _ _ => false
  | .deleteOverride _ _ => false
  | _ => true

/-- The reads of a store answer from facts, batched ones like single ones, and leave the facts as
they are. An identifier that a batched query leaves out has nothing of its own. Whether a user is
the owner need not agree with who the owner is. -/
structure StoreReads {σ : Type} (reply : (query : StoreQuery) → σ → query.Reply × σ)
    (facts : σ → Facts) (owns : σ → UserId → Bool) : Prop where
  grants : ∀ state user, (reply (.grants user) state).1 = .ok ((facts state).grants user)
  grantsMany : ∀ state users, ∃ rows : IdMap (List RoleGrant),
    (reply (.grantsMany users) state).1 = .ok rows ∧
      ∀ user ∈ users, rows[user]?.getD [] = (facts state).grants user
  channel : ∀ state channel, (reply (.channel channel) state).1 =
    match (facts state).channel channel with
    | some found => .ok found
    | none => .error (.channelNotFound channel)
  channelMany : ∀ state channels, ∃ known : IdMap Channel,
    (reply (.channelMany channels) state).1 = .ok known ∧
      ∀ channel ∈ channels, known.contains channel = ((facts state).channel channel).isSome
  overrides : ∀ state channel,
    (reply (.overrides channel) state).1 = .ok ((facts state).overrides channel)
  overridesMany : ∀ state channels, ∃ rows : IdMap (List Override),
    (reply (.overridesMany channels) state).1 = .ok rows ∧
      ∀ channel ∈ channels, rows[channel]?.getD [] = (facts state).overrides channel
  isOwner : ∀ state user, (reply (.isOwner user) state).1 = .ok (owns state user)
  factsKept : ∀ query state, query.reads = true → facts (reply query state).2 = facts state
  ownsKept : ∀ query state, query.reads = true → owns (reply query state).2 = owns state

/-- A store answers from facts. An identifier that a batched query leaves out has nothing of its
own. An edit of an override is confined to its channel, and one that is refused changes nothing. -/
structure StoreAnswers {σ : Type} (reply : (query : StoreQuery) → σ → query.Reply × σ)
    (facts : σ → Facts) : Prop where
  grants : ∀ state user, (reply (.grants user) state).1 = .ok ((facts state).grants user)
  grantsMany : ∀ state users, ∃ rows : IdMap (List RoleGrant),
    (reply (.grantsMany users) state).1 = .ok rows ∧
      ∀ user ∈ users, rows[user]?.getD [] = (facts state).grants user
  channel : ∀ state channel, (reply (.channel channel) state).1 =
    match (facts state).channel channel with
    | some found => .ok found
    | none => .error (.channelNotFound channel)
  channelMany : ∀ state channels, ∃ known : IdMap Channel,
    (reply (.channelMany channels) state).1 = .ok known ∧
      ∀ channel ∈ channels, known.contains channel = ((facts state).channel channel).isSome
  overrides : ∀ state channel,
    (reply (.overrides channel) state).1 = .ok ((facts state).overrides channel)
  overridesMany : ∀ state channels, ∃ rows : IdMap (List Override),
    (reply (.overridesMany channels) state).1 = .ok rows ∧
      ∀ channel ∈ channels, rows[channel]?.getD [] = (facts state).overrides channel
  owner : ∀ state, (reply .owner state).1 = .ok (facts state).owner
  isOwner : ∀ state user, (reply (.isOwner user) state).1 = .ok ((facts state).owner == some user)
  reads : ∀ query state, query.reads = true → facts (reply query state).2 = facts state
  setOverride : ∀ state channel principal allow deny,
    (facts state).AlikeButOverrides channel
        (facts (reply (.setOverride channel principal allow deny) state).2) ∧
      ∀ problem, (reply (.setOverride channel principal allow deny) state).1 = .error problem →
        facts (reply (.setOverride channel principal allow deny) state).2 = facts state
  deleteOverride : ∀ state channel principal,
    (facts state).AlikeButOverrides channel
        (facts (reply (.deleteOverride channel principal) state).2) ∧
      ∀ problem, (reply (.deleteOverride channel principal) state).1 = .error problem →
        facts (reply (.deleteOverride channel principal) state).2 = facts state

def Facts.owns (facts : Facts) (user : UserId) : Bool :=
  facts.owner == some user

/-- The facts as one user meets them, who is the owner if told so. -/
def Facts.metBy (facts : Facts) (owns : UserId → Bool) (user : UserId) : Facts :=
  { facts with owner := if owns user then some user else none }

theorem Facts.owns_met_by (facts : Facts) (owns : UserId → Bool) (user : UserId) :
    (facts.metBy owns user).owns user = owns user := by
  cases told : owns user <;> simp [Facts.owns, metBy, told]

theorem StoreReads.met_by {σ : Type} {reply : (query : StoreQuery) → σ → query.Reply × σ}
    {facts : σ → Facts} {owns : σ → UserId → Bool} (reads : StoreReads reply facts owns)
    (user : UserId) :
    StoreReads reply (fun state => (facts state).metBy (owns state) user) owns :=
  { reads with
    factsKept := fun query state isRead => by
      rw [reads.factsKept query state isRead, reads.ownsKept query state isRead] }

theorem StoreAnswers.store_reads {σ : Type}
    {reply : (query : StoreQuery) → σ → query.Reply × σ} {facts : σ → Facts}
    (answers : StoreAnswers reply facts) :
    StoreReads reply facts fun state => (facts state).owns where
  grants := answers.grants
  grantsMany := answers.grantsMany
  channel := answers.channel
  channelMany := answers.channelMany
  overrides := answers.overrides
  overridesMany := answers.overridesMany
  isOwner := answers.isOwner
  factsKept := answers.reads
  ownsKept query state reads := by rw [answers.reads query state reads]

structure Outlook (σ : Type) where
  facts : σ → Facts
  view : σ → CacheView
  working : σ → Prop

/-- A store that answers from facts, and a cache that works and shows a view. Neither side is
touched by a query to the other or by a line in the log. -/
structure Lawful {σ : Type} (answer : Plan.Answerer σ) (outlook : Outlook σ) : Prop where
  store : StoreAnswers (fun query => answer (.store query)) outlook.facts
  storeApart : ∀ query state, outlook.working state →
    outlook.working (answer (.store query) state).2 ∧
      outlook.view (answer (.store query) state).2 = outlook.view state
  cache : ∀ query state, outlook.working state →
    (answer (.cache query) state).1 = .ok (query.answerFrom (outlook.view state)) ∧
      outlook.working (answer (.cache query) state).2 ∧
        (outlook.view (answer (.cache query) state).2).Within
          (query.effectOn (outlook.view state))
  cacheApart : ∀ query state,
    outlook.facts (answer (.cache query) state).2 = outlook.facts state
  report : ∀ event state, outlook.working state →
    outlook.working (answer (.report event) state).2 ∧
      outlook.view (answer (.report event) state).2 = outlook.view state ∧
        outlook.facts (answer (.report event) state).2 = outlook.facts state

/-- A store whose reads answer from facts and do not touch the cache beside it. -/
structure StoreLegible {σ : Type} (answer : Plan.Answerer σ) (outlook : Outlook σ)
    (owns : σ → UserId → Bool) : Prop where
  store : StoreReads (fun query => answer (.store query)) outlook.facts owns
  storeApart : ∀ query state, query.reads = true → outlook.working state →
    outlook.working (answer (.store query) state).2 ∧
      outlook.view (answer (.store query) state).2 = outlook.view state

/-- A store that an answerer keeps in a part of its state is read there as it is alone. -/
theorem StoreReads.store_legible {σ τ : Type}
    {reply : (query : StoreQuery) → σ → query.Reply × σ} {facts : σ → Facts}
    {owns : σ → UserId → Bool} (reads : StoreReads reply facts owns) {answer : Plan.Answerer τ}
    {outlook : Outlook τ} (store : τ → σ)
    (replies : ∀ query state, (answer (.store query) state).1 = (reply query (store state)).1)
    (stores : ∀ query state,
      store (answer (.store query) state).2 = (reply query (store state)).2)
    (told : ∀ state, outlook.facts state = facts (store state))
    (apart : ∀ query state, outlook.working state →
      outlook.working (answer (.store query) state).2 ∧
        outlook.view (answer (.store query) state).2 = outlook.view state) :
    StoreLegible answer outlook fun state => owns (store state) where
  store :=
    { grants state user := by simpa only [replies, told] using reads.grants _ user
      grantsMany state users := by simpa only [replies, told] using reads.grantsMany _ users
      channel state channel := by simpa only [replies, told] using reads.channel _ channel
      channelMany state channels := by simpa only [replies, told] using reads.channelMany _ channels
      overrides state channel := by simpa only [replies, told] using reads.overrides _ channel
      overridesMany state channels := by
        simpa only [replies, told] using reads.overridesMany _ channels
      isOwner state user := by simpa only [replies] using reads.isOwner _ user
      factsKept query state isRead := by
        rw [told, told, stores]
        exact reads.factsKept query _ isRead
      ownsKept query state isRead := by
        rw [stores]
        exact reads.ownsKept query _ isRead }
  storeApart query state _ := apart query state

/-- Beside such a store, a cache that shows a view and answers the queries that drop nothing. -/
structure Legible {σ : Type} (answer : Plan.Answerer σ) (outlook : Outlook σ)
    (owns : σ → UserId → Bool) : Prop extends StoreLegible answer outlook owns where
  cache : ∀ query state, query.dropped = none → outlook.working state →
    (answer (.cache query) state).1 = .ok (query.answerFrom (outlook.view state)) ∧
      outlook.working (answer (.cache query) state).2 ∧
        (outlook.view (answer (.cache query) state).2).Within
          (query.effectOn (outlook.view state))
  cacheApart : ∀ query state, query.dropped = none →
    outlook.facts (answer (.cache query) state).2 = outlook.facts state

theorem Lawful.legible {σ : Type} {answer : Plan.Answerer σ} {outlook : Outlook σ}
    (lawful : Lawful answer outlook) :
    Legible answer outlook fun state => (outlook.facts state).owns where
  store := lawful.store.store_reads
  storeApart query state _ := lawful.storeApart query state
  cache query state _ := lawful.cache query state
  cacheApart query state _ := lawful.cacheApart query state

/-- What reading may leave behind: the same facts, and in the cache no entries but those of before
and those that follow from the facts. -/
structure LeftByReading {σ : Type} (outlook : Outlook σ) (before after : σ) : Prop where
  facts : outlook.facts after = outlook.facts before
  working : outlook.working after
  found : ∀ key mask, outlook.view after key = some mask →
    outlook.view before key = some mask ∨ (outlook.facts before).mask key = some mask

def Settles {σ α : Type} (answer : Plan.Answerer σ) (outlook : Outlook σ) (plan : Plan α)
    (state : σ) (result : α) : Prop :=
  ∃ after, plan.run answer state = (result, after) ∧ LeftByReading outlook state after

variable {σ α β : Type} {answer : Plan.Answerer σ} {outlook : Outlook σ} {state : σ}

/-! Running attempts. -/

theorem run_attempt_ok {first : Attempt α} {middle : α} {after : σ}
    (ran : first.run.run answer state = (.ok middle, after)) (rest : α → Attempt β) :
    (first >>= rest).run.run answer state = (rest middle).run.run answer after := by
  change (first.run >>= ExceptT.bindCont rest).run answer state = _
  rw [Plan.run_bind, ran]
  rfl

theorem run_attempt_error {first : Attempt α} {problem : AccessError} {after : σ}
    (ran : first.run.run answer state = (.error problem, after)) (rest : α → Attempt β) :
    (first >>= rest).run.run answer state = (.error problem, after) := by
  change (first.run >>= ExceptT.bindCont rest).run answer state = _
  rw [Plan.run_bind, ran]
  rfl

theorem run_attempt_lift {plan : Plan α} {result : α} {after : σ}
    (ran : plan.run answer state = (result, after)) :
    (liftM plan : Attempt α).run.run answer state = (.ok result, after) := by
  change (plan >>= fun given => pure (Except.ok given)).run answer state = _
  rw [Plan.run_bind, ran]
  rfl

theorem run_attempt_store {query : StoreQuery} {reply : query.Reply}
    (replied : (answer (.store query) state).1 = reply) :
    (Attempt.store query).run.run answer state = (reply, (answer (.store query) state).2) :=
  Prod.ext replied rfl

/-! Settling. -/

theorem left_by_reading_refl (works : outlook.working state) :
    LeftByReading outlook state state :=
  ⟨rfl, works, fun _ _ found => .inl found⟩

theorem left_by_reading_trans {between after : σ} (start : LeftByReading outlook state between)
    (further : LeftByReading outlook between after) : LeftByReading outlook state after where
  facts := further.facts.trans start.facts
  working := further.working
  found key mask present := by
    rcases further.found key mask present with before | follows
    · exact start.found key mask before
    · rw [start.facts] at follows
      exact .inr follows

theorem settles_pure (works : outlook.working state) (result : α) :
    Settles answer outlook (pure result) state result :=
  ⟨state, rfl, left_by_reading_refl works⟩

theorem settles_bind {first : Plan α} {rest : α → Plan β} {middle : α} {result : β}
    (start : Settles answer outlook first state middle)
    (further : ∀ between, LeftByReading outlook state between →
      Settles answer outlook (rest middle) between result) :
    Settles answer outlook (first >>= rest) state result := by
  obtain ⟨between, ran, left⟩ := start
  obtain ⟨after, ranRest, leftRest⟩ := further between left
  refine ⟨after, ?_, left_by_reading_trans left leftRest⟩
  rw [Plan.run_bind, ran]
  exact ranRest

theorem settles_attempt_bind {first : Attempt α} {rest : α → Attempt β} {middle : α}
    {result : Except AccessError β}
    (start : Settles answer outlook first.run state (.ok middle))
    (further : ∀ between, LeftByReading outlook state between →
      Settles answer outlook (rest middle).run between result) :
    Settles answer outlook (first >>= rest).run state result :=
  settles_bind start further

theorem settles_attempt_error {first : Attempt α} {rest : α → Attempt β} {problem : AccessError}
    (start : Settles answer outlook first.run state (.error problem)) :
    Settles answer outlook (first >>= rest).run state (.error problem) :=
  settles_bind start fun _ left => settles_pure left.working _

theorem settles_attempt_pure (works : outlook.working state) (result : α) :
    Settles answer outlook (pure result : Attempt α).run state (.ok result) :=
  settles_pure works (Except.ok result)

theorem settles_attempt_lift {plan : Plan α} {result : α}
    (settles : Settles answer outlook plan state result) :
    Settles answer outlook (liftM plan : Attempt α).run state (.ok result) :=
  settles_bind settles fun _ left => settles_pure left.working _

/-! Single requests. -/

variable {owns : σ → UserId → Bool}

theorem settles_store (legible : StoreLegible answer outlook owns)
    (works : outlook.working state) {query : StoreQuery} (reads : query.reads = true)
    {reply : query.Reply} (replies : (answer (.store query) state).1 = reply) :
    Settles answer outlook (Attempt.store query).run state reply := by
  obtain ⟨stillWorks, sameView⟩ := legible.storeApart query state reads works
  refine ⟨(answer (.store query) state).2, Prod.ext replies rfl, ?_⟩
  refine ⟨legible.store.factsKept query state reads, stillWorks, ?_⟩
  intro key mask found
  rw [sameView] at found
  exact .inl found

theorem settles_cache (legible : Legible answer outlook owns) (works : outlook.working state)
    {query : CacheQuery} (keeps : query.dropped = none)
    (correct : ∀ key mask, query.written key = some mask →
      (outlook.facts state).mask key = some mask) :
    Settles answer outlook (Plan.cache query) state
      (.ok (query.answerFrom (outlook.view state))) := by
  obtain ⟨replies, stillWorks, within⟩ := legible.cache query state keeps works
  refine ⟨(answer (.cache query) state).2, Prod.ext replies rfl, ?_⟩
  refine ⟨legible.cacheApart query state keeps, stillWorks, ?_⟩
  intro key mask found
  have effect := within key mask found
  rw [CacheQuery.effectOn, query.drops_eq_false keeps, if_neg Bool.false_ne_true] at effect
  rcases Option.or_eq_some_iff.mp effect with written | ⟨_, before⟩
  · exact .inr (correct key mask written)
  · exact .inl before

end ChannelAccess
