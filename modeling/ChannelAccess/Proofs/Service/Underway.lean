import ChannelAccess.Proofs.Service.Interleaving

/-!
# Tasks that are under way

What is known of a task after some of its requests, whatever others have done in
between. A resolve that has begun to read goes on as it would on the facts as they are
now, unless a change that makes its key stale was persisted since. A mutation writes no
entries, and owes the drop of what it has made stale.
-/

namespace ChannelAccess

set_option autoImplicit false

theorem found_append_left {α : Type} {first : List α} {index : Nat} {item : α}
    (found : first[index]? = some item) (second : List α) :
    (first ++ second)[index]? = some item := by
  obtain ⟨bound, _⟩ := List.getElem?_eq_some_iff.mp found
  rw [List.getElem?_append_left bound, found]

theorem found_append_cases {α : Type} {first second : List α} {index : Nat} {item : α}
    (found : (first ++ second)[index]? = some item) :
    first[index]? = some item ∨
      ∃ place, index = first.length + place ∧ second[place]? = some item := by
  rw [List.getElem?_append] at found
  split at found
  · exact .inl found
  · exact .inr ⟨index - first.length, by omega, found⟩

def Request.Touches (key : EntryKey) : Request → Prop
  | .cache query => query.written key ≠ none ∨ query.drops key = true
  | _ => False

/-- Whether a deed persists a change that makes a key stale. -/
def Deed.Disturbs (deed : Deed) (key : EntryKey) : Prop :=
  ∃ change, deed.act = .persisted change ∧
    Invalidation.AnyCovers change.invalidations key.user key.channel

def DisturbedSince (deeds : List Deed) (start : Nat) (key : EntryKey) : Prop :=
  ∃ (index : Nat) (deed : Deed), start ≤ index ∧ deeds[index]? = some deed ∧ deed.Disturbs key

/-- Something is so of the grounds of a key, unless they were disturbed since some point. -/
def HoldsSince (facts : Facts) (deeds : List Deed) (start : Nat) (key : EntryKey)
    (so : Facts.Grounds → Prop) : Prop :=
  so (facts.grounds key) ∨ DisturbedSince deeds start key

def Explained (before after : Facts) (more : List Deed) : Prop :=
  ∀ key, after.grounds key = before.grounds key ∨ ∃ deed ∈ more, deed.Disturbs key

variable {before after : Facts} {deeds more : List Deed} {start : Nat} {key : EntryKey}

theorem act_of_eq_asked {request other : Request} {reply : request.Reply}
    (asked : Act.of request reply = .asked other) : request = other := by
  unfold Act.of at asked
  split at asked
  · contradiction
  · contradiction
  · exact Act.asked.inj asked

theorem explained_refl (facts : Facts) (more : List Deed) : Explained facts facts more :=
  fun _ => .inl rfl

theorem disturbed_since_append (disturbed : DisturbedSince deeds start key) (more : List Deed) :
    DisturbedSince (deeds ++ more) start key := by
  obtain ⟨index, deed, late, noted, disturbs⟩ := disturbed
  exact ⟨index, deed, late, found_append_left noted more, disturbs⟩

theorem holds_since_append {so : Facts.Grounds → Prop}
    (holds : HoldsSince before deeds start key so) (early : start ≤ deeds.length)
    (explained : Explained before after more) : HoldsSince after (deeds ++ more) start key so := by
  rcases holds with now | disturbed
  · rcases explained key with same | ⟨deed, member, disturbs⟩
    · exact .inl (same ▸ now)
    · obtain ⟨place, noted⟩ := List.getElem?_of_mem member
      refine .inr ⟨deeds.length + place, deed, by omega, ?_, disturbs⟩
      rw [List.getElem?_append_right (by omega), Nat.add_sub_cancel_left, noted]
  · exact .inr (disturbed_since_append disturbed more)

theorem holds_since_weaken {so : Facts.Grounds → Prop}
    (holds : HoldsSince before deeds start key so) : HoldsSince before deeds 0 key so := by
  rcases holds with now | ⟨index, deed, _, noted, disturbs⟩
  · exact .inl now
  · exact .inr ⟨index, deed, Nat.zero_le _, noted, disturbs⟩

theorem explained_of_persisted {change : Change} (permits : change.Permits before after)
    (number : Nat) : Explained before after [⟨number, .persisted change⟩] := by
  intro key
  by_cases covered : Invalidation.AnyCovers change.invalidations key.user key.channel
  · exact .inr ⟨_, List.mem_singleton_self _, change, rfl, covered⟩
  · refine .inl (Facts.grounds_of_uncovered permits ?_)
    intro scope member
    exact Bool.eq_false_iff.mpr fun covers => covered ⟨scope, member, covers⟩

theorem holds_since_imp {so then_so : Facts.Grounds → Prop}
    (holds : HoldsSince before deeds start key so)
    (implies : ∀ grounds, so grounds → then_so grounds) :
    HoldsSince before deeds start key then_so :=
  holds.imp_left (implies _)

/-! What one request does. -/

namespace World

variable {σ : Type} {reply : StoreReply σ} {facts : σ → Facts} {world : World σ}

theorem working_after_answer (works : world.cache.Working) (request : Request) :
    (answer reply request world).2.cache.Working := by
  cases request with
  | store query => exact works
  | cache query => exact (CacheState.reply_working works query).2.1
  | enqueue scope =>
      rw [answer]
      split <;> exact works
  | report event => exact works

/-- A mask that is found after a request was written by it, or was found before and not touched. -/
theorem found_after_answer (works : world.cache.Working) {request : Request} {mask : Mask}
    (found : (answer reply request world).2.cache.view key = some mask) :
    (∃ query, request = .cache query ∧ query.written key = some mask) ∨
      ¬request.Touches key ∧ world.cache.view key = some mask := by
  cases request with
  | store query => exact .inr ⟨not_false, found⟩
  | cache query =>
      have effect := (CacheState.reply_working works query).2.2 key mask found
      cases written : query.written key with
      | some other =>
          rw [CacheQuery.effectOn, written, Option.some_or] at effect
          exact .inl ⟨query, rfl, written.trans effect⟩
      | none =>
          rw [CacheQuery.effectOn, written, Option.none_or] at effect
          obtain ⟨kept, before⟩ := Option.ite_none_left_eq_some.mp effect
          refine .inr ⟨?_, before⟩
          rintro (writes | drops)
          · exact writes written
          · exact kept drops
  | enqueue scope =>
      rw [answer] at found
      refine .inr ⟨not_false, ?_⟩
      split at found <;> exact found
  | report event => exact .inr ⟨not_false, found⟩

theorem facts_after_answer (answers : StoreAnswers reply facts) (request : Request)
    (world : World σ) :
    facts (answer reply request world).2.store = facts world.store ∨
      ∃ change, Act.of request (answer reply request world).1 = .persisted change ∧
        change.Permits (facts world.store) (facts (answer reply request world).2.store) := by
  cases request with
  | store query =>
      cases query with
      | setOverride channel principal allow deny =>
          obtain ⟨edited, refused⟩ := answers.setOverride world.store channel principal allow deny
          cases replied : (reply (.setOverride channel principal allow deny) world.store).1 with
          | error problem => exact .inl (refused problem replied)
          | ok row =>
              refine .inr ⟨.channelOverrides channel, ?_, edited⟩
              rw [answer, replied, Act.of]
      | deleteOverride channel principal =>
          obtain ⟨edited, refused⟩ := answers.deleteOverride world.store channel principal
          cases replied : (reply (.deleteOverride channel principal) world.store).1 with
          | error problem => exact .inl (refused problem replied)
          | ok row =>
              refine .inr ⟨.channelOverrides channel, ?_, edited⟩
              rw [answer, replied, Act.of]
      | _ => exact .inl (answers.reads _ world.store rfl)
  | cache query => exact .inl rfl
  | enqueue scope =>
      rw [answer]
      split <;> exact .inl rfl
  | report event => exact .inl rfl

theorem explained_of_answer (answers : StoreAnswers reply facts) (request : Request)
    (world : World σ) (number : Nat) :
    Explained (facts world.store) (facts (answer reply request world).2.store)
      [⟨number, .of request (answer reply request world).1⟩] := by
  rcases facts_after_answer answers request world with same | ⟨change, persisted, permits⟩
  · rw [same]
    exact explained_refl _ _
  · rw [persisted]
    exact explained_of_persisted permits number

theorem tells_answer (answers : StoreAnswers reply facts) (key : EntryKey) (request : Request)
    (world : World σ) :
    ((facts world.store).grounds key).Tells key request (answer reply request world).1 := by
  cases request with
  | store query =>
      cases query with
      | channel channel =>
          rintro rfl
          exact answers.channel world.store key.channel
      | isOwner user =>
          rintro rfl
          exact answers.isOwner world.store key.user
      | grants user =>
          rintro rfl
          exact answers.grants world.store key.user
      | overrides channel =>
          rintro rfl
          exact answers.overrides world.store key.channel
      | _ => trivial
  | _ => trivial

end World

/-! Resolves. -/

namespace Resolver

open Facts

/-- A plan is what is left of a resolve of a key that found nothing, and is on its course if the
grounds are known. -/
def Refilling (known : Option Grounds) (key : EntryKey) (rest : Plan (Except AccessError Mask)) :
    Prop :=
  rest.Keeps (refillTerms known key) fun result =>
    ∀ grounds ∈ known, result = grounds.result key

/-- How far a task has come with a resolve. -/
inductive Progress (facts : Facts) (deeds : List Deed) (number : Nat) (order : ReadOrder)
    (key : EntryKey) (rest : Plan (Except AccessError Mask)) : Prop where
  | fresh (same : (resolveInOrder order key.user key.channel).run = rest)
  | missed (same : (refill order key.user key.channel).run = rest)
  | reading (readAt : Nat) (query : StoreQuery)
      (noted : deeds[readAt]? = some ⟨number, .asked (.store query)⟩)
      (own : Refilling none key rest)
      (right : HoldsSince facts deeds readAt key fun grounds => Refilling (some grounds) key rest)
  | found (mask : Mask) (same : rest = .done (.ok mask))
      (right : HoldsSince facts deeds 0 key fun grounds => grounds.mask key.user = some mask)

variable {number : Nat} {order : ReadOrder}

theorem act_of_read {query : StoreQuery} (reads : query.reads = true) (reply : query.Reply) :
    Act.of (.store query) reply = .asked (.store query) := by
  cases query with
  | setOverride _ _ _ _ => contradiction
  | deleteOverride _ _ => contradiction
  | _ => rfl

theorem act_of_refills {known : Option Grounds} {request : Request}
    (refills : Refills known key request) (reply : request.Reply) :
    Act.of request reply = .asked request := by
  cases refills with
  | read query reads => exact act_of_read reads reply
  | write mask right => rfl
  | report event => rfl

theorem progress_append {rest : Plan (Except AccessError Mask)}
    (progress : Progress before deeds number order key rest)
    (explained : Explained before after more) :
    Progress after (deeds ++ more) number order key rest := by
  cases progress with
  | fresh same => exact .fresh same
  | missed same => exact .missed same
  | reading readAt query noted own right =>
      obtain ⟨bound, _⟩ := List.getElem?_eq_some_iff.mp noted
      exact .reading readAt query (found_append_left noted more) own
        (holds_since_append right (Nat.le_of_lt bound) explained)
  | found mask same right =>
      exact .found mask same (holds_since_append right (Nat.zero_le _) explained)

/-- A resolve asks the cache for its key, or makes a request of one that found nothing. When it
writes a mask it has read the store, from which the mask follows. -/
theorem progress_asks {facts : Facts} {request : Request}
    {next : request.Reply → Plan (Except AccessError Mask)}
    (progress : Progress facts deeds number order key (.ask request next)) :
    request = .cache (.get key.user key.channel) ∨
      Refills none key request ∧
        ∀ mask, request = .cache (.set key.user key.channel mask) →
          ∃ (readAt : Nat) (query : StoreQuery),
            deeds[readAt]? = some ⟨number, .asked (.store query)⟩ ∧
              HoldsSince facts deeds readAt key fun grounds =>
                grounds.mask key.user = some mask := by
  cases progress with
  | fresh same =>
      obtain ⟨after, asks, _, _⟩ := resolve_in_order_asks order key.user key.channel
      rw [asks] at same
      cases same
      exact .inl rfl
  | missed same =>
      obtain ⟨query, after, reads, asks⟩ := refill_asks order key.user key.channel
      rw [asks] at same
      cases same
      refine .inr ⟨.read query reads, ?_⟩
      intro mask writes
      contradiction
  | reading readAt query noted own right =>
      refine .inr ⟨own.1, ?_⟩
      rintro mask rfl
      refine ⟨readAt, query, noted, holds_since_imp right ?_⟩
      intro grounds refilling
      cases refilling.1 with
      | write _ follows => exact follows grounds rfl
  | found mask same right => contradiction

theorem progress_done {facts : Facts} {result : Except AccessError Mask}
    (progress : Progress facts deeds number order key (.done result)) :
    HoldsSince facts deeds 0 key fun grounds => result = grounds.result key := by
  cases progress with
  | fresh same =>
      obtain ⟨after, asks, _, _⟩ := resolve_in_order_asks order key.user key.channel
      rw [asks] at same
      contradiction
  | missed same =>
      obtain ⟨query, after, _, asks⟩ := refill_asks order key.user key.channel
      rw [asks] at same
      contradiction
  | reading readAt query noted own right =>
      apply holds_since_weaken
      apply holds_since_imp right
      intro grounds refilling
      exact refilling grounds rfl
  | found mask same right =>
      apply holds_since_imp right
      intro grounds follows
      rw [Plan.done.inj same, Grounds.result, follows]
      rfl

variable {σ : Type} {reply : StoreReply σ} {facts : σ → Facts} {world : World σ}

theorem facts_of_refills (answers : StoreAnswers reply facts) {known : Option Grounds}
    {request : Request} (refills : Refills known key request) :
    facts (World.answer reply request world).2.store = facts world.store := by
  cases refills with
  | read query reads => exact answers.reads query world.store reads
  | write mask right => rfl
  | report event => rfl

theorem refilling_any_reply {request : Request}
    {next : request.Reply → Plan (Except AccessError Mask)}
    (refilling : Refilling none key (.ask request next)) (reply : request.Reply) :
    Refilling none key (next reply) :=
  refilling.2 reply fun grounds member => absurd member (Option.not_mem_none grounds)

theorem refilling_answer (answers : StoreAnswers reply facts) {request : Request}
    {next : request.Reply → Plan (Except AccessError Mask)}
    (refilling : Refilling (some ((facts world.store).grounds key)) key (.ask request next)) :
    Refilling (some ((facts world.store).grounds key)) key
      (next (World.answer reply request world).1) := by
  apply refilling.2
  intro grounds member
  rw [← Option.some.inj member]
  exact World.tells_answer answers key request world

theorem progress_answer (answers : StoreAnswers reply facts) (works : world.cache.Working)
    (hits : ∀ mask, world.cache.view key = some mask →
      HoldsSince (facts world.store) deeds 0 key fun grounds => grounds.mask key.user = some mask)
    {request : Request} {next : request.Reply → Plan (Except AccessError Mask)}
    (progress : Progress (facts world.store) deeds number order key (.ask request next)) :
    Progress (facts (World.answer reply request world).2.store)
      (deeds ++ [⟨number, .of request (World.answer reply request world).1⟩]) number order key
      (next (World.answer reply request world).1) := by
  cases progress with
  | fresh same =>
      obtain ⟨after, asks, hit, miss⟩ := resolve_in_order_asks order key.user key.channel
      rw [asks] at same
      cases same
      have replied : (World.answer reply (.cache (.get key.user key.channel)) world).1 =
          .ok (world.cache.view key) :=
        (CacheState.reply_working works (.get key.user key.channel)).1
      rw [replied]
      cases found : world.cache.view key with
      | none => exact .missed miss.symm
      | some mask =>
          exact .found mask (hit mask)
            (holds_since_append (hits mask found) (Nat.zero_le _) (explained_refl _ _))
  | missed same =>
      obtain ⟨query, after, reads, asks⟩ := refill_asks order key.user key.channel
      have keeps (known : Option Grounds) : Refilling known key (.ask (.store query) after) :=
        asks ▸ keeps_refill order key.user key.channel
      rw [asks] at same
      cases same
      have sameFacts : facts (World.answer reply (.store query) world).2.store =
          facts world.store := answers.reads query world.store reads
      rw [act_of_read reads, sameFacts]
      exact .reading deeds.length query List.getElem?_concat_length
        (refilling_any_reply (keeps none) _) (.inl (refilling_answer answers (keeps (some _))))
  | reading readAt query noted own right =>
      -- The request changes no facts, so a course that is right stays so.
      rw [act_of_refills own.1, facts_of_refills answers own.1]
      refine .reading readAt query (found_append_left noted _) (refilling_any_reply own _) ?_
      exact right.imp (refilling_answer answers) fun disturbed =>
        disturbed_since_append disturbed _
  | found mask same right => contradiction

end Resolver

/-! Mutations. -/

/-- What is left of a mutation. It writes no entries, and after every change that it persists it
drops what the change makes stale. -/
def Plan.Clears {α : Type} : Plan α → Prop
  | .done _ => True
  | .ask request next =>
      (∀ query, request = .cache query → ∀ key, query.written key = none) ∧
        ∀ reply, (next reply).Clears ∧
          ∀ change, Act.of request reply = .persisted change →
            ∀ scope ∈ change.invalidations, (next reply).Owes (.cache (.drop scope))

namespace Mutation

variable {α β : Type}

theorem clears_bind {first : Plan α} {rest : α → Plan β} (start : first.Clears)
    (further : ∀ middle, (rest middle).Clears) : (first >>= rest).Clears := by
  induction first with
  | done middle => exact further middle
  | ask request next ih =>
      refine ⟨start.1, ?_⟩
      intro reply
      obtain ⟨clears, owes⟩ := start.2 reply
      refine ⟨ih reply clears, ?_⟩
      intro change persisted scope member
      exact Plan.owes_bind (.inl (owes change persisted scope member))

theorem clears_report (event : Event) : (Plan.report event).Clears := by
  refine ⟨by simp, ?_⟩
  intro _
  exact ⟨trivial, by simp [Act.of]⟩

theorem clears_report_overlap (row : Override) : (Service.reportOverlap row).Clears := by
  unfold Service.reportOverlap
  split
  · trivial
  · exact clears_report _

theorem clears_apply (scope : Invalidation) : (Publisher.apply scope).Clears := by
  refine ⟨?_, ?_⟩
  · intro query same key
    cases same
    exact CacheQuery.written_drop scope key
  · intro reply
    refine ⟨?_, by simp [Act.of]⟩
    cases reply with
    | ok _ => trivial
    | error problem => exact clears_report _

theorem owes_apply (scope : Invalidation) :
    (Publisher.apply scope).Owes (.cache (.drop scope)) :=
  .inl rfl

theorem clears_apply_all (scopes : List Invalidation) : (Publisher.applyAll scopes).Clears := by
  induction scopes with
  | nil => trivial
  | cons scope rest ih => exact clears_bind (clears_apply scope) fun _ => ih

theorem owes_apply_all {scopes : List Invalidation} {scope : Invalidation}
    (member : scope ∈ scopes) : (Publisher.applyAll scopes).Owes (.cache (.drop scope)) := by
  induction scopes with
  | nil => contradiction
  | cons first rest ih =>
      rcases List.mem_cons.mp member with rfl | later
      · exact Plan.owes_bind (.inl (owes_apply scope))
      · exact Plan.owes_bind (.inr fun _ => ih later)

theorem clears_edit {query : StoreQuery} {channel : ChannelId} {rest : query.Answer → Attempt β}
    (edits : ∀ answer, Act.of (.store query) (.ok answer) = .persisted (.channelOverrides channel))
    (refused : ∀ problem, Act.of (.store query) (.error problem) = .asked (.store query))
    (clears : ∀ answer, (rest answer).run.Clears)
    (owes : ∀ answer, (rest answer).run.Owes (.cache (.drop (.ofChannel channel)))) :
    (Attempt.store query >>= rest).run.Clears := by
  refine ⟨by simp, ?_⟩
  intro reply
  cases reply with
  | ok answer =>
      refine ⟨clears answer, ?_⟩
      intro change persisted scope member
      rw [edits] at persisted
      cases persisted
      rw [List.mem_singleton.mp member]
      exact owes answer
  | error problem => exact ⟨trivial, by simp [refused]⟩

theorem clears_plan (mutation : Mutation) : mutation.plan.Clears := by
  cases mutation with
  | applyChange change => exact clears_apply_all change.invalidations
  | deleteOverride channel principal =>
      refine clears_bind ?_ fun _ => ?_
      · apply clears_edit (fun _ => rfl) (fun _ => rfl)
        · intro _
          exact clears_bind (clears_apply _) fun _ => trivial
        · intro _
          exact Plan.owes_bind (.inl (owes_apply _))
      · trivial
  | setOverride channel principal allow deny =>
      refine clears_bind ?_ fun _ => ?_
      · unfold Service.setOverride
        cases allow.validated with
        | error problem => trivial
        | ok allow =>
            cases deny.validated with
            | error problem => trivial
            | ok deny =>
                apply clears_edit (fun _ => rfl) (fun _ => rfl)
                · intro row
                  rw [Attempt.run_lift_bind]
                  refine clears_bind (clears_report_overlap row) fun _ => ?_
                  rw [Attempt.run_lift_bind]
                  exact clears_bind (clears_apply _) fun _ => trivial
                · intro row
                  rw [Attempt.run_lift_bind]
                  refine Plan.owes_bind (.inr fun _ => ?_)
                  rw [Attempt.run_lift_bind]
                  exact Plan.owes_bind (.inl (owes_apply _))
      · trivial

end Mutation

/-! Tasks. -/

def Task.Sound (facts : Facts) (deeds : List Deed) (number : Nat) : Task → Prop
  | ⟨.resolve order user channel, rest⟩ =>
      Resolver.Progress facts deeds number order ⟨user, channel⟩ rest
  | ⟨.mutate _, rest⟩ => rest.Clears

namespace Task

variable {number : Nat} {errand : Errand}

theorem sound_append {task : Task} (sound : task.Sound before deeds number)
    (explained : Explained before after more) : task.Sound after (deeds ++ more) number := by
  obtain ⟨errand, rest⟩ := task
  cases errand with
  | resolve order user channel => exact Resolver.progress_append sound explained
  | mutate mutation => exact sound

theorem sound_accepted (facts : Facts) (deeds : List Deed) (number : Nat) (errand : Errand) :
    Sound facts deeds number ⟨errand, errand.plan⟩ := by
  cases errand with
  | resolve order user channel => exact .fresh rfl
  | mutate mutation => exact mutation.clears_plan

theorem sound_answer {σ : Type} {reply : StoreReply σ} {facts : σ → Facts} {world : World σ}
    (answers : StoreAnswers reply facts) (works : world.cache.Working)
    (hits : ∀ key mask, world.cache.view key = some mask →
      HoldsSince (facts world.store) deeds 0 key fun grounds => grounds.mask key.user = some mask)
    {request : Request} {next : request.Reply → Plan errand.Result}
    (sound : Sound (facts world.store) deeds number ⟨errand, .ask request next⟩) :
    Sound (facts (World.answer reply request world).2.store)
      (deeds ++ [⟨number, .of request (World.answer reply request world).1⟩]) number
      ⟨errand, next (World.answer reply request world).1⟩ := by
  cases errand with
  | resolve order user channel => exact Resolver.progress_answer answers works (hits _) sound
  | mutate mutation => exact (sound.2 _).1

theorem written_of_sound {facts : Facts} {query : CacheQuery} {key : EntryKey} {mask : Mask}
    {next : query.Reply → Plan errand.Result}
    (sound : Sound facts deeds number ⟨errand, .ask (.cache query) next⟩)
    (written : query.written key = some mask) :
    (∃ order, errand = .resolve order key.user key.channel) ∧
      query = .set key.user key.channel mask ∧
        ∃ (readAt : Nat) (read : StoreQuery),
          deeds[readAt]? = some ⟨number, .asked (.store read)⟩ ∧
            HoldsSince facts deeds readAt key fun grounds => grounds.mask key.user = some mask := by
  cases errand with
  | mutate mutation =>
      rw [sound.1 query rfl key] at written
      contradiction
  | resolve order user channel =>
      rcases Resolver.progress_asks sound with asks | ⟨refills, right⟩
      · cases asks
        simp [CacheQuery.written] at written
      · cases refills with
        | write given _ =>
            obtain ⟨rfl, rfl⟩ := by simpa [CacheQuery.written] using written
            exact ⟨⟨order, rfl⟩, rfl, right given rfl⟩

theorem persisted_of_sound {facts : Facts} {request : Request} {answer : request.Reply}
    {next : request.Reply → Plan errand.Result} {change : Change}
    (sound : Sound facts deeds number ⟨errand, .ask request next⟩)
    (persisted : Act.of request answer = .persisted change) :
    (∃ mutation, errand = .mutate mutation) ∧
      ∀ scope ∈ change.invalidations, (next answer).Owes (.cache (.drop scope)) := by
  cases errand with
  | mutate mutation => exact ⟨⟨mutation, rfl⟩, (sound.2 answer).2 change persisted⟩
  | resolve order user channel =>
      rcases Resolver.progress_asks sound with rfl | ⟨refills, _⟩
      · contradiction
      · rw [Resolver.act_of_refills refills] at persisted
        contradiction

end Task

end ChannelAccess
