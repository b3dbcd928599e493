import ChannelAccess.Proofs.Invalidation.Effect
import Mathlib.Data.List.Nodup
import Mathlib.Data.List.Perm.Subperm

/-!
# Coalescing leaves nothing superfluous

What is left of a batch are its widest scopes, each once and in the order in which they
first occur. None of them covers another, and each covers an entry that no other one
covers, so a cache with that entry tells the result from any shorter one. Since the
widest scopes depend only on which scopes the batch has, coalescing again changes
nothing, and neither does the order of the batch but for the order of the result.
-/

namespace ChannelAccess

set_option autoImplicit false

/-- A list that is shorter than the number of identifiers leaves one of them out. -/
theorem Uuid.exists_not_mem {ids : List Uuid} (few : ids.length < Nat.pow 2 128) :
    ∃ id, id ∉ ids := by
  by_contra all
  push Not at all
  let numbered := (List.range (ids.length + 1)).map Uuid.ofNat
  have distinct : numbered.Nodup := by
    refine List.Nodup.map_on ?_ List.nodup_range
    intro first small second smallToo same
    rw [List.mem_range] at small smallToo
    have sameNumber := congrArg Uuid.toNat same
    simp only [Uuid.toNat, Uuid.ofNat, BitVec.toNat_ofNat] at sameNumber
    rwa [Nat.mod_eq_of_lt (Nat.lt_of_lt_of_le small few),
      Nat.mod_eq_of_lt (Nat.lt_of_lt_of_le smallToo few)] at sameNumber
  have within : numbered ⊆ ids := fun id _ => all id
  have atMost := (List.subperm_of_subset distinct within).length_le
  simp only [numbered, List.length_map, List.length_range] at atMost
  omega

namespace Invalidation

def StrictlySubsumes (wider scope : Invalidation) : Prop :=
  wider.Subsumes scope ∧ ¬scope.Subsumes wider

/-- The ways in which a scope contains another: it is the same, or everything, or that of the user
or the channel of an entry. -/
inductive Contains : Invalidation → Invalidation → Prop where
  | itself (scope : Invalidation) : Contains scope scope
  | everything (scope : Invalidation) : Contains .all scope
  | ofItsUser (user : UserId) (channel : ChannelId) :
      Contains (.ofUser user) (.ofEntry user channel)
  | ofItsChannel (user : UserId) (channel : ChannelId) :
      Contains (.ofChannel channel) (.ofEntry user channel)

def namedUser? : Invalidation → Option UserId
  | .ofUser user => some user
  | .ofEntry user _ => some user
  | _ => none

def namedChannel? : Invalidation → Option ChannelId
  | .ofChannel channel => some channel
  | .ofEntry _ channel => some channel
  | _ => none

variable {batch : List Invalidation} {wider scope : Invalidation} {user : UserId}
  {channel : ChannelId}

/-! Scopes and what they cover. -/

theorem subsumes_of_contains (contains : wider.Contains scope) : wider.Subsumes scope := by
  cases contains with
  | itself => exact fun _ _ covered => covered
  | everything => exact fun _ _ _ => rfl
  | ofItsUser => exact fun _ _ covered => (Bool.and_eq_true_iff.mp covered).1
  | ofItsChannel => exact fun _ _ covered => (Bool.and_eq_true_iff.mp covered).2

theorem contains_of_unnamed_channel (unnamed : wider.namedChannel? ≠ some channel)
    (covered : wider.covers user channel = true) : wider.Contains (.ofUser user) := by
  cases wider with
  | all => exact .everything _
  | ofChannel other => simp_all [covers, namedChannel?]
  | ofUser other =>
      rw [show other = user by simpa [covers] using covered]
      exact .itself _
  | ofEntry other otherChannel => simp_all [covers, namedChannel?]

theorem contains_of_unnamed_user (unnamed : wider.namedUser? ≠ some user)
    (covered : wider.covers user channel = true) : wider.Contains (.ofChannel channel) := by
  cases wider with
  | all => exact .everything _
  | ofUser other => simp_all [covers, namedUser?]
  | ofChannel other =>
      rw [show other = channel by simpa [covers] using covered]
      exact .itself _
  | ofEntry otherUser other => simp_all [covers, namedUser?]

theorem contains_of_entry (covered : wider.covers user channel = true) :
    wider.Contains (.ofEntry user channel) := by
  cases wider with
  | all => exact .everything _
  | ofUser other =>
      rw [show other = user by simpa [covers] using covered]
      exact .ofItsUser user channel
  | ofChannel other =>
      rw [show other = channel by simpa [covers] using covered]
      exact .ofItsChannel user channel
  | ofEntry otherUser otherChannel =>
      obtain ⟨rfl, rfl⟩ : otherUser = user ∧ otherChannel = channel := by
        simpa [covers] using covered
      exact .itself _

theorem exists_unnamed {scopes : List Invalidation} (few : scopes.length < Nat.pow 2 128)
    (named : Invalidation → Option Uuid) : ∃ id, ∀ scope ∈ scopes, named scope ≠ some id := by
  have fewer : (scopes.filterMap named).length < Nat.pow 2 128 :=
    Nat.lt_of_le_of_lt (List.length_filterMap_le named scopes) few
  obtain ⟨id, unnamed⟩ := Uuid.exists_not_mem fewer
  exact ⟨id, fun scope member same => unnamed (List.mem_filterMap.mpr ⟨scope, member, same⟩)⟩

/-- Every scope covers an entry that no scope of a list covers but those that contain it: one in a
channel, or of a user, that none of them names. -/
theorem exists_own_entry {scopes : List Invalidation} (few : scopes.length < Nat.pow 2 128)
    (scope : Invalidation) :
    ∃ user channel, scope.covers user channel = true ∧
      ∀ other ∈ scopes, other.covers user channel = true → other.Contains scope := by
  obtain ⟨someUser, unnamedUser⟩ := exists_unnamed few namedUser?
  obtain ⟨someChannel, unnamedChannel⟩ := exists_unnamed few namedChannel?
  cases scope with
  | all =>
      refine ⟨someUser, someChannel, rfl, ?_⟩
      intro other member covered
      have forUser := contains_of_unnamed_channel (unnamedChannel other member) covered
      have unnamed := unnamedUser other member
      cases forUser with
      | itself => exact absurd rfl unnamed
      | everything => exact .everything _
  | ofUser user =>
      refine ⟨user, someChannel, by simp [covers], ?_⟩
      intro other member covered
      exact contains_of_unnamed_channel (unnamedChannel other member) covered
  | ofChannel channel =>
      refine ⟨someUser, channel, by simp [covers], ?_⟩
      intro other member covered
      exact contains_of_unnamed_user (unnamedUser other member) covered
  | ofEntry user channel =>
      refine ⟨user, channel, by simp [covers], ?_⟩
      intro other _ covered
      exact contains_of_entry covered

theorem subsumes_iff_contains : wider.Subsumes scope ↔ wider.Contains scope := by
  constructor
  · intro subsumes
    have single : [wider].length < Nat.pow 2 128 := by simp
    obtain ⟨user, channel, covered, only⟩ := exists_own_entry single scope
    exact only wider List.mem_cons_self (subsumes user channel covered)
  · exact subsumes_of_contains

theorem subsumes_antisymm (first : wider.Subsumes scope) (second : scope.Subsumes wider) :
    wider = scope := by
  rw [subsumes_iff_contains] at first second
  cases first with
  | itself => rfl
  | everything => cases second <;> rfl
  | ofItsUser => nomatch second
  | ofItsChannel => nomatch second

theorem strictly_subsumes_of_ne (subsumes : wider.Subsumes scope) (apart : wider ≠ scope) :
    wider.StrictlySubsumes scope :=
  ⟨subsumes, fun back => apart (subsumes_antisymm subsumes back)⟩

/-! What is left of a batch. -/

theorem coalesce_of_all (whole : Invalidation.all ∈ batch) : coalesce batch = [.all] :=
  if_pos (List.contains_iff_mem.mpr whole)

theorem absorbed_of_strictly_subsumed (partial_batch : Invalidation.all ∉ batch)
    (member : wider ∈ batch) (strictly : wider.StrictlySubsumes scope) :
    scope.absorbed batch = true := by
  have contains := subsumes_iff_contains.mp strictly.1
  cases contains with
  | itself => exact absurd strictly.1 strictly.2
  | everything => exact absurd member partial_batch
  | ofItsUser user channel => simp [absorbed, member]
  | ofItsChannel user channel => simp [absorbed, member]

theorem mem_coalesce_iff_widest (batch : List Invalidation) (scope : Invalidation) :
    scope ∈ coalesce batch ↔
      scope ∈ batch ∧ ∀ other ∈ batch, ¬other.StrictlySubsumes scope := by
  by_cases whole : Invalidation.all ∈ batch
  · rw [coalesce_of_all whole, List.mem_singleton]
    constructor
    · rintro rfl
      exact ⟨whole, fun other _ strictly => strictly.2 fun _ _ _ => rfl⟩
    · rintro ⟨_, widest⟩
      by_contra apart
      exact widest .all whole (strictly_subsumes_of_ne (fun _ _ _ => rfl) (Ne.symm apart))
  · rw [mem_coalesce whole]
    refine and_congr_right fun _ => ?_
    constructor
    · intro stays other member strictly
      rw [absorbed_of_strictly_subsumed whole member strictly] at stays
      contradiction
    · intro widest
      rw [← Bool.not_eq_true]
      intro absorbed
      obtain ⟨wider, member, stays, subsumes⟩ := kept_of_absorbed absorbed
      have apart : wider ≠ scope := by
        rintro rfl
        rw [absorbed] at stays
        contradiction
      exact widest wider member (strictly_subsumes_of_ne subsumes apart)

theorem mem_coalesce_congr {other : List Invalidation}
    (same : ∀ scope, scope ∈ other ↔ scope ∈ batch) (scope : Invalidation) :
    scope ∈ coalesce other ↔ scope ∈ coalesce batch := by
  simp only [mem_coalesce_iff_widest, same]

theorem eq_of_subsumes_in_coalesce (stays : scope ∈ coalesce batch)
    (widerStays : wider ∈ coalesce batch) (subsumes : wider.Subsumes scope) : wider = scope := by
  by_contra apart
  exact ((mem_coalesce_iff_widest batch scope).mp stays).2 wider (mem_of_mem_coalesce widerStays)
    (strictly_subsumes_of_ne subsumes apart)

/-! The order of what is left. -/

def Precedes (batch : List Invalidation) (first second : Invalidation) : Prop :=
  batch.idxOf first < batch.idxOf second

theorem precedes_cons {head : Invalidation} {first second : Invalidation}
    (laterFirst : first ≠ head) (laterSecond : second ≠ head) :
    Precedes (head :: batch) first second ↔ Precedes batch first second := by
  rw [Precedes, List.idxOf_cons_ne _ laterFirst.symm, List.idxOf_cons_ne _ laterSecond.symm,
    Nat.succ_lt_succ_iff, Precedes]

theorem precedes_head {head second : Invalidation} (later : second ≠ head) :
    Precedes (head :: batch) head second := by
  rw [Precedes, List.idxOf_cons_self, List.idxOf_cons_ne _ later.symm]
  exact Nat.succ_pos _

theorem first_occurrences_in_order (seen batch : List Invalidation) :
    (firstOccurrences seen batch).Pairwise (Precedes batch) := by
  induction batch generalizing seen with
  | nil => exact .nil
  | cons head rest ih =>
      -- Neither an element that was seen before nor the head itself occurs later.
      have shifted {known : List Invalidation} (headKnown : head ∈ known) :
          (firstOccurrences known rest).Pairwise (Precedes (head :: rest)) := by
        refine List.Pairwise.imp_of_mem ?_ (ih known)
        intro first second firstMember secondMember precedes
        have notHead {scope : Invalidation} (member : scope ∈ firstOccurrences known rest) :
            scope ≠ head := by
          rintro rfl
          exact ((mem_first_occurrences known rest scope).mp member).2 headKnown
        exact (precedes_cons (notHead firstMember) (notHead secondMember)).mpr precedes
      rw [firstOccurrences]
      split
      case isTrue known => exact shifted (List.contains_iff_mem.mp known)
      case isFalse =>
        refine List.pairwise_cons.mpr ⟨?_, shifted List.mem_cons_self⟩
        intro later member
        apply precedes_head
        rintro rfl
        exact ((mem_first_occurrences _ _ _).mp member).2 List.mem_cons_self

theorem precedes_of_filter {kept : Invalidation → Bool} {first second : Invalidation}
    (firstKept : kept first = true) (secondKept : kept second = true)
    (precedes : Precedes (batch.filter kept) first second) : Precedes batch first second := by
  induction batch with
  | nil => exact precedes
  | cons head rest ih =>
      by_cases headFirst : first = head
      · subst headFirst
        have apart : second ≠ first := by
          rintro rfl
          exact Nat.lt_irrefl _ precedes
        exact precedes_head apart
      · by_cases headSecond : second = head
        · subst headSecond
          rw [Precedes, List.filter_cons_of_pos secondKept, List.idxOf_cons_self] at precedes
          exact absurd precedes (Nat.not_lt_zero _)
        · rw [precedes_cons headFirst headSecond]
          apply ih
          cases stays : kept head with
          | true =>
              rw [List.filter_cons_of_pos stays, precedes_cons headFirst headSecond] at precedes
              exact precedes
          | false => rwa [List.filter_cons_of_neg (by simp [stays])] at precedes

theorem coalesce_in_order (batch : List Invalidation) :
    (coalesce batch).Pairwise (Precedes batch) := by
  rw [coalesce]
  split
  · exact List.pairwise_singleton _ _
  · refine List.Pairwise.imp_of_mem ?_ (first_occurrences_in_order [] _)
    intro first second firstMember secondMember precedes
    have kept {scope : Invalidation} (member : scope ∈ firstOccurrences []
        (batch.filter fun scope => !scope.absorbed batch)) : (!scope.absorbed batch) = true :=
      (List.mem_filter.mp ((mem_first_occurrences _ _ _).mp member).1).2
    exact precedes_of_filter (kept firstMember) (kept secondMember) precedes

theorem nodup_coalesce (batch : List Invalidation) : (coalesce batch).Nodup :=
  (coalesce_in_order batch).imp fun precedes same => by
    rw [same] at precedes
    exact Nat.lt_irrefl _ precedes

theorem first_occurrences_of_nodup {seen batch : List Invalidation} (distinct : batch.Nodup)
    (unseen : ∀ scope ∈ batch, scope ∉ seen) : firstOccurrences seen batch = batch := by
  induction batch generalizing seen with
  | nil => rfl
  | cons head rest ih =>
      obtain ⟨headLater, distinctRest⟩ := List.nodup_cons.mp distinct
      have headUnseen := unseen head List.mem_cons_self
      rw [firstOccurrences, if_neg (by rwa [List.contains_iff_mem])]
      refine congrArg (head :: ·) (ih distinctRest ?_)
      intro scope member known
      rcases List.mem_cons.mp known with here | before
      · exact headLater (here ▸ member)
      · exact unseen scope (List.mem_cons_of_mem _ member) before

theorem coalesce_coalesce (batch : List Invalidation) :
    coalesce (coalesce batch) = coalesce batch := by
  by_cases whole : Invalidation.all ∈ batch
  · rw [coalesce_of_all whole]
    exact coalesce_of_all List.mem_cons_self
  · have partial_result : Invalidation.all ∉ coalesce batch := fun stays =>
      whole (mem_of_mem_coalesce stays)
    have allKept : (coalesce batch).filter (fun scope => !scope.absorbed (coalesce batch)) =
        coalesce batch := by
      rw [List.filter_eq_self]
      intro scope stays
      rw [Bool.not_eq_true', ← Bool.not_eq_true]
      intro absorbed
      -- What would absorb it is left too, and none of those that are left contains another.
      obtain ⟨wider, widerStays, free, subsumes⟩ := kept_of_absorbed absorbed
      rw [eq_of_subsumes_in_coalesce stays widerStays subsumes, absorbed] at free
      contradiction
    rw [coalesce.eq_def (coalesce batch), if_neg (by rwa [List.contains_iff_mem]), allKept]
    exact first_occurrences_of_nodup (nodup_coalesce batch) fun _ _ => List.not_mem_nil

theorem coalesce_perm {other : List Invalidation} (arranged : other.Perm batch) :
    (coalesce other).Perm (coalesce batch) :=
  (List.perm_ext_iff_of_nodup (nodup_coalesce other) (nodup_coalesce batch)).mpr
    (mem_coalesce_congr fun _ => arranged.mem_iff)

theorem length_coalesce_le (batch : List Invalidation) : (coalesce batch).length ≤ batch.length :=
  (List.subperm_of_subset (nodup_coalesce batch) fun _ stays => mem_of_mem_coalesce stays).length_le

theorem entry_mem_coalesce_iff (batch : List Invalidation) (user : UserId) (channel : ChannelId) :
    .ofEntry user channel ∈ coalesce batch ↔
      .ofEntry user channel ∈ batch ∧ .all ∉ batch ∧ .ofUser user ∉ batch ∧
        .ofChannel channel ∉ batch := by
  rw [mem_coalesce_iff_widest]
  refine and_congr_right fun _ => ?_
  constructor
  · intro widest
    have absent {wider : Invalidation} (contains : wider.Contains (.ofEntry user channel))
        (apart : wider ≠ .ofEntry user channel) : wider ∉ batch := fun member =>
      widest wider member (strictly_subsumes_of_ne (subsumes_of_contains contains) apart)
    exact ⟨absent (.everything _) nofun, absent (.ofItsUser user channel) nofun,
      absent (.ofItsChannel user channel) nofun⟩
  · rintro ⟨noAll, noUser, noChannel⟩ other member strictly
    cases subsumes_iff_contains.mp strictly.1 with
    | itself => exact strictly.2 strictly.1
    | everything => exact noAll member
    | ofItsUser => exact noUser member
    | ofItsChannel => exact noChannel member

end Invalidation

namespace CacheState

theorem slot_reply_set {unused : CacheState} (empty : unused.Unused) (user : UserId)
    (channel : ChannelId) (mask : Mask) :
    ((unused.reply (.set user channel mask)).2.slot? ⟨user, channel⟩).isSome := by
  cases unused with
  | inProcess cache =>
      obtain ⟨seconds, rfl⟩ := empty
      simp [reply, slot?, InProcessCache.reply, InProcessCache.write, InProcessCache.fresh,
        InProcessCache.sweepEvery]
  | shared cache server =>
      obtain ⟨fits, untouched⟩ := empty
      have serves := SharedCache.serves_untouched untouched
      obtain ⟨after, replied, servesAfter⟩ := reply_shared serves fits (.set user channel mask)
      rw [replied, slot?, servesAfter.depicts.entry, Option.isSome_map]
      simp [CacheQuery.entries, Holdings.after, Holdings.writeAll, Holdings.write,
        Holdings.entry_write_entry]

end CacheState

namespace Invalidation

variable {batch : List Invalidation} {scope : Invalidation}

theorem exists_entry_kept_without (few : batch.length < Nat.pow 2 128)
    (stays : scope ∈ coalesce batch) :
    ∃ user channel, ((coalesce batch).any fun other => other.covers user channel) = true ∧
      (((coalesce batch).erase scope).any fun other => other.covers user channel) = false := by
  have fewer : (coalesce batch).length < Nat.pow 2 128 :=
    Nat.lt_of_le_of_lt (length_coalesce_le batch) few
  obtain ⟨user, channel, covered, only⟩ := exists_own_entry fewer scope
  refine ⟨user, channel, List.any_eq_true.mpr ⟨scope, stays, covered⟩, ?_⟩
  rw [List.any_eq_false]
  intro other member coveredToo
  obtain ⟨apart, otherStays⟩ := (nodup_coalesce batch).mem_erase_iff.mp member
  have subsumes := subsumes_of_contains (only other otherStays coveredToo)
  exact apart (eq_of_subsumes_in_coalesce stays otherStays subsumes)

/-- Coalescing leaves everything alone if everything is in the batch. Otherwise it leaves the scopes
of the batch that no other one strictly subsumes, each once and in the order of their first
occurrences; an entry is left if neither its user nor its channel is there. None of these covers
another. Without any of them an entry that the batch drops would stay, whichever cache it is in.
Coalescing again changes nothing, and another order of the batch only the order of what is left.

A batch as long as there are identifiers could name every channel, and a user besides would then not
be needed; none that a memory holds is that long. -/
theorem coalesced_least_and_stable (batch : List Invalidation) :
    (.all ∈ batch → coalesce batch = [.all]) ∧
    (∀ scope, scope ∈ coalesce batch ↔
      scope ∈ batch ∧ ∀ other ∈ batch, ¬other.StrictlySubsumes scope) ∧
    (∀ user channel, .ofEntry user channel ∈ coalesce batch ↔
      .ofEntry user channel ∈ batch ∧ .all ∉ batch ∧ .ofUser user ∉ batch ∧
        .ofChannel channel ∉ batch) ∧
    (coalesce batch).Nodup ∧ (coalesce batch).Pairwise (Precedes batch) ∧
    (∀ scope ∈ coalesce batch, ∀ other ∈ coalesce batch, other.Subsumes scope → other = scope) ∧
    (batch.length < Nat.pow 2 128 → ∀ scope ∈ coalesce batch, ∃ user channel,
      ∀ (σ : Type) (reply : StoreReply σ) (unused : World σ), unused.cache.Unused → ∀ mask,
        let filled := { unused with cache := (unused.cache.reply (.set user channel mask)).2 }
        let left (scopes : List Invalidation) : Option Slot :=
          (filled.carryOut reply (Publisher.applyAll scopes)).2.cache.slot? ⟨user, channel⟩
        left (coalesce batch) = none ∧ (left ((coalesce batch).erase scope)).isSome) ∧
    coalesce (coalesce batch) = coalesce batch ∧
    ∀ other : List Invalidation, other.Perm batch → (coalesce other).Perm (coalesce batch) := by
  refine ⟨coalesce_of_all, mem_coalesce_iff_widest batch, entry_mem_coalesce_iff batch,
    nodup_coalesce batch, coalesce_in_order batch, ?_, ?needed, coalesce_coalesce batch,
    fun other => coalesce_perm⟩
  · intro scope stays other otherStays subsumes
    exact eq_of_subsumes_in_coalesce stays otherStays subsumes
  case needed =>
    intro few scope stays
    obtain ⟨user, channel, covered, uncovered⟩ := exists_entry_kept_without few stays
    refine ⟨user, channel, ?_⟩
    intro σ reply unused empty mask filled left
    have droppable : filled.cache.Droppable :=
      CacheState.droppable_of_used empty [.set user channel mask]
    have applied (scopes : List Invalidation) :
        left scopes = if scopes.any fun other => other.covers user channel then none
          else filled.cache.slot? ⟨user, channel⟩ := by
      simp only [left, World.carry_out_apply_all]
      exact CacheState.slot_drop_all droppable scopes ⟨user, channel⟩
    rw [applied, applied, if_pos covered, uncovered, if_neg Bool.false_ne_true]
    exact ⟨rfl, CacheState.slot_reply_set empty user channel mask⟩

/-- An entry, its user, another entry, a channel and the user again, and the same the other way
round. The user is needed: without it an entry of the user stays in a cache in the process. -/
theorem coalesced_least_and_stable_on_repetitions :
    let user : UserId := .ofNat 1
    let other : UserId := .ofNat 2
    let channel : ChannelId := .ofNat 3
    let elsewhere : ChannelId := .ofNat 4
    let batch : List Invalidation := [.ofEntry user elsewhere, .ofUser user,
      .ofEntry other elsewhere, .ofChannel channel, .ofUser user]
    let unused : World Directory :=
      ⟨⟨.ofNat 1, ∅, ∅, ∅, [], none, 0, false⟩, .inProcess (.fresh 300), none⟩
    coalesce batch = [.ofUser user, .ofEntry other elsewhere, .ofChannel channel] ∧
      coalesce batch.reverse = [.ofUser user, .ofChannel channel, .ofEntry other elsewhere] ∧
      (coalesce batch.reverse).Perm (coalesce batch) ∧
      batch.length < Nat.pow 2 128 ∧ .ofUser user ∈ coalesce batch ∧ unused.cache.Unused ∧
      ∃ keptUser keptChannel,
        let cache := (unused.cache.reply (.set keptUser keptChannel .all)).2
        let filled := { unused with cache := cache }
        let left (scopes : List Invalidation) : Option Slot :=
          (filled.carryOut (fun query => Directory.reply query)
            (Publisher.applyAll scopes)).2.cache.slot? ⟨keptUser, keptChannel⟩
        left (coalesce batch) = none ∧
          (left [.ofEntry other elsewhere, .ofChannel channel]).isSome := by
  intro user other channel elsewhere batch unused
  have few : batch.length < Nat.pow 2 128 := by decide
  have stays : .ofUser user ∈ coalesce batch := by decide
  have empty : unused.cache.Unused := ⟨300, rfl⟩
  obtain ⟨_, _, _, _, _, _, needed, _, rearranged⟩ := coalesced_least_and_stable batch
  obtain ⟨keptUser, keptChannel, tells⟩ := needed few (.ofUser user) stays
  refine ⟨by decide, by decide, rearranged _ (List.reverse_perm batch), few, stays, empty,
    keptUser, keptChannel, ?_⟩
  exact tells Directory (fun query => Directory.reply query) unused empty .all

end Invalidation

end ChannelAccess
