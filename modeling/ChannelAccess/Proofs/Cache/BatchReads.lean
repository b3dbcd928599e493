import ChannelAccess.Proofs.Cache.Lookups
import ChannelAccess.Proofs.Traversal

/-!
# Batched reads of the shared cache

A batched read gets the texts under the keys of its entries in one answer, in the order of
the identifiers asked for, and files what it makes of each text under the identifier in the
same place. Whatever the server holds, it comes to what single reads of these entries come
to: the masks that they find, unless one of them comes upon a text that is no mask.
-/

namespace ChannelAccess.SharedCache

set_option autoImplicit false

/-- What a batched read is to come to, told by the replies to single reads. Their masks are filed
under the identifiers asked for. A text that is no mask fails the whole, and of several the one that
is asked for first. -/
inductive BatchVerdict (single : Uuid → Except CacheError (Option Mask)) (ids : List Uuid) :
    Except CacheError (IdMap Mask) → Prop where
  | found (hits : IdMap Mask)
      (legible : ∀ id ∈ ids, ∀ raw, single id ≠ .error (.malformed raw))
      (exactly : ∀ id mask, hits[id]? = some mask ↔ id ∈ ids ∧ single id = .ok (some mask)) :
      BatchVerdict single ids (.ok hits)
  | malformed (before : List Uuid) (id : Uuid) (after : List Uuid) (raw : String)
      (asked : ids = before ++ id :: after)
      (legible : ∀ earlier ∈ before, ∀ raw, single earlier ≠ .error (.malformed raw))
      (bad : single id = .error (.malformed raw)) :
      BatchVerdict single ids (.error (.malformed raw))

theorem BatchVerdict.unique {single : Uuid → Except CacheError (Option Mask)} {ids : List Uuid}
    {first second : Except CacheError (IdMap Mask)} (one : BatchVerdict single ids first)
    (other : BatchVerdict single ids second) : first = second := by
  cases one with
  | found hits legible exactly =>
      cases other with
      | found otherHits _ otherExactly =>
          apply congrArg Except.ok
          apply Std.ExtTreeMap.ext_getElem?
          intro id
          exact Option.ext fun mask => (exactly id mask).trans (otherExactly id mask).symm
      | malformed before id after raw asked _ bad =>
          exact absurd bad (legible id (by simp [asked]) raw)
  | malformed before id after raw asked legible bad =>
      cases other with
      | found _ otherLegible => exact absurd bad (otherLegible id (by simp [asked]) raw)
      | malformed otherBefore otherId otherAfter otherRaw otherAsked otherLegible otherBad =>
          have same : id = otherId :=
            eq_of_first (fun id => ∃ raw, single id = .error (.malformed raw))
              (asked.symm.trans otherAsked) (by simpa using legible) (by simpa using otherLegible)
              ⟨raw, bad⟩ ⟨otherRaw, otherBad⟩
          rw [← same, bad] at otherBad
          rw [CacheError.malformed.inj (Except.error.inj otherBad)]

theorem map_unit_map {α β : Type} (result : Except CacheError α) (change : α → β) :
    (result.map change).map (fun _ => ()) = result.map fun _ => () := by
  cases result <;> rfl

theorem decode_many_fails_as_map_m (text : Uuid → Option String) (ids : List Uuid) :
    (decodeMany ids (ids.map text)).map (fun _ => ()) =
      (ids.mapM fun id => decodeOne (text id)).map fun _ => () := by
  induction ids with
  | nil => rfl
  | cons id rest ih =>
      rw [map_m_cons, List.map_cons]
      cases text id with
      | none => exact ih.trans (map_unit_map _ _).symm
      | some raw =>
          rw [decodeMany, decodeOne]
          cases maskOf raw with
          | error problem => rfl
          | ok mask => exact (map_unit_map _ _).trans (ih.trans (map_unit_map _ _).symm)

theorem malformed_of_decode_one {text : Option String} {problem : CacheError}
    (failed : decodeOne text = .error problem) : ∃ raw, problem = .malformed raw := by
  cases text with
  | none => nomatch failed
  | some raw =>
      rw [decodeOne, maskOf] at failed
      cases read : Text.readBelow 10 Text.wordBound raw.toList with
      | some value => simp [read, Except.map] at failed
      | none =>
          simp only [read, Except.map, Except.error.injEq] at failed
          exact ⟨raw, failed.symm⟩

theorem batch_verdict_decode_many (text : Uuid → Option String) (ids : List Uuid) :
    BatchVerdict (fun id => decodeOne (text id)) ids (decodeMany ids (ids.map text)) := by
  have fails := decode_many_fails_as_map_m text ids
  cases read : ids.mapM fun id => decodeOne (text id) with
  | error problem =>
      have failed : decodeMany ids (ids.map text) = .error problem := by
        rw [read] at fails
        cases decoded : decodeMany ids (ids.map text) <;> simp_all [Except.map]
      obtain ⟨before, id, after, asked, good, bad⟩ := (map_m_eq_error_iff ids problem).mp read
      obtain ⟨raw, rfl⟩ := malformed_of_decode_one bad
      rw [failed]
      refine .malformed before id after raw asked ?_ bad
      intro earlier member raw same
      obtain ⟨found, fine⟩ := good earlier member
      rw [fine] at same
      nomatch same
  | ok values =>
      have good := ok_of_map_m_eq_ok read
      choose! found fine using good
      rw [decode_many_of_decoded fine]
      refine .found _ ?_ ?_
      · intro id member raw same
        rw [fine id member] at same
        nomatch same
      · intro id mask
        rw [get_gather, Option.ite_none_right_eq_some]
        apply and_congr_right
        intro member
        rw [fine id member, Except.ok.injEq]

/-- Of single reads it only matters which masks and which malformed texts they come upon. -/
theorem BatchVerdict.of_same {single other : Uuid → Except CacheError (Option Mask)}
    {ids : List Uuid} {reply : Except CacheError (IdMap Mask)}
    (given : BatchVerdict single ids reply)
    (masks : ∀ id mask, single id = .ok (some mask) ↔ other id = .ok (some mask))
    (faults : ∀ id raw, single id = .error (.malformed raw) ↔ other id = .error (.malformed raw)) :
    BatchVerdict other ids reply := by
  cases given with
  | found hits legible exactly =>
      simp only [masks] at exactly
      simp only [ne_eq, faults] at legible
      exact .found hits legible exactly
  | malformed before id after raw asked legible bad =>
      simp only [ne_eq, faults] at legible
      exact .malformed before id after raw asked legible ((faults id raw).mp bad)

/-- A key with members where a text should be counts as absent in a batched read, while a read of
that entry is refused; neither finds a mask. -/
theorem batch_verdict_reading (cache : SharedCache) (space : Keyspace) (ids : List Uuid)
    (key : Uuid → EntryKey) :
    BatchVerdict (fun id => (cache.reply (.get (key id).user (key id).channel) ⟨space, none⟩).1) ids
      ((reading ids fun id => cache.names.entryKey (key id)).settle ⟨space, none⟩).1 := by
  let look (id : Uuid) : Option String :=
    (space.textAt (cache.names.entryKey (key id))).toOption.getD none
  have replied : ((reading ids fun id => cache.names.entryKey (key id)).settle ⟨space, none⟩).1 =
      decodeMany ids (ids.map look) := by
    unfold reading
    split
    case isTrue nothing =>
      rw [List.isEmpty_iff.mp nothing]
      rfl
    case isFalse =>
      rw [settle_of_look (perform_get_all _), List.map_map]
      rfl
  rw [replied]
  apply (batch_verdict_decode_many look ids).of_same
  · intro id mask
    rw [reply_get_fst]
    cases stored : space.textAt (cache.names.entryKey (key id)) <;>
      simp [look, stored, Except.toOption, decodeOne]
  · intro id raw
    rw [reply_get_fst]
    cases stored : space.textAt (cache.names.entryKey (key id)) <;>
      simp [look, stored, Except.toOption, decodeOne]

/-- Whatever the server holds, a batched read of channels of one user, or of users of one channel,
comes to exactly what the single reads of these entries come to. -/
theorem batched_reads_as_single_reads (cache : SharedCache) (space : Keyspace) :
    let reply (query : CacheQuery) : query.Reply := (cache.reply query ⟨space, none⟩).1
    (∀ user channels verdict, reply (.getMany user channels) = verdict ↔
      BatchVerdict (fun channel => reply (.get user channel)) channels verdict) ∧
    ∀ channel users verdict, reply (.getManyUsers channel users) = verdict ↔
      BatchVerdict (fun user => reply (.get user channel)) users verdict := by
  intro reply
  have of_verdict {single : Uuid → Except CacheError (Option Mask)} {ids : List Uuid}
      {result : Except CacheError (IdMap Mask)} (reached : BatchVerdict single ids result)
      (verdict : Except CacheError (IdMap Mask)) :
      result = verdict ↔ BatchVerdict single ids verdict :=
    ⟨fun same => same ▸ reached, reached.unique⟩
  have settled (query : CacheQuery) : reply query =
      ((cache.exchangeInOrder query.entries query).settle ⟨space, none⟩).1 :=
    congrArg Prod.fst (cache.reply_eq_settle query ⟨space, none⟩)
  constructor
  · intro user channels
    apply of_verdict
    rw [settled (.getMany user channels)]
    exact batch_verdict_reading cache space channels fun channel => ⟨user, channel⟩
  · intro channel users
    apply of_verdict
    rw [settled (.getManyUsers channel users)]
    exact batch_verdict_reading cache space users fun user => ⟨user, channel⟩

end ChannelAccess.SharedCache
