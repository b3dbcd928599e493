import ChannelAccess.Response
import ChannelAccess.Proofs.Json.Objects
import ChannelAccess.Proofs.Mask.Text

/-!
# What clients learn of errors

Each kind of error has a status and a code, and each error a kind and a wording: the tables of
`ErrorKind.AnsweredBy` and `AccessError.Stated`. The body of a response is an object of two fields,
the code of the error's kind and its public message, with each character of the message spelled as
JSON asks for, and it is read back as these. So a response tells a client the kind of an error and
its public message and nothing else. For a failure of the storage this message says nothing of the
failure, which goes to the log in one record, and for any other error it is the wording of the
error.
-/

namespace ChannelAccess

set_option autoImplicit false

/-- The status and the code that go with a kind of error. -/
inductive ErrorKind.AnsweredBy : ErrorKind → Nat → String → Prop where
  | notFound : AnsweredBy .notFound 404 "not_found"
  | validation : AnsweredBy .validation 400 "validation"
  | forbidden : AnsweredBy .forbidden 403 "forbidden"
  | storage : AnsweredBy .storage 500 "storage"

/-- How messages name a mask. The empty one has no terms and is named by a number. -/
inductive Mask.NamedBy : Mask → String → Prop where
  | number : NamedBy ∅ "Permissions(0x0)"
  | terms (mask : Mask) (terms : List String) (given : mask ≠ ∅) (written : mask.WrittenAs terms) :
      NamedBy mask ("Permissions(" ++ " | ".intercalate terms ++ ")")

inductive Fault.WordedAs : Fault → String → Prop where
  | unknownStatus (label : String) :
      WordedAs (.unknownStatus label) ("unknown member status: " ++ label)
  | unknownTarget (label : String) :
      WordedAs (.unknownTarget label) ("unknown override target type: " ++ label)
  | unknownPrincipal (label : String) :
      WordedAs (.unknownPrincipal label) ("unknown override principal type: " ++ label)
  | reservedBits (bits : Mask) :
      WordedAs (.reservedBits bits)
        ("reserved permission bits set: 0x" ++ String.ofList (Nat.toDigits 16 bits.toNat))
  | stated (text : String) : WordedAs (.stated text) text

inductive RankError.WordedAs : RankError → String → Prop where
  | missingPermission (permission : Mask) (name : String) (named : permission.NamedBy name) :
      WordedAs (.missingPermission permission) ("Missing permission: " ++ name)
  | outranked (actor target : Int32) :
      WordedAs (.outranked actor target)
        ("Cannot act on position " ++ toString target.toInt ++ " (your position: " ++
          toString actor.toInt ++ ")")
  | everyoneImmutable :
      WordedAs .everyoneImmutable
        "The @everyone role cannot be assigned, removed, renamed, or deleted"
  | cannotEscalate (permissions : Mask) (name : String) (named : permissions.NamedBy name) :
      WordedAs (.cannotEscalate permissions) ("Cannot grant permissions you don't have: " ++ name)
  | ownerImmune : WordedAs .ownerImmune "Cannot moderate the server owner"

/-- The kind and the wording of an error. An error about rank is worded as its cause alone. -/
inductive AccessError.Stated : AccessError → ErrorKind → String → Prop where
  | channelNotFound (channel : ChannelId) :
      Stated (.channelNotFound channel) .notFound ("Channel " ++ channel.text ++ " not found")
  | overrideNotFound : Stated .overrideNotFound .notFound "Permission override not found"
  | validation (fault : Fault) (wording : String) (worded : fault.WordedAs wording) :
      Stated (.validation fault) .validation ("Validation failed: " ++ wording)
  | missingPermission (permission : Mask) (name : String) (named : permission.NamedBy name) :
      Stated (.missingPermission permission) .forbidden ("Missing permission: " ++ name)
  | rank (cause : RankError) (wording : String) (worded : cause.WordedAs wording) :
      Stated (.rank cause) .forbidden wording
  | storage (failure : StorageFailure) :
      Stated (.storage failure) .storage ("Storage error: " ++ failure.message)

/-! The tables hold of what the service computes. -/

theorem Mask.named_by_description (mask : Mask) : mask.NamedBy mask.description := by
  rw [description]
  split
  case isTrue blank =>
    rw [(is_empty_eq_true_iff mask).mp blank]
    exact .number
  case isFalse something =>
    have given : mask ≠ ∅ := mt (is_empty_eq_true_iff mask).mpr something
    rw [text_eq]
    exact .terms mask _ given (written_as_terms mask)

theorem Fault.worded_as_message (fault : Fault) : fault.WordedAs fault.message := by
  cases fault with
  | unknownStatus label => exact .unknownStatus label
  | unknownTarget label => exact .unknownTarget label
  | unknownPrincipal label => exact .unknownPrincipal label
  | reservedBits bits => exact .reservedBits bits
  | stated text => exact .stated text

theorem RankError.worded_as_message (problem : RankError) : problem.WordedAs problem.message := by
  cases problem with
  | missingPermission permission =>
      exact .missingPermission permission _ permission.named_by_description
  | outranked actor target => exact .outranked actor target
  | everyoneImmutable => exact .everyoneImmutable
  | cannotEscalate permissions =>
      exact .cannotEscalate permissions _ permissions.named_by_description
  | ownerImmune => exact .ownerImmune

namespace ErrorKind

theorem answered_by_status_and_code (kind : ErrorKind) : kind.AnsweredBy kind.status kind.code := by
  cases kind with
  | notFound => exact .notFound
  | validation => exact .validation
  | forbidden => exact .forbidden
  | storage => exact .storage

theorem eq_of_code {first second : ErrorKind} (same : first.code = second.code) :
    first = second := by
  revert same
  cases first <;> cases second <;> decide

theorem quote_code (kind : ErrorKind) :
    Json.quote kind.code.toList = '"' :: (kind.code.toList ++ ['"']) := by
  cases kind <;> decide +kernel

end ErrorKind

namespace AccessError

theorem stated_kind_message (problem : AccessError) :
    problem.Stated problem.kind problem.message := by
  cases problem with
  | channelNotFound channel => exact .channelNotFound channel
  | overrideNotFound => exact .overrideNotFound
  | validation fault => exact .validation fault _ fault.worded_as_message
  | missingPermission permission =>
      exact .missingPermission permission _ permission.named_by_description
  | rank cause => exact .rank cause _ cause.worded_as_message
  | storage failure => exact .storage failure

theorem response_body_eq (problem : AccessError) :
    problem.response.body =
      "\x7b\"error\":\"" ++ problem.kind.code ++ "\",\"message\":\"" ++
        String.ofList (problem.publicMessage.toList.flatMap Json.escape) ++ "\"\x7d" := by
  have names : Json.quote "error".toList = "\"error\"".toList ∧
      Json.quote "message".toList = "\"message\"".toList := by decide +kernel
  rw [← String.toList_inj]
  simp only [response, body, Json.compactText, Json.compact, Json.compactFields, names.1, names.2,
    ErrorKind.quote_code, String.toList_ofList, String.toList_append]
  simp [Json.quote]

theorem of_text_response_body (problem : AccessError) :
    Json.ofText? problem.response.body = some problem.body := by
  have distinct : ["error", "message"].Nodup := by decide
  have back : problem.body.ReadBack := by
    refine Json.read_back_object distinct ?_
    intro field member
    simp only [List.mem_cons, List.not_mem_nil, or_false] at member
    rcases member with rfl | rfl
    · exact Json.read_back_text _
    · exact Json.read_back_text _
  exact back.of_text

theorem public_message_of_stated {problem : AccessError}
    (stated : ∀ failure, problem ≠ .storage failure) : problem.publicMessage = problem.message := by
  cases problem with
  | storage failure => exact absurd rfl (stated failure)
  | _ => rfl

theorem events_of_stated {problem : AccessError} (stated : ∀ failure, problem ≠ .storage failure) :
    problem.events = [] := by
  cases problem with
  | storage failure => exact absurd rfl (stated failure)
  | _ => rfl

theorem kind_eq_storage_iff (problem : AccessError) :
    problem.kind = .storage ↔ ∃ failure, problem = .storage failure := by
  cases problem <;> simp [kind]

/-- A response shows the kind and the public message of an error, and nothing else. -/
theorem response_eq_iff_public (first second : AccessError) :
    first.response = second.response ↔
      first.kind = second.kind ∧ first.publicMessage = second.publicMessage := by
  constructor
  · intro same
    have sameBody : first.body = second.body := by
      apply Option.some.inj
      rw [← of_text_response_body, ← of_text_response_body, same]
    simp only [body, Json.object.injEq, List.cons.injEq, Prod.mk.injEq, Json.text.injEq,
      true_and, and_true] at sameBody
    exact ⟨ErrorKind.eq_of_code sameBody.1, sameBody.2⟩
  · rintro ⟨sameKind, sameMessage⟩
    simp only [response, body, sameKind, sameMessage]

theorem public_message_eq_iff {first second : AccessError} (sameKind : first.kind = second.kind) :
    first.publicMessage = second.publicMessage ↔
      first.kind = .storage ∨ first.message = second.message := by
  by_cases hidden : first.kind = .storage
  · obtain ⟨failure, rfl⟩ := (kind_eq_storage_iff first).mp hidden
    obtain ⟨other, rfl⟩ := (kind_eq_storage_iff second).mp sameKind.symm
    exact iff_of_true rfl (.inl rfl)
  · have firstStated : ∀ failure, first ≠ .storage failure := by
      rintro failure rfl
      exact hidden rfl
    have secondStated : ∀ failure, second ≠ .storage failure := by
      rintro failure rfl
      exact hidden sameKind
    rw [public_message_of_stated firstStated, public_message_of_stated secondStated]
    exact (or_iff_right hidden).symm

/-- All failures of the storage get one response, which says no more than that storage failed, and
each is told in one error record of the log. Any other error gets the status of its kind and an
object that spells out the code of its kind and its wording and is read as exactly these, and leaves
no record. Two errors get one response exactly if they are of one kind and are failures of the
storage or worded alike. -/
theorem responses_faithful_without_leak :
    (∀ first second : StorageFailure,
      (AccessError.storage first).response = (AccessError.storage second).response) ∧
    (∀ failure : StorageFailure,
      (AccessError.storage failure).response.status = 500 ∧
      (AccessError.storage failure).response.contentType = "application/json" ∧
      Json.ofText? (AccessError.storage failure).response.body = some (.object
        [("error", .text "storage"), ("message", .text "Storage error")]) ∧
      ∃ event, (AccessError.storage failure).events = [event] ∧
        event.severity = .error ∧ event.details = [("error", failure.message)]) ∧
    (∀ problem : AccessError, (∀ failure, problem ≠ .storage failure) →
      problem.Stated problem.kind problem.message ∧
      ∃ status code, problem.kind.AnsweredBy status code ∧
        problem.response.status = status ∧
        problem.response.contentType = "application/json" ∧
        (∃ written, Json.SpelledOut problem.message.toList written ∧
          problem.response.body = "\x7b\"error\":\"" ++ code ++
            "\",\"message\":\"" ++ String.ofList written ++ "\"\x7d") ∧
        Json.ofText? problem.response.body = some (.object
          [("error", .text code), ("message", .text problem.message)]) ∧
        problem.events = []) ∧
    ∀ first second : AccessError, first.response = second.response ↔
      first.kind = second.kind ∧ (first.kind = .storage ∨ first.message = second.message) := by
  refine ⟨fun first second => ?_, fun failure => ?_, ?_, ?_⟩
  · exact (response_eq_iff_public _ _).mpr ⟨rfl, rfl⟩
  · exact ⟨rfl, rfl, of_text_response_body _, .storageFailed failure, rfl, rfl, rfl⟩
  · intro problem stated
    have worded := public_message_of_stated stated
    refine ⟨problem.stated_kind_message, _, _, problem.kind.answered_by_status_and_code, rfl, rfl,
      ⟨_, Json.spelled_out_escape _, ?_⟩, ?_, events_of_stated stated⟩
    · rw [response_body_eq, worded]
    · rw [of_text_response_body, body, worded]
  · intro first second
    rw [response_eq_iff_public]
    exact and_congr_right public_message_eq_iff

/-- A wording with a quote, a backslash, control characters and characters of several bytes. -/
theorem responses_faithful_without_leak_on_escapes :
    let wording := String.ofList ['"', '\\', '\n', Char.ofNat 1, Char.ofNat 127, 'é', '😀', '"']
    let problem : AccessError := .validation (.stated wording)
    (∀ failure, problem ≠ .storage failure) ∧
      problem.response.status = 400 ∧
      Json.ofText? problem.response.body = some (.object
        [("error", .text "validation"), ("message", .text ("Validation failed: " ++ wording))]) ∧
      problem.response.body =
        "\x7b\"error\":\"validation\",\"message\":\"Validation failed: " ++
          "\\\"\\\\\\n\\u0001\x7fé😀\\\"\"\x7d" ∧
      problem.events = [] := by
  intro wording problem
  have stated : ∀ failure, problem ≠ .storage failure := nofun
  obtain ⟨_, _, _, answered, status, _, _, read, unlogged⟩ :=
    responses_faithful_without_leak.2.2.1 problem stated
  cases answered
  exact ⟨stated, status, read, by decide +kernel, unlogged⟩

end AccessError

end ChannelAccess
