import ChannelAccess.Proofs.Resolver.Misses
import ChannelAccess.Proofs.Traversal
import ChannelAccess.Tables.Reading

/-!
# Filing rows

Batched reads get the rows of many users or channels in one list, in any order. Each row
goes to the end of the list of the identifier it belongs to, so what is filed under an
identifier is its own rows, all of them, in the order in which they came. Rows of overrides
are converted first, and the first row with a label that does not exist fails the read.
-/

namespace ChannelAccess

set_option autoImplicit false

/-! Lists under identifiers. -/

section

variable {α ρ : Type}

theorem get_push_to (filed : IdMap (List α)) (id other : Uuid) (item : α) :
    (filed.pushTo id item)[other]? =
      if id = other then some (filed[other]?.getD [] ++ [item]) else filed[other]? := by
  rw [IdMap.pushTo, Std.ExtTreeMap.getElem?_insert]
  by_cases same : id = other
  · subst same
    simp
  · simp [same]

theorem get_push_all (idOf : ρ → Uuid) (itemOf : ρ → α) (rows : List ρ) (filed : IdMap (List α))
    (id : Uuid) :
    (rows.foldl (fun filed row => filed.pushTo (idOf row) (itemOf row)) filed)[id]? =
      if ∃ row ∈ rows, idOf row = id then
        some (filed[id]?.getD [] ++ (rows.filter fun row => idOf row = id).map itemOf)
      else filed[id]? := by
  induction rows generalizing filed with
  | nil => simp
  | cons row rest ih =>
      rw [List.foldl_cons, ih, get_push_to, List.filter_cons]
      by_cases here : idOf row = id
      · simp only [here, List.exists_mem_cons_iff, true_or, if_true, decide_true, List.map_cons]
        split
        case isTrue later => simp
        case isFalse noneLater =>
          have nothing : rest.filter (fun row => idOf row = id) = [] := by
            simpa using noneLater
          simp [nothing]
      · simp only [here, List.exists_mem_cons_iff, false_or, if_false, decide_false,
          Bool.false_eq_true]

end

/-! Grants. -/

/-- Every user asked for has an entry, and so has every other user of a row; it lists what the user's
own rows grant. -/
theorem get_group_grants (users : List UserId) (rows : List GrantRow) (user : UserId) :
    (groupGrants users rows)[user]? =
      if user ∈ users ∨ ∃ row ∈ rows, row.user = user then
        some ((rows.filter fun row => row.user = user).map fun row =>
          ⟨row.role, .ofSigned row.permissions⟩)
      else none := by
  have start : (IdMap.ofEntries (users.map fun user => (user, ([] : List RoleGrant))))[user]? =
      if user ∈ users then some [] else none := by
    rw [of_entries_map fun _ => [], get_gather]
  rw [groupGrants, get_push_all GrantRow.user, start]
  by_cases asked : user ∈ users <;> by_cases given : ∃ row ∈ rows, row.user = user
  · simp [asked, given]
  · have nothing : rows.filter (fun row => row.user = user) = [] := by simpa using given
    simp [asked, given, nothing]
  · simp [asked, given]
  · simp [asked, given]

/-! Overrides. -/

namespace OverrideRow

/-- A row stands for an override: its labels name the kinds, its numbers are the masks, and all else
is as it is in the row. -/
structure StandsFor (row : OverrideRow) (override : Override) : Prop where
  target : row.targetKind = "channel"
  principal : row.principalKind = "role" ∧ override.principal = .role row.principal ∨
    row.principalKind = "user" ∧ override.principal = .user row.principal
  same : override.id = row.id ∧ override.channel = row.target ∧
    override.createdAt = row.createdAt ∧ override.updatedAt = row.updatedAt
  masks : override.allow = .ofSigned row.allow ∧ override.deny = .ofSigned row.deny

/-- What is wrong with a row. The label of its target is looked at first. -/
inductive HasFault (row : OverrideRow) : Fault → Prop where
  | target (unknown : row.targetKind ≠ "channel") : HasFault row (.unknownTarget row.targetKind)
  | principal (known : row.targetKind = "channel")
      (unknown : row.principalKind ≠ "role" ∧ row.principalKind ≠ "user") :
      HasFault row (.unknownPrincipal row.principalKind)

theorem target_of_stored (label : String) :
    TargetKind.ofStored label =
      if label = "channel" then .ok .channel else .error (.validation (.unknownTarget label)) := by
  by_cases known : label = "channel"
  · subst known
    rfl
  · have unknown : TargetKind.choice.ofLabel? label = none := by
      simp [Choice.ofLabel?, TargetKind.choice, Ne.symm known]
    rw [TargetKind.ofStored, unknown, if_neg known]

theorem principal_of_stored (label : String) :
    PrincipalKind.ofStored label =
      if label = "role" then .ok .role
      else if label = "user" then .ok .user
      else .error (.validation (.unknownPrincipal label)) := by
  by_cases role : label = "role"
  · subst role
    rfl
  · by_cases user : label = "user"
    · subst user
      rfl
    · have unknown : PrincipalKind.choice.ofLabel? label = none := by
        simp [Choice.ofLabel?, PrincipalKind.choice, Ne.symm role, Ne.symm user]
      rw [PrincipalKind.ofStored, unknown, if_neg role, if_neg user]

def overrideFor (row : OverrideRow) (principal : Principal) : Override :=
  ⟨row.id, row.target, principal, .ofSigned row.allow, .ofSigned row.deny, row.createdAt,
    row.updatedAt⟩

theorem override_eq (row : OverrideRow) :
    row.override =
      if row.targetKind = "channel" then
        if row.principalKind = "role" then .ok (row.overrideFor (.role row.principal))
        else if row.principalKind = "user" then .ok (row.overrideFor (.user row.principal))
        else .error (.validation (.unknownPrincipal row.principalKind))
      else .error (.validation (.unknownTarget row.targetKind)) := by
  rw [override, target_of_stored, principal_of_stored]
  split
  · split
    · rfl
    · split <;> rfl
  · rfl

theorem override_eq_ok_iff (row : OverrideRow) (override : Override) :
    row.override = .ok override ↔ row.StandsFor override := by
  rw [override_eq]
  constructor
  · intro read
    split_ifs at read with target role user
    · obtain rfl := Except.ok.inj read
      exact ⟨target, .inl ⟨role, rfl⟩, ⟨rfl, rfl, rfl, rfl⟩, rfl, rfl⟩
    · obtain rfl := Except.ok.inj read
      exact ⟨target, .inr ⟨user, rfl⟩, ⟨rfl, rfl, rfl, rfl⟩, rfl, rfl⟩
  · intro stands
    obtain ⟨_, _, _, _, _, _, _⟩ := override
    obtain ⟨target, principal, ⟨rfl, rfl, rfl, rfl⟩, rfl, rfl⟩ := stands
    rw [if_pos target]
    obtain ⟨role, rfl⟩ | ⟨user, rfl⟩ := principal
    · rw [if_pos role]
      rfl
    · rw [if_neg (by rw [user]; decide), if_pos user]
      rfl

theorem override_eq_error_iff (row : OverrideRow) (problem : AccessError) :
    row.override = .error problem ↔ ∃ fault, row.HasFault fault ∧ problem = .validation fault := by
  rw [override_eq]
  constructor
  · intro failed
    split_ifs at failed with target role user
    · exact ⟨_, .principal target ⟨role, user⟩, (Except.error.inj failed).symm⟩
    · exact ⟨_, .target target, (Except.error.inj failed).symm⟩
  · rintro ⟨_, fault, rfl⟩
    cases fault with
    | target unknown => rw [if_neg unknown]
    | principal known unknown => rw [if_pos known, if_neg unknown.1, if_neg unknown.2]

theorem exists_stands_for_iff (row : OverrideRow) :
    (∃ override, row.StandsFor override) ↔ ∀ fault, ¬row.HasFault fault := by
  simp only [← override_eq_ok_iff]
  constructor
  · rintro ⟨override, read⟩ fault wrong
    rw [(override_eq_error_iff row _).mpr ⟨fault, wrong, rfl⟩] at read
    nomatch read
  · intro faultless
    cases read : row.override with
    | ok override => exact ⟨override, rfl⟩
    | error problem =>
        obtain ⟨fault, wrong, _⟩ := (override_eq_error_iff row problem).mp read
        exact absurd wrong (faultless fault)

end OverrideRow

theorem parse_overrides_eq_map_m (rows : List OverrideRow) :
    parseOverrides rows = rows.mapM OverrideRow.override := by
  induction rows with
  | nil => rfl
  | cons row rest ih =>
      rw [map_m_cons, ← ih, parseOverrides]
      cases row.override <;> rfl

/-- The first row with a fault is the one before which there is none. -/
def FirstFault (rows : List OverrideRow) (fault : Fault) : Prop :=
  ∃ before row after, rows = before ++ row :: after ∧
    (∀ earlier ∈ before, ∀ fault, ¬earlier.HasFault fault) ∧ row.HasFault fault

theorem parse_overrides_eq_ok_iff (rows : List OverrideRow) (overrides : List Override) :
    parseOverrides rows = .ok overrides ↔
      List.Forall₂ OverrideRow.StandsFor rows overrides := by
  rw [parse_overrides_eq_map_m, map_m_eq_ok_iff]
  simp only [OverrideRow.override_eq_ok_iff]

theorem parse_overrides_eq_error_iff (rows : List OverrideRow) (problem : AccessError) :
    parseOverrides rows = .error problem ↔
      ∃ fault, FirstFault rows fault ∧ problem = .validation fault := by
  rw [parse_overrides_eq_map_m, map_m_eq_error_iff]
  simp only [OverrideRow.override_eq_ok_iff, OverrideRow.override_eq_error_iff,
    OverrideRow.exists_stands_for_iff]
  constructor
  · rintro ⟨before, row, after, split, clear, fault, wrong, rfl⟩
    exact ⟨fault, ⟨before, row, after, split, clear, wrong⟩, rfl⟩
  · rintro ⟨fault, ⟨before, row, after, split, clear, wrong⟩, rfl⟩
    exact ⟨before, row, after, split, clear, fault, wrong, rfl⟩

theorem get_group_overrides (overrides : List Override) (target : ChannelId) :
    (groupOverrides overrides)[target]? =
      if ∃ override ∈ overrides, override.channel = target then
        some (overrides.filter fun override => override.channel = target)
      else none := by
  rw [groupOverrides, get_push_all Override.channel]
  simp

theorem stand_for_of_target {rows : List OverrideRow} {overrides : List Override}
    (stand : List.Forall₂ OverrideRow.StandsFor rows overrides) (target : ChannelId) :
    List.Forall₂ OverrideRow.StandsFor (rows.filter fun row => row.target = target)
        (overrides.filter fun override => override.channel = target) := by
  apply List.rel_filter _ stand
  intro row override here
  simp only [here.same.2.1]

theorem get_group_overrides_eq_some_iff {rows : List OverrideRow} {overrides : List Override}
    (stand : List.Forall₂ OverrideRow.StandsFor rows overrides) (target : ChannelId)
    (own : List Override) :
    (groupOverrides overrides)[target]? = some own ↔
      (∃ row ∈ rows, row.target = target) ∧
        List.Forall₂ OverrideRow.StandsFor (rows.filter fun row => row.target = target) own := by
  have ownStand := stand_for_of_target stand target
  have occurs : (∃ override ∈ overrides, override.channel = target) ↔
      ∃ row ∈ rows, row.target = target := by
    have lengths := ownStand.length_eq
    have some_iff {α : Type} (items : List α) (idOf : α → Uuid) :
        (∃ item ∈ items, idOf item = target) ↔
          0 < (items.filter fun item => idOf item = target).length := by
      simp [List.length_pos_iff_exists_mem]
    rw [some_iff overrides, some_iff rows, lengths]
  rw [get_group_overrides, Option.ite_none_right_eq_some, occurs, Option.some.injEq]
  apply and_congr_right
  intro _
  rw [← parse_overrides_eq_ok_iff] at ownStand ⊢
  rw [ownStand, Except.ok.injEq]

def groupRows (rows : List OverrideRow) : Except AccessError (IdMap (List Override)) :=
  (parseOverrides rows).map groupOverrides

theorem group_rows_eq_error_iff (rows : List OverrideRow) (problem : AccessError) :
    groupRows rows = .error problem ↔
      ∃ fault, FirstFault rows fault ∧ problem = .validation fault := by
  rw [← parse_overrides_eq_error_iff, groupRows]
  cases parseOverrides rows <;> simp [Except.map]

theorem group_rows_eq_ok_iff (rows : List OverrideRow) (filed : IdMap (List Override)) :
    groupRows rows = .ok filed ↔
      (∀ row ∈ rows, ∃ override, row.StandsFor override) ∧
        ∀ target own, filed[target]? = some own ↔
          (∃ row ∈ rows, row.target = target) ∧
            List.Forall₂ OverrideRow.StandsFor (rows.filter fun row => row.target = target)
              own := by
  rw [groupRows]
  cases parsed : parseOverrides rows with
  | error problem =>
      obtain ⟨fault, ⟨before, row, after, rfl, _, wrong⟩, _⟩ :=
        (parse_overrides_eq_error_iff rows problem).mp parsed
      refine iff_of_false (fun done => nomatch done) ?_
      rintro ⟨stand, _⟩
      exact row.exists_stands_for_iff.mp (stand row (by simp)) fault wrong
  | ok overrides =>
      have stand := (parse_overrides_eq_ok_iff rows overrides).mp parsed
      have each : ∀ row ∈ rows, ∃ override, row.StandsFor override := by
        rw [parse_overrides_eq_map_m] at parsed
        simpa only [OverrideRow.override_eq_ok_iff] using ok_of_map_m_eq_ok parsed
      simp only [Except.map, Except.ok.injEq, ← get_group_overrides_eq_some_iff stand]
      constructor
      · rintro rfl
        exact ⟨each, fun _ _ => Iff.rfl⟩
      · rintro ⟨_, same⟩
        apply Std.ExtTreeMap.ext_getElem?
        intro target
        exact Option.ext fun own => (same target own).symm

namespace Tables

def listedRows (tables : Tables) (channel : ChannelId) : List OverrideRow :=
  (tables.overridesOf channelLabel channel).mergeSort fun first second =>
    first.createdAt.micros ≤ second.createdAt.micros

/-- The reads of grants and overrides are made of nothing but the rows that their statements return.
-/
theorem reply_of_rows (tables : Tables) :
    (∀ users, (reply (.grantsMany users) tables).1 =
      (tables.statement (tables.grantRows users)).map (groupGrants users)) ∧
    (∀ channels, (reply (.overridesMany channels) tables).1 =
      (tables.statement (tables.overridesOfMany channelLabel channels)).bind groupRows) ∧
    (∀ channel, (reply (.overrides channel) tables).1 =
      (tables.statement (tables.overridesOf channelLabel channel)).bind parseOverrides) ∧
    ∀ channel, (reply (.listOverrides channel) tables).1 =
      (tables.statement (tables.listedRows channel)).bind parseOverrides := by
  refine ⟨fun _ => rfl, fun _ => rfl, fun _ => rfl, ?_⟩
  intro channel
  rw [reply, readListed, statement, statement]
  cases tables.refusal <;> rfl

end Tables

/-- Whatever rows the database returns, none is lost, doubled or misfiled. Batched reads file under
each identifier exactly its own rows, in the order of the rows: those of roles for every user asked
for, those of overrides for every target that occurs. Reads of overrides fail exactly if some row
has a label that does not exist, and the first such row decides the error. -/
theorem filing_keeps_rows_in_place :
    (∀ users rows user,
      (groupGrants users rows)[user]? =
        if user ∈ users ∨ ∃ row ∈ rows, row.user = user then
          some ((rows.filter fun row => row.user = user).map fun row =>
            ⟨row.role, .ofSigned row.permissions⟩)
        else none) ∧
    (∀ rows problem,
      (parseOverrides rows = .error problem ↔
        ∃ fault, FirstFault rows fault ∧ problem = .validation fault) ∧
      (groupRows rows = .error problem ↔
        ∃ fault, FirstFault rows fault ∧ problem = .validation fault)) ∧
    (∀ rows overrides, parseOverrides rows = .ok overrides ↔
      List.Forall₂ OverrideRow.StandsFor rows overrides) ∧
    (∀ rows filed, groupRows rows = .ok filed ↔
      (∀ row ∈ rows, ∃ override, row.StandsFor override) ∧
        ∀ target own, filed[target]? = some own ↔
          (∃ row ∈ rows, row.target = target) ∧
            List.Forall₂ OverrideRow.StandsFor (rows.filter fun row => row.target = target)
              own) ∧
    ∀ tables : Tables,
      (∀ users, (tables.reply (.grantsMany users)).1 =
        (tables.statement (tables.grantRows users)).map (groupGrants users)) ∧
      (∀ channels, (tables.reply (.overridesMany channels)).1 =
        (tables.statement (tables.overridesOfMany Tables.channelLabel channels)).bind groupRows) ∧
      (∀ channel, (tables.reply (.overrides channel)).1 =
        (tables.statement (tables.overridesOf Tables.channelLabel channel)).bind
          parseOverrides) ∧
      ∀ channel, (tables.reply (.listOverrides channel)).1 =
        (tables.statement (tables.listedRows channel)).bind parseOverrides := by
  refine ⟨get_group_grants, ?faults, parse_overrides_eq_ok_iff, group_rows_eq_ok_iff,
    Tables.reply_of_rows⟩
  case faults =>
    intro rows problem
    exact ⟨parse_overrides_eq_error_iff rows problem, group_rows_eq_error_iff rows problem⟩

end ChannelAccess
