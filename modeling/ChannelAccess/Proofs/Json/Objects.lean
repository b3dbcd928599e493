import ChannelAccess.Proofs.Json.Quoting

/-!
# Objects read back

An object is read back from its written form if its fields have different names and all of its
values are read back. The reader takes a name, a colon and a value in turn, and a closing brace or a
comma after the value tells it whether another field follows.
-/

namespace ChannelAccess.Json

set_option autoImplicit false

section Field

variable (name : String) {value : Json} (back : value.ReadBack) {rest : List Char} {fuel : Nat}
  (nameEnough : name.toList.length < fuel) (valueEnough : value.compact.length < fuel)

include back nameEnough valueEnough

theorem read_last_field :
    readFields (fuel + 1) (quote name.toList ++ ':' :: (value.compact ++ '}' :: rest)) =
      some ([(name, value)], rest) := by
  have colon (after : List Char) : skipBlanks (':' :: after) = ':' :: after := rfl
  have brace : skipBlanks ('}' :: rest) = '}' :: rest := rfl
  rw [quote_append, readFields, read_quoted_of_written _ _ nameEnough]
  simp only [colon, back.start, back.read _ fuel valueEnough, brace, String.ofList_toList]

theorem read_field_before_comma (unblank : skipBlanks rest = rest) :
    readFields (fuel + 1) (quote name.toList ++ ':' :: (value.compact ++ ',' :: rest)) =
      (readFields fuel rest).map fun (fields, rest) => ((name, value) :: fields, rest) := by
  have colon (after : List Char) : skipBlanks (':' :: after) = ':' :: after := rfl
  have comma : skipBlanks (',' :: rest) = ',' :: rest := rfl
  rw [quote_append, readFields, read_quoted_of_written _ _ nameEnough]
  simp only [colon, back.start, back.read _ fuel valueEnough, comma, unblank,
    String.ofList_toList]

end Field

theorem compact_fields_cons (name : String) (value : Json) {rest : List (String × Json)}
    (more : rest ≠ []) :
    compactFields ((name, value) :: rest) =
      quote name.toList ++ ':' :: (value.compact ++ ',' :: compactFields rest) := by
  cases rest with
  | nil => exact absurd rfl more
  | cons next rest => rfl

theorem compact_fields_start {fields : List (String × Json)} (given : fields ≠ []) :
    ∃ written, compactFields fields = '"' :: written := by
  match fields with
  | [] => exact absurd rfl given
  | [(name, value)] => exact ⟨_, rfl⟩
  | (name, value) :: next :: others => exact ⟨_, rfl⟩

theorem read_fields_of_written {fields : List (String × Json)} (given : fields ≠ [])
    (each : ∀ field ∈ fields, field.2.ReadBack) (rest : List Char) {fuel : Nat}
    (enough : (compactFields fields).length < fuel) :
    readFields fuel (compactFields fields ++ '}' :: rest) = some (fields, rest) := by
  induction fields generalizing fuel with
  | nil => exact absurd rfl given
  | cons first others ih =>
      obtain ⟨name, value⟩ := first
      obtain ⟨left, rfl⟩ : ∃ left, fuel = left + 1 := ⟨fuel - 1, by omega⟩
      have back : value.ReadBack := each (name, value) List.mem_cons_self
      have quoted := length_quote name.toList
      by_cases more : others = []
      · subst more
        have written : compactFields [(name, value)] =
            quote name.toList ++ ':' :: value.compact := rfl
        rw [written] at enough ⊢
        simp only [List.length_append, List.length_cons] at enough
        rw [List.append_assoc, List.cons_append]
        exact read_last_field name back (by omega) (by omega)
      · rw [compact_fields_cons name value more] at enough ⊢
        simp only [List.length_append, List.length_cons] at enough
        obtain ⟨written, starts⟩ := compact_fields_start more
        have unblank : skipBlanks (compactFields others ++ '}' :: rest) =
            compactFields others ++ '}' :: rest := by
          rw [starts]
          rfl
        have later : readFields left (compactFields others ++ '}' :: rest) =
            some (others, rest) :=
          ih more (fun field member => each field (List.mem_cons_of_mem _ member)) (by omega)
        simp only [List.append_assoc, List.cons_append]
        rw [read_field_before_comma name back (by omega) (by omega) unblank, later]
        rfl

theorem last_fields_of_distinct {fields : List (String × Json)}
    (distinct : (fields.map Prod.fst).Nodup) : lastFields fields = fields := by
  induction fields with
  | nil => rfl
  | cons first rest ih =>
      obtain ⟨name, value⟩ := first
      obtain ⟨new, distinctRest⟩ := List.nodup_cons.mp distinct
      have once : ¬(rest.any fun later => later.1 == name) = true := by
        rw [List.any_eq_true]
        rintro ⟨later, member, same⟩
        exact new (List.mem_map.mpr ⟨later, member, beq_iff_eq.mp same⟩)
      rw [lastFields, if_neg once, ih distinctRest]

theorem read_value_of_fields (fuel : Nat) (rest : List Char) :
    readValue (fuel + 1) ('{' :: '"' :: rest) =
      (readFields fuel ('"' :: rest)).map fun (fields, rest) =>
        (object (lastFields fields), rest) := rfl

theorem read_back_object {fields : List (String × Json)}
    (distinct : (fields.map Prod.fst).Nodup) (each : ∀ field ∈ fields, field.2.ReadBack) :
    (object fields).ReadBack where
  start _ := rfl
  read rest fuel enough := by
    have length : (object fields).compact.length = (compactFields fields).length + 2 := by
      simp [compact]
    have written : (object fields).compact ++ rest =
        '{' :: (compactFields fields ++ '}' :: rest) := by
      simp [compact]
    obtain ⟨left, rfl⟩ : ∃ left, fuel = left + 1 := ⟨fuel - 1, by omega⟩
    rw [written]
    by_cases given : fields = []
    · subst given
      rfl
    · have fieldsRead : readFields left (compactFields fields ++ '}' :: rest) =
          some (fields, rest) := read_fields_of_written given each rest (by omega)
      obtain ⟨inner, starts⟩ := compact_fields_start given
      rw [starts, List.cons_append] at fieldsRead ⊢
      rw [read_value_of_fields, fieldsRead, Option.map_some]
      simp only [last_fields_of_distinct distinct]

end ChannelAccess.Json
