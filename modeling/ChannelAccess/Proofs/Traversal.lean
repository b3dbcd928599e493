import Mathlib.Data.List.Forall2

/-!
# Reading one item after the other

A list is read from the front until an item fails. What is read of a whole list is what is
read of each of its items, in their order. A list that fails does so with its first item
that does, whatever comes after that item.
-/

namespace ChannelAccess

set_option autoImplicit false

variable {α β ε : Type} {read : α → Except ε β}

theorem map_m_cons (read : α → Except ε β) (item : α) (rest : List α) :
    (item :: rest).mapM read =
      match read item with
      | .error problem => .error problem
      | .ok value => (rest.mapM read).map (value :: ·) := by
  rw [List.mapM_cons]
  cases read item with
  | error problem => rfl
  | ok value => cases rest.mapM read <;> rfl

theorem map_m_eq_ok_iff (items : List α) (values : List β) :
    items.mapM read = .ok values ↔
      List.Forall₂ (fun item value => read item = .ok value) items values := by
  induction items generalizing values with
  | nil =>
      rw [List.forall₂_nil_left_iff]
      exact ⟨fun none => (Except.ok.inj none).symm, fun none => none ▸ rfl⟩
  | cons item rest ih =>
      rw [map_m_cons, List.forall₂_cons_left_iff]
      cases here : read item with
      | error problem => simp
      | ok value =>
          cases there : rest.mapM read with
          | error problem => simp [← ih, there, Except.map]
          | ok others => simp [← ih, there, Except.map, eq_comm]

theorem ok_of_map_m_eq_ok {items : List α} {values : List β} (done : items.mapM read = .ok values) :
    ∀ item ∈ items, ∃ value, read item = .ok value := by
  have pairs := (map_m_eq_ok_iff items values).mp done
  clear done
  induction pairs with
  | nil => simp
  | @cons item value rest others here _ ih => exact List.forall_mem_cons.mpr ⟨⟨value, here⟩, ih⟩

theorem exists_split_cons_iff (tried : List α → α → Prop) (first : α) (rest : List α) :
    (∃ before item after, first :: rest = before ++ item :: after ∧ tried before item) ↔
      tried [] first ∨
        ∃ before item after, rest = before ++ item :: after ∧ tried (first :: before) item := by
  constructor
  · rintro ⟨before, item, after, split, holds⟩
    cases before with
    | nil =>
        obtain ⟨rfl, rfl⟩ := List.cons.inj split
        exact .inl holds
    | cons other before =>
        obtain ⟨rfl, rfl⟩ := List.cons.inj split
        exact .inr ⟨before, item, after, rfl, holds⟩
  · rintro (holds | ⟨before, item, after, rfl, holds⟩)
    · exact ⟨[], first, rest, rfl, holds⟩
    · exact ⟨first :: before, item, after, rfl, holds⟩

theorem map_m_eq_error_iff (items : List α) (problem : ε) :
    items.mapM read = .error problem ↔
      ∃ before item after, items = before ++ item :: after ∧
        (∀ earlier ∈ before, ∃ value, read earlier = .ok value) ∧
        read item = .error problem := by
  induction items with
  | nil =>
      constructor
      · intro failed
        nomatch failed
      · rintro ⟨before, item, after, empty, _⟩
        simp at empty
  | cons first rest ih =>
      rw [map_m_cons, exists_split_cons_iff fun before item =>
        (∀ earlier ∈ before, ∃ value, read earlier = .ok value) ∧ read item = .error problem]
      simp only [List.forall_mem_cons]
      cases here : read first with
      | error found => simp
      | ok value =>
          have later : (rest.mapM read).map (value :: ·) = .error problem ↔
              rest.mapM read = .error problem := by
            cases rest.mapM read <;> simp [Except.map]
          simp [later, ih]

theorem eq_of_first (kind : α → Prop) {before before' after after' : List α} {item item' : α}
    (same : before ++ item :: after = before' ++ item' :: after')
    (none : ∀ earlier ∈ before, ¬kind earlier) (none' : ∀ earlier ∈ before', ¬kind earlier)
    (here : kind item) (here' : kind item') : item = item' := by
  classical
  have found {before : List α} {item : α} (none : ∀ earlier ∈ before, ¬kind earlier)
      (here : kind item) (after : List α) :
      (before ++ item :: after).find? (fun other => decide (kind other)) = some item :=
    List.find?_eq_some_iff_append.mpr
      ⟨decide_eq_true here, before, after, rfl, by simpa using none⟩
  have one := found none here after
  rw [same, found none' here' after'] at one
  exact (Option.some.inj one).symm

end ChannelAccess
