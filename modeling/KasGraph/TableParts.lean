import KasGraph.Table

set_option autoImplicit false

/-! Parts of a table. Several owners write one table under keys of their own; the part of an
owner answers its reads and is moved by its writes only. -/

namespace Table

variable {ρ κ : Type} [Ord κ] [Std.TransOrd κ] [Std.LawfulEqOrd κ] {key : ρ → κ}

/-- The rows `p` selects, under their keys. -/
def part (t : Table key) (p : ρ → Bool) : Table key := t.deleteWhere fun row => !p row

theorem find_part (t : Table key) (p : ρ → Bool) (k : κ) :
    (t.part p).find? k = (t.find? k).filter p := by
  simp only [part, find_deleteWhere, Bool.not_not]

theorem part_eq_iff {t other : Table key} {p : ρ → Bool} :
    t.part p = other.part p ↔ ∀ k, (t.find? k).filter p = (other.find? k).filter p := by
  constructor
  · intro same k
    rw [← find_part, ← find_part, same]
  · intro same
    apply ext_find
    intro k
    rw [find_part, find_part, same]

/-- Writing a row beside a part, under a key that the part does not use. -/
theorem part_upsert_of_outside (t : Table key) {p : ρ → Bool} {row : ρ}
    (outside : ∀ other, key other = key row → p other = false) :
    (t.upsert row).part p = t.part p := by
  rw [part_eq_iff]
  intro k
  by_cases here : key row = k
  · rw [← here, find_upsert_self, Option.filter_some, if_neg (by simp [outside row rfl])]
    cases stood : t.find? (key row) with
    | none => rfl
    | some other =>
        rw [Option.filter_some, if_neg (by simp [outside other (key_of_find stood)])]
  · rw [find_upsert_of_ne _ _ here]

theorem part_upsert_congr {t other : Table key} {p : ρ → Bool} (same : t.part p = other.part p)
    (row : ρ) : (t.upsert row).part p = (other.upsert row).part p := by
  rw [part_eq_iff] at same ⊢
  intro k
  by_cases here : key row = k
  · rw [← here, find_upsert_self, find_upsert_self]
  · rw [find_upsert_of_ne _ _ here, find_upsert_of_ne _ _ here, same]

theorem part_deleteWhere_of_outside (t : Table key) {p deleted : ρ → Bool}
    (outside : ∀ row, deleted row = true → p row = false) :
    (t.deleteWhere deleted).part p = t.part p := by
  rw [part_eq_iff]
  intro k
  rw [find_deleteWhere]
  cases stood : t.find? k with
  | none => rfl
  | some row =>
      cases dropped : deleted row with
      | false => simp [Option.filter, dropped]
      | true => simp [Option.filter, dropped, outside row dropped]

theorem part_deleteWhere_congr {t other : Table key} {p : ρ → Bool}
    (same : t.part p = other.part p) (deleted : ρ → Bool) :
    (t.deleteWhere deleted).part p = (other.deleteWhere deleted).part p := by
  rw [part_eq_iff] at same ⊢
  intro k
  rw [find_deleteWhere, find_deleteWhere, Option.filter_filter, Option.filter_filter]
  have swapped : ∀ row, (!deleted row && p row) = (p row && !deleted row) :=
    fun row => Bool.and_comm _ _
  simp only [swapped, ← Option.filter_filter, same]

section Reads

variable {t other : Table key} {p q : ρ → Bool} (same : t.part p = other.part p)
  (within : ∀ row, q row = true → p row = true)
include same within

theorem entries_congr_of_part : t.rows.entriesWhere (fun _ row => q row) =
    other.rows.entriesWhere fun _ row => q row := by
  apply OrderedMap.entriesWhere_congr
  intro k
  have seen := congrArg (Option.filter q) (part_eq_iff.mp same k)
  have narrowed : ∀ row, (p row && q row) = q row := by
    intro row
    cases chosen : q row with
    | false => rw [Bool.and_false]
    | true => rw [within row chosen, Bool.and_self]
  simp only [Option.filter_filter, narrowed] at seen
  exact seen

theorem select_congr_of_part : t.select q = other.select q :=
  congrArg (List.map Prod.snd) (entries_congr_of_part same within)

theorem selectLast_congr_of_part : t.selectLast q = other.selectLast q :=
  congrArg (fun entries => (entries.getLast?).map Prod.snd) (entries_congr_of_part same within)

theorem any_congr_of_part : t.any q = other.any q := by
  rw [any, any, select_congr_of_part same within]

end Reads

theorem find_congr_of_part {t other : Table key} {p : ρ → Bool} (same : t.part p = other.part p)
    {k : κ} (within : ∀ row, key row = k → p row = true) : t.find? k = other.find? k := by
  have seen := part_eq_iff.mp same k
  have whole : ∀ table : Table key, (table.find? k).filter p = table.find? k := by
    intro table
    cases stood : table.find? k with
    | none => rfl
    | some row => rw [Option.filter_some, if_pos (within row (key_of_find stood))]
  rwa [whole, whole] at seen

end Table
