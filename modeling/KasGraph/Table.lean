import KasGraph.OrderedMap

set_option autoImplicit false

/-! Tables with a primary key. Every row sits under its own key; an upsert
replaces the row of that key, and a delete removes the rows a test selects. -/

/-- Rows under their primary keys. -/
structure Table {ρ κ : Type} [Ord κ] [Std.TransOrd κ] (key : ρ → κ) where
  rows : OrderedMap κ ρ
  keyed : ∀ (k : κ) (row : ρ), rows[k]? = some row → key row = k

namespace Table

variable {ρ κ : Type} [Ord κ] [Std.TransOrd κ] [Std.LawfulEqOrd κ] {key : ρ → κ}

def find? (t : Table key) (k : κ) : Option ρ := t.rows[k]?

def empty : Table key where
  rows := ∅
  keyed := by simp

/-- `INSERT … ON CONFLICT (key) DO UPDATE` of every other column. -/
def upsert (t : Table key) (row : ρ) : Table key where
  rows := t.rows.insert (key row) row
  keyed := by
    intro k found present
    by_cases here : key row = k
    · rw [← here, OrderedMap.get_insert_self] at present
      rw [← Option.some.inj present, here]
    · rw [OrderedMap.get_insert_of_ne _ _ here] at present
      exact t.keyed k found present

/-- `DELETE … WHERE p`. -/
def deleteWhere (t : Table key) (p : ρ → Bool) : Table key where
  rows := t.rows.filter fun _ row => !p row
  keyed := fun k row present =>
    t.keyed k row ((OrderedMap.get_filter_eq_some _ _ _ _).mp present).1

/-- `UPDATE` every row by `change`, which leaves the key alone. -/
def updateRows (t : Table key) (change : ρ → ρ) (keeps : ∀ row, key (change row) = key row) :
    Table key where
  rows := t.rows.map fun _ row => change row
  keyed := by
    intro k row present
    rw [Std.ExtTreeMap.getElem?_map] at present
    obtain ⟨old, found, rfl⟩ := Option.map_eq_some_iff.mp present
    rw [keeps, t.keyed k old found]

/-- The selected rows, in key order. -/
def select (t : Table key) (p : ρ → Bool) : List ρ := t.rows.valuesWhere fun _ row => p row

/-- The selected row with the greatest key. -/
def selectLast (t : Table key) (p : ρ → Bool) : Option ρ :=
  (t.rows.lastWhere fun _ row => p row).map Prod.snd

/-- Whether some row is selected. -/
def any (t : Table key) (p : ρ → Bool) : Bool := !(t.select p).isEmpty

theorem ext_find {t other : Table key} (same : ∀ k, t.find? k = other.find? k) : t = other := by
  obtain ⟨rows, keyed⟩ := t
  obtain ⟨rows', keyed'⟩ := other
  have equal : rows = rows' := OrderedMap.ext_get same
  subst equal
  rfl

instance [DecidableEq κ] [DecidableEq ρ] : DecidableEq (Table key) := fun t other =>
  decidable_of_iff (t.rows = other.rows)
    ⟨fun same => ext_find fun k => congrArg (·[k]?) same, congrArg rows⟩

omit [Std.LawfulEqOrd κ] in
theorem key_of_find {t : Table key} {k : κ} {row : ρ} (found : t.find? k = some row) :
    key row = k :=
  t.keyed k row found

omit [Std.LawfulEqOrd κ] in
@[simp] theorem find_empty (k : κ) : (empty : Table key).find? k = none := by
  simp [find?, empty]

theorem find_upsert_self (t : Table key) (row : ρ) :
    (t.upsert row).find? (key row) = some row :=
  OrderedMap.get_insert_self ..

theorem find_upsert_of_ne (t : Table key) (row : ρ) {k : κ} (apart : key row ≠ k) :
    (t.upsert row).find? k = t.find? k :=
  OrderedMap.get_insert_of_ne _ _ apart

/-- Writing a row that already stands changes nothing. -/
theorem upsert_of_find {t : Table key} {row : ρ} (stands : t.find? (key row) = some row) :
    t.upsert row = t := by
  refine ext_find fun k => ?_
  by_cases here : key row = k
  · rw [← here, find_upsert_self, stands]
  · exact find_upsert_of_ne t row here

theorem find_deleteWhere (t : Table key) (p : ρ → Bool) (k : κ) :
    (t.deleteWhere p).find? k = (t.find? k).filter fun row => !p row :=
  OrderedMap.get_filter ..

theorem find_deleteWhere_eq_some (t : Table key) (p : ρ → Bool) (k : κ) (row : ρ) :
    (t.deleteWhere p).find? k = some row ↔ t.find? k = some row ∧ p row = false := by
  rw [find_deleteWhere, Option.filter_eq_some_iff, Bool.not_eq_true']

theorem deleteWhere_of_none (t : Table key) (p : ρ → Bool)
    (spared : ∀ k row, t.find? k = some row → p row = false) : t.deleteWhere p = t := by
  refine ext_find fun k => ?_
  rw [find_deleteWhere]
  cases present : t.find? k with
  | none => rfl
  | some row => rw [Option.filter_some, if_pos (by simp [spared k row present])]

theorem find_updateRows (t : Table key) (change : ρ → ρ)
    (keeps : ∀ row, key (change row) = key row) (k : κ) :
    (t.updateRows change keeps).find? k = (t.find? k).map change :=
  Std.ExtTreeMap.getElem?_map

theorem mem_select (t : Table key) (p : ρ → Bool) (row : ρ) :
    row ∈ t.select p ↔ t.find? (key row) = some row ∧ p row := by
  rw [select, OrderedMap.mem_valuesWhere]
  constructor
  · rintro ⟨k, present, chosen⟩
    refine ⟨?_, chosen⟩
    rw [key_of_find present]
    exact present
  · rintro ⟨present, chosen⟩
    exact ⟨key row, present, chosen⟩

/-- No two selected rows share a key. -/
theorem select_apart (t : Table key) (p : ρ → Bool) :
    (t.select p).Pairwise fun a b => key a ≠ key b :=
  (OrderedMap.valuesWhere_pairwise t.rows _ key t.keyed).imp fun less same => by
    rw [same, Std.ReflOrd.compare_self] at less
    cases less

theorem any_eq_true_iff (t : Table key) (p : ρ → Bool) :
    t.any p = true ↔ ∃ row, t.find? (key row) = some row ∧ p row := by
  rw [any, Bool.not_eq_true', List.isEmpty_eq_false_iff_exists_mem]
  simp only [mem_select]

theorem selectLast_eq_none_iff (t : Table key) (p : ρ → Bool) :
    t.selectLast p = none ↔ ∀ k row, t.find? k = some row → ¬ p row := by
  rw [selectLast, Option.map_eq_none_iff]
  exact OrderedMap.lastWhere_eq_none_iff ..

theorem selectLast_eq_some_iff (t : Table key) (p : ρ → Bool) (row : ρ) :
    t.selectLast p = some row ↔ t.find? (key row) = some row ∧ p row ∧
      ∀ k other, t.find? k = some other → p other →
        compare k (key row) = .lt ∨ k = key row := by
  rw [selectLast, Option.map_eq_some_iff]
  constructor
  · rintro ⟨⟨k, found⟩, last, rfl⟩
    obtain ⟨present, chosen, greatest⟩ := (OrderedMap.lastWhere_eq_some_iff ..).mp last
    have here : key found = k := t.keyed k found present
    subst here
    exact ⟨present, chosen, greatest⟩
  · rintro ⟨present, chosen, greatest⟩
    exact ⟨(key row, row),
      (OrderedMap.lastWhere_eq_some_iff ..).mpr ⟨present, chosen, greatest⟩, rfl⟩

/-! ## Conditions on every row -/

def Each (holds : ρ → Prop) (t : Table key) : Prop := ∀ k row, t.find? k = some row → holds row

omit [Std.LawfulEqOrd κ] in
theorem each_empty (holds : ρ → Prop) : (empty : Table key).Each holds := by
  intro k row found
  rw [find_empty] at found
  cases found

theorem Each.upsert {holds : ρ → Prop} {t : Table key} (each : t.Each holds) {row : ρ}
    (fits : holds row) : (t.upsert row).Each holds := by
  intro k found present
  by_cases here : key row = k
  · rw [← here, find_upsert_self, Option.some.injEq] at present
    rw [← present]
    exact fits
  · rw [find_upsert_of_ne t row here] at present
    exact each k found present

theorem Each.deleteWhere {holds : ρ → Prop} {t : Table key} (each : t.Each holds)
    (p : ρ → Bool) : (t.deleteWhere p).Each holds := by
  intro k row present
  rw [find_deleteWhere_eq_some] at present
  exact each k row present.1

theorem deleteWhere_eq_self_iff (t : Table key) (p : ρ → Bool) :
    t.deleteWhere p = t ↔ t.Each fun row => p row = false := by
  constructor
  · intro same k row found
    rw [← same, find_deleteWhere_eq_some] at found
    exact found.2
  · exact deleteWhere_of_none t p

/-- Deleting rows and then rewriting the others changes nothing exactly when no row is deleted
and each is its own rewriting. -/
theorem updateRows_deleteWhere_eq_self_iff (t : Table key) (p : ρ → Bool) (change : ρ → ρ)
    (keeps : ∀ row, key (change row) = key row) :
    (t.deleteWhere p).updateRows change keeps = t ↔
      t.Each fun row => p row = false ∧ change row = row := by
  constructor
  · intro same k row found
    have still := found
    rw [← same, find_updateRows, find_deleteWhere, found] at still
    by_cases dropped : p row = true
    · simp [dropped] at still
    · simp only [Bool.not_eq_true] at dropped
      simp [dropped] at still
      exact ⟨dropped, still⟩
  · intro each
    apply ext_find
    intro k
    rw [find_updateRows, find_deleteWhere]
    cases found : t.find? k with
    | none => rfl
    | some row =>
        obtain ⟨stays, fixed⟩ := each k row found
        simp [stays, fixed]

/-! ## Replaying a log of rows -/

/-- The table after upserting the rows of a log one after the other. -/
def replay (t : Table key) (log : List ρ) : Table key := log.foldl upsert t

@[simp] theorem replay_nil (t : Table key) : t.replay [] = t := rfl

theorem replay_append (t : Table key) (first second : List ρ) :
    t.replay (first ++ second) = (t.replay first).replay second :=
  List.foldl_append

theorem replay_concat (t : Table key) (log : List ρ) (row : ρ) :
    t.replay (log ++ [row]) = (t.replay log).upsert row := by
  rw [replay_append]
  rfl

/-- A row of the replayed table comes from the log, or stood before and the log
does not touch its key. -/
theorem find_replay_eq_some {t : Table key} {log : List ρ} {k : κ} {row : ρ}
    (found : (t.replay log).find? k = some row) :
    row ∈ log ∨ t.find? k = some row ∧ ∀ other ∈ log, key other ≠ k := by
  induction log using List.reverseRecOn with
  | nil => exact Or.inr ⟨found, nofun⟩
  | append_singleton log last ih =>
      rw [replay_concat] at found
      by_cases here : key last = k
      · rw [← here, find_upsert_self] at found
        rw [← Option.some.inj found]
        exact Or.inl (by simp)
      · rw [find_upsert_of_ne _ _ here] at found
        rcases ih found with member | ⟨stood, untouched⟩
        · exact Or.inl (List.mem_append_left _ member)
        · refine Or.inr ⟨stood, fun other member => ?_⟩
          rcases List.mem_append.mp member with earlier | final
          · exact untouched other earlier
          · rw [List.mem_singleton.mp final]
            exact here

theorem find_replay_of_untouched (t : Table key) {log : List ρ} {k : κ}
    (untouched : ∀ row ∈ log, key row ≠ k) : (t.replay log).find? k = t.find? k := by
  induction log using List.reverseRecOn with
  | nil => rfl
  | append_singleton log last ih =>
      rw [replay_concat, find_upsert_of_ne _ _ (untouched last (by simp))]
      exact ih fun row member => untouched row (List.mem_append_left _ member)

/-- Under a key stands the last row of the log, or what stood before. -/
theorem find_replay (t : Table key) (log : List ρ) (k : κ) :
    (t.replay log).find? k = (((empty : Table key).replay log).find? k).or (t.find? k) := by
  induction log using List.reverseRecOn with
  | nil => rw [replay_nil, replay_nil, find_empty, Option.none_or]
  | append_singleton log last ih =>
      rw [replay_concat, replay_concat]
      by_cases here : key last = k
      · rw [← here, find_upsert_self, find_upsert_self, Option.some_or]
      · rw [find_upsert_of_ne _ _ here, find_upsert_of_ne _ _ here, ih]

theorem find_replay_of_mem (t : Table key) {log : List ρ}
    (apart : log.Pairwise fun a b => key a ≠ key b) {row : ρ} (member : row ∈ log) :
    (t.replay log).find? (key row) = some row := by
  induction log using List.reverseRecOn with
  | nil => cases member
  | append_singleton log last ih =>
      obtain ⟨before, -, across⟩ := List.pairwise_append.mp apart
      rw [replay_concat]
      rcases List.mem_append.mp member with earlier | final
      · have other : key last ≠ key row :=
          (across row earlier last (List.mem_singleton_self _)).symm
        rw [find_upsert_of_ne _ _ other]
        exact ih before earlier
      · rw [List.mem_singleton.mp final, find_upsert_self]

/-- A log of rows under distinct keys that the table lacks adds exactly its rows. -/
theorem find_replay_fresh (t : Table key) {log : List ρ}
    (apart : log.Pairwise fun a b => key a ≠ key b)
    (absent : ∀ row ∈ log, t.find? (key row) = none) (row : ρ) :
    (t.replay log).find? (key row) = some row ↔ t.find? (key row) = some row ∨ row ∈ log := by
  constructor
  · intro found
    rcases find_replay_eq_some found with member | ⟨stood, -⟩
    · exact Or.inr member
    · exact Or.inl stood
  · rintro (stood | member)
    · rw [find_replay_of_untouched]
      · exact stood
      · intro other member same
        have none := absent other member
        rw [same, stood] at none
        cases none
    · exact find_replay_of_mem t apart member

theorem find_replay_isSome (t : Table key) {log : List ρ} {row : ρ} (member : row ∈ log) :
    ((t.replay log).find? (key row)).isSome = true := by
  induction log using List.reverseRecOn with
  | nil => cases member
  | append_singleton log last ih =>
      rw [replay_concat]
      by_cases here : key last = key row
      · rw [← here, find_upsert_self]
        rfl
      · rw [find_upsert_of_ne _ _ here]
        apply ih
        rcases List.mem_append.mp member with before | final
        · exact before
        · rw [List.mem_singleton.mp final] at here
          exact absurd rfl here

/-- The rows that a log leaves standing stand in the table. -/
def Holds (t : Table key) (log : List ρ) : Prop :=
  ∀ row ∈ log, ((empty : Table key).replay log).find? (key row) = some row →
    t.find? (key row) = some row

/-- A log changes nothing exactly when the rows it leaves standing are there already. -/
theorem replay_eq_self_iff (t : Table key) (log : List ρ) : t.replay log = t ↔ t.Holds log := by
  constructor
  · intro same row member last
    rw [← same, find_replay, last, Option.some_or]
  · intro holds
    apply ext_find
    intro k
    rw [find_replay]
    cases last : ((empty : Table key).replay log).find? k with
    | none => rw [Option.none_or]
    | some row =>
        have here : key row = k := key_of_find last
        have member : row ∈ log := by
          rcases find_replay_eq_some last with logged | ⟨stood, -⟩
          · exact logged
          · rw [find_empty] at stood
            cases stood
        subst here
        rw [Option.some_or, holds row member last]

theorem upsert_eq_self_iff (t : Table key) (row : ρ) :
    t.upsert row = t ↔ t.find? (key row) = some row := by
  constructor
  · intro same
    rw [← same]
    exact find_upsert_self t row
  · exact upsert_of_find

/-- The last row of a log under a key is the one that stands. -/
theorem find_replay_filter {t : Table key} {keep : ρ → Bool} {log : List ρ} {k : κ} {row : ρ}
    (found : (t.replay log).find? k = some row) (kept : keep row = true) (member : row ∈ log) :
    (t.replay (log.filter keep)).find? k = some row := by
  induction log using List.reverseRecOn with
  | nil => cases member
  | append_singleton log last ih =>
      rw [replay_concat] at found
      rw [List.filter_append]
      by_cases here : key last = k
      · rw [← here, find_upsert_self] at found
        rw [Option.some.inj found, List.filter_cons_of_pos kept, List.filter_nil, replay_concat,
          ← here, Option.some.inj found]
        exact find_upsert_self _ _
      · rw [find_upsert_of_ne _ _ here] at found
        have earlier : row ∈ log := by
          rcases List.mem_append.mp member with before | final
          · exact before
          · rw [← List.mem_singleton.mp final] at here
            exact absurd (key_of_find found) here
        have rest := ih found earlier
        cases chosen : keep last with
        | false =>
            rw [List.filter_cons_of_neg (by simp [chosen]), List.filter_nil, List.append_nil]
            exact rest
        | true =>
            rw [List.filter_cons_of_pos chosen, List.filter_nil, replay_concat,
              find_upsert_of_ne _ _ here]
            exact rest

/-- Deleting from a table that only a log wrote is replaying the rows that stay, when
under the key of a row that stays no deleted row stands. -/
theorem deleteWhere_replay {p : ρ → Bool} {log : List ρ}
    (standing : ∀ row ∈ log, p row = false → ∀ last,
      ((empty : Table key).replay log).find? (key row) = some last → p last = false) :
    ((empty : Table key).replay log).deleteWhere p = empty.replay (log.filter fun row => !p row) := by
  apply ext_find
  intro k
  rw [find_deleteWhere]
  cases found : ((empty : Table key).replay log).find? k with
  | none =>
      have untouched : ∀ row ∈ log.filter fun row => !p row, key row ≠ k := by
        intro row member here
        obtain ⟨logged, -⟩ := List.mem_filter.mp member
        have present := find_replay_isSome (empty : Table key) logged
        rw [here, found] at present
        cases present
      rw [find_replay_of_untouched _ untouched, find_empty]
      rfl
  | some last =>
      have logged : last ∈ log := by
        rcases find_replay_eq_some found with member | ⟨stood, -⟩
        · exact member
        · simp at stood
      cases dropped : p last with
      | false =>
          rw [Option.filter_some, if_pos (by simp [dropped])]
          exact (find_replay_filter found (by simp [dropped]) logged).symm
      | true =>
          have untouched : ∀ row ∈ log.filter fun row => !p row, key row ≠ k := by
            intro row member here
            obtain ⟨present, stays⟩ := List.mem_filter.mp member
            have spared := standing row present (by simpa using stays) last (by rw [here, found])
            rw [dropped] at spared
            cases spared
          rw [Option.filter_some, if_neg (by simp [dropped]),
            find_replay_of_untouched _ untouched, find_empty]

/-! ## Tables that were written over -/

/-- The table after rows of a kind were written under some keys. -/
def Overwritten (keys : Set κ) (wrote : ρ → Prop) (t after : Table key) : Prop :=
  ∀ k, (k ∈ keys → ∃ row, after.find? k = some row ∧ wrote row) ∧
    (k ∉ keys → after.find? k = t.find? k)

theorem overwritten_replay (t : Table key) {log : List ρ} {wrote : ρ → Prop}
    (each : ∀ row ∈ log, wrote row) :
    t.Overwritten { k | ∃ row ∈ log, key row = k } wrote (t.replay log) := by
  intro k
  constructor
  · rintro ⟨row, member, rfl⟩
    obtain ⟨last, found⟩ := Option.isSome_iff_exists.mp (t.find_replay_isSome member)
    rcases find_replay_eq_some found with logged | ⟨-, untouched⟩
    · exact ⟨last, found, each last logged⟩
    · exact absurd rfl (untouched row member)
  · intro outside
    apply find_replay_of_untouched
    intro row member here
    exact outside ⟨row, member, here⟩

omit [Std.LawfulEqOrd κ] in
theorem overwritten_refl (t : Table key) (wrote : ρ → Prop) : t.Overwritten ∅ wrote t :=
  fun _ => ⟨nofun, fun _ => rfl⟩

omit [Std.LawfulEqOrd κ] in
theorem Overwritten.mono {keys : Set κ} {wrote weaker : ρ → Prop} {t after : Table key}
    (overwritten : t.Overwritten keys wrote after) (weakens : ∀ row, wrote row → weaker row) :
    t.Overwritten keys weaker after := by
  intro k
  refine ⟨fun member => ?_, (overwritten k).2⟩
  obtain ⟨row, found, holds⟩ := (overwritten k).1 member
  exact ⟨row, found, weakens row holds⟩

omit [Std.LawfulEqOrd κ] in
theorem Overwritten.trans {keys more : Set κ} {wrote : ρ → Prop} {t middle after : Table key}
    (first : t.Overwritten keys wrote middle) (second : middle.Overwritten more wrote after) :
    t.Overwritten (keys ∪ more) wrote after := by
  intro k
  by_cases later : k ∈ more
  · exact ⟨fun _ => (second k).1 later, fun outside => absurd (Or.inr later) outside⟩
  · have kept := (second k).2 later
    rw [kept]
    refine ⟨fun member => ?_, fun outside => (first k).2 fun earlier => outside (Or.inl earlier)⟩
    rcases member with earlier | late
    · exact (first k).1 earlier
    · exact absurd late later

omit [Std.LawfulEqOrd κ] in
theorem Overwritten.isSome {keys : Set κ} {wrote : ρ → Prop} {t after : Table key}
    (overwritten : t.Overwritten keys wrote after) {k : κ} (stands : (t.find? k).isSome) :
    (after.find? k).isSome := by
  by_cases member : k ∈ keys
  · obtain ⟨row, found, -⟩ := (overwritten k).1 member
    rw [found]
    rfl
  · rw [(overwritten k).2 member]
    exact stands

omit [Std.LawfulEqOrd κ] in
theorem Overwritten.each_of_empty {keys : Set κ} {wrote : ρ → Prop} {after : Table key}
    (written : (empty : Table key).Overwritten keys wrote after) : after.Each wrote := by
  intro k row found
  by_cases member : k ∈ keys
  · obtain ⟨last, stands, holds⟩ := (written k).1 member
    rw [found, Option.some.injEq] at stands
    rw [stands]
    exact holds
  · rw [(written k).2 member, find_empty] at found
    cases found

/-- Deleting what was written restores a table exactly when nothing of the table itself is
deleted and nothing stood under the keys. -/
theorem Overwritten.deleteWhere_eq_iff {keys : Set κ} {wrote : ρ → Prop} {t after : Table key}
    (overwritten : t.Overwritten keys wrote after) {p : ρ → Bool}
    (deletes : ∀ row, wrote row → p row = true) :
    after.deleteWhere p = t ↔ t.Each (fun row => p row = false) ∧ ∀ k ∈ keys, t.find? k = none := by
  constructor
  · intro same
    have spared : t.Each fun row => p row = false := by
      intro k row found
      rw [← same, find_deleteWhere_eq_some] at found
      simpa using found.2
    refine ⟨spared, fun k member => ?_⟩
    obtain ⟨row, found, holds⟩ := (overwritten k).1 member
    rw [← same, find_deleteWhere, found, Option.filter_some, if_neg]
    simp [deletes row holds]
  · rintro ⟨spared, free⟩
    apply ext_find
    intro k
    rw [find_deleteWhere]
    by_cases member : k ∈ keys
    · obtain ⟨row, found, holds⟩ := (overwritten k).1 member
      rw [found, free k member, Option.filter_some, if_neg]
      simp [deletes row holds]
    · rw [(overwritten k).2 member]
      cases stood : t.find? k with
      | none => rfl
      | some row =>
          rw [Option.filter_some, if_pos]
          simp [spared k row stood]

end Table
