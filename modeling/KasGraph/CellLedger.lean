import KasGraph.OrderedMap

set_option autoImplicit false

/-! Ledgers of independent cells. An operation names one key and is judged by the
cell of that key alone, so operations under different keys commute and a run is
decided by the operations of each key in their order. -/

/-- How operations act on cells. A rejected operation leaves no cell. -/
structure CellRules (κ σ ο : Type) where
  key : ο → κ
  act : ο → Option σ → Option σ

namespace CellRules

variable {κ σ ο : Type} (rules : CellRules κ σ ο)

/-! ## One cell -/

/-- The cell after an operation; a rejected one leaves it alone. -/
def settle (cell : Option σ) (op : ο) : Option σ := (rules.act op cell).or cell

/-- The operations that one cell accepts, in order. -/
def acceptedBy (cell : Option σ) : List ο → List ο
  | [] => []
  | op :: rest =>
      if (rules.act op cell).isSome then op :: acceptedBy (rules.settle cell op) rest
      else acceptedBy cell rest

theorem settle_of_rejected {cell : Option σ} {op : ο} (rejected : rules.act op cell = none) :
    rules.settle cell op = cell := by
  unfold settle
  rw [rejected, Option.none_or]

theorem acceptedBy_cons_of_taken {cell : Option σ} {op : ο} (taken : (rules.act op cell).isSome)
    (rest : List ο) :
    rules.acceptedBy cell (op :: rest) = op :: rules.acceptedBy (rules.settle cell op) rest := by
  rw [acceptedBy, if_pos taken]

theorem acceptedBy_cons_of_rejected {cell : Option σ} {op : ο}
    (rejected : ¬ (rules.act op cell).isSome) (rest : List ο) :
    rules.acceptedBy cell (op :: rest) = rules.acceptedBy cell rest := by
  rw [acceptedBy, if_neg rejected]

/-- A cell accepts no more operations than it is given. -/
theorem acceptedBy_length (cell : Option σ) (ops : List ο) :
    (rules.acceptedBy cell ops).length ≤ ops.length := by
  induction ops generalizing cell with
  | nil => exact le_refl _
  | cons op rest ih =>
      by_cases taken : (rules.act op cell).isSome
      · rw [rules.acceptedBy_cons_of_taken taken]
        exact Nat.succ_le_succ (ih _)
      · rw [rules.acceptedBy_cons_of_rejected taken]
        exact (ih _).trans (Nat.le_succ _)

/-- What a cell accepted takes it to the same state again, and is accepted again. -/
theorem acceptedBy_again (cell : Option σ) (ops : List ο) :
    rules.acceptedBy cell (rules.acceptedBy cell ops) = rules.acceptedBy cell ops ∧
      (rules.acceptedBy cell ops).foldl rules.settle cell = ops.foldl rules.settle cell := by
  induction ops generalizing cell with
  | nil => exact ⟨rfl, rfl⟩
  | cons op rest ih =>
      by_cases taken : (rules.act op cell).isSome
      · obtain ⟨again, same⟩ := ih (rules.settle cell op)
        rw [rules.acceptedBy_cons_of_taken taken, rules.acceptedBy_cons_of_taken taken, again,
          List.foldl_cons, List.foldl_cons]
        exact ⟨rfl, same⟩
      · have kept := rules.settle_of_rejected (Option.not_isSome_iff_eq_none.mp taken)
        rw [rules.acceptedBy_cons_of_rejected taken, List.foldl_cons, kept]
        exact ih cell

/-! ## All cells -/

variable [Ord κ] [Std.TransOrd κ] [Std.LawfulEqOrd κ]

/-- Apply one operation to the cell of its key. -/
def apply (cells : OrderedMap κ σ) (op : ο) : OrderedMap κ σ :=
  match rules.act op cells[rules.key op]? with
  | some cell => cells.insert (rules.key op) cell
  | none => cells

def accepts (cells : OrderedMap κ σ) (op : ο) : Bool :=
  (rules.act op cells[rules.key op]?).isSome

def run (cells : OrderedMap κ σ) (ops : List ο) : OrderedMap κ σ := ops.foldl rules.apply cells

omit [Std.LawfulEqOrd κ] in
theorem run_append (cells : OrderedMap κ σ) (first second : List ο) :
    rules.run cells (first ++ second) = rules.run (rules.run cells first) second :=
  List.foldl_append

/-- The operations of a run that are accepted, in order. -/
def accepted (cells : OrderedMap κ σ) : List ο → List ο
  | [] => []
  | op :: rest =>
      if rules.accepts cells op then op :: accepted (rules.apply cells op) rest
      else accepted (rules.apply cells op) rest

theorem get_apply_self (cells : OrderedMap κ σ) (op : ο) :
    (rules.apply cells op)[rules.key op]? = rules.settle cells[rules.key op]? op := by
  unfold apply settle
  cases rules.act op cells[rules.key op]? with
  | none => rfl
  | some cell => exact OrderedMap.get_insert_self ..

/-- An operation touches no cell but its own. -/
theorem get_apply_of_ne (cells : OrderedMap κ σ) {op : ο} {k : κ} (apart : rules.key op ≠ k) :
    (rules.apply cells op)[k]? = cells[k]? := by
  unfold apply
  cases rules.act op cells[rules.key op]? with
  | none => rfl
  | some cell => exact OrderedMap.get_insert_of_ne _ _ apart

omit [Std.LawfulEqOrd κ] in
theorem accepted_append (cells : OrderedMap κ σ) (first second : List ο) :
    rules.accepted cells (first ++ second) =
      rules.accepted cells first ++ rules.accepted (rules.run cells first) second := by
  induction first generalizing cells with
  | nil => rfl
  | cons op rest ih =>
      have later := ih (rules.apply cells op)
      simp only [List.cons_append, accepted, run, List.foldl_cons] at later ⊢
      rw [later]
      split
      · rfl
      · rfl

omit [Std.LawfulEqOrd κ] in
/-- A run accepts no more operations than it is given. -/
theorem accepted_length (cells : OrderedMap κ σ) (ops : List ο) :
    (rules.accepted cells ops).length ≤ ops.length := by
  induction ops generalizing cells with
  | nil => exact le_refl _
  | cons op rest ih =>
      have later := ih (rules.apply cells op)
      unfold accepted
      split
      · exact Nat.succ_le_succ later
      · exact later.trans (Nat.le_succ _)

omit [Std.LawfulEqOrd κ] in
/-- A run that accepts everything accepts its first operation, and the rest after it. -/
theorem accepts_of_accepted_eq {cells : OrderedMap κ σ} {op : ο} {rest : List ο}
    (all : rules.accepted cells (op :: rest) = op :: rest) :
    rules.accepts cells op = true ∧ rules.accepted (rules.apply cells op) rest = rest := by
  have shorter := rules.accepted_length (rules.apply cells op) rest
  unfold accepted at all
  by_cases taken : rules.accepts cells op = true
  · rw [if_pos taken, List.cons.injEq] at all
    exact ⟨taken, all.2⟩
  · rw [if_neg taken] at all
    rw [all, List.length_cons] at shorter
    omega

section Keys

variable [DecidableEq κ]

/-- The operations under one key, in order. -/
def under (ops : List ο) (k : κ) : List ο := ops.filter fun op => rules.key op = k

/-- The cell of a key after a run is decided by the operations under that key. -/
theorem get_run (cells : OrderedMap κ σ) (ops : List ο) (k : κ) :
    (rules.run cells ops)[k]? = (rules.under ops k).foldl rules.settle cells[k]? := by
  induction ops generalizing cells with
  | nil => rfl
  | cons op rest ih =>
      have later := ih (rules.apply cells op)
      unfold run under at later ⊢
      rw [List.foldl_cons, later]
      by_cases here : rules.key op = k
      · subst here
        rw [rules.get_apply_self, List.filter_cons_of_pos (by simp), List.foldl_cons]
      · rw [rules.get_apply_of_ne cells here, List.filter_cons_of_neg (by simp [here])]

/-- So are the operations under a key that a run accepts. -/
theorem under_accepted (cells : OrderedMap κ σ) (ops : List ο) (k : κ) :
    rules.under (rules.accepted cells ops) k = rules.acceptedBy cells[k]? (rules.under ops k) := by
  induction ops generalizing cells with
  | nil => rfl
  | cons op rest ih =>
      have later := ih (rules.apply cells op)
      unfold under at later ⊢
      unfold accepted accepts
      by_cases here : rules.key op = k
      · subst here
        rw [rules.get_apply_self] at later
        rw [List.filter_cons_of_pos (by simp), acceptedBy]
        by_cases taken : (rules.act op cells[rules.key op]?).isSome
        · rw [if_pos taken, if_pos taken, List.filter_cons_of_pos (by simp), later]
        · have kept := rules.settle_of_rejected (Option.not_isSome_iff_eq_none.mp taken)
          rw [if_neg taken, if_neg taken, later, kept]
      · rw [rules.get_apply_of_ne cells here] at later
        rw [List.filter_cons_of_neg (by simp [here]), ← later]
        split
        · rw [List.filter_cons_of_neg (by simp [here])]
        · rfl

/-- Every operation of a list is accepted when those of each key are. -/
theorem accepted_eq_self {cells : OrderedMap κ σ} {ops : List ο}
    (each : ∀ k : κ, rules.acceptedBy cells[k]? (rules.under ops k) = rules.under ops k) :
    rules.accepted cells ops = ops := by
  induction ops generalizing cells with
  | nil => rfl
  | cons op rest ih =>
      have first := each (rules.key op)
      unfold under at first
      rw [List.filter_cons_of_pos (by simp), acceptedBy] at first
      have taken : (rules.act op cells[rules.key op]?).isSome = true := by
        by_contra rejected
        rw [if_neg rejected] at first
        have shorter := rules.acceptedBy_length cells[rules.key op]?
          (rest.filter fun other => rules.key other = rules.key op)
        rw [first, List.length_cons] at shorter
        omega
      rw [if_pos taken, List.cons.injEq] at first
      unfold accepted accepts
      rw [if_pos taken]
      refine congrArg (op :: ·) (ih fun k => ?_)
      by_cases here : rules.key op = k
      · subst here
        rw [rules.get_apply_self]
        exact first.2
      · have other := each k
        unfold under at other ⊢
        rw [List.filter_cons_of_neg (by simp [here])] at other
        rw [rules.get_apply_of_ne cells here]
        exact other

/-- Operations that hold, under each key, exactly what a run accepted in its order are
all accepted, and take the cells where the run did. -/
theorem replay_accepted (cells : OrderedMap κ σ) (ops journal : List ο)
    (same : ∀ k : κ, rules.under journal k = rules.under (rules.accepted cells ops) k) :
    rules.accepted cells journal = journal ∧ rules.run cells journal = rules.run cells ops := by
  constructor
  · apply rules.accepted_eq_self
    intro k
    rw [same k, rules.under_accepted]
    exact (rules.acceptedBy_again _ _).1
  · refine OrderedMap.ext_get fun k => ?_
    rw [rules.get_run, rules.get_run, same k, rules.under_accepted]
    exact (rules.acceptedBy_again _ _).2

end Keys

end CellRules

/-! ## Sorted rows -/

/-- Sorting keeps the order of rows that ascend already. -/
theorem filter_insertionSort_of_ascending {ρ : Type} (cmp : ρ → ρ → Ordering) [Std.TransCmp cmp]
    (p : ρ → Bool) {rows : List ρ} (ascending : (rows.filter p).Pairwise fun a b => cmp a b = .lt) :
    (rows.insertionSort fun a b => (cmp a b).isLE).filter p = rows.filter p := by
  have swapped : ∀ a b, cmp a b = (cmp b a).swap := fun _ _ => Std.OrientedCmp.eq_swap
  have total : Std.Total fun a b => (cmp a b).isLE = true := ⟨fun a b => by
    rw [swapped a b]
    cases cmp b a <;> simp⟩
  have transitive : IsTrans ρ fun a b => (cmp a b).isLE = true :=
    ⟨fun _ _ _ => Std.TransCmp.isLE_trans⟩
  have sorted := List.pairwise_insertionSort (fun a b => (cmp a b).isLE = true) rows
  have apart : ∀ a ∈ rows.filter p, ∀ b ∈ rows.filter p, a ≠ b →
      cmp a b = .lt ∨ cmp b a = .lt := by
    have either : (rows.filter p).Pairwise fun a b => cmp a b = .lt ∨ cmp b a = .lt :=
      ascending.imp Or.inl
    have symmetric : Std.Symm fun a b => cmp a b = .lt ∨ cmp b a = .lt := ⟨fun _ _ => Or.symm⟩
    intro a inRows b also differ
    exact either.forall inRows also differ
  have alike : ((rows.insertionSort fun a b => (cmp a b).isLE).filter p).Perm (rows.filter p) :=
    (List.perm_insertionSort _ rows).filter p
  apply alike.eq_of_pairwise _ (sorted.filter p)
    (ascending.imp fun less => by rw [less]; rfl)
  intro a b inSorted inRows before after
  by_contra differ
  have level : cmp a b = .eq := Std.OrientedCmp.isLE_antisymm before after
  rcases apart a (alike.mem_iff.mp inSorted) b inRows differ with less | more
  · rw [level] at less
    cases less
  · rw [swapped, level] at more
    cases more
