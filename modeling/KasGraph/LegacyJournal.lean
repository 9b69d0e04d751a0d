import KasGraph.CellLedger
import KasGraph.MachineInt
import KasGraph.Store

set_option autoImplicit false

/-! The journals of accepted legacy operations, one table for each family. A row is
numbered within its tick, a transaction has one row at most, and a reorg deletes the
rows of a subgraph from a DAA score on. -/

namespace KasGraph

open MachineInt

/-- The columns that both journals have. -/
class LegacyOpRow (ρ : Type) where
  table : String
  subgraph : ρ → SubgraphId
  tick : ρ → String
  acceptingBlockHash : ρ → String
  seq : ρ → Int64
  acceptingDaaScore : ρ → Int64
  txHash : ρ → String

/-- Rows in the order of their insertion. -/
abbrev LegacyJournal (ρ : Type) := List ρ

namespace LegacyJournal

open LegacyOpRow

variable {ρ : Type} [LegacyOpRow ρ]

/-! ## Statements -/

def opExists (journal : LegacyJournal ρ) (hash : String) : Bool :=
  journal.any fun row => txHash row == hash

/-- The rows of a tick. -/
def ofTick (journal : LegacyJournal ρ) (name : String) : List ρ :=
  journal.filter fun row => tick row = name

/-- `MAX(seq) + 1` over the rows of a tick, or 0. -/
def nextSeq (journal : LegacyJournal ρ) (name : String) : Except StoreError Int64 :=
  match ((journal.ofTick name).map seq).max? with
  | none => .ok 0
  | some last =>
      match checkedSucc last with
      | some next => .ok next
      | none => .error .integerOutOfRange

/-- `INSERT … ON CONFLICT (tx_hash) DO NOTHING`. -/
def record (journal : LegacyJournal ρ) (row : ρ) : Except StoreError (LegacyJournal ρ) :=
  if seq row < 0 then
    .error (.checkViolation (table ρ))
  else if journal.opExists (txHash row) then
    .ok journal
  else if journal.any fun other => tick other == tick row &&
      acceptingBlockHash other == acceptingBlockHash row && seq other == seq row then
    .error (.uniqueViolation (table ρ))
  else
    .ok (journal ++ [row])

/-- Delete the rows of a subgraph at or above a DAA score; answer how many. -/
def unwind (journal : LegacyJournal ρ) (owner : SubgraphId) (fromDaa : Int64) :
    Nat × LegacyJournal ρ :=
  let deleted := fun row : ρ => decide (subgraph row = owner ∧ fromDaa ≤ acceptingDaaScore row)
  (journal.countP deleted, journal.filter fun row => !deleted row)

/-- `accepting_daa_score, tick, seq`. -/
def replayOrder : ρ → ρ → Ordering :=
  compareLex (compareOn acceptingDaaScore) (compareLex (compareOn tick) (compareOn seq))

/-- The rows of a subgraph in replay order. -/
def fetchOrdered (journal : LegacyJournal ρ) (owner : SubgraphId) : List ρ :=
  (journal.filter fun row => subgraph row = owner).insertionSort fun a b => (replayOrder a b).isLE

instance : Std.TransCmp (replayOrder : ρ → ρ → Ordering) := by
  unfold replayOrder
  infer_instance

/-! ## Numbered rows -/

/-- Every row is numbered by the rows of its tick before it. -/
def Numbered (journal : LegacyJournal ρ) : Prop :=
  ∀ before row after, journal = before ++ row :: after →
    (seq row).toInt = (ofTick before (tick row)).length

theorem ofTick_append (first second : LegacyJournal ρ) (name : String) :
    ofTick (first ++ second) name = ofTick first name ++ ofTick second name :=
  List.filter_append ..

theorem ofTick_length_le (journal : LegacyJournal ρ) (name : String) :
    (journal.ofTick name).length ≤ journal.length :=
  List.length_filter_le ..

theorem ofTick_singleton (row : ρ) : ofTick [row] (tick row) = [row] := by
  simp [ofTick]

theorem ofTick_singleton_of_ne {row : ρ} {name : String} (apart : tick row ≠ name) :
    ofTick [row] name = [] := by
  simp [ofTick, apart]

theorem Numbered.nil : Numbered ([] : LegacyJournal ρ) := by
  intro before row after same
  exact absurd same (by simp)

theorem Numbered.concat {journal : LegacyJournal ρ} (numbered : journal.Numbered) {row : ρ}
    (next : (seq row).toInt = (journal.ofTick (tick row)).length) :
    Numbered (journal ++ [row]) := by
  intro before other after same
  rcases List.append_eq_append_iff.mp same with ⟨more, rfl, rest⟩ | ⟨more, kept, rest⟩
  · cases more with
    | nil =>
        cases rest
        simpa using next
    | cons head tail => simp at rest
  · cases more with
    | nil =>
        obtain rfl : journal = before := by simpa using kept
        cases rest
        exact next
    | cons head tail =>
        rw [List.cons_append, List.cons.injEq] at rest
        obtain ⟨rfl, -⟩ := rest
        exact numbered before _ tail kept

theorem Numbered.of_append {first second : LegacyJournal ρ} (numbered : Numbered (first ++ second)) :
    Numbered first := by
  intro before row after same
  exact numbered before row (after ++ second) (by rw [same]; simp)

theorem Numbered.seq_last {journal : LegacyJournal ρ} {row : ρ}
    (numbered : Numbered (journal ++ [row])) :
    (seq row).toInt = (journal.ofTick (tick row)).length :=
  numbered journal row [] rfl

/-- A row's number is below the count of its tick. -/
theorem Numbered.seq_lt {journal : LegacyJournal ρ} (numbered : journal.Numbered) {row : ρ}
    (member : row ∈ journal) :
    0 ≤ (seq row).toInt ∧ (seq row).toInt < (journal.ofTick (tick row)).length := by
  obtain ⟨before, after, rfl⟩ := List.append_of_mem member
  rw [numbered before row after rfl, ← List.singleton_append, ofTick_append, ofTick_append,
    ofTick_singleton]
  simp only [List.length_append, List.length_singleton]
  omega

/-- The rows of a tick ascend by their numbers. -/
theorem Numbered.ascending {journal : LegacyJournal ρ} (numbered : journal.Numbered) :
    journal.Pairwise fun a b => tick a = tick b → seq a < seq b := by
  induction journal using List.reverseRecOn with
  | nil => exact .nil
  | append_singleton journal row ih =>
      have earlier := numbered.of_append
      refine List.pairwise_append.mpr ⟨ih earlier, List.pairwise_singleton _ _, ?_⟩
      intro other member last same alike
      obtain rfl := List.mem_singleton.mp same
      have below := (earlier.seq_lt member).2
      have here := numbered.seq_last
      rw [alike] at below
      rw [Int64.lt_iff_toInt_lt]
      omega

/-- The greatest number of a tick is one less than its count. -/
theorem Numbered.max_seq {journal : LegacyJournal ρ} (numbered : journal.Numbered)
    (name : String) : match ((journal.ofTick name).map seq).max? with
      | none => (journal.ofTick name).length = 0
      | some last => last.toInt + 1 = (journal.ofTick name).length := by
  induction journal using List.reverseRecOn with
  | nil => rfl
  | append_singleton journal row ih =>
      have earlier := numbered.of_append
      rw [ofTick_append]
      by_cases here : tick row = name
      · subst here
        have greatest : ((ofTick journal (tick row) ++ ofTick [row] (tick row)).map seq).max? =
            some (seq row) := by
          rw [ofTick_singleton, List.max?_eq_some_iff]
          refine ⟨by simp, fun other member => ?_⟩
          rw [List.map_append, List.mem_append, List.mem_map] at member
          rcases member with ⟨found, inTick, rfl⟩ | last
          · obtain ⟨member, alike⟩ := List.mem_filter.mp inTick
            have below := (earlier.seq_lt member).2
            have last := numbered.seq_last
            rw [of_decide_eq_true alike] at below
            rw [Int64.le_iff_toInt_le]
            omega
          · exact le_of_eq (List.mem_singleton.mp last)
        rw [greatest]
        have last := numbered.seq_last
        simp only [ofTick_singleton, List.length_append, List.length_singleton]
        omega
      · rw [ofTick_singleton_of_ne here, List.append_nil]
        exact ih earlier

theorem Numbered.nextSeq_eq {journal : LegacyJournal ρ} (numbered : journal.Numbered)
    {name : String} {next : Int64} (allocated : journal.nextSeq name = .ok next) :
    next.toInt = (journal.ofTick name).length := by
  have greatest := numbered.max_seq name
  unfold nextSeq at allocated
  cases found : ((journal.ofTick name).map seq).max? with
  | none =>
      rw [found] at allocated greatest
      cases allocated
      rw [greatest]
      rfl
  | some last =>
      simp only [found] at allocated greatest
      cases stepped : checkedSucc last with
      | none =>
          rw [stepped] at allocated
          cases allocated
      | some sum =>
          rw [stepped] at allocated
          cases allocated
          rw [← (checkedSucc_eq_some_iff _ _).mp stepped, greatest]

theorem Numbered.nextSeq_ok {journal : LegacyJournal ρ} (numbered : journal.Numbered)
    (name : String) (room : (journal.ofTick name).length < 2 ^ 63) :
    ∃ next, journal.nextSeq name = .ok next := by
  have greatest := numbered.max_seq name
  unfold nextSeq
  cases found : ((journal.ofTick name).map seq).max? with
  | none => exact ⟨0, rfl⟩
  | some last =>
      simp only [found] at greatest ⊢
      have fits : checkedSucc last = some (last + 1) := if_pos (by omega)
      rw [fits]
      exact ⟨_, rfl⟩

/-- A row with the next number of its tick, of a transaction without a row, is appended. -/
theorem Numbered.record_eq {journal : LegacyJournal ρ} (numbered : journal.Numbered) (row : ρ)
    (fresh : journal.opExists (txHash row) = false)
    (next : (seq row).toInt = (journal.ofTick (tick row)).length) :
    journal.record row = .ok (journal ++ [row]) := by
  have counted : ¬ seq row < 0 := by
    rw [Int64.lt_iff_toInt_lt, next]
    change ¬ ((journal.ofTick (tick row)).length : Int) < 0
    omega
  have unkeyed : (journal.any fun other => tick other == tick row &&
      acceptingBlockHash other == acceptingBlockHash row && seq other == seq row) = false := by
    rw [List.any_eq_false]
    intro other member both
    simp only [Bool.and_eq_true, beq_iff_eq] at both
    have below := (numbered.seq_lt member).2
    rw [both.1.1, both.2] at below
    omega
  unfold record
  rw [if_neg counted, if_neg (by simp [fresh]), if_neg (by simp [unkeyed])]

/-! ## Rows in replay order -/

theorem replayOrder_eq_lt {a b : ρ} (daa : acceptingDaaScore a ≤ acceptingDaaScore b)
    (sameTick : tick a = tick b) (earlier : seq a < seq b) : replayOrder a b = .lt := by
  change (compare (acceptingDaaScore a) (acceptingDaaScore b)).then
    ((compare (tick a) (tick b)).then (compare (seq a) (seq b))) = .lt
  rw [sameTick, Std.ReflOrd.compare_self, Ordering.then, compare_lt_iff_lt.mpr earlier]
  rcases lt_or_eq_of_le daa with less | level
  · rw [compare_lt_iff_lt.mpr less]
    rfl
  · rw [level, Std.ReflOrd.compare_self]
    rfl

/-- Replay order keeps the order of each tick, where DAA scores do not decrease. -/
theorem ofTick_insertionSort {journal : LegacyJournal ρ} (numbered : journal.Numbered)
    (ordered : journal.Pairwise fun a b => acceptingDaaScore a ≤ acceptingDaaScore b)
    (name : String) :
    ofTick (journal.insertionSort fun a b => (replayOrder a b).isLE) name = journal.ofTick name := by
  apply filter_insertionSort_of_ascending
  rw [List.pairwise_filter]
  refine (numbered.ascending.and ordered).imp ?_
  intro a b both aTick bTick
  have same : tick a = tick b := (of_decide_eq_true aTick).trans (of_decide_eq_true bTick).symm
  exact replayOrder_eq_lt both.2 same (both.1 same)

end LegacyJournal

end KasGraph
