import KasGraph.BlockEffect

set_option autoImplicit false

/-! The head of a lineage. The rows of a covenant are numbered without gap, and its head
counts them and points at the last one. Heads are shared by all subgraphs, rows belong to
the one that recorded them, so an unwind restores a head only where it deletes the last
rows of the covenant and owns what it re-points. -/

namespace KasGraph

open EffectProgram

variable {δ : Type}

/-- The text an unwind re-points a head at. -/
def CovenantLineageRow.utxo (row : CovenantLineageRow) : String :=
  row.txHash ++ ":" ++ toString row.outputIndex

namespace LineageTables

/-- A head that counts `n` steps and points at the last of them. -/
def PointsAt (rows : Table CovenantLineageRow.key) (covenantId : String) (n : Nat)
    (head : CovenantLineageHead) : Prop :=
  head.lineageCount.toInt = n ∧ ∃ (seq : Int32) (row : CovenantLineageRow), seq.toInt + 1 = n ∧
    rows.find? (covenantId, seq) = some row ∧
    head.currentUtxo = row.utxo ∧ head.lastSeenDaa = row.daaScore

/-- A covenant with `n` steps: they are numbered from 0, and the head, which exists when
there is a step, counts them and points at the last. -/
structure Holds (tables : LineageTables) (covenantId : String) (n : Nat) : Prop where
  numbered : ∀ seq : Int32,
    (tables.rows.find? (covenantId, seq)).isSome ↔ 0 ≤ seq.toInt ∧ seq.toInt < n
  opened : (tables.heads.find? covenantId).isSome ↔ 0 < n
  pointed : ∀ head, tables.heads.find? covenantId = some head →
    PointsAt tables.rows covenantId n head

/-- Every covenant has the steps its head says. -/
def Coherent (tables : LineageTables) : Prop := ∀ covenantId, ∃ n, tables.Holds covenantId n

/-- Whether an unwind deletes a row. -/
def Deletes (subgraph : SubgraphId) (fromDaa : Int64) (row : CovenantLineageRow) : Prop :=
  row.subgraph = subgraph ∧ fromDaa ≤ row.daaScore

/-- An unwind deletes the last steps of every covenant it touches, whose heads it owns; and
where it owns a head, the last step it leaves is its own, or none of the steps is. -/
structure UnwindsTop (tables : LineageTables) (subgraph : SubgraphId) (fromDaa : Int64) :
    Prop where
  top : ∀ covenantId low high row later, tables.rows.find? (covenantId, low) = some row →
    tables.rows.find? (covenantId, high) = some later → low < high →
    Deletes subgraph fromDaa row → Deletes subgraph fromDaa later
  owned : ∀ covenantId seq row head, tables.rows.find? (covenantId, seq) = some row →
    Deletes subgraph fromDaa row → tables.heads.find? covenantId = some head →
    head.subgraph = subgraph
  last : ∀ covenantId seq row head, tables.heads.find? covenantId = some head →
    head.subgraph = subgraph → tables.rows.find? (covenantId, seq) = some row →
    ¬ Deletes subgraph fromDaa row →
    (∀ later other, tables.rows.find? (covenantId, later) = some other → seq < later →
      Deletes subgraph fromDaa other) →
    row.subgraph = subgraph ∨
      ∀ other step, tables.rows.find? (covenantId, other) = some step → step.subgraph ≠ subgraph

theorem Holds.congr {tables other : LineageTables} {covenantId : String} {n : Nat}
    (holds : tables.Holds covenantId n)
    (head : other.heads.find? covenantId = tables.heads.find? covenantId)
    (rows : ∀ seq, other.rows.find? (covenantId, seq) = tables.rows.find? (covenantId, seq)) :
    other.Holds covenantId n where
  numbered seq := by
    rw [rows seq]
    exact holds.numbered seq
  opened := by
    rw [head]
    exact holds.opened
  pointed := by
    intro found present
    obtain ⟨count, seq, row, last, stands, utxo, daa⟩ := holds.pointed found (head.symm.trans present)
    exact ⟨count, seq, row, last, (rows seq).trans stands, utxo, daa⟩

/-- The number of the next step of a covenant. -/
def next (tables : LineageTables) (covenantId : String) : Int32 :=
  ((tables.heads.find? covenantId).map CovenantLineageHead.lineageCount).getD 0

theorem Holds.next_eq {tables : LineageTables} {covenantId : String} {n : Nat}
    (holds : tables.Holds covenantId n) : (tables.next covenantId).toInt = n := by
  unfold next
  cases found : tables.heads.find? covenantId with
  | none =>
      have empty : ¬ 0 < n := by
        rw [← holds.opened, found]
        exact Bool.false_ne_true
      have : n = 0 := by omega
      rw [this]
      rfl
  | some head => exact (holds.pointed head found).1

theorem Holds.bound {tables : LineageTables} {covenantId : String} {n : Nat}
    (holds : tables.Holds covenantId n) : n < 2 ^ 31 := by
  have count := holds.next_eq
  have most := (tables.next covenantId).toInt_lt
  omega

/-! ## One more step -/

theorem toInt_succ {seq : Int32} {n : Nat} (counted : seq.toInt = n) (room : n + 1 < 2 ^ 31) :
    (seq + 1).toInt = n + 1 := by
  have one : (1 : Int32).toInt = 1 := rfl
  rw [Int32.toInt_add, counted, one]
  exact Int.bmod_eq_of_le (by norm_num; omega) (by norm_num; omega)

/-- The count wraps at the end of its type. -/
theorem toInt_succ_last {seq : Int32} (counted : seq.toInt = 2 ^ 31 - 1) : seq + 1 < 0 := by
  have last : seq = Int32.maxValue := by
    rw [← Int32.toInt_inj, counted]
    rfl
  rw [last]
  decide

theorem toString_toInt32 {index : UInt32} (small : index.toNat < 2 ^ 31) :
    toString index.toInt32 = toString index := by
  have same : index.toInt32.toInt = index.toNat := by
    change index.toInt32.toBitVec.toInt = _
    rw [UInt32.toBitVec_toInt32, BitVec.toInt_eq_toNat_of_lt]
    · rfl
    · change 2 * index.toNat < 2 ^ 32
      omega
  change toString index.toInt32.toInt = toString index.toNat
  rw [same]
  rfl

variable {tables : LineageTables}

variable (tables) (step : LineageStep) (floats : Json.FloatText) (subgraph : SubgraphId)
  (daaScore : Int64)

theorem nextHead_key : (tables.nextHead subgraph daaScore step).key = step.2.covenantId := by
  unfold nextHead
  split
  · rename_i existing found
    have keyed : existing.key = step.2.covenantId := Table.key_of_find found
    exact keyed
  · rfl

theorem nextHead_utxo : (tables.nextHead subgraph daaScore step).currentUtxo =
    outpointText step.1.txHash step.1.outputIndex := by
  unfold nextHead
  split <;> rfl

theorem nextHead_daa : (tables.nextHead subgraph daaScore step).lastSeenDaa = daaScore := by
  unfold nextHead
  split <;> rfl

theorem nextHead_count : (tables.nextHead subgraph daaScore step).lineageCount =
    tables.next step.2.covenantId + 1 := by
  unfold nextHead
  split <;> rfl

theorem nextRow_key : (tables.nextRow floats subgraph daaScore step).key =
    (step.2.covenantId, tables.next step.2.covenantId) := rfl

/-- The tables with one more step. -/
def withStep : LineageTables where
  heads := tables.heads.upsert (tables.nextHead subgraph daaScore step)
  rows := tables.rows.upsert (tables.nextRow floats subgraph daaScore step)

theorem head_withStep : (tables.withStep step floats subgraph daaScore).heads.find?
    step.2.covenantId = some (tables.nextHead subgraph daaScore step) := by
  have found := tables.heads.find_upsert_self (tables.nextHead subgraph daaScore step)
  rwa [nextHead_key] at found

theorem row_withStep : (tables.withStep step floats subgraph daaScore).rows.find?
    (step.2.covenantId, tables.next step.2.covenantId) =
      some (tables.nextRow floats subgraph daaScore step) :=
  tables.rows.find_upsert_self (tables.nextRow floats subgraph daaScore step)

theorem row_withStep_of_ne {key : String × Int32}
    (apart : (step.2.covenantId, tables.next step.2.covenantId) ≠ key) :
    (tables.withStep step floats subgraph daaScore).rows.find? key = tables.rows.find? key :=
  tables.rows.find_upsert_of_ne _ apart

theorem head_withStep_of_ne {covenantId : String} (apart : step.2.covenantId ≠ covenantId) :
    (tables.withStep step floats subgraph daaScore).heads.find? covenantId =
      tables.heads.find? covenantId :=
  tables.heads.find_upsert_of_ne _ (by rwa [nextHead_key])

variable {tables} {step}

/-- A covenant with room for it gains its next step. -/
theorem Holds.withStep {n : Nat} (holds : tables.Holds step.2.covenantId n)
    (room : n + 1 < 2 ^ 31) (small : step.1.outputIndex.toNat < 2 ^ 31) :
    (tables.withStep step floats subgraph daaScore).Holds step.2.covenantId (n + 1) := by
  have counted := holds.next_eq
  refine ⟨fun seq => ?_, ?_, ?_⟩
  · by_cases here : tables.next step.2.covenantId = seq
    · subst here
      rw [row_withStep, counted]
      exact iff_of_true rfl (by omega)
    · rw [row_withStep_of_ne _ _ _ _ _ fun same => here (Prod.mk.inj same).2, holds.numbered seq]
      have differs : seq.toInt ≠ n := by
        rw [← counted]
        intro same
        exact here (Int32.toInt_inj.mp same).symm
      omega
  · rw [head_withStep]
    exact iff_of_true rfl (Nat.succ_pos n)
  · intro head present
    cases (head_withStep ..).symm.trans present
    refine ⟨?_, tables.next step.2.covenantId, _, ?_, row_withStep .., ?_, nextHead_daa ..⟩
    · rw [nextHead_count, toInt_succ counted room]
      omega
    · omega
    · rw [nextHead_utxo]
      change step.1.txHash ++ ":" ++ toString step.1.outputIndex =
        step.1.txHash ++ ":" ++ toString step.1.outputIndex.toInt32
      rw [toString_toInt32 small]

/-- The other covenants are left alone. -/
theorem Holds.withStep_other {covenantId : String} {n : Nat} (holds : tables.Holds covenantId n)
    (apart : step.2.covenantId ≠ covenantId) :
    (tables.withStep step floats subgraph daaScore).Holds covenantId n :=
  holds.congr (head_withStep_of_ne _ _ _ _ _ apart) fun _ =>
    row_withStep_of_ne _ _ _ _ _ fun same => apart (Prod.mk.inj same).1

/-- One more step, with room for it, leaves every covenant coherent. -/
theorem Coherent.withStep (coherent : tables.Coherent)
    (room : (tables.next step.2.covenantId).toInt + 1 < 2 ^ 31)
    (small : step.1.outputIndex.toNat < 2 ^ 31) :
    (tables.withStep step floats subgraph daaScore).Coherent := by
  intro covenantId
  obtain ⟨n, holds⟩ := coherent covenantId
  by_cases here : step.2.covenantId = covenantId
  · subst here
    have counted := holds.next_eq
    exact ⟨n + 1, holds.withStep floats subgraph daaScore (by omega) small⟩
  · exact ⟨n, holds.withStep_other floats subgraph daaScore here⟩

end LineageTables

/-! ## Persisting a step -/

/-- The store with a head upserted as given. -/
def Store.withHead (store : Store δ) (head : CovenantLineageHead) : Store δ :=
  { store with kasgraphCovenantLineageHead := store.kasgraphCovenantLineageHead.upsert head }

def Backend.withLineage (backend : Backend δ) (tables : LineageTables) : Backend δ :=
  { backend with store := backend.store.withLineage tables }

/-- A statement, which publishes nothing. -/
theorem run_statement (context : String) (op : NodeOp δ) (backend : Backend δ)
    {answer : Except StoreError op.Reply} {store : Store δ}
    (answered : op.onStore backend.store = (answer, store)) (silent : op.event = []) :
    run exec (perform context op) backend =
      (answer.mapError (NodeError.store context), { backend with store }) := by
  rw [run_request, answered, silent, List.append_nil]

section Persist

variable (floats : Json.FloatText) (subgraph : SubgraphId) (hit : DetectedPattern)
  (lineage : LineageClass) (daaScore : Int64) {backend : Backend δ}

/-- The head that a step upserts. -/
def stepHead (prior : Option CovenantLineageHead) : CovenantLineageHead where
  covenantId := lineage.covenantId
  subgraph
  genesisTx := (prior.map (·.genesisTx)).getD hit.txHash
  currentUtxo := outpointText hit.txHash hit.outputIndex
  lastSeenDaa := daaScore
  lineageCount := (nextLineageStep (prior.map (·.lineageCount))).2

/-- A step that is not recorded upserts its head, then inserts its row. -/
theorem run_persistLineage (fresh : backend.store.lineage.recorded lineage.covenantId hit.txHash
      hit.outputIndex.toInt32 = false) :
    run exec (persistLineage floats subgraph hit lineage daaScore) backend =
      run exec (do
        let _ ← perform "upserting covenant lineage head" (.upsertCovenantLineageHead
          (stepHead subgraph hit lineage daaScore
            (backend.store.lineage.heads.find? lineage.covenantId)))
        perform "inserting covenant lineage row" (.insertCovenantLineageRow
          (backend.store.lineage.nextRow floats subgraph daaScore (hit, lineage)))) backend := by
  have answered : backend.store.covenantLineageRowExists lineage.covenantId hit.txHash
      hit.outputIndex.toInt32 = false := fresh
  have asked := run_statement "checking for an existing covenant lineage step"
    (.covenantLineageRowExists lineage.covenantId hit.txHash hit.outputIndex.toInt32) backend rfl rfl
  have fetched := run_statement "loading covenant lineage head"
    (.fetchCovenantLineageHead lineage.covenantId) backend rfl rfl
  rw [answered] at asked
  unfold persistLineage
  rw [run_bind_of_ok exec asked, if_neg Bool.false_ne_true, run_bind_of_ok exec fetched]
  rfl

theorem upsert_stepHead (store : Store δ)
    (counted : ¬ store.lineage.next lineage.covenantId + 1 < 0) :
    store.upsertCovenantLineageHead (stepHead subgraph hit lineage daaScore
        (store.lineage.heads.find? lineage.covenantId)) =
      (.ok (), store.withHead (store.lineage.nextHead subgraph daaScore (hit, lineage))) := by
  have merged : store.mergedHead (stepHead subgraph hit lineage daaScore
        (store.lineage.heads.find? lineage.covenantId)) =
      store.lineage.nextHead subgraph daaScore (hit, lineage) := by
    unfold Store.mergedHead LineageTables.nextHead stepHead
    simp only [Store.lineage]
    cases store.kasgraphCovenantLineageHead.find? lineage.covenantId with
    | none => rfl
    | some existing => rfl
  rw [← merged]
  exact if_neg counted

/-- A step that is not recorded: appended where the count of its covenant has room, refused
where the count would wrap. -/
theorem persistLineage_fresh (coherent : backend.store.lineage.Coherent)
    (fresh : backend.store.lineage.recorded lineage.covenantId hit.txHash
      hit.outputIndex.toInt32 = false) :
    ((backend.store.lineage.next lineage.covenantId).toInt + 1 < 2 ^ 31 ∧
      run exec (persistLineage floats subgraph hit lineage daaScore) backend =
        (.ok (), backend.withLineage
          (backend.store.lineage.withStep (hit, lineage) floats subgraph daaScore))) ∨
    run exec (persistLineage floats subgraph hit lineage daaScore) backend =
      (.error (.store "upserting covenant lineage head"
        (.checkViolation "kasgraph_covenant_lineage_head")), backend) := by
  obtain ⟨n, holds⟩ := coherent lineage.covenantId
  have counted := holds.next_eq
  have bound := holds.bound
  have least : (0 : Int32).toInt = 0 := rfl
  rw [run_persistLineage _ _ _ _ _ fresh]
  by_cases room : n + 1 < 2 ^ 31
  · refine Or.inl ⟨by omega, ?_⟩
    have positive : ¬ backend.store.lineage.next lineage.covenantId + 1 < 0 := by
      rw [Int32.lt_iff_toInt_lt, LineageTables.toInt_succ counted room]
      omega
    have unnumbered : backend.store.lineage.rows.find?
        (lineage.covenantId, backend.store.lineage.next lineage.covenantId) = none := by
      rw [← Option.not_isSome_iff_eq_none, holds.numbered]
      omega
    have upserted := run_statement "upserting covenant lineage head"
      (.upsertCovenantLineageHead (stepHead subgraph hit lineage daaScore
        (backend.store.lineage.heads.find? lineage.covenantId))) backend
      (upsert_stepHead subgraph hit lineage daaScore backend.store positive) rfl
    have opened := LineageTables.head_withStep backend.store.lineage (hit, lineage) floats subgraph
      daaScore
    have free : ¬ ((backend.store.lineage.rows.find?
        (backend.store.lineage.nextRow floats subgraph daaScore (hit, lineage)).key).isSome ||
        backend.store.lineage.recorded lineage.covenantId hit.txHash hit.outputIndex.toInt32) =
          true := by
      rw [LineageTables.nextRow_key, unnumbered, fresh]
      exact Bool.false_ne_true
    have stands : ¬ ((backend.store.lineage.withStep (hit, lineage) floats subgraph
        daaScore).heads.find? lineage.covenantId).isNone = true := by
      rw [opened]
      exact Bool.false_ne_true
    have inserted : (backend.store.withHead
          (backend.store.lineage.nextHead subgraph daaScore (hit, lineage))).insertCovenantLineageRow
        (backend.store.lineage.nextRow floats subgraph daaScore (hit, lineage)) =
          (.ok (), backend.store.withLineage
            (backend.store.lineage.withStep (hit, lineage) floats subgraph daaScore)) :=
      (if_neg free).trans (if_neg stands)
    rw [run_bind_of_ok exec upserted]
    exact run_statement "inserting covenant lineage row"
      (.insertCovenantLineageRow
        (backend.store.lineage.nextRow floats subgraph daaScore (hit, lineage)))
      { backend with store :=
          (backend.store.withHead
            (backend.store.lineage.nextHead subgraph daaScore (hit, lineage))) }
      inserted rfl
  · refine Or.inr ?_
    have wraps : backend.store.lineage.next lineage.covenantId + 1 < 0 :=
      LineageTables.toInt_succ_last (by omega)
    have refused := run_statement "upserting covenant lineage head"
      (.upsertCovenantLineageHead (stepHead subgraph hit lineage daaScore
        (backend.store.lineage.heads.find? lineage.covenantId))) backend (if_pos wraps) rfl
    rw [run_bind, refused]
    rfl

end Persist

/-! ## Unwinding -/

namespace LineageTables

variable (tables : LineageTables) (subgraph : SubgraphId) (fromDaa : Int64)

/-- The rows that an unwind spares. -/
def spared : Table CovenantLineageRow.key :=
  tables.rows.deleteWhere fun row => row.subgraph = subgraph && decide (fromDaa ≤ row.daaScore)

/-- The tables an unwind leaves. -/
def unwound : LineageTables where
  heads := (tables.heads.deleteWhere fun head => head.subgraph = subgraph &&
    !(tables.spared subgraph fromDaa).any fun row => row.covenantId == head.covenantId).updateRows
      (Store.repointHead (tables.spared subgraph fromDaa) subgraph)
      (Store.repointHead_key (tables.spared subgraph fromDaa) subgraph)
  rows := tables.spared subgraph fromDaa

variable {tables subgraph fromDaa}

theorem find_spared {key : String × Int32} {row : CovenantLineageRow} :
    (tables.spared subgraph fromDaa).find? key = some row ↔
      tables.rows.find? key = some row ∧ ¬ Deletes subgraph fromDaa row := by
  unfold spared Deletes
  rw [Table.find_deleteWhere_eq_some]
  simp

/-- How many steps of a covenant an unwind spares: those below its first deleted one. -/
theorem Holds.spared {covenantId : String} {n : Nat} (holds : tables.Holds covenantId n)
    (safe : tables.UnwindsTop subgraph fromDaa) :
    ∃ m ≤ n, (∀ seq : Int32, ((tables.spared subgraph fromDaa).find? (covenantId, seq)).isSome ↔
        0 ≤ seq.toInt ∧ seq.toInt < m) ∧
      (m < n → ∃ seq row, tables.rows.find? (covenantId, seq) = some row ∧
        Deletes subgraph fromDaa row) := by
  classical
  by_cases touched : ∃ k : Nat, ∃ (seq : Int32) (row : CovenantLineageRow), seq.toInt = k ∧
      tables.rows.find? (covenantId, seq) = some row ∧ Deletes subgraph fromDaa row
  · obtain ⟨first, row, counted, found, deleted⟩ := Nat.find_spec touched
    have least := fun k => Nat.find_min touched (m := k)
    have inside := (holds.numbered first).mp (by rw [found]; rfl)
    refine ⟨Nat.find touched, by omega, fun seq => ?_, fun _ => ⟨first, row, found, deleted⟩⟩
    constructor
    · intro present
      obtain ⟨other, spared⟩ := Option.isSome_iff_exists.mp present
      obtain ⟨stands, kept⟩ := find_spared.mp spared
      have numbered := (holds.numbered seq).mp (by rw [stands]; rfl)
      refine ⟨numbered.1, ?_⟩
      by_contra above
      rcases lt_or_eq_of_le (not_lt.mp above) with later | same
      · have after : first < seq := by
          rw [Int32.lt_iff_toInt_lt]
          omega
        exact kept (safe.top covenantId first seq row other found stands after deleted)
      · have here : first = seq := Int32.toInt_inj.mp (by omega)
        subst here
        cases found.symm.trans stands
        exact kept deleted
    · rintro ⟨nonneg, small⟩
      obtain ⟨other, stands⟩ := Option.isSome_iff_exists.mp
        ((holds.numbered seq).mpr ⟨nonneg, by omega⟩)
      have kept : ¬ Deletes subgraph fromDaa other := by
        intro gone
        exact least seq.toInt.toNat (by omega) ⟨seq, other, by omega, stands, gone⟩
      rw [find_spared.mpr ⟨stands, kept⟩]
      rfl
  · refine ⟨n, le_refl n, fun seq => ?_, fun impossible => absurd impossible (lt_irrefl n)⟩
    rw [← holds.numbered seq]
    constructor
    · intro present
      obtain ⟨other, spared⟩ := Option.isSome_iff_exists.mp present
      rw [(find_spared.mp spared).1]
      rfl
    · intro present
      obtain ⟨other, stands⟩ := Option.isSome_iff_exists.mp present
      have numbered := (holds.numbered seq).mp present
      have kept : ¬ Deletes subgraph fromDaa other := by
        intro gone
        exact touched ⟨seq.toInt.toNat, seq, other, by omega, stands, gone⟩
      rw [find_spared.mpr ⟨stands, kept⟩]
      rfl

/-- The head of a covenant after an unwind. -/
theorem head_unwound (covenantId : String) :
    (tables.unwound subgraph fromDaa).heads.find? covenantId =
      ((tables.heads.find? covenantId).filter fun head => !(decide (head.subgraph = subgraph) &&
        !(tables.spared subgraph fromDaa).any fun row => row.covenantId == head.covenantId)).map
          (Store.repointHead (tables.spared subgraph fromDaa) subgraph) := by
  unfold unwound
  rw [Table.find_updateRows, Table.find_deleteWhere]

theorem any_spared (covenantId : String) :
    ((tables.spared subgraph fromDaa).any fun row => row.covenantId == covenantId) = true ↔
      ∃ seq, ((tables.spared subgraph fromDaa).find? (covenantId, seq)).isSome := by
  rw [Table.any_eq_true_iff]
  constructor
  · rintro ⟨row, found, here⟩
    rw [beq_iff_eq] at here
    subst here
    refine ⟨row.seq, ?_⟩
    rw [show (row.covenantId, row.seq) = row.key from rfl, found]
    rfl
  · rintro ⟨seq, present⟩
    obtain ⟨row, found⟩ := Option.isSome_iff_exists.mp present
    have keyed : row.key = (covenantId, seq) := Table.key_of_find found
    refine ⟨row, by rw [keyed, found], ?_⟩
    rw [beq_iff_eq]
    exact (Prod.mk.inj keyed).1

/-- The last spared row of a covenant, where the subgraph recorded it. -/
theorem last_spared {covenantId : String} {seq : Int32} {row : CovenantLineageRow}
    (found : (tables.spared subgraph fromDaa).find? (covenantId, seq) = some row)
    (own : row.subgraph = subgraph)
    (greatest : ∀ other, ((tables.spared subgraph fromDaa).find? (covenantId, other)).isSome →
      other.toInt ≤ seq.toInt) :
    Store.lastLineageRow (tables.spared subgraph fromDaa) subgraph covenantId = some row := by
  have keyed : row.key = (covenantId, seq) := Table.key_of_find found
  unfold Store.lastLineageRow
  rw [Table.selectLast_eq_some_iff, keyed]
  refine ⟨found, ?_, ?_⟩
  · rw [decide_eq_true own, Bool.true_and, beq_iff_eq]
    exact (Prod.mk.inj keyed).1
  · intro key other present chosen
    have otherKeyed : other.key = key := Table.key_of_find present
    rw [Bool.and_eq_true, beq_iff_eq] at chosen
    have same : key = (covenantId, other.seq) := by
      rw [← otherKeyed, ← chosen.2]
      rfl
    subst same
    have below := greatest other.seq (by rw [present]; rfl)
    by_cases level : other.seq = seq
    · right
      rw [level]
    · left
      have differs : other.seq.toInt ≠ seq.toInt := fun same => level (Int32.toInt_inj.mp same)
      rw [OrderedMap.compare_pair, Std.compare_eq_lt, Int32.lt_iff_toInt_lt]
      omega

/-- No spared row of a covenant is the subgraph's own. -/
theorem last_spared_none {covenantId : String}
    (others : ∀ seq row, tables.rows.find? (covenantId, seq) = some row → row.subgraph ≠ subgraph) :
    Store.lastLineageRow (tables.spared subgraph fromDaa) subgraph covenantId = none := by
  unfold Store.lastLineageRow
  rw [Table.selectLast_eq_none_iff]
  intro key row found chosen
  have keyed : row.key = key := Table.key_of_find found
  rw [Bool.and_eq_true, decide_eq_true_eq, beq_iff_eq] at chosen
  have same : key = (covenantId, row.seq) := by
    rw [← keyed, ← chosen.2]
    rfl
  subst same
  exact others row.seq row (find_spared.mp found).1 chosen.1

/-- A head that an unwind leaves counts the spared steps and points at the last of them. -/
theorem Holds.repointed {covenantId : String} {n m : Nat} (holds : tables.Holds covenantId n)
    (safe : tables.UnwindsTop subgraph fromDaa) {head : CovenantLineageHead}
    (found : tables.heads.find? covenantId = some head) (most : m ≤ n)
    (numbered : ∀ seq : Int32, ((tables.spared subgraph fromDaa).find? (covenantId, seq)).isSome ↔
      0 ≤ seq.toInt ∧ seq.toInt < m)
    (touched : m < n → ∃ seq row, tables.rows.find? (covenantId, seq) = some row ∧
      Deletes subgraph fromDaa row) (left : 0 < m) :
    PointsAt (tables.spared subgraph fromDaa) covenantId m
      (Store.repointHead (tables.spared subgraph fromDaa) subgraph head) := by
  have bound := holds.bound
  have keyed : head.covenantId = covenantId := Table.key_of_find found
  have last : (Int32.ofNat (m - 1)).toInt = (m - 1 : Nat) := Int32.toInt_ofNat_of_lt (by omega)
  obtain ⟨row, standing⟩ := Option.isSome_iff_exists.mp
    ((numbered (Int32.ofNat (m - 1))).mpr (by omega))
  obtain ⟨stands, kept⟩ := find_spared.mp standing
  -- Where the head stays as it was, no step of the covenant was deleted.
  have whole (same : Store.repointHead (tables.spared subgraph fromDaa) subgraph head = head)
      (untouched : ∀ seq row, tables.rows.find? (covenantId, seq) = some row →
        ¬ Deletes subgraph fromDaa row) :
      PointsAt (tables.spared subgraph fromDaa) covenantId m
        (Store.repointHead (tables.spared subgraph fromDaa) subgraph head) := by
    obtain ⟨count, seq, old, lastOld, oldStands, utxo, daa⟩ := holds.pointed head found
    have equal : m = n := by
      by_contra differs
      obtain ⟨seq, row, stands, deleted⟩ := touched (by omega)
      exact untouched seq row stands deleted
    rw [same, equal]
    exact ⟨count, seq, old, lastOld,
      find_spared.mpr ⟨oldStands, untouched seq old oldStands⟩, utxo, daa⟩
  by_cases own : head.subgraph = subgraph
  · have later : ∀ other step, tables.rows.find? (covenantId, other) = some step →
        Int32.ofNat (m - 1) < other → Deletes subgraph fromDaa step := by
      intro other step found less
      by_contra spares
      have inside := (numbered other).mp (by rw [find_spared.mpr ⟨found, spares⟩]; rfl)
      rw [Int32.lt_iff_toInt_lt] at less
      omega
    rcases safe.last covenantId _ row head found own stands kept later with mine | others
    · have lastRow := last_spared standing mine fun other present => by
        have inside := (numbered other).mp present
        omega
      rw [← keyed] at lastRow
      have pointed : Store.repointHead (tables.spared subgraph fromDaa) subgraph head =
          { head with
            currentUtxo := row.utxo
            lastSeenDaa := row.daaScore
            lineageCount := row.seq + 1 } := by
        unfold Store.repointHead
        rw [if_pos own, lastRow]
        rfl
      have rowKey : row.key = (covenantId, Int32.ofNat (m - 1)) := Table.key_of_find stands
      have seqOf : row.seq = Int32.ofNat (m - 1) := (Prod.mk.inj rowKey).2
      refine ⟨?_, Int32.ofNat (m - 1), row, by omega, standing, by rw [pointed], by rw [pointed]⟩
      rw [pointed]
      change (row.seq + 1).toInt = m
      rw [seqOf, toInt_succ last (by omega)]
      omega
    · apply whole
      · unfold Store.repointHead
        rw [if_pos own, keyed, last_spared_none others]
      · intro seq step found deleted
        exact others seq step found deleted.1
  · apply whole
    · exact if_neg own
    · intro seq step stepFound deleted
      exact own (safe.owned covenantId seq step head stepFound deleted found)

/-- An unwind that deletes the last steps of a covenant leaves the earlier ones, counted and
pointed at by its head. -/
theorem Holds.unwound {covenantId : String} {n : Nat} (holds : tables.Holds covenantId n)
    (safe : tables.UnwindsTop subgraph fromDaa) :
    ∃ m, (tables.unwound subgraph fromDaa).Holds covenantId m := by
  obtain ⟨m, most, numbered, touched⟩ := holds.spared safe
  have anySpared : ((tables.spared subgraph fromDaa).any fun row => row.covenantId == covenantId) =
      true ↔ 0 < m := by
    rw [any_spared]
    constructor
    · rintro ⟨seq, present⟩
      have inside := (numbered seq).mp present
      omega
    · intro some
      have zero : (0 : Int32).toInt = 0 := rfl
      exact ⟨0, (numbered 0).mpr (by omega)⟩
  cases found : tables.heads.find? covenantId with
  | none =>
      have none : (tables.unwound subgraph fromDaa).heads.find? covenantId = none := by
        rw [head_unwound, found]
        rfl
      have empty : ¬ 0 < n := by
        rw [← holds.opened, found]
        exact Bool.false_ne_true
      refine ⟨m, numbered, ?_, ?_⟩
      · rw [none]
        exact iff_of_false Bool.false_ne_true (by omega)
      · intro head present
        exact nomatch none.symm.trans present
  | some head =>
      have keyed : head.covenantId = covenantId := Table.key_of_find found
      have some : 0 < n := holds.opened.mp (by rw [found]; rfl)
      have spares : ((tables.spared subgraph fromDaa).any fun row =>
          row.covenantId == head.covenantId) = decide (0 < m) := by
        rw [keyed, Bool.eq_iff_iff, anySpared, decide_eq_true_eq]
      by_cases left : 0 < m
      · have kept : (tables.unwound subgraph fromDaa).heads.find? covenantId =
            .some (Store.repointHead (tables.spared subgraph fromDaa) subgraph head) := by
          rw [head_unwound, found, Option.filter_some, spares, decide_eq_true left]
          simp
        refine ⟨m, numbered, ?_, ?_⟩
        · rw [kept]
          exact iff_of_true rfl left
        · intro after present
          cases kept.symm.trans present
          exact holds.repointed safe found most numbered touched left
      · -- Every row is gone, and so is the head, which the subgraph owns.
        obtain ⟨seq, row, stands, deleted⟩ := touched (by omega)
        have own := safe.owned covenantId seq row head stands deleted found
        have gone : (tables.unwound subgraph fromDaa).heads.find? covenantId = none := by
          rw [head_unwound, found, Option.filter_some, spares, decide_eq_false left,
            decide_eq_true own]
          rfl
        refine ⟨m, numbered, ?_, ?_⟩
        · rw [gone]
          exact iff_of_false Bool.false_ne_true left
        · intro after present
          exact nomatch gone.symm.trans present

end LineageTables

end KasGraph
