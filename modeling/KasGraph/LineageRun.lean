import KasGraph.LineageHead

set_option autoImplicit false

/-! Runs of lineage steps and unwinds, by any subgraphs. Every covenant stays coherent
while each unwind deletes the last steps of the covenants it touches and owns what it
re-points. -/

namespace KasGraph

open EffectProgram

variable {δ : Type}

/-- A call that changes the lineage. -/
inductive LineageCall where
  | persist (subgraph : SubgraphId) (hit : DetectedPattern) (lineage : LineageClass)
      (daaScore : Int64)
  | unwind (subgraph : SubgraphId) (fromDaa : Int64)

namespace LineageCall

def program (floats : Json.FloatText) : LineageCall → NodeProgram δ Unit
  | .persist subgraph hit lineage daaScore => persistLineage floats subgraph hit lineage daaScore
  | .unwind subgraph fromDaa =>
      perform "unwinding covenant lineage for reorg" (.unwindCovenantLineage subgraph fromDaa)

/-- The state that calls leave, whether each succeeds or fails. -/
def runEach (floats : Json.FloatText) (calls : List LineageCall) (backend : Backend δ) :
    Backend δ :=
  calls.foldl (fun backend call => (run exec (call.program floats) backend).2) backend

/-- What keeps the lineage coherent: a step that is not recorded has an output index below
2^31, an unwind deletes last steps and owns the heads it re-points. -/
def Safe (tables : LineageTables) : LineageCall → Prop
  | .persist _ hit lineage _ => hit.outputIndex.toNat < 2 ^ 31 ∨
      tables.recorded lineage.covenantId hit.txHash hit.outputIndex.toInt32 = true
  | .unwind subgraph fromDaa => tables.UnwindsTop subgraph fromDaa

end LineageCall

/-- A recorded step changes nothing. -/
theorem persistLineage_recorded (floats : Json.FloatText) (subgraph : SubgraphId)
    (hit : DetectedPattern) (lineage : LineageClass) (daaScore : Int64) {backend : Backend δ}
    (recorded : backend.store.lineage.recorded lineage.covenantId hit.txHash
      hit.outputIndex.toInt32 = true) :
    run exec (persistLineage floats subgraph hit lineage daaScore) backend = (.ok (), backend) := by
  have answered : backend.store.covenantLineageRowExists lineage.covenantId hit.txHash
      hit.outputIndex.toInt32 = true := recorded
  have asked := run_statement "checking for an existing covenant lineage step"
    (.covenantLineageRowExists lineage.covenantId hit.txHash hit.outputIndex.toInt32) backend rfl rfl
  rw [answered] at asked
  unfold persistLineage
  rw [run_bind_of_ok exec asked]
  rfl

/-- An unwind of a coherent lineage succeeds. -/
theorem Store.unwindCovenantLineage_coherent {store : Store δ} (coherent : store.lineage.Coherent)
    (subgraph : SubgraphId) (fromDaa : Int64) :
    store.unwindCovenantLineage subgraph fromDaa =
      (.ok (), store.withLineage (store.lineage.unwound subgraph fromDaa)) := by
  have fits : ∀ covenantId row, Store.lastLineageRow (store.lineage.spared subgraph fromDaa)
      subgraph covenantId = some row → row.seq ≠ Int32.maxValue := by
    intro covenantId row last greatest
    obtain ⟨found, chosen, -⟩ := (Table.selectLast_eq_some_iff ..).mp last
    obtain ⟨n, holds⟩ := coherent row.covenantId
    have inside := (holds.numbered row.seq).mp (by
      rw [show (row.covenantId, row.seq) = row.key from rfl,
        (LineageTables.find_spared.mp found).1]
      rfl)
    have bound := holds.bound
    rw [greatest] at inside
    have most : Int32.maxValue.toInt = 2 ^ 31 - 1 := rfl
    omega
  refine if_neg ?_
  rw [Bool.not_eq_true, ← Bool.not_eq_true]
  intro overflows
  obtain ⟨head, -, tested⟩ := (Table.any_eq_true_iff ..).mp overflows
  rw [Bool.and_eq_true, Option.any_eq_true] at tested
  obtain ⟨row, last, greatest⟩ := tested.2
  exact fits _ row last (beq_iff_eq.mp greatest)

/-- One call keeps the lineage coherent. -/
theorem LineageCall.run_coherent (floats : Json.FloatText) {backend : Backend δ}
    (coherent : backend.store.lineage.Coherent) {call : LineageCall}
    (safe : call.Safe backend.store.lineage) :
    (run exec (call.program floats) backend).2.store.lineage.Coherent := by
  cases call with
  | persist subgraph hit lineage daaScore =>
      change (run exec (persistLineage floats subgraph hit lineage daaScore)
        backend).2.store.lineage.Coherent
      cases recorded : backend.store.lineage.recorded lineage.covenantId hit.txHash
          hit.outputIndex.toInt32 with
      | true =>
          rw [persistLineage_recorded _ _ _ _ _ recorded]
          exact coherent
      | false =>
          have small : hit.outputIndex.toNat < 2 ^ 31 :=
            safe.resolve_right (by rw [recorded]; exact Bool.false_ne_true)
          rcases persistLineage_fresh floats subgraph hit lineage daaScore coherent recorded with
            ⟨room, appended⟩ | refused
          · rw [appended]
            exact coherent.withStep floats subgraph daaScore room small
          · rw [refused]
            exact coherent
  | unwind subgraph fromDaa =>
      have ran := run_statement "unwinding covenant lineage for reorg"
        (.unwindCovenantLineage subgraph fromDaa) backend
        (Store.unwindCovenantLineage_coherent coherent subgraph fromDaa) rfl
      change (run exec (perform "unwinding covenant lineage for reorg"
        (.unwindCovenantLineage subgraph fromDaa)) backend).2.store.lineage.Coherent
      rw [ran]
      intro covenantId
      obtain ⟨n, holds⟩ := coherent covenantId
      exact holds.unwound safe

theorem LineageTables.empty_coherent : LineageTables.Coherent ⟨.empty, .empty⟩ := by
  intro covenantId
  refine ⟨0, fun seq => ?_, ?_, ?_⟩
  · rw [Table.find_empty]
    exact iff_of_false Bool.false_ne_true (by omega)
  · rw [Table.find_empty]
    exact iff_of_false Bool.false_ne_true (lt_irrefl 0)
  · intro head present
    exact nomatch (Table.find_empty covenantId).symm.trans present

/-- In a run of calls by any subgraphs whose unwinds delete last steps and own the heads
they re-point, every covenant is coherent, and no step collides with a stored row. -/
theorem lineage_stays_coherent (floats : Json.FloatText) {initial : Backend δ}
    (empty : initial.store.lineage = ⟨.empty, .empty⟩) (calls : List LineageCall)
    (safe : ∀ before call after, calls = before ++ call :: after →
      call.Safe (LineageCall.runEach floats before initial).store.lineage) :
    (LineageCall.runEach floats calls initial).store.lineage.Coherent ∧
      ∀ subgraph hit lineage daaScore context table,
        (run exec (persistLineage floats subgraph hit lineage daaScore)
          (LineageCall.runEach floats calls initial)).1 ≠
            .error (.store context (.uniqueViolation table)) := by
  have coherent : (LineageCall.runEach floats calls initial).store.lineage.Coherent := by
    induction calls using List.reverseRecOn with
    | nil =>
        change initial.store.lineage.Coherent
        rw [empty]
        exact LineageTables.empty_coherent
    | append_singleton calls call ih =>
        have earlier := ih fun before other after same =>
          safe before other (after ++ [call]) (by rw [same]; simp)
        unfold LineageCall.runEach at earlier ⊢
        rw [List.foldl_append]
        exact LineageCall.run_coherent floats earlier (safe calls call [] rfl)
  refine ⟨coherent, fun subgraph hit lineage daaScore context table => ?_⟩
  cases recorded : (LineageCall.runEach floats calls initial).store.lineage.recorded
      lineage.covenantId hit.txHash hit.outputIndex.toInt32 with
  | true =>
      rw [persistLineage_recorded _ _ _ _ _ recorded]
      nofun
  | false =>
      rcases persistLineage_fresh floats subgraph hit lineage daaScore coherent recorded with
        ⟨-, appended⟩ | refused
      · rw [appended]
        nofun
      · rw [refused]
        nofun

/-! ## Two subgraphs that share a covenant -/

def firstSubgraph : SubgraphId := ⟨"first", by decide +kernel⟩

def secondSubgraph : SubgraphId := ⟨"second", by decide +kernel⟩

/-- A store without rows. -/
def emptyBackend : Backend (List (List UInt8)) where
  store := .empty ∅
  published := []

def lineageHit (txHash : String) : DetectedPattern where
  kind := .openSilverAtomicSwapHTLC
  covenantId := none
  txHash
  outputIndex := 0
  payload := .null

/-- Three steps of one covenant, of which the second subgraph records the middle one; then
the first unwinds the last. -/
def sharedCalls : List LineageCall :=
  [.persist firstSubgraph (lineageHit "t1") (.genesis "c") 1,
    .persist secondSubgraph (lineageHit "t2") (.transition "c" "t1:0") 2,
    .persist firstSubgraph (lineageHit "t3") (.transition "c" "t2:0") 3,
    .unwind firstSubgraph 3]

/-- The head is re-pointed at the first step, although the second still stands, and the next
step collides with it. -/
theorem shared_head_collides :
    ¬ (LineageCall.runEach bareToolkit.floats sharedCalls emptyBackend).store.lineage.Coherent ∧
      (run exec (persistLineage bareToolkit.floats secondSubgraph (lineageHit "t4")
        (.transition "c" "t2:0") 4)
        (LineageCall.runEach bareToolkit.floats sharedCalls emptyBackend)).1 =
          .error (.store "inserting covenant lineage row"
            (.uniqueViolation "kasgraph_covenant_lineage_row")) := by
  constructor
  · intro coherent
    obtain ⟨n, holds⟩ := coherent "c"
    have counted := holds.next_eq
    have one : (LineageCall.runEach bareToolkit.floats sharedCalls
        emptyBackend).store.lineage.next "c" = 1 := by decide +kernel
    have second : ((LineageCall.runEach bareToolkit.floats sharedCalls
        emptyBackend).store.lineage.rows.find? ("c", 1)).isSome = true := by decide +kernel
    have inside := (holds.numbered 1).mp second
    rw [one] at counted
    omega
  · decide +kernel

/-- A run of two subgraphs that stays coherent. -/
theorem lineage_stays_coherent_shared :
    (LineageCall.runEach bareToolkit.floats
      [.unwind firstSubgraph 0,
        .persist firstSubgraph (lineageHit "t1") (.genesis "c") 1,
        .persist secondSubgraph (lineageHit "t2") (.transition "c" "t1:0") 2]
      emptyBackend).store.lineage.Coherent := by
  refine (lineage_stays_coherent bareToolkit.floats rfl _ fun before call after same => ?_).1
  cases before with
  | nil =>
      cases same
      refine ⟨?_, ?_, ?_⟩
      · intro covenantId low high row later found
        exact nomatch (Table.find_empty _).symm.trans found
      · intro covenantId seq row head found
        exact nomatch (Table.find_empty _).symm.trans found
      · intro covenantId seq row head found
        exact nomatch (Table.find_empty _).symm.trans found
  | cons first before =>
      have member : call ∈ [LineageCall.persist firstSubgraph (lineageHit "t1") (.genesis "c") 1,
          .persist secondSubgraph (lineageHit "t2") (.transition "c" "t1:0") 2] := by
        rw [(List.cons.inj same).2]
        simp
      rcases List.mem_cons.mp member with rfl | last
      · exact Or.inl (by decide)
      · rw [List.mem_singleton.mp last]
        exact Or.inl (by decide)

end KasGraph
