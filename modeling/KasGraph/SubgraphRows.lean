import KasGraph.NodeProgram
import KasGraph.TableParts

set_option autoImplicit false

/-! The rows of one subgraph in the tables that all subgraphs share. An operation on behalf of
a subgraph is answered from these rows, and those of another subgraph leave them alone. -/

namespace KasGraph

variable {δ : Type}

/-- What the store holds for one subgraph in the tables keyed by it. -/
structure SubgraphRows (δ : Type) where
  kasgraphPoi : Table (@PoiCheckpoint.key δ)
  kasgraphCommittedBlock : Table CommittedBlockRecord.key
  kasgraphDetectedPattern : Table DetectedPatternRecord.key
  entityVersions : Table EntityVersionRecord.key
  covenantUtxos : Table CovenantUtxoRecord.key
  covenantSpends : Table CovenantSpendRecord.key
  relations : Finset (String × String)

def Store.rowsOf (store : Store δ) (subgraph : SubgraphId) : SubgraphRows δ where
  kasgraphPoi := store.kasgraphPoi.part fun row => row.subgraph = subgraph
  kasgraphCommittedBlock := store.kasgraphCommittedBlock.part fun row => row.subgraph = subgraph
  kasgraphDetectedPattern := store.kasgraphDetectedPattern.part fun row => row.subgraph = subgraph
  entityVersions := store.entityVersions.part fun row => row.subgraph = subgraph
  covenantUtxos := store.covenantUtxos.part fun row => row.subgraph = subgraph
  covenantSpends := store.covenantSpends.part fun row => row.subgraph = subgraph
  relations := store.relations.filter fun relation => relation.1 = subgraph.schemaName

namespace NodeOp

/-- The subgraph whose rows an operation reads or writes. -/
def subject : NodeOp δ → Option SubgraphId
  | recordCommittedBlock row => some row.subgraph
  | insertDetectedPattern row => some row.subgraph
  | insertPoiCheckpoint row => some row.subgraph
  | latestPoiForSubgraph subgraph => some subgraph
  | upsertEntityVersion row => some row.subgraph
  | snapshotEntities subgraph => some subgraph
  | trackCovenantUtxo row => some row.subgraph
  | lookupCovenantUtxo subgraph _ _ => some subgraph
  | covenantUtxosCreatedByTx subgraph _ => some subgraph
  | covenantLineageContinues subgraph _ _ => some subgraph
  | recordCovenantSpend row => some row.subgraph
  | unwindCommittedBlocks subgraph _ _ => some subgraph
  | unwindEntityVersions subgraph _ => some subgraph
  | unwindCovenantUtxos subgraph _ => some subgraph
  | unwindCovenantSpends subgraph _ => some subgraph
  | insertRpcBlockAudit _ | publish _ | covenantLineageRowExists .. | fetchCovenantLineageHead _
  | upsertCovenantLineageHead _ | insertCovenantLineageRow _ | unwindCovenantLineage .. => none

/-- The operations on the lineage tables, which are keyed by covenant. -/
def onLineage : NodeOp δ → Bool
  | covenantLineageRowExists .. | fetchCovenantLineageHead _ | upsertCovenantLineageHead _
  | insertCovenantLineageRow _ | unwindCovenantLineage .. => true
  | _ => false

end NodeOp

/-! ## Rows of another subgraph -/

section Keys

variable {subgraph : SubgraphId} {ρ κ : Type} {key : ρ → String × κ} {owner : ρ → SubgraphId}

/-- Keys start with the schema, so no row of the subgraph stands under the key of another's. -/
theorem outside_of_key (schema : ∀ row, (key row).1 = (owner row).schemaName) {row : ρ}
    (other : owner row ≠ subgraph) :
    ∀ found, key found = key row → decide (owner found = subgraph) = false := by
  intro found same
  have schemas : (owner found).schemaName = (owner row).schemaName := by
    rw [← schema, ← schema, same]
  rw [SubgraphId.eq_of_schemaName schemas]
  exact decide_eq_false other

end Keys

theorem outside_of_other {ρ : Type} (owner : ρ → SubgraphId) {subgraph other : SubgraphId}
    (apart : other ≠ subgraph) (test : ρ → Bool) :
    ∀ row, (decide (owner row = other) && test row) = true →
      decide (owner row = subgraph) = false := by
  intro row chosen
  have owned : owner row = other := of_decide_eq_true (Bool.and_eq_true_iff.mp chosen).1
  rw [owned]
  exact decide_eq_false apart

namespace Store

variable (store : Store δ) {subgraph : SubgraphId}

/-- A statement on one relation leaves what its effect leaves. -/
theorem rowsOf_onRelation {α : Type} {other : SubgraphId} {table : String} {result : α}
    {after : Store δ} (same : after.rowsOf subgraph = store.rowsOf subgraph) :
    (store.onRelation other table result after).2.rowsOf subgraph = store.rowsOf subgraph := by
  unfold onRelation
  split
  · exact same
  · rfl

end Store

/-- An operation on behalf of another subgraph leaves the rows alone. -/
theorem NodeOp.rowsOf_onStore {op : NodeOp δ} {subgraph : SubgraphId} (store : Store δ)
    (apart : ∀ other, op.subject = some other → other ≠ subgraph) :
    (op.onStore store).2.rowsOf subgraph = store.rowsOf subgraph := by
  cases op with
  | insertRpcBlockAudit _ => rfl
  | publish _ => rfl
  | latestPoiForSubgraph _ => rfl
  | covenantLineageRowExists _ _ _ => rfl
  | fetchCovenantLineageHead _ => rfl
  | snapshotEntities _ => exact store.rowsOf_onRelation rfl
  | lookupCovenantUtxo _ _ _ => exact store.rowsOf_onRelation rfl
  | covenantUtxosCreatedByTx _ _ => exact store.rowsOf_onRelation rfl
  | covenantLineageContinues _ _ _ => exact store.rowsOf_onRelation rfl
  | recordCommittedBlock row =>
      have same := store.kasgraphCommittedBlock.part_upsert_of_outside
        (outside_of_key (fun _ => rfl) (apart _ rfl))
      simp only [onStore, Store.recordCommittedBlock, Store.rowsOf, same]
  | insertDetectedPattern row =>
      have same := store.kasgraphDetectedPattern.part_upsert_of_outside
        (outside_of_key (fun _ => rfl) (apart _ rfl))
      simp only [onStore, Store.insertDetectedPattern, Store.rowsOf, same]
  | insertPoiCheckpoint row =>
      have same := store.kasgraphPoi.part_upsert_of_outside
        (outside_of_key (fun _ => rfl) (apart _ rfl))
      simp only [onStore, Store.insertPoiCheckpoint, Store.rowsOf, same]
  | upsertEntityVersion row =>
      have same := store.entityVersions.part_upsert_of_outside
        (outside_of_key (fun _ => rfl) (apart _ rfl))
      apply store.rowsOf_onRelation
      simp only [Store.rowsOf, same]
  | trackCovenantUtxo row =>
      have same := store.covenantUtxos.part_upsert_of_outside
        (outside_of_key (fun _ => rfl) (apart _ rfl))
      apply store.rowsOf_onRelation
      simp only [Store.rowsOf, same]
  | recordCovenantSpend row =>
      have same := store.covenantSpends.part_upsert_of_outside
        (outside_of_key (fun _ => rfl) (apart _ rfl))
      apply store.rowsOf_onRelation
      simp only [Store.rowsOf, same]
  | upsertCovenantLineageHead head =>
      simp only [onStore, Store.upsertCovenantLineageHead]
      split <;> rfl
  | insertCovenantLineageRow row =>
      simp only [onStore, Store.insertCovenantLineageRow]
      split
      · rfl
      · split <;> rfl
  | unwindCommittedBlocks other hashes reason =>
      have poi := fun test => store.kasgraphPoi.part_deleteWhere_of_outside
        (outside_of_other PoiCheckpoint.subgraph (apart other rfl) test)
      have committed := fun test => store.kasgraphCommittedBlock.part_deleteWhere_of_outside
        (outside_of_other CommittedBlockRecord.subgraph (apart other rfl) test)
      have detected := fun test => store.kasgraphDetectedPattern.part_deleteWhere_of_outside
        (outside_of_other DetectedPatternRecord.subgraph (apart other rfl) test)
      simp only [onStore, Store.unwindCommittedBlocksForSubgraph, Store.rowsOf, poi, committed,
        detected]
  | unwindEntityVersions other cutoff =>
      have same := store.entityVersions.part_deleteWhere_of_outside
        (outside_of_other EntityVersionRecord.subgraph (apart other rfl) fun row =>
          decide (cutoff ≤ row.blockDaaScore))
      apply store.rowsOf_onRelation
      simp only [Store.rowsOf, same]
  | unwindCovenantUtxos other cutoff =>
      have same := store.covenantUtxos.part_deleteWhere_of_outside
        (outside_of_other CovenantUtxoRecord.subgraph (apart other rfl) fun row =>
          decide (cutoff ≤ row.blockDaaScore))
      apply store.rowsOf_onRelation
      simp only [Store.rowsOf, same]
  | unwindCovenantSpends other cutoff =>
      have same := store.covenantSpends.part_deleteWhere_of_outside
        (outside_of_other CovenantSpendRecord.subgraph (apart other rfl) fun row =>
          decide (cutoff ≤ row.blockDaaScore))
      apply store.rowsOf_onRelation
      simp only [Store.rowsOf, same]
  | unwindCovenantLineage other cutoff =>
      simp only [onStore, Store.unwindCovenantLineage]
      split <;> rfl

/-! ## Rows of the subgraph itself -/

namespace Store

variable {left right : Store δ} {subgraph : SubgraphId}
  (alike : left.rowsOf subgraph = right.rowsOf subgraph)
include alike

theorem relation_of_alike (table : String) :
    (subgraph.schemaName, table) ∈ left.relations ↔
      (subgraph.schemaName, table) ∈ right.relations := by
  have same := congrArg SubgraphRows.relations alike
  have member := congrArg ((subgraph.schemaName, table) ∈ ·) same
  simpa [rowsOf] using member

/-- A statement whose result and effect are alike answers alike and leaves alike rows. -/
theorem onRelation_alike {α : Type} (table : String) {result other : α} {after after' : Store δ}
    (same : result = other) (effects : after.rowsOf subgraph = after'.rowsOf subgraph) :
    (left.onRelation subgraph table result after).1 =
        (right.onRelation subgraph table other after').1 ∧
      (left.onRelation subgraph table result after).2.rowsOf subgraph =
        (right.onRelation subgraph table other after').2.rowsOf subgraph := by
  unfold onRelation
  by_cases present : (subgraph.schemaName, table) ∈ left.relations
  · rw [if_pos present, if_pos ((relation_of_alike alike table).mp present), same]
    exact ⟨rfl, effects⟩
  · rw [if_neg present, if_neg fun there => present ((relation_of_alike alike table).mpr there)]
    exact ⟨rfl, alike⟩

theorem committedRowsFor_alike (hashes : List String) :
    left.committedRowsFor subgraph hashes = right.committedRowsFor subgraph hashes := by
  have same := congrArg SubgraphRows.kasgraphCommittedBlock alike
  unfold committedRowsFor
  rw [Table.select_congr_of_part same]
  intro row chosen
  exact (Bool.and_eq_true_iff.mp chosen).1

theorem snapshotRows_alike : left.snapshotRows subgraph = right.snapshotRows subgraph := by
  have same := congrArg SubgraphRows.entityVersions alike
  unfold snapshotRows
  rw [Table.select_congr_of_part same fun row chosen => chosen]
  congr 1
  funext row
  rw [Table.any_congr_of_part same]
  intro later chosen
  simp only [Bool.and_eq_true] at chosen
  exact chosen.1.1.1

end Store

/-- Where the rows of a subgraph are alike, an operation on its behalf answers alike and leaves
alike rows. -/
theorem NodeOp.alike_onStore {op : NodeOp δ} {subgraph : SubgraphId} {left right : Store δ}
    (own : ∀ other, op.subject = some other → other = subgraph) (plain : op.onLineage = false)
    (alike : left.rowsOf subgraph = right.rowsOf subgraph) :
    (op.onStore left).1 = (op.onStore right).1 ∧
      (op.onStore left).2.rowsOf subgraph = (op.onStore right).2.rowsOf subgraph := by
  have poi := congrArg SubgraphRows.kasgraphPoi alike
  have committed := congrArg SubgraphRows.kasgraphCommittedBlock alike
  have detected := congrArg SubgraphRows.kasgraphDetectedPattern alike
  have entities := congrArg SubgraphRows.entityVersions alike
  have utxos := congrArg SubgraphRows.covenantUtxos alike
  have spends := congrArg SubgraphRows.covenantSpends alike
  have relations := congrArg SubgraphRows.relations alike
  cases op with
  | insertRpcBlockAudit _ => exact ⟨rfl, alike⟩
  | publish _ => exact ⟨rfl, alike⟩
  | covenantLineageRowExists _ _ _ => cases plain
  | fetchCovenantLineageHead _ => cases plain
  | upsertCovenantLineageHead _ => cases plain
  | insertCovenantLineageRow _ => cases plain
  | unwindCovenantLineage _ _ => cases plain
  | latestPoiForSubgraph other =>
      cases own other rfl
      exact ⟨congrArg Except.ok (Table.selectLast_congr_of_part poi fun row chosen => chosen), alike⟩
  | snapshotEntities other =>
      cases own other rfl
      exact Store.onRelation_alike alike _ (Store.snapshotRows_alike alike) alike
  | lookupCovenantUtxo other txHash outputIndex =>
      cases own other rfl
      refine Store.onRelation_alike alike _ (Table.find_congr_of_part utxos ?_) alike
      intro row here
      exact decide_eq_true (SubgraphId.eq_of_schemaName (congrArg Prod.fst here))
  | covenantUtxosCreatedByTx other txHash =>
      cases own other rfl
      refine Store.onRelation_alike alike _ (Table.select_congr_of_part utxos ?_) alike
      intro row chosen
      exact (Bool.and_eq_true_iff.mp chosen).1
  | covenantLineageContinues other txHash covenantId =>
      cases own other rfl
      refine Store.onRelation_alike alike _ (Table.any_congr_of_part utxos ?_) alike
      intro row chosen
      simp only [Bool.and_eq_true] at chosen
      exact chosen.1.1
  | recordCommittedBlock row =>
      refine ⟨rfl, ?_⟩
      have same := Table.part_upsert_congr committed row
      simp only [onStore, Store.recordCommittedBlock, Store.rowsOf, SubgraphRows.mk.injEq]
      exact ⟨poi, same, detected, entities, utxos, spends, relations⟩
  | insertDetectedPattern row =>
      refine ⟨rfl, ?_⟩
      have same := Table.part_upsert_congr detected row
      simp only [onStore, Store.insertDetectedPattern, Store.rowsOf, SubgraphRows.mk.injEq]
      exact ⟨poi, committed, same, entities, utxos, spends, relations⟩
  | insertPoiCheckpoint row =>
      refine ⟨rfl, ?_⟩
      have same := Table.part_upsert_congr poi row
      simp only [onStore, Store.insertPoiCheckpoint, Store.rowsOf, SubgraphRows.mk.injEq]
      exact ⟨same, committed, detected, entities, utxos, spends, relations⟩
  | upsertEntityVersion row =>
      cases own row.subgraph rfl
      apply Store.onRelation_alike alike _ rfl
      simp only [Store.rowsOf, SubgraphRows.mk.injEq]
      exact ⟨poi, committed, detected, Table.part_upsert_congr entities row, utxos, spends, relations⟩
  | trackCovenantUtxo row =>
      cases own row.subgraph rfl
      apply Store.onRelation_alike alike _ rfl
      simp only [Store.rowsOf, SubgraphRows.mk.injEq]
      exact ⟨poi, committed, detected, entities, Table.part_upsert_congr utxos row, spends, relations⟩
  | recordCovenantSpend row =>
      cases own row.subgraph rfl
      apply Store.onRelation_alike alike _ rfl
      simp only [Store.rowsOf, SubgraphRows.mk.injEq]
      exact ⟨poi, committed, detected, entities, utxos, Table.part_upsert_congr spends row, relations⟩
  | unwindCommittedBlocks other hashes reason =>
      cases own other rfl
      have rows := Store.committedRowsFor_alike alike hashes
      simp only [onStore, Store.unwindCommittedBlocksForSubgraph, rows, true_and, Store.rowsOf,
        SubgraphRows.mk.injEq]
      exact ⟨Table.part_deleteWhere_congr poi _, Table.part_deleteWhere_congr committed _,
        Table.part_deleteWhere_congr detected _, entities, utxos, spends, relations⟩
  | unwindEntityVersions other cutoff =>
      cases own other rfl
      apply Store.onRelation_alike alike _ rfl
      simp only [Store.rowsOf, SubgraphRows.mk.injEq]
      exact ⟨poi, committed, detected, Table.part_deleteWhere_congr entities _, utxos, spends,
        relations⟩
  | unwindCovenantUtxos other cutoff =>
      cases own other rfl
      apply Store.onRelation_alike alike _ rfl
      simp only [Store.rowsOf, SubgraphRows.mk.injEq]
      exact ⟨poi, committed, detected, entities, Table.part_deleteWhere_congr utxos _, spends,
        relations⟩
  | unwindCovenantSpends other cutoff =>
      cases own other rfl
      apply Store.onRelation_alike alike _ rfl
      simp only [Store.rowsOf, SubgraphRows.mk.injEq]
      exact ⟨poi, committed, detected, entities, utxos, Table.part_deleteWhere_congr spends _,
        relations⟩

end KasGraph
