import KasGraph.BlockEffect

set_option autoImplicit false

/-! When persisting a block succeeds. In a migrated schema only the two statements of
a new lineage step can fail, so a block whose outputs are recorded steps cannot. -/

namespace KasGraph

open EffectProgram

variable {δ : Type}

/-- The tables of a subgraph's own schema exist. -/
structure Store.Migrated (subgraph : SubgraphId) (store : Store δ) : Prop where
  entityVersions : (subgraph.schemaName, "entity_versions") ∈ store.relations
  covenantUtxos : (subgraph.schemaName, "covenant_utxos") ∈ store.relations
  covenantSpends : (subgraph.schemaName, "covenant_spends") ∈ store.relations

theorem Store.onRelation_present {β : Type} {store after : Store δ} {subgraph : SubgraphId}
    {table : String} {result : β} (present : (subgraph.schemaName, table) ∈ store.relations) :
    store.onRelation subgraph table result after = (.ok result, after) := by
  unfold onRelation
  rw [if_pos present]

theorem Store.onRelation_relations {β : Type} (store after : Store δ) (subgraph : SubgraphId)
    (table : String) (result : β) (same : after.relations = store.relations) :
    (store.onRelation subgraph table result after).2.relations = store.relations := by
  unfold onRelation
  split
  · exact same
  · rfl

/-- No operation adds or drops a table. -/
theorem NodeOp.onStore_relations (op : NodeOp δ) (store : Store δ) :
    (op.onStore store).2.relations = store.relations := by
  cases op with
  | upsertEntityVersion row => exact store.onRelation_relations _ _ _ _ rfl
  | snapshotEntities subgraph => exact store.onRelation_relations _ _ _ _ rfl
  | trackCovenantUtxo row => exact store.onRelation_relations _ _ _ _ rfl
  | lookupCovenantUtxo subgraph txHash outputIndex => exact store.onRelation_relations _ _ _ _ rfl
  | covenantUtxosCreatedByTx subgraph txHash => exact store.onRelation_relations _ _ _ _ rfl
  | covenantLineageContinues subgraph txHash covenantId =>
      exact store.onRelation_relations _ _ _ _ rfl
  | recordCovenantSpend row => exact store.onRelation_relations _ _ _ _ rfl
  | unwindEntityVersions subgraph fromDaa => exact store.onRelation_relations _ _ _ _ rfl
  | unwindCovenantUtxos subgraph fromDaa => exact store.onRelation_relations _ _ _ _ rfl
  | unwindCovenantSpends subgraph fromDaa => exact store.onRelation_relations _ _ _ _ rfl
  | upsertCovenantLineageHead head =>
      simp only [onStore, Store.upsertCovenantLineageHead]
      split <;> rfl
  | insertCovenantLineageRow row =>
      simp only [onStore, Store.insertCovenantLineageRow]
      split
      · rfl
      · split <;> rfl
  | unwindCovenantLineage subgraph fromDaa =>
      simp only [onStore, Store.unwindCovenantLineage]
      split <;> rfl
  | insertRpcBlockAudit _ => rfl
  | recordCommittedBlock _ => rfl
  | insertDetectedPattern _ => rfl
  | publish _ => rfl
  | insertPoiCheckpoint _ => rfl
  | latestPoiForSubgraph _ => rfl
  | covenantLineageRowExists _ _ _ => rfl
  | fetchCovenantLineageHead _ => rfl
  | unwindCommittedBlocks _ _ _ => rfl

/-- A backend over a migrated schema. -/
def Ready (subgraph : SubgraphId) (backend : Backend δ) : Prop := backend.store.Migrated subgraph

theorem ready_stable (subgraph : SubgraphId) (request : Request δ) (backend : Backend δ)
    (ready : Ready subgraph backend) : Ready subgraph (exec request backend).2 := by
  have kept := request.op.onStore_relations backend.store
  unfold Ready
  constructor
  · show _ ∈ (request.op.onStore backend.store).2.relations
    rw [kept]
    exact ready.entityVersions
  · show _ ∈ (request.op.onStore backend.store).2.relations
    rw [kept]
    exact ready.covenantUtxos
  · show _ ∈ (request.op.onStore backend.store).2.relations
    rw [kept]
    exact ready.covenantSpends

theorem Ready.after {α : Type} {subgraph : SubgraphId} {program : NodeProgram δ α}
    {before after : Backend δ} {value : α} (ready : Ready subgraph before)
    (success : run exec program before = (.ok value, after)) : Ready subgraph after := by
  have kept := Succeeds.run_stable (ready_stable subgraph) program ready
  rwa [success] at kept

/-- An operation that answers on a migrated schema. -/
def NodeOp.Answers (subgraph : SubgraphId) (op : NodeOp δ) : Prop :=
  ∀ store : Store δ, store.Migrated subgraph → ∃ reply, (op.onStore store).1 = .ok reply

section Answers

variable {subgraph : SubgraphId}

theorem perform_succeeds (context : String) (op : NodeOp δ) (answers : op.Answers subgraph) :
    Succeeds exec (Ready subgraph) (perform context op) := by
  intro backend ready
  obtain ⟨reply, answered⟩ := answers backend.store ready
  exact ⟨reply, _, (run_request_ok_iff _ _ _ _ _).mpr ⟨answered, rfl⟩⟩

theorem lookup_answers (txHash : String) (outputIndex : Int32) :
    (NodeOp.lookupCovenantUtxo (δ := δ) subgraph txHash outputIndex).Answers subgraph :=
  fun _ migrated => ⟨_, congrArg Prod.fst (Store.onRelation_present migrated.covenantUtxos)⟩

theorem created_answers (txHash : String) :
    (NodeOp.covenantUtxosCreatedByTx (δ := δ) subgraph txHash).Answers subgraph :=
  fun _ migrated => ⟨_, congrArg Prod.fst (Store.onRelation_present migrated.covenantUtxos)⟩

theorem continues_answers (txHash covenantId : String) :
    (NodeOp.covenantLineageContinues (δ := δ) subgraph txHash covenantId).Answers subgraph :=
  fun _ migrated => ⟨_, congrArg Prod.fst (Store.onRelation_present migrated.covenantUtxos)⟩

theorem snapshot_answers : (NodeOp.snapshotEntities (δ := δ) subgraph).Answers subgraph :=
  fun _ migrated => ⟨_, congrArg Prod.fst (Store.onRelation_present migrated.entityVersions)⟩

theorem track_answers {row : CovenantUtxoRecord} (own : row.subgraph = subgraph) :
    (NodeOp.trackCovenantUtxo (δ := δ) row).Answers subgraph := by
  intro store migrated
  exact ⟨(), congrArg Prod.fst (Store.onRelation_present (own ▸ migrated.covenantUtxos))⟩

theorem recordSpend_answers {row : CovenantSpendRecord} (own : row.subgraph = subgraph) :
    (NodeOp.recordCovenantSpend (δ := δ) row).Answers subgraph := by
  intro store migrated
  exact ⟨(), congrArg Prod.fst (Store.onRelation_present (own ▸ migrated.covenantSpends))⟩

theorem upsertEntity_answers {record : EntityVersionRecord} (own : record.subgraph = subgraph) :
    (NodeOp.upsertEntityVersion (δ := δ) record).Answers subgraph := by
  intro store migrated
  exact ⟨(), congrArg Prod.fst (Store.onRelation_present (own ▸ migrated.entityVersions))⟩

theorem classifyLineage_succeeds (blake2b : List UInt8 → List UInt8) (hit : DetectedPattern)
    (inputs : List IngestedTransactionInput) :
    Succeeds exec (Ready subgraph) (classifyLineage (δ := δ) blake2b subgraph hit inputs) := by
  unfold classifyLineage
  apply Succeeds.bind (ready_stable subgraph) (Succeeds.findSomeM? (ready_stable subgraph) _)
  · intro inherited
    exact Succeeds.pure _
  · intro input
    apply Succeeds.ite (Succeeds.pure none)
    exact Succeeds.bind (ready_stable subgraph) (perform_succeeds _ _ (lookup_answers _ _))
      fun _ => Succeeds.pure _

theorem publishHitToStream_succeeds (stream : Bool) (block : BootstrapBlock)
    (hit : DetectedPattern) :
    Succeeds exec (Ready subgraph) (publishHitToStream (δ := δ) stream block hit) := by
  apply Succeeds.ite
  · exact perform_succeeds _ _ fun _ _ => ⟨(), rfl⟩
  · exact Succeeds.pure ()

/-- A recorded step is left alone. -/
theorem persistLineage_of_recorded {backend : Backend δ} {hit : DetectedPattern}
    {lineage : LineageClass} (floats : Json.FloatText) (daaScore : Int64)
    (recorded : backend.store.lineage.recorded lineage.covenantId hit.txHash
      hit.outputIndex.toInt32 = true) :
    ∃ final, run exec (persistLineage floats subgraph hit lineage daaScore) backend =
      (.ok (), final) := by
  have asked := (run_request_ok_iff "checking for an existing covenant lineage step"
    (.covenantLineageRowExists lineage.covenantId hit.txHash hit.outputIndex.toInt32) backend
    _ true).mpr ⟨congrArg Except.ok recorded, rfl⟩
  unfold persistLineage
  rw [run_bind_of_ok exec asked]
  exact ⟨_, rfl⟩

variable {indexer : Indexer δ} {block : BootstrapBlock}

theorem persistHit_of_recorded (loaded : LoadedMapping) {hit : DetectedPattern}
    {before : Backend δ} (ready : Ready subgraph before)
    (recorded : before.store.lineage.recorded
      (lineageOf indexer.toolkit.blake2b subgraph before.store.covenantUtxos hit
        block.inputs).covenantId hit.txHash hit.outputIndex.toInt32 = true) :
    ∃ final, run exec (persistHit indexer subgraph (some loaded) block hit) before =
      (.ok (), final) := by
  obtain ⟨lineage, classified, ran⟩ :=
    classifyLineage_succeeds indexer.toolkit.blake2b hit block.inputs before ready
  obtain ⟨assigned, kept⟩ := Prod.mk.inj (classifyLineage_computes indexer.toolkit.blake2b subgraph
    hit block.inputs before lineage classified ran)
  rw [← assigned] at recorded
  have readyClassified := ready.after ran
  obtain ⟨_, detected, ranDetected⟩ := perform_succeeds "writing detected pattern row"
    (.insertDetectedPattern (detectedPatternOf subgraph block hit (some lineage.covenantId)))
    (fun _ _ => ⟨(), rfl⟩) classified readyClassified
  have readyDetected := readyClassified.after ranDetected
  obtain ⟨_, published, ranPublished⟩ :=
    publishHitToStream_succeeds indexer.stream block hit detected readyDetected
  have readyPublished := readyDetected.after ranPublished
  obtain ⟨_, tracked, ranTracked⟩ := perform_succeeds "tracking covenant UTXO for spend detection"
    (.trackCovenantUtxo (covenantUtxoOf subgraph block hit (some lineage.covenantId)))
    (track_answers rfl) published readyPublished
  have storeDetected := perform_computes _ _ (fun _ => ()) (fun _ _ _ => rfl) _ _ _ ranDetected
  have storePublished := publishHitToStream_computes _ _ _ _ _ _ ranPublished
  have storeTracked := perform_computes _ _ (fun _ => ()) (fun _ _ _ => rfl) _ _ _ ranTracked
  have sameLineage : tracked.store.lineage = before.store.lineage := by
    rw [(Prod.mk.inj storeTracked).2]
    show published.store.lineage = before.store.lineage
    rw [(Prod.mk.inj storePublished).2, (Prod.mk.inj storeDetected).2]
    show classified.store.lineage = before.store.lineage
    rw [kept]
  unfold persistHit
  rw [run_bind_of_ok exec ran, run_bind_of_ok exec ranDetected, run_bind_of_ok exec ranPublished,
    run_bind_of_ok exec ranTracked]
  apply persistLineage_of_recorded
  rw [sameLineage]
  exact recorded

/-- The hits of a block whose outputs are recorded steps. -/
theorem forM_persistHit_of_recorded (loaded : LoadedMapping) {hits : List DetectedPattern}
    {before : Backend δ} (ready : Ready subgraph before)
    (recorded : ∀ step ∈ assignLineages indexer.toolkit.blake2b subgraph block
      before.store.covenantUtxos hits, before.store.lineage.recorded step.2.covenantId
        step.1.txHash step.1.outputIndex.toInt32 = true) :
    ∃ final, run exec (forM hits (persistHit indexer subgraph (some loaded) block)) before =
      (.ok ⟨⟩, final) := by
  induction hits generalizing before with
  | nil => exact ⟨before, rfl⟩
  | cons hit hits ih =>
      obtain ⟨middle, ran⟩ := persistHit_of_recorded loaded
        ready (recorded _ (List.mem_cons_self ..))
      have stepped := (Prod.mk.inj (persistHit_computes indexer subgraph block loaded hit before _
        middle ran)).2
      have sameLineage : middle.store.lineage = before.store.lineage := by
        rw [stepped]
        exact LineageTables.record_of_recorded _ _ _ (recorded _ (List.mem_cons_self ..))
      obtain ⟨final, rest⟩ := ih (ready.after ran) (by
        intro step member
        rw [stepped] at member
        rw [sameLineage]
        exact recorded step (List.mem_cons_of_mem _ member))
      rw [List.forM_cons, run_bind_of_ok exec ran]
      exact ⟨final, rest⟩

/-- Without a mapping no hit can fail. -/
theorem persistHit_unmapped_succeeds (hit : DetectedPattern) :
    Succeeds exec (Ready subgraph) (persistHit indexer subgraph none block hit) := by
  apply Succeeds.bind (ready_stable subgraph) (perform_succeeds _ _ fun _ _ => ⟨(), rfl⟩)
  intro _
  exact publishHitToStream_succeeds _ _ _

theorem loadEntitySnapshot_succeeds :
    Succeeds exec (Ready subgraph) (loadEntitySnapshot (δ := δ) subgraph) := by
  apply Succeeds.bind (ready_stable subgraph) (perform_succeeds _ _ snapshot_answers)
  intro _
  exact Succeeds.pure _

theorem upsertEach_succeeds (context : String) {records : List EntityVersionRecord}
    (own : ∀ record ∈ records, record.subgraph = subgraph) :
    Succeeds exec (Ready (δ := δ) subgraph)
      (forM records fun record => perform context (.upsertEntityVersion record)) :=
  Succeeds.forM (ready_stable subgraph) fun record member =>
    perform_succeeds _ _ (upsertEntity_answers (own record member))

theorem dispatchHits_succeeds {loaded : LoadedMapping} (owned : loaded.subgraph = subgraph) :
    Succeeds exec (Ready subgraph) (dispatchHits (δ := δ) loaded subgraph block) := by
  apply Succeeds.bind (ready_stable subgraph) loadEntitySnapshot_succeeds
  intro snapshot
  apply Succeeds.bind (ready_stable subgraph) (upsertEach_succeeds _ _)
  · intro _
    exact Succeeds.pure _
  · intro record member
    exact owned ▸ (dispatchCommittedHits_stamped member).1

theorem consumedByTx_succeeds (inputs : List IngestedTransactionInput) :
    Succeeds exec (Ready subgraph) (consumedByTx (δ := δ) subgraph inputs) := by
  apply Succeeds.foldlM (ready_stable subgraph)
  intro consumed input
  apply Succeeds.bind (ready_stable subgraph) (perform_succeeds _ _ (lookup_answers _ _))
  intro spent
  cases spent with
  | some spent => exact Succeeds.pure _
  | none => exact Succeeds.pure _

theorem spendOperation_succeeds (spendingTx : String)
    (consumed : List (IngestedTransactionInput × CovenantUtxoRecord)) :
    Succeeds exec (Ready subgraph) (spendOperation (δ := δ) subgraph spendingTx consumed) := by
  unfold spendOperation
  apply Succeeds.ite
  · apply Succeeds.bind (ready_stable subgraph) (perform_succeeds _ _ (created_answers _))
    intro _
    exact Succeeds.pure _
  · exact Succeeds.pure none

theorem successorCovenantId_succeeds (spendingTx : String) (spent : CovenantUtxoRecord) :
    Succeeds exec (Ready subgraph)
      (successorCovenantId (δ := δ) subgraph spendingTx spent) := by
  unfold successorCovenantId
  cases spent.covenantId with
  | none => exact Succeeds.pure none
  | some id =>
      apply Succeeds.bind (ready_stable subgraph) (perform_succeeds _ _ (continues_answers _ _))
      intro _
      exact Succeeds.pure _

theorem persistSpend_succeeds (loaded : LoadedMapping) (spendingTx : String)
    (operation : Option String) (snapshot : EntitySnapshot)
    (pair : IngestedTransactionInput × CovenantUtxoRecord) :
    Succeeds exec (Ready subgraph)
      (persistSpend (δ := δ) loaded subgraph block spendingTx operation snapshot pair) := by
  apply Succeeds.bind (ready_stable subgraph) (successorCovenantId_succeeds spendingTx pair.2)
  intro successor
  have records := @recordSpend_answers δ subgraph
    (covenantSpendOf subgraph block pair.1 pair.2 successor) rfl
  apply Succeeds.bind (ready_stable subgraph) (perform_succeeds _ _ records)
  intro _
  exact upsertEach_succeeds _ fun record emitted => (spendRecords_stamped emitted).1

theorem persistSpends_succeeds (mapping : Option LoadedMapping) :
    Succeeds exec (Ready subgraph) (persistSpends (δ := δ) subgraph mapping block) := by
  cases mapping with
  | none => exact Succeeds.pure ()
  | some loaded =>
      apply Succeeds.ite (Succeeds.pure ())
      apply Succeeds.bind (ready_stable subgraph) (consumedByTx_succeeds block.inputs)
      intro consumed
      apply Succeeds.bind (ready_stable subgraph) loadEntitySnapshot_succeeds
      intro snapshot
      apply Succeeds.forM (ready_stable subgraph)
      intro entry _
      apply Succeeds.bind (ready_stable subgraph) (spendOperation_succeeds entry.1 entry.2)
      intro operation
      exact Succeeds.forM (ready_stable subgraph) fun pair _ =>
        persistSpend_succeeds loaded entry.1 operation snapshot pair

/-- The outputs of a block are recorded steps under the ids they would be assigned. -/
def Recorded (indexer : Indexer δ) (subgraph : SubgraphId) (mapping : Option LoadedMapping)
    (block : BootstrapBlock) (store : Store δ) : Prop :=
  mapping.isSome → ∀ step ∈ store.lineageSteps indexer subgraph block,
    store.lineage.recorded step.2.covenantId step.1.txHash step.1.outputIndex.toInt32 = true

theorem persistHits_of_recorded {mapping : Option LoadedMapping}
    (owned : ∀ loaded, mapping = some loaded → loaded.subgraph = subgraph) {before : Backend δ}
    (ready : Ready subgraph before)
    (recorded : Recorded indexer subgraph mapping block before.store) :
    ∃ dispatched final, run exec (persistHits indexer subgraph mapping block) before =
      (.ok dispatched, final) := by
  unfold persistHits
  split
  · exact ⟨[], before, rfl⟩
  · cases mapping with
    | none =>
        exact Succeeds.bind (ready_stable subgraph)
          (Succeeds.forM (ready_stable subgraph) fun hit _ => persistHit_unmapped_succeeds hit)
          (fun _ => Succeeds.pure []) before ready
    | some loaded =>
        obtain ⟨middle, ran⟩ := forM_persistHit_of_recorded loaded ready (recorded rfl)
        obtain ⟨dispatched, final, rest⟩ := @dispatchHits_succeeds δ subgraph block loaded
          (owned loaded rfl) middle (ready.after ran)
        exact ⟨dispatched, final, by rw [run_bind_of_ok exec ran]; exact rest⟩

theorem persistInner_of_recorded {mapping : Option LoadedMapping}
    (owned : ∀ loaded, mapping = some loaded → loaded.subgraph = subgraph) (before : Backend δ)
    (ready : Ready subgraph before)
    (recorded : Recorded indexer subgraph mapping block before.store) :
    ∃ dispatched final, run exec (persistInner indexer subgraph mapping block) before =
      (.ok dispatched, final) := by
  obtain ⟨dispatched, middle, ran⟩ := persistHits_of_recorded owned ready recorded
  obtain ⟨_, final, rest⟩ := @persistSpends_succeeds δ subgraph block mapping middle
    (ready.after ran)
  unfold persistInner
  rw [run_bind_of_ok exec ran, run_bind_of_ok exec rest]
  exact ⟨dispatched, final, rfl⟩

/-- A block whose outputs are recorded steps is persisted. -/
theorem persistCommittedRows_of_recorded {mapping : Option LoadedMapping}
    (owned : ∀ loaded, mapping = some loaded → loaded.subgraph = subgraph) {before : Backend δ}
    (ready : Ready subgraph before)
    (recorded : Recorded indexer subgraph mapping block before.store) :
    ∃ dispatched final, run exec (persistCommittedRows indexer subgraph mapping block) before =
      (.ok dispatched, final) :=
  persistInner_of_recorded owned {
      store := (before.store.insertRpcBlockAudit ⟨block.hash, block.daaScore, block.servedBy⟩
        ).recordCommittedBlock (committedRecordOf subgraph block)
      published := (before.published ++ []) ++ [] }
    ⟨ready.entityVersions, ready.covenantUtxos, ready.covenantSpends⟩ recorded

end Answers

end KasGraph
