import KasGraph.BlockDispatch
import KasGraph.DeliveredBlocks
import KasGraph.InvariantRules
import KasGraph.TablesExist

set_option autoImplicit false

/-! Invariants of the entities of a subgraph. A property that its mapping establishes dispatch by
dispatch, for the events that a node can hand to it, holds of all entity versions in every run of
the node. -/

namespace KasGraph

open EffectProgram
open Json (Value)

variable {δ : Type}

/-! ## What a mapping is handed -/

/-- An event a node can hand to a mapping: of a hit in a delivered block, or of the spend of a
KCC20 asset. No other spend has an operation. -/
inductive HandedTo (toolkit : Toolkit) (descriptor : BuildDescriptor) : MappingEvent → Prop
  | locked {delivered : IngestedBlock} {hit : DetectedPattern} {handler : String}
      (detected : hit ∈ (blockFromRpc toolkit delivered).detectorHits)
      (resolved : descriptor.resolveHandler hit.kind.debug eventCovenantLocked = some handler) :
      HandedTo toolkit descriptor (lockedMappingEvent hit
        (blockFromRpc toolkit delivered).daaScore.toUInt64 delivered.hash handler)
  | spent {spend : CovenantSpend} {priorState : Value} {blockDaaScore : UInt64}
      {blockHash handler : String}
      (resolved : descriptor.resolveHandler "KCC20Asset" eventCovenantSpent = some handler) :
      HandedTo toolkit descriptor (spendMappingEvent spend priorState blockDaaScore blockHash handler)

/-- A property of an entity by type, id and state. -/
abbrev EntityProperty := String → String → Value → Prop

def SnapshotHas (P : EntityProperty) (snapshot : EntitySnapshot) : Prop :=
  ∀ (key : String × String) value, snapshot[key]? = some value → P key.1 key.2 value

/-- From a snapshot with the property the mapping writes entities with the property. -/
def LoadedMapping.KeepsEntities (toolkit : Toolkit) (P : EntityProperty) (loaded : LoadedMapping) :
    Prop :=
  ∀ event snapshot outcome, HandedTo toolkit loaded.descriptor event → SnapshotHas P snapshot →
    loaded.runtime event snapshot = .ok outcome →
    ∀ op ∈ outcome.entityOps, P op.entity op.id op.data

def EntityVersionRecord.Has (P : EntityProperty) (subgraph : SubgraphId)
    (record : EntityVersionRecord) : Prop :=
  record.subgraph = subgraph → P record.entityType record.entityId record.payload

/-- All entity versions of a subgraph have the property. -/
def Store.EntitiesHave (P : EntityProperty) (subgraph : SubgraphId) (store : Store δ) : Prop :=
  store.entityVersions.Each (EntityVersionRecord.Has P subgraph)

variable {P : EntityProperty} {target subgraph : SubgraphId}

/-! ## What a statement writes -/

theorem Store.entitiesHave_onRelation {α : Type} {store after : Store δ} {owner : SubgraphId}
    {table : String} {result : α} (held : store.EntitiesHave P target)
    (kept : after.EntitiesHave P target) :
    (store.onRelation owner table result after).2.EntitiesHave P target := by
  unfold onRelation
  split
  · exact kept
  · exact held

theorem NodeOp.entitiesHave_onStore {op : NodeOp δ} {store : Store δ}
    (held : store.EntitiesHave P target)
    (written : ∀ record, op.entityRow = some record → record.Has P target) :
    (op.onStore store).2.EntitiesHave P target := by
  cases op with
  | upsertEntityVersion record =>
      exact Store.entitiesHave_onRelation held (Table.Each.upsert held (written record rfl))
  | unwindEntityVersions owner cutoff =>
      exact Store.entitiesHave_onRelation held (Table.Each.deleteWhere held _)
  | snapshotEntities _ => exact Store.entitiesHave_onRelation held held
  | lookupCovenantUtxo _ _ _ => exact Store.entitiesHave_onRelation held held
  | covenantUtxosCreatedByTx _ _ => exact Store.entitiesHave_onRelation held held
  | covenantLineageContinues _ _ _ => exact Store.entitiesHave_onRelation held held
  | trackCovenantUtxo _ => exact Store.entitiesHave_onRelation held held
  | recordCovenantSpend _ => exact Store.entitiesHave_onRelation held held
  | unwindCovenantUtxos _ _ => exact Store.entitiesHave_onRelation held held
  | unwindCovenantSpends _ _ => exact Store.entitiesHave_onRelation held held
  | insertRpcBlockAudit _ => exact held
  | recordCommittedBlock _ => exact held
  | insertDetectedPattern _ => exact held
  | publish _ => exact held
  | insertPoiCheckpoint _ => exact held
  | latestPoiForSubgraph _ => exact held
  | covenantLineageRowExists _ _ _ => exact held
  | fetchCovenantLineageHead _ => exact held
  | unwindCommittedBlocks _ _ _ => exact held
  | upsertCovenantLineageHead head =>
      simp only [onStore, Store.upsertCovenantLineageHead]
      split <;> exact held
  | insertCovenantLineageRow row =>
      simp only [onStore, Store.insertCovenantLineageRow]
      split
      · exact held
      · split <;> exact held
  | unwindCovenantLineage _ _ =>
      simp only [onStore, Store.unwindCovenantLineage]
      split <;> exact held

/-- The program keeps the property of the entities and answers as described. -/
abbrev KeepsEntities {α : Type} (P : EntityProperty) (target : SubgraphId) (post : α → Prop)
    (program : NodeProgram δ α) : Prop :=
  Maintains exec (fun backend : Backend δ => backend.store.EntitiesHave P target) post program

theorem perform_keeps {context : String} {op : NodeOp δ}
    (written : ∀ record, op.entityRow = some record → record.Has P target) :
    KeepsEntities P target (fun _ => True) (perform context op) :=
  Maintains.perform fun _ held =>
    ⟨NodeOp.entitiesHave_onStore held written, fun _ _ => trivial⟩

theorem upsertEach_keeps (context : String) {records : List EntityVersionRecord}
    (written : ∀ record ∈ records, record.Has P target) :
    KeepsEntities (δ := δ) P target (fun _ => True)
      (forM records fun record => perform context (.upsertEntityVersion record)) := by
  apply Maintains.forM
  intro record member
  apply perform_keeps
  intro other same
  rw [← Option.some.inj same]
  exact written record member

/-- An operation that writes no entity. -/
theorem perform_unwritten {context : String} {op : NodeOp δ} (unwritten : op.entityRow = none) :
    KeepsEntities P target (fun _ => True) (perform context op) := by
  apply perform_keeps
  intro record same
  rw [unwritten] at same
  cases same

theorem unwritten_within {context : String} {op : NodeOp δ} (unwritten : op.entityRow = none) :
    Within (fun request : Request δ => request.op.entityRow = none) (fun _ => True)
      (perform context op) :=
  ⟨unwritten, fun _ => trivial⟩

/-! ## Hits -/

theorem classifyLineage_keeps (blake2b : List UInt8 → List UInt8) (hit : DetectedPattern)
    (inputs : List IngestedTransactionInput) :
    KeepsEntities (δ := δ) P target (fun _ => True)
      (classifyLineage blake2b subgraph hit inputs) := by
  have confined : Within (fun request : Request δ => request.op.entityRow = none) (fun _ => True)
      (classifyLineage (δ := δ) blake2b subgraph hit inputs) := by
    unfold classifyLineage
    apply Within.bind
    · apply Within.findSomeM?
      intro input _
      split
      · exact Within.pure trivial
      · refine Within.bind (unwritten_within rfl) ?_
        intro prev _
        exact Within.pure trivial
    · intro inherited _
      exact Within.pure trivial
  apply Maintains.of_within confined
  intro request unwritten backend held
  apply NodeOp.entitiesHave_onStore held
  intro record same
  rw [unwritten] at same
  cases same

theorem persistLineage_keeps (floats : Json.FloatText) (hit : DetectedPattern)
    (lineage : LineageClass) (daaScore : Int64) :
    KeepsEntities (δ := δ) P target (fun _ => True)
      (persistLineage floats subgraph hit lineage daaScore) := by
  apply Maintains.bind (perform_unwritten rfl)
  intro recorded _
  apply Maintains.ite
  · intro _
    exact Maintains.pure trivial
  · intro _
    apply Maintains.bind (perform_unwritten rfl)
    intro prior _
    apply Maintains.bind (perform_unwritten rfl)
    intro _ _
    exact perform_unwritten rfl

theorem publishHitToStream_keeps (stream : Bool) (block : BootstrapBlock)
    (hit : DetectedPattern) :
    KeepsEntities (δ := δ) P target (fun _ => True) (publishHitToStream stream block hit) := by
  apply Maintains.ite
  · intro _
    exact perform_unwritten rfl
  · intro _
    exact Maintains.pure trivial

theorem persistHit_keeps (indexer : Indexer δ) (mapping : Option LoadedMapping)
    (block : BootstrapBlock) (hit : DetectedPattern) :
    KeepsEntities P target (fun _ => True) (persistHit indexer subgraph mapping block hit) := by
  cases mapping with
  | none =>
      apply Maintains.bind (perform_unwritten rfl)
      intro _ _
      exact publishHitToStream_keeps _ block hit
  | some loaded =>
      apply Maintains.bind (classifyLineage_keeps _ hit _)
      intro lineage _
      apply Maintains.bind (perform_unwritten rfl)
      intro _ _
      apply Maintains.bind (publishHitToStream_keeps _ block hit)
      intro _ _
      apply Maintains.bind (perform_unwritten rfl)
      intro _ _
      exact persistLineage_keeps _ hit lineage _

/-- The snapshot of the subgraph has the property that its entities have. -/
theorem loadEntitySnapshot_keeps :
    KeepsEntities (δ := δ) P target (fun snapshot => subgraph = target → SnapshotHas P snapshot)
      (loadEntitySnapshot subgraph) := by
  intro backend held
  unfold loadEntitySnapshot
  rw [run_bind, run_request]
  have answer : ((backend.store.snapshotEntities subgraph).2).EntitiesHave P target :=
    Store.entitiesHave_onRelation held held
  have rows : (backend.store.snapshotEntities subgraph).1 =
      .ok (backend.store.snapshotRows subgraph) ∨
      ∃ cause, (backend.store.snapshotEntities subgraph).1 = .error cause := by
    unfold Store.snapshotEntities Store.onRelation
    split
    · exact Or.inl rfl
    · exact Or.inr ⟨_, rfl⟩
  change _ ∧ _
  rcases rows with found | ⟨cause, failed⟩
  · simp only [NodeOp.onStore, found]
    refine ⟨answer, ?_⟩
    intro snapshot answered own
    have loaded : backend.store.entitySnapshot subgraph = snapshot := Except.ok.inj answered
    rw [← loaded, own]
    intro key value present
    obtain ⟨row, listed, rfl, rfl⟩ := (entitySnapshot_eq_some_iff key value).mp present
    obtain ⟨stored, owned, -⟩ := (mem_snapshotRows row).mp listed
    exact held row.key row stored owned
  · simp only [NodeOp.onStore, failed]
    refine ⟨answer, ?_⟩
    intro snapshot answered
    cases answered

/-- What the hits of a delivered block dispatch. -/
theorem dispatchCommittedHits_have {toolkit : Toolkit} {loaded : LoadedMapping}
    {snapshot : EntitySnapshot} {block : BootstrapBlock}
    (keeps : loaded.subgraph = target → loaded.KeepsEntities toolkit P)
    (has : loaded.subgraph = target → SnapshotHas P snapshot) (known : block.Delivered toolkit) :
    ∀ record ∈ loaded.dispatchCommittedHits block.daaScore.toUInt64 block.hash block.detectorHits
      snapshot, record.Has P target := by
  intro record emitted owned
  obtain ⟨stamped, -⟩ := dispatchCommittedHits_stamped emitted
  have own : loaded.subgraph = target := stamped.symm.trans owned
  obtain ⟨hit, detected, fromHit⟩ := List.mem_flatMap.mp emitted
  unfold LoadedMapping.dispatchCommittedHit at fromHit
  split at fromHit
  · cases fromHit
  · rename_i handler resolved
    split at fromHit
    · rename_i records dispatched
      simp only [dispatchLockedHit, bind, Except.bind, pure, Except.pure] at dispatched
      split at dispatched
      · cases dispatched
      · rename_i outcome answered
        rw [← Except.ok.inj dispatched] at fromHit
        obtain ⟨op, written, rfl⟩ := List.mem_map.mp fromHit
        obtain ⟨delivered, flag, rfl⟩ := known
        exact keeps own _ snapshot outcome (HandedTo.locked detected resolved) (has own) answered
          op written
    · cases fromHit

theorem dispatchHits_keeps {toolkit : Toolkit} {loaded : LoadedMapping} {block : BootstrapBlock}
    (owned : loaded.subgraph = subgraph)
    (keeps : loaded.subgraph = target → loaded.KeepsEntities toolkit P)
    (known : block.Delivered toolkit) :
    KeepsEntities (δ := δ) P target (fun _ => True) (dispatchHits loaded subgraph block) := by
  apply Maintains.bind loadEntitySnapshot_keeps
  intro snapshot has
  apply Maintains.bind (upsertEach_keeps _ (dispatchCommittedHits_have keeps
    (fun own => has (owned.symm.trans own)) known))
  intro _ _
  exact Maintains.pure trivial

theorem persistHits_keeps {indexer : Indexer δ} {mapping : Option LoadedMapping}
    {block : BootstrapBlock} (owned : ∀ loaded, mapping = some loaded → loaded.subgraph = subgraph)
    (keeps : ∀ loaded, mapping = some loaded → loaded.subgraph = target →
      loaded.KeepsEntities indexer.toolkit P)
    (known : block.Delivered indexer.toolkit) :
    KeepsEntities P target (fun _ => True) (persistHits indexer subgraph mapping block) := by
  apply Maintains.ite
  · intro _
    exact Maintains.pure trivial
  · intro _
    apply Maintains.bind (Maintains.forM fun hit _ => persistHit_keeps indexer mapping block hit)
    intro _ _
    cases mapping with
    | none => exact Maintains.pure trivial
    | some loaded => exact dispatchHits_keeps (owned loaded rfl) (keeps loaded rfl) known

/-! ## Spends -/

theorem consumedByTx_keeps (inputs : List IngestedTransactionInput) :
    KeepsEntities (δ := δ) P target (fun _ => True) (consumedByTx subgraph inputs) := by
  apply Maintains.foldlM
  · intro consumed input _ _
    apply Maintains.bind (perform_unwritten rfl)
    intro spent _
    cases spent with
    | none => exact Maintains.pure trivial
    | some spent => exact Maintains.pure trivial
  · trivial

/-- Only spends of KCC20 assets have an operation. -/
theorem spendOperation_keeps (spendingTx : String)
    (consumed : List (IngestedTransactionInput × CovenantUtxoRecord)) :
    KeepsEntities (δ := δ) P target
      (fun operation => operation.isSome → ∀ pair ∈ consumed, pair.2.detectorKind = "KCC20Asset")
      (spendOperation subgraph spendingTx consumed) := by
  apply Maintains.ite
  · intro assets
    apply Maintains.bind (perform_unwritten rfl)
    intro created _
    apply Maintains.pure
    intro _ pair member
    exact beq_iff_eq.mp (List.all_eq_true.mp assets pair member)
  · intro _
    apply Maintains.pure
    intro some
    cases some

theorem spendRecords_have {toolkit : Toolkit} {loaded : LoadedMapping} {block : BootstrapBlock}
    {operation successor : Option String} {spent : CovenantUtxoRecord} {snapshot : EntitySnapshot}
    (keeps : subgraph = target → loaded.KeepsEntities toolkit P)
    (has : subgraph = target → SnapshotHas P snapshot)
    (asset : operation.isSome → spent.detectorKind = "KCC20Asset") :
    ∀ record ∈ spendRecords loaded subgraph block operation spent successor snapshot,
      record.Has P target := by
  intro record emitted owned
  unfold spendRecords at emitted
  split at emitted
  · rename_i operation covenantId _
    split at emitted
    · cases emitted
    · rename_i handler resolved
      simp only at emitted
      split at emitted
      · rename_i records dispatched
        have stamped := (dispatchSpendHit_stamped dispatched emitted).1
        have own : subgraph = target := stamped.symm.trans owned
        simp only [dispatchSpendHit, bind, Except.bind, pure, Except.pure] at dispatched
        split at dispatched
        · cases dispatched
        · rename_i outcome answered
          rw [← Except.ok.inj dispatched] at emitted
          obtain ⟨op, written, rfl⟩ := List.mem_map.mp emitted
          rw [asset rfl] at resolved
          exact keeps own _ snapshot outcome (HandedTo.spent resolved) (has own) answered op written
      · cases emitted
  · cases emitted

theorem persistSpend_keeps {toolkit : Toolkit} {loaded : LoadedMapping} {block : BootstrapBlock}
    {spendingTx : String} {operation : Option String} {snapshot : EntitySnapshot}
    {consumed : IngestedTransactionInput × CovenantUtxoRecord}
    (keeps : subgraph = target → loaded.KeepsEntities toolkit P)
    (has : subgraph = target → SnapshotHas P snapshot)
    (asset : operation.isSome → consumed.2.detectorKind = "KCC20Asset") :
    KeepsEntities (δ := δ) P target (fun _ => True)
      (persistSpend loaded subgraph block spendingTx operation snapshot consumed) := by
  have continues : KeepsEntities (δ := δ) P target (fun _ => True)
      (successorCovenantId subgraph spendingTx consumed.2) := by
    unfold successorCovenantId
    split
    · exact Maintains.pure trivial
    · apply Maintains.bind (perform_unwritten rfl)
      intro _ _
      exact Maintains.pure trivial
  apply Maintains.bind continues
  intro successor _
  apply Maintains.bind (perform_unwritten rfl)
  intro _ _
  exact upsertEach_keeps _ (spendRecords_have keeps has asset)

theorem persistSpends_keeps {toolkit : Toolkit} {mapping : Option LoadedMapping}
    {block : BootstrapBlock}
    (keeps : ∀ loaded, mapping = some loaded → subgraph = target →
      loaded.KeepsEntities toolkit P) :
    KeepsEntities (δ := δ) P target (fun _ => True) (persistSpends subgraph mapping block) := by
  cases mapping with
  | none => exact Maintains.pure trivial
  | some loaded =>
      apply Maintains.ite
      · intro _
        exact Maintains.pure trivial
      · intro _
        apply Maintains.bind (consumedByTx_keeps block.inputs)
        intro consumed _
        apply Maintains.bind loadEntitySnapshot_keeps
        intro snapshot has
        apply Maintains.forM
        intro entry _
        apply Maintains.bind (spendOperation_keeps entry.1 entry.2)
        intro operation assets
        apply Maintains.forM
        intro pair member
        exact persistSpend_keeps (keeps loaded rfl) has fun some => assets some pair member

/-! ## Notifications -/

section Notifications

variable {indexer : Indexer δ} {mapping : Option LoadedMapping}
  (owned : ∀ loaded, mapping = some loaded → loaded.subgraph = subgraph)
  (keeps : ∀ loaded, mapping = some loaded → loaded.subgraph = target →
    loaded.KeepsEntities indexer.toolkit P)
include owned keeps

theorem persistCommittedWrite_keeps (priorPoi : δ) {committed : CommittedBlockWrite}
    (known : committed.block.Delivered indexer.toolkit) :
    KeepsEntities P target (fun _ => True)
      (persistCommittedWrite indexer subgraph mapping priorPoi committed) := by
  have rows : KeepsEntities P target (fun _ => True)
      (persistCommittedRows indexer subgraph mapping committed.block) := by
    apply Maintains.bind (perform_unwritten rfl)
    intro _ _
    apply Maintains.bind (perform_unwritten rfl)
    intro _ _
    apply Maintains.bind (persistHits_keeps owned keeps known)
    intro dispatched _
    apply Maintains.bind (persistSpends_keeps fun loaded mapped own =>
      keeps loaded mapped ((owned loaded mapped).trans own))
    intro _ _
    exact Maintains.pure trivial
  apply Maintains.bind rows
  intro dispatched _
  simp only
  split
  · exact Maintains.fail _
  · apply Maintains.bind (perform_unwritten rfl)
    intro _ _
    exact Maintains.pure trivial

omit owned keeps in
theorem unwindCommitted_keeps (priorPoi : δ) (unwinds : List BootstrapBlock) :
    KeepsEntities P target (fun _ => True)
      (unwindCommitted indexer subgraph mapping priorPoi unwinds) := by
  have derived : KeepsEntities (δ := δ) P target (fun _ => True)
      (unwindDerived subgraph mapping unwinds) := by
    unfold unwindDerived
    split
    · apply Maintains.bind (perform_unwritten rfl)
      intro _ _
      apply Maintains.bind (perform_unwritten rfl)
      intro _ _
      apply Maintains.bind (perform_unwritten rfl)
      intro _ _
      exact perform_unwritten rfl
    · exact Maintains.pure trivial
  apply Maintains.ite
  · intro _
    exact Maintains.pure trivial
  · intro _
    apply Maintains.bind (perform_unwritten rfl)
    intro _ _
    apply Maintains.bind derived
    intro _ _
    apply Maintains.bind (perform_unwritten rfl)
    intro _ _
    exact Maintains.pure trivial

theorem applyAndPersistNotification_keeps {ingestion : IngestionState δ}
    (held : ingestion.HoldsDelivered indexer.toolkit) (notification : ChainNotification) :
    KeepsEntities P target (fun answer => answer.2.HoldsDelivered indexer.toolkit)
      (applyAndPersistNotification indexer subgraph mapping ingestion notification) := by
  unfold applyAndPersistNotification
  split
  · exact Maintains.fail _
  · rename_i transition after applied
    obtain ⟨kept, writes⟩ := applyNotification_delivered held applied
    have persisted : KeepsEntities P target (fun _ => True)
        (persistTransition indexer subgraph mapping after.priorPoi transition) := by
      apply Maintains.bind (unwindCommitted_keeps _ _)
      intro anchor _
      apply Maintains.foldlM
      · intro prior committed member _
        exact persistCommittedWrite_keeps owned keeps prior (writes committed member)
      · trivial
    apply Maintains.bind persisted
    intro priorPoi _
    exact Maintains.pure ⟨kept.committed, kept.probabilistic⟩

end Notifications

/-- A runtime that holds delivered blocks, with a mapping that keeps the property when it is the
one of the subgraph. -/
structure SubgraphRuntime.KeepsEntities (toolkit : Toolkit) (P : EntityProperty)
    (target : SubgraphId) (runtime : SubgraphRuntime δ) : Prop where
  delivered : runtime.ingestion.HoldsDelivered toolkit
  mapped : ∀ loaded, runtime.mapping = some loaded → loaded.subgraph = target →
    loaded.KeepsEntities toolkit P

theorem SubgraphRuntime.notify_keeps {indexer : Indexer δ} {runtime : SubgraphRuntime δ}
    (keeps : runtime.KeepsEntities indexer.toolkit P target) (notification : ChainNotification) :
    KasGraph.KeepsEntities P target
      (fun answer => answer.2.KeepsEntities indexer.toolkit P target)
      (runtime.notify indexer notification) := by
  apply Maintains.bind
    (applyAndPersistNotification_keeps runtime.owned keeps.mapped keeps.delivered notification)
  intro answer held
  exact Maintains.pure ⟨held, keeps.mapped⟩

theorem fanOutNotification_keeps {indexer : Indexer δ} {runtimes : List (SubgraphRuntime δ)}
    (keeps : ∀ runtime ∈ runtimes, runtime.KeepsEntities indexer.toolkit P target)
    (notification : ChainNotification) :
    KasGraph.KeepsEntities P target
      (fun answer => ∀ runtime ∈ answer.2, runtime.KeepsEntities indexer.toolkit P target)
      (fanOutNotification indexer runtimes notification) := by
  apply Maintains.bind (Maintains.mapM fun runtime member =>
    SubgraphRuntime.notify_keeps (keeps runtime member) notification)
  intro answers all
  apply Maintains.pure
  intro runtime member
  obtain ⟨answer, listed, rfl⟩ := List.mem_map.mp member
  exact all answer listed

/-! ## Runs of the node -/

/-- Whatever is loaded for the subgraph keeps the property. -/
structure Loader.KeepsEntities {configured : SubgraphId} (toolkit : Toolkit) (P : EntityProperty)
    (target : SubgraphId) (loader : Loader configured) : Prop where
  deployed : ∀ deployment loaded, loader.deployed deployment = .ok loaded →
    loaded.1.subgraph = target → loaded.1.KeepsEntities toolkit P
  directory : ∀ loaded, loader.directory = .ok (some loaded) →
    loaded.1.subgraph = target → loaded.1.KeepsEntities toolkit P

/-- The event loads only mappings that keep the property of the subgraph. -/
def NodeEvent.KeepsEntities {configured : SubgraphId} (toolkit : Toolkit) (P : EntityProperty)
    (target : SubgraphId) : NodeEvent configured → Prop
  | .startup loader => loader.KeepsEntities toolkit P target
  | .reload loader => loader.KeepsEntities toolkit P target
  | .deploy _ _ => True
  | .remove _ => True
  | .notify _ => True

structure Node.KeepsEntities (toolkit : Toolkit) (P : EntityProperty) (target : SubgraphId)
    (node : Node δ) : Prop where
  stored : node.backend.store.EntitiesHave P target
  live : ∀ runtimes, node.live = some runtimes → ∀ runtime ∈ runtimes,
    runtime.KeepsEntities toolkit P target

section Building

variable {env : Environment δ} {loader : Loader env.configured} {backend : Backend δ}
  (keeps : loader.KeepsEntities env.toolkit P target)

theorem makeRuntime_delivered {mapping : MappingOf subgraph} {runtime : SubgraphRuntime δ}
    (made : makeRuntime env backend subgraph mapping = .ok runtime) :
    runtime.ingestion.HoldsDelivered env.toolkit ∧ runtime.mapping = mapping.map (·.1) := by
  unfold makeRuntime at made
  rw [NodeState.boot_runtime env.indexer subgraph _ _ env.finalityDepth backend [] []] at made
  rw [← Except.ok.inj made]
  exact ⟨withFinalityDepth_delivered _ _ _, rfl⟩

include keeps

theorem buildDeployment_keeps {deployment : SubgraphDeployment} {runtime : SubgraphRuntime δ}
    (built : buildDeployment env loader backend deployment = .ok runtime) :
    runtime.KeepsEntities env.toolkit P target := by
  unfold buildDeployment at built
  cases given : loadDeploymentMapping env loader deployment with
  | error cause =>
      rw [given] at built
      cases built
  | ok mapping =>
      rw [given] at built
      obtain ⟨delivered, maps⟩ := makeRuntime_delivered built
      refine ⟨delivered, ?_⟩
      intro loaded mapped own
      rw [maps] at mapped
      obtain ⟨held, same, rfl⟩ := Option.map_eq_some_iff.mp mapped
      cases loadDeploymentMapping_ok given with
      | inl bare =>
          rw [bare.2] at same
          cases same
      | inr wasm =>
          obtain ⟨-, compiled, answer, found⟩ := wasm
          rw [found] at same
          cases same
          exact keeps.deployed deployment held answer own

theorem buildDeployments_keep {deployments : List SubgraphDeployment}
    {runtimes : List (SubgraphRuntime δ)}
    (built : deployments.mapM (buildDeployment env loader backend) = .ok runtimes) :
    ∀ runtime ∈ runtimes, runtime.KeepsEntities env.toolkit P target := by
  intro runtime member
  obtain ⟨deployment, -, made⟩ := exists_of_forall₂ (buildDeployments_ok built) member
  exact buildDeployment_keeps keeps made

theorem buildSubgraphRuntimes_keep {registry : Registry} {runtimes : List (SubgraphRuntime δ)}
    (built : buildSubgraphRuntimes env loader backend registry = .ok runtimes) :
    ∀ runtime ∈ runtimes, runtime.KeepsEntities env.toolkit P target := by
  unfold buildSubgraphRuntimes at built
  cases listed : registry.listSubgraphDeployments with
  | error cause =>
      rw [listed] at built
      cases built
  | ok deployments =>
      cases deployments with
      | cons first rest =>
          rw [listed] at built
          exact buildDeployments_keep keeps built
      | nil =>
          rw [listed] at built
          cases directory : loader.directory with
          | error message =>
              simp only [Except.mapError, bind, Except.bind, directory, List.isEmpty_nil,
                if_true] at built
              cases built
          | ok mapping =>
              simp only [Except.mapError, bind, Except.bind, directory, List.isEmpty_nil,
                if_true] at built
              cases made : makeRuntime env backend env.configured mapping with
              | error cause =>
                  rw [made] at built
                  cases built
              | ok runtime =>
                  rw [made] at built
                  cases built
                  obtain ⟨delivered, maps⟩ := makeRuntime_delivered made
                  intro other member
                  rw [List.mem_singleton.mp member]
                  refine ⟨delivered, ?_⟩
                  intro loaded mapped own
                  rw [maps] at mapped
                  obtain ⟨held, same, rfl⟩ := Option.map_eq_some_iff.mp mapped
                  rw [same] at directory
                  exact keeps.directory held directory own

end Building

/-- One event keeps the property. -/
theorem Node.step_keeps {env : Environment δ} {node : Node δ}
    (keeps : node.KeepsEntities env.toolkit P target) {event : NodeEvent env.configured}
    (loads : event.KeepsEntities env.toolkit P target) :
    (node.step env event).KeepsEntities env.toolkit P target := by
  cases event with
  | deploy name row => exact ⟨keeps.stored, keeps.live⟩
  | remove name => exact ⟨keeps.stored, keeps.live⟩
  | startup loader =>
      change (node.startup env loader).KeepsEntities env.toolkit P target
      unfold Node.startup
      simp only
      split
      · rename_i runtimes built
        refine ⟨keeps.stored, ?_⟩
        intro others same
        cases same
        exact buildSubgraphRuntimes_keep loads built
      · refine ⟨keeps.stored, ?_⟩
        intro others same
        cases same
  | reload loader =>
      change (node.reload env loader).KeepsEntities env.toolkit P target
      unfold Node.reload
      split
      · exact keeps
      · rename_i runtimes live
        split
        · rename_i delta after reconciled
          refine ⟨keeps.stored, ?_⟩
          intro others same
          cases same
          intro runtime member
          rcases reconcileSubgraphRuntimes_cases loader node.backend node.registry runtimes with
            ⟨cause, failed, -⟩ | ⟨-, unchanged⟩ | built
          · rw [failed] at reconciled
            cases reconciled
          · rw [unchanged] at reconciled
            cases reconciled
            exact keeps.live _ live runtime member
          · obtain ⟨deployments, delta', kept, added, -, subset, made, answered⟩ := built
            rw [answered] at reconciled
            cases reconciled
            rcases List.mem_append.mp member with old | new
            · exact keeps.live _ live runtime (subset old)
            · exact buildDeployments_keep loads made runtime new
        · exact keeps
  | notify notification =>
      change (node.notify env notification).KeepsEntities env.toolkit P target
      unfold Node.notify
      split
      · exact keeps
      · rename_i runtimes live
        have each : ∀ runtime ∈ runtimes,
            runtime.KeepsEntities env.indexer.toolkit P target := keeps.live runtimes live
        obtain ⟨stored, answers⟩ := fanOutNotification_keeps each notification node.backend
          keeps.stored
        split
        · rename_i outcome after backend ran
          rw [ran] at stored answers
          refine ⟨stored, ?_⟩
          intro others same
          cases same
          exact answers _ rfl
        · rename_i after backend ran
          rw [ran] at stored
          refine ⟨stored, ?_⟩
          intro others same
          cases same
        · rename_i cause backend ran
          rw [ran] at stored
          refine ⟨stored, ?_⟩
          intro others same
          cases same

theorem Node.runEach_keeps {env : Environment δ} {node : Node δ}
    (keeps : node.KeepsEntities env.toolkit P target) {events : List (NodeEvent env.configured)}
    (loads : ∀ event ∈ events, event.KeepsEntities env.toolkit P target) :
    (node.runEach env events).KeepsEntities env.toolkit P target := by
  induction events generalizing node with
  | nil => exact keeps
  | cons event events ih =>
      obtain ⟨first, rest⟩ := List.forall_mem_cons.mp loads
      exact ih (node.step_keeps keeps first) rest

/-- A property that every mapping loaded for a subgraph establishes, for the events a node can
hand to it and from snapshots with the property, holds of all its entity versions in every run. -/
theorem Node.entities_keep_property (env : Environment δ) (P : EntityProperty)
    (target : SubgraphId) (registry : Registry) (backend : Backend δ)
    (stored : backend.store.EntitiesHave P target) (events : List (NodeEvent env.configured))
    (loads : ∀ event ∈ events, event.KeepsEntities env.toolkit P target) :
    ((stopped registry backend).runEach env events).backend.store.EntitiesHave P target := by
  have start : (stopped registry backend).KeepsEntities env.toolkit P target := by
    refine ⟨stored, ?_⟩
    intro runtimes live
    cases live
  exact (Node.runEach_keeps start loads).stored

/-- Every deployment records its locks. -/
def recordingLoader : Loader demoEnvironment.configured where
  deployed deployment := .ok ⟨{ recordingMapping with subgraph := deployment.subgraph }, rfl⟩
  directory := .ok none

/-- The entity of a lock, in a state without a covenant id. -/
def AnonymousLock : EntityProperty := fun entityType _ state =>
  entityType = "Lock" ∧ state.get? "covenantId" = none

theorem recordingMapping_keeps (subgraph : SubgraphId) :
    { recordingMapping with subgraph }.KeepsEntities demoEnvironment.toolkit AnonymousLock := by
  intro event snapshot outcome handed _ answered op written
  cases answered
  rw [List.mem_singleton.mp written]
  refine ⟨rfl, ?_⟩
  cases handed with
  | locked detected resolved =>
      have unnamed : ∀ entry ∈ demoEnvironment.toolkit.registry,
          "covenantId" ∉ entry.matcher.fields := by decide
      obtain ⟨anonymous, plain⟩ := blockFromRpc_plain demoEnvironment.toolkit detected unnamed
      simp only [lockedMappingEvent, lockedPayload, anonymous]
      exact plain
  | spent resolved =>
      have unbound : lockDescriptor.resolveHandler "KCC20Asset" eventCovenantSpent = none := by
        decide
      rw [show recordingMapping.descriptor = lockDescriptor from rfl, unbound] at resolved
      cases resolved

theorem recorded_locks_anonymous :
    ((Node.stopped ∅ ⟨.empty ∅, []⟩).runEach demoEnvironment
      [.deploy "demo" Node.wasmRow, .startup recordingLoader, .notify firstLock,
        .reload recordingLoader]).backend.store.EntitiesHave AnonymousLock demoSubgraph := by
  have loads : recordingLoader.KeepsEntities demoEnvironment.toolkit AnonymousLock
      demoSubgraph := by
    constructor
    · intro deployment loaded given _
      cases given
      exact recordingMapping_keeps _
    · intro loaded given
      cases given
  apply Node.entities_keep_property demoEnvironment AnonymousLock demoSubgraph ∅ ⟨.empty ∅, []⟩
    (Table.each_empty _)
  intro event member
  fin_cases member
  · trivial
  · exact loads
  · trivial
  · exact loads

end KasGraph
