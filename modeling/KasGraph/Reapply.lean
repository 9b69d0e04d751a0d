import KasGraph.BlockProgress
import KasGraph.LineageHead
import KasGraph.PublishedChain
import KasGraph.Restart

set_option autoImplicit false

/-! A block delivered again after a restart. The memory is empty, so the block is
committed and persisted a second time, over the digest of the latest checkpoint and
on the store as it is now. -/

namespace KasGraph

open EffectProgram

variable {δ : Type}

/-! ## In memory -/

/-- Where no block waits, a finalized block at a free score is committed alone. -/
theorem IngestionState.applyBlock_idle {state : IngestionState δ} {block : BootstrapBlock}
    (idle : state.probabilistic = ∅) (free : state.committed[block.daaScore]? = none)
    (finalized : block.isFinalized = true) :
    (state.applyBlock block).1 =
      { IngestionTransition.none with committedWrites := [⟨block⟩] } := by
  have applied := applyBlock_applied state block
  generalize (state.applyBlock block).1 = transition at applied ⊢
  generalize (state.applyBlock block).2 = after at applied
  cases applied with
  | ignored held present =>
      rw [free] at present
      cases present
  | buffered _ unfinalized uncut =>
      rw [finalized] at unfinalized
      cases unfinalized
  | promoted _ ready waiting swept =>
      have arrived : ∀ score : Int64, waiting[score]? =
          if block.daaScore = score then some block else none := by
        intro score
        rw [swept, get_sweepFinalized, arrive]
        have marked : ∀ cutoff, block.finalizeBy cutoff = block := by
          intro cutoff
          unfold BootstrapBlock.finalizeBy
          split
          · rw [← finalized]
          · rfl
        by_cases here : block.daaScore = score
        · rw [← here, OrderedMap.get_insert_self, if_pos rfl, Option.map_some, marked]
        · rw [OrderedMap.get_insert_of_ne _ _ here, if_neg here, OrderedMap.get_filter]
          simp [idle]
      have present : waiting[block.daaScore]? = some block := by
        rw [arrived, if_pos rfl]
      have promoted : promotable waiting block.daaScore block = true := by
        unfold promotable
        exact decide_eq_true (le_highestFinalizedDaa present finalized)
      have only : ∀ (score : Int64) (other : BootstrapBlock), waiting[score]? = some other →
          score = block.daaScore := by
        intro score other found
        rw [arrived] at found
        split at found
        · rename_i here
          exact here.symm
        · cases found
      have none : state.probabilistic.valuesWhere (conflicts block) = [] := by
        rw [idle]
        rfl
      rw [OrderedMap.valuesWhere_eq_singleton present promoted only, none]
      rfl

/-- A finalized block is the first thing a fresh memory commits. -/
theorem IngestionState.applyBlock_first (prior : δ) (finalityDepth : Option UInt64)
    {block : BootstrapBlock} (finalized : block.isFinalized = true) :
    ((withFinalityDepth prior finalityDepth).applyBlock block).1 =
      { IngestionTransition.none with committedWrites := [⟨block⟩] } :=
  applyBlock_idle rfl (by simp [withFinalityDepth]) finalized

/-! ## The lineage -/

section Lineage

variable {indexer : Indexer δ} {subgraph : SubgraphId} {block : BootstrapBlock}

/-- Recording steps keeps the rows there are. -/
theorem LineageTables.record_grows (floats : Json.FloatText) (daaScore : Int64)
    (steps : List LineageStep) {tables : LineageTables} {k : String × Int32}
    (stands : (tables.rows.find? k).isSome) :
    ((steps.foldl (LineageTables.record floats subgraph daaScore) tables).rows.find? k).isSome := by
  induction steps generalizing tables with
  | nil => exact stands
  | cons step steps ih =>
      apply ih
      unfold LineageTables.record
      split
      · exact stands
      · by_cases here : (tables.nextRow floats subgraph daaScore step).key = k
        · rw [← here, Table.find_upsert_self]
          rfl
        · rw [Table.find_upsert_of_ne _ _ here]
          exact stands

theorem forM_persistHit_stores (loaded : LoadedMapping) {hits : List DetectedPattern}
    {before after : Backend δ}
    (success : run exec (forM hits (persistHit indexer subgraph (some loaded) block)) before =
      (.ok ⟨⟩, after)) :
    after.store = before.store.withSteps indexer subgraph block
      (assignLineages indexer.toolkit.blake2b subgraph block before.store.covenantUtxos hits) := by
  have computed := Computes.forM _ (fun hit =>
    persistHit_computes indexer subgraph block loaded hit) before ⟨⟩ after success
  exact (Prod.mk.inj computed).2.trans (foldl_withSteps indexer subgraph block before.store hits)

/-- The last thing that persisting a hit does is to record its step. -/
theorem persistHit_lineage (loaded : LoadedMapping) {hit : DetectedPattern}
    {before after : Backend δ}
    (success : run exec (persistHit indexer subgraph (some loaded) block hit) before =
      (.ok (), after)) :
    ∃ tracked, tracked.store.lineage = before.store.lineage ∧
      run exec (persistLineage indexer.toolkit.floats subgraph hit
        (lineageOf indexer.toolkit.blake2b subgraph before.store.covenantUtxos hit block.inputs)
        block.daaScore) tracked = (.ok (), after) := by
  unfold persistHit at success
  obtain ⟨lineage, classified, ranClassify, success⟩ := (run_bind_ok_iff exec _ _ _ _ _).mp success
  obtain ⟨_, detected, ranDetected, success⟩ := (run_bind_ok_iff exec _ _ _ _ _).mp success
  obtain ⟨_, published, ranPublish, success⟩ := (run_bind_ok_iff exec _ _ _ _ _).mp success
  obtain ⟨_, tracked, ranTrack, success⟩ := (run_bind_ok_iff exec _ _ _ _ _).mp success
  obtain ⟨assigned, kept⟩ := Prod.mk.inj (classifyLineage_computes indexer.toolkit.blake2b subgraph
    hit block.inputs before lineage classified ranClassify)
  have storeDetected := perform_computes _ _ (fun _ => ()) (fun _ _ _ => rfl) _ _ _ ranDetected
  have storePublished := publishHitToStream_computes _ _ _ _ _ _ ranPublish
  have storeTracked := perform_computes _ _ (fun _ => ()) (fun _ _ _ => rfl) _ _ _ ranTrack
  refine ⟨tracked, ?_, by rw [← assigned]; exact success⟩
  rw [(Prod.mk.inj storeTracked).2]
  show published.store.lineage = before.store.lineage
  rw [(Prod.mk.inj storePublished).2, (Prod.mk.inj storeDetected).2]
  show classified.store.lineage = before.store.lineage
  rw [kept]

/-- A step that succeeds without being recorded takes a free place among the rows. -/
theorem persistLineage_takes {floats : Json.FloatText} {hit : DetectedPattern}
    {lineage : LineageClass} {daaScore : Int64} {before after : Backend δ}
    (fresh : before.store.lineage.recorded lineage.covenantId hit.txHash
      hit.outputIndex.toInt32 = false)
    (success : run exec (persistLineage floats subgraph hit lineage daaScore) before =
      (.ok (), after)) :
    ∃ k, before.store.kasgraphCovenantLineageRow.find? k = none ∧
      (after.store.kasgraphCovenantLineageRow.find? k).isSome := by
  obtain ⟨-, stored⟩ := Prod.mk.inj (persistLineage_computes floats subgraph hit lineage daaScore
    before () after success)
  rw [run_persistLineage _ _ _ _ _ fresh] at success
  obtain ⟨_, headed, upserted, inserted⟩ := (run_bind_ok_iff exec _ _ _ _ _).mp success
  obtain ⟨answered, -⟩ := (run_request_ok_iff _ _ _ _ _).mp inserted
  obtain ⟨-, left⟩ := (run_request_ok_iff _ _ _ _ _).mp upserted
  have kept : headed.store.kasgraphCovenantLineageRow =
      before.store.kasgraphCovenantLineageRow := by
    rw [left]
    simp only [NodeOp.onStore, Store.upsertCovenantLineageHead]
    split
    · rfl
    · rfl
  have free := NodeOp.insertLineage_free rfl answered
  rw [kept] at free
  refine ⟨_, free, ?_⟩
  have taken : after.store.kasgraphCovenantLineageRow =
      before.store.kasgraphCovenantLineageRow.upsert
        (before.store.lineage.nextRow floats subgraph daaScore (hit, lineage)) := by
    rw [stored]
    simp only [LineageTables.record, fresh]
    rfl
  rw [taken, Table.find_upsert_self]
  rfl

/-- When persisting hits adds no row to the lineage, every one of them was a recorded step. -/
theorem recorded_of_unchanged (loaded : LoadedMapping) {hits : List DetectedPattern}
    {before after : Backend δ}
    (success : run exec (forM hits (persistHit indexer subgraph (some loaded) block)) before =
      (.ok ⟨⟩, after))
    (same : after.store.kasgraphCovenantLineageRow = before.store.kasgraphCovenantLineageRow) :
    ∀ step ∈ assignLineages indexer.toolkit.blake2b subgraph block before.store.covenantUtxos hits,
      before.store.lineage.recorded step.2.covenantId step.1.txHash
        step.1.outputIndex.toInt32 = true := by
  induction hits generalizing before with
  | nil => exact nofun
  | cons hit hits ih =>
      rw [List.forM_cons] at success
      obtain ⟨_, middle, first, rest⟩ := (run_bind_ok_iff exec _ _ _ _ _).mp success
      have stored := forM_persistHit_stores loaded rest
      have stepped := (Prod.mk.inj (persistHit_computes indexer subgraph block loaded hit before _
        middle first)).2
      obtain ⟨tracked, kept, ran⟩ := persistHit_lineage loaded first
      have grows : ∀ k, (middle.store.kasgraphCovenantLineageRow.find? k).isSome →
          (after.store.kasgraphCovenantLineageRow.find? k).isSome := by
        intro k stands
        rw [stored]
        exact LineageTables.record_grows _ _ _ stands
      have rowsKept : tracked.store.kasgraphCovenantLineageRow =
          before.store.kasgraphCovenantLineageRow := congrArg LineageTables.rows kept
      -- A row that this hit added would still stand after the others.
      have here : before.store.lineage.recorded
          (lineageOf indexer.toolkit.blake2b subgraph before.store.covenantUtxos hit
            block.inputs).covenantId hit.txHash hit.outputIndex.toInt32 = true := by
        by_contra missed
        rw [Bool.not_eq_true, ← kept] at missed
        obtain ⟨k, free, taken⟩ := persistLineage_takes missed ran
        have stands := grows k taken
        rw [same, ← rowsKept, free] at stands
        cases stands
      have unmoved : middle.store.lineage = before.store.lineage := by
        rw [stepped]
        exact LineageTables.record_of_recorded _ _ _ here
      intro step member
      rcases List.mem_cons.mp member with rfl | later
      · exact here
      · have rows : middle.store.kasgraphCovenantLineageRow =
            before.store.kasgraphCovenantLineageRow := congrArg LineageTables.rows unmoved
        rw [← unmoved]
        apply ih rest (same.trans rows.symm)
        rw [stepped]
        exact later

end Lineage

/-! ## The block processed again -/

namespace Store

/-- The tables are the same. -/
structure SameTables (store other : Store δ) : Prop where
  checkpoints : store.kasgraphPoi = other.kasgraphPoi
  committed : store.kasgraphCommittedBlock = other.kasgraphCommittedBlock
  detected : store.kasgraphDetectedPattern = other.kasgraphDetectedPattern
  entities : store.entityVersions = other.entityVersions
  utxos : store.covenantUtxos = other.covenantUtxos
  spends : store.covenantSpends = other.covenantSpends
  lineage : store.lineage = other.lineage

section Settled

variable (indexer : Indexer δ) (subgraph : SubgraphId) (mapping : Option LoadedMapping)
  (block : BootstrapBlock)

/-- The checkpoint of a block over the latest one of a store. -/
def checkpointOver (store : Store δ) : PoiCheckpoint δ where
  subgraph
  blockDaaScore := block.daaScore
  poiHash := indexer.hasher.keyed (anchorOf indexer subgraph store)
    (committedPoiInput indexer block (store.dispatchedRecords subgraph mapping block)
      mapping.isSome)

/-- The block's checkpoint is the hash of its input over the latest checkpoint, its hits are
recorded lineage steps, and what its hits, its spends and their handlers say of the store is
stored already. -/
structure Settled (store : Store δ) : Prop where
  committed : store.kasgraphCommittedBlock.find? (committedRecordOf subgraph block).key =
    some (committedRecordOf subgraph block)
  checkpoint : store.kasgraphPoi.find?
      (store.checkpointOver indexer subgraph mapping block).key =
    some (store.checkpointOver indexer subgraph mapping block)
  recorded : Recorded indexer subgraph mapping block store
  detected : store.kasgraphDetectedPattern.Holds (store.detectedRows indexer subgraph mapping block)
  utxos : store.covenantUtxos.Holds (store.utxoRows indexer subgraph mapping block)
  entities : store.entityVersions.Holds (store.entityRows indexer subgraph mapping block)
  spends : store.covenantSpends.Holds (store.spendRows indexer subgraph mapping block)

variable {indexer subgraph mapping block}

/-- Recorded steps leave the lineage alone. -/
theorem lineageAfter_of_recorded {store : Store δ}
    (recorded : Recorded indexer subgraph mapping block store) :
    store.lineageAfter indexer subgraph mapping block = store.lineage := by
  cases mapping with
  | none => rfl
  | some loaded =>
      have each := recorded rfl
      show (store.lineageSteps indexer subgraph block).foldl _ store.lineage = store.lineage
      generalize store.lineageSteps indexer subgraph block = steps at each
      induction steps with
      | nil => rfl
      | cons step steps ih =>
          rw [List.foldl_cons, LineageTables.record_of_recorded _ _ _
            (each step (List.mem_cons_self ..))]
          exact ih fun other member => each other (List.mem_cons_of_mem _ member)

/-- The block changes no table exactly when the store is settled, its hits being recorded
steps where the lineage stays. -/
theorem sameTables_iff_settled {store : Store δ}
    (steps : store.lineageAfter indexer subgraph mapping block = store.lineage →
      Recorded indexer subgraph mapping block store) :
    store.SameTables ((store.withBlock indexer subgraph mapping block).insertPoiCheckpoint
        (store.checkpointOver indexer subgraph mapping block)) ↔
      store.Settled indexer subgraph mapping block := by
  obtain ⟨poi, committed, detected, entities, utxos, spends, lineage⟩ :=
    store.withBlock_tables indexer subgraph mapping block
  have checkpoints : ((store.withBlock indexer subgraph mapping block).insertPoiCheckpoint
      (store.checkpointOver indexer subgraph mapping block)).kasgraphPoi =
        store.kasgraphPoi.upsert (store.checkpointOver indexer subgraph mapping block) :=
    congrArg (Table.upsert · _) poi
  constructor
  · intro same
    exact {
      committed := (Table.upsert_eq_self_iff _ _).mp (committed.symm.trans same.committed.symm)
      checkpoint := (Table.upsert_eq_self_iff _ _).mp (checkpoints.symm.trans same.checkpoints.symm)
      recorded := steps (lineage.symm.trans same.lineage.symm)
      detected := (Table.replay_eq_self_iff _ _).mp (detected.symm.trans same.detected.symm)
      utxos := (Table.replay_eq_self_iff _ _).mp (utxos.symm.trans same.utxos.symm)
      entities := (Table.replay_eq_self_iff _ _).mp (entities.symm.trans same.entities.symm)
      spends := (Table.replay_eq_self_iff _ _).mp (spends.symm.trans same.spends.symm) }
  · intro settled
    exact {
      checkpoints :=
        (checkpoints.trans ((Table.upsert_eq_self_iff _ _).mpr settled.checkpoint)).symm
      committed := (committed.trans ((Table.upsert_eq_self_iff _ _).mpr settled.committed)).symm
      detected := (detected.trans ((Table.replay_eq_self_iff _ _).mpr settled.detected)).symm
      entities := (entities.trans ((Table.replay_eq_self_iff _ _).mpr settled.entities)).symm
      utxos := (utxos.trans ((Table.replay_eq_self_iff _ _).mpr settled.utxos)).symm
      spends := (spends.trans ((Table.replay_eq_self_iff _ _).mpr settled.spends)).symm
      lineage := (lineage.trans (lineageAfter_of_recorded settled.recorded)).symm }

end Settled

end Store

/-! ## A run that processes the block again -/

theorem committedPoiInput_ne_nil (indexer : Indexer δ) (delivered : IngestedBlock)
    (dispatched : List EntityVersionRecord) (mappingLoaded : Bool) :
    committedPoiInput indexer (blockFromRpc indexer.toolkit delivered) dispatched mappingLoaded ≠
      [] := by
  unfold committedPoiInput
  split
  · exact canonicalBlockBytes_ne_nil _ _
  · exact canonicalBytesForBlock_ne_nil _ _ _

namespace NodeState

variable {indexer : Indexer δ} {state : NodeState δ} {delivered : IngestedBlock}

theorem persistTransition_single (subgraph : SubgraphId) (mapping : Option LoadedMapping)
    (prior : δ) (write : CommittedBlockWrite) (backend : Backend δ) :
    run exec (persistTransition indexer subgraph mapping prior
      { IngestionTransition.none with committedWrites := [write] }) backend =
      run exec (persistCommittedWrite indexer subgraph mapping prior write) backend := by
  show run exec (unwindCommitted indexer subgraph mapping prior [] >>= fun anchor =>
    [write].foldlM (persistCommittedWrite indexer subgraph mapping) anchor) backend = _
  rw [run_bind_of_ok exec unwindCommitted_nil, List.foldlM_cons, run_bind]
  rcases run exec (persistCommittedWrite indexer subgraph mapping prior write) backend with
    ⟨cause | digest, after⟩
  · rfl
  · rfl

/-- A restarted indexer that is delivered a finalized block first persists that block over the
latest checkpoint. -/
theorem restart_notify_iff (finalized : delivered.isFinalized = true) (holds : Store δ → Prop) :
    (∃ after, (state.restart indexer).notify indexer (.blockAdded delivered) = some after ∧
        holds after.store) ↔
      ∃ digest final, run exec (persistCommittedWrite indexer state.subgraph state.mapping
        (anchorOf indexer state.subgraph state.store) ⟨blockFromRpc indexer.toolkit delivered⟩)
          state.backend = (.ok digest, final) ∧ holds final.store := by
  have first := @IngestionState.applyBlock_first _ (anchorOf indexer state.subgraph state.store)
    state.ingestion.finalityDepth (blockFromRpc indexer.toolkit delivered) finalized
  have applied : (state.restart indexer).ingestion.applyNotification indexer.toolkit
      (.blockAdded delivered) = .ok ({ IngestionTransition.none with
        committedWrites := [⟨blockFromRpc indexer.toolkit delivered⟩] },
        ((state.restart indexer).ingestion.applyBlock
          (blockFromRpc indexer.toolkit delivered)).2) := by
    rw [← first]
    rfl
  have anchored : ((state.restart indexer).ingestion.applyBlock
      (blockFromRpc indexer.toolkit delivered)).2.priorPoi =
        anchorOf indexer state.subgraph state.store :=
    (IngestionState.applyBlock_settings _ _).1
  have ran := @run_notify _ indexer (state.restart indexer) (.blockAdded delivered)
  rw [applied] at ran
  simp only [persistTransition_single, anchored] at ran
  unfold NodeState.notify
  rw [ran]
  show _ ↔ ∃ digest final, run exec (persistCommittedWrite indexer (state.restart indexer).subgraph
    (state.restart indexer).mapping (anchorOf indexer state.subgraph state.store)
      ⟨blockFromRpc indexer.toolkit delivered⟩) (state.restart indexer).backend =
        (.ok digest, final) ∧ holds final.store
  rcases run exec (persistCommittedWrite indexer (state.restart indexer).subgraph
    (state.restart indexer).mapping (anchorOf indexer state.subgraph state.store)
      ⟨blockFromRpc indexer.toolkit delivered⟩) (state.restart indexer).backend with
    ⟨cause | digest, final⟩
  · simp
  · simp

theorem notify_backend {after : NodeState δ} {notification : ChainNotification}
    (success : state.notify indexer notification = some after) :
    after.backend = (run exec (state.runtime.notify indexer notification) state.backend).2 := by
  unfold NodeState.notify at success
  split at success
  · rename_i ran
    rw [ran, ← Option.some.inj success]
  · cases success

end NodeState

/-- A run starts on a migrated schema and keeps it. -/
theorem Steps.migrated {indexer : Indexer δ} {subgraph : SubgraphId}
    {mapping : Option LoadedMapping}
    {owned : ∀ loaded, mapping = some loaded → loaded.subgraph = subgraph}
    {finalityDepth : Option UInt64} {relations : Finset (String × String)}
    {admits : NodeState δ → ChainNotification → Prop} {state : NodeState δ}
    (run : Steps indexer admits
      (.fresh indexer subgraph mapping owned finalityDepth relations) state) :
    state.store.Migrated state.subgraph := by
  induction run with
  | refl =>
      constructor <;> simp [NodeState.fresh, NodeState.boot, Store.ensureSubgraphSchema]
  | notify notification earlier admitted success ih =>
      obtain ⟨memory, anchor, anchored, notified⟩ := NodeState.notify_notified success
      rename_i state after
      have kept := Succeeds.run_stable (ready_stable state.subgraph)
        (state.runtime.notify indexer notification) (show Ready _ state.backend from ih)
      rw [notified.sameSubgraph.1]
      show Ready _ after.backend
      rw [NodeState.notify_backend success]
      exact kept
  | restart earlier ih => exact ih

section Reapplying

variable {indexer : Indexer δ} {subgraph : SubgraphId} {mapping : Option LoadedMapping}
  {block : BootstrapBlock}

theorem persistCommittedWrite_of_rows {prior : δ} {before middle : Backend δ}
    {dispatched : List EntityVersionRecord}
    (rows : run exec (persistCommittedRows indexer subgraph mapping block) before =
      (.ok dispatched, middle))
    (bytes : committedPoiInput indexer block dispatched mapping.isSome ≠ []) :
    ∃ digest, run exec (persistCommittedWrite indexer subgraph mapping prior ⟨block⟩) before =
      (.ok digest, middle.checkpoint
        ((entryOf indexer subgraph mapping before block dispatched).checkpoint
          indexer subgraph mapping prior)) := by
  have computed := (computePoi_eq_ok_iff indexer.hasher prior _ _).mpr ⟨bytes, rfl⟩
  unfold persistCommittedWrite
  rw [run_bind_of_ok exec rows]
  simp only [computed]
  refine ⟨(entryOf indexer subgraph mapping before block dispatched).digest indexer mapping prior,
    ?_⟩
  rw [run_bind, run_request]
  simp only [NodeOp.onStore, NodeOp.event, List.append_nil]
  rfl

/-- What persisting a block over the latest checkpoint leaves. -/
theorem persistCommittedWrite_stores {before final : Backend δ} {digest : δ}
    (success : run exec (persistCommittedWrite indexer subgraph mapping
      (anchorOf indexer subgraph before.store) ⟨block⟩) before = (.ok digest, final)) :
    (∃ dispatched middle, run exec (persistCommittedRows indexer subgraph mapping block) before =
      (.ok dispatched, middle)) ∧
      final.store = (before.store.withBlock indexer subgraph mapping block).insertPoiCheckpoint
        (before.store.checkpointOver indexer subgraph mapping block) := by
  obtain ⟨dispatched, middle, rows, -, -, left⟩ :=
    persistCommittedWrite_ok indexer subgraph mapping success
  obtain ⟨answered, stored⟩ := Prod.mk.inj (persistCommittedRows_computes indexer subgraph block
    mapping before dispatched middle rows)
  refine ⟨⟨dispatched, middle, rows⟩, ?_⟩
  rw [left]
  show middle.store.insertPoiCheckpoint _ = _
  rw [stored, answered]
  rfl

/-- A block that was persisted without a new lineage step consists of recorded steps. -/
theorem recorded_of_rows {before middle : Backend δ} {dispatched : List EntityVersionRecord}
    (rows : run exec (persistCommittedRows indexer subgraph mapping block) before =
      (.ok dispatched, middle))
    (same : before.store.lineageAfter indexer subgraph mapping block = before.store.lineage) :
    Recorded indexer subgraph mapping block before.store := by
  cases mapping with
  | none => exact nofun
  | some loaded =>
      intro _
      unfold persistCommittedRows persistHits at rows
      obtain ⟨_, audited, audits, rows⟩ := (run_bind_ok_iff exec _ _ _ _ _).mp rows
      obtain ⟨_, recorded, records, rows⟩ := (run_bind_ok_iff exec _ _ _ _ _).mp rows
      obtain ⟨_, hit, hits, -⟩ := (run_bind_ok_iff exec _ _ _ _ _).mp rows
      have auditedStore := ((run_request_ok_iff _ _ _ _ _).mp audits).2
      have recordedStore := ((run_request_ok_iff _ _ _ _ _).mp records).2
      have utxos : recorded.store.covenantUtxos = before.store.covenantUtxos := by
        rw [recordedStore, auditedStore]
        rfl
      have lineage : recorded.store.lineage = before.store.lineage := by
        rw [recordedStore, auditedStore]
        rfl
      split at hits
      · rename_i quiet
        unfold Store.lineageSteps
        rw [List.isEmpty_iff.mp quiet]
        exact nofun
      · obtain ⟨_, persisted, each, -⟩ := (run_bind_ok_iff exec _ _ _ _ _).mp hits
        have stored := forM_persistHit_stores loaded each
        rw [utxos] at stored
        have folded : persisted.store.lineage =
            (before.store.lineageSteps indexer subgraph block).foldl
              (LineageTables.record indexer.toolkit.floats subgraph block.daaScore)
              recorded.store.lineage := by
          rw [stored]
          rfl
        have unmoved : persisted.store.lineage = recorded.store.lineage := by
          rw [folded, lineage]
          exact same
        have steps := recorded_of_unchanged loaded each (congrArg LineageTables.rows unmoved)
        rw [utxos, lineage] at steps
        exact steps

end Reapplying

/-- On a stack of blocks the store is settled for one of them only where its input hashes over
the whole chain to what the block's own hashed to over the chain below it. -/
theorem NodeState.Stacked.settled_rehashes {indexer : Indexer δ} {state : NodeState δ}
    (stacked : state.Stacked indexer) {lower upper : List (LedgerEntry δ)} {entry : LedgerEntry δ}
    (split : state.ledger = lower ++ entry :: upper) {block : BootstrapBlock}
    (again : block.daaScore = entry.block.daaScore)
    (settled : state.store.Settled indexer state.subgraph state.mapping block) :
    indexer.hasher.keyed (digestFrom indexer state.mapping indexer.hasher.seed state.ledger)
        (committedPoiInput indexer block
          (state.store.dispatchedRecords state.subgraph state.mapping block)
          state.mapping.isSome) =
      indexer.hasher.keyed (digestFrom indexer state.mapping indexer.hasher.seed lower)
        (entry.poiInput indexer state.mapping) := by
  have own : entry.checkpoint indexer state.subgraph state.mapping
      (digestFrom indexer state.mapping indexer.hasher.seed lower) ∈
        checkpointsFrom indexer state.subgraph state.mapping indexer.hasher.seed state.ledger := by
    rw [split, checkpointsFrom_append]
    exact List.mem_append_right _ (List.mem_cons_self ..)
  have stands := (stacked.checkpoints _ rfl).mpr own
  have key : (state.store.checkpointOver indexer state.subgraph state.mapping block).key =
      (entry.checkpoint indexer state.subgraph state.mapping
        (digestFrom indexer state.mapping indexer.hasher.seed lower)).key :=
    Prod.ext rfl again
  have checkpoint := settled.checkpoint
  rw [key, stands, Option.some.injEq] at checkpoint
  have hashes := congrArg PoiCheckpoint.poiHash checkpoint
  have anchor : anchorOf indexer state.subgraph state.store =
      digestFrom indexer state.mapping indexer.hasher.seed state.ledger :=
    stacked.anchored.symm.trans stacked.digest
  rw [← anchor]
  exact hashes.symm

end KasGraph
