import KasGraph.Unwind

set_option autoImplicit false

/-! What persisting a block does, as a function of the store before it: the lineage
of every hit, the records its hits and its spends dispatch, and the store left. -/

namespace KasGraph

open EffectProgram

variable {δ : Type}

/-! ## Lineage -/

/-- The two tables of the lineage. -/
@[ext] structure LineageTables where
  heads : Table CovenantLineageHead.key
  rows : Table CovenantLineageRow.key

def Store.lineage (store : Store δ) : LineageTables where
  heads := store.kasgraphCovenantLineageHead
  rows := store.kasgraphCovenantLineageRow

def Store.withLineage (store : Store δ) (tables : LineageTables) : Store δ :=
  { store with
    kasgraphCovenantLineageHead := tables.heads
    kasgraphCovenantLineageRow := tables.rows }

/-- The lineage a hit inherits through an input of its transaction. -/
def inheritedLineage (subgraph : SubgraphId) (utxos : Table CovenantUtxoRecord.key)
    (hit : DetectedPattern) (input : IngestedTransactionInput) : Option LineageClass :=
  if input.spendingTxHash != hit.txHash then
    none
  else
    ((utxos.find? (subgraph.schemaName, input.previousTxHash,
      input.previousOutputIndex.toInt32)).bind (·.covenantId)).map fun id =>
        .transition id (outpointText input.previousTxHash input.previousOutputIndex)

/-- The lineage of a hit, by the outputs that are tracked. -/
def lineageOf (blake2b : List UInt8 → List UInt8) (subgraph : SubgraphId)
    (utxos : Table CovenantUtxoRecord.key) (hit : DetectedPattern)
    (inputs : List IngestedTransactionInput) : LineageClass :=
  (inputs.findSome? (inheritedLineage subgraph utxos hit)).getD
    (.genesis (genesisCovenantId blake2b hit.txHash hit.outputIndex))

/-- A hit with the lineage it was assigned. -/
abbrev LineageStep := DetectedPattern × LineageClass

namespace LineageStep

def detected (subgraph : SubgraphId) (block : BootstrapBlock) (step : LineageStep) :
    DetectedPatternRecord :=
  detectedPatternOf subgraph block step.1 (some step.2.covenantId)

def utxo (subgraph : SubgraphId) (block : BootstrapBlock) (step : LineageStep) :
    CovenantUtxoRecord :=
  covenantUtxoOf subgraph block step.1 (some step.2.covenantId)

end LineageStep

/-- The lineages of hits, each looked up when the outputs of those before it are
tracked. -/
def assignLineages (blake2b : List UInt8 → List UInt8) (subgraph : SubgraphId)
    (block : BootstrapBlock) (utxos : Table CovenantUtxoRecord.key) :
    List DetectedPattern → List LineageStep
  | [] => []
  | hit :: hits =>
      let lineage := lineageOf blake2b subgraph utxos hit block.inputs
      (hit, lineage) :: assignLineages blake2b subgraph block
        (utxos.upsert (covenantUtxoOf subgraph block hit (some lineage.covenantId))) hits

namespace LineageTables

/-- Whether an output is a recorded step of a covenant. -/
def recorded (tables : LineageTables) (covenantId txHash : String) (outputIndex : Int32) : Bool :=
  tables.rows.any fun row =>
    row.covenantId == covenantId && row.txHash == txHash && row.outputIndex == outputIndex

/-- The head of a covenant after a step. -/
def nextHead (tables : LineageTables) (subgraph : SubgraphId) (daaScore : Int64)
    (step : LineageStep) : CovenantLineageHead :=
  let advanced := (nextLineageStep
    ((tables.heads.find? step.2.covenantId).map (·.lineageCount))).2
  match tables.heads.find? step.2.covenantId with
  | some existing =>
      { existing with
        currentUtxo := outpointText step.1.txHash step.1.outputIndex
        lastSeenDaa := daaScore
        lineageCount := advanced }
  | none =>
      { covenantId := step.2.covenantId
        subgraph
        genesisTx := step.1.txHash
        currentUtxo := outpointText step.1.txHash step.1.outputIndex
        lastSeenDaa := daaScore
        lineageCount := advanced }

/-- The row of a step. -/
def nextRow (tables : LineageTables) (floats : Json.FloatText) (subgraph : SubgraphId)
    (daaScore : Int64) (step : LineageStep) : CovenantLineageRow where
  covenantId := step.2.covenantId
  subgraph
  seq := (nextLineageStep ((tables.heads.find? step.2.covenantId).map (·.lineageCount))).1
  txHash := step.1.txHash
  outputIndex := step.1.outputIndex.toInt32
  parentUtxo := step.2.parentUtxo
  stateBytes := Json.toVec floats step.1.payload
  daaScore

/-- Record one step, unless its output is recorded. -/
def record (floats : Json.FloatText) (subgraph : SubgraphId) (daaScore : Int64)
    (tables : LineageTables) (step : LineageStep) : LineageTables :=
  if tables.recorded step.2.covenantId step.1.txHash step.1.outputIndex.toInt32 then
    tables
  else
    { heads := tables.heads.upsert (tables.nextHead subgraph daaScore step)
      rows := tables.rows.upsert (tables.nextRow floats subgraph daaScore step) }

theorem record_of_recorded {tables : LineageTables} {step : LineageStep} (floats : Json.FloatText)
    (subgraph : SubgraphId) (daaScore : Int64)
    (recorded : tables.recorded step.2.covenantId step.1.txHash step.1.outputIndex.toInt32 = true) :
    tables.record floats subgraph daaScore step = tables := by
  unfold record
  rw [if_pos recorded]

end LineageTables

/-! ## Spends -/

/-- The inputs that consume tracked outputs, by spending transaction. -/
def consumedIn (subgraph : SubgraphId) (utxos : Table CovenantUtxoRecord.key)
    (inputs : List IngestedTransactionInput) : ConsumedByTx :=
  inputs.foldl (fun consumed input =>
    match utxos.find? (subgraph.schemaName, input.previousTxHash,
        input.previousOutputIndex.toInt32) with
    | some spent => consumed.push input spent
    | none => consumed) ∅

def operationOf (subgraph : SubgraphId) (utxos : Table CovenantUtxoRecord.key)
    (spendingTx : String) (consumed : List (IngestedTransactionInput × CovenantUtxoRecord)) :
    Option String :=
  if consumed.all fun (_, spent) => spent.detectorKind == "KCC20Asset" then
    let created := utxos.select fun row => row.subgraph = subgraph && row.txHash == spendingTx
    (kcc20SpendOperation (consumed.map (·.2.lockedState))
      ((created.filter (·.detectorKind == "KCC20Asset")).map
        (·.lockedState))).toOption.map (·.asStr)
  else
    none

def successorOf (subgraph : SubgraphId) (utxos : Table CovenantUtxoRecord.key)
    (spendingTx : String) (spent : CovenantUtxoRecord) : Option String :=
  match spent.covenantId with
  | none => none
  | some id =>
      if utxos.any fun row =>
          row.subgraph = subgraph && row.txHash == spendingTx && row.covenantId == some id then
        some id
      else
        none

/-- One spend of a tracked output. -/
structure DetectedSpend where
  input : IngestedTransactionInput
  spent : CovenantUtxoRecord
  operation : Option String
  successorCovenantId : Option String

/-- The spends of one transaction. -/
def spendsOfTx (subgraph : SubgraphId) (utxos : Table CovenantUtxoRecord.key)
    (entry : String × List (IngestedTransactionInput × CovenantUtxoRecord)) :
    List DetectedSpend :=
  entry.2.map fun (input, spent) =>
    { input, spent, operation := operationOf subgraph utxos entry.1 entry.2
      successorCovenantId := successorOf subgraph utxos entry.1 spent }

/-- The spends of tracked outputs, in the order they are recorded. -/
def spendsIn (subgraph : SubgraphId) (utxos : Table CovenantUtxoRecord.key)
    (inputs : List IngestedTransactionInput) : List DetectedSpend :=
  (consumedIn subgraph utxos inputs).toList.flatMap (spendsOfTx subgraph utxos)

namespace DetectedSpend

def row (subgraph : SubgraphId) (block : BootstrapBlock) (spend : DetectedSpend) :
    CovenantSpendRecord :=
  covenantSpendOf subgraph block spend.input spend.spent spend.successorCovenantId

def records (mapping : LoadedMapping) (subgraph : SubgraphId) (block : BootstrapBlock)
    (snapshot : EntitySnapshot) (spend : DetectedSpend) : List EntityVersionRecord :=
  spendRecords mapping subgraph block spend.operation spend.spent spend.successorCovenantId snapshot

end DetectedSpend

/-! ## The store after a block -/

/-- The latest version of every entity, as a handler reads it. -/
def Store.entitySnapshot (store : Store δ) (subgraph : SubgraphId) : EntitySnapshot :=
  OrderedMap.insertEach ∅
    ((store.snapshotRows subgraph).map fun r => ((r.entityType, r.entityId), r.payload))

section Effect

variable (indexer : Indexer δ) (subgraph : SubgraphId)

/-- The lineages the hits of a block are assigned over a store. -/
def Store.lineageSteps (store : Store δ) (block : BootstrapBlock) : List LineageStep :=
  assignLineages indexer.toolkit.blake2b subgraph block store.covenantUtxos block.detectorHits

/-- The store after hits were assigned their lineages. -/
def Store.withSteps (store : Store δ) (block : BootstrapBlock) (steps : List LineageStep) :
    Store δ :=
  { store with
    kasgraphDetectedPattern := store.kasgraphDetectedPattern.replay
      (steps.map (LineageStep.detected subgraph block))
    covenantUtxos := store.covenantUtxos.replay
      (steps.map (LineageStep.utxo subgraph block)) }.withLineage
    (steps.foldl (LineageTables.record indexer.toolkit.floats subgraph block.daaScore)
      store.lineage)

/-- The store after the hits of a block, before they are dispatched. -/
def Store.withHits (store : Store δ) (mapping : Option LoadedMapping) (block : BootstrapBlock) :
    Store δ :=
  match mapping with
  | none =>
      { store with
        kasgraphDetectedPattern := store.kasgraphDetectedPattern.replay
          (block.detectorHits.map fun hit => detectedPatternOf subgraph block hit hit.covenantId) }
  | some _ => store.withSteps indexer subgraph block (store.lineageSteps indexer subgraph block)

/-- The records the hits of a block dispatch over a store. -/
def Store.lockedRecords (store : Store δ) (loaded : LoadedMapping) (block : BootstrapBlock) :
    List EntityVersionRecord :=
  loaded.dispatchCommittedHits block.daaScore.toUInt64 block.hash block.detectorHits
    (store.entitySnapshot subgraph)

def Store.withEntities (store : Store δ) (records : List EntityVersionRecord) : Store δ :=
  { store with entityVersions := store.entityVersions.replay records }

/-- The spends of a block over a store. -/
def Store.spends (store : Store δ) (block : BootstrapBlock) : List DetectedSpend :=
  spendsIn subgraph store.covenantUtxos block.inputs

/-- The records the spends of a block dispatch over a store. -/
def Store.spentRecords (store : Store δ) (loaded : LoadedMapping) (block : BootstrapBlock) :
    List EntityVersionRecord :=
  (store.spends subgraph block).flatMap
    (·.records loaded subgraph block (store.entitySnapshot subgraph))

/-- The store after spends are recorded and dispatched on a snapshot. -/
def Store.withRecorded (store : Store δ) (loaded : LoadedMapping) (block : BootstrapBlock)
    (snapshot : EntitySnapshot) (spends : List DetectedSpend) : Store δ :=
  { store with
    covenantSpends := store.covenantSpends.replay (spends.map (·.row subgraph block))
    entityVersions := store.entityVersions.replay
      (spends.flatMap (·.records loaded subgraph block snapshot)) }

def Store.withSpends (store : Store δ) (mapping : Option LoadedMapping) (block : BootstrapBlock) :
    Store δ :=
  match mapping with
  | none => store
  | some loaded => store.withRecorded subgraph loaded block (store.entitySnapshot subgraph)
      (store.spends subgraph block)

/-- The records the hits of a block dispatch: none without a mapping. -/
def Store.dispatchedRecords (store : Store δ) (mapping : Option LoadedMapping)
    (block : BootstrapBlock) : List EntityVersionRecord :=
  match mapping with
  | none => []
  | some loaded => store.lockedRecords subgraph loaded block

/-- The store once the rows of a committed block are persisted. -/
def Store.withBlock (store : Store δ) (mapping : Option LoadedMapping) (block : BootstrapBlock) :
    Store δ :=
  let audited := (store.insertRpcBlockAudit ⟨block.hash, block.daaScore, block.servedBy⟩
    ).recordCommittedBlock (committedRecordOf subgraph block)
  let dispatched := audited.dispatchedRecords subgraph mapping block
  ((audited.withHits indexer subgraph mapping block).withEntities dispatched).withSpends
    subgraph mapping block

/-- The store when the spends of a block are looked up. -/
def Store.beforeSpends (store : Store δ) (loaded : LoadedMapping) (block : BootstrapBlock) :
    Store δ :=
  (store.withHits indexer subgraph (some loaded) block).withEntities
    (store.lockedRecords subgraph loaded block)

/-- The records the spends of a block dispatch, after its hits were. -/
def Store.recordsOfSpends (store : Store δ) (loaded : LoadedMapping) (block : BootstrapBlock) :
    List EntityVersionRecord :=
  (store.beforeSpends indexer subgraph loaded block).spentRecords subgraph loaded block

/-! ### The rows of a block -/

section Rows

variable (mapping : Option LoadedMapping) (block : BootstrapBlock)

def Store.detectedRows (store : Store δ) : List DetectedPatternRecord :=
  match mapping with
  | none => block.detectorHits.map fun hit => detectedPatternOf subgraph block hit hit.covenantId
  | some _ => (store.lineageSteps indexer subgraph block).map (LineageStep.detected subgraph block)

def Store.entityRows (store : Store δ) : List EntityVersionRecord :=
  match mapping with
  | none => []
  | some loaded => store.lockedRecords subgraph loaded block ++
      store.recordsOfSpends indexer subgraph loaded block

def Store.utxoRows (store : Store δ) : List CovenantUtxoRecord :=
  match mapping with
  | none => []
  | some _ => (store.lineageSteps indexer subgraph block).map (LineageStep.utxo subgraph block)

def Store.spendRows (store : Store δ) : List CovenantSpendRecord :=
  match mapping with
  | none => []
  | some loaded => ((store.beforeSpends indexer subgraph loaded block).spends subgraph block).map
      (·.row subgraph block)

/-- The lineage once the hits of a block are recorded. -/
def Store.lineageAfter (store : Store δ) : LineageTables :=
  match mapping with
  | none => store.lineage
  | some _ => (store.lineageSteps indexer subgraph block).foldl
      (LineageTables.record indexer.toolkit.floats subgraph block.daaScore) store.lineage

/-- The tables of the store with a block. -/
theorem Store.withBlock_tables (store : Store δ) :
    let after := store.withBlock indexer subgraph mapping block
    after.kasgraphPoi = store.kasgraphPoi ∧
      after.kasgraphCommittedBlock =
        store.kasgraphCommittedBlock.upsert (committedRecordOf subgraph block) ∧
      after.kasgraphDetectedPattern =
        store.kasgraphDetectedPattern.replay (store.detectedRows indexer subgraph mapping block) ∧
      after.entityVersions =
        store.entityVersions.replay (store.entityRows indexer subgraph mapping block) ∧
      after.covenantUtxos =
        store.covenantUtxos.replay (store.utxoRows indexer subgraph mapping block) ∧
      after.covenantSpends =
        store.covenantSpends.replay (store.spendRows indexer subgraph mapping block) ∧
      after.lineage = store.lineageAfter indexer subgraph mapping block := by
  cases mapping with
  | none => exact ⟨rfl, rfl, rfl, rfl, rfl, rfl, rfl⟩
  | some loaded =>
      refine ⟨rfl, rfl, rfl, ?_, rfl, rfl, rfl⟩
      rw [Store.entityRows, Table.replay_append]
      rfl

end Rows

end Effect

/-! ## The programs compute it -/

theorem perform_computes (context : String) (op : NodeOp δ) (answer : Store δ → op.Reply)
    (answers : ∀ store reply, (op.onStore store).1 = .ok reply → reply = answer store) :
    Computes exec Backend.store (perform context op) fun store =>
      (answer store, op.effect store) := by
  intro before reply after success
  obtain ⟨answered, left⟩ := (run_request_ok_iff _ _ _ _ _).mp success
  have stored : after.store = (op.onStore before.store).2 := congrArg Backend.store left
  rw [answers _ _ answered, stored, NodeOp.onStore_ok answered]

theorem lookup_computes (context : String) (subgraph : SubgraphId) (txHash : String)
    (outputIndex : Int32) :
    Computes exec (@Backend.store δ)
      (perform context (.lookupCovenantUtxo subgraph txHash outputIndex)) fun store =>
        (store.covenantUtxos.find? (subgraph.schemaName, txHash, outputIndex), store) := by
  apply perform_computes
  intro store reply answered
  exact (Store.onRelation_ok answered).2.1.symm

theorem classifyLineage_computes (blake2b : List UInt8 → List UInt8) (subgraph : SubgraphId)
    (hit : DetectedPattern) (inputs : List IngestedTransactionInput) :
    Computes exec Backend.store (classifyLineage (δ := δ) blake2b subgraph hit inputs) fun store =>
      (lineageOf blake2b subgraph store.covenantUtxos hit inputs, store) := by
  unfold classifyLineage
  apply Computes.bind (Computes.findSomeM? (fun input store =>
    inheritedLineage subgraph store.covenantUtxos hit input) _) (fun _ => Computes.pure _)
  · intro store
    rfl
  · intro input
    unfold inheritedLineage
    split
    · exact Computes.pure _
    · exact Computes.bind (lookup_computes _ _ _ _) (fun _ => Computes.pure _) fun _ => rfl

theorem persistLineage_computes (floats : Json.FloatText) (subgraph : SubgraphId)
    (hit : DetectedPattern) (lineage : LineageClass) (blockDaaScore : Int64) :
    Computes exec Backend.store
      (persistLineage (δ := δ) floats subgraph hit lineage blockDaaScore) fun store =>
        ((), store.withLineage
          (store.lineage.record floats subgraph blockDaaScore (hit, lineage))) := by
  unfold persistLineage
  have asks := perform_computes (δ := δ) "checking for an existing covenant lineage step"
    (.covenantLineageRowExists lineage.covenantId hit.txHash hit.outputIndex.toInt32)
    (fun store => store.lineage.recorded lineage.covenantId hit.txHash hit.outputIndex.toInt32)
    fun store reply answered => (Except.ok.inj answered).symm
  have fetches := perform_computes (δ := δ) "loading covenant lineage head"
    (.fetchCovenantLineageHead lineage.covenantId)
    (fun store => store.lineage.heads.find? lineage.covenantId)
    fun store reply answered => (Except.ok.inj answered).symm
  have writes (head : CovenantLineageHead) (row : CovenantLineageRow) :=
    Computes.bind
      (perform_computes (δ := δ) "upserting covenant lineage head"
        (.upsertCovenantLineageHead head) (fun _ => ()) fun _ _ _ => rfl)
      (fun _ => perform_computes (δ := δ) "inserting covenant lineage row"
        (.insertCovenantLineageRow row) (fun _ => ()) fun _ _ _ => rfl)
      fun _ => rfl
  refine Computes.bind asks (fun recorded => Computes.ite (Computes.pure ())
    (Computes.bind fetches (fun prior => writes _ _) fun _ => rfl)) fun store => ?_
  unfold LineageTables.record
  by_cases recorded : store.lineage.recorded lineage.covenantId hit.txHash
      hit.outputIndex.toInt32 = true
  · rw [if_pos recorded, if_pos recorded]
    rfl
  · rw [if_neg recorded, if_neg recorded]
    have merged : store.mergedHead {
          covenantId := lineage.covenantId
          subgraph
          genesisTx := ((store.lineage.heads.find? lineage.covenantId).map (·.genesisTx)).getD
            hit.txHash
          currentUtxo := outpointText hit.txHash hit.outputIndex
          lastSeenDaa := blockDaaScore
          lineageCount := (nextLineageStep
            ((store.lineage.heads.find? lineage.covenantId).map (·.lineageCount))).2 } =
        store.lineage.nextHead subgraph blockDaaScore (hit, lineage) := by
      unfold Store.mergedHead LineageTables.nextHead
      simp only [Store.lineage]
      cases store.kasgraphCovenantLineageHead.find? lineage.covenantId with
      | none => rfl
      | some existing => rfl
    exact congrArg (fun head => ((), store.withLineage {
      heads := store.lineage.heads.upsert head
      rows := store.lineage.rows.upsert
        (store.lineage.nextRow floats subgraph blockDaaScore (hit, lineage)) })) merged

theorem publishHitToStream_computes (stream : Bool) (block : BootstrapBlock)
    (hit : DetectedPattern) :
    Computes exec Backend.store (publishHitToStream (δ := δ) stream block hit) fun store =>
      ((), store) := by
  unfold publishHitToStream
  split
  · exact perform_computes "" (.publish (hitEvent block hit)) (fun _ => ()) fun _ _ _ => rfl
  · exact Computes.pure ()

section Programs

variable (indexer : Indexer δ) (subgraph : SubgraphId) (block : BootstrapBlock)

theorem persistHit_computes (loaded : LoadedMapping) (hit : DetectedPattern) :
    Computes exec Backend.store (persistHit indexer subgraph (some loaded) block hit) fun store =>
      ((), store.withSteps indexer subgraph block
        [(hit, lineageOf indexer.toolkit.blake2b subgraph store.covenantUtxos hit block.inputs)]) :=
  Computes.bind (classifyLineage_computes _ _ _ _) (fun _ =>
    Computes.bind (perform_computes _ _ (fun _ => ()) fun _ _ _ => rfl) (fun _ =>
      Computes.bind (publishHitToStream_computes _ _ _) (fun _ =>
        Computes.bind (perform_computes _ _ (fun _ => ()) fun _ _ _ => rfl)
          (fun _ => persistLineage_computes _ _ _ _ _) fun _ => rfl) fun _ => rfl) fun _ => rfl)
    fun _ => rfl

theorem persistHit_unmapped_computes (hit : DetectedPattern) :
    Computes exec Backend.store (persistHit indexer subgraph none block hit) fun store =>
      ((), store.insertDetectedPattern
        (detectedPatternOf subgraph block hit hit.covenantId)) :=
  Computes.bind (perform_computes _ _ (fun _ => ()) fun _ _ _ => rfl)
    (fun _ => publishHitToStream_computes _ _ _) fun _ => rfl

theorem foldl_withSteps (store : Store δ) (hits : List DetectedPattern) :
    hits.foldl (fun store hit => store.withSteps indexer subgraph block
      [(hit, lineageOf indexer.toolkit.blake2b subgraph store.covenantUtxos hit block.inputs)])
        store =
      store.withSteps indexer subgraph block
        (assignLineages indexer.toolkit.blake2b subgraph block store.covenantUtxos hits) := by
  induction hits generalizing store with
  | nil => rfl
  | cons hit hits ih =>
      rw [List.foldl_cons, ih]
      rfl

theorem foldl_insertDetectedPattern (store : Store δ) (hits : List DetectedPattern) :
    hits.foldl (fun store hit => store.insertDetectedPattern
      (detectedPatternOf subgraph block hit hit.covenantId)) store =
      { store with
        kasgraphDetectedPattern := store.kasgraphDetectedPattern.replay
          (hits.map fun hit => detectedPatternOf subgraph block hit hit.covenantId) } := by
  induction hits generalizing store with
  | nil => rfl
  | cons hit hits ih =>
      rw [List.foldl_cons, ih]
      rfl

theorem forM_persistHit_computes (mapping : Option LoadedMapping) :
    Computes exec Backend.store
      (forM block.detectorHits (persistHit indexer subgraph mapping block)) fun store =>
        ((), store.withHits indexer subgraph mapping block) := by
  cases mapping with
  | none =>
      apply Computes.congr
        (Computes.forM _ fun hit => persistHit_unmapped_computes indexer subgraph block hit)
      intro store
      exact congrArg ((), ·) (foldl_insertDetectedPattern subgraph block store block.detectorHits)
  | some loaded =>
      apply Computes.congr
        (Computes.forM _ fun hit => persistHit_computes indexer subgraph block loaded hit)
      intro store
      exact congrArg ((), ·) (foldl_withSteps indexer subgraph block store block.detectorHits)

theorem loadEntitySnapshot_computes :
    Computes exec Backend.store (loadEntitySnapshot (δ := δ) subgraph) fun store =>
      (store.entitySnapshot subgraph, store) := by
  have reads := perform_computes (δ := δ) "loading entity snapshot for mapping dispatch"
    (.snapshotEntities subgraph) (fun store => store.snapshotRows subgraph)
    fun store reply answered => (Store.onRelation_ok answered).2.1.symm
  exact Computes.bind reads (fun _ => Computes.pure _) fun _ => rfl

theorem upsertEach_computes (context : String) (records : List EntityVersionRecord) :
    Computes exec (@Backend.store δ)
      (forM records fun record => perform context (.upsertEntityVersion record)) fun store =>
        ((), store.withEntities records) := by
  apply Computes.congr (Computes.forM _ fun record =>
    perform_computes context (.upsertEntityVersion record) (fun _ => ()) fun _ _ _ => rfl)
  intro store
  induction records generalizing store with
  | nil => rfl
  | cons record records ih => exact ih _

theorem dispatchHits_computes (loaded : LoadedMapping) :
    Computes exec Backend.store (dispatchHits (δ := δ) loaded subgraph block) fun store =>
      (store.lockedRecords subgraph loaded block,
        store.withEntities (store.lockedRecords subgraph loaded block)) :=
  Computes.bind (loadEntitySnapshot_computes subgraph) (fun _ =>
    Computes.bind (upsertEach_computes _ _) (fun _ => Computes.pure _) fun _ => rfl) fun _ => rfl

theorem persistHits_computes (mapping : Option LoadedMapping) :
    Computes exec Backend.store (persistHits indexer subgraph mapping block) fun store =>
      (store.dispatchedRecords subgraph mapping block,
        (store.withHits indexer subgraph mapping block).withEntities
          (store.dispatchedRecords subgraph mapping block)) := by
  unfold persistHits
  split
  · rename_i quiet
    apply Computes.congr (Computes.pure [])
    intro store
    have none : block.detectorHits = [] := List.isEmpty_iff.mp quiet
    cases mapping with
    | none => simp [Store.dispatchedRecords, Store.withHits, Store.withEntities, none]
    | some loaded =>
        simp [Store.dispatchedRecords, Store.withHits, Store.withEntities, none,
          Store.lockedRecords, LoadedMapping.dispatchCommittedHits, Store.lineageSteps,
          assignLineages, Store.withSteps, Store.withLineage, Store.lineage]
  · cases mapping with
    | none =>
        exact Computes.bind (forM_persistHit_computes indexer subgraph block none)
          (fun _ => Computes.pure []) fun _ => rfl
    | some loaded =>
        exact Computes.bind (forM_persistHit_computes indexer subgraph block (some loaded))
          (fun _ => dispatchHits_computes subgraph block loaded) fun _ => rfl

theorem consumedByTx_computes (inputs : List IngestedTransactionInput) :
    Computes exec Backend.store (consumedByTx (δ := δ) subgraph inputs) fun store =>
      (consumedIn subgraph store.covenantUtxos inputs, store) := by
  apply Computes.congr (Computes.foldlM (fun consumed input (store : Store δ) =>
    match store.covenantUtxos.find? (subgraph.schemaName, input.previousTxHash,
        input.previousOutputIndex.toInt32) with
    | some spent => consumed.push input spent
    | none => consumed) _ ∅)
  · intro store
    rfl
  · intro consumed input
    have groups : ∀ spent : Option CovenantUtxoRecord, Computes exec (@Backend.store δ)
        (match spent with
        | some spent => return consumed.push input spent
        | none => return consumed) fun store =>
          (match spent with
          | some spent => consumed.push input spent
          | none => consumed, store) := by
      intro spent
      cases spent with
      | some spent => exact Computes.pure _
      | none => exact Computes.pure _
    exact Computes.bind (lookup_computes _ _ _ _) groups fun _ => rfl

theorem spendOperation_computes (spendingTx : String)
    (consumed : List (IngestedTransactionInput × CovenantUtxoRecord)) :
    Computes exec Backend.store (spendOperation (δ := δ) subgraph spendingTx consumed)
      fun store => (operationOf subgraph store.covenantUtxos spendingTx consumed, store) := by
  unfold spendOperation operationOf
  have created := perform_computes (δ := δ) "fetching covenant outputs created by the spending tx"
    (.covenantUtxosCreatedByTx subgraph spendingTx)
    (fun store => store.covenantUtxos.select fun row =>
      row.subgraph = subgraph && row.txHash == spendingTx)
    fun store reply answered => (Store.onRelation_ok answered).2.1.symm
  apply Computes.congr (Computes.ite
    (Computes.bind created (fun _ => Computes.pure _) fun _ => rfl) (Computes.pure none))
  intro store
  split
  · rfl
  · rfl

theorem successorCovenantId_computes (spendingTx : String) (spent : CovenantUtxoRecord) :
    Computes exec Backend.store (successorCovenantId (δ := δ) subgraph spendingTx spent)
      fun store => (successorOf subgraph store.covenantUtxos spendingTx spent, store) := by
  unfold successorCovenantId successorOf
  cases spent.covenantId with
  | none => exact Computes.pure none
  | some id =>
      have continues := perform_computes (δ := δ) "resolving covenant lineage successor"
        (.covenantLineageContinues subgraph spendingTx id)
        (fun store => store.covenantUtxos.any fun row =>
          row.subgraph = subgraph && row.txHash == spendingTx && row.covenantId == some id)
        fun store reply answered => (Store.onRelation_ok answered).2.1.symm
      exact Computes.bind continues (fun _ => Computes.pure _) fun _ => rfl

theorem persistSpend_computes (loaded : LoadedMapping) (spendingTx : String)
    (operation : Option String) (snapshot : EntitySnapshot)
    (pair : IngestedTransactionInput × CovenantUtxoRecord) :
    Computes exec Backend.store
      (persistSpend (δ := δ) loaded subgraph block spendingTx operation snapshot pair) fun store =>
        ((), store.withRecorded subgraph loaded block snapshot
          [⟨pair.1, pair.2, operation,
            successorOf subgraph store.covenantUtxos spendingTx pair.2⟩]) := by
  have records (row : CovenantSpendRecord) := perform_computes (δ := δ)
    "recording detected covenant spend" (.recordCovenantSpend row) (fun _ => ()) fun _ _ _ => rfl
  refine Computes.bind (successorCovenantId_computes subgraph spendingTx pair.2) (fun successor =>
    Computes.bind (records _) (fun _ => upsertEach_computes _ _) fun _ => rfl) fun store => ?_
  simp [Store.withRecorded, Store.withEntities, DetectedSpend.records, DetectedSpend.row,
    NodeOp.effect]
  rfl

/-- Recording spends leaves the tracked outputs alone, so a loop sees the same ones throughout. -/
theorem foldl_withRecorded {ι : Type} (loaded : LoadedMapping) (snapshot : EntitySnapshot)
    (spends : Table CovenantUtxoRecord.key → ι → List DetectedSpend) (items : List ι)
    (store : Store δ) :
    items.foldl (fun store item => store.withRecorded subgraph loaded block snapshot
      (spends store.covenantUtxos item)) store =
      store.withRecorded subgraph loaded block snapshot
        (items.flatMap (spends store.covenantUtxos)) := by
  induction items generalizing store with
  | nil => rfl
  | cons item items ih =>
      rw [List.foldl_cons, ih, List.flatMap_cons]
      simp only [Store.withRecorded, List.map_append, List.flatMap_append, Table.replay_append]

theorem persistSpendingTx_computes (loaded : LoadedMapping) (snapshot : EntitySnapshot)
    (entry : String × List (IngestedTransactionInput × CovenantUtxoRecord)) :
    Computes exec Backend.store
      (persistSpendingTx (δ := δ) loaded subgraph block snapshot entry) fun store =>
        ((), store.withRecorded subgraph loaded block snapshot
          (spendsOfTx subgraph store.covenantUtxos entry)) := by
  apply Computes.bind (spendOperation_computes subgraph entry.1 entry.2) (fun operation =>
    Computes.forM _ fun pair =>
      persistSpend_computes subgraph block loaded entry.1 operation snapshot pair)
  intro store
  have folded := foldl_withRecorded subgraph block loaded snapshot (fun utxos pair =>
    [⟨pair.1, pair.2, operationOf subgraph store.covenantUtxos entry.1 entry.2,
      successorOf subgraph utxos entry.1 pair.2⟩]) entry.2 store
  rw [← List.map_eq_flatMap] at folded
  exact congrArg ((), ·) folded

theorem persistSpends_computes (mapping : Option LoadedMapping) :
    Computes exec Backend.store (persistSpends (δ := δ) subgraph mapping block) fun store =>
      ((), store.withSpends subgraph mapping block) := by
  cases mapping with
  | none => exact Computes.pure ()
  | some loaded =>
      simp only [persistSpends]
      split
      · rename_i quiet
        apply Computes.congr (Computes.pure ())
        intro store
        have none : (consumedIn subgraph store.covenantUtxos block.inputs).toList = [] := by
          rw [List.isEmpty_iff.mp quiet]
          rfl
        simp [Store.withSpends, Store.spends, spendsIn, none, Store.withRecorded]
      · apply Computes.bind (consumedByTx_computes subgraph block.inputs) (fun consumed =>
          Computes.bind (loadEntitySnapshot_computes subgraph) (fun snapshot =>
            Computes.forM _ fun entry =>
              persistSpendingTx_computes subgraph block loaded snapshot entry) fun _ => rfl)
        intro store
        exact congrArg ((), ·) (foldl_withRecorded subgraph block loaded
          (store.entitySnapshot subgraph) (spendsOfTx subgraph)
          (consumedIn subgraph store.covenantUtxos block.inputs).toList store)

/-- Persisting a block answers the records its hits dispatch and leaves the store with
the block. -/
theorem persistCommittedRows_computes (mapping : Option LoadedMapping) :
    Computes exec Backend.store (persistCommittedRows indexer subgraph mapping block) fun store =>
      (store.dispatchedRecords subgraph mapping block,
        store.withBlock indexer subgraph mapping block) :=
  Computes.bind (perform_computes _ _ (fun _ => ()) fun _ _ _ => rfl) (fun _ =>
    Computes.bind (perform_computes _ _ (fun _ => ()) fun _ _ _ => rfl) (fun _ =>
      Computes.bind (persistHits_computes indexer subgraph block mapping) (fun _ =>
        Computes.bind (persistSpends_computes subgraph block mapping)
          (fun _ => Computes.pure _) fun _ => rfl) fun _ => rfl) fun _ => rfl) fun _ => rfl

end Programs

end KasGraph
