import KasGraph.NodeProgram
import KasGraph.Kcc20Operation

set_option autoImplicit false

/-! Applying a notification and persisting what it did. The transition is taken
from the in-memory state; unwound blocks are removed from the store first, then
every committed block is written, dispatched and chained into the digest. -/

namespace KasGraph

open EffectProgram
open Json (Value)

/-- What the node works with: the code it uses from outside, the hash of the
digest chain, and whether a stream hub is attached. -/
structure Indexer (δ : Type) where
  toolkit : Toolkit
  hasher : PoiHasher δ
  stream : Bool

variable {δ : Type}

/-- `format!("{}:{}", tx_hash, output_index)`. -/
def outpointText (txHash : String) (outputIndex : UInt32) : String :=
  txHash ++ ":" ++ toString outputIndex

/-! ## Lineage -/

inductive LineageClass where
  | genesis (id : String)
  | transition (id parentUtxo : String)
  deriving DecidableEq, Repr

namespace LineageClass

def covenantId : LineageClass → String
  | .genesis id => id
  | .transition id _ => id

def parentUtxo : LineageClass → Option String
  | .genesis _ => none
  | .transition _ parentUtxo => some parentUtxo

end LineageClass

/-- The transition of the first input of the hit's transaction that consumes a
tracked output with a covenant id; a genesis when there is none. -/
def classifyLineage (blake2b : List UInt8 → List UInt8) (subgraph : SubgraphId)
    (hit : DetectedPattern) (inputs : List IngestedTransactionInput) :
    NodeProgram δ LineageClass := do
  let inherited ← inputs.findSomeM? fun input => do
    if input.spendingTxHash != hit.txHash then
      return none
    else
      let prev : Option CovenantUtxoRecord ←
        perform "looking up predecessor covenant for lineage assignment"
          (.lookupCovenantUtxo subgraph input.previousTxHash input.previousOutputIndex.toInt32)
      return (prev.bind (·.covenantId)).map fun id =>
        .transition id (outpointText input.previousTxHash input.previousOutputIndex)
  return inherited.getD (.genesis (genesisCovenantId blake2b hit.txHash hit.outputIndex))

/-- The next sequence number and the count after it. -/
def nextLineageStep (priorLineageCount : Option Int32) : Int32 × Int32 :=
  let seq := priorLineageCount.getD 0
  (seq, seq + 1)

/-- Advance the head of a covenant and append the row of one output, unless the
output is a recorded step already. -/
def persistLineage (floats : Json.FloatText) (subgraph : SubgraphId) (hit : DetectedPattern)
    (lineage : LineageClass) (blockDaaScore : Int64) : NodeProgram δ Unit := do
  let recorded : Bool ← perform "checking for an existing covenant lineage step"
    (.covenantLineageRowExists lineage.covenantId hit.txHash hit.outputIndex.toInt32)
  if recorded then
    return ()
  else
    let prior : Option CovenantLineageHead ← perform "loading covenant lineage head"
      (.fetchCovenantLineageHead lineage.covenantId)
    let (seq, lineageCount) := nextLineageStep (prior.map (·.lineageCount))
    let _ ← perform "upserting covenant lineage head" (.upsertCovenantLineageHead {
      covenantId := lineage.covenantId
      subgraph
      genesisTx := (prior.map (·.genesisTx)).getD hit.txHash
      currentUtxo := outpointText hit.txHash hit.outputIndex
      lastSeenDaa := blockDaaScore
      lineageCount })
    perform "inserting covenant lineage row" (.insertCovenantLineageRow {
      covenantId := lineage.covenantId
      subgraph
      seq
      txHash := hit.txHash
      outputIndex := hit.outputIndex.toInt32
      parentUtxo := lineage.parentUtxo
      stateBytes := Json.toVec floats hit.payload
      daaScore := blockDaaScore })

/-! ## Detector hits -/

/-- The event of a hit. It carries the covenant id of the detector, not an
assigned one. -/
def hitEvent (block : BootstrapBlock) (hit : DetectedPattern) : StreamEvent where
  blockDaaScore := block.daaScore.toUInt64
  blockHash := block.hash
  kind := hit.kind.debug
  payload := .ofFields (
    [("tx_hash", .string hit.txHash),
      ("output_index", .number (.posInt hit.outputIndex.toUInt64))] ++
    (hit.covenantId.toList.map fun id => ("covenant_id", .string id)) ++
    [("detector_payload", hit.payload)])

def publishHitToStream (stream : Bool) (block : BootstrapBlock) (hit : DetectedPattern) :
    NodeProgram δ Unit :=
  if stream then perform "" (.publish (hitEvent block hit)) else return ()

/-- The value of the output of a hit, or zero when the block lacks the output. -/
def valueOfHit (block : BootstrapBlock) (hit : DetectedPattern) : Int64 :=
  ((block.outputs.find? fun output =>
    output.txHash == hit.txHash && output.outputIndex == hit.outputIndex).map
      (·.value.toInt64)).getD 0

def detectedPatternOf (subgraph : SubgraphId) (block : BootstrapBlock) (hit : DetectedPattern)
    (covenantId : Option String) : DetectedPatternRecord where
  subgraph
  blockHash := block.hash
  blockDaaScore := block.daaScore
  txHash := hit.txHash
  outputIndex := hit.outputIndex.toInt32
  detectorKind := hit.kind.debug
  covenantId
  payload := hit.payload

def covenantUtxoOf (subgraph : SubgraphId) (block : BootstrapBlock) (hit : DetectedPattern)
    (covenantId : Option String) : CovenantUtxoRecord where
  subgraph
  txHash := hit.txHash
  outputIndex := hit.outputIndex.toInt32
  blockDaaScore := block.daaScore
  detectorKind := hit.kind.debug
  covenantId
  valueSompi := valueOfHit block hit
  lockedState := hit.payload

/-- Persist one hit. Only with a mapping is its covenant id assigned, its output
tracked and its lineage recorded. -/
def persistHit (indexer : Indexer δ) (subgraph : SubgraphId) (mapping : Option LoadedMapping)
    (block : BootstrapBlock) (hit : DetectedPattern) : NodeProgram δ Unit :=
  match mapping with
  | none => do
      let _ ← perform "writing detected pattern row"
        (.insertDetectedPattern (detectedPatternOf subgraph block hit hit.covenantId))
      publishHitToStream indexer.stream block hit
  | some _ => do
      let lineage ← classifyLineage indexer.toolkit.blake2b subgraph hit block.inputs
      let _ ← perform "writing detected pattern row"
        (.insertDetectedPattern (detectedPatternOf subgraph block hit (some lineage.covenantId)))
      publishHitToStream indexer.stream block hit
      let _ ← perform "tracking covenant UTXO for spend detection"
        (.trackCovenantUtxo (covenantUtxoOf subgraph block hit (some lineage.covenantId)))
      persistLineage indexer.toolkit.floats subgraph hit lineage block.daaScore

def loadEntitySnapshot (subgraph : SubgraphId) : NodeProgram δ EntitySnapshot := do
  let rows : List EntityVersionRecord ←
    perform "loading entity snapshot for mapping dispatch" (.snapshotEntities subgraph)
  return OrderedMap.insertEach ∅ (rows.map fun r => ((r.entityType, r.entityId), r.payload))

/-- Dispatch the hits of a block through the mapping and persist the records. -/
def dispatchHits (mapping : LoadedMapping) (subgraph : SubgraphId) (block : BootstrapBlock) :
    NodeProgram δ (List EntityVersionRecord) := do
  let snapshot ← loadEntitySnapshot subgraph
  let dispatched := mapping.dispatchCommittedHits block.daaScore.toUInt64 block.hash
    block.detectorHits snapshot
  forM dispatched fun record =>
    perform "persisting mapping-emitted entity version" (.upsertEntityVersion record)
  return dispatched

/-- Persist the hits of a block and answer the records they dispatched. -/
def persistHits (indexer : Indexer δ) (subgraph : SubgraphId) (mapping : Option LoadedMapping)
    (block : BootstrapBlock) : NodeProgram δ (List EntityVersionRecord) :=
  if block.detectorHits.isEmpty then
    return []
  else do
    forM block.detectorHits (persistHit indexer subgraph mapping block)
    match mapping with
    | some mapping => dispatchHits mapping subgraph block
    | none => return []

/-! ## Spends -/

/-- The inputs of a block with the tracked outputs they consume, by spending
transaction. -/
abbrev ConsumedByTx := OrderedMap String (List (IngestedTransactionInput × CovenantUtxoRecord))

def ConsumedByTx.push (consumed : ConsumedByTx) (input : IngestedTransactionInput)
    (spent : CovenantUtxoRecord) : ConsumedByTx :=
  consumed.insert input.spendingTxHash
    ((consumed[input.spendingTxHash]?).getD [] ++ [(input, spent)])

def consumedByTx (subgraph : SubgraphId) (inputs : List IngestedTransactionInput) :
    NodeProgram δ ConsumedByTx :=
  inputs.foldlM (fun consumed input => do
    let spent : Option CovenantUtxoRecord ←
      perform "looking up covenant UTXO for spend detection"
        (.lookupCovenantUtxo subgraph input.previousTxHash input.previousOutputIndex.toInt32)
    match spent with
    | some spent => return consumed.push input spent
    | none => return consumed) ∅

/-- The operation of a transaction, when all it consumes are KCC20 assets. -/
def spendOperation (subgraph : SubgraphId) (spendingTx : String)
    (consumed : List (IngestedTransactionInput × CovenantUtxoRecord)) :
    NodeProgram δ (Option String) :=
  if consumed.all fun (_, spent) => spent.detectorKind == "KCC20Asset" then do
    let created : List CovenantUtxoRecord ←
      perform "fetching covenant outputs created by the spending tx"
        (.covenantUtxosCreatedByTx subgraph spendingTx)
    let createdStates := (created.filter (·.detectorKind == "KCC20Asset")).map (·.lockedState)
    return (kcc20SpendOperation (consumed.map (·.2.lockedState)) createdStates).toOption.map (·.asStr)
  else
    return none

/-- The id a spent covenant continues under, when the transaction created a
tracked output with it. -/
def successorCovenantId (subgraph : SubgraphId) (spendingTx : String)
    (spent : CovenantUtxoRecord) : NodeProgram δ (Option String) :=
  match spent.covenantId with
  | none => return none
  | some id => do
      let continues : Bool ← perform "resolving covenant lineage successor"
        (.covenantLineageContinues subgraph spendingTx id)
      return if continues then some id else none

def covenantSpendOf (subgraph : SubgraphId) (block : BootstrapBlock)
    (input : IngestedTransactionInput) (spent : CovenantUtxoRecord)
    (successorCovenantId : Option String) : CovenantSpendRecord where
  subgraph
  spendingTxHash := input.spendingTxHash
  previousTxHash := input.previousTxHash
  previousOutputIndex := input.previousOutputIndex.toInt32
  blockDaaScore := block.daaScore
  detectorKind := spent.detectorKind
  covenantId := spent.covenantId
  spentValueSompi := spent.valueSompi
  successorCovenantId

/-- The records of one spend: none without an operation, an id or a handler, and
none when the handler fails. -/
def spendRecords (mapping : LoadedMapping) (subgraph : SubgraphId) (block : BootstrapBlock)
    (operation : Option String) (spent : CovenantUtxoRecord) (successorCovenantId : Option String)
    (snapshot : EntitySnapshot) : List EntityVersionRecord :=
  match operation, spent.covenantId with
  | some operation, some covenantId =>
      match mapping.descriptor.resolveHandler spent.detectorKind eventCovenantSpent with
      | none => []
      | some handler =>
          let spend := { covenantId, operation, spentValueSompi := toString spent.valueSompi
                         successorCovenantId }
          match dispatchSpendHit mapping.runtime spend spent.lockedState block.daaScore.toUInt64
              block.hash handler subgraph snapshot with
          | .ok records => records
          | .error _ => []
  | _, _ => []

def persistSpend (mapping : LoadedMapping) (subgraph : SubgraphId) (block : BootstrapBlock)
    (spendingTx : String) (operation : Option String) (snapshot : EntitySnapshot)
    (consumed : IngestedTransactionInput × CovenantUtxoRecord) : NodeProgram δ Unit := do
  let (input, spent) := consumed
  let successor ← successorCovenantId subgraph spendingTx spent
  let _ ← perform "recording detected covenant spend"
    (.recordCovenantSpend (covenantSpendOf subgraph block input spent successor))
  forM (spendRecords mapping subgraph block operation spent successor snapshot) fun record =>
    perform "persisting spend-emitted entity version" (.upsertEntityVersion record)

/-- Persist the spends of one transaction. -/
def persistSpendingTx (mapping : LoadedMapping) (subgraph : SubgraphId) (block : BootstrapBlock)
    (snapshot : EntitySnapshot)
    (entry : String × List (IngestedTransactionInput × CovenantUtxoRecord)) :
    NodeProgram δ Unit := do
  let (spendingTx, consumed) := entry
  let operation ← spendOperation subgraph spendingTx consumed
  forM consumed (persistSpend mapping subgraph block spendingTx operation snapshot)

/-- Persist every spend of a tracked output and dispatch it. -/
def persistSpends (subgraph : SubgraphId) (mapping : Option LoadedMapping)
    (block : BootstrapBlock) : NodeProgram δ Unit :=
  match mapping with
  | none => return ()
  | some mapping =>
      if block.inputs.isEmpty then
        return ()
      else do
        let consumed ← consumedByTx subgraph block.inputs
        let snapshot ← loadEntitySnapshot subgraph
        forM consumed.toList (persistSpendingTx mapping subgraph block snapshot)

/-! ## Committed blocks -/

section Block

variable (indexer : Indexer δ) (subgraph : SubgraphId) (mapping : Option LoadedMapping)

def committedRecordOf (block : BootstrapBlock) : CommittedBlockRecord where
  subgraph
  blockHash := block.hash
  daaScore := block.daaScore
  servedBy := block.servedBy

/-- The rows of a committed block; it answers the records its hits dispatched. -/
def persistCommittedRows (block : BootstrapBlock) : NodeProgram δ (List EntityVersionRecord) := do
  let _ ← perform "writing RPC audit record" (.insertRpcBlockAudit {
    blockHash := block.hash, daaScore := block.daaScore, servedBy := block.servedBy })
  let _ ← perform "recording committed block for reorg-tracking"
    (.recordCommittedBlock (committedRecordOf subgraph block))
  let dispatched ← persistHits indexer subgraph mapping block
  persistSpends subgraph mapping block
  return dispatched

/-- The bytes hashed for a committed block. -/
def committedPoiInput (block : BootstrapBlock) (dispatched : List EntityVersionRecord)
    (mappingLoaded : Bool) : List UInt8 :=
  if mappingLoaded then canonicalBytesForEntities indexer.toolkit.floats dispatched
  else block.canonicalEntityBytes

/-- Persist a committed block and answer the digest after it. -/
def persistCommittedWrite (priorPoi : δ) (committed : CommittedBlockWrite) : NodeProgram δ δ := do
  let dispatched ← persistCommittedRows indexer subgraph mapping committed.block
  let poiInput := committedPoiInput indexer committed.block dispatched mapping.isSome
  match computePoi indexer.hasher priorPoi poiInput with
  | .error cause => .fail (.poi "computing committed block POI over dispatched entities" cause)
  | .ok poiHash =>
      let _ ← perform "writing POI checkpoint" (.insertPoiCheckpoint {
        subgraph, blockDaaScore := committed.block.daaScore, poiHash })
      return poiHash

/-! ## Unwinding -/

def unwindReason : String := "virtualChainChanged removed_chain_block_hashes"

/-- The lowest score among blocks. -/
def lowestDaa (blocks : List BootstrapBlock) : Option Int64 := (blocks.map (·.daaScore)).min?

/-- Undo what a mapping derived from the blocks at or above the lowest score. -/
def unwindDerived (unwinds : List BootstrapBlock) : NodeProgram δ Unit :=
  match mapping, lowestDaa unwinds with
  | some _, some cutoff => do
      let _ ← perform "unwinding entity versions for reorg" (.unwindEntityVersions subgraph cutoff)
      let _ ← perform "unwinding covenant UTXOs for reorg" (.unwindCovenantUtxos subgraph cutoff)
      let _ ← perform "unwinding covenant spends for reorg" (.unwindCovenantSpends subgraph cutoff)
      perform "unwinding covenant lineage for reorg" (.unwindCovenantLineage subgraph cutoff)
  | _, _ => return ()

/-- The digest of the latest checkpoint, or the seed of the chain. -/
def reanchor (context : String) : NodeProgram δ δ := do
  let latest : Option (PoiCheckpoint δ) ← perform context (.latestPoiForSubgraph subgraph)
  return (latest.map (·.poiHash)).getD indexer.hasher.seed

/-- Remove unwound blocks from the store and answer the digest of the chain that
is left: the prior one when there are none. -/
def unwindCommitted (priorPoi : δ) (unwinds : List BootstrapBlock) : NodeProgram δ δ :=
  if unwinds.isEmpty then
    return priorPoi
  else do
    let _ ← perform "unwinding committed blocks for reorg"
      (.unwindCommittedBlocks subgraph (unwinds.map (·.hash)) unwindReason)
    unwindDerived subgraph mapping unwinds
    reanchor indexer subgraph "loading latest POI after unwind"

/-! ## Notifications -/

structure NotificationOutcome where
  recoveryRequested : Option (UInt64 × UInt64)
  committedCount : Nat
  deriving DecidableEq, Repr

/-- Persist a transition and answer the digest after it. -/
def persistTransition (priorPoi : δ) (transition : IngestionTransition) : NodeProgram δ δ := do
  let anchor ← unwindCommitted indexer subgraph mapping priorPoi transition.committedUnwinds
  transition.committedWrites.foldlM (persistCommittedWrite indexer subgraph mapping) anchor

def applyAndPersistNotification (ingestion : IngestionState δ) (notification : ChainNotification) :
    NodeProgram δ (NotificationOutcome × IngestionState δ) :=
  match ingestion.applyNotification indexer.toolkit notification with
  | .error cause => .fail (.panic cause)
  | .ok (transition, ingestion) => do
      let priorPoi ← persistTransition indexer subgraph mapping ingestion.priorPoi transition
      return ({ recoveryRequested := transition.recoveryRequested
                committedCount := transition.committedWrites.length },
        ingestion.reseedPriorPoi priorPoi)

end Block

/-! ## Runtimes -/

/-- One indexed subgraph. Its mapping, when it has one, was loaded for it. -/
structure SubgraphRuntime (δ : Type) where
  subgraph : SubgraphId
  ingestion : IngestionState δ
  mapping : Option LoadedMapping
  owned : ∀ loaded, mapping = some loaded → loaded.subgraph = subgraph

/-- A runtime with empty memory, anchored at the latest checkpoint. -/
def makeSubgraphRuntime (indexer : Indexer δ) (subgraph : SubgraphId)
    (mapping : Option LoadedMapping)
    (owned : ∀ loaded, mapping = some loaded → loaded.subgraph = subgraph)
    (finalityDepth : Option UInt64) : NodeProgram δ (SubgraphRuntime δ) := do
  let priorPoi ← reanchor indexer subgraph "loading latest POI for subgraph on startup"
  return { subgraph, mapping, owned
           ingestion := .withFinalityDepth priorPoi finalityDepth }

/-- Apply a notification to a runtime. -/
def SubgraphRuntime.notify (indexer : Indexer δ) (runtime : SubgraphRuntime δ)
    (notification : ChainNotification) :
    NodeProgram δ (NotificationOutcome × SubgraphRuntime δ) := do
  let (outcome, ingestion) ← applyAndPersistNotification indexer runtime.subgraph runtime.mapping
    runtime.ingestion notification
  return (outcome, { runtime with ingestion })

end KasGraph
