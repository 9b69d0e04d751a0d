import KasGraph.Table
import KasGraph.Json

set_option autoImplicit false

/-! The store: its tables and the statements run on them. Every statement is
atomic: it answers and changes the tables, or it fails and leaves them alone. -/

namespace KasGraph

open Json (Value)

/-! ## Records -/

/-- Characters a subgraph id may hold: it is also a schema name. -/
def allowedSchemaName (value : String) : Bool :=
  !value.isEmpty && value.toList.all fun ch => ch.isLower || ch.isDigit || ch == '_'

structure SubgraphId where
  schemaName : String
  valid : allowedSchemaName schemaName = true
  deriving DecidableEq

theorem SubgraphId.eq_of_schemaName {a b : SubgraphId} (same : a.schemaName = b.schemaName) :
    a = b := by
  cases a
  cases b
  cases same
  rfl

inductive StoreError where
  | invalidSubgraphId (value : String)
  | undefinedTable (schema table : String)
  | uniqueViolation (table : String)
  | foreignKeyViolation (table : String)
  | checkViolation (table : String)
  | integerOutOfRange
  deriving DecidableEq, Repr

def SubgraphId.new (value : String) : Except StoreError SubgraphId :=
  if valid : allowedSchemaName value = true then
    .ok ⟨value, valid⟩
  else
    .error (.invalidSubgraphId value)

structure PoiCheckpoint (δ : Type) where
  subgraph : SubgraphId
  blockDaaScore : Int64
  poiHash : δ
  deriving DecidableEq

structure RpcBlockAuditRecord where
  blockHash : String
  daaScore : Int64
  servedBy : String
  deriving DecidableEq

structure CommittedBlockRecord where
  subgraph : SubgraphId
  blockHash : String
  daaScore : Int64
  servedBy : String
  deriving DecidableEq

structure ReorgAuditRecord where
  subgraph : SubgraphId
  atDaa : Int64
  removedHashes : List String
  removedCount : Int32
  reason : String
  deriving DecidableEq

structure DetectedPatternRecord where
  subgraph : SubgraphId
  blockHash : String
  blockDaaScore : Int64
  txHash : String
  outputIndex : Int32
  detectorKind : String
  covenantId : Option String
  payload : Value
  deriving DecidableEq

structure EntityVersionRecord where
  subgraph : SubgraphId
  entityType : String
  entityId : String
  blockDaaScore : Int64
  payload : Value
  deriving DecidableEq

structure CovenantUtxoRecord where
  subgraph : SubgraphId
  txHash : String
  outputIndex : Int32
  blockDaaScore : Int64
  detectorKind : String
  covenantId : Option String
  valueSompi : Int64
  lockedState : Value
  deriving DecidableEq

structure CovenantSpendRecord where
  subgraph : SubgraphId
  spendingTxHash : String
  previousTxHash : String
  previousOutputIndex : Int32
  blockDaaScore : Int64
  detectorKind : String
  covenantId : Option String
  spentValueSompi : Int64
  successorCovenantId : Option String
  deriving DecidableEq

structure CovenantLineageHead where
  covenantId : String
  subgraph : SubgraphId
  genesisTx : String
  currentUtxo : String
  lastSeenDaa : Int64
  lineageCount : Int32
  deriving DecidableEq

structure CovenantLineageRow where
  covenantId : String
  subgraph : SubgraphId
  seq : Int32
  txHash : String
  outputIndex : Int32
  parentUtxo : Option String
  stateBytes : List UInt8
  daaScore : Int64
  deriving DecidableEq

/-! ## Primary keys -/

def PoiCheckpoint.key {δ : Type} (row : PoiCheckpoint δ) : String × Int64 :=
  (row.subgraph.schemaName, row.blockDaaScore)

def CommittedBlockRecord.key (row : CommittedBlockRecord) : String × String :=
  (row.subgraph.schemaName, row.blockHash)

def DetectedPatternRecord.key (row : DetectedPatternRecord) :
    String × String × String × Int32 × String :=
  (row.subgraph.schemaName, row.blockHash, row.txHash, row.outputIndex, row.detectorKind)

/-- The tables of a subgraph's own schema are one table here, under keys that
start with the schema. -/
def EntityVersionRecord.key (row : EntityVersionRecord) : String × String × String × Int64 :=
  (row.subgraph.schemaName, row.entityType, row.entityId, row.blockDaaScore)

def CovenantUtxoRecord.key (row : CovenantUtxoRecord) : String × String × Int32 :=
  (row.subgraph.schemaName, row.txHash, row.outputIndex)

def CovenantSpendRecord.key (row : CovenantSpendRecord) : String × String × String × Int32 :=
  (row.subgraph.schemaName, row.spendingTxHash, row.previousTxHash, row.previousOutputIndex)

def CovenantLineageHead.key (row : CovenantLineageHead) : String := row.covenantId

def CovenantLineageRow.key (row : CovenantLineageRow) : String × Int32 :=
  (row.covenantId, row.seq)

/-! ## The orders of the longer keys -/

instance transOrdCovenantUtxoKey : Std.TransOrd (String × String × Int32) := inferInstance

instance transOrdDetectedPatternKey : Std.TransOrd (String × String × String × Int32 × String) :=
  inferInstance

instance transOrdEntityVersionKey : Std.TransOrd (String × String × String × Int64) := inferInstance

instance transOrdCovenantSpendKey : Std.TransOrd (String × String × String × Int32) := inferInstance

instance lawfulEqOrdCovenantUtxoKey : Std.LawfulEqOrd (String × String × Int32) := inferInstance

instance lawfulEqOrdDetectedPatternKey :
    Std.LawfulEqOrd (String × String × String × Int32 × String) := inferInstance

instance lawfulEqOrdEntityVersionKey : Std.LawfulEqOrd (String × String × String × Int64) :=
  inferInstance

instance lawfulEqOrdCovenantSpendKey : Std.LawfulEqOrd (String × String × String × Int32) :=
  inferInstance

/-! ## The tables -/

structure Store (δ : Type) where
  kasgraphPoi : Table (@PoiCheckpoint.key δ)
  kasgraphRpcBlockAudit : List RpcBlockAuditRecord
  kasgraphCommittedBlock : Table CommittedBlockRecord.key
  kasgraphReorgAudit : List ReorgAuditRecord
  kasgraphDetectedPattern : Table DetectedPatternRecord.key
  entityVersions : Table EntityVersionRecord.key
  covenantUtxos : Table CovenantUtxoRecord.key
  covenantSpends : Table CovenantSpendRecord.key
  kasgraphCovenantLineageHead : Table CovenantLineageHead.key
  kasgraphCovenantLineageRow : Table CovenantLineageRow.key
  /-- The schema-qualified tables that exist. -/
  relations : Finset (String × String)

namespace Store

variable {δ : Type}

/-- A migrated store without rows. -/
def empty (relations : Finset (String × String)) : Store δ where
  kasgraphPoi := .empty
  kasgraphRpcBlockAudit := []
  kasgraphCommittedBlock := .empty
  kasgraphReorgAudit := []
  kasgraphDetectedPattern := .empty
  entityVersions := .empty
  covenantUtxos := .empty
  covenantSpends := .empty
  kasgraphCovenantLineageHead := .empty
  kasgraphCovenantLineageRow := .empty
  relations

/-- `CREATE … IF NOT EXISTS` of the three tables of a subgraph's schema. -/
def ensureSubgraphSchema (store : Store δ) (subgraph : SubgraphId) : Store δ :=
  { store with
    relations := store.relations ∪
      {(subgraph.schemaName, "entity_versions"), (subgraph.schemaName, "covenant_utxos"),
        (subgraph.schemaName, "covenant_spends")} }

/-- Run a statement on a schema-qualified table, which must exist. -/
def onRelation {α : Type} (store : Store δ) (subgraph : SubgraphId) (table : String)
    (result : α) (after : Store δ) : Except StoreError α × Store δ :=
  if (subgraph.schemaName, table) ∈ store.relations then
    (.ok result, after)
  else
    (.error (.undefinedTable subgraph.schemaName table), store)

/-! ## Checkpoints, audit rows and committed blocks -/

def insertPoiCheckpoint (store : Store δ) (checkpoint : PoiCheckpoint δ) : Store δ :=
  { store with kasgraphPoi := store.kasgraphPoi.upsert checkpoint }

def insertRpcBlockAudit (store : Store δ) (audit : RpcBlockAuditRecord) : Store δ :=
  { store with kasgraphRpcBlockAudit := store.kasgraphRpcBlockAudit ++ [audit] }

def recordCommittedBlock (store : Store δ) (record : CommittedBlockRecord) : Store δ :=
  { store with kasgraphCommittedBlock := store.kasgraphCommittedBlock.upsert record }

/-- The checkpoint of a subgraph with the highest score. -/
def latestPoiForSubgraph (store : Store δ) (subgraph : SubgraphId) : Option (PoiCheckpoint δ) :=
  store.kasgraphPoi.selectLast fun row => row.subgraph = subgraph

def insertDetectedPattern (store : Store δ) (record : DetectedPatternRecord) : Store δ :=
  { store with kasgraphDetectedPattern := store.kasgraphDetectedPattern.upsert record }

/-- The committed rows of a subgraph under one of the hashes, highest score first. -/
def committedRowsFor (store : Store δ) (subgraph : SubgraphId) (blockHashes : List String) :
    List CommittedBlockRecord :=
  (store.kasgraphCommittedBlock.select fun row =>
    row.subgraph = subgraph && blockHashes.contains row.blockHash).insertionSort
      fun a b => b.daaScore ≤ a.daaScore

/-- One transaction: find the committed rows of the hashes, delete their
checkpoints by score and their other rows by hash, and append an audit row.
Answers the hashes removed. -/
def unwindCommittedBlocksForSubgraph (store : Store δ) (subgraph : SubgraphId)
    (blockHashes : List String) (reason : String) : List String × Store δ :=
  let rows := store.committedRowsFor subgraph blockHashes
  let removedHashes := rows.map (·.blockHash)
  let removedDaaScores := rows.map (·.daaScore)
  let atDaa := (removedDaaScores.head?).getD 0
  (removedHashes, { store with
    kasgraphPoi := store.kasgraphPoi.deleteWhere fun row =>
      row.subgraph = subgraph && removedDaaScores.contains row.blockDaaScore
    kasgraphRpcBlockAudit := store.kasgraphRpcBlockAudit.filter fun row =>
      !removedHashes.contains row.blockHash
    kasgraphCommittedBlock := store.kasgraphCommittedBlock.deleteWhere fun row =>
      row.subgraph = subgraph && removedHashes.contains row.blockHash
    kasgraphDetectedPattern := store.kasgraphDetectedPattern.deleteWhere fun row =>
      row.subgraph = subgraph && removedHashes.contains row.blockHash
    kasgraphReorgAudit := store.kasgraphReorgAudit ++
      [{ subgraph, atDaa, removedHashes,
         removedCount := Int32.ofNat removedHashes.length, reason }] })

/-! ## The tables of a subgraph's schema -/

def upsertEntityVersion (store : Store δ) (record : EntityVersionRecord) :
    Except StoreError Unit × Store δ :=
  store.onRelation record.subgraph "entity_versions" ()
    { store with entityVersions := store.entityVersions.upsert record }

/-- The latest version of every entity: the last row of its type and id. -/
def snapshotRows (store : Store δ) (subgraph : SubgraphId) : List EntityVersionRecord :=
  (store.entityVersions.select fun row => row.subgraph = subgraph).filter fun row =>
    !store.entityVersions.any fun later =>
      later.subgraph = subgraph && later.entityType == row.entityType &&
        later.entityId == row.entityId && decide (row.blockDaaScore < later.blockDaaScore)

def snapshotEntities (store : Store δ) (subgraph : SubgraphId) :
    Except StoreError (List EntityVersionRecord) × Store δ :=
  store.onRelation subgraph "entity_versions" (store.snapshotRows subgraph) store

def unwindEntityVersions (store : Store δ) (subgraph : SubgraphId) (fromDaa : Int64) :
    Except StoreError Unit × Store δ :=
  store.onRelation subgraph "entity_versions" ()
    { store with
      entityVersions := store.entityVersions.deleteWhere fun row =>
        row.subgraph = subgraph && decide (fromDaa ≤ row.blockDaaScore) }

def trackCovenantUtxo (store : Store δ) (record : CovenantUtxoRecord) :
    Except StoreError Unit × Store δ :=
  store.onRelation record.subgraph "covenant_utxos" ()
    { store with covenantUtxos := store.covenantUtxos.upsert record }

def lookupCovenantUtxo (store : Store δ) (subgraph : SubgraphId) (txHash : String)
    (outputIndex : Int32) : Except StoreError (Option CovenantUtxoRecord) × Store δ :=
  store.onRelation subgraph "covenant_utxos"
    (store.covenantUtxos.find? (subgraph.schemaName, txHash, outputIndex)) store

/-- The tracked outputs of one transaction, by output index. -/
def covenantUtxosCreatedByTx (store : Store δ) (subgraph : SubgraphId) (txHash : String) :
    Except StoreError (List CovenantUtxoRecord) × Store δ :=
  store.onRelation subgraph "covenant_utxos"
    (store.covenantUtxos.select fun row => row.subgraph = subgraph && row.txHash == txHash) store

def unwindCovenantUtxos (store : Store δ) (subgraph : SubgraphId) (fromDaa : Int64) :
    Except StoreError Unit × Store δ :=
  store.onRelation subgraph "covenant_utxos" ()
    { store with
      covenantUtxos := store.covenantUtxos.deleteWhere fun row =>
        row.subgraph = subgraph && decide (fromDaa ≤ row.blockDaaScore) }

def recordCovenantSpend (store : Store δ) (record : CovenantSpendRecord) :
    Except StoreError Unit × Store δ :=
  store.onRelation record.subgraph "covenant_spends" ()
    { store with covenantSpends := store.covenantSpends.upsert record }

/-- Whether a transaction has a tracked output under the covenant id. -/
def covenantLineageContinues (store : Store δ) (subgraph : SubgraphId)
    (spendingTxHash covenantId : String) : Except StoreError Bool × Store δ :=
  store.onRelation subgraph "covenant_utxos"
    (store.covenantUtxos.any fun row =>
      row.subgraph = subgraph && row.txHash == spendingTxHash &&
        row.covenantId == some covenantId) store

def unwindCovenantSpends (store : Store δ) (subgraph : SubgraphId) (fromDaa : Int64) :
    Except StoreError Unit × Store δ :=
  store.onRelation subgraph "covenant_spends" ()
    { store with
      covenantSpends := store.covenantSpends.deleteWhere fun row =>
        row.subgraph = subgraph && decide (fromDaa ≤ row.blockDaaScore) }

/-! ## Lineage -/

/-- Insert a head. A head that exists keeps its subgraph and genesis transaction. -/
def upsertCovenantLineageHead (store : Store δ) (head : CovenantLineageHead) :
    Except StoreError Unit × Store δ :=
  if head.lineageCount < 0 then
    (.error (.checkViolation "kasgraph_covenant_lineage_head"), store)
  else
    let stored := match store.kasgraphCovenantLineageHead.find? head.covenantId with
      | some existing =>
          { existing with
            currentUtxo := head.currentUtxo
            lastSeenDaa := head.lastSeenDaa
            lineageCount := head.lineageCount }
      | none => head
    (.ok (), { store with
      kasgraphCovenantLineageHead := store.kasgraphCovenantLineageHead.upsert stored })

def fetchCovenantLineageHead (store : Store δ) (covenantId : String) :
    Option CovenantLineageHead :=
  store.kasgraphCovenantLineageHead.find? covenantId

def covenantLineageRowExists (store : Store δ) (covenantId txHash : String)
    (outputIndex : Int32) : Bool :=
  store.kasgraphCovenantLineageRow.any fun row =>
    row.covenantId == covenantId && row.txHash == txHash && row.outputIndex == outputIndex

/-- A plain insert: the head must exist, and neither the sequence number nor the
output may be taken. -/
def insertCovenantLineageRow (store : Store δ) (row : CovenantLineageRow) :
    Except StoreError Unit × Store δ :=
  if (store.kasgraphCovenantLineageRow.find? row.key).isSome ||
      store.covenantLineageRowExists row.covenantId row.txHash row.outputIndex then
    (.error (.uniqueViolation "kasgraph_covenant_lineage_row"), store)
  else if (store.kasgraphCovenantLineageHead.find? row.covenantId).isNone then
    (.error (.foreignKeyViolation "kasgraph_covenant_lineage_row"), store)
  else
    (.ok (), { store with
      kasgraphCovenantLineageRow := store.kasgraphCovenantLineageRow.upsert row })

/-- The row of a covenant that a subgraph recorded with the highest `seq`. -/
def lastLineageRow (rows : Table CovenantLineageRow.key) (subgraph : SubgraphId)
    (covenantId : String) : Option CovenantLineageRow :=
  rows.selectLast fun row => row.subgraph = subgraph && row.covenantId == covenantId

/-- A head of the subgraph, re-pointed at its last surviving row. -/
def repointHead (rows : Table CovenantLineageRow.key) (subgraph : SubgraphId)
    (head : CovenantLineageHead) : CovenantLineageHead :=
  if head.subgraph = subgraph then
    match lastLineageRow rows subgraph head.covenantId with
    | some row =>
        { head with
          currentUtxo := row.txHash ++ ":" ++ toString row.outputIndex
          lastSeenDaa := row.daaScore
          lineageCount := row.seq + 1 }
    | none => head
  else
    head

theorem repointHead_key (rows : Table CovenantLineageRow.key) (subgraph : SubgraphId)
    (head : CovenantLineageHead) : (repointHead rows subgraph head).key = head.key := by
  unfold repointHead
  split
  · split <;> rfl
  · rfl

/-- One transaction: delete the subgraph's rows at or above the score, drop its
heads without a row, and re-point its other heads. -/
def unwindCovenantLineage (store : Store δ) (subgraph : SubgraphId) (fromDaa : Int64) :
    Except StoreError Unit × Store δ :=
  let rows := store.kasgraphCovenantLineageRow.deleteWhere fun row =>
    row.subgraph = subgraph && decide (fromDaa ≤ row.daaScore)
  let heads := store.kasgraphCovenantLineageHead.deleteWhere fun head =>
    head.subgraph = subgraph && !rows.any fun row => row.covenantId == head.covenantId
  let overflows := heads.any fun head =>
    head.subgraph = subgraph &&
      (lastLineageRow rows subgraph head.covenantId).any fun row => row.seq == Int32.maxValue
  if overflows then
    (.error .integerOutOfRange, store)
  else
    (.ok (), { store with
      kasgraphCovenantLineageRow := rows
      kasgraphCovenantLineageHead :=
        heads.updateRows (repointHead rows subgraph) (repointHead_key rows subgraph) })

end Store

end KasGraph
