import KasGraph.EffectProgram
import KasGraph.Ingestion
import KasGraph.MappingHost

set_option autoImplicit false

/-! The operations of the node on its backend: the statements of the store and
the publication on the stream. Each request names the context its error is
reported under. -/

namespace KasGraph

open EffectProgram
open Json (Value)

structure StreamEvent where
  blockDaaScore : UInt64
  blockHash : String
  kind : String
  payload : Value
  deriving DecidableEq

/-- The store and the events published on the stream. -/
structure Backend (δ : Type) where
  store : Store δ
  published : List StreamEvent

inductive NodeError where
  | store (context : String) (cause : StoreError)
  | poi (context : String) (cause : PoiError)
  | panic (cause : IngestionState.Panic)
  deriving DecidableEq

inductive NodeOp (δ : Type) where
  | insertRpcBlockAudit (audit : RpcBlockAuditRecord)
  | recordCommittedBlock (record : CommittedBlockRecord)
  | insertDetectedPattern (record : DetectedPatternRecord)
  | publish (event : StreamEvent)
  | insertPoiCheckpoint (checkpoint : PoiCheckpoint δ)
  | latestPoiForSubgraph (subgraph : SubgraphId)
  | upsertEntityVersion (record : EntityVersionRecord)
  | snapshotEntities (subgraph : SubgraphId)
  | trackCovenantUtxo (record : CovenantUtxoRecord)
  | lookupCovenantUtxo (subgraph : SubgraphId) (txHash : String) (outputIndex : Int32)
  | covenantUtxosCreatedByTx (subgraph : SubgraphId) (txHash : String)
  | covenantLineageContinues (subgraph : SubgraphId) (spendingTxHash covenantId : String)
  | recordCovenantSpend (record : CovenantSpendRecord)
  | covenantLineageRowExists (covenantId txHash : String) (outputIndex : Int32)
  | fetchCovenantLineageHead (covenantId : String)
  | upsertCovenantLineageHead (head : CovenantLineageHead)
  | insertCovenantLineageRow (row : CovenantLineageRow)
  | unwindCommittedBlocks (subgraph : SubgraphId) (blockHashes : List String) (reason : String)
  | unwindEntityVersions (subgraph : SubgraphId) (fromDaa : Int64)
  | unwindCovenantUtxos (subgraph : SubgraphId) (fromDaa : Int64)
  | unwindCovenantSpends (subgraph : SubgraphId) (fromDaa : Int64)
  | unwindCovenantLineage (subgraph : SubgraphId) (fromDaa : Int64)

namespace NodeOp

variable {δ : Type}

/-- The answer each operation gives. -/
@[reducible] def Reply : NodeOp δ → Type
  | insertRpcBlockAudit _ => Unit
  | recordCommittedBlock _ => Unit
  | insertDetectedPattern _ => Unit
  | publish _ => Unit
  | insertPoiCheckpoint _ => Unit
  | latestPoiForSubgraph _ => Option (PoiCheckpoint δ)
  | upsertEntityVersion _ => Unit
  | snapshotEntities _ => List EntityVersionRecord
  | trackCovenantUtxo _ => Unit
  | lookupCovenantUtxo .. => Option CovenantUtxoRecord
  | covenantUtxosCreatedByTx .. => List CovenantUtxoRecord
  | covenantLineageContinues .. => Bool
  | recordCovenantSpend _ => Unit
  | covenantLineageRowExists .. => Bool
  | fetchCovenantLineageHead _ => Option CovenantLineageHead
  | upsertCovenantLineageHead _ => Unit
  | insertCovenantLineageRow _ => Unit
  | unwindCommittedBlocks .. => List String
  | unwindEntityVersions .. => Unit
  | unwindCovenantUtxos .. => Unit
  | unwindCovenantSpends .. => Unit
  | unwindCovenantLineage .. => Unit

/-- The effect on the store; a publication has none. -/
def onStore (op : NodeOp δ) (store : Store δ) : Except StoreError op.Reply × Store δ :=
  match op with
  | insertRpcBlockAudit audit => (.ok (), store.insertRpcBlockAudit audit)
  | recordCommittedBlock record => (.ok (), store.recordCommittedBlock record)
  | insertDetectedPattern record => (.ok (), store.insertDetectedPattern record)
  | publish _ => (.ok (), store)
  | insertPoiCheckpoint checkpoint => (.ok (), store.insertPoiCheckpoint checkpoint)
  | latestPoiForSubgraph subgraph => (.ok (store.latestPoiForSubgraph subgraph), store)
  | upsertEntityVersion record => store.upsertEntityVersion record
  | snapshotEntities subgraph => store.snapshotEntities subgraph
  | trackCovenantUtxo record => store.trackCovenantUtxo record
  | lookupCovenantUtxo subgraph txHash outputIndex =>
      store.lookupCovenantUtxo subgraph txHash outputIndex
  | covenantUtxosCreatedByTx subgraph txHash => store.covenantUtxosCreatedByTx subgraph txHash
  | covenantLineageContinues subgraph spendingTxHash covenantId =>
      store.covenantLineageContinues subgraph spendingTxHash covenantId
  | recordCovenantSpend record => store.recordCovenantSpend record
  | covenantLineageRowExists covenantId txHash outputIndex =>
      (.ok (store.covenantLineageRowExists covenantId txHash outputIndex), store)
  | fetchCovenantLineageHead covenantId => (.ok (store.fetchCovenantLineageHead covenantId), store)
  | upsertCovenantLineageHead head => store.upsertCovenantLineageHead head
  | insertCovenantLineageRow row => store.insertCovenantLineageRow row
  | unwindCommittedBlocks subgraph blockHashes reason =>
      let (removed, after) := store.unwindCommittedBlocksForSubgraph subgraph blockHashes reason
      (.ok removed, after)
  | unwindEntityVersions subgraph fromDaa => store.unwindEntityVersions subgraph fromDaa
  | unwindCovenantUtxos subgraph fromDaa => store.unwindCovenantUtxos subgraph fromDaa
  | unwindCovenantSpends subgraph fromDaa => store.unwindCovenantSpends subgraph fromDaa
  | unwindCovenantLineage subgraph fromDaa => store.unwindCovenantLineage subgraph fromDaa

/-- The event a publication adds to the stream. -/
def event : NodeOp δ → List StreamEvent
  | publish event => [event]
  | _ => []

end NodeOp

/-- An operation and the context its error carries. -/
structure Request (δ : Type) where
  context : String
  op : NodeOp δ

abbrev signature (δ : Type) : Signature where
  Op := Request δ
  Reply request := request.op.Reply

abbrev NodeProgram (δ α : Type) := Program (signature δ) NodeError α

variable {δ α : Type}

/-- Run an operation, its error under a context. -/
def perform (context : String) (op : NodeOp δ) : NodeProgram δ op.Reply :=
  @Program.perform (signature δ) NodeError ⟨context, op⟩

def exec : Semantics (signature δ) NodeError (Backend δ) := fun request backend =>
  let (answer, store) := request.op.onStore backend.store
  (answer.mapError (NodeError.store request.context),
    { store, published := backend.published ++ request.op.event })

theorem run_request (context : String) (op : NodeOp δ) (backend : Backend δ) :
    run exec (perform context op) backend =
      ((op.onStore backend.store).1.mapError (NodeError.store context),
        { store := (op.onStore backend.store).2
          published := backend.published ++ op.event }) :=
  run_perform exec _ backend

theorem run_request_ok_iff (context : String) (op : NodeOp δ) (backend after : Backend δ)
    (reply : op.Reply) :
    run exec (perform context op) backend = (.ok reply, after) ↔
      (op.onStore backend.store).1 = .ok reply ∧
        after = { store := (op.onStore backend.store).2
                  published := backend.published ++ op.event } := by
  rw [run_request, Prod.mk.injEq, eq_comm (a := after)]
  cases answered : (op.onStore backend.store).1 with
  | error reason => simp [Except.mapError]
  | ok answer => simp [Except.mapError]

theorem trace_request (context : String) (op : NodeOp δ) (backend : Backend δ) :
    trace exec (perform context op) backend = [⟨context, op⟩] :=
  trace_perform exec _ backend

end KasGraph
