import KasGraph.Blocks
import KasGraph.Store
import KasGraph.Poi

set_option autoImplicit false

/-! From detector hits to entity versions: the descriptor names the handler of an
event, the runtime runs it on a snapshot, and its writes become versioned records. -/

namespace KasGraph

open Json (Value FloatText)

/-! ## The build descriptor -/

def eventCovenantLocked : String := "CovenantLocked"

def eventCovenantSpent : String := "CovenantSpent"

structure DescriptorHandler where
  event : String
  handler : String
  deriving DecidableEq, Repr

structure DescriptorDataSource where
  name : String
  kind : String
  patterns : List String
  collection : Option String
  addresses : List String
  handlers : List DescriptorHandler
  deriving DecidableEq, Repr

structure BuildDescriptor where
  name : String
  wasm : String
  dataSources : List DescriptorDataSource
  deriving DecidableEq, Repr

/-- The handler of the first data source that selects the kind and binds the event. -/
def BuildDescriptor.resolveHandler (descriptor : BuildDescriptor) (detectorKind event : String) :
    Option String :=
  descriptor.dataSources.findSome? fun ds =>
    if ds.patterns.any (· == detectorKind) then
      (ds.handlers.find? (·.event == event)).map (·.handler)
    else
      none

/-! ## The mapping runtime -/

structure MappingEvent where
  blockDaaScore : UInt64
  blockHash : String
  payload : Value
  handler : String
  deriving DecidableEq

structure EntityOp where
  entity : String
  id : String
  data : Value
  deriving DecidableEq

inductive MappingError where
  | handlerTrap (handler message : String)
  | fuelExhausted (handler : String)
  | nondeterministic (message : String)
  | abiMismatch (message : String)
  | decodePayload (message : String)
  | engine (message : String)
  deriving DecidableEq, Repr

/-- What a handler wrote, in order. -/
structure DispatchOutcome where
  entityOps : List EntityOp
  deriving DecidableEq

/-- The committed entities a handler may read, by type and id. -/
abbrev EntitySnapshot := OrderedMap (String × String) Value

/-- A compiled mapping. A dispatch runs in a fresh instance under a fuel limit,
so its outcome depends on the event and the snapshot alone. -/
abbrev MappingRuntime := MappingEvent → EntitySnapshot → Except MappingError DispatchOutcome

structure LoadedMapping where
  subgraph : SubgraphId
  descriptor : BuildDescriptor
  runtime : MappingRuntime

/-! ## Events and records -/

/-- The payload of a hit, with its covenant id when it carries one. -/
def lockedPayload (hit : DetectedPattern) : Value :=
  match hit.covenantId with
  | none => hit.payload
  | some covenantId =>
      match hit.payload with
      | .object fields => .object (Value.insertField "covenantId" (.string covenantId) fields)
      | _ => .ofFields [("covenantId", .string covenantId)]

def lockedMappingEvent (hit : DetectedPattern) (blockDaaScore : UInt64) (blockHash handler : String) :
    MappingEvent :=
  { blockDaaScore, blockHash, payload := lockedPayload hit, handler }

/-- The records of a handler's writes, stamped with the committed score. -/
def entityVersionsOf (outcome : DispatchOutcome) (subgraph : SubgraphId) (blockDaaScore : Int64) :
    List EntityVersionRecord :=
  outcome.entityOps.map fun op =>
    { subgraph, entityType := op.entity, entityId := op.id, blockDaaScore, payload := op.data }

def dispatchLockedHit (runtime : MappingRuntime) (hit : DetectedPattern) (blockDaaScore : UInt64)
    (blockHash handler : String) (subgraph : SubgraphId) (snapshot : EntitySnapshot) :
    Except MappingError (List EntityVersionRecord) := do
  let outcome ← runtime (lockedMappingEvent hit blockDaaScore blockHash handler) snapshot
  return entityVersionsOf outcome subgraph blockDaaScore.toInt64

structure CovenantSpend where
  covenantId : String
  operation : String
  spentValueSompi : String
  successorCovenantId : Option String
  deriving DecidableEq, Repr

def CovenantSpend.toJson (spend : CovenantSpend) : Value :=
  .ofFields [
    ("covenantId", .string spend.covenantId),
    ("operation", .string spend.operation),
    ("spentValueSompi", .string spend.spentValueSompi),
    ("successorCovenantId", (spend.successorCovenantId.map Value.string).getD .null)]

def spendMappingEvent (spend : CovenantSpend) (priorState : Value) (blockDaaScore : UInt64)
    (blockHash handler : String) : MappingEvent :=
  { blockDaaScore, blockHash, handler
    payload := .ofFields [("spend", spend.toJson), ("state", priorState)] }

def dispatchSpendHit (runtime : MappingRuntime) (spend : CovenantSpend) (priorState : Value)
    (blockDaaScore : UInt64) (blockHash handler : String) (subgraph : SubgraphId)
    (snapshot : EntitySnapshot) : Except MappingError (List EntityVersionRecord) := do
  let outcome ← runtime (spendMappingEvent spend priorState blockDaaScore blockHash handler) snapshot
  return entityVersionsOf outcome subgraph blockDaaScore.toInt64

namespace LoadedMapping

/-- The records of one hit: none without a handler, and none when it fails. -/
def dispatchCommittedHit (mapping : LoadedMapping) (blockDaaScore : UInt64) (blockHash : String)
    (snapshot : EntitySnapshot) (hit : DetectedPattern) : List EntityVersionRecord :=
  match mapping.descriptor.resolveHandler hit.kind.debug eventCovenantLocked with
  | none => []
  | some handler =>
      match dispatchLockedHit mapping.runtime hit blockDaaScore blockHash handler mapping.subgraph
          snapshot with
      | .ok records => records
      | .error _ => []

/-- Dispatch every hit of a block, all on one snapshot. -/
def dispatchCommittedHits (mapping : LoadedMapping) (blockDaaScore : UInt64) (blockHash : String)
    (hits : List DetectedPattern) (snapshot : EntitySnapshot) : List EntityVersionRecord :=
  hits.flatMap (mapping.dispatchCommittedHit blockDaaScore blockHash snapshot)

end LoadedMapping

/-- The canonical bytes of the records a block dispatched. -/
def canonicalBytesForEntities (floats : FloatText) (records : List EntityVersionRecord) :
    List UInt8 :=
  canonicalBlockBytes floats (records.map fun r =>
    { entityType := r.entityType, entityId := r.entityId, state := r.payload })

theorem entityVersionsOf_stamped {outcome : DispatchOutcome} {subgraph : SubgraphId}
    {blockDaaScore : Int64} {record : EntityVersionRecord}
    (emitted : record ∈ entityVersionsOf outcome subgraph blockDaaScore) :
    record.subgraph = subgraph ∧ record.blockDaaScore = blockDaaScore := by
  obtain ⟨op, -, rfl⟩ := List.mem_map.mp emitted
  exact ⟨rfl, rfl⟩

/-- Every record a block's hits dispatch carries the mapping's subgraph and the
block's score. -/
theorem dispatchCommittedHits_stamped {mapping : LoadedMapping} {blockDaaScore : UInt64}
    {blockHash : String} {hits : List DetectedPattern} {snapshot : EntitySnapshot}
    {record : EntityVersionRecord}
    (emitted : record ∈
      mapping.dispatchCommittedHits blockDaaScore blockHash hits snapshot) :
    record.subgraph = mapping.subgraph ∧ record.blockDaaScore = blockDaaScore.toInt64 := by
  obtain ⟨hit, -, fromHit⟩ := List.mem_flatMap.mp emitted
  unfold LoadedMapping.dispatchCommittedHit at fromHit
  split at fromHit
  · cases fromHit
  · split at fromHit
    · rename_i records dispatched
      simp only [dispatchLockedHit, bind, Except.bind, pure, Except.pure] at dispatched
      split at dispatched
      · cases dispatched
      · rw [← Except.ok.inj dispatched] at fromHit
        exact entityVersionsOf_stamped fromHit
    · cases fromHit

theorem dispatchSpendHit_stamped {runtime : MappingRuntime} {spend : CovenantSpend}
    {priorState : Value} {blockDaaScore : UInt64} {blockHash handler : String}
    {subgraph : SubgraphId} {snapshot : EntitySnapshot} {records : List EntityVersionRecord}
    (dispatched : dispatchSpendHit runtime spend priorState blockDaaScore blockHash handler subgraph
      snapshot = .ok records) {record : EntityVersionRecord} (emitted : record ∈ records) :
    record.subgraph = subgraph ∧ record.blockDaaScore = blockDaaScore.toInt64 := by
  simp only [dispatchSpendHit, bind, Except.bind, pure, Except.pure] at dispatched
  split at dispatched
  · cases dispatched
  · rw [← Except.ok.inj dispatched] at emitted
    exact entityVersionsOf_stamped emitted

end KasGraph
