import KasGraph.NodeRun

set_option autoImplicit false

/-! What the programs of the node can write. Away from the unwinds every
operation upserts at most one row of each table, so a table after a run is the
table before it with the rows of the trace replayed. -/

namespace KasGraph

open EffectProgram

variable {δ α : Type}

namespace NodeOp

/-- The operations that remove rows. -/
def unwinds : NodeOp δ → Bool
  | unwindCommittedBlocks .. => true
  | unwindEntityVersions .. => true
  | unwindCovenantUtxos .. => true
  | unwindCovenantSpends .. => true
  | unwindCovenantLineage .. => true
  | _ => false

def poiRow : NodeOp δ → Option (PoiCheckpoint δ)
  | insertPoiCheckpoint row => some row
  | _ => none

def committedRow : NodeOp δ → Option CommittedBlockRecord
  | recordCommittedBlock row => some row
  | _ => none

def detectedRow : NodeOp δ → Option DetectedPatternRecord
  | insertDetectedPattern row => some row
  | _ => none

def entityRow : NodeOp δ → Option EntityVersionRecord
  | upsertEntityVersion row => some row
  | _ => none

def utxoRow : NodeOp δ → Option CovenantUtxoRecord
  | trackCovenantUtxo row => some row
  | _ => none

def spendRow : NodeOp δ → Option CovenantSpendRecord
  | recordCovenantSpend row => some row
  | _ => none

def lineageRow : NodeOp δ → Option CovenantLineageRow
  | insertCovenantLineageRow row => some row
  | _ => none

end NodeOp

/-- A statement that succeeded returned its result and left its store. -/
theorem Store.onRelation_ok {β : Type} {store after : Store δ} {subgraph : SubgraphId}
    {table : String} {result answer : β}
    (ok : (store.onRelation subgraph table result after).1 = .ok answer) :
    (subgraph.schemaName, table) ∈ store.relations ∧ result = answer ∧
      (store.onRelation subgraph table result after).2 = after := by
  unfold onRelation at ok ⊢
  split
  · rename_i present
    rw [if_pos present] at ok
    exact ⟨present, Except.ok.inj ok, rfl⟩
  · rename_i missing
    rw [if_neg missing] at ok
    cases ok

/-- The head an upsert stores: one that exists keeps its subgraph and genesis. -/
def Store.mergedHead (store : Store δ) (head : CovenantLineageHead) : CovenantLineageHead :=
  match store.kasgraphCovenantLineageHead.find? head.covenantId with
  | some existing =>
      { existing with
        currentUtxo := head.currentUtxo
        lastSeenDaa := head.lastSeenDaa
        lineageCount := head.lineageCount }
  | none => head

/-- The store an operation leaves when it succeeds. -/
def NodeOp.effect (op : NodeOp δ) (store : Store δ) : Store δ :=
  match op with
  | upsertEntityVersion row => { store with entityVersions := store.entityVersions.upsert row }
  | trackCovenantUtxo row => { store with covenantUtxos := store.covenantUtxos.upsert row }
  | recordCovenantSpend row => { store with covenantSpends := store.covenantSpends.upsert row }
  | upsertCovenantLineageHead head =>
      { store with
        kasgraphCovenantLineageHead :=
          store.kasgraphCovenantLineageHead.upsert (store.mergedHead head) }
  | insertCovenantLineageRow row =>
      { store with kasgraphCovenantLineageRow := store.kasgraphCovenantLineageRow.upsert row }
  | insertRpcBlockAudit audit => store.insertRpcBlockAudit audit
  | recordCommittedBlock record => store.recordCommittedBlock record
  | insertDetectedPattern record => store.insertDetectedPattern record
  | insertPoiCheckpoint checkpoint => store.insertPoiCheckpoint checkpoint
  | unwindCommittedBlocks .. | unwindEntityVersions .. | unwindCovenantUtxos ..
  | unwindCovenantSpends .. | unwindCovenantLineage .. => (op.onStore store).2
  | publish _ | latestPoiForSubgraph _ | snapshotEntities _ | lookupCovenantUtxo ..
  | covenantUtxosCreatedByTx .. | covenantLineageContinues .. | covenantLineageRowExists ..
  | fetchCovenantLineageHead _ => store

theorem NodeOp.onStore_ok {op : NodeOp δ} {store : Store δ} {reply : op.Reply}
    (ok : (op.onStore store).1 = .ok reply) : (op.onStore store).2 = op.effect store := by
  cases op with
  | upsertEntityVersion row => exact (Store.onRelation_ok ok).2.2
  | trackCovenantUtxo row => exact (Store.onRelation_ok ok).2.2
  | recordCovenantSpend row => exact (Store.onRelation_ok ok).2.2
  | snapshotEntities subgraph => exact (Store.onRelation_ok ok).2.2
  | lookupCovenantUtxo subgraph txHash outputIndex => exact (Store.onRelation_ok ok).2.2
  | covenantUtxosCreatedByTx subgraph txHash => exact (Store.onRelation_ok ok).2.2
  | covenantLineageContinues subgraph txHash covenantId => exact (Store.onRelation_ok ok).2.2
  | upsertCovenantLineageHead head =>
      simp only [onStore, Store.upsertCovenantLineageHead] at ok ⊢
      split at ok
      · cases ok
      · rename_i counted
        rw [if_neg counted]
        rfl
  | insertCovenantLineageRow row =>
      simp only [onStore, Store.insertCovenantLineageRow] at ok ⊢
      split at ok
      · cases ok
      · rename_i unique
        split at ok
        · cases ok
        · rename_i headed
          rw [if_neg unique, if_neg headed]
          rfl
  | insertRpcBlockAudit _ => rfl
  | recordCommittedBlock _ => rfl
  | insertDetectedPattern _ => rfl
  | publish _ => rfl
  | insertPoiCheckpoint _ => rfl
  | latestPoiForSubgraph _ => rfl
  | covenantLineageRowExists _ _ _ => rfl
  | fetchCovenantLineageHead _ => rfl
  | unwindCommittedBlocks _ _ _ => rfl
  | unwindEntityVersions _ _ => rfl
  | unwindCovenantUtxos _ _ => rfl
  | unwindCovenantSpends _ _ => rfl
  | unwindCovenantLineage _ _ => rfl

/-- A lineage row is inserted under a free key. -/
theorem NodeOp.insertLineage_free {op : NodeOp δ} {store : Store δ} {reply : op.Reply}
    {row : CovenantLineageRow} (inserted : op.lineageRow = some row)
    (ok : (op.onStore store).1 = .ok reply) :
    store.kasgraphCovenantLineageRow.find? row.key = none := by
  cases op <;> cases inserted
  simp only [onStore, Store.insertCovenantLineageRow] at ok
  split at ok
  · cases ok
  · rename_i unique
    simp only [Bool.or_eq_true, not_or, Option.not_isSome_iff_eq_none] at unique
    exact unique.1

/-- The request removes no row. -/
def Request.Appends (request : Request δ) : Prop := request.op.unwinds = false

/-- A table of the store and the row each operation upserts in it. -/
structure TableView (δ : Type) {ρ κ : Type} [Ord κ] [Std.TransOrd κ] [Std.LawfulEqOrd κ]
    (key : ρ → κ) where
  table : Store δ → Table key
  row : NodeOp δ → Option ρ
  upserts : ∀ (op : NodeOp δ) (store : Store δ), op.unwinds = false →
    table (op.effect store) = (table store).replay (row op).toList

theorem exec_ok {request : Request δ} {backend after : Backend δ}
    {reply : (signature δ).Reply request} (ok : exec request backend = (.ok reply, after)) :
    (request.op.onStore backend.store).1 = .ok reply ∧
      after.store = (request.op.onStore backend.store).2 := by
  simp only [exec, Prod.mk.injEq] at ok
  obtain ⟨answered, rfl⟩ := ok
  refine ⟨?_, rfl⟩
  cases answer : (request.op.onStore backend.store).1 with
  | error reason => simp [answer, Except.mapError] at answered
  | ok value =>
      rw [answer] at answered
      exact congrArg Except.ok (Except.ok.inj answered)

namespace TableView

variable {ρ κ : Type} [Ord κ] [Std.TransOrd κ] [Std.LawfulEqOrd κ] {key : ρ → κ}
  (view : TableView δ key)

/-- The rows that requests upsert, in order. -/
def rows (requests : List (Request δ)) : List ρ := requests.filterMap (view.row ·.op)

theorem foldl_replay (requests : List (Request δ)) (table : Table key) :
    requests.foldl (fun seen request => seen.replay (view.row request.op).toList) table =
      table.replay (view.rows requests) := by
  induction requests generalizing table with
  | nil => rfl
  | cons request requests ih =>
      rw [List.foldl_cons, ih, rows, rows, List.filterMap_cons]
      cases view.row request.op <;> rfl

theorem run_replay {post : α → Prop} {program : NodeProgram δ α}
    (confined : Within Request.Appends post program)
    {before after : Backend δ} {value : α} (success : run exec program before = (.ok value, after)) :
    view.table after.store =
      (view.table before.store).replay (view.rows (trace exec program before)) := by
  have folded := run_view_eq_foldl exec confined (fun backend => view.table backend.store)
    (fun request seen => seen.replay (view.row request.op).toList)
    (fun request appends backend reply final ok => by
      obtain ⟨answered, stored⟩ := exec_ok ok
      rw [stored, NodeOp.onStore_ok answered]
      exact view.upserts request.op backend.store appends) success
  exact folded.trans (view.foldl_replay _ _)

end TableView

def poiView : TableView δ (@PoiCheckpoint.key δ) where
  table := Store.kasgraphPoi
  row := NodeOp.poiRow
  upserts := by
    intro op store appends
    cases op <;> first | rfl | cases appends

def committedView : TableView δ CommittedBlockRecord.key where
  table := Store.kasgraphCommittedBlock
  row := NodeOp.committedRow
  upserts := by
    intro op store appends
    cases op <;> first | rfl | cases appends

def detectedView : TableView δ DetectedPatternRecord.key where
  table := Store.kasgraphDetectedPattern
  row := NodeOp.detectedRow
  upserts := by
    intro op store appends
    cases op <;> first | rfl | cases appends

def entityView : TableView δ EntityVersionRecord.key where
  table := Store.entityVersions
  row := NodeOp.entityRow
  upserts := by
    intro op store appends
    cases op <;> first | rfl | cases appends

def utxoView : TableView δ CovenantUtxoRecord.key where
  table := Store.covenantUtxos
  row := NodeOp.utxoRow
  upserts := by
    intro op store appends
    cases op <;> first | rfl | cases appends

def spendView : TableView δ CovenantSpendRecord.key where
  table := Store.covenantSpends
  row := NodeOp.spendRow
  upserts := by
    intro op store appends
    cases op <;> first | rfl | cases appends

def lineageView : TableView δ CovenantLineageRow.key where
  table := Store.kasgraphCovenantLineageRow
  row := NodeOp.lineageRow
  upserts := by
    intro op store appends
    cases op <;> first | rfl | cases appends

/-! ## The footprint of a block -/

/-- What a request made while a block is persisted may be: its rows carry the
subgraph and the block, and only a mapping gives it rows of its own. -/
def Stamped (subgraph : SubgraphId) (mapping : Option LoadedMapping) (block : BootstrapBlock)
    (request : Request δ) : Prop :=
  match request.op with
  | .recordCommittedBlock row => row = committedRecordOf subgraph block
  | .insertDetectedPattern row =>
      row.subgraph = subgraph ∧ row.blockHash = block.hash ∧ row.blockDaaScore = block.daaScore
  | .upsertEntityVersion row =>
      mapping.isSome ∧ row.subgraph = subgraph ∧ row.blockDaaScore = block.daaScore
  | .trackCovenantUtxo row =>
      mapping.isSome ∧ row.subgraph = subgraph ∧ row.blockDaaScore = block.daaScore ∧
        ∃ hit ∈ block.detectorHits,
          row.key = (subgraph.schemaName, hit.txHash, hit.outputIndex.toInt32)
  | .recordCovenantSpend row =>
      mapping.isSome ∧ row.subgraph = subgraph ∧ row.blockDaaScore = block.daaScore ∧
        ∃ input ∈ block.inputs, row.key = (subgraph.schemaName, input.spendingTxHash,
          input.previousTxHash, input.previousOutputIndex.toInt32)
  | .upsertCovenantLineageHead head => mapping.isSome ∧ head.subgraph = subgraph
  | .insertCovenantLineageRow row =>
      mapping.isSome ∧ row.subgraph = subgraph ∧ row.daaScore = block.daaScore
  | .insertRpcBlockAudit _ | .publish _ | .snapshotEntities _ | .lookupCovenantUtxo ..
  | .covenantUtxosCreatedByTx .. | .covenantLineageContinues .. | .covenantLineageRowExists ..
  | .fetchCovenantLineageHead _ => True
  | .insertPoiCheckpoint _ | .latestPoiForSubgraph _ | .unwindCommittedBlocks ..
  | .unwindEntityVersions .. | .unwindCovenantUtxos .. | .unwindCovenantSpends ..
  | .unwindCovenantLineage .. => False

theorem Stamped.appends {subgraph : SubgraphId} {mapping : Option LoadedMapping}
    {block : BootstrapBlock} {request : Request δ}
    (stamped : Stamped subgraph mapping block request) : request.Appends := by
  obtain ⟨context, op⟩ := request
  cases op <;> first | rfl | exact stamped.elim

section Blocks

variable {subgraph : SubgraphId} {mapping : Option LoadedMapping} {block : BootstrapBlock}

/-- The requests made after the block itself is recorded. -/
def Inner (subgraph : SubgraphId) (mapping : Option LoadedMapping) (block : BootstrapBlock)
    (request : Request δ) : Prop :=
  Stamped subgraph mapping block request ∧ request.op.committedRow = none

theorem request_within {context : String} {op : NodeOp δ}
    (stamped : Stamped subgraph mapping block ⟨context, op⟩) (plain : op.committedRow = none) :
    Within (Inner subgraph mapping block) (fun _ => True) (perform context op) :=
  ⟨⟨stamped, plain⟩, fun _ => trivial⟩

theorem classifyLineage_within (blake2b : List UInt8 → List UInt8) (hit : DetectedPattern)
    (inputs : List IngestedTransactionInput) :
    Within (Inner subgraph mapping block) (fun _ => True)
      (classifyLineage (δ := δ) blake2b subgraph hit inputs) := by
  unfold classifyLineage
  apply Within.bind (Within.findSomeM? ?_)
  · intro inherited _
    exact Within.pure trivial
  · intro input _
    split
    · exact Within.pure trivial
    · apply Within.bind (request_within (by exact trivial) rfl)
      intro prev _
      exact Within.pure trivial

theorem persistLineage_within (floats : Json.FloatText) (hit : DetectedPattern)
    (lineage : LineageClass) (mapped : mapping.isSome) :
    Within (Inner subgraph mapping block) (fun _ => True)
      (persistLineage (δ := δ) floats subgraph hit lineage block.daaScore) := by
  unfold persistLineage
  apply Within.bind (request_within (by exact trivial) rfl)
  intro recorded _
  split
  · exact Within.pure trivial
  · apply Within.bind (request_within (by exact trivial) rfl)
    intro prior _
    apply Within.bind (request_within (by exact ⟨mapped, rfl⟩) rfl)
    intro _ _
    exact request_within (by exact ⟨mapped, rfl, rfl⟩) rfl

theorem publishHitToStream_within (stream : Bool) (hit : DetectedPattern) :
    Within (Inner subgraph mapping block) (fun _ => True)
      (publishHitToStream (δ := δ) stream block hit) := by
  unfold publishHitToStream
  split
  · exact request_within (by exact trivial) rfl
  · exact Within.pure trivial

theorem persistHit_within (indexer : Indexer δ) {hit : DetectedPattern}
    (member : hit ∈ block.detectorHits) :
    Within (Inner subgraph mapping block) (fun _ => True)
      (persistHit indexer subgraph mapping block hit) := by
  cases mapping with
  | none =>
      apply Within.bind (request_within (by exact ⟨rfl, rfl, rfl⟩) rfl)
      intro _ _
      exact publishHitToStream_within _ hit
  | some loaded =>
      apply Within.bind (classifyLineage_within _ hit _)
      intro lineage _
      apply Within.bind (request_within (by exact ⟨rfl, rfl, rfl⟩) rfl)
      intro _ _
      apply Within.bind (publishHitToStream_within _ hit)
      intro _ _
      apply Within.bind (request_within (by exact ⟨rfl, rfl, rfl, hit, member, rfl⟩) rfl)
      intro _ _
      exact persistLineage_within _ hit lineage rfl

theorem loadEntitySnapshot_within :
    Within (Inner subgraph mapping block) (fun _ => True)
      (loadEntitySnapshot (δ := δ) subgraph) := by
  apply Within.bind (request_within (by exact trivial) rfl)
  intro rows _
  exact Within.pure trivial

theorem upsertEach_within (context : String) {records : List EntityVersionRecord}
    (mapped : mapping.isSome) (stamped : ∀ record ∈ records,
      record.subgraph = subgraph ∧ record.blockDaaScore = block.daaScore) :
    Within (Inner subgraph mapping block) (fun _ => True)
      (forM records fun record => perform (δ := δ) context (.upsertEntityVersion record)) := by
  apply Within.forM
  intro record member
  exact request_within (by exact ⟨mapped, stamped record member⟩) rfl

theorem persistHits_within (indexer : Indexer δ)
    (owned : ∀ loaded, mapping = some loaded → loaded.subgraph = subgraph) :
    Within (Inner subgraph mapping block)
      (fun dispatched => ∀ record ∈ dispatched,
        record.subgraph = subgraph ∧ record.blockDaaScore = block.daaScore)
      (persistHits indexer subgraph mapping block) := by
  unfold persistHits
  split
  · exact Within.pure nofun
  · apply Within.bind (Within.forM fun hit member => persistHit_within indexer member)
    intro _ _
    cases mapping with
    | none => exact Within.pure nofun
    | some loaded =>
        apply Within.bind loadEntitySnapshot_within
        intro snapshot _
        have stamped : ∀ record ∈ loaded.dispatchCommittedHits block.daaScore.toUInt64 block.hash
            block.detectorHits snapshot,
            record.subgraph = subgraph ∧ record.blockDaaScore = block.daaScore := by
          intro record member
          have carried := dispatchCommittedHits_stamped member
          rw [owned loaded rfl, Int64.toInt64_toUInt64] at carried
          exact carried
        apply Within.bind (upsertEach_within _ rfl stamped)
        intro _ _
        exact Within.pure stamped

/-- The grouped pairs hold inputs of the block, each under its transaction. -/
def ConsumedByTx.Of (inputs : List IngestedTransactionInput) (consumed : ConsumedByTx) : Prop :=
  ∀ (spendingTx : String) (pairs : List (IngestedTransactionInput × CovenantUtxoRecord)),
    consumed[spendingTx]? = some pairs →
      ∀ pair ∈ pairs, pair.1 ∈ inputs ∧ pair.1.spendingTxHash = spendingTx

theorem ConsumedByTx.Of.push {inputs : List IngestedTransactionInput} {consumed : ConsumedByTx}
    (grouped : consumed.Of inputs) {input : IngestedTransactionInput} (member : input ∈ inputs)
    (spent : CovenantUtxoRecord) : (consumed.push input spent).Of inputs := by
  intro spendingTx pairs present pair held
  unfold ConsumedByTx.push at present
  by_cases here : input.spendingTxHash = spendingTx
  · rw [← here, OrderedMap.get_insert_self] at present
    rw [← Option.some.inj present] at held
    rcases List.mem_append.mp held with before | last
    · cases old : consumed[input.spendingTxHash]? with
      | none => simp [old] at before
      | some earlier =>
          rw [old] at before
          rw [← here]
          exact grouped input.spendingTxHash earlier old pair before
    · rw [List.mem_singleton.mp last]
      exact ⟨member, here⟩
  · rw [OrderedMap.get_insert_of_ne _ _ here] at present
    exact grouped spendingTx pairs present pair held

theorem consumedByTx_within (inputs : List IngestedTransactionInput) :
    Within (Inner subgraph mapping block) (ConsumedByTx.Of inputs)
      (consumedByTx (δ := δ) subgraph inputs) := by
  apply Within.foldlM
  · intro input member consumed grouped
    apply Within.bind (request_within (by exact trivial) rfl)
    intro spent _
    cases spent with
    | none => exact Within.pure grouped
    | some record => exact Within.pure (grouped.push member record)
  · intro spendingTx pairs present
    simp at present

theorem spendOperation_within (spendingTx : String)
    (consumed : List (IngestedTransactionInput × CovenantUtxoRecord)) :
    Within (Inner subgraph mapping block) (fun _ => True)
      (spendOperation (δ := δ) subgraph spendingTx consumed) := by
  unfold spendOperation
  split
  · apply Within.bind (request_within (by exact trivial) rfl)
    intro created _
    exact Within.pure trivial
  · exact Within.pure trivial

theorem successorCovenantId_within (spendingTx : String) (spent : CovenantUtxoRecord) :
    Within (Inner subgraph mapping block) (fun _ => True)
      (successorCovenantId (δ := δ) subgraph spendingTx spent) := by
  unfold successorCovenantId
  split
  · exact Within.pure trivial
  · apply Within.bind (request_within (by exact trivial) rfl)
    intro continues _
    exact Within.pure trivial

theorem spendRecords_stamped {loaded : LoadedMapping} {operation successor : Option String}
    {spent : CovenantUtxoRecord} {snapshot : EntitySnapshot} {record : EntityVersionRecord}
    (emitted : record ∈ spendRecords loaded subgraph block operation spent successor snapshot) :
    record.subgraph = subgraph ∧ record.blockDaaScore = block.daaScore := by
  unfold spendRecords at emitted
  split at emitted
  · split at emitted
    · cases emitted
    · simp only at emitted
      split at emitted
      · rename_i records dispatched
        have carried := dispatchSpendHit_stamped dispatched emitted
        rw [Int64.toInt64_toUInt64] at carried
        exact carried
      · cases emitted
  · cases emitted

theorem persistSpend_within {loaded : LoadedMapping} (mapped : mapping.isSome)
    (spendingTx : String) (operation : Option String) (snapshot : EntitySnapshot)
    {pair : IngestedTransactionInput × CovenantUtxoRecord} (member : pair.1 ∈ block.inputs) :
    Within (Inner subgraph mapping block) (fun _ => True)
      (persistSpend (δ := δ) loaded subgraph block spendingTx operation snapshot pair) := by
  apply Within.bind (successorCovenantId_within spendingTx pair.2)
  intro successor _
  apply Within.bind (request_within (by exact ⟨mapped, rfl, rfl, pair.1, member, rfl⟩) rfl)
  intro _ _
  exact upsertEach_within _ mapped fun record emitted => spendRecords_stamped emitted

theorem persistSpends_within :
    Within (Inner subgraph mapping block) (fun _ => True)
      (persistSpends (δ := δ) subgraph mapping block) := by
  cases mapping with
  | none => exact Within.pure trivial
  | some loaded =>
      simp only [persistSpends]
      split
      · exact Within.pure trivial
      · apply Within.bind (consumedByTx_within block.inputs)
        intro consumed grouped
        apply Within.bind loadEntitySnapshot_within
        intro snapshot _
        apply Within.forM
        intro entry present
        apply Within.bind (spendOperation_within entry.1 entry.2)
        intro operation _
        apply Within.forM
        intro pair held
        have listed := (OrderedMap.mem_toList consumed entry.1 entry.2).mp present
        exact persistSpend_within rfl entry.1 operation snapshot
          (grouped entry.1 entry.2 listed pair held).1

/-- What follows the audit row and the committed row of a block. -/
def persistInner (indexer : Indexer δ) (subgraph : SubgraphId) (mapping : Option LoadedMapping)
    (block : BootstrapBlock) : NodeProgram δ (List EntityVersionRecord) := do
  let dispatched ← persistHits indexer subgraph mapping block
  persistSpends subgraph mapping block
  return dispatched

theorem persistInner_within (indexer : Indexer δ)
    (owned : ∀ loaded, mapping = some loaded → loaded.subgraph = subgraph) :
    Within (Inner subgraph mapping block)
      (fun dispatched => ∀ record ∈ dispatched,
        record.subgraph = subgraph ∧ record.blockDaaScore = block.daaScore)
      (persistInner indexer subgraph mapping block) := by
  apply Within.bind (persistHits_within indexer owned)
  intro dispatched stamped
  apply Within.bind persistSpends_within
  intro _ _
  exact Within.pure stamped

/-- Persisting a block makes stamped requests only, and its dispatched records
carry the subgraph and the score of the block. -/
theorem persistCommittedRows_within (indexer : Indexer δ)
    (owned : ∀ loaded, mapping = some loaded → loaded.subgraph = subgraph) :
    Within (Stamped subgraph mapping block)
      (fun dispatched => ∀ record ∈ dispatched,
        record.subgraph = subgraph ∧ record.blockDaaScore = block.daaScore)
      (persistCommittedRows indexer subgraph mapping block) :=
  ⟨trivial, fun _ => ⟨rfl, fun _ =>
    (persistInner_within indexer owned).mono (fun _ inner => inner.1) fun _ held => held⟩⟩

/-- A block records itself once. -/
theorem committedRows_trace (indexer : Indexer δ)
    (owned : ∀ loaded, mapping = some loaded → loaded.subgraph = subgraph) (backend : Backend δ) :
    committedView.rows (trace exec (persistCommittedRows indexer subgraph mapping block) backend) =
      [committedRecordOf subgraph block] := by
  obtain ⟨recorded, split⟩ : ∃ recorded : Backend δ,
      trace exec (persistCommittedRows indexer subgraph mapping block) backend =
        ⟨"writing RPC audit record", .insertRpcBlockAudit ⟨block.hash, block.daaScore,
          block.servedBy⟩⟩ ::
        ⟨"recording committed block for reorg-tracking",
          .recordCommittedBlock (committedRecordOf subgraph block)⟩ ::
        trace exec (persistInner indexer subgraph mapping block) recorded :=
    ⟨_, rfl⟩
  have inner : (trace exec (persistInner indexer subgraph mapping block) recorded).filterMap
      (committedView.row ·.op) = [] := by
    rw [List.filterMap_eq_nil_iff]
    intro request member
    exact (trace_within exec (persistInner_within indexer owned) recorded request member).2
  unfold TableView.rows
  rw [split]
  exact congrArg (committedRecordOf subgraph block :: ·) inner

end Blocks

end KasGraph
