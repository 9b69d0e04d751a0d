import KasGraph.Persist

set_option autoImplicit false

/-! Runs of one subgraph's indexer. Beside the runtime and the backend a state
keeps what its still-committed blocks recorded when they were persisted. -/

namespace KasGraph

open EffectProgram

variable {δ : Type}

/-- What persisting one block did: the records its hits dispatched and the
requests it made. -/
structure LedgerEntry (δ : Type) where
  block : BootstrapBlock
  dispatched : List EntityVersionRecord
  requests : List (Request δ)

def Backend.checkpoint (backend : Backend δ) (row : PoiCheckpoint δ) : Backend δ :=
  { backend with store := backend.store.insertPoiCheckpoint row }

section Persisting

variable (indexer : Indexer δ) (subgraph : SubgraphId) (mapping : Option LoadedMapping)

/-- The bytes that were hashed for the block of an entry. -/
def LedgerEntry.poiInput (entry : LedgerEntry δ) : List UInt8 :=
  committedPoiInput indexer entry.block entry.dispatched mapping.isSome

/-- The digest that follows one digest over an entry. -/
def LedgerEntry.digest (prior : δ) (entry : LedgerEntry δ) : δ :=
  indexer.hasher.keyed prior (entry.poiInput indexer mapping)

def LedgerEntry.checkpoint (prior : δ) (entry : LedgerEntry δ) : PoiCheckpoint δ where
  subgraph
  blockDaaScore := entry.block.daaScore
  poiHash := entry.digest indexer mapping prior

/-- The entry a block leaves when its rows are persisted. -/
def entryOf (backend : Backend δ) (block : BootstrapBlock)
    (dispatched : List EntityVersionRecord) : LedgerEntry δ where
  block
  dispatched
  requests := trace exec (persistCommittedRows indexer subgraph mapping block) backend

/-- The entries that committed blocks leave, persisted one after the other. -/
def persistedEntries (prior : δ) (backend : Backend δ) :
    List CommittedBlockWrite → List (LedgerEntry δ)
  | [] => []
  | write :: writes =>
      match run exec (persistCommittedRows indexer subgraph mapping write.block) backend with
      | (.ok dispatched, middle) =>
          let entry := entryOf indexer subgraph mapping backend write.block dispatched
          let row := entry.checkpoint indexer subgraph mapping prior
          entry :: persistedEntries row.poiHash (middle.checkpoint row) writes
      | (.error _, _) => []

/-- Committed blocks persisted one after the other: each writes its rows, and
then a checkpoint chained over the digest before it. -/
inductive Persisted : δ → Backend δ → List CommittedBlockWrite → List (LedgerEntry δ) → δ →
    Backend δ → Prop where
  | nil (prior : δ) (backend : Backend δ) : Persisted prior backend [] [] prior backend
  | cons {prior final : δ} {before middle after : Backend δ} {write : CommittedBlockWrite}
      {writes : List CommittedBlockWrite} {entries : List (LedgerEntry δ)}
      (dispatched : List EntityVersionRecord)
      (rows : run exec (persistCommittedRows indexer subgraph mapping write.block) before =
        (.ok dispatched, middle))
      (bytes : committedPoiInput indexer write.block dispatched mapping.isSome ≠ [])
      (rest : Persisted
        ((entryOf indexer subgraph mapping before write.block dispatched).digest
          indexer mapping prior)
        (middle.checkpoint
          ((entryOf indexer subgraph mapping before write.block dispatched).checkpoint
            indexer subgraph mapping prior)) writes entries final after) :
      Persisted prior before (write :: writes)
        (entryOf indexer subgraph mapping before write.block dispatched :: entries) final after

/-- The digest a chain continues from: that of the latest checkpoint, or the seed. -/
def anchorOf (store : Store δ) : δ :=
  ((store.latestPoiForSubgraph subgraph).map (·.poiHash)).getD indexer.hasher.seed

theorem run_reanchor (context : String) (backend : Backend δ) :
    run exec (reanchor indexer subgraph context) backend =
      (.ok (anchorOf indexer subgraph backend.store), backend) := by
  unfold reanchor
  rw [run_bind, run_request]
  simp only [NodeOp.onStore, NodeOp.event, Except.mapError, List.append_nil, run_pure]
  rfl

theorem persistCommittedWrite_ok {prior digest : δ} {write : CommittedBlockWrite}
    {before after : Backend δ}
    (success : run exec (persistCommittedWrite indexer subgraph mapping prior write) before =
      (.ok digest, after)) :
    ∃ dispatched middle,
      run exec (persistCommittedRows indexer subgraph mapping write.block) before =
        (.ok dispatched, middle) ∧
      committedPoiInput indexer write.block dispatched mapping.isSome ≠ [] ∧
      digest = (entryOf indexer subgraph mapping before write.block dispatched).digest
        indexer mapping prior ∧
      after = middle.checkpoint
        ((entryOf indexer subgraph mapping before write.block dispatched).checkpoint
          indexer subgraph mapping prior) := by
  unfold persistCommittedWrite at success
  obtain ⟨dispatched, middle, rows, chained⟩ := (run_bind_ok_iff exec _ _ _ _ _).mp success
  cases computed : computePoi indexer.hasher prior
      (committedPoiInput indexer write.block dispatched mapping.isSome) with
  | error cause => simp [computed] at chained
  | ok poiHash =>
      obtain ⟨bytes, hashed⟩ := (computePoi_eq_ok_iff _ _ _ _).mp computed
      simp only [computed] at chained
      obtain ⟨_, written, checkpointed, returned⟩ := (run_bind_ok_iff exec _ _ _ _ _).mp chained
      simp only [run_pure, Prod.mk.injEq, Except.ok.injEq] at returned
      have stored := ((run_request_ok_iff _ _ _ _ _).mp checkpointed).2
      refine ⟨dispatched, middle, rows, bytes, ?_, ?_⟩
      · rw [← returned.1]
        exact hashed.symm
      · rw [← returned.2, stored, ← hashed]
        simp only [NodeOp.onStore, NodeOp.event, List.append_nil]
        rfl

theorem persisted_of_run {prior final : δ} {writes : List CommittedBlockWrite}
    {before after : Backend δ}
    (success : run exec (writes.foldlM (persistCommittedWrite indexer subgraph mapping) prior)
      before = (.ok final, after)) :
    Persisted indexer subgraph mapping prior before writes
      (persistedEntries indexer subgraph mapping prior before writes) final after := by
  induction writes generalizing prior before with
  | nil =>
      simp only [List.foldlM_nil, run_pure, Prod.mk.injEq, Except.ok.injEq] at success
      rw [← success.1, ← success.2]
      exact .nil _ _
  | cons write writes ih =>
      rw [List.foldlM_cons] at success
      obtain ⟨digest, between, first, rest⟩ := (run_bind_ok_iff exec _ _ _ _ _).mp success
      obtain ⟨dispatched, middle, rows, bytes, rfl, rfl⟩ :=
        persistCommittedWrite_ok indexer subgraph mapping first
      simp only [persistedEntries, rows]
      exact .cons dispatched rows bytes (ih rest)

end Persisting

/-! ## States and steps -/

structure NodeState (δ : Type) where
  runtime : SubgraphRuntime δ
  backend : Backend δ
  /-- The entries of the blocks that are still committed, in commit order. -/
  ledger : List (LedgerEntry δ)
  /-- The blocks committed so far, removed ones included. -/
  history : List BootstrapBlock

namespace NodeState

variable (indexer : Indexer δ)

abbrev subgraph (state : NodeState δ) : SubgraphId := state.runtime.subgraph
abbrev mapping (state : NodeState δ) : Option LoadedMapping := state.runtime.mapping
abbrev ingestion (state : NodeState δ) : IngestionState δ := state.runtime.ingestion
abbrev store (state : NodeState δ) : Store δ := state.backend.store

/-- The transition a notification makes in memory. -/
def transition (state : NodeState δ) (notification : ChainNotification) : IngestionTransition :=
  match state.ingestion.applyNotification indexer.toolkit notification with
  | .ok (transition, _) => transition
  | .error _ => .none

/-- The hashes of the committed blocks a notification unwinds. -/
def unwoundHashes (state : NodeState δ) (notification : ChainNotification) : List String :=
  (state.transition indexer notification).committedUnwinds.map (·.hash)

/-- The blocks a notification commits, in commit order. -/
def newlyCommitted (state : NodeState δ) (notification : ChainNotification) :
    List BootstrapBlock :=
  (state.transition indexer notification).committedWrites.map (·.block)

/-- The entries whose blocks a notification leaves committed. -/
def survivors (state : NodeState δ) (notification : ChainNotification) : List (LedgerEntry δ) :=
  state.ledger.filter fun entry =>
    !(state.unwoundHashes indexer notification).contains entry.block.hash

/-- The digest and the backend after the unwind of a notification. -/
def unwind (state : NodeState δ) (notification : ChainNotification) :
    Except NodeError δ × Backend δ :=
  run exec (unwindCommitted indexer state.subgraph state.mapping state.ingestion.priorPoi
    (state.transition indexer notification).committedUnwinds) state.backend

/-- The entries of the blocks a notification commits. -/
def newEntries (state : NodeState δ) (notification : ChainNotification) : List (LedgerEntry δ) :=
  match state.unwind indexer notification with
  | (.ok anchor, anchored) =>
      persistedEntries indexer state.subgraph state.mapping anchor anchored
        (state.transition indexer notification).committedWrites
  | (.error _, _) => []

/-- A successful notification. A failed one ends the process. -/
def notify (state : NodeState δ) (notification : ChainNotification) : Option (NodeState δ) :=
  match run exec (state.runtime.notify indexer notification) state.backend with
  | (.ok (_, runtime), backend) => some {
      runtime
      backend
      ledger := state.survivors indexer notification ++ state.newEntries indexer notification
      history := state.history ++ state.newlyCommitted indexer notification }
  | (.error _, _) => none

/-- A runtime built over a backend: its memory is empty and its digest is that
of the latest checkpoint. -/
def boot (subgraph : SubgraphId) (mapping : Option LoadedMapping)
    (owned : ∀ loaded, mapping = some loaded → loaded.subgraph = subgraph)
    (finalityDepth : Option UInt64) (backend : Backend δ) (ledger : List (LedgerEntry δ))
    (history : List BootstrapBlock) : NodeState δ where
  runtime := {
    subgraph
    mapping
    owned
    ingestion := .withFinalityDepth (anchorOf indexer subgraph backend.store) finalityDepth }
  backend
  ledger
  history

theorem boot_runtime (subgraph : SubgraphId) (mapping : Option LoadedMapping)
    (owned : ∀ loaded, mapping = some loaded → loaded.subgraph = subgraph)
    (finalityDepth : Option UInt64) (backend : Backend δ) (ledger : List (LedgerEntry δ))
    (history : List BootstrapBlock) :
    run exec (makeSubgraphRuntime indexer subgraph mapping owned finalityDepth) backend =
      (.ok (boot indexer subgraph mapping owned finalityDepth backend ledger history).runtime,
        backend) := by
  unfold makeSubgraphRuntime
  rw [run_bind, run_reanchor]
  rfl

/-- An indexer started on a migrated store without rows, in which the schema of
its subgraph was created. -/
def fresh (subgraph : SubgraphId) (mapping : Option LoadedMapping)
    (owned : ∀ loaded, mapping = some loaded → loaded.subgraph = subgraph)
    (finalityDepth : Option UInt64) (relations : Finset (String × String)) : NodeState δ :=
  boot indexer subgraph mapping owned finalityDepth
    { store := (Store.empty relations).ensureSubgraphSchema subgraph, published := [] } [] []

theorem owned (state : NodeState δ) :
    ∀ loaded, state.mapping = some loaded → loaded.subgraph = state.subgraph :=
  state.runtime.owned

theorem unmapped_owned (subgraph : SubgraphId) (loaded : LoadedMapping) (none_loaded : none = some loaded) :
    loaded.subgraph = subgraph := by
  cases none_loaded

/-- The process stops and starts again over its store. -/
def restart (state : NodeState δ) : NodeState δ :=
  boot indexer state.subgraph state.mapping state.runtime.owned state.ingestion.finalityDepth
    state.backend state.ledger state.history

end NodeState

/-- The states reached from one by notifications that a condition admits, and by
restarts. -/
inductive Steps (indexer : Indexer δ) (admits : NodeState δ → ChainNotification → Prop)
    (initial : NodeState δ) : NodeState δ → Prop where
  | refl : Steps indexer admits initial initial
  | notify {state after : NodeState δ} (notification : ChainNotification)
      (earlier : Steps indexer admits initial state) (admitted : admits state notification)
      (success : state.notify indexer notification = some after) :
      Steps indexer admits initial after
  | restart {state : NodeState δ} (earlier : Steps indexer admits initial state) :
      Steps indexer admits initial (state.restart indexer)

/-- The run of a list of notifications, all of which succeed. -/
def NodeState.notifyEach (indexer : Indexer δ) (state : NodeState δ) :
    List ChainNotification → Option (NodeState δ)
  | [] => some state
  | notification :: rest =>
      match state.notify indexer notification with
      | some after => after.notifyEach indexer rest
      | none => none

theorem Steps.notifyEach {indexer : Indexer δ} {initial state after : NodeState δ}
    (earlier : Steps indexer (fun _ _ => True) initial state)
    (notifications : List ChainNotification)
    (ran : state.notifyEach indexer notifications = some after) :
    Steps indexer (fun _ _ => True) initial after := by
  induction notifications generalizing state with
  | nil =>
      rw [NodeState.notifyEach, Option.some.injEq] at ran
      rw [← ran]
      exact earlier
  | cons notification rest ih =>
      rw [NodeState.notifyEach] at ran
      cases success : state.notify indexer notification with
      | none => simp [success] at ran
      | some middle =>
          rw [success] at ran
          exact ih (.notify notification earlier trivial success) ran

namespace NodeState

variable {indexer : Indexer δ}

/-- Everything a successful notification does: the transition in memory, the
unwind, and the blocks persisted over the digest it left. -/
structure Notified (indexer : Indexer δ) (state : NodeState δ) (notification : ChainNotification)
    (after : NodeState δ) (memory : IngestionState δ) (anchor : δ) (anchored : Backend δ) :
    Prop where
  applied : state.ingestion.applyNotification indexer.toolkit notification =
    .ok (state.transition indexer notification, memory)
  unwound : state.unwind indexer notification = (.ok anchor, anchored)
  persisted : Persisted indexer state.subgraph state.mapping anchor anchored
    (state.transition indexer notification).committedWrites (state.newEntries indexer notification)
    after.ingestion.priorPoi after.backend
  runtime : after.runtime =
    { state.runtime with ingestion := memory.reseedPriorPoi after.ingestion.priorPoi }
  ledger : after.ledger =
    state.survivors indexer notification ++ state.newEntries indexer notification
  history : after.history = state.history ++ state.newlyCommitted indexer notification

theorem notify_notified {state after : NodeState δ} {notification : ChainNotification}
    (success : state.notify indexer notification = some after) :
    ∃ memory anchor anchored,
      Notified indexer state notification after memory anchor anchored := by
  unfold notify at success
  split at success
  · rename_i outcome runtime backend ran
    simp only [SubgraphRuntime.notify] at ran
    obtain ⟨⟨outcome', ingestion⟩, between, applied, returned⟩ :=
      (run_bind_ok_iff exec _ _ _ _ _).mp ran
    simp only [run_pure, Prod.mk.injEq, Except.ok.injEq] at returned
    obtain ⟨⟨-, rfl⟩, rfl⟩ := returned
    unfold applyAndPersistNotification at applied
    split at applied
    · simp at applied
    · rename_i transition memory inMemory
      have reported : state.transition indexer notification = transition := by
        unfold NodeState.transition NodeState.ingestion
        rw [inMemory]
      obtain ⟨final, between', persisted, returned⟩ := (run_bind_ok_iff exec _ _ _ _ _).mp applied
      simp only [run_pure, Prod.mk.injEq, Except.ok.injEq] at returned
      obtain ⟨⟨-, rfl⟩, rfl⟩ := returned
      unfold persistTransition at persisted
      obtain ⟨anchor, anchored, unwound, written⟩ := (run_bind_ok_iff exec _ _ _ _ _).mp persisted
      have settings := IngestionState.applyNotification_settings inMemory
      have unwinding : state.unwind indexer notification = (.ok anchor, anchored) := by
        unfold unwind
        rw [reported, ← unwound, settings.1]
      have entries := persisted_of_run indexer state.subgraph state.mapping written
      rw [← Option.some.inj success]
      refine ⟨memory, anchor, anchored, ?_, unwinding, ?_, rfl, rfl, rfl⟩
      · rw [reported]
        exact inMemory
      · unfold newEntries
        simp only [unwinding, reported]
        exact entries
  · cases success

end NodeState

/-! ## A concrete indexer -/

/-- A free hash: a digest is the list of the inputs it was chained over. -/
def freeHasher : PoiHasher (List (List UInt8)) where
  seed := []
  keyed := fun prior bytes => prior ++ [bytes]

/-- An indexer without detectors. -/
def bareIndexer : Indexer (List (List UInt8)) where
  toolkit := bareToolkit
  hasher := freeHasher
  stream := false

def demoSubgraph : SubgraphId where
  schemaName := "demo"
  valid := by decide +kernel

/-- A subgraph without a mapping, and no finality depth. -/
def bareStart : NodeState (List (List UInt8)) :=
  .fresh bareIndexer demoSubgraph none nofun none ∅

/-- A finalized block. -/
def firstBlock : ChainNotification := .blockAdded (headerBlock "a" 10 true)

/-- A block finalized below the first one. -/
def lateBlock : ChainNotification := .blockAdded (headerBlock "b" 5 true)

theorem firstBlock_committed : bareStart.newlyCommitted bareIndexer firstBlock =
    [blockFromRpc bareToolkit (headerBlock "a" 10 true)] := by decide +kernel

theorem firstBlock_succeeds : ∃ state, bareStart.notify bareIndexer firstBlock = some state :=
  Option.isSome_iff_exists.mp (by decide +kernel)

/-- An indexer with one detector. -/
def htlcIndexer : Indexer (List (List UInt8)) where
  toolkit := { bareToolkit with
    registry := [⟨.openSilverAtomicSwapHTLC, .exact opensilverAtomicSwapHtlcFingerprint⟩] }
  hasher := freeHasher
  stream := false

/-- A mapping that binds no handler. -/
def silentMapping : LoadedMapping where
  subgraph := demoSubgraph
  descriptor := ⟨"demo", "demo.wasm", []⟩
  runtime := fun _ _ => .ok ⟨[]⟩

theorem silentMapping_owned (loaded : LoadedMapping) (same : some silentMapping = some loaded) :
    loaded.subgraph = demoSubgraph := by
  cases same
  rfl

/-- An output of a swap. -/
def htlcOutput (txHash : String) : IngestedTransactionOutput where
  txHash
  outputIndex := 0
  value := 1
  scriptPublicKey := opensilverAtomicSwapHtlcFingerprint.bytes

def spendOf (spendingTxHash previousTxHash : String) : IngestedTransactionInput where
  spendingTxHash
  previousTxHash
  previousOutputIndex := 0

/-- A finalized block that locks one output of a transaction. -/
def htlcBlock (hash : String) (daaScore : UInt64) (txHash : String) : IngestedBlock :=
  { headerBlock hash daaScore true with
    outputs := [{ txHash, outputIndex := 0, value := 1
                  scriptPublicKey := opensilverAtomicSwapHtlcFingerprint.bytes }] }

def htlcStart : NodeState (List (List UInt8)) :=
  .fresh htlcIndexer demoSubgraph (some silentMapping) silentMapping_owned none ∅

/-- A locked output in block "a". -/
def firstLock : ChainNotification := .blockAdded (htlcBlock "a" 10 "t")

/-- A locked output of another transaction in block "b" above. -/
def secondLock : ChainNotification := .blockAdded (htlcBlock "b" 11 "u")

end KasGraph
