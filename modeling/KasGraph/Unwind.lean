import KasGraph.Footprint

set_option autoImplicit false

/-! What persisting blocks adds to the tables, and what an unwind takes from them:
checkpoints, committed blocks and detected patterns go by block hash, all that a
mapping derived goes by score. -/

namespace KasGraph

open EffectProgram

variable {δ : Type}

/-! ## Persisted blocks -/

section Persisting

variable (indexer : Indexer δ) (subgraph : SubgraphId) (mapping : Option LoadedMapping)

/-- The checkpoints of entries chained one over the other from a digest. -/
def checkpointsFrom (prior : δ) : List (LedgerEntry δ) → List (PoiCheckpoint δ)
  | [] => []
  | entry :: entries =>
      entry.checkpoint indexer subgraph mapping prior ::
        checkpointsFrom (entry.digest indexer mapping prior) entries

/-- The digest after entries chained one over the other. -/
def digestFrom (prior : δ) (entries : List (LedgerEntry δ)) : δ :=
  entries.foldl (fun digest entry => entry.digest indexer mapping digest) prior

end Persisting

section Persisted

variable {indexer : Indexer δ} {subgraph : SubgraphId} {mapping : Option LoadedMapping}
  {prior final : δ} {before after : Backend δ} {writes : List CommittedBlockWrite}
  {entries : List (LedgerEntry δ)}

theorem Persisted.blocks
    (persisted : Persisted indexer subgraph mapping prior before writes entries final after) :
    entries.map (·.block) = writes.map (·.block) := by
  induction persisted with
  | nil => rfl
  | cons dispatched rows bytes rest ih =>
      rw [List.map_cons, List.map_cons, ih]
      rfl

theorem Persisted.bytes
    (persisted : Persisted indexer subgraph mapping prior before writes entries final after) :
    ∀ entry ∈ entries, entry.poiInput indexer mapping ≠ [] := by
  induction persisted with
  | nil => exact nofun
  | cons dispatched rows bytes rest ih =>
      intro entry member
      rcases List.mem_cons.mp member with rfl | later
      · exact bytes
      · exact ih entry later

variable (owned : ∀ loaded, mapping = some loaded → loaded.subgraph = subgraph)
include owned

theorem Persisted.stamped
    (persisted : Persisted indexer subgraph mapping prior before writes entries final after) :
    ∀ entry ∈ entries, ∀ request ∈ entry.requests,
      Stamped subgraph mapping entry.block request := by
  induction persisted with
  | nil => exact nofun
  | cons dispatched rows bytes rest ih =>
      intro entry member
      rcases List.mem_cons.mp member with rfl | later
      · exact trace_within exec (persistCommittedRows_within indexer owned) _
      · exact ih entry later

/-- A table other than the checkpoints receives the rows of the entries in order. -/
theorem Persisted.table {ρ κ : Type} [Ord κ] [Std.TransOrd κ] [Std.LawfulEqOrd κ] {key : ρ → κ}
    (view : TableView δ key) (apart : ∀ row, view.row (.insertPoiCheckpoint row) = none)
    (persisted : Persisted indexer subgraph mapping prior before writes entries final after) :
    view.table after.store =
      (view.table before.store).replay (entries.flatMap fun entry => view.rows entry.requests) := by
  induction persisted with
  | nil => rfl
  | @cons prior final before middle after write writes entries dispatched rows bytes rest ih =>
      have confined : Within Request.Appends _
          (persistCommittedRows indexer subgraph mapping write.block) :=
        (persistCommittedRows_within indexer owned).mono
          (fun request stamped => Stamped.appends stamped) fun _ held => held
      have written := view.run_replay confined rows
      have checkpointed := view.upserts (.insertPoiCheckpoint
        ((entryOf indexer subgraph mapping before write.block dispatched).checkpoint
          indexer subgraph mapping prior)) middle.store rfl
      rw [apart, Option.toList_none, Table.replay_nil] at checkpointed
      rw [ih, List.flatMap_cons, Table.replay_append]
      exact congrArg (Table.replay · _) (checkpointed.trans written)

/-- The committed table receives one row for each block. -/
theorem Persisted.committed
    (persisted : Persisted indexer subgraph mapping prior before writes entries final after) :
    after.store.kasgraphCommittedBlock = before.store.kasgraphCommittedBlock.replay
      (entries.map fun entry => committedRecordOf subgraph entry.block) := by
  have table := persisted.table owned committedView fun _ => rfl
  have rows : entries.flatMap (fun entry => committedView.rows entry.requests) =
      entries.map fun entry => committedRecordOf subgraph entry.block := by
    clear table
    induction persisted with
    | nil => rfl
    | @cons prior final before middle after write writes entries dispatched rows bytes rest ih =>
        rw [List.flatMap_cons, List.map_cons, ih]
        exact congrArg (· ++ _) (committedRows_trace indexer owned before)
  rw [rows] at table
  exact table

/-- The checkpoints are chained from the digest before. -/
theorem Persisted.poi
    (persisted : Persisted indexer subgraph mapping prior before writes entries final after) :
    after.store.kasgraphPoi =
        before.store.kasgraphPoi.replay (checkpointsFrom indexer subgraph mapping prior entries) ∧
      final = digestFrom indexer mapping prior entries := by
  induction persisted with
  | nil => exact ⟨rfl, rfl⟩
  | @cons prior final before middle after write writes entries dispatched rows bytes rest ih =>
      have confined : Within Request.Appends _
          (persistCommittedRows indexer subgraph mapping write.block) :=
        (persistCommittedRows_within indexer owned).mono
          (fun request stamped => Stamped.appends stamped) fun _ held => held
      have none : poiView.rows (trace exec
          (persistCommittedRows indexer subgraph mapping write.block) before) = [] := by
        rw [TableView.rows, List.filterMap_eq_nil_iff]
        intro request member
        have stamped := trace_within exec (persistCommittedRows_within indexer owned) _ _ member
        obtain ⟨context, op⟩ := request
        cases op <;> first | rfl | exact stamped.elim
      have written := poiView.run_replay confined rows
      rw [none, Table.replay_nil] at written
      refine ⟨?_, ih.2⟩
      rw [ih.1]
      have upserted : (middle.checkpoint ((entryOf indexer subgraph mapping before write.block
          dispatched).checkpoint indexer subgraph mapping prior)).store.kasgraphPoi =
          before.store.kasgraphPoi.upsert ((entryOf indexer subgraph mapping before write.block
            dispatched).checkpoint indexer subgraph mapping prior) :=
        congrArg (Table.upsert · _) written
      rw [upserted]
      rfl

end Persisted

/-! ## The unwind of a transition -/

theorem Store.mem_committedRowsFor (store : Store δ) (subgraph : SubgraphId)
    (hashes : List String) (row : CommittedBlockRecord) :
    row ∈ store.committedRowsFor subgraph hashes ↔
      store.kasgraphCommittedBlock.find? row.key = some row ∧ row.subgraph = subgraph ∧
        row.blockHash ∈ hashes := by
  unfold committedRowsFor
  rw [List.mem_insertionSort, Table.mem_select]
  simp

/-- The lineage rows an unwind keeps. -/
def Store.keptLineageRows (store : Store δ) (subgraph : SubgraphId) (fromDaa : Int64) :
    Table CovenantLineageRow.key :=
  store.kasgraphCovenantLineageRow.deleteWhere fun row =>
    row.subgraph = subgraph && decide (fromDaa ≤ row.daaScore)

/-- The heads an unwind keeps, before they are re-pointed. -/
def Store.keptLineageHeads (store : Store δ) (subgraph : SubgraphId) (fromDaa : Int64) :
    Table CovenantLineageHead.key :=
  store.kasgraphCovenantLineageHead.deleteWhere fun head =>
    head.subgraph = subgraph &&
      !(store.keptLineageRows subgraph fromDaa).any fun row => row.covenantId == head.covenantId

/-- The store without what was derived from blocks at or above a score. -/
def Store.unwoundFrom (store : Store δ) (subgraph : SubgraphId) (fromDaa : Int64) : Store δ :=
  { store with
    entityVersions := store.entityVersions.deleteWhere fun row =>
      row.subgraph = subgraph && decide (fromDaa ≤ row.blockDaaScore)
    covenantUtxos := store.covenantUtxos.deleteWhere fun row =>
      row.subgraph = subgraph && decide (fromDaa ≤ row.blockDaaScore)
    covenantSpends := store.covenantSpends.deleteWhere fun row =>
      row.subgraph = subgraph && decide (fromDaa ≤ row.blockDaaScore)
    kasgraphCovenantLineageRow := store.keptLineageRows subgraph fromDaa
    kasgraphCovenantLineageHead := (store.keptLineageHeads subgraph fromDaa).updateRows
      (repointHead (store.keptLineageRows subgraph fromDaa) subgraph)
      (repointHead_key (store.keptLineageRows subgraph fromDaa) subgraph) }

theorem Store.unwindCovenantLineage_ok {store : Store δ} {subgraph : SubgraphId}
    {fromDaa : Int64} {reply : Unit}
    (ok : (store.unwindCovenantLineage subgraph fromDaa).1 = .ok reply) :
    (store.unwindCovenantLineage subgraph fromDaa).2 =
      { store with
        kasgraphCovenantLineageRow := store.keptLineageRows subgraph fromDaa
        kasgraphCovenantLineageHead := (store.keptLineageHeads subgraph fromDaa).updateRows
          (repointHead (store.keptLineageRows subgraph fromDaa) subgraph)
          (repointHead_key (store.keptLineageRows subgraph fromDaa) subgraph) } := by
  unfold unwindCovenantLineage at ok ⊢
  simp only at ok ⊢
  split at ok
  · cases ok
  · rename_i fits
    rw [if_neg fits]
    rfl

/-- What an unwind of blocks leaves of the derived tables. -/
def Store.unwoundDerived (store : Store δ) (subgraph : SubgraphId)
    (mapping : Option LoadedMapping) (unwinds : List BootstrapBlock) : Store δ :=
  match mapping, lowestDaa unwinds with
  | some _, some cutoff => store.unwoundFrom subgraph cutoff
  | _, _ => store

/-- The store after an unwind of a subgraph's blocks. -/
def Store.unwound (store : Store δ) (subgraph : SubgraphId) (mapping : Option LoadedMapping)
    (unwinds : List BootstrapBlock) : Store δ :=
  (store.unwindCommittedBlocksForSubgraph subgraph (unwinds.map (·.hash))
    unwindReason).2.unwoundDerived subgraph mapping unwinds

/-- The unwind of a mapping's rows leaves the other tables. -/
theorem Store.unwoundDerived_frame (store : Store δ) (subgraph : SubgraphId)
    (mapping : Option LoadedMapping) (unwinds : List BootstrapBlock) :
    (store.unwoundDerived subgraph mapping unwinds).kasgraphPoi = store.kasgraphPoi ∧
      (store.unwoundDerived subgraph mapping unwinds).kasgraphCommittedBlock =
        store.kasgraphCommittedBlock ∧
      (store.unwoundDerived subgraph mapping unwinds).kasgraphDetectedPattern =
        store.kasgraphDetectedPattern := by
  unfold unwoundDerived
  split
  · exact ⟨rfl, rfl, rfl⟩
  · exact ⟨rfl, rfl, rfl⟩

/-- A checkpoint stands after an unwind when no unwound block recorded its score. -/
theorem Store.find_unwound_poi (store : Store δ) (subgraph : SubgraphId)
    (mapping : Option LoadedMapping) (unwinds : List BootstrapBlock) (row : PoiCheckpoint δ)
    (own : row.subgraph = subgraph) :
    (store.unwound subgraph mapping unwinds).kasgraphPoi.find? row.key = some row ↔
      store.kasgraphPoi.find? row.key = some row ∧
        row.blockDaaScore ∉
          (store.committedRowsFor subgraph (unwinds.map (·.hash))).map (·.daaScore) := by
  unfold unwound
  rw [(unwoundDerived_frame _ _ _ _).1]
  simp only [unwindCommittedBlocksForSubgraph]
  rw [Table.find_deleteWhere_eq_some]
  simp [own]

/-- A committed row stands after an unwind when its hash was not unwound. -/
theorem Store.find_unwound_committed (store : Store δ) (subgraph : SubgraphId)
    (mapping : Option LoadedMapping) (unwinds : List BootstrapBlock) (row : CommittedBlockRecord)
    (own : row.subgraph = subgraph) :
    (store.unwound subgraph mapping unwinds).kasgraphCommittedBlock.find? row.key = some row ↔
      store.kasgraphCommittedBlock.find? row.key = some row ∧
        row.blockHash ∉ unwinds.map (·.hash) := by
  unfold unwound
  rw [(unwoundDerived_frame _ _ _ _).2.1]
  simp only [unwindCommittedBlocksForSubgraph]
  rw [Table.find_deleteWhere_eq_some]
  apply and_congr_right
  intro stands
  have removed : row.blockHash ∈
      (store.committedRowsFor subgraph (unwinds.map (·.hash))).map (·.blockHash) ↔
        row.blockHash ∈ unwinds.map (·.hash) := by
    rw [List.mem_map]
    constructor
    · rintro ⟨other, member, same⟩
      rw [← same]
      exact ((store.mem_committedRowsFor _ _ _).mp member).2.2
    · intro member
      exact ⟨row, (store.mem_committedRowsFor _ _ _).mpr ⟨stands, own, member⟩, rfl⟩
  simp [own, removed]

section Unwinding

variable {indexer : Indexer δ} {subgraph : SubgraphId} {mapping : Option LoadedMapping}
  {prior anchor : δ} {before after : Backend δ} {unwinds : List BootstrapBlock}

/-- An unwind of no block leaves the digest and the store. -/
theorem unwindCommitted_nil :
    run exec (unwindCommitted indexer subgraph mapping prior []) before = (.ok prior, before) :=
  rfl

theorem unwindDerived_ok
    (success : run exec (unwindDerived subgraph mapping unwinds) before = (.ok (), after)) :
    after.store = before.store.unwoundDerived subgraph mapping unwinds := by
  unfold unwindDerived at success
  unfold Store.unwoundDerived
  cases mapping with
  | none =>
      simp only [run_pure, Prod.mk.injEq] at success
      rw [success.2]
  | some loaded =>
      cases lowest : lowestDaa unwinds with
      | none =>
          simp only [lowest, run_pure, Prod.mk.injEq] at success
          rw [success.2]
      | some cutoff =>
          simp only [lowest] at success
          obtain ⟨_, first, entities, success⟩ := (run_bind_ok_iff exec _ _ _ _ _).mp success
          obtain ⟨_, second, utxos, success⟩ := (run_bind_ok_iff exec _ _ _ _ _).mp success
          obtain ⟨_, third, spends, lineage⟩ := (run_bind_ok_iff exec _ _ _ _ _).mp success
          obtain ⟨entitiesOk, entitiesLeft⟩ := (run_request_ok_iff _ _ _ _ _).mp entities
          obtain ⟨utxosOk, utxosLeft⟩ := (run_request_ok_iff _ _ _ _ _).mp utxos
          obtain ⟨spendsOk, spendsLeft⟩ := (run_request_ok_iff _ _ _ _ _).mp spends
          obtain ⟨lineageOk, lineageLeft⟩ := (run_request_ok_iff _ _ _ _ _).mp lineage
          have firstStore : first.store = _ :=
            (congrArg Backend.store entitiesLeft).trans (Store.onRelation_ok entitiesOk).2.2
          have secondStore : second.store = _ :=
            (congrArg Backend.store utxosLeft).trans (Store.onRelation_ok utxosOk).2.2
          have thirdStore : third.store = _ :=
            (congrArg Backend.store spendsLeft).trans (Store.onRelation_ok spendsOk).2.2
          have lastStore : after.store = _ :=
            (congrArg Backend.store lineageLeft).trans (Store.unwindCovenantLineage_ok lineageOk)
          rw [lastStore, thirdStore, secondStore, firstStore]
          rfl

theorem unwindCommitted_ok (some : unwinds ≠ [])
    (success : run exec (unwindCommitted indexer subgraph mapping prior unwinds) before =
      (.ok anchor, after)) :
    after.store = before.store.unwound subgraph mapping unwinds ∧
      anchor = anchorOf indexer subgraph after.store := by
  unfold unwindCommitted at success
  rw [if_neg (by simpa using some)] at success
  obtain ⟨removed, first, blocks, success⟩ := (run_bind_ok_iff exec _ _ _ _ _).mp success
  obtain ⟨_, second, derived, anchored⟩ := (run_bind_ok_iff exec _ _ _ _ _).mp success
  rw [run_reanchor, Prod.mk.injEq, Except.ok.injEq] at anchored
  obtain ⟨rfl, rfl⟩ := anchored
  refine ⟨?_, rfl⟩
  rw [unwindDerived_ok derived, ((run_request_ok_iff _ _ _ _ _).mp blocks).2]
  rfl

end Unwinding

/-! ## Derived tables -/

/-- A table that only a mapping fills, and that an unwind cuts by score. -/
structure DerivedView (δ : Type) {ρ κ : Type} [Ord κ] [Std.TransOrd κ] [Std.LawfulEqOrd κ]
    (key : ρ → κ) extends TableView δ key where
  subgraphOf : ρ → SubgraphId
  daaOf : ρ → Int64
  apart : ∀ checkpoint, row (.insertPoiCheckpoint checkpoint) = none
  stamped : ∀ (subgraph : SubgraphId) (mapping : Option LoadedMapping) (block : BootstrapBlock)
    (request : Request δ) (written : ρ), Stamped subgraph mapping block request →
    row request.op = some written →
    mapping.isSome ∧ subgraphOf written = subgraph ∧ daaOf written = block.daaScore
  kept : ∀ (store : Store δ) (subgraph : SubgraphId) (hashes : List String) (reason : String),
    table (store.unwindCommittedBlocksForSubgraph subgraph hashes reason).2 = table store
  cut : ∀ (store : Store δ) (subgraph : SubgraphId) (fromDaa : Int64),
    table (store.unwoundFrom subgraph fromDaa) = (table store).deleteWhere fun written =>
      subgraphOf written = subgraph && decide (fromDaa ≤ daaOf written)

def entityDerived : DerivedView δ EntityVersionRecord.key where
  toTableView := entityView
  subgraphOf := (·.subgraph)
  daaOf := (·.blockDaaScore)
  apart := fun _ => rfl
  stamped := by
    intro subgraph mapping block request written stamped wrote
    obtain ⟨context, op⟩ := request
    cases op <;> cases wrote
    exact stamped
  kept := fun _ _ _ _ => rfl
  cut := fun _ _ _ => rfl

def utxoDerived : DerivedView δ CovenantUtxoRecord.key where
  toTableView := utxoView
  subgraphOf := (·.subgraph)
  daaOf := (·.blockDaaScore)
  apart := fun _ => rfl
  stamped := by
    intro subgraph mapping block request written stamped wrote
    obtain ⟨context, op⟩ := request
    cases op <;> cases wrote
    exact ⟨stamped.1, stamped.2.1, stamped.2.2.1⟩
  kept := fun _ _ _ _ => rfl
  cut := fun _ _ _ => rfl

def spendDerived : DerivedView δ CovenantSpendRecord.key where
  toTableView := spendView
  subgraphOf := (·.subgraph)
  daaOf := (·.blockDaaScore)
  apart := fun _ => rfl
  stamped := by
    intro subgraph mapping block request written stamped wrote
    obtain ⟨context, op⟩ := request
    cases op <;> cases wrote
    exact ⟨stamped.1, stamped.2.1, stamped.2.2.1⟩
  kept := fun _ _ _ _ => rfl
  cut := fun _ _ _ => rfl

def lineageDerived : DerivedView δ CovenantLineageRow.key where
  toTableView := lineageView
  subgraphOf := (·.subgraph)
  daaOf := (·.daaScore)
  apart := fun _ => rfl
  stamped := by
    intro subgraph mapping block request written stamped wrote
    obtain ⟨context, op⟩ := request
    cases op <;> cases wrote
    exact stamped
  kept := fun _ _ _ _ => rfl
  cut := fun _ _ _ => rfl

end KasGraph
