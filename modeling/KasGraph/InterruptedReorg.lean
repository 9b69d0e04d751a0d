import KasGraph.Reapply

set_option autoImplicit false

/-! A chain change that is interrupted between two statements. What it unwinds is
computed from the blocks in memory, which the interruption erases, so the change that is
delivered again unwinds nothing. -/

namespace KasGraph

open EffectProgram

variable {δ : Type}

/-! ## The statements of an unwind -/

/-- The statements that remove what a mapping derived from the blocks above a score. -/
def derivedRequests (subgraph : SubgraphId) (cutoff : Int64) : List (Request δ) :=
  [⟨"unwinding entity versions for reorg", .unwindEntityVersions subgraph cutoff⟩,
    ⟨"unwinding covenant UTXOs for reorg", .unwindCovenantUtxos subgraph cutoff⟩,
    ⟨"unwinding covenant spends for reorg", .unwindCovenantSpends subgraph cutoff⟩,
    ⟨"unwinding covenant lineage for reorg", .unwindCovenantLineage subgraph cutoff⟩]

/-- The statements that remove blocks, and then what a mapping derived from them. -/
def unwindRequests (subgraph : SubgraphId) (mapping : Option LoadedMapping)
    (unwinds : List BootstrapBlock) : List (Request δ) :=
  ⟨"unwinding committed blocks for reorg",
    .unwindCommittedBlocks subgraph (unwinds.map (·.hash)) unwindReason⟩ ::
    match mapping, lowestDaa unwinds with
    | some _, some cutoff => derivedRequests subgraph cutoff
    | _, _ => []

/-- The request that loads the digest an unwind leaves. -/
def reanchorRequest (subgraph : SubgraphId) : Request δ :=
  ⟨"loading latest POI after unwind", .latestPoiForSubgraph subgraph⟩

/-- The store after requests, one after the other. -/
def Store.afterEach (store : Store δ) (requests : List (Request δ)) : Store δ :=
  requests.foldl (fun current request => (request.op.onStore current).2) store

/-- A statement of an unwind has nothing to remove and no head to repoint. -/
def NodeOp.FindsNothing (store : Store δ) : NodeOp δ → Prop
  | .unwindCommittedBlocks subgraph hashes _ =>
      store.kasgraphCommittedBlock.Each fun row => row.subgraph = subgraph → row.blockHash ∉ hashes
  | .unwindEntityVersions subgraph cutoff =>
      store.entityVersions.Each fun row => row.subgraph = subgraph → row.blockDaaScore < cutoff
  | .unwindCovenantUtxos subgraph cutoff =>
      store.covenantUtxos.Each fun row => row.subgraph = subgraph → row.blockDaaScore < cutoff
  | .unwindCovenantSpends subgraph cutoff =>
      store.covenantSpends.Each fun row => row.subgraph = subgraph → row.blockDaaScore < cutoff
  | .unwindCovenantLineage subgraph cutoff =>
      (store.kasgraphCovenantLineageRow.Each fun row =>
        row.subgraph = subgraph → row.daaScore < cutoff) ∧
      store.kasgraphCovenantLineageHead.Each fun head => head.subgraph = subgraph →
        (store.kasgraphCovenantLineageRow.any fun row => row.covenantId == head.covenantId) ∧
        Store.repointHead store.kasgraphCovenantLineageRow subgraph head = head
  | _ => True

section Unwinding

variable {indexer : Indexer δ} {subgraph : SubgraphId} {mapping : Option LoadedMapping}
  {prior anchor : δ} {before after : Backend δ} {unwinds : List BootstrapBlock}

/-- The requests of an unwind that succeeds. -/
theorem unwindCommitted_trace (some : unwinds ≠ [])
    (success : run exec (unwindCommitted indexer subgraph mapping prior unwinds) before =
      (.ok anchor, after)) :
    trace exec (unwindCommitted indexer subgraph mapping prior unwinds) before =
      unwindRequests subgraph mapping unwinds ++ [reanchorRequest subgraph] := by
  unfold unwindCommitted at success ⊢
  rw [if_neg (by simpa using some)] at success ⊢
  obtain ⟨removed, first, blocks, success⟩ := (run_bind_ok_iff exec _ _ _ _ _).mp success
  obtain ⟨_, second, derived, anchored⟩ := (run_bind_ok_iff exec _ _ _ _ _).mp success
  have last : trace exec (reanchor indexer subgraph "loading latest POI after unwind") second =
      [reanchorRequest subgraph] := rfl
  rw [trace_bind_of_ok exec blocks, trace_request, trace_bind_of_ok exec derived, last]
  unfold unwindRequests
  rw [List.cons_append, List.cons_append, List.nil_append]
  refine congrArg (_ :: · ++ _) ?_
  unfold unwindDerived at derived ⊢
  cases mapping with
  | none => rfl
  | some loaded =>
      cases lowest : lowestDaa unwinds with
      | none => rfl
      | some cutoff =>
          simp only [lowest] at derived ⊢
          obtain ⟨_, third, entities, derived⟩ := (run_bind_ok_iff exec _ _ _ _ _).mp derived
          obtain ⟨_, fourth, utxos, derived⟩ := (run_bind_ok_iff exec _ _ _ _ _).mp derived
          obtain ⟨_, fifth, spends, lineage⟩ := (run_bind_ok_iff exec _ _ _ _ _).mp derived
          rw [trace_bind_of_ok exec entities, trace_bind_of_ok exec utxos,
            trace_bind_of_ok exec spends, trace_request, trace_request, trace_request,
            trace_request]
          rfl

/-- Whether the lineage can be cut depends on the lineage alone. -/
theorem Store.unwindCovenantLineage_congr {store other : Store δ} {cutoff : Int64}
    (same : store.lineage = other.lineage) :
    (store.unwindCovenantLineage subgraph cutoff).1 =
      (other.unwindCovenantLineage subgraph cutoff).1 := by
  have heads : store.kasgraphCovenantLineageHead = other.kasgraphCovenantLineageHead :=
    congrArg LineageTables.heads same
  have rows : store.kasgraphCovenantLineageRow = other.kasgraphCovenantLineageRow :=
    congrArg LineageTables.rows same
  unfold unwindCovenantLineage
  simp only [heads, rows]
  split <;> rfl

/-- What a mapping derived is unwound only in a migrated schema whose lineage can be cut. -/
theorem unwindDerived_requires {loaded : LoadedMapping} {cutoff : Int64}
    (lowest : lowestDaa unwinds = some cutoff)
    (success : run exec (unwindDerived subgraph (some loaded) unwinds) before = (.ok (), after)) :
    before.store.Migrated subgraph ∧
      (before.store.unwindCovenantLineage subgraph cutoff).1 = .ok () := by
  unfold unwindDerived at success
  simp only [lowest] at success
  obtain ⟨_, first, entities, success⟩ := (run_bind_ok_iff exec _ _ _ _ _).mp success
  obtain ⟨_, second, utxos, success⟩ := (run_bind_ok_iff exec _ _ _ _ _).mp success
  obtain ⟨_, third, spends, lineage⟩ := (run_bind_ok_iff exec _ _ _ _ _).mp success
  obtain ⟨entitiesOk, entitiesLeft⟩ := (run_request_ok_iff _ _ _ _ _).mp entities
  obtain ⟨utxosOk, utxosLeft⟩ := (run_request_ok_iff _ _ _ _ _).mp utxos
  obtain ⟨spendsOk, spendsLeft⟩ := (run_request_ok_iff _ _ _ _ _).mp spends
  obtain ⟨lineageOk, -⟩ := (run_request_ok_iff _ _ _ _ _).mp lineage
  have firstStore : first.store = _ :=
    (congrArg Backend.store entitiesLeft).trans (Store.onRelation_ok entitiesOk).2.2
  have secondStore : second.store = _ :=
    (congrArg Backend.store utxosLeft).trans (Store.onRelation_ok utxosOk).2.2
  have thirdStore : third.store = _ :=
    (congrArg Backend.store spendsLeft).trans (Store.onRelation_ok spendsOk).2.2
  -- Each statement keeps the relations and the lineage, which the others ask for.
  have entitiesExist := (Store.onRelation_ok entitiesOk).1
  have utxosExist := (Store.onRelation_ok utxosOk).1
  have spendsExist := (Store.onRelation_ok spendsOk).1
  rw [firstStore] at utxosExist
  rw [secondStore, firstStore] at spendsExist
  have lineageKept : third.store.lineage = before.store.lineage := by
    rw [thirdStore, secondStore, firstStore]
    rfl
  refine ⟨⟨entitiesExist, utxosExist, spendsExist⟩, ?_⟩
  rw [← lineageOk]
  exact Store.unwindCovenantLineage_congr lineageKept.symm

/-- A mapping's unwind succeeds only in a migrated schema whose lineage it can cut. -/
theorem unwindCommitted_requires {loaded : LoadedMapping} {cutoff : Int64}
    (lowest : lowestDaa unwinds = some cutoff)
    (success : run exec (unwindCommitted indexer subgraph (some loaded) prior unwinds) before =
      (.ok anchor, after)) :
    before.store.Migrated subgraph ∧
      (before.store.unwindCovenantLineage subgraph cutoff).1 = .ok () := by
  have some : unwinds ≠ [] := by
    intro none
    rw [none] at lowest
    cases lowest
  unfold unwindCommitted at success
  rw [if_neg (by simpa using some)] at success
  obtain ⟨removed, first, blocks, success⟩ := (run_bind_ok_iff exec _ _ _ _ _).mp success
  obtain ⟨_, second, derived, -⟩ := (run_bind_ok_iff exec _ _ _ _ _).mp success
  obtain ⟨migrated, cuts⟩ := unwindDerived_requires lowest derived
  rw [((run_request_ok_iff _ _ _ _ _).mp blocks).2] at migrated cuts
  refine ⟨⟨migrated.entityVersions, migrated.covenantUtxos, migrated.covenantSpends⟩, ?_⟩
  rw [← cuts]
  exact Store.unwindCovenantLineage_congr rfl

end Unwinding

/-! ## The store between two statements -/

namespace Store

theorem sameTables_iff (store other : Store δ) :
    store.SameTables other ↔ (store.kasgraphPoi = other.kasgraphPoi ∧
      store.kasgraphCommittedBlock = other.kasgraphCommittedBlock ∧
      store.kasgraphDetectedPattern = other.kasgraphDetectedPattern) ∧
      store.entityVersions = other.entityVersions ∧
      store.covenantUtxos = other.covenantUtxos ∧
      store.covenantSpends = other.covenantSpends ∧ store.lineage = other.lineage := by
  constructor
  · intro same
    exact ⟨⟨same.checkpoints, same.committed, same.detected⟩, same.entities, same.utxos,
      same.spends, same.lineage⟩
  · intro same
    exact ⟨same.1.1, same.1.2.1, same.1.2.2, same.2.1, same.2.2.1, same.2.2.2.1, same.2.2.2.2⟩

theorem unwoundFrom_frame (store : Store δ) (subgraph : SubgraphId) (cutoff : Int64) :
    (store.unwoundFrom subgraph cutoff).kasgraphPoi = store.kasgraphPoi ∧
      (store.unwoundFrom subgraph cutoff).kasgraphCommittedBlock = store.kasgraphCommittedBlock ∧
      (store.unwoundFrom subgraph cutoff).kasgraphDetectedPattern =
        store.kasgraphDetectedPattern :=
  ⟨rfl, rfl, rfl⟩

section Stages

variable {store : Store δ} {subgraph : SubgraphId} {cutoff : Int64} {context : String}

theorem unwindEntityVersions_present (migrated : store.Migrated subgraph) :
    (store.unwindEntityVersions subgraph cutoff).2 =
      { store with entityVersions := (store.unwoundFrom subgraph cutoff).entityVersions } :=
  congrArg Prod.snd (onRelation_present migrated.entityVersions)

theorem unwindCovenantUtxos_present (migrated : store.Migrated subgraph) :
    (store.unwindCovenantUtxos subgraph cutoff).2 =
      { store with covenantUtxos := (store.unwoundFrom subgraph cutoff).covenantUtxos } :=
  congrArg Prod.snd (onRelation_present migrated.covenantUtxos)

theorem unwindCovenantSpends_present (migrated : store.Migrated subgraph) :
    (store.unwindCovenantSpends subgraph cutoff).2 =
      { store with covenantSpends := (store.unwoundFrom subgraph cutoff).covenantSpends } :=
  congrArg Prod.snd (onRelation_present migrated.covenantSpends)

/-- The store after some of the statements of a mapping's unwind. -/
def derivedStage (store : Store δ) (subgraph : SubgraphId) (cutoff : Int64) : Nat → Store δ
  | 0 => store
  | 1 => { store with entityVersions := (store.unwoundFrom subgraph cutoff).entityVersions }
  | 2 => { store with
      entityVersions := (store.unwoundFrom subgraph cutoff).entityVersions
      covenantUtxos := (store.unwoundFrom subgraph cutoff).covenantUtxos }
  | 3 => { store with
      entityVersions := (store.unwoundFrom subgraph cutoff).entityVersions
      covenantUtxos := (store.unwoundFrom subgraph cutoff).covenantUtxos
      covenantSpends := (store.unwoundFrom subgraph cutoff).covenantSpends }
  | _ + 4 => store.unwoundFrom subgraph cutoff

theorem afterEach_derived (migrated : store.Migrated subgraph)
    (fits : (store.unwindCovenantLineage subgraph cutoff).1 = .ok ()) (stop : Nat) :
    store.afterEach ((derivedRequests subgraph cutoff).take stop) =
      store.derivedStage subgraph cutoff stop := by
  have first : (store.unwindEntityVersions subgraph cutoff).2 =
      store.derivedStage subgraph cutoff 1 := unwindEntityVersions_present migrated
  have second : ((store.derivedStage subgraph cutoff 1).unwindCovenantUtxos subgraph cutoff).2 =
      store.derivedStage subgraph cutoff 2 :=
    unwindCovenantUtxos_present ⟨migrated.entityVersions, migrated.covenantUtxos,
      migrated.covenantSpends⟩
  have third : ((store.derivedStage subgraph cutoff 2).unwindCovenantSpends subgraph cutoff).2 =
      store.derivedStage subgraph cutoff 3 :=
    unwindCovenantSpends_present ⟨migrated.entityVersions, migrated.covenantUtxos,
      migrated.covenantSpends⟩
  have fourth : ((store.derivedStage subgraph cutoff 3).unwindCovenantLineage subgraph cutoff).2 =
      store.unwoundFrom subgraph cutoff := by
    have same : (store.derivedStage subgraph cutoff 3).lineage = store.lineage := rfl
    exact unwindCovenantLineage_ok ((unwindCovenantLineage_congr same).trans fits)
  have two : store.afterEach ((derivedRequests subgraph cutoff).take 2) =
      store.derivedStage subgraph cutoff 2 :=
    (congrArg (fun left => (left.unwindCovenantUtxos subgraph cutoff).2) first).trans second
  have three : store.afterEach ((derivedRequests subgraph cutoff).take 3) =
      store.derivedStage subgraph cutoff 3 :=
    (congrArg (fun left => (left.unwindCovenantSpends subgraph cutoff).2) two).trans third
  match stop with
  | 0 => rfl
  | 1 => exact first
  | 2 => exact two
  | 3 => exact three
  | more + 4 =>
      rw [List.take_of_length_le (Nat.le_add_left 4 more)]
      exact (congrArg (fun left => (left.unwindCovenantLineage subgraph cutoff).2) three).trans
        fourth

theorem same_entities_iff :
    store.entityVersions = (store.unwoundFrom subgraph cutoff).entityVersions ↔
      (NodeOp.unwindEntityVersions subgraph cutoff).FindsNothing store := by
  rw [eq_comm]
  unfold unwoundFrom NodeOp.FindsNothing
  simp [Table.deleteWhere_eq_self_iff]

theorem same_utxos_iff :
    store.covenantUtxos = (store.unwoundFrom subgraph cutoff).covenantUtxos ↔
      (NodeOp.unwindCovenantUtxos subgraph cutoff).FindsNothing store := by
  rw [eq_comm]
  unfold unwoundFrom NodeOp.FindsNothing
  simp [Table.deleteWhere_eq_self_iff]

theorem same_spends_iff :
    store.covenantSpends = (store.unwoundFrom subgraph cutoff).covenantSpends ↔
      (NodeOp.unwindCovenantSpends subgraph cutoff).FindsNothing store := by
  rw [eq_comm]
  unfold unwoundFrom NodeOp.FindsNothing
  simp [Table.deleteWhere_eq_self_iff]

theorem same_lineage_iff :
    store.lineage = (store.unwoundFrom subgraph cutoff).lineage ↔
      (NodeOp.unwindCovenantLineage subgraph cutoff).FindsNothing store := by
  have rows : store.keptLineageRows subgraph cutoff = store.kasgraphCovenantLineageRow ↔
      store.kasgraphCovenantLineageRow.Each fun row =>
        row.subgraph = subgraph → row.daaScore < cutoff := by
    unfold keptLineageRows
    simp [Table.deleteWhere_eq_self_iff]
  simp only [NodeOp.FindsNothing]
  rw [← rows, eq_comm]
  show LineageTables.mk _ _ = LineageTables.mk _ _ ↔ _
  rw [LineageTables.mk.injEq, and_comm]
  apply and_congr_right
  intro (kept : store.keptLineageRows subgraph cutoff = _)
  unfold unwoundFrom keptLineageHeads
  simp only [kept, Table.updateRows_deleteWhere_eq_self_iff]
  refine forall_congr' fun id => forall_congr' fun head => imp_congr_right fun _ => ?_
  by_cases own : head.subgraph = subgraph
  · simp [own]
  · simp [own, repointHead]

theorem derivedStage_lineage {stop : Nat} (early : stop < 4) :
    (store.derivedStage subgraph cutoff stop).lineage = store.lineage := by
  match stop with
  | 0 | 1 | 2 | 3 => rfl
  | more + 4 => omega

/-- Between two statements the tables are those after the last one exactly when the
statements that have not run find nothing. -/
theorem derivedStage_same_iff (stop : Nat) :
    (store.derivedStage subgraph cutoff stop).SameTables (store.unwoundFrom subgraph cutoff) ↔
      ∀ request ∈ (derivedRequests subgraph cutoff).drop stop, request.op.FindsNothing store := by
  have kept := store.unwoundFrom_frame subgraph cutoff
  rw [sameTables_iff]
  by_cases early : stop < 4
  · rw [derivedStage_lineage early, same_lineage_iff]
    match stop with
    | 0 => simp [derivedStage, derivedRequests, same_entities_iff, same_utxos_iff, same_spends_iff,
        kept]
    | 1 => simp [derivedStage, derivedRequests, same_utxos_iff, same_spends_iff, kept]
    | 2 => simp [derivedStage, derivedRequests, same_spends_iff, kept]
    | 3 => simp [derivedStage, derivedRequests, kept]
    | more + 4 => omega
  · obtain ⟨more, rfl⟩ := Nat.exists_eq_add_of_le' (not_lt.mp early)
    simp [derivedStage, derivedRequests]

end Stages

section Stopped

variable {store : Store δ} {subgraph : SubgraphId} {mapping : Option LoadedMapping}
  {unwinds : List BootstrapBlock}

/-- The store without the rows that go by the hash of a block. -/
def withoutBlocks (store : Store δ) (subgraph : SubgraphId) (unwinds : List BootstrapBlock) :
    Store δ :=
  (store.unwindCommittedBlocksForSubgraph subgraph (unwinds.map (·.hash)) unwindReason).2

/-- The removal of blocks changes no table exactly when it finds none of them. -/
theorem withoutBlocks_same_iff (unwinds : List BootstrapBlock) :
    store.SameTables (store.withoutBlocks subgraph unwinds) ↔
      (NodeOp.unwindCommittedBlocks subgraph (unwinds.map (·.hash)) unwindReason).FindsNothing
        store := by
  unfold withoutBlocks
  generalize unwinds.map (·.hash) = hashes
  constructor
  · intro same k row found own listed
    have removed : row ∈ store.committedRowsFor subgraph hashes :=
      (store.mem_committedRowsFor subgraph hashes row).mpr
        ⟨by rw [Table.key_of_find found]; exact found, own, listed⟩
    have spared := (Table.deleteWhere_eq_self_iff _ _).mp same.committed.symm k row found
    simp only [own, decide_true, Bool.true_and, List.contains_eq_mem, decide_eq_false_iff_not,
      List.mem_map, not_exists, not_and] at spared
    exact spared row removed rfl
  · intro nothing
    have none : store.committedRowsFor subgraph hashes = [] := by
      rw [List.eq_nil_iff_forall_not_mem]
      intro row member
      obtain ⟨found, own, listed⟩ := (store.mem_committedRowsFor subgraph hashes row).mp member
      exact nothing _ row found own listed
    unfold unwindCommittedBlocksForSubgraph
    rw [none, sameTables_iff]
    simp [lineage, Table.deleteWhere_of_none]

/-- The unwind of what a mapping derived meets no error. -/
def Unwindable (store : Store δ) (subgraph : SubgraphId) (mapping : Option LoadedMapping)
    (unwinds : List BootstrapBlock) : Prop :=
  ∀ loaded cutoff, mapping = some loaded → lowestDaa unwinds = some cutoff →
    store.Migrated subgraph ∧ (store.unwindCovenantLineage subgraph cutoff).1 = .ok ()

/-- A mapping's statements look at no table that the removal of blocks changes. -/
theorem findsNothing_withoutBlocks (unwinds : List BootstrapBlock) (cutoff : Int64) (stop : Nat) :
    (∀ request ∈ (derivedRequests subgraph cutoff).drop stop,
        request.op.FindsNothing (store.withoutBlocks subgraph unwinds)) ↔
      ∀ request ∈ (derivedRequests subgraph cutoff).drop stop, request.op.FindsNothing store := by
  refine forall_congr' fun request => forall_congr' fun member => ?_
  have listed := List.mem_of_mem_drop member
  simp only [derivedRequests, List.mem_cons, List.not_mem_nil, or_false] at listed
  obtain rfl | rfl | rfl | rfl := listed
  · rfl
  · rfl
  · rfl
  · rfl

/-- An unwind runs a mapping's statements from the lowest score, or only removes blocks. -/
theorem unwind_cases (fits : store.Unwindable subgraph mapping unwinds) :
    (∃ cutoff, unwindRequests (δ := δ) subgraph mapping unwinds =
        ⟨"unwinding committed blocks for reorg",
          .unwindCommittedBlocks subgraph (unwinds.map (·.hash)) unwindReason⟩ ::
          derivedRequests subgraph cutoff ∧
        store.unwound subgraph mapping unwinds =
          (store.withoutBlocks subgraph unwinds).unwoundFrom subgraph cutoff ∧
        ∀ stop, (store.withoutBlocks subgraph unwinds).afterEach
          ((derivedRequests subgraph cutoff).take stop) =
            (store.withoutBlocks subgraph unwinds).derivedStage subgraph cutoff stop) ∨
      (unwindRequests (δ := δ) subgraph mapping unwinds =
        [⟨"unwinding committed blocks for reorg",
          .unwindCommittedBlocks subgraph (unwinds.map (·.hash)) unwindReason⟩] ∧
        store.unwound subgraph mapping unwinds = store.withoutBlocks subgraph unwinds) := by
  unfold unwindRequests unwound unwoundDerived
  cases mapping with
  | none => exact Or.inr ⟨rfl, rfl⟩
  | some loaded =>
      cases lowest : lowestDaa unwinds with
      | none => exact Or.inr ⟨rfl, rfl⟩
      | some cutoff =>
          obtain ⟨migrated, cuts⟩ := fits loaded cutoff rfl lowest
          refine Or.inl ⟨cutoff, rfl, rfl, afterEach_derived
            ⟨migrated.entityVersions, migrated.covenantUtxos, migrated.covenantSpends⟩ ?_⟩
          rw [← cuts]
          exact unwindCovenantLineage_congr rfl

/-- Before its first statement the tables are those after an unwind exactly when they are
those without the blocks, and these are those after it. -/
theorem sameTables_unwound_iff (mapping : Option LoadedMapping) :
    store.SameTables (store.unwound subgraph mapping unwinds) ↔
      store.SameTables (store.withoutBlocks subgraph unwinds) ∧
        (store.withoutBlocks subgraph unwinds).SameTables
          (store.unwound subgraph mapping unwinds) := by
  have frame := (store.withoutBlocks subgraph unwinds).unwoundDerived_frame subgraph mapping unwinds
  have kept : store.entityVersions = (store.withoutBlocks subgraph unwinds).entityVersions ∧
      store.covenantUtxos = (store.withoutBlocks subgraph unwinds).covenantUtxos ∧
      store.covenantSpends = (store.withoutBlocks subgraph unwinds).covenantSpends ∧
      store.lineage = (store.withoutBlocks subgraph unwinds).lineage := ⟨rfl, rfl, rfl, rfl⟩
  have whole : store.unwound subgraph mapping unwinds =
      (store.withoutBlocks subgraph unwinds).unwoundDerived subgraph mapping unwinds := rfl
  rw [sameTables_iff, sameTables_iff, sameTables_iff, whole]
  simp only [frame, kept, true_and, and_true]

/-- The tables between two statements of an unwind are those after it exactly when the
statements that have not run find nothing. -/
theorem afterEach_unwind_same_iff (fits : store.Unwindable subgraph mapping unwinds) (stop : Nat) :
    (store.afterEach ((unwindRequests subgraph mapping unwinds).take stop)).SameTables
        (store.unwound subgraph mapping unwinds) ↔
      ∀ request ∈ (unwindRequests subgraph mapping unwinds).drop stop,
        request.op.FindsNothing store := by
  have blocks := @withoutBlocks_same_iff _ store subgraph unwinds
  have again := @findsNothing_withoutBlocks _ store subgraph unwinds
  have begins := @sameTables_unwound_iff _ store subgraph unwinds mapping
  obtain ⟨cutoff, requests, unwound, staged⟩ | ⟨requests, unwound⟩ := unwind_cases fits
  · rw [unwound] at begins
    rw [requests, unwound]
    cases stop with
    | zero =>
        rw [List.take_zero, List.drop_zero, List.forall_mem_cons, ← blocks]
        refine begins.trans (and_congr_right fun _ => ?_)
        exact (derivedStage_same_iff 0).trans (again cutoff 0)
    | succ stop =>
        rw [List.take_succ_cons, List.drop_succ_cons]
        show ((store.withoutBlocks subgraph unwinds).afterEach _).SameTables _ ↔ _
        rw [staged]
        exact (derivedStage_same_iff stop).trans (again cutoff stop)
  · rw [requests, unwound]
    cases stop with
    | zero => simpa [afterEach] using blocks
    | succ stop => simp [afterEach, sameTables_iff, NodeOp.onStore, withoutBlocks]

theorem SameTables.eq {store other : Store δ} (same : store.SameTables other)
    (audits : store.kasgraphRpcBlockAudit = other.kasgraphRpcBlockAudit)
    (reorgs : store.kasgraphReorgAudit = other.kasgraphReorgAudit)
    (relations : store.relations = other.relations) : store = other := by
  obtain ⟨poi, committed, detected, entities, utxos, spends, lineage⟩ := same
  cases store
  cases other
  simp_all [Store.lineage]

/-- An unwind that was begun, and whose other statements find nothing, leaves the store it
leaves when it runs to its end. -/
theorem afterEach_unwind_eq (fits : store.Unwindable subgraph mapping unwinds) {stop : Nat}
    (begun : 0 < stop) (rest : ∀ request ∈ (unwindRequests subgraph mapping unwinds).drop stop,
      request.op.FindsNothing store) :
    store.afterEach ((unwindRequests subgraph mapping unwinds).take stop) =
      store.unwound subgraph mapping unwinds := by
  have same := (afterEach_unwind_same_iff fits stop).mpr rest
  obtain ⟨more, rfl⟩ := Nat.exists_eq_succ_of_ne_zero begun.ne'
  obtain ⟨cutoff, requests, unwound, staged⟩ | ⟨requests, unwound⟩ := unwind_cases fits
  · rw [requests, unwound, List.take_succ_cons] at same
    rw [requests, unwound, List.take_succ_cons]
    change ((store.withoutBlocks subgraph unwinds).afterEach _).SameTables _ at same
    show (store.withoutBlocks subgraph unwinds).afterEach _ = _
    rw [staged] at same ⊢
    match more with
    | 0 => exact same.eq rfl rfl rfl
    | 1 => exact same.eq rfl rfl rfl
    | 2 => exact same.eq rfl rfl rfl
    | 3 => exact same.eq rfl rfl rfl
    | _ + 4 => rfl
  · rw [requests, unwound, List.take_succ_cons, List.take_nil]
    rfl

end Stopped

end Store

/-! ## The node, stopped and started again -/

theorem foldl_exec (requests : List (Request δ)) (backend : Backend δ) :
    requests.foldl (fun current request => (exec request current).2) backend =
      { store := backend.store.afterEach requests
        published := backend.published ++ requests.flatMap fun request => request.op.event } := by
  induction requests generalizing backend with
  | nil => simp [Store.afterEach]
  | cons request requests ih =>
      rw [List.foldl_cons, ih]
      simp [Store.afterEach, exec]

theorem unwindRequests_silent {subgraph : SubgraphId} {mapping : Option LoadedMapping}
    {unwinds : List BootstrapBlock} :
    ∀ request ∈ unwindRequests (δ := δ) subgraph mapping unwinds, request.op.event = [] := by
  unfold unwindRequests derivedRequests
  split
  · simp [NodeOp.event]
  · simp [NodeOp.event]

namespace IngestionState

/-- The digest in memory has no part in what a block does. -/
theorem applyBlock_reseed (state : IngestionState δ) (prior : δ) (block : BootstrapBlock) :
    (state.reseedPriorPoi prior).applyBlock block =
      ((state.applyBlock block).1, (state.applyBlock block).2.reseedPriorPoi prior) := by
  cases present : state.committed[block.daaScore]? with
  | some held =>
      have reseeded : (state.reseedPriorPoi prior).committed[block.daaScore]? = some held := present
      rw [applyBlock_of_committed present, applyBlock_of_committed reseeded]
  | none =>
      obtain ⟨transition, waiting, entries, -, -, acts⟩ := state.applyBlock_of_free block
      rw [acts state rfl rfl present, acts (state.reseedPriorPoi prior) rfl rfl present]
      rfl

theorem applyBlocks_reseed (state : IngestionState δ) (prior : δ) (blocks : List BootstrapBlock) :
    ((state.reseedPriorPoi prior).applyBlocks blocks).1 = (state.applyBlocks blocks).1 := by
  induction blocks generalizing state with
  | nil => rfl
  | cons block rest ih =>
      simp only [applyBlocks]
      rw [applyBlock_reseed, ih]

/-- The memory without the blocks under some hashes. -/
def without (state : IngestionState δ) (removed : List String) : IngestionState δ :=
  { state with
    committed := state.committed.filter fun _ block => !removed.contains block.hash
    probabilistic := state.probabilistic.filter fun _ block => !removed.contains block.hash }

/-- Blocks at scores free of committed blocks do to a memory where no block waits what they do
to a fresh one. -/
theorem applyBlocks_of_quiet {kept : IngestionState δ} (quiet : kept.probabilistic = ∅) (prior : δ)
    {blocks : List BootstrapBlock}
    (free : ∀ block ∈ blocks, kept.committed[block.daaScore]? = none) :
    ((withFinalityDepth prior kept.finalityDepth).applyBlocks blocks).1 =
      (kept.applyBlocks blocks).1 := by
  have forgets := @Forgets.of_quiet _ (kept.reseedPriorPoi prior) quiet
  exact (forgets.applyBlocks free).1.trans (applyBlocks_reseed kept prior blocks)

end IngestionState

namespace NodeState

variable {indexer : Indexer δ} {state after : NodeState δ} {notification : ChainNotification}

/-- The process stops in the middle of a notification, after a number of its statements, and
starts again over the store these leave. -/
def interrupted (indexer : Indexer δ) (state : NodeState δ) (notification : ChainNotification)
    (stop : Nat) : NodeState δ :=
  boot indexer state.subgraph state.mapping state.owned state.ingestion.finalityDepth
    (stoppedAfter exec stop (state.runtime.notify indexer notification) state.backend)
    state.ledger state.history

/-- The notification that was stopped, delivered again. -/
def redelivered (indexer : Indexer δ) (state : NodeState δ) (notification : ChainNotification)
    (stop : Nat) : Option (NodeState δ) :=
  (state.interrupted indexer notification stop).notify indexer notification

/-- What a notification that succeeds does: its transition in memory, its unwind, and the
blocks it commits. -/
theorem notify_run (success : state.notify indexer notification = some after) :
    ∃ memory anchor anchored,
      state.ingestion.applyNotification indexer.toolkit notification =
        .ok (state.transition indexer notification, memory) ∧
      state.unwind indexer notification = (.ok anchor, anchored) ∧
      run exec ((state.transition indexer notification).committedWrites.foldlM
        (persistCommittedWrite indexer state.subgraph state.mapping) anchor) anchored =
          (.ok after.ingestion.priorPoi, after.backend) ∧
      trace exec (state.runtime.notify indexer notification) state.backend =
        trace exec (unwindCommitted indexer state.subgraph state.mapping state.ingestion.priorPoi
          (state.transition indexer notification).committedUnwinds) state.backend ++
        trace exec ((state.transition indexer notification).committedWrites.foldlM
          (persistCommittedWrite indexer state.subgraph state.mapping) anchor) anchored := by
  unfold notify at success
  split at success
  · rename_i outcome runtime backend ran
    rw [← Option.some.inj success]
    unfold SubgraphRuntime.notify at ran ⊢
    obtain ⟨⟨outcome', ingestion⟩, between, applied, returned⟩ :=
      (run_bind_ok_iff exec _ _ _ _ _).mp ran
    simp only [run_pure, Prod.mk.injEq, Except.ok.injEq] at returned
    obtain ⟨⟨-, rfl⟩, rfl⟩ := returned
    rw [trace_bind_of_ok exec applied]
    unfold applyAndPersistNotification at applied ⊢
    split at applied
    · simp at applied
    · rename_i transition memory inMemory
      have reported : state.transition indexer notification = transition := by
        unfold NodeState.transition NodeState.ingestion
        rw [inMemory]
      obtain ⟨final, between', persisted, returned⟩ := (run_bind_ok_iff exec _ _ _ _ _).mp applied
      simp only [run_pure, Prod.mk.injEq, Except.ok.injEq] at returned
      obtain ⟨⟨-, rfl⟩, rfl⟩ := returned
      rw [trace_bind_of_ok exec persisted]
      unfold persistTransition at persisted ⊢
      obtain ⟨anchor, anchored, unwound, written⟩ := (run_bind_ok_iff exec _ _ _ _ _).mp persisted
      have settings := IngestionState.applyNotification_settings inMemory
      rw [settings.1] at unwound
      rw [reported]
      refine ⟨memory, anchor, anchored, inMemory, ?_, written, ?_⟩
      · unfold unwind
        rw [reported]
        exact unwound
      · rw [settings.1, trace_bind_of_ok exec unwound]
        simp
  · cases success

/-- The statements of a notification's unwind. -/
def unwindStatements (indexer : Indexer δ) (state : NodeState δ)
    (notification : ChainNotification) : List (Request δ) :=
  unwindRequests state.subgraph state.mapping
    (state.transition indexer notification).committedUnwinds

/-- The backend between two statements of a notification's unwind, or after it where no block
is committed. -/
theorem stoppedAfter_notify (success : state.notify indexer notification = some after)
    (removes : (state.transition indexer notification).committedUnwinds ≠ []) (stop : Nat)
    (early : stop ≤ (state.unwindStatements indexer notification).length + 1 ∨
      (state.transition indexer notification).committedWrites = []) :
    stoppedAfter exec stop (state.runtime.notify indexer notification) state.backend =
      { state.backend with
        store := state.store.afterEach
          ((state.unwindStatements indexer notification).take stop) } := by
  obtain ⟨memory, anchor, anchored, -, unwound, -, traced⟩ := notify_run success
  rw [unwindCommitted_trace removes unwound, List.append_assoc] at traced
  unfold stoppedAfter
  rw [traced, foldl_exec, List.take_append]
  change _ ≤ (unwindRequests _ _ _).length + 1 ∨ _ at early
  have silent := @unwindRequests_silent δ state.subgraph state.mapping
    (state.transition indexer notification).committedUnwinds
  unfold unwindStatements
  generalize (unwindRequests (δ := δ) state.subgraph state.mapping
    (state.transition indexer notification).committedUnwinds) = statements at early silent ⊢
  have quiet : (statements.take stop).flatMap (fun request => request.op.event) = [] :=
    List.flatMap_eq_nil_iff.mpr fun request member => silent request (List.mem_of_mem_take member)
  generalize later : trace exec ((state.transition indexer notification).committedWrites.foldlM
    (persistCommittedWrite indexer state.subgraph state.mapping) anchor) anchored = requests
  -- Of what follows the unwind, at most the reading of the digest has run.
  have rest : ([reanchorRequest state.subgraph] ++ requests).take (stop - statements.length) = [] ∨
      ([reanchorRequest state.subgraph] ++ requests).take (stop - statements.length) =
        [reanchorRequest state.subgraph] := by
    obtain within | writeless := early
    · obtain none | one : stop - statements.length = 0 ∨ stop - statements.length = 1 := by omega
      · rw [none]
        exact Or.inl rfl
      · rw [one]
        exact Or.inr rfl
    · rw [writeless] at later
      rw [← later]
      cases stop - statements.length with
      | zero => exact Or.inl rfl
      | succ more => exact Or.inr (by simp)
  obtain rest | rest := rest
  · rw [rest, List.append_nil, quiet, List.append_nil]
  · rw [rest, List.flatMap_append, quiet, Store.afterEach, List.foldl_append]
    simp [reanchorRequest, NodeOp.event, NodeOp.onStore, Store.afterEach]

theorem unwind_published {anchor : δ} {anchored : Backend δ}
    (unwound : state.unwind indexer notification = (.ok anchor, anchored))
    (removes : (state.transition indexer notification).committedUnwinds ≠ []) :
    anchored.published = state.backend.published := by
  unfold unwind at unwound
  have reached := foldl_trace exec (unwindCommitted indexer state.subgraph state.mapping
    state.ingestion.priorPoi (state.transition indexer notification).committedUnwinds) state.backend
  rw [unwindCommitted_trace removes unwound, unwound, foldl_exec] at reached
  have published : anchored.published = _ := congrArg Backend.published reached.symm
  rw [published, List.flatMap_append, List.flatMap_eq_nil_iff.mpr unwindRequests_silent]
  simp [reanchorRequest, NodeOp.event]

/-- A notification that removes and adds blocks, delivered to a node that just started. -/
theorem boot_notify (subgraph : SubgraphId) (mapping : Option LoadedMapping)
    (owned : ∀ loaded, mapping = some loaded → loaded.subgraph = subgraph)
    (finalityDepth : Option UInt64) (backend : Backend δ) (ledger : List (LedgerEntry δ))
    (history : List BootstrapBlock) (removed : List String) (added : List IngestedBlock)
    {digest : δ} {final : Backend δ}
    (ran : run exec ((IngestionState.applyBlocks
        (.withFinalityDepth (anchorOf indexer subgraph backend.store) finalityDepth)
          (added.map (blockFromRpc indexer.toolkit))).1.committedWrites.foldlM
            (persistCommittedWrite indexer subgraph mapping)
              (anchorOf indexer subgraph backend.store)) backend = (.ok digest, final)) :
    ∃ resumed, (boot indexer subgraph mapping owned finalityDepth backend ledger history).notify
        indexer (.virtualChainChanged removed added) = some resumed ∧ resumed.backend = final := by
  have notified := @run_notify _ indexer
    (boot indexer subgraph mapping owned finalityDepth backend ledger history)
    (.virtualChainChanged removed added)
  have emptied : ∀ p : Int64 → BootstrapBlock → Bool,
      (∅ : OrderedMap Int64 BootstrapBlock).filter p = ∅ := fun _ => rfl
  have unwinds : ∀ p : Int64 → BootstrapBlock → Bool,
      (∅ : OrderedMap Int64 BootstrapBlock).valuesWhere p = [] := fun _ => rfl
  rw [IngestionState.applyNotification_virtualChainChanged] at notified
  unfold IngestionState.withFinalityDepth at ran
  simp only [boot, IngestionState.withFinalityDepth, emptied, unwinds, persistTransition, run_bind,
    unwindCommitted_nil, (IngestionState.applyBlocks_settings _ _).1] at notified
  rw [ran] at notified
  unfold NodeState.notify
  simp only [boot, IngestionState.withFinalityDepth]
  rw [notified]
  exact ⟨_, rfl, rfl⟩

section Redelivery

variable {removed : List String} {added : List IngestedBlock}

/-- The blocks a chain change commits are those it adds to a memory without the removed ones. -/
theorem transition_writes :
    (state.transition indexer (.virtualChainChanged removed added)).committedWrites =
      ((state.ingestion.without removed).applyBlocks
        (added.map (blockFromRpc indexer.toolkit))).1.committedWrites := by
  unfold transition
  rw [IngestionState.applyNotification_virtualChainChanged]
  rfl

theorem unwind_unwindable {anchor : δ} {anchored : Backend δ}
    (unwound : state.unwind indexer notification = (.ok anchor, anchored)) :
    state.store.Unwindable state.subgraph state.mapping
      (state.transition indexer notification).committedUnwinds := by
  intro loaded cutoff mapped lowest
  unfold unwind at unwound
  rw [mapped] at unwound
  exact unwindCommitted_requires lowest unwound

/-- A chain change without additions, stopped anywhere and delivered again. -/
theorem redelivered_removal_iff
    (success : state.notify indexer (.virtualChainChanged removed []) = some after)
    (removes : (state.transition indexer (.virtualChainChanged removed [])).committedUnwinds ≠ [])
    (stop : Nat) :
    ∃ resumed, state.redelivered indexer (.virtualChainChanged removed []) stop = some resumed ∧
      (resumed.store.SameTables after.store ↔
        ∀ request ∈ (state.unwindStatements indexer (.virtualChainChanged removed [])).drop stop,
          request.op.FindsNothing state.store) := by
  obtain ⟨memory, anchor, anchored, applied, unwound, written, -⟩ := notify_run success
  have writeless : (state.transition indexer
      (.virtualChainChanged removed [])).committedWrites = [] := transition_writes
  rw [writeless, List.foldlM_nil, run_pure, Prod.mk.injEq] at written
  have stopped := stoppedAfter_notify success removes stop (Or.inr writeless)
  obtain ⟨resumed, again, backend⟩ := boot_notify state.subgraph state.mapping state.runtime.owned
    state.ingestion.finalityDepth (stoppedAfter exec stop (state.runtime.notify indexer
      (.virtualChainChanged removed [])) state.backend) state.ledger state.history removed [] rfl
  refine ⟨resumed, again, ?_⟩
  have stores : resumed.store = state.store.afterEach ((state.unwindStatements indexer
      (.virtualChainChanged removed [])).take stop) := by
    rw [store, backend, stopped]
  have final : after.store = state.store.unwound state.subgraph state.mapping
      (state.transition indexer (.virtualChainChanged removed [])).committedUnwinds := by
    rw [← (unwindCommitted_ok removes unwound).1, written.2]
  rw [stores, final]
  exact Store.afterEach_unwind_same_iff (unwind_unwindable unwound) stop

/-- A chain change whose unwind was begun and has nothing left to do, delivered again to a node
that has no waiting block and no committed block at the score of an added one. -/
theorem redelivered_restores
    (success : state.notify indexer (.virtualChainChanged removed added) = some after)
    (removes : (state.transition indexer
      (.virtualChainChanged removed added)).committedUnwinds ≠ []) {stop : Nat} (begun : 0 < stop)
    (early :
      stop ≤ (state.unwindStatements indexer (.virtualChainChanged removed added)).length + 1)
    (rest :
      ∀ request ∈ (state.unwindStatements indexer (.virtualChainChanged removed added)).drop stop,
        request.op.FindsNothing state.store)
    (quiet : (state.ingestion.without removed).probabilistic = ∅)
    (free : ∀ block ∈ added.map (blockFromRpc indexer.toolkit),
      (state.ingestion.without removed).committed[block.daaScore]? = none) :
    ∃ resumed, state.redelivered indexer (.virtualChainChanged removed added) stop = some resumed ∧
      resumed.store = after.store := by
  obtain ⟨memory, anchor, anchored, applied, unwound, written, -⟩ := notify_run success
  obtain ⟨left, anchors⟩ := unwindCommitted_ok removes unwound
  have stopped := stoppedAfter_notify success removes stop (Or.inl early)
  have unwinds : state.store.afterEach ((state.unwindStatements indexer
      (.virtualChainChanged removed added)).take stop) = anchored.store :=
    (Store.afterEach_unwind_eq (unwind_unwindable unwound) begun rest).trans left.symm
  have backend : stoppedAfter exec stop (state.runtime.notify indexer
      (.virtualChainChanged removed added)) state.backend = anchored := by
    rw [stopped, unwinds]
    show Backend.mk anchored.store state.backend.published = anchored
    rw [← unwind_published unwound removes]
  -- No block waits, so the memory that was erased held committed blocks only.
  have committed : ((IngestionState.withFinalityDepth anchor
      state.ingestion.finalityDepth).applyBlocks
        (added.map (blockFromRpc indexer.toolkit))).1.committedWrites =
      (state.transition indexer (.virtualChainChanged removed added)).committedWrites := by
    rw [transition_writes]
    exact congrArg IngestionTransition.committedWrites
      (IngestionState.applyBlocks_of_quiet quiet anchor free)
  rw [← committed, anchors] at written
  obtain ⟨resumed, again, reached⟩ := boot_notify state.subgraph state.mapping state.runtime.owned
    state.ingestion.finalityDepth anchored state.ledger state.history removed added written
  refine ⟨resumed, ?_, congrArg Backend.store reached⟩
  unfold redelivered interrupted
  rw [backend]
  exact again

end Redelivery

/-- A chain change removes committed blocks, its processing stops after a number of statements,
and it is delivered again. When it adds no block, the tables are those without the stop exactly
when the statements of the unwind that had not run find nothing. When it adds blocks, the store
is the one without the stop if moreover the unwind was begun, no row of an added block was
written, no block is left waiting, and none is added at the score of a committed block that
stays. -/
theorem interrupted_redelivered (indexer : Indexer δ) (state after : NodeState δ)
    (removed : List String) (added : List IngestedBlock)
    (success : state.notify indexer (.virtualChainChanged removed added) = some after)
    (removes : (state.transition indexer
      (.virtualChainChanged removed added)).committedUnwinds ≠ []) (stop : Nat) :
    (added = [] → ∃ resumed,
      state.redelivered indexer (.virtualChainChanged removed added) stop = some resumed ∧
        (resumed.store.SameTables after.store ↔ ∀ request ∈
          (state.unwindStatements indexer (.virtualChainChanged removed added)).drop stop,
            request.op.FindsNothing state.store)) ∧
    (0 < stop →
      stop ≤ (state.unwindStatements indexer (.virtualChainChanged removed added)).length + 1 →
      (∀ request ∈ (state.unwindStatements indexer (.virtualChainChanged removed added)).drop stop,
        request.op.FindsNothing state.store) →
      (∀ (score : Int64) (block : BootstrapBlock),
        state.ingestion.probabilistic[score]? = some block → block.hash ∈ removed) →
      (∀ block ∈ added, ∀ held, state.ingestion.committed[block.daaScore.toInt64]? = some held →
        held.hash ∈ removed) →
      ∃ resumed,
        state.redelivered indexer (.virtualChainChanged removed added) stop = some resumed ∧
          resumed.store = after.store) := by
  constructor
  · intro none
    subst none
    exact redelivered_removal_iff success removes stop
  · intro begun early rest waiting level
    refine redelivered_restores success removes begun early rest ?_ ?_
    · apply OrderedMap.ext_get
      intro score
      unfold IngestionState.without
      rw [OrderedMap.get_filter]
      cases held : state.ingestion.probabilistic[score]? with
      | none => simp
      | some block => simp [waiting score block held]
    · intro block member
      obtain ⟨wire, listed, rfl⟩ := List.mem_map.mp member
      unfold IngestionState.without
      rw [OrderedMap.get_filter]
      show Option.filter _ state.ingestion.committed[wire.daaScore.toInt64]? = none
      cases held : state.ingestion.committed[wire.daaScore.toInt64]? with
      | none => rfl
      | some other => simp [level wire listed other held]

/-- A process that stops after the last statement of an unwind loses nothing. -/
theorem interrupted_redelivered_unwound :
    ∃ state after, htlcStart.notify htlcIndexer firstLock = some state ∧
      state.notify htlcIndexer removeFirst = some after ∧
      ∃ resumed, state.redelivered htlcIndexer removeFirst 5 = some resumed ∧
        resumed.store = after.store := by
  have checked : (htlcStart.notify htlcIndexer firstLock).any (fun state =>
      (state.notify htlcIndexer removeFirst).isSome &&
        !(state.transition htlcIndexer removeFirst).committedUnwinds.isEmpty &&
        (state.unwindStatements htlcIndexer removeFirst).length == 5 &&
        decide (state.ingestion.probabilistic = ∅)) = true := by decide +kernel
  obtain ⟨state, locked, facts⟩ := (Option.any_eq_true _ _).mp checked
  simp only [Bool.and_eq_true, beq_iff_eq, decide_eq_true_eq, Bool.not_eq_true'] at facts
  obtain ⟨⟨⟨runs, removes⟩, length⟩, quiet⟩ := facts
  obtain ⟨after, success⟩ := Option.isSome_iff_exists.mp runs
  have some : (state.transition htlcIndexer removeFirst).committedUnwinds ≠ [] := by
    intro none
    simp [none] at removes
  refine ⟨state, after, locked, success, (interrupted_redelivered htlcIndexer state after ["a"] []
    success some 5).2 (by decide) (length.ge.trans (Nat.le_succ _)) ?_ ?_ nofun⟩
  · have ended : (state.unwindStatements htlcIndexer removeFirst).drop 5 = [] :=
      List.drop_of_length_le length.le
    show ∀ request ∈ (state.unwindStatements htlcIndexer removeFirst).drop 5, _
    rw [ended]
    exact nofun
  · rw [quiet]
    intro score block held
    simp at held

/-- The output that a removed block locked stays when the process stops after the block was
removed and before its rows were. -/
theorem interrupted_reorg_keeps_rows :
    ¬ ∀ (state after : NodeState (List (List UInt8))) (removed : List String)
        (added : List IngestedBlock) (stop : Nat),
      Steps htlcIndexer (fun _ _ => True) htlcStart state →
      state.notify htlcIndexer (.virtualChainChanged removed added) = some after →
      (state.transition htlcIndexer (.virtualChainChanged removed added)).committedUnwinds ≠ [] →
      ∃ resumed,
        state.redelivered htlcIndexer (.virtualChainChanged removed added) stop = some resumed ∧
          resumed.store.SameTables after.store := by
  have checked : (htlcStart.notifyEach htlcIndexer [firstLock]).any (fun state =>
      !(state.transition htlcIndexer removeFirst).committedUnwinds.isEmpty &&
        (state.notify htlcIndexer removeFirst).any fun after =>
          (state.redelivered htlcIndexer removeFirst 1).all fun resumed =>
            (resumed.store.covenantUtxos.find? ("demo", "t", 0)).isSome &&
              (after.store.covenantUtxos.find? ("demo", "t", 0)).isNone) = true := by
    decide +kernel
  obtain ⟨state, locked, facts⟩ := (Option.any_eq_true _ _).mp checked
  rw [Bool.and_eq_true] at facts
  obtain ⟨after, success, facts'⟩ := (Option.any_eq_true _ _).mp facts.2
  have some : (state.transition htlcIndexer removeFirst).committedUnwinds ≠ [] := by
    intro none
    simp [none] at facts
  intro claimed
  obtain ⟨resumed, again, same⟩ := claimed state after ["a"] [] 1
    (Steps.refl.notifyEach [firstLock] locked) success some
  have kept := facts'
  rw [show state.redelivered htlcIndexer removeFirst 1 = _ from again, Option.all_some,
    Bool.and_eq_true, same.utxos] at kept
  rw [Option.isNone_iff_eq_none.mp kept.2] at kept
  simp at kept

end NodeState

end KasGraph
