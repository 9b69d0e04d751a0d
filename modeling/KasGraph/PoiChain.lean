import KasGraph.Unwind

set_option autoImplicit false

/-! The chain of checkpoints. The digest in memory follows the order in which
blocks are committed, the store keeps one checkpoint for each score: the two agree
as long as every committed block lands on top of the checkpoints that remain. -/

namespace KasGraph

open EffectProgram

variable {δ : Type}

/-! ## The latest checkpoint -/

theorem PoiCheckpoint.compare_key {a b : PoiCheckpoint δ} (same : a.subgraph = b.subgraph) :
    compare a.key b.key = compare a.blockDaaScore b.blockDaaScore := by
  unfold PoiCheckpoint.key
  rw [same]
  exact OrderedMap.compare_pair _ _ _

theorem latestPoi_eq_some {store : Store δ} {subgraph : SubgraphId} {row : PoiCheckpoint δ}
    (stands : store.kasgraphPoi.find? row.key = some row) (own : row.subgraph = subgraph)
    (highest : ∀ other, store.kasgraphPoi.find? other.key = some other →
      other.subgraph = subgraph → other.blockDaaScore ≤ row.blockDaaScore) :
    store.latestPoiForSubgraph subgraph = some row := by
  unfold Store.latestPoiForSubgraph
  rw [Table.selectLast_eq_some_iff]
  refine ⟨stands, by simpa using own, fun k other found chosen => ?_⟩
  have keyed := Table.key_of_find found
  rw [← keyed] at found ⊢
  have mine : other.subgraph = subgraph := by simpa using chosen
  rcases lt_or_eq_of_le (highest other found mine) with below | level
  · left
    rw [PoiCheckpoint.compare_key (mine.trans own.symm)]
    exact Std.compare_eq_lt.mpr below
  · right
    unfold PoiCheckpoint.key
    rw [mine, own, level]

theorem latestPoi_eq_none {store : Store δ} {subgraph : SubgraphId}
    (none : ∀ row, store.kasgraphPoi.find? row.key = some row → row.subgraph ≠ subgraph) :
    store.latestPoiForSubgraph subgraph = .none := by
  unfold Store.latestPoiForSubgraph
  rw [Table.selectLast_eq_none_iff]
  intro k row found
  rw [← Table.key_of_find found] at found
  simpa using none row found

theorem anchorOf_congr {indexer : Indexer δ} {subgraph : SubgraphId} {store other : Store δ}
    (same : store.kasgraphPoi = other.kasgraphPoi) :
    anchorOf indexer subgraph store = anchorOf indexer subgraph other := by
  unfold anchorOf Store.latestPoiForSubgraph
  rw [same]

section Chains

variable (indexer : Indexer δ) (subgraph : SubgraphId) (mapping : Option LoadedMapping)

theorem checkpointsFrom_append (prior : δ) (first second : List (LedgerEntry δ)) :
    checkpointsFrom indexer subgraph mapping prior (first ++ second) =
      checkpointsFrom indexer subgraph mapping prior first ++
        checkpointsFrom indexer subgraph mapping (digestFrom indexer mapping prior first)
          second := by
  induction first generalizing prior with
  | nil => rfl
  | cons entry first ih => exact congrArg (_ :: ·) (ih _)

theorem digestFrom_append (prior : δ) (first second : List (LedgerEntry δ)) :
    digestFrom indexer mapping prior (first ++ second) =
      digestFrom indexer mapping (digestFrom indexer mapping prior first) second :=
  List.foldl_append

theorem checkpointsFrom_map (prior : δ) (entries : List (LedgerEntry δ)) :
    (checkpointsFrom indexer subgraph mapping prior entries).map (·.blockDaaScore) =
      entries.map (·.block.daaScore) := by
  induction entries generalizing prior with
  | nil => rfl
  | cons entry entries ih => exact congrArg (_ :: ·) (ih _)

theorem checkpointsFrom_own (prior : δ) (entries : List (LedgerEntry δ)) :
    ∀ row ∈ checkpointsFrom indexer subgraph mapping prior entries, row.subgraph = subgraph := by
  induction entries generalizing prior with
  | nil => exact nofun
  | cons entry entries ih =>
      intro row member
      rcases List.mem_cons.mp member with rfl | later
      · rfl
      · exact ih _ row later

theorem checkpointsFrom_daa {prior : δ} {entries : List (LedgerEntry δ)} {row : PoiCheckpoint δ}
    (member : row ∈ checkpointsFrom indexer subgraph mapping prior entries) :
    ∃ entry ∈ entries, entry.block.daaScore = row.blockDaaScore := by
  have score : row.blockDaaScore ∈
      (checkpointsFrom indexer subgraph mapping prior entries).map (·.blockDaaScore) :=
    List.mem_map_of_mem member
  rw [checkpointsFrom_map] at score
  exact List.mem_map.mp score

end Chains

/-! ## The restart anchor -/

namespace NodeState

variable (indexer : Indexer δ)

/-- The checkpoints that the unwind of a notification leaves. -/
def Remains (state : NodeState δ) (notification : ChainNotification) (row : PoiCheckpoint δ) :
    Prop :=
  state.store.kasgraphPoi.find? row.key = some row ∧ row.subgraph = state.subgraph ∧
    row.blockDaaScore ∉ (state.store.committedRowsFor state.subgraph
      (state.unwoundHashes indexer notification)).map (·.daaScore)

/-- The last block a notification commits lies at or above the others and every
checkpoint that remains. -/
def CommitsOnTop (state : NodeState δ) (notification : ChainNotification) : Prop :=
  ∀ last, (state.newlyCommitted indexer notification).getLast? = some last →
    (∀ block ∈ state.newlyCommitted indexer notification, block.daaScore ≤ last.daaScore) ∧
      ∀ row, state.Remains indexer notification row → row.blockDaaScore ≤ last.daaScore

/-- The digest in memory is the one a restart would load. -/
def Anchored (state : NodeState δ) : Prop :=
  state.ingestion.priorPoi = anchorOf indexer state.subgraph state.store

variable {indexer}

theorem Notified.sameSubgraph {state after : NodeState δ} {notification : ChainNotification}
    {memory : IngestionState δ} {anchor : δ} {anchored : Backend δ}
    (notified : Notified indexer state notification after memory anchor anchored) :
    after.subgraph = state.subgraph ∧ after.mapping = state.mapping := by
  unfold subgraph mapping
  rw [notified.runtime]
  exact ⟨rfl, rfl⟩

/-- After the unwind the digest is that of the latest checkpoint, and the
checkpoints are those that remain. -/
theorem Notified.anchored {state after : NodeState δ} {notification : ChainNotification}
    {memory : IngestionState δ} {anchor : δ} {anchored : Backend δ}
    (notified : Notified indexer state notification after memory anchor anchored)
    (before : state.Anchored indexer) :
    anchor = anchorOf indexer state.subgraph anchored.store ∧
      ∀ row, row.subgraph = state.subgraph →
        (anchored.store.kasgraphPoi.find? row.key = some row ↔
          state.Remains indexer notification row) := by
  have unwound := notified.unwound
  unfold unwind at unwound
  by_cases some : (state.transition indexer notification).committedUnwinds = []
  · rw [some, unwindCommitted_nil, Prod.mk.injEq, Except.ok.injEq] at unwound
    obtain ⟨rfl, rfl⟩ := unwound
    refine ⟨before, fun row own => ?_⟩
    have kept : state.store.committedRowsFor state.subgraph
        (state.unwoundHashes indexer notification) = [] := by
      rw [List.eq_nil_iff_forall_not_mem]
      intro found member
      have removed := ((state.store.mem_committedRowsFor _ _ _).mp member).2.2
      rw [unwoundHashes, some] at removed
      cases removed
    unfold Remains
    rw [kept]
    exact ⟨fun stands => ⟨stands, own, List.not_mem_nil⟩, And.left⟩
  · obtain ⟨left, anchoring⟩ := unwindCommitted_ok some unwound
    refine ⟨anchoring, fun row own => ?_⟩
    rw [left, Store.find_unwound_poi _ _ _ _ _ own]
    exact ⟨fun stands => ⟨stands.1, own, stands.2⟩, fun remains => ⟨remains.1, remains.2.2⟩⟩

theorem Notified.keepsAnchor {state after : NodeState δ} {notification : ChainNotification}
    {memory : IngestionState δ} {anchor : δ} {anchored : Backend δ}
    (notified : Notified indexer state notification after memory anchor anchored)
    (before : state.Anchored indexer) (onTop : state.CommitsOnTop indexer notification) :
    after.Anchored indexer := by
  obtain ⟨anchoring, remaining⟩ := notified.anchored before
  obtain ⟨chained, final⟩ := notified.persisted.poi state.runtime.owned
  have blocks := notified.persisted.blocks
  unfold Anchored
  rw [notified.sameSubgraph.1, final]
  rcases List.eq_nil_or_concat' (state.newEntries indexer notification) with none | ⟨entries, last, split⟩
  · rw [none] at chained ⊢
    rw [anchorOf_congr chained]
    exact anchoring
  · rw [split] at chained blocks ⊢
    rw [checkpointsFrom_append] at chained
    have committed : state.newlyCommitted indexer notification =
        entries.map (·.block) ++ [last.block] := by
      rw [newlyCommitted, ← blocks, List.map_append]
      rfl
    obtain ⟨above, top⟩ := onTop last.block (by rw [committed, List.getLast?_append]; rfl)
    have final : after.store.kasgraphPoi = (anchored.store.kasgraphPoi.replay
        (checkpointsFrom indexer state.subgraph state.mapping anchor entries)).upsert
          (last.checkpoint indexer state.subgraph state.mapping
            (digestFrom indexer state.mapping anchor entries)) :=
      chained.trans (Table.replay_concat _ _ _)
    have latest : after.store.latestPoiForSubgraph state.subgraph =
        some (last.checkpoint indexer state.subgraph state.mapping
          (digestFrom indexer state.mapping anchor entries)) := by
      apply latestPoi_eq_some
      · rw [final]
        exact Table.find_upsert_self _ _
      · rfl
      · intro other stands own
        rw [final, ← Table.replay_concat] at stands
        rcases Table.find_replay_eq_some stands with written | ⟨stood, -⟩
        · rcases List.mem_append.mp written with earlier | final
          · obtain ⟨entry, member, score⟩ := checkpointsFrom_daa _ _ _ earlier
            rw [← score]
            apply above
            rw [committed]
            exact List.mem_append_left _ (List.mem_map_of_mem member)
          · rw [List.mem_singleton.mp final]
        · exact top other ((remaining other own).mp stood)
    unfold anchorOf
    rw [latest, digestFrom_append]
    rfl

end NodeState

/-- While every notification commits on top of the checkpoints that remain, the
digest in memory is the one a restart would load. -/
theorem prior_poi_is_restart_anchor (indexer : Indexer δ) (subgraph : SubgraphId)
    (mapping : Option LoadedMapping)
    (owned : ∀ loaded, mapping = some loaded → loaded.subgraph = subgraph)
    (finalityDepth : Option UInt64) (backend : Backend δ) (ledger : List (LedgerEntry δ))
    (history : List BootstrapBlock) (state : NodeState δ)
    (run : Steps indexer (NodeState.CommitsOnTop indexer)
      (.boot indexer subgraph mapping owned finalityDepth backend ledger history) state) :
    state.ingestion.priorPoi =
      ((state.store.latestPoiForSubgraph state.subgraph).map (·.poiHash)).getD
        indexer.hasher.seed := by
  induction run with
  | refl => rfl
  | notify notification earlier admitted success ih =>
      obtain ⟨memory, anchor, anchored, notified⟩ := NodeState.notify_notified success
      exact notified.keepsAnchor ih admitted
  | restart earlier ih => rfl

theorem firstBlock_onTop : bareStart.CommitsOnTop bareIndexer firstBlock := by
  intro last top
  rw [firstBlock_committed] at top ⊢
  have here : last = blockFromRpc bareToolkit (headerBlock "a" 10 true) :=
    (Option.some.inj top).symm
  rw [here]
  constructor
  · intro block member
    rw [List.mem_singleton.mp member]
  · intro row remains
    have none := remains.1
    simp [bareStart, NodeState.fresh, NodeState.boot, Store.empty,
      Store.ensureSubgraphSchema] at none

theorem prior_poi_is_restart_anchor_first :
    ∃ state, bareStart.notify bareIndexer firstBlock = some state ∧
      state.ingestion.priorPoi =
        ((state.store.latestPoiForSubgraph state.subgraph).map (·.poiHash)).getD
          freeHasher.seed := by
  obtain ⟨state, success⟩ := firstBlock_succeeds
  exact ⟨state, success, prior_poi_is_restart_anchor bareIndexer demoSubgraph none
    (NodeState.unmapped_owned demoSubgraph) none _ _ _ state
    (.notify firstBlock .refl firstBlock_onTop success)⟩

/-- A block finalized below a committed one moves the digest in memory, and the
latest checkpoint stays that of the higher block. -/
theorem prior_poi_leaves_restart_anchor :
    ∃ state, Steps bareIndexer (fun _ _ => True) bareStart state ∧
      state.ingestion.priorPoi ≠
        ((state.store.latestPoiForSubgraph state.subgraph).map (·.poiHash)).getD
          freeHasher.seed := by
  have checked : (bareStart.notifyEach bareIndexer [firstBlock, lateBlock]).any (fun state =>
      decide (state.ingestion.priorPoi ≠
        ((state.store.latestPoiForSubgraph state.subgraph).map (·.poiHash)).getD
          freeHasher.seed)) = true := by decide +kernel
  obtain ⟨state, ran, apart⟩ := (Option.any_eq_true _ _).mp checked
  exact ⟨state, Steps.refl.notifyEach [firstBlock, lateBlock] ran, of_decide_eq_true apart⟩

end KasGraph
