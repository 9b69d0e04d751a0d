import KasGraph.IngestionConservation
import KasGraph.PoiChain

set_option autoImplicit false

/-! A restart forgets the committed blocks. The indexer that restarted and the one
that kept running stay in step as long as no notification speaks of a block that was
forgotten. -/

namespace KasGraph

open EffectProgram

variable {δ : Type}

/-! ## In memory -/

namespace IngestionState

/-- `fresh` is `kept` without the committed blocks in `held`. -/
structure Forgets (held : OrderedMap Int64 BootstrapBlock) (kept fresh : IngestionState δ) :
    Prop where
  probabilistic : fresh.probabilistic = kept.probabilistic
  priorPoi : fresh.priorPoi = kept.priorPoi
  finalityDepth : fresh.finalityDepth = kept.finalityDepth
  committed : ∀ score : Int64, kept.committed[score]? = (held[score]?).or fresh.committed[score]?
  apart : ∀ (score : Int64) (block : BootstrapBlock), held[score]? = some block →
    fresh.committed[score]? = none ∧ kept.probabilistic[score]? = none

/-- A fresh memory forgets the committed blocks of one where no block waits. -/
theorem Forgets.of_quiet {kept : IngestionState δ} (quiet : kept.probabilistic = ∅) :
    Forgets kept.committed kept (withFinalityDepth kept.priorPoi kept.finalityDepth) where
  probabilistic := quiet.symm
  priorPoi := rfl
  finalityDepth := rfl
  committed := by
    intro score
    simp [withFinalityDepth]
  apart := by
    intro score block present
    rw [quiet]
    simp [withFinalityDepth]

theorem Forgets.applyBlock {held : OrderedMap Int64 BootstrapBlock} {kept fresh : IngestionState δ}
    (forgets : Forgets held kept fresh) {block : BootstrapBlock}
    (clear : held[block.daaScore]? = none) :
    (fresh.applyBlock block).1 = (kept.applyBlock block).1 ∧
      Forgets held (kept.applyBlock block).2 (fresh.applyBlock block).2 := by
  have level : kept.committed[block.daaScore]? = fresh.committed[block.daaScore]? := by
    rw [forgets.committed, clear, Option.none_or]
  cases present : kept.committed[block.daaScore]? with
  | some block' =>
      have keptIgnores := applyBlock_of_committed present
      have freshIgnores := applyBlock_of_committed (level.symm.trans present)
      rw [keptIgnores, freshIgnores]
      exact ⟨rfl, forgets⟩
  | none =>
      obtain ⟨transition, waiting, entries, touched, waits, acts⟩ := kept.applyBlock_of_free block
      have keptActs := acts kept rfl rfl present
      have freshActs := acts fresh forgets.probabilistic forgets.finalityDepth
        (level.symm.trans present)
      -- A forgotten score is neither the block's own nor that of a waiting block.
      have untouched : ∀ (score : Int64) (block' : BootstrapBlock), held[score]? = some block' →
          score ≠ block.daaScore ∧ (kept.probabilistic[score]?).isSome = false := by
        intro score block' stood
        constructor
        · rintro rfl
          rw [clear] at stood
          cases stood
        · rw [(forgets.apart score block' stood).2]
          rfl
      have spared : ∀ (score : Int64) (block' : BootstrapBlock), held[score]? = some block' →
          ∀ v, (score, v) ∉ entries := by
        intro score block' stood v member
        obtain ⟨other, idle⟩ := untouched score block' stood
        rcases touched (score, v) member with own | waiting'
        · exact other own
        · rw [idle] at waiting'
          cases waiting'
      rw [keptActs, freshActs]
      refine ⟨rfl, rfl, forgets.priorPoi, forgets.finalityDepth, fun score => ?_, ?_⟩
      · cases stood : held[score]? with
        | none =>
            have same := forgets.committed score
            rw [stood, Option.none_or] at same
            exact OrderedMap.get_insertEach_congr entries same
        | some block' =>
            have same := forgets.committed score
            rw [stood, Option.some_or] at same
            exact (OrderedMap.get_insertEach_of_absent _ (spared score block' stood)).trans same
      · intro score block' stood
        obtain ⟨gone, idle⟩ := forgets.apart score block' stood
        constructor
        · exact (OrderedMap.get_insertEach_of_absent _ (spared score block' stood)).trans gone
        · cases waiting' : waiting[score]? with
          | none => rfl
          | some block'' =>
              obtain ⟨other, still⟩ := untouched score block' stood
              rcases waits score block'' waiting' with own | before
              · exact absurd own other
              · rw [still] at before
                cases before

theorem Forgets.applyBlocks {held : OrderedMap Int64 BootstrapBlock} {kept fresh : IngestionState δ}
    (forgets : Forgets held kept fresh) {blocks : List BootstrapBlock}
    (clear : ∀ block ∈ blocks, held[block.daaScore]? = none) :
    (fresh.applyBlocks blocks).1 = (kept.applyBlocks blocks).1 ∧
      Forgets held (kept.applyBlocks blocks).2 (fresh.applyBlocks blocks).2 := by
  induction blocks generalizing kept fresh with
  | nil => exact ⟨rfl, forgets⟩
  | cons block rest ih =>
      obtain ⟨first, middle⟩ := forgets.applyBlock (clear block (List.mem_cons_self ..))
      obtain ⟨later, final⟩ := ih middle fun other member =>
        clear other (List.mem_cons_of_mem _ member)
      refine ⟨?_, final⟩
      simp only [IngestionState.applyBlocks]
      rw [first, later]

end IngestionState

/-- A notification that neither delivers a block at a score held nor removes a hash
held. -/
def ChainNotification.Avoids (held : OrderedMap Int64 BootstrapBlock) :
    ChainNotification → Prop
  | .blockAdded block => held[block.daaScore.toInt64]? = none
  | .virtualChainChanged removed added =>
      (∀ block ∈ added, held[block.daaScore.toInt64]? = none) ∧
        ∀ (score : Int64) (block : BootstrapBlock), held[score]? = some block →
          block.hash ∉ removed
  | .recoveryRequired .. => True

namespace IngestionState

theorem Forgets.drained {held : OrderedMap Int64 BootstrapBlock} {kept fresh : IngestionState δ}
    (forgets : Forgets held kept fresh) {removed : List String}
    (stays : ∀ (score : Int64) (block : BootstrapBlock), held[score]? = some block →
      block.hash ∉ removed) :
    Forgets held
      { kept with
        committed := kept.committed.filter fun _ block => !removed.contains block.hash
        probabilistic := kept.probabilistic.filter fun _ block => !removed.contains block.hash }
      { fresh with
        committed := fresh.committed.filter fun _ block => !removed.contains block.hash
        probabilistic :=
          fresh.probabilistic.filter fun _ block => !removed.contains block.hash } where
  probabilistic := by rw [forgets.probabilistic]
  priorPoi := forgets.priorPoi
  finalityDepth := forgets.finalityDepth
  committed := by
    intro score
    rw [OrderedMap.get_filter, OrderedMap.get_filter, forgets.committed]
    cases stood : held[score]? with
    | none => rw [Option.none_or, Option.none_or]
    | some block =>
        rw [Option.some_or, Option.some_or, Option.filter_some,
          if_pos (by simpa using stays score block stood)]
  apart := by
    intro score block stood
    obtain ⟨gone, idle⟩ := forgets.apart score block stood
    rw [OrderedMap.get_filter, OrderedMap.get_filter, gone, idle]
    exact ⟨rfl, rfl⟩

/-- Both indexers report the same transition, or both abort. -/
theorem Forgets.applyNotification {held : OrderedMap Int64 BootstrapBlock}
    {kept fresh : IngestionState δ} (forgets : Forgets held kept fresh) (toolkit : Toolkit)
    {notification : ChainNotification} (clear : notification.Avoids held) :
    (∃ cause, kept.applyNotification toolkit notification = .error cause ∧
      fresh.applyNotification toolkit notification = .error cause) ∨
    ∃ transition keptAfter freshAfter,
      kept.applyNotification toolkit notification = .ok (transition, keptAfter) ∧
      fresh.applyNotification toolkit notification = .ok (transition, freshAfter) ∧
      Forgets held keptAfter freshAfter := by
  cases notification with
  | blockAdded block =>
      have free : held[(blockFromRpc toolkit block).daaScore]? = none := clear
      obtain ⟨same, after⟩ := forgets.applyBlock free
      refine Or.inr ⟨_, (kept.applyBlock (blockFromRpc toolkit block)).2,
        (fresh.applyBlock (blockFromRpc toolkit block)).2, rfl, ?_, after⟩
      exact congrArg (fun transition => Except.ok
        (transition, (fresh.applyBlock (blockFromRpc toolkit block)).2)) same
  | virtualChainChanged removed added =>
      obtain ⟨arrivals, stays⟩ := clear
      have selected : ∀ score : Int64,
          fresh.committed[score]?.filter (fun block => removed.contains block.hash) =
            kept.committed[score]?.filter fun block => removed.contains block.hash := by
        intro score
        rw [forgets.committed]
        cases stood : held[score]? with
        | none => rw [Option.none_or]
        | some block =>
            rw [(forgets.apart score block stood).1, Option.some_or, Option.filter_some,
              if_neg (by simpa using stays score block stood)]
            rfl
      have unwinds : fresh.committed.valuesWhere (fun _ block => removed.contains block.hash) =
          kept.committed.valuesWhere fun _ block => removed.contains block.hash :=
        congrArg (List.map Prod.snd) (OrderedMap.entriesWhere_congr selected)
      have drained := forgets.drained stays
      have free : ∀ block ∈ added.map (blockFromRpc toolkit), held[block.daaScore]? = none := by
        intro block member
        obtain ⟨wire, listed, rfl⟩ := List.mem_map.mp member
        exact arrivals wire listed
      obtain ⟨same, after⟩ := drained.applyBlocks free
      rw [applyNotification_virtualChainChanged, applyNotification_virtualChainChanged]
      refine Or.inr ⟨_, _, _, rfl, ?_, after⟩
      simp only [same, unwinds]
      rw [forgets.probabilistic]
  | recoveryRequired fromDaa toDaa reason =>
      simp only [IngestionState.applyNotification, removeProbabilisticInRange,
        forgets.probabilistic]
      split
      · exact Or.inl ⟨_, rfl, rfl⟩
      · refine Or.inr ⟨_, _, _, rfl, rfl, rfl, forgets.priorPoi, forgets.finalityDepth,
          forgets.committed, fun score block stood => ⟨(forgets.apart score block stood).1, ?_⟩⟩
        have idle := (forgets.apart score block stood).2
        rw [OrderedMap.removeEach_keysWhere, OrderedMap.get_filter, idle]
        rfl

end IngestionState

/-! ## The two runs -/

namespace NodeState

variable (indexer : Indexer δ)

/-- The backend after notifications. It stays as the first one that fails leaves it. -/
def backendAfter (state : NodeState δ) : List ChainNotification → Backend δ
  | [] => state.backend
  | notification :: rest =>
      match state.notify indexer notification with
      | some after => after.backendAfter rest
      | none => (run exec (state.runtime.notify indexer notification) state.backend).2

/-- The same subgraph over the same backend, one of the two having forgotten blocks. -/
structure Twin (held : OrderedMap Int64 BootstrapBlock) (kept fresh : NodeState δ) : Prop where
  subgraph : fresh.subgraph = kept.subgraph
  mapping : fresh.mapping = kept.mapping
  backend : fresh.backend = kept.backend
  memory : IngestionState.Forgets held kept.ingestion fresh.ingestion

variable {indexer}

/-- What a notification does to the backend and to the runtime, whatever the ledger. -/
theorem run_notify (state : NodeState δ) (notification : ChainNotification) :
    run exec (state.runtime.notify indexer notification) state.backend =
      match state.ingestion.applyNotification indexer.toolkit notification with
      | .error cause => (.error (.panic cause), state.backend)
      | .ok (transition, memory) =>
          match run exec (persistTransition indexer state.subgraph state.mapping memory.priorPoi
              transition) state.backend with
          | (.error cause, after) => (.error cause, after)
          | (.ok priorPoi, after) =>
              (.ok ({ recoveryRequested := transition.recoveryRequested
                      committedCount := transition.committedWrites.length },
                { state.runtime with ingestion := memory.reseedPriorPoi priorPoi }), after) := by
  unfold SubgraphRuntime.notify applyAndPersistNotification
  cases state.ingestion.applyNotification indexer.toolkit notification with
  | error cause => rfl
  | ok result =>
      simp only [run_bind]
      rcases run exec (persistTransition indexer state.subgraph state.mapping result.2.priorPoi
        result.1) state.backend with ⟨_ | priorPoi, after⟩
      · rfl
      · rfl

theorem Twin.notify {held : OrderedMap Int64 BootstrapBlock} {kept fresh : NodeState δ}
    (twin : Twin held kept fresh) {notification : ChainNotification}
    (clear : notification.Avoids held) :
    (kept.notify indexer notification = none ∧ fresh.notify indexer notification = none ∧
      (run exec (fresh.runtime.notify indexer notification) fresh.backend).2 =
        (run exec (kept.runtime.notify indexer notification) kept.backend).2) ∨
    ∃ keptAfter freshAfter, kept.notify indexer notification = some keptAfter ∧
      fresh.notify indexer notification = some freshAfter ∧ Twin held keptAfter freshAfter := by
  have keptRun := @run_notify _ indexer kept notification
  have freshRun := @run_notify _ indexer fresh notification
  unfold NodeState.notify
  rcases twin.memory.applyNotification indexer.toolkit clear with
    ⟨cause, keptAborts, freshAborts⟩ | ⟨transition, keptMemory, freshMemory, keptActs, freshActs, memory⟩
  · rw [keptAborts] at keptRun
    rw [freshAborts] at freshRun
    rw [keptRun, freshRun]
    exact Or.inl ⟨rfl, rfl, twin.backend⟩
  · have sameRun : run exec (persistTransition indexer fresh.subgraph fresh.mapping
        freshMemory.priorPoi transition) fresh.backend =
        run exec (persistTransition indexer kept.subgraph kept.mapping keptMemory.priorPoi
          transition) kept.backend := by
      rw [twin.subgraph, twin.mapping, twin.backend, memory.priorPoi]
    rw [keptActs] at keptRun
    rw [freshActs] at freshRun
    simp only [sameRun] at freshRun
    rcases ran : run exec (persistTransition indexer kept.subgraph kept.mapping
      keptMemory.priorPoi transition) kept.backend with ⟨cause | priorPoi, after⟩
    · simp only [ran] at keptRun freshRun
      rw [keptRun, freshRun]
      exact Or.inl ⟨rfl, rfl, rfl⟩
    · simp only [ran] at keptRun freshRun
      rw [keptRun, freshRun]
      exact Or.inr ⟨_, _, rfl, rfl, twin.subgraph, twin.mapping, rfl, memory.probabilistic, rfl,
        memory.finalityDepth, memory.committed, memory.apart⟩

theorem Twin.backendAfter {held : OrderedMap Int64 BootstrapBlock} {kept fresh : NodeState δ}
    (twin : Twin held kept fresh) {later : List ChainNotification}
    (clear : ∀ notification ∈ later, notification.Avoids held) :
    fresh.backendAfter indexer later = kept.backendAfter indexer later := by
  induction later generalizing kept fresh with
  | nil => exact twin.backend
  | cons notification rest ih =>
      have avoids := clear notification (List.mem_cons_self ..)
      simp only [NodeState.backendAfter]
      rcases twin.notify avoids with ⟨keptFails, freshFails, same⟩ |
        ⟨keptAfter, freshAfter, keptRuns, freshRuns, next⟩
      · rw [keptFails, freshFails]
        exact same
      · rw [keptRuns, freshRuns]
        exact ih next fun other member => clear other (List.mem_cons_of_mem _ member)

/-- A restart forgets exactly the committed blocks. -/
theorem restart_twin {state : NodeState δ}
    (quiet : state.ingestion.probabilistic = ∅)
    (anchored : state.ingestion.priorPoi = anchorOf indexer state.subgraph state.store) :
    Twin state.ingestion.committed state (state.restart indexer) where
  subgraph := rfl
  mapping := rfl
  backend := rfl
  memory := by
    have forgets := IngestionState.Forgets.of_quiet quiet
    rw [anchored] at forgets
    exact forgets

end NodeState

/-- An indexer restarted with no waiting block and with the stored digest in memory
leaves the store that one which kept running leaves, when no later notification
delivers a block at the score of a block committed before, or removes its hash. -/
theorem restart_unnoticed (indexer : Indexer δ) (state : NodeState δ)
    (quiet : state.ingestion.probabilistic = ∅)
    (anchored : state.ingestion.priorPoi =
      ((state.store.latestPoiForSubgraph state.subgraph).map (·.poiHash)).getD
        indexer.hasher.seed)
    (later : List ChainNotification)
    (clear : ∀ notification ∈ later, notification.Avoids state.ingestion.committed) :
    ((state.restart indexer).backendAfter indexer later).store =
      (state.backendAfter indexer later).store :=
  congrArg Backend.store ((NodeState.restart_twin quiet anchored).backendAfter clear)

/-- A finalized block above the first one. -/
def nextBlock : ChainNotification := .blockAdded (headerBlock "c" 11 true)

theorem restart_unnoticed_next :
    ∃ state, bareStart.notify bareIndexer firstBlock = some state ∧
      ((state.restart bareIndexer).backendAfter bareIndexer [nextBlock]).store =
        (state.backendAfter bareIndexer [nextBlock]).store := by
  have checked : (bareStart.notify bareIndexer firstBlock).any (fun state =>
      decide (state.ingestion.probabilistic = ∅) && decide (state.ingestion.priorPoi =
        ((state.store.latestPoiForSubgraph state.subgraph).map (·.poiHash)).getD
          bareIndexer.hasher.seed) &&
      (state.ingestion.committed[(11 : UInt64).toInt64]?).isNone) = true := by decide +kernel
  obtain ⟨state, success, verdict⟩ := (Option.any_eq_true _ _).mp checked
  rw [Bool.and_eq_true, Bool.and_eq_true, decide_eq_true_eq, decide_eq_true_eq,
    Option.isNone_iff_eq_none] at verdict
  obtain ⟨⟨quiet, anchored⟩, free⟩ := verdict
  refine ⟨state, success, restart_unnoticed bareIndexer state quiet anchored [nextBlock] ?_⟩
  intro notification member
  rw [List.mem_singleton.mp member]
  exact free

/-- After a restart the removal of a block committed before is not unwound. -/
def removeFirst : ChainNotification := .virtualChainChanged ["a"] []

theorem restart_noticed :
    ∃ state, Steps bareIndexer (fun _ _ => True) bareStart state ∧
      state.ingestion.probabilistic = ∅ ∧
      ((state.restart bareIndexer).backendAfter bareIndexer [removeFirst]).store ≠
        (state.backendAfter bareIndexer [removeFirst]).store := by
  have checked : (bareStart.notifyEach bareIndexer [firstBlock]).any (fun state =>
      state.ingestion.probabilistic = ∅ &&
        decide (((state.restart bareIndexer).backendAfter bareIndexer
            [removeFirst]).store.kasgraphCommittedBlock ≠
          (state.backendAfter bareIndexer [removeFirst]).store.kasgraphCommittedBlock)) = true := by
    decide +kernel
  obtain ⟨state, ran, verdict⟩ := (Option.any_eq_true _ _).mp checked
  rw [Bool.and_eq_true, decide_eq_true_eq, decide_eq_true_eq] at verdict
  refine ⟨state, Steps.refl.notifyEach [firstBlock] ran, verdict.1, fun same => ?_⟩
  exact verdict.2 (congrArg Store.kasgraphCommittedBlock same)

end KasGraph
