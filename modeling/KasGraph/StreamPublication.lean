import KasGraph.LiveSet
import KasGraph.IngestionConservation
import Mathlib.Data.List.Pairwise

set_option autoImplicit false

/-! What the node publishes. Every runtime publishes the hits of the blocks it
commits on the one hub, and an event does not say which subgraph it is for. -/

namespace KasGraph

open EffectProgram

variable {δ : Type}

/-- The events of the hits of a block. -/
def BootstrapBlock.hitEvents (block : BootstrapBlock) : List StreamEvent :=
  block.detectorHits.map (hitEvent block)

/-! ## What a program publishes -/

/-- The program publishes the events. -/
abbrev Publishes {α : Type} (events : List StreamEvent) (program : NodeProgram δ α) : Prop :=
  Emits exec Backend.published events program

theorem perform_publishes {context : String} {op : NodeOp δ} {events : List StreamEvent}
    (told : op.event = events) : Publishes events (perform context op) := by
  intro backend reply final ran
  rw [((run_request_ok_iff _ _ _ _ _).mp ran).2, told]

section Block

variable {indexer : Indexer δ} {subgraph : SubgraphId} {mapping : Option LoadedMapping}
  {block : BootstrapBlock}

theorem publishHitToStream_publishes (hit : DetectedPattern) :
    Publishes (δ := δ) [hitEvent block hit] (publishHitToStream true block hit) :=
  perform_publishes rfl

theorem classifyLineage_silent (blake2b : List UInt8 → List UInt8) (hit : DetectedPattern)
    (inputs : List IngestedTransactionInput) :
    Publishes (δ := δ) [] (classifyLineage blake2b subgraph hit inputs) := by
  unfold classifyLineage
  refine Emits.silent (Emits.findSomeM? fun input => ?_) fun _ => Emits.pure _
  refine Emits.ite (Emits.pure _) ?_
  exact Emits.silent (perform_publishes rfl) fun _ => Emits.pure _

theorem persistLineage_silent (floats : Json.FloatText) (hit : DetectedPattern)
    (lineage : LineageClass) (daaScore : Int64) :
    Publishes (δ := δ) [] (persistLineage floats subgraph hit lineage daaScore) := by
  apply Emits.silent (perform_publishes rfl)
  intro recorded
  refine Emits.ite (Emits.pure _) ?_
  apply Emits.silent (perform_publishes rfl)
  intro prior
  exact Emits.silent (perform_publishes rfl) fun _ => perform_publishes rfl

theorem persistHit_publishes (streams : indexer.stream = true) (hit : DetectedPattern) :
    Publishes [hitEvent block hit] (persistHit indexer subgraph mapping block hit) := by
  cases mapping with
  | none =>
      apply Emits.silent (perform_publishes rfl)
      intro _
      rw [streams]
      exact publishHitToStream_publishes hit
  | some loaded =>
      apply Emits.silent (classifyLineage_silent _ _ _)
      intro lineage
      apply Emits.silent (perform_publishes rfl)
      intro _
      rw [streams]
      apply Emits.andSilent (publishHitToStream_publishes hit)
      intro _
      apply Emits.silent (perform_publishes rfl)
      intro _
      exact persistLineage_silent _ _ _ _

theorem loadEntitySnapshot_silent : Publishes (δ := δ) [] (loadEntitySnapshot subgraph) :=
  Emits.silent (perform_publishes rfl) fun _ => Emits.pure _

theorem upsertEach_silent (context : String) (records : List EntityVersionRecord) :
    Publishes (δ := δ) []
      (forM records fun record => perform context (.upsertEntityVersion record)) :=
  Emits.forM_silent fun _ _ => perform_publishes rfl

theorem dispatchHits_silent (loaded : LoadedMapping) :
    Publishes (δ := δ) [] (dispatchHits loaded subgraph block) := by
  apply Emits.silent loadEntitySnapshot_silent
  intro snapshot
  exact Emits.silent (upsertEach_silent _ _) fun _ => Emits.pure _

theorem persistHits_publishes (streams : indexer.stream = true) :
    Publishes block.hitEvents (persistHits indexer subgraph mapping block) := by
  unfold persistHits
  by_cases bare : block.detectorHits.isEmpty = true
  · rw [if_pos bare]
    unfold BootstrapBlock.hitEvents
    rw [List.isEmpty_iff.mp bare]
    exact Emits.pure _
  · rw [if_neg bare]
    have hits : Publishes block.hitEvents
        (forM block.detectorHits (persistHit indexer subgraph mapping block)) := by
      have each := @Emits.forM _ _ _ _ _ exec Backend.published block.detectorHits
        (persistHit indexer subgraph mapping block) _
        fun hit _ => persistHit_publishes streams hit
      rwa [← List.map_eq_flatMap] at each
    apply Emits.andSilent hits
    intro _
    cases mapping with
    | none => exact Emits.pure _
    | some loaded => exact dispatchHits_silent loaded

theorem consumedByTx_silent (inputs : List IngestedTransactionInput) :
    Publishes (δ := δ) [] (consumedByTx subgraph inputs) := by
  unfold consumedByTx
  have nothing : inputs.flatMap (fun _ => ([] : List StreamEvent)) = [] :=
    List.flatMap_eq_nil_iff.mpr fun _ _ => rfl
  rw [← nothing]
  refine Emits.foldlM (fun consumed input _ => ?_) ∅
  apply Emits.silent (perform_publishes rfl)
  intro spent
  cases spent <;> exact Emits.pure _

theorem spendOperation_silent (spendingTx : String)
    (consumed : List (IngestedTransactionInput × CovenantUtxoRecord)) :
    Publishes (δ := δ) [] (spendOperation subgraph spendingTx consumed) := by
  unfold spendOperation
  refine Emits.ite ?_ (Emits.pure _)
  exact Emits.silent (perform_publishes rfl) fun _ => Emits.pure _

theorem successorCovenantId_silent (spendingTx : String) (spent : CovenantUtxoRecord) :
    Publishes (δ := δ) [] (successorCovenantId subgraph spendingTx spent) := by
  unfold successorCovenantId
  split
  · exact Emits.pure _
  · exact Emits.silent (perform_publishes rfl) fun _ => Emits.pure _

theorem persistSpendingTx_silent (loaded : LoadedMapping) (snapshot : EntitySnapshot)
    (entry : String × List (IngestedTransactionInput × CovenantUtxoRecord)) :
    Publishes (δ := δ) [] (persistSpendingTx loaded subgraph block snapshot entry) := by
  apply Emits.silent (spendOperation_silent _ _)
  intro operation
  apply Emits.forM_silent
  intro consumed _
  apply Emits.silent (successorCovenantId_silent _ _)
  intro successor
  exact Emits.silent (perform_publishes rfl) fun _ => upsertEach_silent _ _

theorem persistSpends_silent : Publishes (δ := δ) [] (persistSpends subgraph mapping block) := by
  unfold persistSpends
  split
  · exact Emits.pure _
  · refine Emits.ite (Emits.pure _) ?_
    apply Emits.silent (consumedByTx_silent _)
    intro consumed
    apply Emits.silent loadEntitySnapshot_silent
    intro snapshot
    exact Emits.forM_silent fun entry _ => persistSpendingTx_silent _ snapshot entry

theorem persistCommittedWrite_publishes (streams : indexer.stream = true) (prior : δ)
    (committed : CommittedBlockWrite) :
    Publishes committed.block.hitEvents
      (persistCommittedWrite indexer subgraph mapping prior committed) := by
  have rows : Publishes committed.block.hitEvents
      (persistCommittedRows indexer subgraph mapping committed.block) := by
    apply Emits.silent (perform_publishes rfl)
    intro _
    apply Emits.silent (perform_publishes rfl)
    intro _
    apply Emits.andSilent (persistHits_publishes streams)
    intro _
    exact Emits.silent persistSpends_silent fun _ => Emits.pure _
  apply Emits.andSilent rows
  intro dispatched
  simp only
  split
  · exact Emits.fail _ _
  · exact Emits.silent (perform_publishes rfl) fun _ => Emits.pure _

theorem unwindCommitted_silent (prior : δ) (unwinds : List BootstrapBlock) :
    Publishes [] (unwindCommitted indexer subgraph mapping prior unwinds) := by
  unfold unwindCommitted
  refine Emits.ite (Emits.pure _) ?_
  apply Emits.silent (perform_publishes rfl)
  intro _
  refine Emits.silent ?_ fun _ => Emits.silent (perform_publishes rfl) fun _ => Emits.pure _
  unfold unwindDerived
  split
  · apply Emits.silent (perform_publishes rfl)
    intro _
    apply Emits.silent (perform_publishes rfl)
    intro _
    exact Emits.silent (perform_publishes rfl) fun _ => perform_publishes rfl
  · exact Emits.pure _

end Block

/-! ## What a notification commits and publishes -/

/-- The blocks a notification commits in a memory. -/
def IngestionState.commits (toolkit : Toolkit) (state : IngestionState δ)
    (notification : ChainNotification) : List BootstrapBlock :=
  match state.applyNotification toolkit notification with
  | .ok (transition, _) => transition.committedWrites.map (·.block)
  | .error _ => []

/-- The blocks a notification commits over the live set, in the order in which they
are persisted. -/
def liveCommits (toolkit : Toolkit) (runtimes : List (SubgraphRuntime δ))
    (notification : ChainNotification) : List BootstrapBlock :=
  runtimes.flatMap fun runtime => runtime.ingestion.commits toolkit notification

theorem notify_publishes {indexer : Indexer δ} (streams : indexer.stream = true)
    (runtime : SubgraphRuntime δ) (notification : ChainNotification) :
    Publishes
      ((runtime.ingestion.commits indexer.toolkit notification).flatMap BootstrapBlock.hitEvents)
      (runtime.notify indexer notification) := by
  refine Emits.andSilent ?_ fun _ => Emits.pure _
  unfold applyAndPersistNotification IngestionState.commits
  cases applied : runtime.ingestion.applyNotification indexer.toolkit notification with
  | error cause => exact Emits.fail _ _
  | ok result =>
      obtain ⟨transition, memory⟩ := result
      simp only
      refine Emits.andSilent ?_ fun _ => Emits.pure _
      rw [List.flatMap_map]
      apply Emits.silent (unwindCommitted_silent _ _)
      intro anchor
      exact Emits.foldlM (fun prior write _ => persistCommittedWrite_publishes streams prior write)
        anchor

/-- A fan-out publishes the hits of every commit of every runtime. -/
theorem fanOut_publishes {indexer : Indexer δ} (streams : indexer.stream = true)
    (runtimes : List (SubgraphRuntime δ)) (notification : ChainNotification) :
    Publishes ((liveCommits indexer.toolkit runtimes notification).flatMap BootstrapBlock.hitEvents)
      (fanOutNotification indexer runtimes notification) := by
  refine Emits.andSilent ?_ fun _ => Emits.pure _
  unfold liveCommits
  rw [List.flatMap_assoc]
  exact Emits.mapM fun runtime _ => notify_publishes streams runtime notification

/-! ## The indexed chain -/

instance (a b : BootstrapBlock) : Decidable (a.Same b) := inferInstanceAs (Decidable (_ ∧ _))

def ChainNotification.removes (notification : ChainNotification) (hash : String) : Bool :=
  match notification with
  | .virtualChainChanged removed _ => removed.contains hash
  | _ => false

/-- The chain that all runtimes index, since the hub was attached: the blocks with hits
on it, and all that were ever put on it. -/
structure IndexedChain where
  held : List BootstrapBlock
  log : List BootstrapBlock

namespace IndexedChain

def empty : IndexedChain := ⟨[], []⟩

/-- The blocks that a notification leaves on the chain. -/
def kept (chain : IndexedChain) (notification : ChainNotification) : List BootstrapBlock :=
  chain.held.filter fun block => !notification.removes block.hash

/-- The commits that put a block on the chain: one of a block that is not on it. -/
def fresh (chain : IndexedChain) (notification : ChainNotification)
    (commits : List BootstrapBlock) : List BootstrapBlock :=
  (commits.filter fun block => !(chain.kept notification).any fun held => held.Same block).pwFilter
    fun a b => ¬ a.Same b

def advance (chain : IndexedChain) (notification : ChainNotification)
    (commits : List BootstrapBlock) : IndexedChain where
  held := chain.kept notification ++ chain.fresh notification commits
  log := chain.log ++ chain.fresh notification commits

/-- No block is committed twice, nor while it is on the chain. -/
structure Takes (chain : IndexedChain) (notification : ChainNotification)
    (commits : List BootstrapBlock) : Prop where
  once : commits.Pairwise fun a b => ¬ a.Same b
  absent : ∀ block ∈ commits, ∀ held ∈ chain.kept notification, ¬ held.Same block

theorem fresh_sublist (chain : IndexedChain) (notification : ChainNotification)
    (commits : List BootstrapBlock) : (chain.fresh notification commits).Sublist commits :=
  (List.pwFilter_sublist _).trans List.filter_sublist

/-- Every commit puts a block on the chain exactly when none repeats another. -/
theorem fresh_eq_iff (chain : IndexedChain) (notification : ChainNotification)
    (commits : List BootstrapBlock) :
    chain.fresh notification commits = commits ↔ chain.Takes notification commits := by
  constructor
  · intro all
    constructor
    · rw [← all]
      exact List.pairwise_pwFilter _
    · intro block member held present same
      rw [← all] at member
      have spared := (List.mem_filter.mp (List.pwFilter_subset _ member)).2
      rw [Bool.not_eq_true', List.any_eq_false] at spared
      exact spared held present (decide_eq_true same)
  · intro takes
    have spared : (commits.filter fun block =>
        !(chain.kept notification).any fun held => held.Same block) = commits := by
      rw [List.filter_eq_self]
      intro block member
      rw [Bool.not_eq_true', List.any_eq_false]
      intro held present
      simpa using takes.absent block member held present
    unfold fresh
    rw [spared]
    exact List.pwFilter_eq_self.mpr takes.once

end IndexedChain

/-- The commits of a block with a hit. -/
def hitCommits (toolkit : Toolkit) (runtimes : List (SubgraphRuntime δ))
    (notification : ChainNotification) : List BootstrapBlock :=
  (liveCommits toolkit runtimes notification).filter fun block => !block.detectorHits.isEmpty

theorem hitEvents_eq_nil_iff (block : BootstrapBlock) :
    block.hitEvents = [] ↔ block.detectorHits.isEmpty = true := by
  rw [BootstrapBlock.hitEvents, List.map_eq_nil_iff, List.isEmpty_iff]

theorem flatMap_hitEvents_filter (blocks : List BootstrapBlock) :
    (blocks.filter fun block => !block.detectorHits.isEmpty).flatMap BootstrapBlock.hitEvents =
      blocks.flatMap BootstrapBlock.hitEvents := by
  induction blocks with
  | nil => rfl
  | cons block rest ih =>
      rw [List.filter_cons]
      by_cases bare : block.detectorHits.isEmpty = true
      · rw [bare, if_neg (by simp), List.flatMap_cons, (hitEvents_eq_nil_iff block).mpr bare, ih,
          List.nil_append]
      · rw [Bool.not_eq_true] at bare
        rw [bare, if_pos (by rfl), List.flatMap_cons, List.flatMap_cons, ih]

/-- What a part of a list maps to is all it maps to only for the whole list. -/
theorem flatMap_perm_iff_of_sublist {α β : Type} {f : α → List β} {part whole : List α}
    (sub : part.Sublist whole) (filled : ∀ item ∈ whole, f item ≠ []) :
    (whole.flatMap f).Perm (part.flatMap f) ↔ part = whole := by
  constructor
  · intro perm
    induction sub with
    | slnil => rfl
    | @cons part whole item sub ih =>
        have shorter := (sub.flatMap f).length_le
        have same := perm.length_eq
        have some : 0 < (f item).length :=
          List.length_pos_iff.mpr (filled item List.mem_cons_self)
        rw [List.flatMap_cons, List.length_append] at same
        omega
    | @cons_cons part whole item sub ih =>
        rw [List.flatMap_cons, List.flatMap_cons, List.perm_append_left_iff] at perm
        rw [ih (fun other member => filled other (List.mem_cons_of_mem _ member)) perm]
  · intro same
    rw [same]

/-- The hits of all commits are those of the commits that put a block on the chain
exactly when no commit repeats another. -/
theorem published_perm_iff (toolkit : Toolkit) (runtimes : List (SubgraphRuntime δ))
    (notification : ChainNotification) (chain : IndexedChain) :
    ((liveCommits toolkit runtimes notification).flatMap BootstrapBlock.hitEvents).Perm
        ((chain.fresh notification (hitCommits toolkit runtimes notification)).flatMap
          BootstrapBlock.hitEvents) ↔
      chain.Takes notification (hitCommits toolkit runtimes notification) := by
  have filled : ∀ block ∈ hitCommits toolkit runtimes notification, block.hitEvents ≠ [] := by
    intro block member bare
    have hits := (List.mem_filter.mp member).2
    rw [(hitEvents_eq_nil_iff block).mp bare] at hits
    cases hits
  rw [← flatMap_hitEvents_filter, ← chain.fresh_eq_iff]
  exact flatMap_perm_iff_of_sublist (chain.fresh_sublist _ _) filled

/-! ## One runtime -/

namespace IngestionState

/-- The committed blocks a notification unwinds are those whose hash it removes. -/
theorem mem_committedUnwinds_iff {toolkit : Toolkit} {state after : IngestionState δ}
    {transition : IngestionTransition} {notification : ChainNotification}
    (consistent : state.Consistent)
    (returned : state.applyNotification toolkit notification = .ok (transition, after))
    (block : BootstrapBlock) :
    block ∈ transition.committedUnwinds ↔
      state.committed[block.daaScore]? = some block ∧ notification.removes block.hash = true := by
  cases notification with
  | blockAdded added =>
      have quiet := (applyBlock_conserved consistent (blockFromRpc toolkit added)).1
      have same : state.applyBlock (blockFromRpc toolkit added) = (transition, after) :=
        Except.ok.inj returned
      rw [same] at quiet
      simp only at quiet
      simp [quiet, ChainNotification.removes]
  | virtualChainChanged removed added =>
      rw [applyNotification_virtualChainChanged] at returned
      obtain ⟨rfl, rfl⟩ := Prod.mk.inj (Except.ok.inj returned)
      rw [OrderedMap.mem_valuesWhere]
      constructor
      · rintro ⟨score, present, gone⟩
        rw [consistent.committedKeyed score block present]
        exact ⟨present, gone⟩
      · rintro ⟨present, gone⟩
        exact ⟨_, present, gone⟩
  | recoveryRequired fromDaa toDaa reason =>
      obtain ⟨rfl, rfl⟩ := applyNotification_recoveryRequired returned
      simp [ChainNotification.removes, IngestionTransition.none]

end IngestionState

/-- The blocks with hits on the chain are committed in the memory. -/
def IndexedChain.TrackedBy (chain : IndexedChain) (state : IngestionState δ) : Prop :=
  ∀ block ∈ chain.held, ∃ committed, state.committed[block.daaScore]? = some committed ∧
    committed.hash = block.hash

/-- As long as one runtime follows the chain alone, it commits once. -/
theorem takes_of_single {toolkit : Toolkit} {runtime : SubgraphRuntime δ}
    {after : IngestionState δ} {transition : IngestionTransition}
    {notification : ChainNotification} {chain : IndexedChain}
    (consistent : runtime.ingestion.Consistent) (tracked : chain.TrackedBy runtime.ingestion)
    (returned : runtime.ingestion.applyNotification toolkit notification = .ok (transition, after)) :
    chain.Takes notification (hitCommits toolkit [runtime] notification) ∧
      (chain.advance notification (hitCommits toolkit [runtime] notification)).TrackedBy after := by
  have conserved := applyNotification_conserved consistent returned
  have unwinds := IngestionState.mem_committedUnwinds_iff consistent returned
  have written : liveCommits toolkit [runtime] notification =
      transition.committedWrites.map (·.block) := by
    simp [liveCommits, IngestionState.commits, returned]
  have apart : (IngestionState.writeEntries transition.committedWrites).Pairwise
      fun a b => a.1 ≠ b.1 := by
    unfold IngestionState.writeEntries
    rw [List.pairwise_map]
    exact List.pairwise_map.mp conserved.writtenOnce
  -- A block that stays on the chain stays committed.
  have stays : ∀ block ∈ chain.kept notification, ∃ committed,
      (runtime.ingestion.committed.filter fun _ block =>
        block ∉ transition.committedUnwinds)[block.daaScore]? = some committed ∧
        committed.hash = block.hash := by
    intro block member
    obtain ⟨held, spared⟩ := List.mem_filter.mp member
    obtain ⟨committed, present, same⟩ := tracked block held
    have kept : committed ∉ transition.committedUnwinds := by
      intro gone
      rw [unwinds, same] at gone
      rw [gone.2] at spared
      cases spared
    refine ⟨committed, ?_, same⟩
    rw [OrderedMap.get_filter, present, Option.filter_some, if_pos (by simpa using kept)]
  have wrote : ∀ block ∈ hitCommits toolkit [runtime] notification,
      ∃ write ∈ transition.committedWrites, write.block = block := by
    intro block member
    have committed := (List.mem_filter.mp member).1
    rw [written] at committed
    exact List.mem_map.mp committed
  constructor
  · constructor
    · unfold hitCommits
      rw [written]
      refine List.Pairwise.filter _ (List.pairwise_map.mpr ?_)
      exact (List.pairwise_map.mp conserved.writtenOnce).imp fun apart same => apart same.2
    · intro block member held kept same
      obtain ⟨write, writes, rfl⟩ := wrote block member
      obtain ⟨committed, present, -⟩ := stays held kept
      rw [same.2, conserved.writtenFresh write writes] at present
      cases present
  · intro block member
    rcases List.mem_append.mp member with old | new
    · obtain ⟨committed, present, same⟩ := stays block old
      refine ⟨committed, ?_, same⟩
      rw [conserved.written]
      refine (OrderedMap.get_insertEach_of_absent _ fun other entry => ?_).trans present
      obtain ⟨write, writes, here⟩ := List.mem_map.mp entry
      have free := conserved.writtenFresh write writes
      rw [(Prod.mk.inj here).1, present] at free
      cases free
    · obtain ⟨write, writes, rfl⟩ := wrote block ((chain.fresh_sublist _ _).subset new)
      refine ⟨write.block, ?_, rfl⟩
      rw [conserved.written]
      exact OrderedMap.get_insertEach_of_mem _ apart (List.mem_map_of_mem writes)

/-! ## Runs of the node -/

namespace Node

variable (env : Environment δ)

/-- The chain after an event. A new process attaches a new hub. -/
def follow (node : Node δ) (chain : IndexedChain) : NodeEvent env.configured → IndexedChain
  | .startup _ => .empty
  | .notify notification =>
      match node.live with
      | none => chain
      | some runtimes =>
          chain.advance notification (hitCommits env.toolkit runtimes notification)
  | _ => chain

/-- The node and the chain after events. -/
def followEach (node : Node δ) (chain : IndexedChain) (events : List (NodeEvent env.configured)) :
    Node δ × IndexedChain :=
  events.foldl (fun state event => (state.1.step env event, state.1.follow env state.2 event))
    (node, chain)

/-- While the node runs, its hub has published the hits of every commit to the chain,
each as often as the commit carries it. -/
def PublishedOnce (node : Node δ) (chain : IndexedChain) : Prop :=
  node.live.isSome = true → node.backend.published.Perm (chain.log.flatMap BootstrapBlock.hitEvents)

/-- The live set commits no block with a hit twice, nor one that is on the chain. -/
def CommitsOnce (node : Node δ) (chain : IndexedChain) (notification : ChainNotification) : Prop :=
  ∀ runtimes, node.live = some runtimes →
    chain.Takes notification (hitCommits env.toolkit runtimes notification)

variable {env}

/-- A notification that reaches every runtime keeps the publication exact exactly when
the live set commits once. -/
theorem notify_publishedOnce_iff {node : Node δ} {chain : IndexedChain}
    {notification : ChainNotification} (before : node.PublishedOnce chain)
    (handed : (node.notify env notification).live.isSome = true) :
    (node.notify env notification).PublishedOnce (node.follow env chain (.notify notification)) ↔
      node.CommitsOnce env chain notification := by
  cases live : node.live with
  | none => simp [notify, live] at handed
  | some runtimes =>
      have published : (node.notify env notification).backend.published =
          node.backend.published ++
            (liveCommits env.toolkit runtimes notification).flatMap BootstrapBlock.hitEvents := by
        unfold notify at handed ⊢
        rw [live] at handed ⊢
        simp only at handed ⊢
        cases ran : run exec (fanOutNotification env.indexer runtimes notification)
            node.backend with
        | mk answer backend =>
            rw [ran] at handed
            cases answer with
            | error reason => simp at handed
            | ok result =>
                obtain ⟨outcome, after⟩ := result
                cases outcome with
                | none => simp at handed
                | some outcome =>
                    exact @fanOut_publishes δ env.indexer rfl runtimes notification _ _ _ ran
      have exact_before : node.backend.published.Perm (chain.log.flatMap BootstrapBlock.hitEvents) :=
        before (by rw [live]; rfl)
      have takes : node.CommitsOnce env chain notification ↔
          chain.Takes notification (hitCommits env.toolkit runtimes notification) := by
        unfold CommitsOnce
        rw [live]
        exact ⟨fun all => all runtimes rfl, fun holds others same => by cases same; exact holds⟩
      rw [takes, ← published_perm_iff]
      unfold PublishedOnce follow
      rw [published, live]
      simp only [handed, true_imp_iff, IndexedChain.advance, List.flatMap_append]
      constructor
      · intro whole
        exact (List.perm_append_left_iff _).mp ((exact_before.symm.append_right _).trans whole)
      · intro added
        exact exact_before.append added

theorem step_publishedOnce {node : Node δ} {chain : IndexedChain}
    (before : node.PublishedOnce chain) (event : NodeEvent env.configured)
    (once : ∀ notification, event = .notify notification →
      node.CommitsOnce env chain notification) :
    (node.step env event).PublishedOnce (node.follow env chain event) := by
  cases event with
  | startup loader =>
      intro running
      simp only [step, startup, follow]
      split <;> exact .refl _
  | deploy name row => exact before
  | remove name => exact before
  | reload loader =>
      simp only [step, reload, follow]
      split
      · exact before
      · rename_i runtimes live
        have told := before (by rw [live]; rfl)
        split <;> exact fun _ => told
  | notify notification =>
      intro handed
      exact (notify_publishedOnce_iff before handed).mpr (once notification rfl) handed

theorem followEach_append (node : Node δ) (chain : IndexedChain)
    (done : List (NodeEvent env.configured)) (event : NodeEvent env.configured) :
    node.followEach env chain (done ++ [event]) =
      ((node.followEach env chain done).1.step env event,
        (node.followEach env chain done).1.follow env (node.followEach env chain done).2 event) := by
  unfold followEach
  rw [List.foldl_append]
  rfl

/-- In every run whose live sets commit once, every hit is published once for each commit
of its block to the chain; and a notification that reaches all runtimes keeps that only
if the live set commits once. -/
theorem stream_published_once (env : Environment δ) (registry : Registry) (backend : Backend δ)
    (events : List (NodeEvent env.configured)) :
    ((∀ done notification, done ++ [.notify notification] <+: events →
        ((stopped registry backend).followEach env .empty done).1.CommitsOnce env
          ((stopped registry backend).followEach env .empty done).2 notification) →
      ∀ done, done <+: events →
        ((stopped registry backend).followEach env .empty done).1.PublishedOnce
          ((stopped registry backend).followEach env .empty done).2) ∧
    ∀ (node : Node δ) (chain : IndexedChain) (notification : ChainNotification),
      node.PublishedOnce chain → (node.notify env notification).live.isSome = true →
        ((node.notify env notification).PublishedOnce
            (node.follow env chain (.notify notification)) ↔
          node.CommitsOnce env chain notification) := by
  constructor
  · intro once done
    induction done using List.reverseRecOn with
    | nil => exact fun _ => nofun
    | append_singleton done event ih =>
        intro first
        rw [followEach_append]
        apply step_publishedOnce (ih ((List.prefix_append done [event]).trans first))
        intro notification same
        rw [same] at first
        exact once done notification first
  · intro node chain notification before handed
    exact notify_publishedOnce_iff before handed

/-! ### Two subgraphs -/

/-- A deployment without a mapping. -/
def metadataRow : RegistryRow where
  schemaSdl := ""
  manifestJson := .null
  wasmSha256 := none
  wasmBytes := none
  removed := false

/-- Two subgraphs are deployed, the node starts, and a swap is locked. -/
def twoDeployed : List (NodeEvent demoEnvironment.configured) :=
  [.deploy "demo" metadataRow, .deploy "other" metadataRow, .startup silentLoader,
    .notify firstLock]

/-- Both runtimes commit the block, and its hit is published by each. -/
theorem stream_published_per_runtime :
    ¬ ∀ (registry : Registry) (backend : Backend (List (List UInt8)))
        (events : List (NodeEvent demoEnvironment.configured)) done, done <+: events →
      ((stopped registry backend).followEach demoEnvironment .empty done).1.PublishedOnce
        ((stopped registry backend).followEach demoEnvironment .empty done).2 := by
  intro always
  have once := always ∅ ⟨.empty ∅, []⟩ twoDeployed twoDeployed (List.prefix_refl _)
  have running : ((stopped ∅ ⟨.empty ∅, []⟩).followEach demoEnvironment .empty
      twoDeployed).1.live.isSome = true := by decide +kernel
  have same := (once running).length_eq
  have twice : ((stopped ∅ ⟨.empty ∅, []⟩).followEach demoEnvironment .empty
      twoDeployed).1.backend.published.length = 2 := by decide +kernel
  have logged : (((stopped ∅ (⟨.empty ∅, []⟩ : Backend (List (List UInt8)))).followEach
      demoEnvironment .empty twoDeployed).2.log.flatMap
        BootstrapBlock.hitEvents).length = 1 := by decide +kernel
  rw [twice, logged] at same
  cases same

end Node

end KasGraph
