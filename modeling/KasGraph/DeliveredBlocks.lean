import KasGraph.IngestionConservation
import KasGraph.NodeRun

set_option autoImplicit false

/-! Every block an indexer holds or commits is one that was delivered to it. Its finality flag
may have been raised since; its canonical bytes are those computed on arrival. -/

namespace KasGraph

variable {δ : Type}

/-- The block was delivered so, and at most its finality flag was changed. -/
def BootstrapBlock.DeliveredAs (toolkit : Toolkit) (delivered : IngestedBlock)
    (block : BootstrapBlock) : Prop :=
  ∃ isFinalized, block = { blockFromRpc toolkit delivered with isFinalized }

def BootstrapBlock.Delivered (toolkit : Toolkit) (block : BootstrapBlock) : Prop :=
  ∃ delivered, block.DeliveredAs toolkit delivered

theorem blockFromRpc_delivered (toolkit : Toolkit) (delivered : IngestedBlock) :
    (blockFromRpc toolkit delivered).Delivered toolkit := ⟨delivered, delivered.isFinalized, rfl⟩

theorem BootstrapBlock.Delivered.finalizeBy {toolkit : Toolkit} {block : BootstrapBlock}
    (known : block.Delivered toolkit) (cutoff : Option Int64) :
    (block.finalizeBy cutoff).Delivered toolkit := by
  obtain ⟨delivered, flag, rfl⟩ := known
  unfold BootstrapBlock.finalizeBy
  split
  · exact ⟨delivered, true, rfl⟩
  · exact ⟨delivered, flag, rfl⟩

namespace IngestionState

/-- Every block in memory was delivered. -/
structure HoldsDelivered (toolkit : Toolkit) (state : IngestionState δ) : Prop where
  committed : ∀ (score : Int64) (block : BootstrapBlock), state.committed[score]? = some block →
    block.Delivered toolkit
  probabilistic : ∀ (score : Int64) (block : BootstrapBlock),
    state.probabilistic[score]? = some block → block.Delivered toolkit

end IngestionState

open IngestionState

section Arrivals

variable {toolkit : Toolkit} {state : IngestionState δ} (held : state.HoldsDelivered toolkit)
include held

theorem arrive_delivered {block : BootstrapBlock} (known : block.Delivered toolkit) (score : Int64)
    (other : BootstrapBlock) (present : (arrive state.probabilistic block)[score]? = some other) :
    other.Delivered toolkit := by
  rw [get_arrive] at present
  split at present
  · rw [← Option.some.inj present]
    exact known
  · exact held.probabilistic score other (Option.filter_eq_some_iff.mp present).1

theorem applyBlock_delivered {block : BootstrapBlock} (known : block.Delivered toolkit) :
    (state.applyBlock block).2.HoldsDelivered toolkit ∧
      ∀ write ∈ (state.applyBlock block).1.committedWrites, write.block.Delivered toolkit := by
  have applied := applyBlock_applied state block
  generalize (state.applyBlock block).1 = transition at applied
  generalize (state.applyBlock block).2 = after at applied
  cases applied with
  | ignored other present => exact ⟨held, nofun⟩
  | buffered free unfinalized uncut => exact ⟨⟨held.committed, arrive_delivered held known⟩, nofun⟩
  | promoted free ready waiting swept =>
      have waits : ∀ (score : Int64) (other : BootstrapBlock), waiting[score]? = some other →
          other.Delivered toolkit := by
        intro score other present
        rw [swept, get_sweepFinalized] at present
        obtain ⟨unswept, found, rfl⟩ := Option.map_eq_some_iff.mp present
        exact (arrive_delivered held known score unswept found).finalizeBy _
      refine ⟨⟨?_, ?_⟩, ?_⟩
      · intro score other present
        rw [OrderedMap.get_insertEach_entriesWhere] at present
        rcases Option.or_eq_some_iff.mp present with moved | ⟨-, stayed⟩
        · exact waits score other (Option.filter_eq_some_iff.mp moved).1
        · exact held.committed score other stayed
      · intro score other present
        exact waits score other ((OrderedMap.get_filter_eq_some _ _ _ _).mp present).1
      · intro write member
        obtain ⟨other, promoted, rfl⟩ := List.mem_map.mp member
        obtain ⟨score, present, -⟩ := (OrderedMap.mem_valuesWhere _ _ _).mp promoted
        exact waits score other present

theorem applyBlocks_delivered {blocks : List BootstrapBlock}
    (known : ∀ block ∈ blocks, block.Delivered toolkit) :
    (state.applyBlocks blocks).2.HoldsDelivered toolkit ∧
      ∀ write ∈ (state.applyBlocks blocks).1.committedWrites, write.block.Delivered toolkit := by
  induction blocks generalizing state with
  | nil => exact ⟨held, nofun⟩
  | cons block rest ih =>
      have first := applyBlock_delivered held (known block (List.mem_cons_self ..))
      have later := ih first.1 fun other member => known other (List.mem_cons_of_mem _ member)
      refine ⟨later.1, fun write member => ?_⟩
      rcases List.mem_append.mp member with early | late
      · exact first.2 write early
      · exact later.2 write late

/-- A notification commits delivered blocks only. -/
theorem applyNotification_delivered {notification : ChainNotification}
    {transition : IngestionTransition} {after : IngestionState δ}
    (returned : state.applyNotification toolkit notification = .ok (transition, after)) :
    after.HoldsDelivered toolkit ∧
      ∀ write ∈ transition.committedWrites, write.block.Delivered toolkit := by
  cases notification with
  | blockAdded block =>
      have applied := applyBlock_delivered held (blockFromRpc_delivered toolkit block)
      rw [applyNotification, Except.ok.injEq] at returned
      rw [returned] at applied
      exact applied
  | virtualChainChanged removed added =>
      rw [applyNotification_virtualChainChanged, Except.ok.injEq, Prod.mk.injEq] at returned
      rw [← returned.1, ← returned.2]
      refine applyBlocks_delivered ⟨?_, ?_⟩ ?_
      · intro score block present
        exact held.committed score block ((OrderedMap.get_filter_eq_some _ _ _ _).mp present).1
      · intro score block present
        exact held.probabilistic score block ((OrderedMap.get_filter_eq_some _ _ _ _).mp present).1
      · intro block member
        obtain ⟨delivered, -, rfl⟩ := List.mem_map.mp member
        exact blockFromRpc_delivered toolkit delivered
  | recoveryRequired fromDaa toDaa reason =>
      obtain ⟨rfl, rfl⟩ := applyNotification_recoveryRequired returned
      refine ⟨⟨held.committed, fun score block present => ?_⟩,
        fun write member => absurd member List.not_mem_nil⟩
      exact held.probabilistic score block ((OrderedMap.get_filter_eq_some _ _ _ _).mp present).1

end Arrivals

theorem withFinalityDepth_delivered (toolkit : Toolkit) (prior : δ) (finalityDepth : Option UInt64) :
    (withFinalityDepth prior finalityDepth).HoldsDelivered toolkit := by
  constructor
  · intro score block present
    exact nomatch Std.ExtTreeMap.getElem?_empty.symm.trans present
  · intro score block present
    exact nomatch Std.ExtTreeMap.getElem?_empty.symm.trans present

/-- The blocks a notification commits were delivered, and so were those left in memory. -/
theorem NodeState.Notified.delivered {indexer : Indexer δ} {state after : NodeState δ}
    {notification : ChainNotification} {memory : IngestionState δ} {anchor : δ}
    {anchored : Backend δ}
    (notified : NodeState.Notified indexer state notification after memory anchor anchored)
    (held : state.ingestion.HoldsDelivered indexer.toolkit) :
    after.ingestion.HoldsDelivered indexer.toolkit ∧
      ∀ block ∈ state.newlyCommitted indexer notification, block.Delivered indexer.toolkit := by
  obtain ⟨kept, writes⟩ := applyNotification_delivered held notified.applied
  have memoryAfter : after.ingestion = memory.reseedPriorPoi after.ingestion.priorPoi :=
    congrArg SubgraphRuntime.ingestion notified.runtime
  refine ⟨?_, fun block member => ?_⟩
  · rw [memoryAfter]
    exact ⟨kept.committed, kept.probabilistic⟩
  · obtain ⟨write, written, rfl⟩ := List.mem_map.mp member
    exact writes write written

end KasGraph
