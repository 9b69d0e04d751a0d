import KasGraph.IngestionConservation

set_option autoImplicit false

/-! Re-delivery of a block the indexer already holds. -/

namespace KasGraph

open IngestionState

variable {δ : Type}

namespace IngestionState

/-- No waiting block is finalized. -/
def Unsettled (state : IngestionState δ) : Prop :=
  ∀ (score : Int64) (block : BootstrapBlock), state.probabilistic[score]? = some block →
    block.isFinalized = false

/-- The block is held under its score, with the same hash and finality flag. -/
def Holds (state : IngestionState δ) (block : BootstrapBlock) : Prop :=
  ∃ held : BootstrapBlock, (state.committed[block.daaScore]? = some held ∨
    state.probabilistic[block.daaScore]? = some held) ∧
    held.hash = block.hash ∧ held.isFinalized = block.isFinalized

/-- The notification leaves both maps alone and reports nothing. -/
def Harmless (toolkit : Toolkit) (state : IngestionState δ) (notification : ChainNotification) :
    Prop :=
  ∃ transition after, state.applyNotification toolkit notification = .ok (transition, after) ∧
    after.committed = state.committed ∧ after.probabilistic = state.probabilistic ∧
    transition.rolledBackProbabilistic = [] ∧ transition.committedUnwinds = [] ∧
    transition.committedWrites = []

/-- The score is committed; or the very block waits there, no block waits above
it under another hash, and no waiting block is ripe for promotion. -/
def Undisturbed (state : IngestionState δ) (block : BootstrapBlock) : Prop :=
  (∃ held : BootstrapBlock, state.committed[block.daaScore]? = some held) ∨
    state.probabilistic[block.daaScore]? = some block ∧
    (∀ (score : Int64) (other : BootstrapBlock), state.probabilistic[score]? = some other →
      block.daaScore < score → other.hash = block.hash) ∧
    ∀ cutoff, state.derivedFinalizedCutoff block.daaScore = some cutoff →
      ∀ (score : Int64) (other : BootstrapBlock), state.probabilistic[score]? = some other →
        cutoff < score ∧ 0 < score

end IngestionState

theorem applyBlock_unsettled {state : IngestionState δ} (unsettled : state.Unsettled)
    (block : BootstrapBlock) : (state.applyBlock block).2.Unsettled := by
  have applied := applyBlock_applied state block
  generalize (state.applyBlock block).1 = transition at applied
  generalize (state.applyBlock block).2 = after at applied
  cases applied with
  | ignored held present => exact unsettled
  | buffered free unfinalized uncut =>
      intro score other present
      change (arrive state.probabilistic block)[score]? = some other at present
      rw [get_arrive] at present
      split at present
      · rw [← Option.some.inj present]
        exact unfinalized
      · exact unsettled score other (Option.filter_eq_some_iff.mp present).1
  | promoted free ready waiting swept =>
      intro score other present
      obtain ⟨found, stays⟩ := (OrderedMap.get_filter_eq_some _ _ _ _).mp present
      rw [Bool.not_eq_true', promotable, decide_eq_false_iff_not] at stays
      by_contra finalized
      exact stays (le_highestFinalizedDaa found ((Bool.not_eq_false _).mp finalized))

theorem applyBlocks_unsettled {state : IngestionState δ} (unsettled : state.Unsettled)
    (blocks : List BootstrapBlock) : (state.applyBlocks blocks).2.Unsettled := by
  induction blocks generalizing state with
  | nil => exact unsettled
  | cons block rest ih => exact ih (applyBlock_unsettled unsettled block)

theorem reachable_unsettled {toolkit : Toolkit} {state : IngestionState δ}
    (reachable : Reachable toolkit state) : state.Unsettled := by
  induction reachable with
  | start prior finalityDepth =>
      intro score block present
      simp [withFinalityDepth] at present
  | @notify state after transition notification earlier returned ih =>
      have drained : ∀ (committed : OrderedMap Int64 BootstrapBlock)
          (waits : Int64 → BootstrapBlock → Bool), Unsettled { state with
            committed
            probabilistic := state.probabilistic.filter waits } :=
        fun committed waits score block present =>
          ih score block ((OrderedMap.get_filter_eq_some _ _ _ _).mp present).1
      cases notification with
      | blockAdded block =>
          obtain ⟨-, rfl⟩ := Prod.mk.inj (Except.ok.inj returned)
          exact applyBlock_unsettled ih _
      | virtualChainChanged removed added =>
          rw [applyNotification_virtualChainChanged] at returned
          obtain ⟨-, rfl⟩ := Prod.mk.inj (Except.ok.inj returned)
          exact applyBlocks_unsettled (drained _ _) _
      | recoveryRequired fromDaa toDaa reason =>
          obtain ⟨-, rfl⟩ := applyNotification_recoveryRequired returned
          exact drained _ _
  | reseed prior earlier ih => exact ih

/-- A block that is the one waiting, with nothing to roll back, arrives in place. -/
private theorem arrive_eq_self {probabilistic : OrderedMap Int64 BootstrapBlock}
    {block : BootstrapBlock} (present : probabilistic[block.daaScore]? = some block)
    (clear : ∀ (score : Int64) (other : BootstrapBlock), probabilistic[score]? = some other →
      conflicts block score other = false) : arrive probabilistic block = probabilistic := by
  refine OrderedMap.ext_get fun score => ?_
  rw [get_arrive]
  split
  · rename_i here
    rw [← here, present]
  · cases found : probabilistic[score]? with
    | none => rfl
    | some other => rw [Option.filter_some, if_pos (by simp [clear score other found])]

private theorem valuesWhere_eq_nil_iff (waiting : OrderedMap Int64 BootstrapBlock)
    (p : Int64 → BootstrapBlock → Bool) :
    waiting.valuesWhere p = [] ↔ ∀ (score : Int64) (block : BootstrapBlock),
      waiting[score]? = some block → p score block = false := by
  rw [List.eq_nil_iff_forall_not_mem]
  constructor
  · intro none score block present
    by_contra chosen
    exact none block ((OrderedMap.mem_valuesWhere _ _ _).mpr
      ⟨score, present, (Bool.not_eq_false _).mp chosen⟩)
  · intro none block member
    obtain ⟨score, present, chosen⟩ := (OrderedMap.mem_valuesWhere _ _ _).mp member
    rw [none score block present] at chosen
    cases chosen

private theorem entriesWhere_eq_nil {waiting : OrderedMap Int64 BootstrapBlock}
    {p : Int64 → BootstrapBlock → Bool} (none : ∀ (score : Int64) (block : BootstrapBlock),
      waiting[score]? = some block → p score block = false) : waiting.entriesWhere p = [] := by
  rw [List.eq_nil_iff_forall_not_mem]
  rintro ⟨score, block⟩ member
  obtain ⟨present, chosen⟩ := (OrderedMap.mem_entriesWhere _ _ _ _).mp member
  rw [none score block present] at chosen
  cases chosen

private theorem conflicts_eq_false_iff (block other : BootstrapBlock) (score : Int64) :
    conflicts block score other = false ↔ (block.daaScore ≤ score → other.hash = block.hash) := by
  simp [conflicts]

/-- A sweep that covers no block of the map leaves the map alone. -/
private theorem sweepFinalized_eq_self {cutoff : Int64}
    {waiting : OrderedMap Int64 BootstrapBlock}
    (keyed : ∀ (score : Int64) (b : BootstrapBlock), waiting[score]? = some b → b.daaScore = score)
    (above : ∀ (score : Int64) (b : BootstrapBlock), waiting[score]? = some b → cutoff < score) :
    sweepFinalized (some cutoff) waiting = waiting := by
  refine OrderedMap.ext_get fun score => ?_
  rw [get_sweepFinalized]
  cases present : waiting[score]? with
  | none => rfl
  | some b =>
      have high := above score b present
      rw [← keyed score b present] at high
      rw [Option.map_some, BootstrapBlock.finalizeBy, if_neg (by simpa using high)]

private theorem clear_of_alone {probabilistic : OrderedMap Int64 BootstrapBlock}
    {block : BootstrapBlock} (present : probabilistic[block.daaScore]? = some block)
    (alone : ∀ (score : Int64) (other : BootstrapBlock), probabilistic[score]? = some other →
      block.daaScore < score → other.hash = block.hash) (score : Int64) (other : BootstrapBlock)
    (found : probabilistic[score]? = some other) : conflicts block score other = false := by
  refine (conflicts_eq_false_iff _ _ _).mpr fun above => ?_
  rcases lt_or_eq_of_le above with more | same
  · exact alone score other found more
  · rw [← same, present] at found
    rw [Option.some.inj found]

/-- What an arrival and its sweep leave as it was holds the block that arrived. -/
private theorem stands_of_swept {state : IngestionState δ} {incoming : BootstrapBlock}
    (unsettled : state.Unsettled)
    (swept : state.probabilistic = sweepFinalized (state.derivedFinalizedCutoff incoming.daaScore)
      (arrive state.probabilistic incoming)) :
    state.probabilistic[incoming.daaScore]? = some incoming := by
  have present : state.probabilistic[incoming.daaScore]? =
      some (incoming.finalizeBy (state.derivedFinalizedCutoff incoming.daaScore)) := by
    rw [swept, get_sweepFinalized, get_arrive, if_pos rfl]
    rfl
  -- The stored block is not finalized, so the sweep did not touch the incoming one.
  have unmarked := unsettled _ _ present
  have same : incoming.finalizeBy (state.derivedFinalizedCutoff incoming.daaScore) = incoming := by
    unfold BootstrapBlock.finalizeBy at unmarked ⊢
    split
    · rename_i covered
      rw [if_pos covered] at unmarked
      cases unmarked
    · rfl
  rw [same] at present
  exact present

/-- A sweep that leaves blocks unmarked is below them. -/
private theorem below_of_swept {state : IngestionState δ} (consistent : state.Consistent)
    (unsettled : state.Unsettled) {cutoff : Int64}
    (swept : sweepFinalized (some cutoff) state.probabilistic = state.probabilistic)
    {score : Int64} {other : BootstrapBlock} (found : state.probabilistic[score]? = some other) :
    cutoff < score := by
  by_contra low
  have marked : state.probabilistic[score]? = some (other.finalizeBy (some cutoff)) := by
    rw [← swept, get_sweepFinalized, found]
    rfl
  have covered : (other.finalizeBy (some cutoff)).isFinalized = true := by
    refine (BootstrapBlock.finalizeBy_isFinalized _ _).mpr (Or.inr ⟨cutoff, rfl, ?_⟩)
    rw [consistent.probabilisticKeyed score other found]
    exact not_lt.mp low
  rw [unsettled score _ marked] at covered
  cases covered

/-- Re-delivering a held block does nothing exactly when it is undisturbed. -/
theorem redelivery_harmless_iff {toolkit : Toolkit} {state : IngestionState δ}
    (reachable : Reachable toolkit state) (block : IngestedBlock)
    (held : state.Holds (blockFromRpc toolkit block)) :
    state.Harmless toolkit (.blockAdded block) ↔
      state.Undisturbed (blockFromRpc toolkit block) := by
  have consistent := reachable_consistent reachable
  have unsettled := reachable_unsettled reachable
  generalize named : blockFromRpc toolkit block = incoming at held ⊢
  have applied := applyBlock_applied state incoming
  constructor
  · rintro ⟨transition, after, returned, keptCommitted, keptWaiting, noRollback, -, noWrite⟩
    rw [applyNotification, named] at returned
    rw [Except.ok.inj returned] at applied
    dsimp only at applied
    obtain ⟨old, stands, -, flag⟩ := held
    cases applied with
    | ignored other present => exact Or.inl ⟨other, present⟩
    | buffered free unfinalized uncut =>
        have clear := (valuesWhere_eq_nil_iff _ _).mp noRollback
        refine Or.inr ⟨?_, ?_, fun cutoff cut => by rw [uncut] at cut; cases cut⟩
        · rw [← keptWaiting]
          exact (get_arrive _ _ _).trans (if_pos rfl)
        · intro score other present above
          exact (conflicts_eq_false_iff _ _ _).mp (clear score other present) (le_of_lt above)
    | promoted free ready waiting swept =>
        have clear := (valuesWhere_eq_nil_iff _ _).mp noRollback
        have unripe := (valuesWhere_eq_nil_iff _ _).mp (List.map_eq_nil_iff.mp noWrite)
        have waits : state.probabilistic = waiting := by
          rw [← keptWaiting]
          exact OrderedMap.filter_of_all _ _ fun score b present => by
            simp [unripe score b present]
        have present := stands_of_swept unsettled (waits.trans swept)
        have still : sweepFinalized (state.derivedFinalizedCutoff incoming.daaScore)
            state.probabilistic = state.probabilistic := by
          rw [arrive_eq_self present clear] at swept
          exact swept.symm.trans waits.symm
        refine Or.inr ⟨present, ?_, ?_⟩
        · intro score other found above
          exact (conflicts_eq_false_iff _ _ _).mp (clear score other found) (le_of_lt above)
        · intro cutoff cut score other found
          have zero : highestFinalizedDaa waiting = 0 := by
            rw [← waits]
            exact highestFinalizedDaa_of_none unsettled
          have high := unripe score other (waits ▸ found)
          rw [promotable, zero, decide_eq_false_iff_not, not_le] at high
          rw [cut] at still
          exact ⟨below_of_swept consistent unsettled still found, high⟩
  · intro undisturbed
    refine ⟨(state.applyBlock incoming).1, (state.applyBlock incoming).2,
      by rw [applyNotification, named], ?_⟩
    generalize (state.applyBlock incoming).1 = transition at applied ⊢
    generalize (state.applyBlock incoming).2 = after at applied ⊢
    rcases undisturbed with ⟨other, taken⟩ | ⟨present, alone, high⟩
    · cases applied with
      | ignored => exact ⟨rfl, rfl, rfl, rfl, rfl⟩
      | buffered free => exact absurd taken (by simp [free])
      | promoted free => exact absurd taken (by simp [free])
    · have clear := clear_of_alone present alone
      have noRollback := (valuesWhere_eq_nil_iff _ _).mpr clear
      cases applied with
      | ignored => exact ⟨rfl, rfl, rfl, rfl, rfl⟩
      | buffered => exact ⟨rfl, arrive_eq_self present clear, noRollback, rfl, rfl⟩
      | promoted free ready waiting swept =>
          obtain ⟨cutoff, cut⟩ : ∃ cutoff,
              state.derivedFinalizedCutoff incoming.daaScore = some cutoff := by
            rcases ready with finalized | some
            · rw [unsettled _ _ present] at finalized
              cases finalized
            · exact Option.isSome_iff_exists.mp some
          have waits : waiting = state.probabilistic := by
            rw [swept, cut, arrive_eq_self present clear]
            exact sweepFinalized_eq_self consistent.probabilisticKeyed
              fun score b found => (high cutoff cut score b found).1
          rw [waits]
          have unripe : ∀ (score : Int64) (b : BootstrapBlock),
              state.probabilistic[score]? = some b →
                promotable state.probabilistic score b = false := by
            intro score b found
            rw [promotable, highestFinalizedDaa_of_none unsettled, decide_eq_false_iff_not, not_le]
            exact (high cutoff cut score b found).2
          refine ⟨?_, ?_, noRollback, rfl, ?_⟩
          · rw [entriesWhere_eq_nil unripe]
            rfl
          · exact OrderedMap.filter_of_all _ _ fun score b found => by simp [unripe score b found]
          · exact List.map_eq_nil_iff.mpr ((valuesWhere_eq_nil_iff _ _).mpr unripe)

/-- The state after `a` and then `b` arrived, neither of them final. -/
private def twoBuffered : IngestionState Unit :=
  (((withFinalityDepth () none).applyBlock
    (blockFromRpc bareToolkit (headerBlock "a" 10 false))).2.applyBlock
    (blockFromRpc bareToolkit (headerBlock "b" 11 false))).2

private theorem twoBuffered_reachable : Reachable bareToolkit twoBuffered :=
  .notify (.blockAdded (headerBlock "b" 11 false))
    (.notify (.blockAdded (headerBlock "a" 10 false)) (.start () none) rfl) rfl

private theorem twoBuffered_holds (hash : String) (daaScore : UInt64)
    (waits : (twoBuffered.probabilistic[daaScore.toInt64]?).any
      (fun held => held.hash = hash ∧ held.isFinalized = false) = true) :
    twoBuffered.Holds (blockFromRpc bareToolkit (headerBlock hash daaScore false)) := by
  obtain ⟨held, present, same⟩ := (Option.any_eq_true _ _).mp waits
  rw [decide_eq_true_eq] at same
  exact ⟨held, Or.inr present, same⟩

/-- Re-delivering the highest waiting block does nothing. -/
theorem redelivery_harmless_iff_highest :
    twoBuffered.Harmless bareToolkit (.blockAdded (headerBlock "b" 11 false)) ↔
      twoBuffered.Undisturbed (blockFromRpc bareToolkit (headerBlock "b" 11 false)) :=
  redelivery_harmless_iff twoBuffered_reachable _ (twoBuffered_holds "b" 11 (by decide +kernel))

/-- Re-delivering `a` rolls `b` back, although `a` is held. -/
theorem redelivery_rolls_back :
    ¬ ∀ (toolkit : Toolkit) (state : IngestionState Unit), Reachable toolkit state →
      ∀ block, state.Holds (blockFromRpc toolkit block) →
        state.Harmless toolkit (.blockAdded block) := by
  intro harmless
  obtain ⟨transition, after, returned, -, -, noRollback, -⟩ := harmless bareToolkit twoBuffered
    twoBuffered_reachable (headerBlock "a" 10 false) (twoBuffered_holds "a" 10 (by decide +kernel))
  have rolledBack : (twoBuffered.applyBlock (blockFromRpc bareToolkit
      (headerBlock "a" 10 false))).1.rolledBackProbabilistic.map (·.hash) = ["b"] := by
    decide +kernel
  rw [applyNotification] at returned
  rw [Except.ok.inj returned, noRollback] at rolledBack
  cases rolledBack

end KasGraph
