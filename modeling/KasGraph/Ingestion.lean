import KasGraph.Blocks
import KasGraph.MachineInt

set_option autoImplicit false

/-! The in-memory ingestion state. Blocks wait as probabilistic until a finality
score covers them and are then promoted to committed; a notification returns the
transition it made. -/

namespace KasGraph

open MachineInt

structure CommittedBlockWrite where
  block : BootstrapBlock
  deriving DecidableEq

structure IngestionState (δ : Type) where
  committed : OrderedMap Int64 BootstrapBlock
  probabilistic : OrderedMap Int64 BootstrapBlock
  priorPoi : δ
  finalityDepth : Option UInt64

structure IngestionTransition where
  committedWrites : List CommittedBlockWrite
  rolledBackProbabilistic : List BootstrapBlock
  committedUnwinds : List BootstrapBlock
  recoveryRequested : Option (UInt64 × UInt64)
  deriving DecidableEq

/-- A transition that reports nothing. -/
def IngestionTransition.none : IngestionTransition := ⟨[], [], [], .none⟩

/-- Drain the blocks that carry one of the hashes. -/
def removeByHashes (blocks : OrderedMap Int64 BootstrapBlock) (hashes : List String) :
    List BootstrapBlock × OrderedMap Int64 BootstrapBlock :=
  blocks.removeEach (blocks.keysWhere fun _ block => hashes.contains block.hash)

/-- The greatest score of a finalized block, or zero when there is none. -/
def highestFinalizedDaa (probabilistic : OrderedMap Int64 BootstrapBlock) : Int64 :=
  ((probabilistic.lastWhere fun _ block => block.isFinalized).map Prod.fst).getD 0

/-- A block, marked as finalized when a cutoff covers its score. -/
def BootstrapBlock.finalizeBy (cutoff : Option Int64) (block : BootstrapBlock) : BootstrapBlock :=
  if cutoff.any (block.daaScore ≤ ·) then { block with isFinalized := true } else block

/-- The sweep that marks every waiting block a cutoff covers. -/
def sweepFinalized (cutoff : Option Int64) (probabilistic : OrderedMap Int64 BootstrapBlock) :
    OrderedMap Int64 BootstrapBlock :=
  match cutoff with
  | some cutoff => probabilistic.map fun _ block => block.finalizeBy (some cutoff)
  | none => probabilistic

/-- A waiting block at or above an arriving one, under another hash. -/
def conflicts (block : BootstrapBlock) (score : Int64) (existing : BootstrapBlock) : Bool :=
  block.daaScore ≤ score && existing.hash != block.hash

/-- Whether a score is at or below the highest finalized one. -/
def promotable (probabilistic : OrderedMap Int64 BootstrapBlock) (score : Int64)
    (_ : BootstrapBlock) : Bool :=
  score ≤ highestFinalizedDaa probabilistic

@[simp] theorem BootstrapBlock.finalizeBy_hash (cutoff : Option Int64) (block : BootstrapBlock) :
    (block.finalizeBy cutoff).hash = block.hash := by
  unfold finalizeBy
  split <;> rfl

@[simp] theorem BootstrapBlock.finalizeBy_daaScore (cutoff : Option Int64)
    (block : BootstrapBlock) : (block.finalizeBy cutoff).daaScore = block.daaScore := by
  unfold finalizeBy
  split <;> rfl

@[simp] theorem BootstrapBlock.finalizeBy_none (block : BootstrapBlock) :
    block.finalizeBy none = block := rfl

theorem BootstrapBlock.finalizeBy_twice (cutoff : Option Int64) (block : BootstrapBlock) :
    (block.finalizeBy cutoff).finalizeBy cutoff = block.finalizeBy cutoff := by
  unfold finalizeBy
  split <;> rfl

theorem BootstrapBlock.finalizeBy_isFinalized (cutoff : Option Int64) (block : BootstrapBlock) :
    (block.finalizeBy cutoff).isFinalized = true ↔
      block.isFinalized = true ∨ ∃ score, cutoff = some score ∧ block.daaScore ≤ score := by
  unfold finalizeBy
  split
  · rename_i covered
    simp_all [Option.any_eq_true]
  · rename_i uncovered
    simp_all [Option.any_eq_true]

theorem get_sweepFinalized (cutoff : Option Int64)
    (probabilistic : OrderedMap Int64 BootstrapBlock) (score : Int64) :
    (sweepFinalized cutoff probabilistic)[score]? =
      (probabilistic[score]?).map (·.finalizeBy cutoff) := by
  cases cutoff with
  | none => simp [sweepFinalized]
  | some cutoff => exact Std.ExtTreeMap.getElem?_map

namespace IngestionState

variable {δ : Type}

/-- The state of an indexer that has seen nothing; `prior` is the zero digest. -/
def withFinalityDepth (prior : δ) (finalityDepth : Option UInt64) : IngestionState δ :=
  { committed := ∅, probabilistic := ∅, priorPoi := prior, finalityDepth }

def reseedPriorPoi (state : IngestionState δ) (priorPoi : δ) : IngestionState δ :=
  { state with priorPoi }

def derivedFinalizedCutoff (state : IngestionState δ) (observedDaa : Int64) : Option Int64 := do
  let finalityDepth ← tryInt64 (← state.finalityDepth)
  return saturatingSub observedDaa finalityDepth

def applyBlock (state : IngestionState δ) (block : BootstrapBlock) :
    IngestionTransition × IngestionState δ :=
  let finalizedCutoff := state.derivedFinalizedCutoff block.daaScore
  match state.committed[block.daaScore]? with
  | some _ =>
      -- Seen before, or in conflict with a committed block: ignored either way.
      (.none, state)
  | none =>
      let conflictingScores := state.probabilistic.keysWhere (conflicts block)
      let (rolledBack, probabilistic) := state.probabilistic.removeEach conflictingScores
      let block := block.finalizeBy finalizedCutoff
      if !block.isFinalized && finalizedCutoff.isNone then
        ({ IngestionTransition.none with rolledBackProbabilistic := rolledBack },
          { state with probabilistic := probabilistic.insert block.daaScore block })
      else
        let probabilistic :=
          sweepFinalized finalizedCutoff (probabilistic.insert block.daaScore block)
        let promotableScores := probabilistic.keysWhere (promotable probabilistic)
        let (promoted, probabilistic, committed) :=
          probabilistic.moveEach state.committed promotableScores
        ({ IngestionTransition.none with
            committedWrites := promoted.map .mk
            rolledBackProbabilistic := rolledBack },
          { state with committed, probabilistic })

/-- Apply blocks in order, collecting what each reports. -/
def applyBlocks (state : IngestionState δ) :
    List BootstrapBlock → IngestionTransition × IngestionState δ
  | [] => (.none, state)
  | block :: rest =>
      let (first, middle) := state.applyBlock block
      let (later, final) := middle.applyBlocks rest
      ({ IngestionTransition.none with
          committedWrites := first.committedWrites ++ later.committedWrites
          rolledBackProbabilistic :=
            first.rolledBackProbabilistic ++ later.rolledBackProbabilistic },
        final)

/-- Why a notification aborts the indexer. -/
inductive Panic where
  | rangeStartIsGreaterThanRangeEnd
  deriving DecidableEq, Repr

/-- Drain the waiting blocks of a score range. A range that ends before it
starts aborts. -/
def removeProbabilisticInRange (state : IngestionState δ) (fromDaa toDaa : Int64) :
    Except Panic (List BootstrapBlock × IngestionState δ) :=
  if toDaa < fromDaa then
    .error .rangeStartIsGreaterThanRangeEnd
  else
    let scores := state.probabilistic.keysWhere fun score _ => fromDaa ≤ score && score ≤ toDaa
    let (removed, probabilistic) := state.probabilistic.removeEach scores
    .ok (removed, { state with probabilistic })

def applyNotification (toolkit : Toolkit) (state : IngestionState δ) :
    ChainNotification → Except Panic (IngestionTransition × IngestionState δ)
  | .blockAdded block => .ok (state.applyBlock (blockFromRpc toolkit block))
  | .virtualChainChanged removed added =>
      let (rolledBack, probabilistic) := removeByHashes state.probabilistic removed
      let (unwinds, committed) := removeByHashes state.committed removed
      let (applied, final) :=
        applyBlocks { state with committed, probabilistic } (added.map (blockFromRpc toolkit))
      .ok ({ committedWrites := applied.committedWrites
             rolledBackProbabilistic := rolledBack ++ applied.rolledBackProbabilistic
             committedUnwinds := unwinds
             recoveryRequested := none }, final)
  | .recoveryRequired fromDaaScore toDaaScore _ => do
      let (rolledBack, final) ←
        state.removeProbabilisticInRange fromDaaScore.toInt64 toDaaScore.toInt64
      return ({ IngestionTransition.none with
        rolledBackProbabilistic := rolledBack
        recoveryRequested := some (fromDaaScore, toDaaScore) }, final)

/-- The states of an indexer: it starts empty, applies notifications, and has
its prior digest replaced as checkpoints are written and unwound. -/
inductive Reachable (toolkit : Toolkit) : IngestionState δ → Prop where
  | start (prior : δ) (finalityDepth : Option UInt64) :
      Reachable toolkit (withFinalityDepth prior finalityDepth)
  | notify {state after : IngestionState δ} {transition : IngestionTransition}
      (notification : ChainNotification) (earlier : Reachable toolkit state)
      (returned : state.applyNotification toolkit notification = .ok (transition, after)) :
      Reachable toolkit after
  | reseed {state : IngestionState δ} (prior : δ) (earlier : Reachable toolkit state) :
      Reachable toolkit (state.reseedPriorPoi prior)

theorem removeByHashes_eq (blocks : OrderedMap Int64 BootstrapBlock) (hashes : List String) :
    removeByHashes blocks hashes =
      (blocks.valuesWhere fun _ block => hashes.contains block.hash,
        blocks.filter fun _ block => !hashes.contains block.hash) :=
  OrderedMap.removeEach_keysWhere ..

theorem applyNotification_virtualChainChanged (toolkit : Toolkit) (state : IngestionState δ)
    (removed : List String) (added : List IngestedBlock) :
    state.applyNotification toolkit (.virtualChainChanged removed added) =
      let applied := applyBlocks
        { state with
          committed := state.committed.filter fun _ block => !removed.contains block.hash
          probabilistic := state.probabilistic.filter fun _ block => !removed.contains block.hash }
        (added.map (blockFromRpc toolkit))
      .ok ({ committedWrites := applied.1.committedWrites
             rolledBackProbabilistic :=
               state.probabilistic.valuesWhere (fun _ block => removed.contains block.hash) ++
                 applied.1.rolledBackProbabilistic
             committedUnwinds :=
               state.committed.valuesWhere fun _ block => removed.contains block.hash
             recoveryRequested := none }, applied.2) := by
  simp only [applyNotification, removeByHashes_eq]

/-- A recovery request drains the scores of its range and touches nothing else. -/
theorem applyNotification_recoveryRequired {toolkit : Toolkit}
    {state after : IngestionState δ} {transition : IngestionTransition}
    {fromDaa toDaa : UInt64} {reason : String}
    (returned : state.applyNotification toolkit (.recoveryRequired fromDaa toDaa reason) =
      .ok (transition, after)) :
    let inside := fun (score : Int64) (_ : BootstrapBlock) =>
      fromDaa.toInt64 ≤ score && score ≤ toDaa.toInt64
    transition = { IngestionTransition.none with
        rolledBackProbabilistic := state.probabilistic.valuesWhere inside
        recoveryRequested := some (fromDaa, toDaa) } ∧
      after = { state with
        probabilistic := state.probabilistic.filter fun score block => !inside score block } := by
  simp only [applyNotification, removeProbabilisticInRange] at returned
  split at returned
  · cases returned
  · rw [OrderedMap.removeEach_keysWhere] at returned
    simp only [bind, Except.bind, pure, Except.pure, Except.ok.injEq, Prod.mk.injEq] at returned
    exact ⟨returned.1.symm, returned.2.symm⟩

theorem le_highestFinalizedDaa {waiting : OrderedMap Int64 BootstrapBlock} {score : Int64}
    {block : BootstrapBlock} (present : waiting[score]? = some block)
    (finalized : block.isFinalized = true) : score ≤ highestFinalizedDaa waiting := by
  unfold highestFinalizedDaa
  cases last : waiting.lastWhere fun _ block => block.isFinalized with
  | none => exact absurd finalized ((OrderedMap.lastWhere_eq_none_iff _ _).mp last score _ present)
  | some entry =>
      obtain ⟨-, -, greatest⟩ := (OrderedMap.lastWhere_eq_some_iff _ _ _ _).mp last
      rcases greatest score block present finalized with less | same
      · exact le_of_lt (Std.compare_eq_lt.mp less)
      · exact le_of_eq same

theorem highestFinalizedDaa_of_none {waiting : OrderedMap Int64 BootstrapBlock}
    (unfinalized : ∀ (score : Int64) (block : BootstrapBlock), waiting[score]? = some block →
      block.isFinalized = false) : highestFinalizedDaa waiting = 0 := by
  unfold highestFinalizedDaa
  rw [(OrderedMap.lastWhere_eq_none_iff _ _).mpr fun score block present => by
    simp [unfinalized score block present]]
  rfl

/-! ## What one block can do -/

/-- The waiting blocks after the conflicts are rolled back and a block arrives. -/
def arrive (probabilistic : OrderedMap Int64 BootstrapBlock) (block : BootstrapBlock) :
    OrderedMap Int64 BootstrapBlock :=
  (probabilistic.filter fun score existing => !conflicts block score existing).insert
    block.daaScore block

/-- The three outcomes of applying a block. -/
inductive Applied (state : IngestionState δ) (block : BootstrapBlock) :
    IngestionTransition → IngestionState δ → Prop where
  | ignored (held : BootstrapBlock) (present : state.committed[block.daaScore]? = some held) :
      Applied state block .none state
  | buffered (free : state.committed[block.daaScore]? = none)
      (unfinalized : block.isFinalized = false)
      (uncut : state.derivedFinalizedCutoff block.daaScore = none) :
      Applied state block
        { IngestionTransition.none with
          rolledBackProbabilistic := state.probabilistic.valuesWhere (conflicts block) }
        { state with probabilistic := arrive state.probabilistic block }
  | promoted (free : state.committed[block.daaScore]? = none)
      (ready : block.isFinalized = true ∨
        (state.derivedFinalizedCutoff block.daaScore).isSome = true)
      (waiting : OrderedMap Int64 BootstrapBlock)
      (swept : waiting = sweepFinalized (state.derivedFinalizedCutoff block.daaScore)
        (arrive state.probabilistic block)) :
      Applied state block
        { IngestionTransition.none with
          committedWrites := (waiting.valuesWhere (promotable waiting)).map .mk
          rolledBackProbabilistic := state.probabilistic.valuesWhere (conflicts block) }
        { state with
          committed := state.committed.insertEach (waiting.entriesWhere (promotable waiting))
          probabilistic := waiting.filter fun score b => !promotable waiting score b }

private theorem sweepFinalized_insert_finalizeBy (cutoff : Option Int64)
    (kept : OrderedMap Int64 BootstrapBlock) (block : BootstrapBlock) :
    sweepFinalized cutoff (kept.insert block.daaScore (block.finalizeBy cutoff)) =
      sweepFinalized cutoff (kept.insert block.daaScore block) := by
  refine OrderedMap.ext_get fun k => ?_
  rw [get_sweepFinalized, get_sweepFinalized]
  by_cases here : block.daaScore = k
  · rw [← here, OrderedMap.get_insert_self, OrderedMap.get_insert_self, Option.map_some,
      Option.map_some, BootstrapBlock.finalizeBy_twice]
  · rw [OrderedMap.get_insert_of_ne _ _ here, OrderedMap.get_insert_of_ne _ _ here]

theorem applyBlock_applied (state : IngestionState δ) (block : BootstrapBlock) :
    Applied state block (state.applyBlock block).1 (state.applyBlock block).2 := by
  unfold applyBlock
  cases present : state.committed[block.daaScore]? with
  | some held => exact .ignored held present
  | none =>
      simp only [OrderedMap.removeEach_keysWhere, BootstrapBlock.finalizeBy_daaScore,
        OrderedMap.moveEach_keysWhere, sweepFinalized_insert_finalizeBy]
      split
      · rename_i waits
        simp only [Bool.and_eq_true, Bool.not_eq_true', Option.isNone_iff_eq_none] at waits
        obtain ⟨unmarked, uncut⟩ := waits
        rw [uncut, BootstrapBlock.finalizeBy_none] at unmarked ⊢
        exact .buffered present unmarked uncut
      · rename_i ready
        refine .promoted present ?_ _ rfl
        cases cut : state.derivedFinalizedCutoff block.daaScore with
        | some cutoff => exact Or.inr rfl
        | none =>
            rw [cut, BootstrapBlock.finalizeBy_none] at ready
            simpa using ready

/-- A block at a committed score is ignored. -/
theorem applyBlock_of_committed {state : IngestionState δ} {block held : BootstrapBlock}
    (present : state.committed[block.daaScore]? = some held) :
    state.applyBlock block = (.none, state) := by
  unfold applyBlock
  simp only [present]

/-- What a block at a free score does depends on the waiting blocks and the
finality depth alone. It touches its own score and those of waiting blocks. -/
theorem applyBlock_of_free (state : IngestionState δ) (block : BootstrapBlock) :
    ∃ transition waiting entries,
      (∀ entry ∈ entries, entry.1 = block.daaScore ∨
        (state.probabilistic[entry.1]?).isSome = true) ∧
      (∀ (score : Int64) (held : BootstrapBlock), waiting[score]? = some held →
        score = block.daaScore ∨ (state.probabilistic[score]?).isSome = true) ∧
      ∀ other : IngestionState δ, other.probabilistic = state.probabilistic →
        other.finalityDepth = state.finalityDepth → other.committed[block.daaScore]? = none →
        other.applyBlock block = (transition,
          { other with
            committed := other.committed.insertEach entries
            probabilistic := waiting }) := by
  have arrived : ∀ (score : Int64) (held : BootstrapBlock),
      (arrive state.probabilistic block)[score]? = some held →
        score = block.daaScore ∨ (state.probabilistic[score]?).isSome = true := by
    intro score held present
    unfold arrive at present
    by_cases here : block.daaScore = score
    · exact Or.inl here.symm
    · rw [OrderedMap.get_insert_of_ne _ _ here] at present
      obtain ⟨stood, -⟩ := (OrderedMap.get_filter_eq_some _ _ _ _).mp present
      exact Or.inr (by rw [stood]; rfl)
  have sameCutoff : ∀ other : IngestionState δ, other.finalityDepth = state.finalityDepth →
      other.derivedFinalizedCutoff block.daaScore = state.derivedFinalizedCutoff block.daaScore := by
    intro other depth
    unfold derivedFinalizedCutoff
    rw [depth]
  by_cases ready : block.isFinalized = true ∨
      (state.derivedFinalizedCutoff block.daaScore).isSome = true
  · let waiting := sweepFinalized (state.derivedFinalizedCutoff block.daaScore)
      (arrive state.probabilistic block)
    have swept : ∀ (score : Int64) (held : BootstrapBlock), waiting[score]? = some held →
        score = block.daaScore ∨ (state.probabilistic[score]?).isSome = true := by
      intro score held present
      rw [get_sweepFinalized] at present
      obtain ⟨unswept, found, -⟩ := Option.map_eq_some_iff.mp present
      exact arrived score unswept found
    refine ⟨{ IngestionTransition.none with
        committedWrites := (OrderedMap.valuesWhere waiting (promotable waiting)).map .mk
        rolledBackProbabilistic := state.probabilistic.valuesWhere (conflicts block) },
      waiting.filter fun score held => !promotable waiting score held,
      OrderedMap.entriesWhere waiting (promotable waiting), ?_, ?_, fun other waits depth free => ?_⟩
    · rintro ⟨score, held⟩ member
      exact swept score held ((OrderedMap.mem_entriesWhere _ _ _ _).mp member).1
    · intro score held present
      exact swept score held ((OrderedMap.get_filter_eq_some _ _ _ _).mp present).1
    · have applied := applyBlock_applied other block
      apply Prod.ext_iff.mpr
      generalize (other.applyBlock block).1 = transition at applied ⊢
      generalize (other.applyBlock block).2 = after at applied ⊢
      cases applied with
      | ignored held present => simp [present] at free
      | buffered _ unfinalized uncut =>
          rw [sameCutoff other depth] at uncut
          simp [unfinalized, uncut] at ready
      | promoted _ _ others swept =>
          rw [sameCutoff other depth, waits] at swept
          rw [swept, waits]
          exact ⟨rfl, rfl⟩
  · refine ⟨{ IngestionTransition.none with
        rolledBackProbabilistic := state.probabilistic.valuesWhere (conflicts block) },
      arrive state.probabilistic block, [], nofun, arrived, fun other waits depth free => ?_⟩
    have applied := applyBlock_applied other block
    apply Prod.ext_iff.mpr
    generalize (other.applyBlock block).1 = transition at applied ⊢
    generalize (other.applyBlock block).2 = after at applied ⊢
    cases applied with
    | ignored held present => simp [present] at free
    | buffered _ _ _ =>
        rw [waits]
        exact ⟨rfl, rfl⟩
    | promoted _ ready' _ _ =>
        rw [sameCutoff other depth] at ready'
        exact absurd ready' ready

/-- Blocks change neither the digest nor the finality depth. -/
theorem applyBlock_settings (state : IngestionState δ) (block : BootstrapBlock) :
    (state.applyBlock block).2.priorPoi = state.priorPoi ∧
      (state.applyBlock block).2.finalityDepth = state.finalityDepth := by
  have applied := applyBlock_applied state block
  generalize (state.applyBlock block).1 = transition at applied
  generalize (state.applyBlock block).2 = after at applied
  cases applied <;> exact ⟨rfl, rfl⟩

theorem applyBlocks_settings (state : IngestionState δ) (blocks : List BootstrapBlock) :
    (state.applyBlocks blocks).2.priorPoi = state.priorPoi ∧
      (state.applyBlocks blocks).2.finalityDepth = state.finalityDepth := by
  induction blocks generalizing state with
  | nil => exact ⟨rfl, rfl⟩
  | cons block rest ih =>
      have first := state.applyBlock_settings block
      have later := ih (state.applyBlock block).2
      exact ⟨later.1.trans first.1, later.2.trans first.2⟩

theorem applyNotification_settings {toolkit : Toolkit} {state after : IngestionState δ}
    {notification : ChainNotification} {transition : IngestionTransition}
    (returned : state.applyNotification toolkit notification = .ok (transition, after)) :
    after.priorPoi = state.priorPoi ∧ after.finalityDepth = state.finalityDepth := by
  cases notification with
  | blockAdded block =>
      have same := state.applyBlock_settings (blockFromRpc toolkit block)
      rw [applyNotification, Except.ok.injEq] at returned
      rw [returned] at same
      exact same
  | virtualChainChanged removed added =>
      rw [applyNotification_virtualChainChanged, Except.ok.injEq, Prod.mk.injEq] at returned
      rw [← returned.2]
      exact applyBlocks_settings _ _
  | recoveryRequired fromDaa toDaa reason =>
      rw [(applyNotification_recoveryRequired returned).2]
      exact ⟨rfl, rfl⟩

end IngestionState

end KasGraph
