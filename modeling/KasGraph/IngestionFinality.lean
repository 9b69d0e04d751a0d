import KasGraph.IngestionConservation

set_option autoImplicit false

/-! Finality safety: what a run must have seen before a block is committed. -/

namespace KasGraph

open IngestionState MachineInt

variable {δ : Type}

/-- The blocks a notification applies, in order. -/
def ChainNotification.blocks : ChainNotification → List IngestedBlock
  | .blockAdded block => [block]
  | .virtualChainChanged _ added => added
  | .recoveryRequired .. => []

/-- Some applied block is final at or above the score, or lies a configured depth
above it. -/
def FinalityEvidence (finalityDepth : Option UInt64) (history : List IngestedBlock)
    (score : Int) : Prop :=
  ∃ block ∈ history, (block.isFinalized = true ∧ score ≤ block.daaScore.toNat) ∨
    ∃ depth, finalityDepth = some depth ∧ score + depth.toNat ≤ block.daaScore.toNat

/-- Runs of notifications with the blocks they applied. Every applied block passes
the guard, which sees the blocks applied before it. A chain change cut after any
of its added blocks is a chain change, so the intermediate states of a batch are
states of a run as well. -/
inductive FinalityRun (toolkit : Toolkit) (finalityDepth : Option UInt64)
    (guard : List IngestedBlock → IngestedBlock → Prop) :
    List IngestedBlock → IngestionState δ → Prop where
  | start (prior : δ) :
      FinalityRun toolkit finalityDepth guard [] (withFinalityDepth prior finalityDepth)
  | notify {history : List IngestedBlock} {state after : IngestionState δ}
      {transition : IngestionTransition} (notification : ChainNotification)
      (earlier : FinalityRun toolkit finalityDepth guard history state)
      (admitted : ∀ before block later, notification.blocks = before ++ block :: later →
        guard (history ++ before) block)
      (returned : state.applyNotification toolkit notification = .ok (transition, after)) :
      FinalityRun toolkit finalityDepth guard (history ++ notification.blocks) after

/-- The depth takes part in deciding finality and is not zero. -/
def ActiveDepth (finalityDepth : Option UInt64) : Prop :=
  ∃ depth, finalityDepth = some depth ∧ 0 < depth.toNat ∧ depth.toNat < 2 ^ 63

/-- The score fits the signed column, and under an active depth a block at score
zero is final itself or arrives after evidence for its score. -/
def FinalityGuard (finalityDepth : Option UInt64) (history : List IngestedBlock)
    (block : IngestedBlock) : Prop :=
  block.daaScore.toNat < 2 ^ 63 ∧
    (ActiveDepth finalityDepth → block.daaScore = 0 → block.isFinalized = false →
      FinalityEvidence finalityDepth history 0)

theorem FinalityEvidence.mono {finalityDepth : Option UInt64} {history : List IngestedBlock}
    {score lower : Int} (evidence : FinalityEvidence finalityDepth history score)
    (less : lower ≤ score) : FinalityEvidence finalityDepth history lower := by
  obtain ⟨block, member, ⟨finalized, above⟩ | ⟨depth, configured, above⟩⟩ := evidence
  · exact ⟨block, member, Or.inl ⟨finalized, le_trans less above⟩⟩
  · exact ⟨block, member, Or.inr ⟨depth, configured, by omega⟩⟩

theorem FinalityEvidence.append {finalityDepth : Option UInt64} {history : List IngestedBlock}
    {score : Int} (evidence : FinalityEvidence finalityDepth history score)
    (later : List IngestedBlock) : FinalityEvidence finalityDepth (history ++ later) score := by
  obtain ⟨block, member, above⟩ := evidence
  exact ⟨block, List.mem_append_left _ member, above⟩

/-- What a run maintains: committed blocks have evidence; a waiting block has it
once it is marked final, and at score zero as soon as a depth is active. -/
structure Backed (finalityDepth : Option UInt64) (history : List IngestedBlock)
    (state : IngestionState δ) : Prop where
  depth : state.finalityDepth = finalityDepth
  committed : ∀ (score : Int64) (block : BootstrapBlock), state.committed[score]? = some block →
    0 ≤ score.toInt ∧ FinalityEvidence finalityDepth history score.toInt
  waiting : ∀ (score : Int64) (block : BootstrapBlock), state.probabilistic[score]? = some block →
    0 ≤ score.toInt ∧
      (block.isFinalized = true ∨ ActiveDepth finalityDepth ∧ score = 0 →
        FinalityEvidence finalityDepth history score.toInt)

private theorem cutoff_evidence {state : IngestionState δ} {history : List IngestedBlock}
    {block : IngestedBlock} (small : block.daaScore.toNat < 2 ^ 63) {cutoff : Int64}
    (cut : state.derivedFinalizedCutoff block.daaScore.toInt64 = some cutoff) {score : Int64}
    (covered : score ≤ cutoff) :
    FinalityEvidence state.finalityDepth (history ++ [block]) score.toInt := by
  simp only [derivedFinalizedCutoff, bind, Option.bind_eq_some_iff, pure, Option.some.injEq]
    at cut
  obtain ⟨depth, configured, signed, fits, rfl⟩ := cut
  obtain ⟨smallDepth, rfl⟩ := (tryInt64_eq_some_iff depth signed).mp fits
  refine ⟨block, by simp, Or.inr ⟨depth, configured, ?_⟩⟩
  rw [Int64.le_iff_toInt_le, saturatingSub_toInt, toInt_toInt64_of_lt _ small,
    toInt_toInt64_of_lt _ smallDepth] at covered
  omega

private theorem cutoff_isSome_active {state : IngestionState δ} {observed : Int64}
    (present : (state.derivedFinalizedCutoff observed).isSome = true) :
    ActiveDepth state.finalityDepth ∨ state.derivedFinalizedCutoff observed = some observed := by
  obtain ⟨cutoff, cut⟩ := Option.isSome_iff_exists.mp present
  have cutCopy := cut
  simp only [derivedFinalizedCutoff, bind, Option.bind_eq_some_iff, pure, Option.some.injEq]
    at cut
  obtain ⟨depth, configured, signed, fits, rfl⟩ := cut
  obtain ⟨smallDepth, rfl⟩ := (tryInt64_eq_some_iff depth signed).mp fits
  by_cases zero : depth.toNat = 0
  · right
    rw [cutCopy]
    refine congrArg _ (Int64.toInt_inj.mp ?_)
    rw [saturatingSub_toInt, toInt_toInt64_of_lt _ smallDepth]
    have low := Int64.le_toInt observed
    have high := Int64.toInt_lt observed
    omega
  · exact Or.inl ⟨depth, configured, Nat.pos_of_ne_zero zero, smallDepth⟩

/-- A waiting block after the arrival and the sweep still has its evidence. -/
private theorem swept_backed {finalityDepth : Option UInt64} {history : List IngestedBlock}
    (toolkit : Toolkit) {state : IngestionState δ} (consistent : state.Consistent)
    (backed : Backed finalityDepth history state) (block : IngestedBlock)
    (guarded : FinalityGuard finalityDepth history block) (score : Int64) (b : BootstrapBlock)
    (present : (sweepFinalized (state.derivedFinalizedCutoff block.daaScore.toInt64)
      (arrive state.probabilistic (blockFromRpc toolkit block)))[score]? = some b) :
    0 ≤ score.toInt ∧ (b.isFinalized = true ∨ ActiveDepth finalityDepth ∧ score = 0 →
      FinalityEvidence finalityDepth (history ++ [block]) score.toInt) := by
  obtain ⟨small, zeroScore⟩ := guarded
  rw [get_sweepFinalized] at present
  obtain ⟨unswept, found, rfl⟩ := Option.map_eq_some_iff.mp present
  have cast := toInt_toInt64_of_lt _ small
  rw [get_arrive] at found
  split at found
  · rename_i here
    rw [blockFromRpc_daaScore] at here
    subst here
    rw [← Option.some.inj found]
    refine ⟨by omega, fun final => ?_⟩
    by_cases upstream : block.isFinalized = true
    · exact ⟨block, by simp, Or.inl ⟨upstream, by omega⟩⟩
    · rcases final with marked | ⟨active, zero⟩
      · obtain given | ⟨cutoff, cut, covered⟩ :=
          (BootstrapBlock.finalizeBy_isFinalized _ _).mp marked
        · exact absurd given upstream
        · rw [← backed.depth]
          exact cutoff_evidence small cut covered
      · have origin : block.daaScore = 0 := by
          refine UInt64.toNat_inj.mp ?_
          rw [zero] at cast
          exact (Int.ofNat.inj cast).symm
        rw [zero]
        exact (zeroScore active origin (Bool.eq_false_iff.mpr upstream)).append _
  · obtain ⟨stood, -⟩ := Option.filter_eq_some_iff.mp found
    obtain ⟨nonneg, evidence⟩ := backed.waiting score unswept stood
    refine ⟨nonneg, fun final => ?_⟩
    rcases final with marked | idle
    · obtain given | ⟨cutoff, cut, covered⟩ :=
        (BootstrapBlock.finalizeBy_isFinalized _ _).mp marked
      · exact (evidence (Or.inl given)).append _
      · rw [consistent.probabilisticKeyed score unswept stood] at covered
        rw [← backed.depth]
        exact cutoff_evidence small cut covered
    · exact (evidence (Or.inr idle)).append _

theorem applyBlock_backed {finalityDepth : Option UInt64} {history : List IngestedBlock}
    (toolkit : Toolkit) {state : IngestionState δ} (consistent : state.Consistent)
    (backed : Backed finalityDepth history state) (block : IngestedBlock)
    (guarded : FinalityGuard finalityDepth history block) :
    Backed finalityDepth (history ++ [block])
      (state.applyBlock (blockFromRpc toolkit block)).2 := by
  have sweeps := swept_backed toolkit consistent backed block guarded
  have applied := applyBlock_applied state (blockFromRpc toolkit block)
  generalize (state.applyBlock (blockFromRpc toolkit block)).1 = transition at applied
  generalize (state.applyBlock (blockFromRpc toolkit block)).2 = after at applied
  have older : ∀ (score : Int64) (b : BootstrapBlock), state.committed[score]? = some b →
      0 ≤ score.toInt ∧ FinalityEvidence finalityDepth (history ++ [block]) score.toInt :=
    fun score b present =>
      ⟨(backed.committed score b present).1, (backed.committed score b present).2.append _⟩
  cases applied with
  | ignored held present =>
      refine ⟨backed.depth, older, fun score b found => ?_⟩
      obtain ⟨nonneg, evidence⟩ := backed.waiting score b found
      exact ⟨nonneg, fun final => (evidence final).append _⟩
  | buffered free unfinalized uncut =>
      refine ⟨backed.depth, older, fun score b found => sweeps score b ?_⟩
      rw [blockFromRpc_daaScore] at uncut
      rw [uncut]
      exact found
  | promoted free ready waiting swept =>
      rw [blockFromRpc_daaScore] at swept ready
      rw [← swept] at sweeps
      refine ⟨backed.depth, fun score b present => ?_, fun score b found =>
        sweeps score b ((OrderedMap.get_filter_eq_some _ _ _ _).mp found).1⟩
      rw [OrderedMap.get_insertEach_entriesWhere] at present
      rcases Option.or_eq_some_iff.mp present with moved | ⟨-, stayed⟩
      · obtain ⟨found, chosen⟩ := Option.filter_eq_some_iff.mp moved
        obtain ⟨nonneg, evidence⟩ := sweeps score b found
        refine ⟨nonneg, ?_⟩
        rw [promotable, decide_eq_true_eq, highestFinalizedDaa] at chosen
        cases last : waiting.lastWhere fun _ block => block.isFinalized with
        | some entry =>
            -- A final block waits at or above the promoted one.
            obtain ⟨score', final⟩ := entry
            obtain ⟨stands, marked, -⟩ := (OrderedMap.lastWhere_eq_some_iff _ _ _ _).mp last
            rw [last] at chosen
            exact ((sweeps score' final stands).2 (Or.inl marked)).mono
              (Int64.le_iff_toInt_le.mp chosen)
        | none =>
            -- No final block waits: the default bound is zero, and the depth is active.
            rw [last] at chosen
            have unmarked := (OrderedMap.lastWhere_eq_none_iff _ _).mp last
            have zero : score = 0 := by
              refine Int64.toInt_inj.mp ?_
              have low := Int64.le_iff_toInt_le.mp chosen
              change score.toInt ≤ 0 at low
              change score.toInt = 0
              omega
            refine evidence (Or.inr ⟨?_, zero⟩)
            have arrived : waiting[block.daaScore.toInt64]? = some
                ((blockFromRpc toolkit block).finalizeBy
                  (state.derivedFinalizedCutoff block.daaScore.toInt64)) := by
              rw [swept, get_sweepFinalized, get_arrive, if_pos (blockFromRpc_daaScore ..)]
              rfl
            have unfinal := unmarked _ _ arrived
            rw [BootstrapBlock.finalizeBy_isFinalized] at unfinal
            rcases ready with given | some
            · exact absurd (Or.inl given) unfinal
            · rcases cutoff_isSome_active some with active | whole
              · rwa [backed.depth] at active
              · exact absurd (Or.inr ⟨_, whole, le_refl _⟩) unfinal
      · exact older score b stayed

theorem applyBlocks_backed {finalityDepth : Option UInt64} {toolkit : Toolkit}
    (blocks : List IngestedBlock) {history : List IngestedBlock} {state : IngestionState δ}
    (consistent : state.Consistent) (backed : Backed finalityDepth history state)
    (guarded : ∀ before block later, blocks = before ++ block :: later →
      FinalityGuard finalityDepth (history ++ before) block) :
    Backed finalityDepth (history ++ blocks)
      (state.applyBlocks (blocks.map (blockFromRpc toolkit))).2 := by
  induction blocks generalizing history state with
  | nil => rwa [List.append_nil]
  | cons block rest ih =>
      have first := guarded [] block rest rfl
      rw [List.append_nil] at first
      have middle := applyBlock_backed toolkit consistent backed block first
      have final := ih (applyBlock_consistent consistent _) middle
        fun before other later split => by
          rw [List.append_assoc]
          exact guarded (block :: before) other later (by rw [split]; rfl)
      rwa [List.append_assoc] at final

private theorem drained_backed {finalityDepth : Option UInt64} {history : List IngestedBlock}
    {state : IngestionState δ} (backed : Backed finalityDepth history state)
    (spared waits : Int64 → BootstrapBlock → Bool) :
    Backed finalityDepth history { state with
      committed := state.committed.filter spared
      probabilistic := state.probabilistic.filter waits } where
  depth := backed.depth
  committed score block present :=
    backed.committed score block ((OrderedMap.get_filter_eq_some _ _ _ _).mp present).1
  waiting score block present :=
    backed.waiting score block ((OrderedMap.get_filter_eq_some _ _ _ _).mp present).1

theorem finalityRun_reachable {finalityDepth : Option UInt64} {toolkit : Toolkit}
    {guard : List IngestedBlock → IngestedBlock → Prop} {history : List IngestedBlock}
    {state : IngestionState δ} (run : FinalityRun toolkit finalityDepth guard history state) :
    Reachable toolkit state := by
  induction run with
  | start prior => exact .start prior finalityDepth
  | notify notification earlier admitted returned ih => exact .notify notification ih returned

theorem finalityRun_backed {finalityDepth : Option UInt64} {toolkit : Toolkit}
    {history : List IngestedBlock} {state : IngestionState δ}
    (run : FinalityRun toolkit finalityDepth (FinalityGuard finalityDepth) history state) :
    Backed finalityDepth history state := by
  induction run with
  | start prior => exact ⟨rfl, by simp [withFinalityDepth], by simp [withFinalityDepth]⟩
  | @notify history state after transition notification earlier admitted returned ih =>
      have consistent := reachable_consistent (finalityRun_reachable earlier)
      cases notification with
      | blockAdded block =>
          obtain ⟨-, rfl⟩ := Prod.mk.inj (Except.ok.inj returned)
          have first := admitted [] block [] rfl
          rw [List.append_nil] at first
          exact applyBlock_backed toolkit consistent ih block first
      | virtualChainChanged removed added =>
          rw [applyNotification_virtualChainChanged] at returned
          obtain ⟨-, rfl⟩ := Prod.mk.inj (Except.ok.inj returned)
          have drained := applyNotification_consistent consistent
            (applyNotification_virtualChainChanged toolkit state removed [])
          exact applyBlocks_backed added drained (drained_backed ih _ _) admitted
      | recoveryRequired fromDaa toDaa reason =>
          obtain ⟨-, rfl⟩ := applyNotification_recoveryRequired returned
          rw [ChainNotification.blocks, List.append_nil]
          have kept := drained_backed ih (fun _ _ => true)
            fun score _ => !(fromDaa.toInt64 ≤ score && score ≤ toDaa.toInt64)
          rwa [OrderedMap.filter_of_all state.committed _ fun _ _ _ => rfl] at kept

/-- In a run whose blocks pass the guard, every committed block has finality
evidence among the blocks applied so far. -/
theorem committed_has_finality_evidence {finalityDepth : Option UInt64} {toolkit : Toolkit}
    {history : List IngestedBlock} {state : IngestionState δ}
    (run : FinalityRun toolkit finalityDepth (FinalityGuard finalityDepth) history state)
    (score : Int64) (block : BootstrapBlock) (committed : state.committed[score]? = some block) :
    FinalityEvidence finalityDepth history block.daaScore.toUInt64.toNat := by
  obtain ⟨nonneg, evidence⟩ := (finalityRun_backed run).committed score block committed
  have consistent := reachable_consistent (finalityRun_reachable run)
  rw [consistent.committedKeyed score block committed, toNat_toUInt64_of_nonneg score nonneg]
  exact evidence

theorem committed_has_finality_evidence_final :
    FinalityEvidence (some 10) [headerBlock "a" 7 true] 7 := by
  have run : FinalityRun bareToolkit (some 10) (FinalityGuard (some 10))
      ([] ++ [headerBlock "a" 7 true])
      ((withFinalityDepth () (some 10)).applyBlock
        (blockFromRpc bareToolkit (headerBlock "a" 7 true))).2 := by
    refine .notify (.blockAdded (headerBlock "a" 7 true)) (.start ()) ?_ rfl
    intro before block later split
    obtain ⟨rfl, rfl, rfl⟩ : before = [] ∧ block = headerBlock "a" 7 true ∧ later = [] := by
      cases before with
      | nil => simpa [ChainNotification.blocks, eq_comm] using split
      | cons head tail => simp [ChainNotification.blocks] at split
    exact ⟨by decide, fun _ zero => absurd zero (by decide)⟩
  have committed : (((withFinalityDepth () (some 10)).applyBlock
      (blockFromRpc bareToolkit (headerBlock "a" 7 true))).2.committed[(7 : Int64)]?).map
        (·.daaScore) = some 7 := by decide +kernel
  obtain ⟨block, present, score⟩ := Option.map_eq_some_iff.mp committed
  have evidence := committed_has_finality_evidence run 7 block present
  rw [score] at evidence
  exact evidence

/-- Under a depth of ten, a first block at score zero is committed at once,
although nothing is final. -/
theorem committed_without_finality_evidence :
    ¬ ∀ (toolkit : Toolkit) (finalityDepth : Option UInt64) (history : List IngestedBlock)
      (state : IngestionState Unit),
      FinalityRun toolkit finalityDepth (fun _ _ => True) history state →
        ∀ (score : Int64) (block : BootstrapBlock), state.committed[score]? = some block →
          FinalityEvidence finalityDepth history block.daaScore.toUInt64.toNat := by
  intro safe
  have committed : (((withFinalityDepth () (some 10)).applyBlock
      (blockFromRpc bareToolkit (headerBlock "g" 0 false))).2.committed[(0 : Int64)]?).isSome =
        true := by decide +kernel
  obtain ⟨block, present⟩ := Option.isSome_iff_exists.mp committed
  obtain ⟨seen, member, evidence⟩ := safe bareToolkit (some 10) _ _
    (.notify (.blockAdded (headerBlock "g" 0 false)) (.start ()) (fun _ _ _ _ => trivial) rfl)
    0 block present
  rw [List.nil_append, ChainNotification.blocks, List.mem_singleton] at member
  subst member
  rcases evidence with ⟨finalized, -⟩ | ⟨depth, configured, above⟩
  · cases finalized
  · rw [← Option.some.inj configured] at above
    have zero : (headerBlock "g" 0 false).daaScore.toNat = 0 := rfl
    have ten : (10 : UInt64).toNat = 10 := rfl
    omega

end KasGraph
