import KasGraph.IngestionConservation

set_option autoImplicit false

/-! The order in which added blocks arrive. A block that arrives below waiting ones
rolls these back, so what is committed in the end depends on the order. -/

namespace KasGraph

open IngestionState

variable {δ : Type}

namespace IngestionState

/-- Deliver blocks one after the other as added blocks. -/
def deliverEach (toolkit : Toolkit) (state : IngestionState δ) (blocks : List IngestedBlock) :
    Except Panic (IngestionState δ) :=
  blocks.foldlM (fun state block => do
    let (_, after) ← state.applyNotification toolkit (.blockAdded block)
    return after) state

theorem deliverEach_eq (toolkit : Toolkit) (state : IngestionState δ)
    (blocks : List IngestedBlock) :
    deliverEach toolkit state blocks =
      .ok (state.applyBlocks (blocks.map (blockFromRpc toolkit))).2 := by
  induction blocks generalizing state with
  | nil => rfl
  | cons block rest ih => exact ih (state.applyBlock (blockFromRpc toolkit block)).2

/-- What is held at a score, committed or waiting. -/
def holding (state : IngestionState δ) (score : Int64) : Option BootstrapBlock :=
  (state.committed[score]?).or state.probabilistic[score]?

/-- At every arrival the blocks that wait lie below the arriving one. -/
def InOrder : IngestionState δ → List BootstrapBlock → Prop
  | _, [] => True
  | state, block :: rest =>
      (∀ (score : Int64) (held : BootstrapBlock), state.probabilistic[score]? = some held →
        score < block.daaScore) ∧
      InOrder (state.applyBlock block).2 rest

/-- Whether the block of a score is covered by a cutoff when it arrives or while it
waits. -/
def coveredIn (state : IngestionState δ) (score : Int64) : List BootstrapBlock → Bool
  | [] => false
  | block :: rest =>
      (block.daaScore = score || (state.probabilistic[score]?).isSome) &&
        (state.derivedFinalizedCutoff block.daaScore).any (score ≤ ·) ||
      coveredIn (state.applyBlock block).2 score rest

/-- The scores of the blocks are free and differ. -/
structure Apart (state : IngestionState δ) (blocks : List BootstrapBlock) : Prop where
  free : ∀ block ∈ blocks, state.holding block.daaScore = none
  scores : (blocks.map (·.daaScore)).Nodup

end IngestionState

/-- A block with its finality flag raised, or left. -/
def BootstrapBlock.mark (block : BootstrapBlock) (covered : Bool) : BootstrapBlock :=
  { block with isFinalized := block.isFinalized || covered }

theorem BootstrapBlock.finalizeBy_eq_mark (cutoff : Option Int64) (block : BootstrapBlock) :
    block.finalizeBy cutoff = block.mark (cutoff.any (block.daaScore ≤ ·)) := by
  unfold finalizeBy mark
  by_cases covered : cutoff.any (block.daaScore ≤ ·) = true
  · rw [if_pos covered, covered, Bool.or_true]
  · rw [if_neg covered, (Bool.not_eq_true _).mp covered, Bool.or_false]

theorem BootstrapBlock.mark_mark (block : BootstrapBlock) (first second : Bool) :
    (block.mark first).mark second = block.mark (first || second) := by
  simp only [mark, Bool.or_assoc]

theorem BootstrapBlock.mark_false (block : BootstrapBlock) : block.mark false = block := by
  simp only [mark, Bool.or_false]

/-! ## One arrival -/

theorem holding_eq_none_iff (state : IngestionState δ) (score : Int64) :
    state.holding score = none ↔
      state.committed[score]? = none ∧ state.probabilistic[score]? = none := by
  unfold holding
  rw [Option.or_eq_none_iff]

/-- The two parts of a value that a test selects and rejects. -/
theorem filter_or_filter_not {α : Type} (value : Option α) (test : α → Bool) :
    (value.filter test).or (value.filter fun item => !test item) = value := by
  cases value with
  | none => rfl
  | some item => cases chosen : test item <;> simp [Option.filter_some, chosen]

/-- What a state holds after a block arrived at a free score: the block there, no
waiting block in conflict with it, and the rest as before, covered blocks marked. -/
theorem applyBlock_holding {state : IngestionState δ} (consistent : state.Consistent)
    {block : BootstrapBlock} (free : state.committed[block.daaScore]? = none) (score : Int64) :
    (state.applyBlock block).2.holding score =
      if block.daaScore = score then
        some (block.finalizeBy (state.derivedFinalizedCutoff block.daaScore))
      else
        (state.committed[score]?).or
          ((state.probabilistic[score]?.filter fun held => !conflicts block score held).map
            (·.finalizeBy (state.derivedFinalizedCutoff block.daaScore))) := by
  have applied := applyBlock_applied state block
  generalize (state.applyBlock block).1 = transition at applied
  generalize (state.applyBlock block).2 = after at applied
  cases applied with
  | ignored held present =>
      rw [free] at present
      cases present
  | buffered free unfinalized uncut =>
      unfold holding
      simp only [uncut, BootstrapBlock.finalizeBy_none, Option.map_id', get_arrive]
      by_cases here : block.daaScore = score
      · rw [if_pos here, if_pos here, ← here, free, Option.none_or]
      · rw [if_neg here, if_neg here]
  | promoted _ ready waiting swept =>
      unfold holding
      simp only
      rw [OrderedMap.get_insertEach_entriesWhere, OrderedMap.get_filter, swept, get_sweepFinalized,
        get_arrive]
      by_cases here : block.daaScore = score
      · rw [if_pos here, if_pos here, ← here, free, Option.or_none, Option.map_some,
          filter_or_filter_not]
      · rw [if_neg here, if_neg here]
        cases present : state.committed[score]? with
        | some held =>
            rw [consistent.disjoint score held present]
            rfl
        | none => rw [Option.or_none, Option.none_or, filter_or_filter_not]

/-- A finalized block that arrives above all waiting ones leaves none waiting. -/
theorem applyBlock_settles {state : IngestionState δ} {block : BootstrapBlock}
    (free : state.committed[block.daaScore]? = none) (finalized : block.isFinalized = true)
    (below : ∀ (score : Int64) (held : BootstrapBlock), state.probabilistic[score]? = some held →
      score < block.daaScore) (score : Int64) :
    (state.applyBlock block).2.probabilistic[score]? = none := by
  have applied := applyBlock_applied state block
  generalize (state.applyBlock block).1 = transition at applied
  generalize (state.applyBlock block).2 = after at applied
  cases applied with
  | ignored held present =>
      rw [free] at present
      cases present
  | buffered _ unfinalized uncut =>
      rw [finalized] at unfinalized
      cases unfinalized
  | promoted _ ready waiting swept =>
      have own : waiting[block.daaScore]? =
          some (block.finalizeBy (state.derivedFinalizedCutoff block.daaScore)) := by
        rw [swept, get_sweepFinalized, get_arrive, if_pos rfl, Option.map_some]
      have reached : block.daaScore ≤ highestFinalizedDaa waiting :=
        le_highestFinalizedDaa own ((BootstrapBlock.finalizeBy_isFinalized _ _).mpr (Or.inl finalized))
      simp only
      rw [OrderedMap.get_filter]
      cases present : waiting[score]? with
      | none => rfl
      | some held =>
          have under : score ≤ block.daaScore := by
            rw [swept, get_sweepFinalized, get_arrive] at present
            by_cases here : block.daaScore = score
            · exact le_of_eq here.symm
            · rw [if_neg here] at present
              obtain ⟨existing, found, -⟩ := Option.map_eq_some_iff.mp present
              exact le_of_lt (below score existing (Option.filter_eq_some_iff.mp found).1)
          have chosen : promotable waiting score held = true :=
            decide_eq_true (le_trans under reached)
          rw [Option.filter_some, if_neg (by simp [chosen])]

/-- A block that waits afterwards is the one that arrived, or waited before. -/
theorem applyBlock_waiting {state : IngestionState δ} {block held : BootstrapBlock}
    {score : Int64} (present : (state.applyBlock block).2.probabilistic[score]? = some held) :
    (score = block.daaScore ∧ held.hash = block.hash) ∨
      ∃ before, state.probabilistic[score]? = some before ∧ held.hash = before.hash := by
  have arrived : ∀ other : BootstrapBlock, (arrive state.probabilistic block)[score]? = some other →
      (score = block.daaScore ∧ other.hash = block.hash) ∨
        ∃ before, state.probabilistic[score]? = some before ∧ other.hash = before.hash := by
    intro other found
    rw [get_arrive] at found
    by_cases here : block.daaScore = score
    · rw [if_pos here, Option.some.injEq] at found
      exact Or.inl ⟨here.symm, congrArg _ found.symm⟩
    · rw [if_neg here] at found
      exact Or.inr ⟨other, (Option.filter_eq_some_iff.mp found).1, rfl⟩
  have applied := applyBlock_applied state block
  generalize (state.applyBlock block).1 = transition at applied
  generalize (state.applyBlock block).2 = after at applied present
  cases applied with
  | ignored _ _ => exact Or.inr ⟨held, present, rfl⟩
  | buffered _ _ _ => exact arrived held present
  | promoted _ _ waiting swept =>
      have found := ((OrderedMap.get_filter_eq_some _ _ _ _).mp present).1
      rw [swept, get_sweepFinalized] at found
      obtain ⟨other, here, rfl⟩ := Option.map_eq_some_iff.mp found
      rw [BootstrapBlock.finalizeBy_hash]
      exact arrived other here

/-! ## Runs of arrivals -/

theorem applyBlocks_cons (state : IngestionState δ) (block : BootstrapBlock)
    (rest : List BootstrapBlock) :
    (state.applyBlocks (block :: rest)).2 = ((state.applyBlock block).2.applyBlocks rest).2 := rfl

theorem IngestionState.Apart.head {state : IngestionState δ} {block : BootstrapBlock}
    {rest : List BootstrapBlock} (apart : state.Apart (block :: rest)) : state.committed[block.daaScore]? = none :=
  ((holding_eq_none_iff _ _).mp (apart.free block List.mem_cons_self)).1

theorem applyBlock_holding_none {state : IngestionState δ} (consistent : state.Consistent)
    {block : BootstrapBlock} (free : state.committed[block.daaScore]? = none) {score : Int64}
    (absent : state.holding score = none) (other : block.daaScore ≠ score) :
    (state.applyBlock block).2.holding score = none := by
  obtain ⟨uncommitted, unwaiting⟩ := (holding_eq_none_iff _ _).mp absent
  rw [applyBlock_holding consistent free, if_neg other, uncommitted, unwaiting]
  rfl

theorem IngestionState.Apart.tail {state : IngestionState δ} (consistent : state.Consistent)
    {block : BootstrapBlock} {rest : List BootstrapBlock} (apart : state.Apart (block :: rest)) :
    (state.applyBlock block).2.Apart rest := by
  obtain ⟨here, later⟩ := List.nodup_cons.mp apart.scores
  refine ⟨fun other member => ?_, later⟩
  refine applyBlock_holding_none consistent apart.head
    (apart.free other (List.mem_cons_of_mem _ member)) fun same => here ?_
  exact List.mem_map.mpr ⟨other, member, same.symm⟩

/-- A score at which nothing arrives stays free. -/
theorem applyBlocks_holding_none {state : IngestionState δ} (consistent : state.Consistent)
    {blocks : List BootstrapBlock} (apart : state.Apart blocks) {score : Int64}
    (absent : state.holding score = none) (others : ∀ block ∈ blocks, block.daaScore ≠ score) :
    (state.applyBlocks blocks).2.holding score = none := by
  induction blocks generalizing state with
  | nil => exact absent
  | cons block rest ih =>
      refine ih (applyBlock_consistent consistent block) (apart.tail consistent) ?_
        fun other member => others other (List.mem_cons_of_mem _ member)
      exact applyBlock_holding_none consistent apart.head absent (others block List.mem_cons_self)

/-- What is held stays held through arrivals in order, marked if they cover it. -/
theorem applyBlocks_holding_held {state : IngestionState δ} (consistent : state.Consistent)
    {blocks : List BootstrapBlock} (apart : state.Apart blocks) (ordered : state.InOrder blocks)
    {score : Int64} {held : BootstrapBlock} (present : state.holding score = some held)
    (keyed : held.daaScore = score) :
    (state.applyBlocks blocks).2.holding score =
      some (held.mark (state.coveredIn score blocks)) := by
  induction blocks generalizing state held with
  | nil => exact present.trans (congrArg some held.mark_false.symm)
  | cons block rest ih =>
      have elsewhere : block.daaScore ≠ score := by
        intro here
        have free := apart.free block List.mem_cons_self
        rw [here, present] at free
        cases free
      have step : (state.applyBlock block).2.holding score = some (held.mark
          ((block.daaScore = score || (state.probabilistic[score]?).isSome) &&
            (state.derivedFinalizedCutoff block.daaScore).any (score ≤ ·))) := by
        rw [applyBlock_holding consistent apart.head, if_neg elsewhere, decide_eq_false elsewhere,
          Bool.false_or]
        unfold holding at present
        cases committed : state.committed[score]? with
        | some kept =>
            rw [committed, Option.some_or] at present
            rw [consistent.disjoint score kept committed, Option.isSome_none, Bool.false_and,
              BootstrapBlock.mark_false]
            exact present
        | none =>
            rw [committed, Option.none_or] at present
            have clear : conflicts block score held = false := by
              have under := ordered.1 score held present
              simp [conflicts, not_le.mpr under]
            rw [present, Option.none_or, Option.filter_some, if_pos (by simp [clear]),
              Option.map_some, BootstrapBlock.finalizeBy_eq_mark, keyed, Option.isSome_some,
              Bool.true_and]
      have later := ih (applyBlock_consistent consistent block) (apart.tail consistent) ordered.2
        step keyed
      rw [BootstrapBlock.mark_mark] at later
      exact later

/-- A block that arrives in order is held in the end. -/
theorem applyBlocks_holding_arrived {state : IngestionState δ} (consistent : state.Consistent)
    {blocks : List BootstrapBlock} (apart : state.Apart blocks) (ordered : state.InOrder blocks)
    {block : BootstrapBlock} (member : block ∈ blocks) :
    (state.applyBlocks blocks).2.holding block.daaScore =
      some (block.mark (state.coveredIn block.daaScore blocks)) := by
  induction blocks generalizing state with
  | nil => cases member
  | cons first rest ih =>
      have settled := applyBlock_consistent consistent first
      rcases List.mem_cons.mp member with here | later
      · subst here
        have step : (state.applyBlock block).2.holding block.daaScore = some (block.mark
            ((state.derivedFinalizedCutoff block.daaScore).any (block.daaScore ≤ ·))) := by
          rw [applyBlock_holding consistent apart.head, if_pos rfl,
            BootstrapBlock.finalizeBy_eq_mark]
        have held := applyBlocks_holding_held settled (apart.tail consistent) ordered.2 step rfl
        rw [BootstrapBlock.mark_mark] at held
        simpa [coveredIn, applyBlocks_cons] using held
      · have elsewhere : first.daaScore ≠ block.daaScore := by
          intro same
          refine (List.nodup_cons.mp apart.scores).1 ?_
          exact List.mem_map.mpr ⟨block, later, same.symm⟩
        have unwaiting : state.probabilistic[block.daaScore]? = none :=
          ((holding_eq_none_iff _ _).mp (apart.free block member)).2
        have held := ih settled (apart.tail consistent) ordered.2 later
        simpa [coveredIn, applyBlocks_cons, elsewhere, unwaiting] using held

/-- After a last finalized block in order none waits. -/
theorem applyBlocks_settles {state : IngestionState δ} (consistent : state.Consistent)
    {blocks : List BootstrapBlock} {final : BootstrapBlock}
    (apart : state.Apart (blocks ++ [final])) (ordered : state.InOrder (blocks ++ [final]))
    (finalized : final.isFinalized = true) (score : Int64) :
    (state.applyBlocks (blocks ++ [final])).2.probabilistic[score]? = none := by
  induction blocks generalizing state with
  | nil => exact applyBlock_settles apart.head finalized ordered.1 score
  | cons block rest ih =>
      exact ih (applyBlock_consistent consistent block) (apart.tail consistent) ordered.2

/-- If all that waits or arrives is held in the end, the blocks arrive in order: one that
arrives below a waiting block drops it, and nothing arrives at its score again. -/
theorem inOrder_of_held {state : IngestionState δ} (consistent : state.Consistent)
    {blocks : List BootstrapBlock} (apart : state.Apart blocks)
    (hashes : (blocks.map (·.hash)).Nodup)
    (known : ∀ (score : Int64) (held : BootstrapBlock), state.probabilistic[score]? = some held →
      ∀ block ∈ blocks, held.hash ≠ block.hash)
    (waiting : ∀ score : Int64, (state.probabilistic[score]?).isSome = true →
      ((state.applyBlocks blocks).2.holding score).isSome = true)
    (arriving : ∀ block ∈ blocks,
      ((state.applyBlocks blocks).2.holding block.daaScore).isSome = true) :
    state.InOrder blocks := by
  induction blocks generalizing state with
  | nil => trivial
  | cons block rest ih =>
      have settled := applyBlock_consistent consistent block
      have after := applyBlock_holding consistent apart.head
      obtain ⟨fresh, later⟩ := List.nodup_cons.mp hashes
      constructor
      · intro score held present
        by_contra above
        have uncommitted : state.committed[score]? = none := by
          cases committed : state.committed[score]? with
          | none => rfl
          | some kept =>
              rw [consistent.disjoint score kept committed] at present
              cases present
        have taken : state.holding score ≠ none := by
          intro absent
          rw [((holding_eq_none_iff _ _).mp absent).2] at present
          cases present
        have elsewhere : block.daaScore ≠ score := by
          intro here
          exact taken (here ▸ apart.free block List.mem_cons_self)
        have clash : conflicts block score held = true := by
          have differs := known score held present block List.mem_cons_self
          simp [conflicts, not_lt.mp above, differs]
        have dropped : (state.applyBlock block).2.holding score = none := by
          rw [after, if_neg elsewhere, uncommitted, present, Option.filter_some,
            if_neg (by simp [clash])]
          rfl
        have lost := applyBlocks_holding_none settled (apart.tail consistent) dropped
          fun other member same => taken (same ▸ apart.free other (List.mem_cons_of_mem _ member))
        have kept := waiting score (by rw [present]; rfl)
        rw [applyBlocks_cons, lost] at kept
        cases kept
      · refine ih settled (apart.tail consistent) later ?_ ?_
          fun other member => arriving other (List.mem_cons_of_mem _ member)
        · intro score held present other member
          rcases applyBlock_waiting present with ⟨-, own⟩ | ⟨before, waited, same⟩
          · rw [own]
            exact fun same => fresh (List.mem_map.mpr ⟨other, member, same.symm⟩)
          · rw [same]
            exact known score before waited other (List.mem_cons_of_mem _ member)
        · intro score present
          obtain ⟨held, present⟩ := Option.isSome_iff_exists.mp present
          rcases applyBlock_waiting present with ⟨here, -⟩ | ⟨before, waited, -⟩
          · rw [here]
            exact arriving block List.mem_cons_self
          · exact waiting score (by rw [waited]; rfl)

/-! ## Two orders -/

/-- The blocks that arrive, a final one last. -/
def arrivals (toolkit : Toolkit) (blocks : List IngestedBlock) (final : IngestedBlock) :
    List BootstrapBlock :=
  (blocks ++ [final]).map (blockFromRpc toolkit)

section Orders

variable {toolkit : Toolkit} {prior : δ} {depth : Option UInt64} {blocks : List IngestedBlock}
  {final : IngestedBlock}

theorem start_consistent (prior : δ) (depth : Option UInt64) :
    (withFinalityDepth prior depth).Consistent := by
  constructor <;> intro score block present <;> simp [withFinalityDepth] at present

theorem start_holding (prior : δ) (depth : Option UInt64) (score : Int64) :
    (withFinalityDepth prior depth).holding score = none := by
  simp [holding, withFinalityDepth]

theorem arrivals_apart (scores : (blocks.map (·.daaScore)).Nodup)
    (above : ∀ block ∈ blocks, block.daaScore < final.daaScore) :
    (withFinalityDepth prior depth).Apart (arrivals toolkit blocks final) := by
  refine ⟨fun block _ => start_holding prior depth _, ?_⟩
  have mapped : (arrivals toolkit blocks final).map (·.daaScore) =
      ((blocks ++ [final]).map (·.daaScore)).map UInt64.toInt64 := by
    simp [arrivals, Function.comp_def]
  rw [mapped, List.map_append]
  refine List.Nodup.map (Function.LeftInverse.injective UInt64.toUInt64_toInt64) ?_
  refine List.nodup_append.mpr ⟨scores, List.nodup_singleton _, ?_⟩
  intro score member last here same
  obtain ⟨block, listed, rfl⟩ := List.mem_map.mp member
  rw [List.mem_singleton.mp here] at same
  exact UInt64.ne_of_lt (above block listed) same

theorem mem_arrivals {block : IngestedBlock} (member : block ∈ final :: blocks) :
    blockFromRpc toolkit block ∈ arrivals toolkit blocks final :=
  List.mem_map_of_mem ((List.perm_append_singleton final blocks).mem_iff.mpr member)

/-- What arrivals in order leave committed. -/
theorem committed_of_inOrder
    (apart : (withFinalityDepth prior depth).Apart (arrivals toolkit blocks final))
    (finalized : final.isFinalized = true)
    (ordered : (withFinalityDepth prior depth).InOrder (arrivals toolkit blocks final))
    (score : Int64) :
    ((withFinalityDepth prior depth).applyBlocks
        (arrivals toolkit blocks final)).2.committed[score]? =
      ((withFinalityDepth prior depth).applyBlocks
        (arrivals toolkit blocks final)).2.holding score := by
  have none : ((withFinalityDepth prior depth).applyBlocks
      (arrivals toolkit blocks final)).2.probabilistic[score]? = none := by
    unfold arrivals at apart ordered ⊢
    rw [List.map_append] at apart ordered ⊢
    exact applyBlocks_settles (start_consistent prior depth) apart ordered finalized score
  unfold holding
  rw [none, Option.or_none]

/-- If the final state has every block committed, they arrived in order. -/
theorem inOrder_of_committed
    (apart : (withFinalityDepth prior depth).Apart (arrivals toolkit blocks final))
    (hashes : ((final :: blocks).map (·.hash)).Nodup)
    (contains : ∀ block ∈ final :: blocks, ∃ held, ((withFinalityDepth prior depth).applyBlocks
      (arrivals toolkit blocks final)).2.committed[block.daaScore.toInt64]? = some held) :
    (withFinalityDepth prior depth).InOrder (arrivals toolkit blocks final) := by
  refine inOrder_of_held (start_consistent prior depth) apart ?_ ?_ ?_ ?_
  · have mapped : (arrivals toolkit blocks final).map (·.hash) =
        (blocks ++ [final]).map (·.hash) := by
      simp [arrivals, Function.comp_def]
    rw [mapped]
    exact ((List.perm_append_singleton final blocks).map _).nodup_iff.mpr hashes
  · intro score held present
    simp [withFinalityDepth] at present
  · intro score present
    simp [withFinalityDepth] at present
  · intro block member
    obtain ⟨delivered, listed, rfl⟩ := List.mem_map.mp member
    have own : delivered ∈ final :: blocks :=
      (List.perm_append_singleton final blocks).mem_iff.mp listed
    obtain ⟨held, present⟩ := contains delivered own
    unfold holding
    rw [blockFromRpc_daaScore, present]
    rfl

end Orders

/-- Two orders of the same blocks, each before one finalized block above all, commit the
same map with every block in it exactly when in both orders every block arrives above
the waiting ones, and every block that is not finalized upstream is covered by a cutoff
before it is committed in both orders or in neither. -/
theorem arrival_order_iff (toolkit : Toolkit) (prior : δ) (depth : Option UInt64)
    {first second : List IngestedBlock} {final : IngestedBlock} (same : first.Perm second)
    (hashes : ((final :: first).map (·.hash)).Nodup) (scores : (first.map (·.daaScore)).Nodup)
    (finalized : final.isFinalized = true)
    (above : ∀ block ∈ first, block.daaScore < final.daaScore) :
    (∃ one two,
      deliverEach toolkit (withFinalityDepth prior depth) (first ++ [final]) = .ok one ∧
      deliverEach toolkit (withFinalityDepth prior depth) (second ++ [final]) = .ok two ∧
      one.committed = two.committed ∧
      ∀ block ∈ final :: first, ∃ held,
        one.committed[block.daaScore.toInt64]? = some held ∧ held.hash = block.hash) ↔
    (withFinalityDepth prior depth).InOrder (arrivals toolkit first final) ∧
    (withFinalityDepth prior depth).InOrder (arrivals toolkit second final) ∧
    ∀ block ∈ first, block.isFinalized = true ∨
      (withFinalityDepth prior depth).coveredIn block.daaScore.toInt64
          (arrivals toolkit first final) =
        (withFinalityDepth prior depth).coveredIn block.daaScore.toInt64
          (arrivals toolkit second final) := by
  have apart := @arrivals_apart δ toolkit prior depth first final scores above
  have apart' := @arrivals_apart δ toolkit prior depth second final
    ((same.map _).nodup_iff.mp scores) fun block member => above block (same.mem_iff.mpr member)
  have hashes' : ((final :: second).map (·.hash)).Nodup :=
    ((same.cons final).map _).nodup_iff.mp hashes
  have start := start_consistent prior depth
  have arrives : ∀ block ∈ final :: first,
      blockFromRpc toolkit block ∈ arrivals toolkit first final ∧
        blockFromRpc toolkit block ∈ arrivals toolkit second final := fun block member =>
    ⟨mem_arrivals member, mem_arrivals ((same.cons final).mem_iff.mp member)⟩
  have ran : ∀ blocks : List IngestedBlock,
      deliverEach toolkit (withFinalityDepth prior depth) (blocks ++ [final]) =
        .ok ((withFinalityDepth prior depth).applyBlocks (arrivals toolkit blocks final)).2 :=
    fun blocks => deliverEach_eq toolkit _ _
  constructor
  · rintro ⟨one, two, delivered, delivered', equal, contains⟩
    rw [ran, Except.ok.injEq] at delivered delivered'
    subst delivered delivered'
    have ordered := inOrder_of_committed apart hashes fun block member => by
      obtain ⟨held, present, -⟩ := contains block member
      exact ⟨held, present⟩
    have ordered' := inOrder_of_committed apart' hashes' fun block member => by
      obtain ⟨held, present, -⟩ := contains block ((same.cons final).mem_iff.mpr member)
      exact ⟨held, by rw [← equal]; exact present⟩
    refine ⟨ordered, ordered', fun block member => ?_⟩
    obtain ⟨arrived, arrived'⟩ := arrives block (List.mem_cons_of_mem _ member)
    have held := applyBlocks_holding_arrived start apart ordered arrived
    have held' := applyBlocks_holding_arrived start apart' ordered' arrived'
    rw [← committed_of_inOrder apart finalized ordered] at held
    rw [← committed_of_inOrder apart' finalized ordered', ← equal, held, Option.some.injEq] at held'
    have flags := congrArg BootstrapBlock.isFinalized held'
    simp only [BootstrapBlock.mark, blockFromRpc_isFinalized, blockFromRpc_daaScore] at flags
    cases upstream : block.isFinalized with
    | true => exact Or.inl rfl
    | false =>
        rw [upstream, Bool.false_or, Bool.false_or] at flags
        exact Or.inr flags
  · rintro ⟨ordered, ordered', flags⟩
    refine ⟨_, _, ran first, ran second, ?_, ?_⟩
    · refine OrderedMap.ext_get fun score => ?_
      rw [committed_of_inOrder apart finalized ordered,
        committed_of_inOrder apart' finalized ordered']
      by_cases taken : ∃ block ∈ final :: first, block.daaScore.toInt64 = score
      · obtain ⟨block, member, rfl⟩ := taken
        obtain ⟨arrived, arrived'⟩ := arrives block member
        have held := applyBlocks_holding_arrived start apart ordered arrived
        have held' := applyBlocks_holding_arrived start apart' ordered' arrived'
        rw [blockFromRpc_daaScore] at held held'
        rw [held, held', Option.some.injEq]
        have upstream : block.isFinalized = true ∨
            (withFinalityDepth prior depth).coveredIn block.daaScore.toInt64
                (arrivals toolkit first final) =
              (withFinalityDepth prior depth).coveredIn block.daaScore.toInt64
                (arrivals toolkit second final) := by
          rcases List.mem_cons.mp member with rfl | listed
          · exact Or.inl finalized
          · exact flags block listed
        rcases upstream with upstream | covered
        · simp [BootstrapBlock.mark, upstream]
        · rw [covered]
      · have elsewhere : ∀ blocks : List IngestedBlock, first.Perm blocks →
            ∀ block ∈ arrivals toolkit blocks final, block.daaScore ≠ score := by
          intro blocks order block member here
          obtain ⟨delivered, listed, rfl⟩ := List.mem_map.mp member
          refine taken ⟨delivered, ?_, here⟩
          exact (order.cons final).mem_iff.mpr
            ((List.perm_append_singleton final blocks).mem_iff.mp listed)
        rw [applyBlocks_holding_none start apart (start_holding prior depth score)
            (elsewhere first (.refl first)),
          applyBlocks_holding_none start apart' (start_holding prior depth score)
            (elsewhere second same)]
    · intro block member
      have held := applyBlocks_holding_arrived start apart ordered (arrives block member).1
      rw [← committed_of_inOrder apart finalized ordered] at held
      exact ⟨_, held, rfl⟩

/-! ### Two blocks -/

def lowBlock : IngestedBlock := headerBlock "a" 10 false

def highBlock : IngestedBlock := headerBlock "b" 11 false

def lastBlock : IngestedBlock := headerBlock "f" 12 true

/-- In one order only. -/
theorem arrival_order_iff_two :
    (∃ one two,
      deliverEach bareToolkit (withFinalityDepth () none) ([lowBlock, highBlock] ++ [lastBlock]) =
        .ok one ∧
      deliverEach bareToolkit (withFinalityDepth () none) ([highBlock, lowBlock] ++ [lastBlock]) =
        .ok two ∧
      one.committed = two.committed ∧
      ∀ block ∈ lastBlock :: [lowBlock, highBlock], ∃ held,
        one.committed[block.daaScore.toInt64]? = some held ∧ held.hash = block.hash) ↔
    (withFinalityDepth () none).InOrder (arrivals bareToolkit [lowBlock, highBlock] lastBlock) ∧
    (withFinalityDepth () none).InOrder (arrivals bareToolkit [highBlock, lowBlock] lastBlock) ∧
    ∀ block ∈ [lowBlock, highBlock], block.isFinalized = true ∨
      (withFinalityDepth () none).coveredIn block.daaScore.toInt64
          (arrivals bareToolkit [lowBlock, highBlock] lastBlock) =
        (withFinalityDepth () none).coveredIn block.daaScore.toInt64
          (arrivals bareToolkit [highBlock, lowBlock] lastBlock) :=
  arrival_order_iff bareToolkit () none (List.Perm.swap highBlock lowBlock []) (by decide +kernel)
    (by decide +kernel) rfl (by decide +kernel)

/-- The lower block, arriving second, drops the higher one. -/
theorem arrival_below_drops :
    ¬ ∀ (toolkit : Toolkit) (prior : Unit) (depth : Option UInt64)
        (first second : List IngestedBlock) (final : IngestedBlock), first.Perm second →
      ((final :: first).map (·.hash)).Nodup → (first.map (·.daaScore)).Nodup →
      final.isFinalized = true → (∀ block ∈ first, block.daaScore < final.daaScore) →
      ∃ one two,
        deliverEach toolkit (withFinalityDepth prior depth) (first ++ [final]) = .ok one ∧
        deliverEach toolkit (withFinalityDepth prior depth) (second ++ [final]) = .ok two ∧
        one.committed = two.committed ∧
        ∀ block ∈ final :: first, ∃ held,
          one.committed[block.daaScore.toInt64]? = some held ∧ held.hash = block.hash := by
  intro always
  obtain ⟨one, two, delivered, -, -, contains⟩ := always bareToolkit () none
    [highBlock, lowBlock] [lowBlock, highBlock] lastBlock (List.Perm.swap lowBlock highBlock [])
    (by decide +kernel) (by decide +kernel) rfl (by decide +kernel)
  rw [deliverEach_eq, Except.ok.injEq] at delivered
  obtain ⟨held, present, -⟩ := contains highBlock (by simp)
  have lost : ((withFinalityDepth () none).applyBlocks
      (([highBlock, lowBlock] ++ [lastBlock]).map (blockFromRpc bareToolkit))).2.committed[
        highBlock.daaScore.toInt64]?.isNone = true := by decide +kernel
  rw [delivered, present] at lost
  cases lost

end KasGraph
