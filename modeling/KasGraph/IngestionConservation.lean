import KasGraph.Ingestion

set_option autoImplicit false

/-! Conservation of blocks in memory: the transition a notification returns is
the difference of the two states. -/

namespace KasGraph

variable {δ : Type}

/-- The same hash at the same score. -/
def BootstrapBlock.Same (a b : BootstrapBlock) : Prop :=
  a.hash = b.hash ∧ a.daaScore = b.daaScore

namespace IngestionState

/-- Every block sits under its own score, and no score is held twice. -/
structure Consistent (state : IngestionState δ) : Prop where
  committedKeyed : ∀ (score : Int64) (block : BootstrapBlock),
    state.committed[score]? = some block → block.daaScore = score
  probabilisticKeyed : ∀ (score : Int64) (block : BootstrapBlock),
    state.probabilistic[score]? = some block → block.daaScore = score
  disjoint : ∀ (score : Int64) (block : BootstrapBlock),
    state.committed[score]? = some block → state.probabilistic[score]? = none

/-- The block is among the waiting ones. -/
def Waits (state : IngestionState δ) (block : BootstrapBlock) : Prop :=
  ∃ held, state.probabilistic[block.daaScore]? = some held ∧ held.Same block

/-- The block waits, or the transition reports it as written or rolled back. -/
def Accounted (transition : IngestionTransition) (after : IngestionState δ)
    (block : BootstrapBlock) : Prop :=
  after.Waits block ∨ (∃ write ∈ transition.committedWrites, write.block.Same block) ∨
    ∃ gone ∈ transition.rolledBackProbabilistic, gone.Same block

/-- The entries that the committed writes of a transition stand for. -/
def writeEntries (writes : List CommittedBlockWrite) : List (Int64 × BootstrapBlock) :=
  writes.map fun write => (write.block.daaScore, write.block)

/-- The transition is the exact difference of the two states. `arrivals` are the
blocks the notification delivered. -/
structure Conserved (before : IngestionState δ) (transition : IngestionTransition)
    (after : IngestionState δ) (arrivals : List BootstrapBlock) : Prop where
  unwound : ∀ block ∈ transition.committedUnwinds,
    before.committed[block.daaScore]? = some block
  unwoundOnce : transition.committedUnwinds.Nodup
  written : after.committed =
    OrderedMap.insertEach
      (before.committed.filter fun _ block => block ∉ transition.committedUnwinds)
      (writeEntries transition.committedWrites)
  writtenOnce : (transition.committedWrites.map (·.block.daaScore)).Nodup
  writtenFresh : ∀ write ∈ transition.committedWrites,
    (before.committed.filter fun _ block =>
      block ∉ transition.committedUnwinds)[write.block.daaScore]? = none
  left : ∀ (score : Int64) (block : BootstrapBlock), before.probabilistic[score]? = some block →
    Accounted transition after block
  arrived : ∀ block ∈ arrivals,
    (∃ held, after.committed[block.daaScore]? = some held) ∨ Accounted transition after block

end IngestionState

open IngestionState

theorem get_arrive (probabilistic : OrderedMap Int64 BootstrapBlock) (block : BootstrapBlock)
    (score : Int64) :
    (arrive probabilistic block)[score]? =
      if block.daaScore = score then some block
      else probabilistic[score]?.filter fun existing => !conflicts block score existing := by
  unfold arrive
  split
  · rename_i here
    rw [← here, OrderedMap.get_insert_self]
  · rename_i here
    rw [OrderedMap.get_insert_of_ne _ _ here, OrderedMap.get_filter]

private theorem arrive_keyed {probabilistic : OrderedMap Int64 BootstrapBlock}
    {block : BootstrapBlock}
    (keyed : ∀ (score : Int64) (b : BootstrapBlock), probabilistic[score]? = some b → b.daaScore = score) (score : Int64)
    (b : BootstrapBlock) (present : (arrive probabilistic block)[score]? = some b) :
    b.daaScore = score := by
  rw [get_arrive] at present
  split at present
  · rename_i here
    rw [← Option.some.inj present, here]
  · exact keyed score b (Option.filter_eq_some_iff.mp present).1

private theorem sweepFinalized_keyed {cutoff : Option Int64}
    {waiting : OrderedMap Int64 BootstrapBlock}
    (keyed : ∀ (score : Int64) (b : BootstrapBlock), waiting[score]? = some b → b.daaScore = score) (score : Int64)
    (b : BootstrapBlock) (present : (sweepFinalized cutoff waiting)[score]? = some b) :
    b.daaScore = score := by
  rw [get_sweepFinalized] at present
  obtain ⟨unswept, found, rfl⟩ := Option.map_eq_some_iff.mp present
  rw [BootstrapBlock.finalizeBy_daaScore]
  exact keyed score unswept found

/-- A block at a score the committed map leaves free waits there at most. -/
private theorem arrive_disjoint {state : IngestionState δ} (consistent : state.Consistent)
    {block : BootstrapBlock} (free : state.committed[block.daaScore]? = none) (score : Int64)
    (held : BootstrapBlock) (present : state.committed[score]? = some held) :
    (arrive state.probabilistic block)[score]? = none := by
  rw [get_arrive, if_neg, consistent.disjoint score held present]
  · rfl
  · rintro rfl
    rw [free] at present
    cases present

theorem applyBlock_consistent {state : IngestionState δ} (consistent : state.Consistent)
    (block : BootstrapBlock) : (state.applyBlock block).2.Consistent := by
  have applied := applyBlock_applied state block
  generalize (state.applyBlock block).1 = transition at applied
  generalize (state.applyBlock block).2 = after at applied
  cases applied with
  | ignored held present => exact consistent
  | buffered free unfinalized uncut =>
      exact {
        committedKeyed := consistent.committedKeyed
        probabilisticKeyed := arrive_keyed consistent.probabilisticKeyed
        disjoint := arrive_disjoint consistent free }
  | promoted free ready waiting swept =>
      have keyed : ∀ (score : Int64) (b : BootstrapBlock), waiting[score]? = some b → b.daaScore = score := by
        rw [swept]
        exact sweepFinalized_keyed (arrive_keyed consistent.probabilisticKeyed)
      constructor
      · intro score b present
        rw [OrderedMap.get_insertEach_entriesWhere] at present
        rcases Option.or_eq_some_iff.mp present with moved | ⟨-, stayed⟩
        · exact keyed score b (Option.filter_eq_some_iff.mp moved).1
        · exact consistent.committedKeyed score b stayed
      · intro score b present
        exact keyed score b ((OrderedMap.get_filter_eq_some _ _ _ _).mp present).1
      · intro score b present
        rw [OrderedMap.get_insertEach_entriesWhere] at present
        rw [OrderedMap.get_filter]
        rcases Option.or_eq_some_iff.mp present with moved | ⟨-, stayed⟩
        · obtain ⟨found, chosen⟩ := Option.filter_eq_some_iff.mp moved
          rw [found, Option.filter_some, if_neg (by simp [chosen])]
        · rw [swept, get_sweepFinalized, arrive_disjoint consistent free score b stayed]
          rfl

theorem applyBlocks_consistent {state : IngestionState δ} (consistent : state.Consistent)
    (blocks : List BootstrapBlock) : (state.applyBlocks blocks).2.Consistent := by
  induction blocks generalizing state with
  | nil => exact consistent
  | cons block rest ih => exact ih (applyBlock_consistent consistent block)

/-! ## One block -/

/-- A block that stood before one arrived waits still, or was rolled back. -/
private theorem arrive_accounts {state : IngestionState δ} (consistent : state.Consistent)
    (block : BootstrapBlock) (score : Int64) (b : BootstrapBlock)
    (present : state.probabilistic[score]? = some b) :
    (∃ held, (arrive state.probabilistic block)[b.daaScore]? = some held ∧ held.Same b) ∨
      b ∈ state.probabilistic.valuesWhere (conflicts block) := by
  have here := consistent.probabilisticKeyed score b present
  subst here
  by_cases clash : conflicts block b.daaScore b
  · exact Or.inr ((OrderedMap.mem_valuesWhere _ _ _).mpr ⟨b.daaScore, present, clash⟩)
  · left
    rw [get_arrive]
    split
    · rename_i same
      refine ⟨block, rfl, ?_, same⟩
      by_contra other
      refine clash ?_
      simp only [conflicts, Bool.and_eq_true, decide_eq_true_eq, bne_iff_ne, ne_eq]
      exact ⟨same ▸ le_refl _, fun equal => other equal.symm⟩
    · rw [present, Option.filter_some, if_pos (by simpa using clash)]
      exact ⟨b, rfl, rfl, rfl⟩

/-- A block of the swept map is written or waits on. -/
private theorem promoted_accounts {waiting : OrderedMap Int64 BootstrapBlock}
    {rolledBack : List BootstrapBlock} {after : IngestionState δ} {b held : BootstrapBlock}
    (kept : after.probabilistic = waiting.filter fun score b => !promotable waiting score b)
    (present : waiting[b.daaScore]? = some held) (same : held.Same b) :
    Accounted { IngestionTransition.none with
      committedWrites := (waiting.valuesWhere (promotable waiting)).map .mk
      rolledBackProbabilistic := rolledBack } after b := by
  by_cases ready : promotable waiting b.daaScore held
  · refine Or.inr (Or.inl ⟨⟨held⟩, List.mem_map.mpr ⟨held, ?_, rfl⟩, same⟩)
    exact (OrderedMap.mem_valuesWhere _ _ _).mpr ⟨b.daaScore, present, ready⟩
  · refine Or.inl ⟨held, ?_, same⟩
    rw [kept, OrderedMap.get_filter, present, Option.filter_some, if_pos (by simpa using ready)]

private theorem entriesWhere_eq_writeEntries {waiting : OrderedMap Int64 BootstrapBlock}
    (keyed : ∀ (score : Int64) (b : BootstrapBlock), waiting[score]? = some b → b.daaScore = score)
    (p : Int64 → BootstrapBlock → Bool) :
    waiting.entriesWhere p = writeEntries ((waiting.valuesWhere p).map .mk) := by
  rw [writeEntries, OrderedMap.valuesWhere, List.map_map, List.map_map]
  refine (List.map_id _).symm.trans (List.map_congr_left ?_)
  rintro ⟨score, b⟩ member
  obtain ⟨found, -⟩ := (OrderedMap.mem_entriesWhere _ _ _ _).mp member
  simp [keyed score b found]

theorem applyBlock_conserved {state : IngestionState δ} (consistent : state.Consistent)
    (block : BootstrapBlock) :
    (state.applyBlock block).1.committedUnwinds = [] ∧
      state.Conserved (state.applyBlock block).1 (state.applyBlock block).2 [block] := by
  have applied := applyBlock_applied state block
  generalize (state.applyBlock block).1 = transition at applied
  generalize (state.applyBlock block).2 = after at applied
  have nothingUnwound : (state.committed.filter fun _ b => b ∉ ([] : List BootstrapBlock)) =
      state.committed := OrderedMap.filter_of_all _ _ (by simp)
  cases applied with
  | ignored held present =>
      refine ⟨rfl, nofun, List.nodup_nil, nothingUnwound.symm, List.nodup_nil, nofun, ?_, ?_⟩
      · intro score b found
        have here := consistent.probabilisticKeyed score b found
        subst here
        exact Or.inl ⟨b, found, rfl, rfl⟩
      · intro b member
        rw [List.mem_singleton.mp member]
        exact Or.inl ⟨held, present⟩
  | buffered free unfinalized uncut =>
      refine ⟨rfl, nofun, List.nodup_nil, nothingUnwound.symm, List.nodup_nil, nofun, ?_, ?_⟩
      · intro score b found
        rcases arrive_accounts consistent block score b found with ⟨held, stands, same⟩ | gone
        · exact Or.inl ⟨held, stands, same⟩
        · exact Or.inr (Or.inr ⟨b, gone, rfl, rfl⟩)
      · intro b member
        rw [List.mem_singleton.mp member]
        refine Or.inr (Or.inl ⟨block, ?_, rfl, rfl⟩)
        exact (get_arrive _ _ _).trans (if_pos rfl)
  | promoted free ready waiting swept =>
      have keyed : ∀ (score : Int64) (b : BootstrapBlock), waiting[score]? = some b → b.daaScore = score := by
        rw [swept]
        exact sweepFinalized_keyed (arrive_keyed consistent.probabilisticKeyed)
      -- A block that the sweep marked is the same block.
      have sweeps : ∀ b held : BootstrapBlock,
          (arrive state.probabilistic block)[b.daaScore]? = some held → held.Same b →
          ∃ marked, waiting[b.daaScore]? = some marked ∧ marked.Same b := by
        intro b held stands same
        refine ⟨held.finalizeBy (state.derivedFinalizedCutoff block.daaScore), ?_, ?_⟩
        · rw [swept, get_sweepFinalized, stands]
          rfl
        · exact ⟨(BootstrapBlock.finalizeBy_hash _ _).trans same.1,
            (BootstrapBlock.finalizeBy_daaScore _ _).trans same.2⟩
      refine ⟨rfl, nofun, List.nodup_nil, ?_, ?_, ?_, ?_, ?_⟩
      · refine Eq.trans ?_ (congrArg (OrderedMap.insertEach · _) nothingUnwound.symm)
        rw [entriesWhere_eq_writeEntries keyed]
      · have ordered := OrderedMap.valuesWhere_pairwise waiting (promotable waiting)
          (·.daaScore) keyed
        refine List.pairwise_map.mpr (List.pairwise_map.mpr (ordered.imp fun less same => ?_))
        rw [same, Std.ReflOrd.compare_self] at less
        cases less
      · intro write member
        obtain ⟨b, selected, rfl⟩ := List.mem_map.mp member
        obtain ⟨score, found, -⟩ := (OrderedMap.mem_valuesWhere _ _ _).mp selected
        refine (congrArg (·[b.daaScore]?) nothingUnwound).trans ?_
        have here := keyed score b found
        subst here
        cases held : state.committed[b.daaScore]? with
        | none => rfl
        | some other =>
            rw [swept, get_sweepFinalized, arrive_disjoint consistent free _ other held] at found
            cases found
      · intro score b found
        rcases arrive_accounts consistent block score b found with ⟨held, stands, same⟩ | gone
        · obtain ⟨marked, present, still⟩ := sweeps b held stands same
          exact promoted_accounts rfl present still
        · exact Or.inr (Or.inr ⟨b, gone, rfl, rfl⟩)
      · intro b member
        rw [List.mem_singleton.mp member]
        obtain ⟨marked, present, still⟩ := sweeps block block
          ((get_arrive _ _ _).trans (if_pos rfl)) ⟨rfl, rfl⟩
        exact Or.inr (promoted_accounts rfl present still)

/-! ## A batch of blocks -/

private theorem filter_none_unwound (committed : OrderedMap Int64 BootstrapBlock)
    {unwinds : List BootstrapBlock} (quiet : unwinds = []) :
    (committed.filter fun _ block => block ∉ unwinds) = committed :=
  OrderedMap.filter_of_all _ _ (by simp [quiet])

/-- Two transitions without unwinds, one after the other. -/
private theorem conserved_append {before middle after : IngestionState δ}
    {first second joined : IngestionTransition} {early late : List BootstrapBlock}
    (quiet : first.committedUnwinds = [])
    (still : second.committedUnwinds = []) (hush : joined.committedUnwinds = [])
    (writes : joined.committedWrites = first.committedWrites ++ second.committedWrites)
    (rollbacks : joined.rolledBackProbabilistic =
      first.rolledBackProbabilistic ++ second.rolledBackProbabilistic)
    (head : before.Conserved first middle early) (tail : middle.Conserved second after late) :
    before.Conserved joined after (early ++ late) := by
  have headWritten := head.written
  have tailWritten := tail.written
  rw [filter_none_unwound _ quiet] at headWritten
  rw [filter_none_unwound _ still] at tailWritten
  have grows : ∀ score : Int64, after.committed[score]? = none →
      middle.committed[score]? = none := by
    intro score none
    rw [tailWritten] at none
    exact ((OrderedMap.get_insertEach_eq_none_iff _ _ _).mp none).1
  -- A block accounted for by the first transition stays accounted for.
  have carry : ∀ block, Accounted first middle block → Accounted joined after block := by
    rintro block (⟨held, stands, same⟩ | ⟨write, member, same⟩ | ⟨gone, member, same⟩)
    · have here : held.daaScore = block.daaScore := same.2
      rw [← here] at stands
      have onward := tail.left held.daaScore held stands
      rw [Accounted, writes, rollbacks]
      rcases onward with ⟨later, waits, equal⟩ | ⟨write, member, equal⟩ | ⟨gone, member, equal⟩
      · rw [here] at waits
        exact Or.inl ⟨later, waits, equal.1.trans same.1, equal.2.trans same.2⟩
      · exact Or.inr (Or.inl ⟨write, List.mem_append_right _ member, equal.1.trans same.1,
          equal.2.trans same.2⟩)
      · exact Or.inr (Or.inr ⟨gone, List.mem_append_right _ member, equal.1.trans same.1,
          equal.2.trans same.2⟩)
    · exact Or.inr (Or.inl ⟨write, writes ▸ List.mem_append_left _ member, same⟩)
    · exact Or.inr (Or.inr ⟨gone, rollbacks ▸ List.mem_append_left _ member, same⟩)
  have settle : ∀ block, Accounted second after block → Accounted joined after block := by
    rintro block (waits | ⟨write, member, same⟩ | ⟨gone, member, same⟩)
    · exact Or.inl waits
    · exact Or.inr (Or.inl ⟨write, writes ▸ List.mem_append_right _ member, same⟩)
    · exact Or.inr (Or.inr ⟨gone, rollbacks ▸ List.mem_append_right _ member, same⟩)
  refine ⟨by simp [hush], by simp [hush], ?_, ?_, ?_, ?_, ?_⟩
  · rw [filter_none_unwound _ hush, tailWritten, headWritten, ← OrderedMap.insertEach_append,
      writes, writeEntries, writeEntries, writeEntries, List.map_append]
  · rw [writes, List.map_append]
    refine List.nodup_append.mpr ⟨head.writtenOnce, tail.writtenOnce, ?_⟩
    rintro score earlier other later rfl
    obtain ⟨write, member, rfl⟩ := List.mem_map.mp earlier
    obtain ⟨again, remember, same⟩ := List.mem_map.mp later
    have fresh := tail.writtenFresh again remember
    rw [filter_none_unwound _ still, headWritten] at fresh
    refine ((OrderedMap.get_insertEach_eq_none_iff _ _ _).mp fresh).2 write.block ?_
    rw [same]
    exact List.mem_map.mpr ⟨write, member, rfl⟩
  · intro write member
    rw [filter_none_unwound _ hush]
    rcases List.mem_append.mp (writes ▸ member) with early | late
    · have fresh := head.writtenFresh write early
      rwa [filter_none_unwound _ quiet] at fresh
    · have fresh := tail.writtenFresh write late
      rw [filter_none_unwound _ still, headWritten] at fresh
      exact ((OrderedMap.get_insertEach_eq_none_iff _ _ _).mp fresh).1
  · exact fun score block found => carry block (head.left score block found)
  · intro block member
    rcases List.mem_append.mp member with early | late
    · rcases head.arrived block early with ⟨held, stands⟩ | accounted
      · cases kept : after.committed[block.daaScore]? with
        | some still => exact Or.inl ⟨still, rfl⟩
        | none =>
            rw [grows _ kept] at stands
            cases stands
      · exact Or.inr (carry block accounted)
    · exact (tail.arrived block late).imp_right (settle block)

theorem applyBlocks_conserved {state : IngestionState δ} (consistent : state.Consistent)
    (blocks : List BootstrapBlock) :
    (state.applyBlocks blocks).1.committedUnwinds = [] ∧
      state.Conserved (state.applyBlocks blocks).1 (state.applyBlocks blocks).2 blocks := by
  induction blocks generalizing state with
  | nil =>
      refine ⟨rfl, nofun, List.nodup_nil, (filter_none_unwound _ rfl).symm, List.nodup_nil,
        nofun, ?_, nofun⟩
      intro score b found
      have here := consistent.probabilisticKeyed score b found
      subst here
      exact Or.inl ⟨b, found, rfl, rfl⟩
  | cons block rest ih =>
      obtain ⟨quiet, head⟩ := applyBlock_conserved consistent block
      obtain ⟨still, tail⟩ := ih (applyBlock_consistent consistent block)
      exact ⟨rfl, conserved_append quiet still rfl rfl rfl head tail⟩

/-! ## A notification -/

theorem drained_consistent {state : IngestionState δ} (consistent : state.Consistent)
    (spared waits : Int64 → BootstrapBlock → Bool) :
    Consistent { state with
      committed := state.committed.filter spared
      probabilistic := state.probabilistic.filter waits } where
  committedKeyed score block present :=
    consistent.committedKeyed score block ((OrderedMap.get_filter_eq_some _ _ _ _).mp present).1
  probabilisticKeyed score block present :=
    consistent.probabilisticKeyed score block
      ((OrderedMap.get_filter_eq_some _ _ _ _).mp present).1
  disjoint score block present := by
    have stood := ((OrderedMap.get_filter_eq_some _ _ _ _).mp present).1
    rw [OrderedMap.get_filter, consistent.disjoint score block stood]
    rfl

/-- The blocks a notification delivers. -/
def ChainNotification.delivered (toolkit : Toolkit) :
    ChainNotification → List BootstrapBlock
  | .blockAdded block => [blockFromRpc toolkit block]
  | .virtualChainChanged _ added => added.map (blockFromRpc toolkit)
  | .recoveryRequired .. => []

theorem applyNotification_consistent {toolkit : Toolkit} {state after : IngestionState δ}
    {transition : IngestionTransition} {notification : ChainNotification}
    (consistent : state.Consistent)
    (returned : state.applyNotification toolkit notification = .ok (transition, after)) :
    after.Consistent := by
  cases notification with
  | blockAdded block =>
      obtain ⟨-, rfl⟩ := Prod.mk.inj (Except.ok.inj returned)
      exact applyBlock_consistent consistent _
  | virtualChainChanged removed added =>
      rw [applyNotification_virtualChainChanged] at returned
      obtain ⟨-, rfl⟩ := Prod.mk.inj (Except.ok.inj returned)
      exact applyBlocks_consistent (drained_consistent consistent _ _) _
  | recoveryRequired fromDaa toDaa reason =>
      obtain ⟨-, rfl⟩ := applyNotification_recoveryRequired returned
      have kept := drained_consistent consistent (fun _ _ => true)
        fun score _ => !(fromDaa.toInt64 ≤ score && score ≤ toDaa.toInt64)
      rwa [OrderedMap.filter_of_all state.committed _ fun _ _ _ => rfl] at kept

theorem reachable_consistent {toolkit : Toolkit} {state : IngestionState δ}
    (reachable : Reachable toolkit state) : state.Consistent := by
  induction reachable with
  | start prior finalityDepth => constructor <;> simp [withFinalityDepth]
  | notify notification earlier returned ih => exact applyNotification_consistent ih returned
  | reseed prior earlier ih => exact ⟨ih.committedKeyed, ih.probabilisticKeyed, ih.disjoint⟩

private theorem blockChange_conserved {state : IngestionState δ} (consistent : state.Consistent)
    (removed : List String) (blocks : List BootstrapBlock) :
    let applied := applyBlocks
      { state with
        committed := state.committed.filter fun _ block => !removed.contains block.hash
        probabilistic := state.probabilistic.filter fun _ block => !removed.contains block.hash }
      blocks
    state.Conserved
      { committedWrites := applied.1.committedWrites
        rolledBackProbabilistic :=
          state.probabilistic.valuesWhere (fun _ block => removed.contains block.hash) ++
            applied.1.rolledBackProbabilistic
        committedUnwinds :=
          state.committed.valuesWhere fun _ block => removed.contains block.hash
        recoveryRequested := none } applied.2 blocks := by
  intro applied
  obtain ⟨quiet, inner⟩ := applyBlocks_conserved
    (drained_consistent consistent (fun _ block => !removed.contains block.hash)
      fun _ block => !removed.contains block.hash) blocks
  have spared : (state.committed.filter fun _ block =>
      block ∉ state.committed.valuesWhere fun _ block => removed.contains block.hash) =
      state.committed.filter fun _ block => !removed.contains block.hash := by
    refine OrderedMap.ext_get fun score => ?_
    rw [OrderedMap.get_filter, OrderedMap.get_filter]
    cases present : state.committed[score]? with
    | none => rfl
    | some block =>
        have listed : (block ∈ state.committed.valuesWhere fun _ block =>
            removed.contains block.hash) ↔ removed.contains block.hash = true := by
          rw [OrderedMap.mem_valuesWhere]
          exact ⟨fun ⟨_, _, gone⟩ => gone, fun gone => ⟨score, present, gone⟩⟩
        simp only [Option.filter_some, listed, Bool.not_eq_true', decide_not,
          Bool.decide_eq_true]
  have written := inner.written
  rw [filter_none_unwound _ quiet] at written
  have settle : ∀ block, Accounted applied.1 applied.2 block → Accounted
      { committedWrites := applied.1.committedWrites
        rolledBackProbabilistic :=
          state.probabilistic.valuesWhere (fun _ block => removed.contains block.hash) ++
            applied.1.rolledBackProbabilistic
        committedUnwinds :=
          state.committed.valuesWhere fun _ block => removed.contains block.hash
        recoveryRequested := none } applied.2 block := by
    rintro block (waits | writes | ⟨gone, member, same⟩)
    · exact Or.inl waits
    · exact Or.inr (Or.inl writes)
    · exact Or.inr (Or.inr ⟨gone, List.mem_append_right _ member, same⟩)
  refine ⟨?_, ?_, ?_, inner.writtenOnce, ?_, ?_, ?_⟩
  · intro block member
    obtain ⟨score, present, -⟩ := (OrderedMap.mem_valuesWhere _ _ _).mp member
    rw [consistent.committedKeyed score block present]
    exact present
  · refine (OrderedMap.valuesWhere_pairwise state.committed _ (·.daaScore)
      consistent.committedKeyed).imp fun less same => ?_
    rw [same, Std.ReflOrd.compare_self] at less
    cases less
  · exact written.trans (congrArg (OrderedMap.insertEach · _) spared.symm)
  · intro write member
    have fresh := inner.writtenFresh write member
    rw [filter_none_unwound _ quiet] at fresh
    exact (congrArg (·[write.block.daaScore]?) spared).trans fresh
  · intro score block present
    by_cases gone : removed.contains block.hash
    · refine Or.inr (Or.inr ⟨block, List.mem_append_left _ ?_, rfl, rfl⟩)
      exact (OrderedMap.mem_valuesWhere _ _ _).mpr ⟨score, present, gone⟩
    · refine settle block (inner.left score block ?_)
      rw [OrderedMap.get_filter, present, Option.filter_some, if_pos (by simpa using gone)]
  · exact fun block member => (inner.arrived block member).imp_right (settle block)

/-- The transition a notification returns is the difference of the two states. -/
theorem applyNotification_conserved {toolkit : Toolkit} {state after : IngestionState δ}
    {transition : IngestionTransition} {notification : ChainNotification}
    (consistent : state.Consistent)
    (returned : state.applyNotification toolkit notification = .ok (transition, after)) :
    state.Conserved transition after (notification.delivered toolkit) := by
  cases notification with
  | blockAdded block =>
      obtain ⟨rfl, rfl⟩ := Prod.mk.inj (Except.ok.inj returned)
      exact (applyBlock_conserved consistent _).2
  | virtualChainChanged removed added =>
      rw [applyNotification_virtualChainChanged] at returned
      obtain ⟨rfl, rfl⟩ := Prod.mk.inj (Except.ok.inj returned)
      exact blockChange_conserved consistent removed _
  | recoveryRequired fromDaa toDaa reason =>
      obtain ⟨rfl, rfl⟩ := applyNotification_recoveryRequired returned
      refine ⟨nofun, List.nodup_nil, (filter_none_unwound _ rfl).symm, List.nodup_nil, nofun,
        ?_, nofun⟩
      intro score block present
      have here := consistent.probabilisticKeyed score block present
      subst here
      by_cases inside : (fromDaa.toInt64 ≤ block.daaScore && block.daaScore ≤ toDaa.toInt64) = true
      · exact Or.inr (Or.inr ⟨block,
          (OrderedMap.mem_valuesWhere _ _ _).mpr ⟨_, present, inside⟩, rfl, rfl⟩)
      · refine Or.inl ⟨block, ?_, rfl, rfl⟩
        rw [OrderedMap.get_filter, present, Option.filter_some, if_pos]
        exact (Bool.not_eq_true' _).mpr (Bool.eq_false_iff.mpr inside)

/-- In every reachable state each block sits under its own score and no score is
held twice, and every transition a notification returns is the exact difference
of the state before and the state after. -/
theorem applyNotification_conserves {toolkit : Toolkit} {state : IngestionState δ}
    (reachable : Reachable toolkit state) :
    state.Consistent ∧ ∀ notification transition after,
      state.applyNotification toolkit notification = .ok (transition, after) →
        state.Conserved transition after (notification.delivered toolkit) := by
  have consistent := reachable_consistent reachable
  exact ⟨consistent, fun notification transition after returned =>
    applyNotification_conserved consistent returned⟩

theorem applyNotification_conserves_afterBuffering :
    let state := ((withFinalityDepth () none).applyBlock
      (blockFromRpc bareToolkit (headerBlock "a" 10 false))).2
    state.Consistent ∧ ∀ notification transition after,
      state.applyNotification bareToolkit notification = .ok (transition, after) →
        state.Conserved transition after (notification.delivered bareToolkit) :=
  applyNotification_conserves (.notify (.blockAdded (headerBlock "a" 10 false)) (.start () none) rfl)

end KasGraph
