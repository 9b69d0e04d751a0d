import KasGraph.Interference
import KasGraph.SubgraphRows
import KasGraph.LiveSet
import KasGraph.TablesExist

set_option autoImplicit false

/-! Subgraphs that share a store do not disturb each other. A notification handled for one
subgraph leaves the rows of the others alone, and what it does for its own subgraph depends on
that subgraph's memory and rows only. The lineage tables are shared by covenant: they can stop a
notification, they never change what it computes. -/

namespace KasGraph

open EffectProgram

variable {δ : Type}

/-- The part of the backend that belongs to a subgraph. -/
def Backend.rowsOf (subgraph : SubgraphId) (backend : Backend δ) : SubgraphRows δ :=
  backend.store.rowsOf subgraph

/-- The statements on the lineage tables, by the context of their errors. -/
def lineageContexts : List String :=
  ["checking for an existing covenant lineage step", "loading covenant lineage head",
    "upserting covenant lineage head", "inserting covenant lineage row",
    "unwinding covenant lineage for reorg"]

/-- The error of a statement on the lineage tables. -/
def NodeError.OfLineage (reason : NodeError) : Prop :=
  ∃ context cause, reason = .store context cause ∧ context ∈ lineageContexts

/-- A request on behalf of the subgraph that does not read lineage. -/
def Own (subgraph : SubgraphId) (request : Request δ) : Prop :=
  (∀ other, request.op.subject = some other → other = subgraph) ∧ request.op.onLineage = false

/-- A request on behalf of the subgraph, or on the lineage tables. -/
def OnBehalf (subgraph : SubgraphId) (request : Request δ) : Prop :=
  ∀ other, request.op.subject = some other → other = subgraph

/-- A lineage statement under the context of one. -/
def OfLineage (request : Request δ) : Prop :=
  request.op.subject = none ∧ request.context ∈ lineageContexts

theorem Own.onBehalf {subgraph : SubgraphId} {request : Request δ} (own : Own subgraph request) :
    OnBehalf subgraph request := own.1

/-- The program acts on behalf of the subgraph, and repeats itself wherever the rows of the
subgraph are alike. -/
structure Isolated {α : Type} (subgraph : SubgraphId) (program : NodeProgram δ α) : Prop where
  confined : Within (OnBehalf subgraph) (fun _ => True) program
  mirrors : Mirrors exec (Backend.rowsOf subgraph) NodeError.OfLineage program

theorem rowsOf_exec {request : Request δ} {subgraph : SubgraphId} {backend : Backend δ}
    (apart : ∀ other, request.op.subject = some other → other ≠ subgraph) :
    (exec request backend).2.rowsOf subgraph = backend.rowsOf subgraph :=
  NodeOp.rowsOf_onStore backend.store apart

theorem alike_exec {request : Request δ} {subgraph : SubgraphId} (own : Own subgraph request)
    {left right : Backend δ} (alike : left.rowsOf subgraph = right.rowsOf subgraph) :
    (exec request left).1 = (exec request right).1 ∧
      (exec request left).2.rowsOf subgraph = (exec request right).2.rowsOf subgraph := by
  obtain ⟨answers, rows⟩ := NodeOp.alike_onStore own.1 own.2 alike
  exact ⟨congrArg (Except.mapError _) answers, rows⟩

/-- On behalf of one subgraph, the rows of another stay. -/
theorem Isolated.keeps_others {α : Type} {subgraph other : SubgraphId} {program : NodeProgram δ α}
    (isolated : Isolated subgraph program) (apart : subgraph ≠ other) :
    Keeps exec (Backend.rowsOf other) program := by
  apply Keeps.of_within isolated.confined
  intro request behalf backend reply after ran
  have kept : (exec request backend).2.rowsOf other = backend.rowsOf other := by
    apply rowsOf_exec
    intro found subject same
    exact apart ((behalf found subject).symm.trans same)
  rw [ran] at kept
  exact kept

namespace Isolated

variable {α β ι : Type} {subgraph : SubgraphId}

theorem of_own {program : NodeProgram δ α} {post : α → Prop}
    (confined : Within (Own subgraph) post program) : Isolated subgraph program where
  confined := confined.mono (fun _ own => own.onBehalf) fun _ _ => trivial
  mirrors := Mirrors.of_within confined fun _ own _ _ alike => alike_exec own alike

/-- Statements on lineage that give no answer. -/
theorem of_lineage {program : NodeProgram δ Unit}
    (confined : Within OfLineage (fun _ => True) program)
    (fails : FailsOnly exec (fun _ => True) NodeError.OfLineage program) :
    Isolated subgraph program where
  confined := by
    apply confined.mono _ fun _ held => held
    intro request lineage other subject
    rw [lineage.1] at subject
    cases subject
  mirrors := by
    apply Mirrors.of_keeps _ fails
    apply Keeps.of_within confined
    intro request lineage backend reply after ran
    have kept : (exec request backend).2.rowsOf subgraph = backend.rowsOf subgraph := by
      apply rowsOf_exec
      intro other subject
      rw [lineage.1] at subject
      cases subject
    rw [ran] at kept
    exact kept

theorem pure (value : α) : Isolated (δ := δ) subgraph (Pure.pure value) where
  confined := Within.pure trivial
  mirrors := Mirrors.pure value

theorem fail (reason : NodeError) : Isolated (δ := δ) (α := α) subgraph (.fail reason) where
  confined := Within.fail reason
  mirrors := Mirrors.fail reason

theorem bind {program : NodeProgram δ α} {rest : α → NodeProgram δ β}
    (first : Isolated subgraph program) (second : ∀ value, Isolated subgraph (rest value)) :
    Isolated subgraph (program >>= rest) where
  confined := first.confined.bind fun value _ => (second value).confined
  mirrors := first.mirrors.bind fun value => (second value).mirrors

theorem forM {items : List ι} {body : ι → NodeProgram δ PUnit}
    (each : ∀ item ∈ items, Isolated subgraph (body item)) :
    Isolated subgraph (ForM.forM items body) where
  confined := Within.forM fun item member => (each item member).confined
  mirrors := Mirrors.forM fun item member => (each item member).mirrors

theorem foldlM {items : List ι} {body : β → ι → NodeProgram δ β}
    (each : ∀ value item, Isolated subgraph (body value item)) (init : β) :
    Isolated subgraph (List.foldlM body init items) where
  confined := Within.foldlM (fun item _ value _ => (each value item).confined) trivial
  mirrors := Mirrors.foldlM (fun value item => (each value item).mirrors) init

end Isolated

/-! ## A block -/

section Programs

variable {subgraph : SubgraphId}

theorem own_within {context : String} {op : NodeOp δ}
    (subject : ∀ other, op.subject = some other → other = subgraph) (plain : op.onLineage = false) :
    Within (Own subgraph) (fun _ => True) (perform context op) :=
  ⟨⟨subject, plain⟩, fun _ => trivial⟩

theorem own_isolated {context : String} {op : NodeOp δ}
    (subject : ∀ other, op.subject = some other → other = subgraph) (plain : op.onLineage = false) :
    Isolated subgraph (perform context op) :=
  Isolated.of_own (own_within subject plain)

/-- The subgraph an operation names is the one it is given. -/
theorem subject_self {op : NodeOp δ} (named : op.subject = some subgraph) :
    ∀ other, op.subject = some other → other = subgraph := by
  intro other subject
  rw [named] at subject
  exact (Option.some.inj subject).symm

theorem subject_none {op : NodeOp δ} (unnamed : op.subject = none) :
    ∀ other, op.subject = some other → other = subgraph := by
  intro other subject
  rw [unnamed] at subject
  cases subject

theorem classifyLineage_own (blake2b : List UInt8 → List UInt8) (hit : DetectedPattern)
    (inputs : List IngestedTransactionInput) :
    Within (Own subgraph) (fun _ => True)
      (classifyLineage (δ := δ) blake2b subgraph hit inputs) := by
  unfold classifyLineage
  apply Within.bind (Within.findSomeM? ?_)
  · intro inherited _
    exact Within.pure trivial
  · intro input _
    split
    · exact Within.pure trivial
    · apply Within.bind (own_within (subject_self rfl) rfl)
      intro prev _
      exact Within.pure trivial

theorem perform_lineage {context : String} {op : NodeOp δ} (unnamed : op.subject = none)
    (listed : context ∈ lineageContexts) :
    Within OfLineage (fun _ => True) (perform context op) :=
  ⟨⟨unnamed, listed⟩, fun _ => trivial⟩

theorem perform_fails_lineage {context : String} {op : NodeOp δ}
    (listed : context ∈ lineageContexts) :
    FailsOnly exec (fun _ => True) NodeError.OfLineage (perform context op) := by
  intro backend _ reason final failed
  rw [run_request, Prod.mk.injEq] at failed
  cases answered : (op.onStore backend.store).1 with
  | ok reply =>
      rw [answered] at failed
      cases failed.1
  | error cause =>
      rw [answered] at failed
      cases failed.1
      exact ⟨context, cause, rfl, listed⟩

theorem persistLineage_isolated (floats : Json.FloatText) (hit : DetectedPattern)
    (lineage : LineageClass) (daaScore : Int64) :
    Isolated (δ := δ) subgraph (persistLineage floats subgraph hit lineage daaScore) := by
  have stable : ∀ (request : Request δ) (backend : Backend δ), True → True := fun _ _ _ => trivial
  apply Isolated.of_lineage
  · unfold persistLineage
    apply Within.bind (perform_lineage rfl (by simp [lineageContexts]))
    intro recorded _
    split
    · exact Within.pure trivial
    · apply Within.bind (perform_lineage rfl (by simp [lineageContexts]))
      intro prior _
      apply Within.bind (perform_lineage rfl (by simp [lineageContexts]))
      intro _ _
      exact perform_lineage rfl (by simp [lineageContexts])
  · unfold persistLineage
    apply FailsOnly.bind stable (perform_fails_lineage (by simp [lineageContexts]))
    intro recorded
    split
    · exact FailsOnly.pure _
    · apply FailsOnly.bind stable (perform_fails_lineage (by simp [lineageContexts]))
      intro prior
      apply FailsOnly.bind stable (perform_fails_lineage (by simp [lineageContexts]))
      intro _
      exact perform_fails_lineage (by simp [lineageContexts])

theorem publishHitToStream_isolated (stream : Bool) (block : BootstrapBlock)
    (hit : DetectedPattern) :
    Isolated (δ := δ) subgraph (publishHitToStream stream block hit) := by
  unfold publishHitToStream
  split
  · exact own_isolated (subject_none rfl) rfl
  · exact Isolated.pure _

theorem persistHit_isolated (indexer : Indexer δ) (mapping : Option LoadedMapping)
    (block : BootstrapBlock) (hit : DetectedPattern) :
    Isolated subgraph (persistHit indexer subgraph mapping block hit) := by
  cases mapping with
  | none =>
      apply Isolated.bind (own_isolated (subject_self rfl) rfl)
      intro _
      exact publishHitToStream_isolated _ block hit
  | some loaded =>
      apply Isolated.bind (Isolated.of_own (classifyLineage_own _ hit _))
      intro lineage
      apply Isolated.bind (own_isolated (subject_self rfl) rfl)
      intro _
      apply Isolated.bind (publishHitToStream_isolated _ block hit)
      intro _
      apply Isolated.bind (own_isolated (subject_self rfl) rfl)
      intro _
      exact persistLineage_isolated _ hit lineage _

theorem loadEntitySnapshot_isolated :
    Isolated (δ := δ) subgraph (loadEntitySnapshot subgraph) := by
  apply Isolated.bind (own_isolated (subject_self rfl) rfl)
  intro rows
  exact Isolated.pure _

theorem upsertEach_isolated (context : String) {records : List EntityVersionRecord}
    (owned : ∀ record ∈ records, record.subgraph = subgraph) :
    Isolated (δ := δ) subgraph
      (forM records fun record => perform context (.upsertEntityVersion record)) := by
  apply Isolated.forM
  intro record member
  exact own_isolated (subject_self (congrArg some (owned record member))) rfl

theorem persistHits_isolated (indexer : Indexer δ) {mapping : Option LoadedMapping}
    (owned : ∀ loaded, mapping = some loaded → loaded.subgraph = subgraph)
    (block : BootstrapBlock) : Isolated subgraph (persistHits indexer subgraph mapping block) := by
  unfold persistHits
  split
  · exact Isolated.pure _
  · apply Isolated.bind (Isolated.forM fun hit _ => persistHit_isolated indexer mapping block hit)
    intro _
    cases mapping with
    | none => exact Isolated.pure _
    | some loaded =>
        apply Isolated.bind loadEntitySnapshot_isolated
        intro snapshot
        apply Isolated.bind
        · apply upsertEach_isolated
          intro record member
          rw [← owned loaded rfl]
          exact (dispatchCommittedHits_stamped member).1
        · intro _
          exact Isolated.pure _

theorem consumedByTx_isolated (inputs : List IngestedTransactionInput) :
    Isolated (δ := δ) subgraph (consumedByTx subgraph inputs) := by
  apply Isolated.foldlM
  intro consumed input
  apply Isolated.bind (own_isolated (subject_self rfl) rfl)
  intro spent
  cases spent with
  | none => exact Isolated.pure _
  | some record => exact Isolated.pure _

theorem spendOperation_isolated (spendingTx : String)
    (consumed : List (IngestedTransactionInput × CovenantUtxoRecord)) :
    Isolated (δ := δ) subgraph (spendOperation subgraph spendingTx consumed) := by
  unfold spendOperation
  split
  · apply Isolated.bind (own_isolated (subject_self rfl) rfl)
    intro created
    exact Isolated.pure _
  · exact Isolated.pure _

theorem successorCovenantId_isolated (spendingTx : String) (spent : CovenantUtxoRecord) :
    Isolated (δ := δ) subgraph (successorCovenantId subgraph spendingTx spent) := by
  unfold successorCovenantId
  split
  · exact Isolated.pure _
  · apply Isolated.bind (own_isolated (subject_self rfl) rfl)
    intro continues
    exact Isolated.pure _

theorem persistSpend_isolated (loaded : LoadedMapping) (block : BootstrapBlock)
    (spendingTx : String) (operation : Option String) (snapshot : EntitySnapshot)
    (consumed : IngestedTransactionInput × CovenantUtxoRecord) :
    Isolated (δ := δ) subgraph
      (persistSpend loaded subgraph block spendingTx operation snapshot consumed) := by
  apply Isolated.bind (successorCovenantId_isolated spendingTx consumed.2)
  intro successor
  apply Isolated.bind (own_isolated (subject_self rfl) rfl)
  intro _
  exact upsertEach_isolated _ fun record emitted => (spendRecords_stamped emitted).1

theorem persistSpends_isolated (mapping : Option LoadedMapping) (block : BootstrapBlock) :
    Isolated (δ := δ) subgraph (persistSpends subgraph mapping block) := by
  cases mapping with
  | none => exact Isolated.pure _
  | some loaded =>
      simp only [persistSpends]
      split
      · exact Isolated.pure _
      · apply Isolated.bind (consumedByTx_isolated block.inputs)
        intro consumed
        apply Isolated.bind loadEntitySnapshot_isolated
        intro snapshot
        apply Isolated.forM
        intro entry _
        apply Isolated.bind (spendOperation_isolated entry.1 entry.2)
        intro operation
        apply Isolated.forM
        intro pair _
        exact persistSpend_isolated loaded block entry.1 operation snapshot pair

section Notifications

variable (indexer : Indexer δ) {mapping : Option LoadedMapping}
  (owned : ∀ loaded, mapping = some loaded → loaded.subgraph = subgraph)
include owned

theorem persistCommittedWrite_isolated (priorPoi : δ) (committed : CommittedBlockWrite) :
    Isolated subgraph (persistCommittedWrite indexer subgraph mapping priorPoi committed) := by
  apply Isolated.bind
  · apply Isolated.bind (own_isolated (subject_none rfl) rfl)
    intro _
    apply Isolated.bind (own_isolated (subject_self rfl) rfl)
    intro _
    apply Isolated.bind (persistHits_isolated indexer owned committed.block)
    intro dispatched
    apply Isolated.bind (persistSpends_isolated mapping committed.block)
    intro _
    exact Isolated.pure _
  · intro dispatched
    simp only
    split
    · exact Isolated.fail _
    · apply Isolated.bind (own_isolated (subject_self rfl) rfl)
      intro _
      exact Isolated.pure _

omit owned in
theorem unwindDerived_isolated (unwinds : List BootstrapBlock) :
    Isolated (δ := δ) subgraph (unwindDerived subgraph mapping unwinds) := by
  unfold unwindDerived
  split
  · apply Isolated.bind (own_isolated (subject_self rfl) rfl)
    intro _
    apply Isolated.bind (own_isolated (subject_self rfl) rfl)
    intro _
    apply Isolated.bind (own_isolated (subject_self rfl) rfl)
    intro _
    exact Isolated.of_lineage (perform_lineage rfl (by simp [lineageContexts]))
      (perform_fails_lineage (by simp [lineageContexts]))
  · exact Isolated.pure _

omit owned in
theorem unwindCommitted_isolated (priorPoi : δ) (unwinds : List BootstrapBlock) :
    Isolated subgraph (unwindCommitted indexer subgraph mapping priorPoi unwinds) := by
  unfold unwindCommitted
  split
  · exact Isolated.pure _
  · apply Isolated.bind (own_isolated (subject_self rfl) rfl)
    intro _
    apply Isolated.bind (unwindDerived_isolated unwinds)
    intro _
    apply Isolated.bind (own_isolated (subject_self rfl) rfl)
    intro _
    exact Isolated.pure _

theorem applyAndPersistNotification_isolated (ingestion : IngestionState δ)
    (notification : ChainNotification) :
    Isolated subgraph
      (applyAndPersistNotification indexer subgraph mapping ingestion notification) := by
  unfold applyAndPersistNotification
  split
  · exact Isolated.fail _
  · apply Isolated.bind
    · apply Isolated.bind (unwindCommitted_isolated indexer _ _)
      intro anchor
      exact Isolated.foldlM (fun prior committed =>
        persistCommittedWrite_isolated indexer owned prior committed) anchor
    · intro priorPoi
      exact Isolated.pure _

end Notifications

end Programs

theorem SubgraphRuntime.notify_isolated (indexer : Indexer δ) (runtime : SubgraphRuntime δ)
    (notification : ChainNotification) :
    Isolated runtime.subgraph (runtime.notify indexer notification) := by
  apply Isolated.bind
  · exact applyAndPersistNotification_isolated indexer runtime.owned runtime.ingestion notification
  · intro outcome
    exact Isolated.pure _

/-! ## Fan-outs -/

/-- Hand notifications to every runtime, one after the other. -/
def fanOutEach (indexer : Indexer δ) (runtimes : List (SubgraphRuntime δ))
    (notifications : List ChainNotification) : NodeProgram δ (List (SubgraphRuntime δ)) :=
  notifications.foldlM (fun current notification => do
    let (_, next) ← fanOutNotification indexer current notification
    return next) runtimes

/-- No two runtimes index the same subgraph. -/
def Distinct (runtimes : List (SubgraphRuntime δ)) : Prop :=
  runtimes.Pairwise fun a b => a.subgraph ≠ b.subgraph

theorem fanOutEach_cons (indexer : Indexer δ) (runtimes : List (SubgraphRuntime δ))
    (notification : ChainNotification) (notifications : List ChainNotification) :
    fanOutEach indexer runtimes (notification :: notifications) =
      (fanOutNotification indexer runtimes notification >>= fun result =>
        fanOutEach indexer result.2 notifications) := by
  unfold fanOutEach
  rw [List.foldlM_cons]
  simp only [bind_assoc, pure_bind]

/-- A fan-out over one runtime is that runtime's own notification. -/
theorem run_fanOut_single {indexer : Indexer δ} {runtime after : SubgraphRuntime δ}
    {notification : ChainNotification} {outcome : NotificationOutcome} {before final : Backend δ}
    (ran : run exec (runtime.notify indexer notification) before = (.ok (outcome, after), final)) :
    run exec (fanOutNotification indexer [runtime] notification) before =
      (.ok (some outcome, [after]), final) := by
  unfold fanOutNotification
  rw [List.mapM_cons, List.mapM_nil, bind_assoc, run_bind_of_ok exec ran]
  rfl

theorem run_fanOut_single_error {indexer : Indexer δ} {runtime : SubgraphRuntime δ}
    {notification : ChainNotification} {reason : NodeError} {before final : Backend δ}
    (ran : run exec (runtime.notify indexer notification) before = (.error reason, final)) :
    run exec (fanOutNotification indexer [runtime] notification) before =
      (.error reason, final) := by
  unfold fanOutNotification
  rw [List.mapM_cons, List.mapM_nil, bind_assoc, run_bind, ran]

/-- A fan-out keeps the subgraphs, position by position. -/
theorem run_fanOut_subgraphs {indexer : Indexer δ} {notification : ChainNotification}
    {runtimes after : List (SubgraphRuntime δ)} {outcome : Option NotificationOutcome}
    {before final : Backend δ}
    (ran : run exec (fanOutNotification indexer runtimes notification) before =
      (.ok (outcome, after), final)) :
    after.map (·.subgraph) = runtimes.map (·.subgraph) := by
  have same := run_fanOut_ok ran
  clear ran
  induction same with
  | nil => rfl
  | cons head tail ih => rw [List.map_cons, List.map_cons, head.1, ih]

theorem run_fanOutEach_subgraphs {indexer : Indexer δ} {notifications : List ChainNotification}
    {runtimes after : List (SubgraphRuntime δ)} {before final : Backend δ}
    (ran : run exec (fanOutEach indexer runtimes notifications) before = (.ok after, final)) :
    after.map (·.subgraph) = runtimes.map (·.subgraph) := by
  induction notifications generalizing runtimes before with
  | nil =>
      cases ran
      rfl
  | cons notification notifications ih =>
      rw [fanOutEach_cons] at ran
      obtain ⟨⟨outcome, next⟩, middle, handed, continued⟩ := (run_bind_ok_iff exec _ _ _ _ _).mp ran
      rw [ih continued, run_fanOut_subgraphs handed]

theorem Distinct.of_subgraphs {runtimes after : List (SubgraphRuntime δ)}
    (distinct : Distinct runtimes)
    (subgraphs : after.map (·.subgraph) = runtimes.map (·.subgraph)) : Distinct after := by
  have apart : (runtimes.map (·.subgraph)).Pairwise (· ≠ ·) := List.pairwise_map.mpr distinct
  rw [← subgraphs] at apart
  exact List.pairwise_map.mp apart

section Alone

variable {indexer : Indexer δ} {runtimes after : List (SubgraphRuntime δ)}
  {mine own : SubgraphRuntime δ} {shared alone final : Backend δ}

/-- What a runtime does in a fan-out it does alone, or alone it stops at lineage. -/
theorem fanOut_alone {notification : ChainNotification} {outcome : Option NotificationOutcome}
    {position : Nat} (distinct : Distinct runtimes) (present : runtimes[position]? = some mine)
    (alike : shared.rowsOf mine.subgraph = alone.rowsOf mine.subgraph)
    (ran : run exec (fanOutNotification indexer runtimes notification) shared =
      (.ok (outcome, after), final)) (found : after[position]? = some own) :
    (∃ answer other, run exec (fanOutNotification indexer [mine] notification) alone =
        (.ok (answer, [own]), other) ∧
        other.rowsOf mine.subgraph = final.rowsOf mine.subgraph) ∨
      ∃ reason other, run exec (fanOutNotification indexer [mine] notification) alone =
        (.error reason, other) ∧ reason.OfLineage := by
  obtain ⟨within, here⟩ := List.getElem?_eq_some_iff.mp present
  have split : runtimes = runtimes.take position ++ mine :: runtimes.drop (position + 1) := by
    rw [← here, ← List.drop_eq_getElem_cons within, List.take_append_drop]
  rw [split] at distinct
  obtain ⟨-, later, across⟩ := List.pairwise_append.mp distinct
  unfold fanOutNotification at ran
  obtain ⟨results, last, handed, returned⟩ := (run_bind_ok_iff exec _ _ _ _ _).mp ran
  simp only [run_pure, Prod.mk.injEq, Except.ok.injEq] at returned
  obtain ⟨⟨-, rfl⟩, rfl⟩ := returned
  rw [split] at handed
  obtain ⟨⟨answer, result⟩, placed, repeated⟩ := Mirrors.mapM_alone
    (fun (runtime : SubgraphRuntime δ) member => (runtime.notify_isolated indexer notification).keeps_others
      (across runtime member mine List.mem_cons_self))
    (fun (runtime : SubgraphRuntime δ) member => (runtime.notify_isolated indexer notification).keeps_others
      ((List.pairwise_cons.mp later).1 runtime member).symm)
    (mine.notify_isolated indexer notification).mirrors alike handed
  rw [List.length_take_of_le (Nat.le_of_lt within)] at placed
  rw [List.getElem?_map, placed, Option.map_some, Option.some.injEq] at found
  subst found
  rcases repeated with ⟨other, same, seen⟩ | ⟨reason, other, failed, known⟩
  · exact Or.inl ⟨some answer, other, run_fanOut_single same, seen⟩
  · exact Or.inr ⟨reason, other, run_fanOut_single_error failed, known⟩

/-- By induction on the notifications: the runtime at a position goes through the run as it
would alone. -/
theorem fanOutEach_alone {notifications : List ChainNotification} {position : Nat}
    (distinct : Distinct runtimes) (present : runtimes[position]? = some mine)
    (alike : shared.rowsOf mine.subgraph = alone.rowsOf mine.subgraph)
    (ran : run exec (fanOutEach indexer runtimes notifications) shared = (.ok after, final))
    (found : after[position]? = some own) :
    (∃ other, run exec (fanOutEach indexer [mine] notifications) alone = (.ok [own], other) ∧
        other.rowsOf mine.subgraph = final.rowsOf mine.subgraph) ∨
      ∃ reason other, run exec (fanOutEach indexer [mine] notifications) alone =
        (.error reason, other) ∧ reason.OfLineage := by
  induction notifications generalizing runtimes mine shared alone with
  | nil =>
      cases ran
      rw [present, Option.some.injEq] at found
      subst found
      exact Or.inl ⟨alone, rfl, alike.symm⟩
  | cons notification notifications ih =>
      rw [fanOutEach_cons] at ran
      obtain ⟨⟨outcome, next⟩, middle, handed, continued⟩ := (run_bind_ok_iff exec _ _ _ _ _).mp ran
      have subgraphs := run_fanOut_subgraphs handed
      have placed := congrArg (·[position]?) subgraphs
      simp only [List.getElem?_map, present, Option.map_some] at placed
      obtain ⟨between, here, named⟩ := Option.map_eq_some_iff.mp placed
      rw [fanOutEach_cons]
      rcases fanOut_alone distinct present alike handed here with
        ⟨answer, other, once, seen⟩ | ⟨reason, other, failed, known⟩
      · rw [run_bind_of_ok exec once, ← named]
        rw [← named] at seen
        exact ih (distinct.of_subgraphs subgraphs) here seen.symm continued
      · exact Or.inr ⟨reason, other, by rw [run_bind, failed], known⟩

end Alone

/-- Subgraphs are isolated. In every run of notifications over one store, each runtime ends with
the memory and the rows it ends with alone, from any store that holds the same rows of its
subgraph; alone it can only stop at a statement on the shared lineage tables. -/
theorem runtimes_isolated (indexer : Indexer δ) {runtimes after : List (SubgraphRuntime δ)}
    (distinct : Distinct runtimes) (notifications : List ChainNotification)
    {shared final : Backend δ}
    (ran : run exec (fanOutEach indexer runtimes notifications) shared = (.ok after, final))
    {mine : SubgraphRuntime δ} (member : mine ∈ runtimes) {alone : Backend δ}
    (alike : shared.rowsOf mine.subgraph = alone.rowsOf mine.subgraph) :
    ∃ own ∈ after, own.subgraph = mine.subgraph ∧
      ((∃ other, run exec (fanOutEach indexer [mine] notifications) alone = (.ok [own], other) ∧
          other.rowsOf mine.subgraph = final.rowsOf mine.subgraph) ∨
        ∃ reason other, run exec (fanOutEach indexer [mine] notifications) alone =
          (.error reason, other) ∧ reason.OfLineage) := by
  obtain ⟨position, present⟩ := List.mem_iff_getElem?.mp member
  have placed := congrArg (·[position]?) (run_fanOutEach_subgraphs ran)
  simp only [List.getElem?_map, present, Option.map_some] at placed
  obtain ⟨own, found, named⟩ := Option.map_eq_some_iff.mp placed
  exact ⟨own, List.mem_of_getElem? found, named, fanOutEach_alone distinct present alike ran found⟩

/-! ## Two runtimes -/

def neighbourSubgraph : SubgraphId where
  schemaName := "neighbour"
  valid := by decide +kernel

/-- A runtime with a mapping that binds no handler, beside one without a mapping. -/
def neighbours : List (SubgraphRuntime (List (List UInt8))) :=
  [{ subgraph := demoSubgraph, ingestion := .withFinalityDepth [] none
     mapping := some silentMapping, owned := silentMapping_owned },
    { subgraph := neighbourSubgraph, ingestion := .withFinalityDepth [] none
      mapping := none, owned := NodeState.unmapped_owned neighbourSubgraph }]

/-- An empty store with the tables of "demo". -/
def neighbourBackend : Backend (List (List UInt8)) :=
  { store := (Store.empty ∅).ensureSubgraphSchema demoSubgraph, published := [] }

/-- Two locks are handed to both; the mapped runtime ends as it does alone. -/
theorem locks_isolated :
    ∃ after final, run exec (fanOutEach htlcIndexer neighbours [firstLock, secondLock])
        neighbourBackend = (.ok after, final) ∧
      ∀ mine ∈ neighbours, ∃ own ∈ after, own.subgraph = mine.subgraph ∧
        ((∃ other, run exec (fanOutEach htlcIndexer [mine] [firstLock, secondLock])
            neighbourBackend = (.ok [own], other) ∧
            other.rowsOf mine.subgraph = final.rowsOf mine.subgraph) ∨
          ∃ reason other, run exec (fanOutEach htlcIndexer [mine] [firstLock, secondLock])
            neighbourBackend = (.error reason, other) ∧ reason.OfLineage) := by
  have succeeds : (run exec (fanOutEach htlcIndexer neighbours [firstLock, secondLock])
      neighbourBackend).1.isOk = true := by decide +kernel
  cases ran : run exec (fanOutEach htlcIndexer neighbours [firstLock, secondLock])
      neighbourBackend with
  | mk answer final =>
      rw [ran] at succeeds
      cases answer with
      | error reason => cases succeeds
      | ok after =>
          refine ⟨after, final, rfl, ?_⟩
          intro mine member
          have distinct : Distinct neighbours := by
            simp [Distinct, neighbours, demoSubgraph, neighbourSubgraph]
          exact runtimes_isolated htlcIndexer distinct [firstLock, secondLock] ran member rfl

end KasGraph
