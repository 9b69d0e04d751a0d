import KasGraph.LiveSet
import KasGraph.BlockProgress

set_option autoImplicit false

/-! Tables before use. A runtime with a mapping needs the tables of its schema; they
are created at startup for the configured subgraph and for no other. -/

namespace KasGraph

open EffectProgram

variable {δ : Type}

/-! ## A notification in a migrated schema -/

/-- An error about a table that does not exist. -/
def NodeError.MissingTable : NodeError → Prop
  | .store _ (.undefinedTable _ _) => True
  | _ => False

/-- A runtime with a mapping finds the tables of its schema. -/
def Served (subgraph : SubgraphId) (mapping : Option LoadedMapping) (backend : Backend δ) : Prop :=
  mapping.isSome = true → Ready subgraph backend

theorem served_stable (subgraph : SubgraphId) (mapping : Option LoadedMapping)
    (request : Request δ) (backend : Backend δ) (served : Served subgraph mapping backend) :
    Served subgraph mapping (exec request backend).2 :=
  fun mapped => ready_stable subgraph request backend (served mapped)

/-- The program fails for no missing table when its runtime is served. -/
abbrev FindsTables {α : Type} (subgraph : SubgraphId) (mapping : Option LoadedMapping)
    (program : NodeProgram δ α) : Prop :=
  FailsOnly exec (Served subgraph mapping) (fun reason => ¬ reason.MissingTable) program

section Finds

variable {subgraph : SubgraphId} {mapping : Option LoadedMapping} {indexer : Indexer δ}
  {block : BootstrapBlock}

/-- An operation that never misses a table. -/
theorem perform_finds {context : String} {op : NodeOp δ}
    (found : ∀ store : Store δ, Served subgraph mapping ⟨store, []⟩ → ∀ schema table,
      (op.onStore store).1 ≠ .error (.undefinedTable schema table)) :
    FindsTables subgraph mapping (perform context op) := by
  intro backend served reason final failed missing
  rw [run_request, Prod.mk.injEq] at failed
  cases answered : (op.onStore backend.store).1 with
  | ok reply =>
      rw [answered] at failed
      cases failed.1
  | error cause =>
      rw [answered] at failed
      cases failed.1
      cases cause with
      | undefinedTable schema table =>
          exact found backend.store (fun mapped => served mapped) schema table answered
      | invalidSubgraphId | uniqueViolation | foreignKeyViolation | checkViolation
      | integerOutOfRange => exact missing

/-- What succeeds in a migrated schema finds its tables. -/
theorem finds_of_succeeds {α : Type} {loaded : LoadedMapping} {program : NodeProgram δ α}
    (succeeds : Succeeds exec (Ready subgraph) program) :
    FindsTables subgraph (some loaded) program := by
  intro backend served
  exact FailsOnly.of_succeeds succeeds backend (served rfl)

theorem perform_finds_of_ok {context : String} {op : NodeOp δ}
    (answers : ∀ store : Store δ, ∃ reply, (op.onStore store).1 = .ok reply) :
    FindsTables subgraph mapping (perform context op) := by
  apply perform_finds
  intro store _ schema table missing
  obtain ⟨reply, answered⟩ := answers store
  rw [answered] at missing
  cases missing

theorem persistLineage_finds (floats : Json.FloatText) (hit : DetectedPattern)
    (lineage : LineageClass) (daaScore : Int64) :
    FindsTables (δ := δ) subgraph mapping
      (persistLineage floats subgraph hit lineage daaScore) := by
  have stable := @served_stable δ subgraph mapping
  apply FailsOnly.bind stable (perform_finds_of_ok fun _ => ⟨_, rfl⟩)
  intro recorded
  refine FailsOnly.ite (FailsOnly.pure ()) ?_
  apply FailsOnly.bind stable (perform_finds_of_ok fun _ => ⟨_, rfl⟩)
  intro prior
  refine FailsOnly.bind stable ?_ fun _ => ?_
  · apply perform_finds
    intro store _ schema table missing
    simp only [NodeOp.onStore, Store.upsertCovenantLineageHead] at missing
    split at missing <;> simp at missing
  · apply perform_finds
    intro store _ schema table missing
    simp only [NodeOp.onStore, Store.insertCovenantLineageRow] at missing
    split at missing
    · cases missing
    · split at missing <;> cases missing

theorem publishHitToStream_finds (stream : Bool) (hit : DetectedPattern) :
    FindsTables (δ := δ) subgraph mapping (publishHitToStream stream block hit) := by
  unfold publishHitToStream
  exact FailsOnly.ite (perform_finds_of_ok fun _ => ⟨_, rfl⟩) (FailsOnly.pure ())

theorem persistHit_finds (hit : DetectedPattern) :
    FindsTables subgraph mapping (persistHit indexer subgraph mapping block hit) := by
  have stable := @served_stable δ subgraph mapping
  cases mapping with
  | none =>
      apply FailsOnly.bind stable (perform_finds_of_ok fun _ => ⟨_, rfl⟩)
      intro _
      exact publishHitToStream_finds _ _
  | some loaded =>
      apply FailsOnly.bind stable (finds_of_succeeds (classifyLineage_succeeds _ _ _))
      intro lineage
      apply FailsOnly.bind stable (perform_finds_of_ok fun _ => ⟨_, rfl⟩)
      intro _
      apply FailsOnly.bind stable (publishHitToStream_finds _ _)
      intro _
      have tracks := @track_answers δ subgraph
        (covenantUtxoOf subgraph block hit (some lineage.covenantId)) rfl
      apply FailsOnly.bind stable (finds_of_succeeds (perform_succeeds _ _ tracks))
      intro _
      exact persistLineage_finds _ _ _ _

/-- Persisting a block finds its tables. -/
theorem persistCommittedRows_finds
    (owned : ∀ loaded, mapping = some loaded → loaded.subgraph = subgraph) :
    FindsTables subgraph mapping (persistCommittedRows indexer subgraph mapping block) := by
  have stable := @served_stable δ subgraph mapping
  apply FailsOnly.bind stable (perform_finds_of_ok fun _ => ⟨_, rfl⟩)
  intro _
  apply FailsOnly.bind stable (perform_finds_of_ok fun _ => ⟨_, rfl⟩)
  intro _
  refine FailsOnly.bind stable ?_ fun dispatched => ?_
  · unfold persistHits
    refine FailsOnly.ite (FailsOnly.pure []) ?_
    apply FailsOnly.bind stable (FailsOnly.forM stable fun hit _ => persistHit_finds hit)
    intro _
    cases mapping with
    | none => exact FailsOnly.pure []
    | some loaded => exact finds_of_succeeds (dispatchHits_succeeds (owned loaded rfl))
  · refine FailsOnly.bind stable ?_ fun _ => FailsOnly.pure _
    cases mapping with
    | none => exact FailsOnly.pure ()
    | some loaded => exact finds_of_succeeds (persistSpends_succeeds (some loaded))

theorem persistCommittedWrite_finds
    (owned : ∀ loaded, mapping = some loaded → loaded.subgraph = subgraph) (priorPoi : δ)
    (committed : CommittedBlockWrite) :
    FindsTables subgraph mapping
      (persistCommittedWrite indexer subgraph mapping priorPoi committed) := by
  have stable := @served_stable δ subgraph mapping
  apply FailsOnly.bind stable (persistCommittedRows_finds owned)
  intro dispatched
  simp only
  split
  · exact FailsOnly.fail id
  · apply FailsOnly.bind stable (perform_finds_of_ok fun _ => ⟨_, rfl⟩)
    intro _
    exact FailsOnly.pure _

theorem unwindDerived_finds (unwinds : List BootstrapBlock) :
    FindsTables (δ := δ) subgraph mapping (unwindDerived subgraph mapping unwinds) := by
  have stable := @served_stable δ subgraph mapping
  unfold unwindDerived
  split
  · rename_i cutoff _
    have entities : (NodeOp.unwindEntityVersions (δ := δ) subgraph cutoff).Answers subgraph :=
      fun _ migrated => ⟨_, congrArg Prod.fst (Store.onRelation_present migrated.entityVersions)⟩
    have utxos : (NodeOp.unwindCovenantUtxos (δ := δ) subgraph cutoff).Answers subgraph :=
      fun _ migrated => ⟨_, congrArg Prod.fst (Store.onRelation_present migrated.covenantUtxos)⟩
    have spends : (NodeOp.unwindCovenantSpends (δ := δ) subgraph cutoff).Answers subgraph :=
      fun _ migrated => ⟨_, congrArg Prod.fst (Store.onRelation_present migrated.covenantSpends)⟩
    apply FailsOnly.bind stable (finds_of_succeeds (perform_succeeds _ _ entities))
    intro _
    apply FailsOnly.bind stable (finds_of_succeeds (perform_succeeds _ _ utxos))
    intro _
    apply FailsOnly.bind stable (finds_of_succeeds (perform_succeeds _ _ spends))
    intro _
    apply perform_finds
    intro store _ schema table missing
    simp only [NodeOp.onStore, Store.unwindCovenantLineage] at missing
    split at missing <;> simp at missing
  · exact FailsOnly.pure ()

theorem unwindCommitted_finds (priorPoi : δ) (unwinds : List BootstrapBlock) :
    FindsTables subgraph mapping
      (unwindCommitted indexer subgraph mapping priorPoi unwinds) := by
  have stable := @served_stable δ subgraph mapping
  unfold unwindCommitted
  refine FailsOnly.ite (FailsOnly.pure priorPoi) ?_
  apply FailsOnly.bind stable (perform_finds_of_ok fun _ => ⟨_, rfl⟩)
  intro _
  apply FailsOnly.bind stable (unwindDerived_finds unwinds)
  intro _
  apply FailsOnly.bind stable (perform_finds_of_ok fun _ => ⟨_, rfl⟩)
  intro _
  exact FailsOnly.pure _

end Finds

/-- A served runtime takes a notification without missing a table. -/
theorem notify_finds (indexer : Indexer δ) (runtime : SubgraphRuntime δ)
    (notification : ChainNotification) :
    FindsTables runtime.subgraph runtime.mapping (runtime.notify indexer notification) := by
  have stable := @served_stable δ runtime.subgraph runtime.mapping
  refine FailsOnly.bind stable ?_ fun outcome => FailsOnly.pure _
  unfold applyAndPersistNotification
  split
  · exact FailsOnly.fail id
  · refine FailsOnly.bind stable ?_ fun priorPoi => FailsOnly.pure _
    apply FailsOnly.bind stable (unwindCommitted_finds _ _)
    intro anchor
    exact FailsOnly.foldlM stable
      (fun prior committed => persistCommittedWrite_finds runtime.owned prior committed) anchor

/-! ## Building runtimes -/

/-- The tables of exactly the configured subgraph are added. -/
theorem Store.migrated_ensureSubgraphSchema (store : Store δ) (configured subgraph : SubgraphId) :
    (store.ensureSubgraphSchema configured).Migrated subgraph ↔
      subgraph = configured ∨ store.Migrated subgraph := by
  have named : subgraph = configured ↔ subgraph.schemaName = configured.schemaName :=
    ⟨congrArg _, SubgraphId.eq_of_schemaName⟩
  constructor
  · intro migrated
    by_cases same : subgraph = configured
    · exact Or.inl same
    · have apart : ¬ subgraph.schemaName = configured.schemaName :=
        fun equal => same (named.mpr equal)
      have entities := migrated.entityVersions
      have utxos := migrated.covenantUtxos
      have spends := migrated.covenantSpends
      simp only [ensureSubgraphSchema, Finset.mem_union, Finset.mem_insert, Finset.mem_singleton,
        Prod.mk.injEq, apart, false_and, or_false] at entities utxos spends
      exact Or.inr ⟨entities, utxos, spends⟩
  · rintro (rfl | migrated)
    · constructor <;> simp [ensureSubgraphSchema]
    · constructor
      · exact Finset.mem_union_left _ migrated.entityVersions
      · exact Finset.mem_union_left _ migrated.covenantUtxos
      · exact Finset.mem_union_left _ migrated.covenantSpends

section Building

variable {env : Environment δ} {loader : Loader env.configured} {backend : Backend δ}

/-- Building a runtime from a mapping cannot fail. -/
theorem makeRuntime_ok (subgraph : SubgraphId) (mapping : MappingOf subgraph) :
    ∃ runtime, makeRuntime env backend subgraph mapping = .ok runtime ∧
      runtime.subgraph = subgraph ∧ runtime.mapping = mapping.map (·.1) := by
  unfold makeRuntime
  rw [NodeState.boot_runtime env.indexer subgraph _ _ env.finalityDepth backend [] []]
  exact ⟨_, rfl, rfl, rfl⟩

/-- A deployment with wasm bytes loads. -/
def Loads (loader : Loader env.configured) (deployment : SubgraphDeployment) : Prop :=
  deployment.wasmBytes.isSome = true → ∃ loaded, loader.deployed deployment = .ok loaded

/-- A runtime is built with the mapping that is loaded for its deployment. -/
theorem buildDeployment_loaded {deployment : SubgraphDeployment} {runtime : SubgraphRuntime δ}
    (built : buildDeployment env loader backend deployment = .ok runtime) :
    runtime.subgraph = deployment.subgraph ∧ ∃ mapping,
      loadDeploymentMapping env loader deployment = .ok mapping ∧
        runtime.mapping = mapping.map (·.1) := by
  unfold buildDeployment at built
  cases loaded : loadDeploymentMapping env loader deployment with
  | error cause =>
      rw [loaded] at built
      cases built
  | ok mapping =>
      rw [loaded] at built
      obtain ⟨made, returned, owns, maps⟩ :=
        @makeRuntime_ok δ env backend deployment.subgraph mapping
      have same : made = runtime := Except.ok.inj (returned.symm.trans built)
      rw [← same]
      exact ⟨owns, mapping, rfl, maps⟩

/-- What loads for a deployment with wasm bytes is what its loader gives. -/
theorem loadDeploymentMapping_ok {deployment : SubgraphDeployment}
    {mapping : MappingOf deployment.subgraph}
    (loaded : loadDeploymentMapping env loader deployment = .ok mapping) :
    (deployment.wasmBytes = none ∧ mapping = none) ∨
      deployment.wasmBytes.isSome = true ∧
        ∃ given, loader.deployed deployment = .ok given ∧ mapping = some given := by
  unfold loadDeploymentMapping at loaded
  cases bytes : deployment.wasmBytes with
  | none =>
      rw [bytes] at loaded
      exact .inl ⟨rfl, (Except.ok.inj loaded).symm⟩
  | some wasm =>
      rw [bytes] at loaded
      cases answer : loader.deployed deployment with
      | error message =>
          simp only [answer] at loaded
          cases loaded
      | ok given =>
          simp only [answer] at loaded
          exact .inr ⟨rfl, given, rfl, (Except.ok.inj loaded).symm⟩

theorem buildDeployment_ok {deployment : SubgraphDeployment} {runtime : SubgraphRuntime δ}
    (built : buildDeployment env loader backend deployment = .ok runtime) :
    runtime.subgraph = deployment.subgraph ∧
      runtime.mapping.isSome = deployment.wasmBytes.isSome := by
  obtain ⟨owns, mapping, loaded, maps⟩ := buildDeployment_loaded built
  refine ⟨owns, ?_⟩
  rw [maps, Option.isSome_map]
  cases loadDeploymentMapping_ok loaded with
  | inl bare => rw [bare.1, bare.2, Option.isSome_none, Option.isSome_none]
  | inr wasm =>
      obtain ⟨bytes, given, -, rfl⟩ := wasm
      rw [bytes, Option.isSome_some]

theorem buildDeployment_of_loads {deployment : SubgraphDeployment}
    (loads : Loads loader deployment) :
    ∃ runtime, buildDeployment env loader backend deployment = .ok runtime := by
  unfold buildDeployment loadDeploymentMapping
  cases bytes : deployment.wasmBytes with
  | none =>
      obtain ⟨made, returned, -⟩ := @makeRuntime_ok δ env backend deployment.subgraph none
      exact ⟨made, returned⟩
  | some wasm =>
      obtain ⟨mapping, loaded⟩ := loads (by rw [bytes]; rfl)
      obtain ⟨made, returned, -⟩ :=
        @makeRuntime_ok δ env backend deployment.subgraph (some mapping)
      simp only [loaded]
      exact ⟨made, returned⟩

/-- A traversal that returns has returned for each item. -/
theorem forall₂_of_mapM {α β ε : Type} {f : α → Except ε β} {items : List α} {results : List β}
    (returned : items.mapM f = .ok results) :
    List.Forall₂ (fun item result => f item = .ok result) items results := by
  induction items generalizing results with
  | nil =>
      cases returned
      exact .nil
  | cons item rest ih =>
      rw [List.mapM_cons] at returned
      cases first : f item with
      | error cause =>
          rw [first] at returned
          cases returned
      | ok result =>
          rw [first] at returned
          cases later : rest.mapM f with
          | error cause =>
              rw [later] at returned
              cases returned
          | ok others =>
              rw [later] at returned
              cases returned
              exact .cons first (ih later)

theorem exists_of_forall₂ {α β : Type} {related : α → β → Prop} {items : List α}
    {results : List β} (each : List.Forall₂ related items results) {result : β}
    (member : result ∈ results) : ∃ item ∈ items, related item result := by
  induction each with
  | nil => exact absurd member List.not_mem_nil
  | @cons item _ _ _ first later ih =>
      cases List.mem_cons.mp member with
      | inl here =>
          rw [here]
          exact ⟨item, List.mem_cons_self, first⟩
      | inr there =>
          obtain ⟨other, listed, holds⟩ := ih there
          exact ⟨other, List.mem_cons_of_mem _ listed, holds⟩

/-- Deployments are built one by one, and all of them when all load. -/
theorem buildDeployments_ok {deployments : List SubgraphDeployment}
    {runtimes : List (SubgraphRuntime δ)}
    (built : deployments.mapM (buildDeployment env loader backend) = .ok runtimes) :
    List.Forall₂ (fun deployment runtime =>
      buildDeployment env loader backend deployment = .ok runtime) deployments runtimes :=
  forall₂_of_mapM built

theorem loads_of_buildDeployment {deployment : SubgraphDeployment} {runtime : SubgraphRuntime δ}
    (built : buildDeployment env loader backend deployment = .ok runtime) :
    Loads loader deployment := by
  intro bytes
  obtain ⟨-, mapping, loaded, -⟩ := buildDeployment_loaded built
  cases loadDeploymentMapping_ok loaded with
  | inl bare =>
      rw [bare.1] at bytes
      cases bytes
  | inr wasm =>
      obtain ⟨-, given, answer, -⟩ := wasm
      exact ⟨given, answer⟩

theorem loads_of_built {deployments : List SubgraphDeployment}
    {runtimes : List (SubgraphRuntime δ)}
    (built : deployments.mapM (buildDeployment env loader backend) = .ok runtimes) :
    ∀ deployment ∈ deployments, Loads loader deployment := by
  have each := buildDeployments_ok built
  clear built
  induction each with
  | nil => exact fun _ => nofun
  | cons first later ih => exact List.forall_mem_cons.mpr ⟨loads_of_buildDeployment first, ih⟩

theorem buildDeployments_of_loads {deployments : List SubgraphDeployment}
    (loads : ∀ deployment ∈ deployments, Loads loader deployment) :
    ∃ runtimes, deployments.mapM (buildDeployment env loader backend) = .ok runtimes := by
  induction deployments with
  | nil => exact ⟨[], rfl⟩
  | cons deployment rest ih =>
      obtain ⟨runtime, first⟩ := @buildDeployment_of_loads δ env loader backend _
        (loads deployment List.mem_cons_self)
      obtain ⟨others, later⟩ := ih fun other member => loads other (List.mem_cons_of_mem _ member)
      rw [List.mapM_cons, first, later]
      exact ⟨runtime :: others, rfl⟩

end Building

/-- How the live set is built at startup: the registry cannot be read; it is empty,
and the configured runtime is built or not; or all deployments are built. -/
theorem buildSubgraphRuntimes_cases {env : Environment δ} (loader : Loader env.configured)
    (backend : Backend δ) (registry : Registry) :
    (∃ cause, registry.listSubgraphDeployments = .error cause ∧
      buildSubgraphRuntimes env loader backend registry = .error (.registry cause)) ∨
    (registry.listSubgraphDeployments = .ok [] ∧
      ∀ runtimes, buildSubgraphRuntimes env loader backend registry = .ok runtimes →
        ∀ runtime ∈ runtimes, runtime.subgraph = env.configured) ∨
    ∃ deployments, registry.listSubgraphDeployments = .ok deployments ∧
      buildSubgraphRuntimes env loader backend registry =
        deployments.mapM (buildDeployment env loader backend) := by
  unfold buildSubgraphRuntimes
  cases listed : registry.listSubgraphDeployments with
  | error cause => exact Or.inl ⟨cause, rfl, rfl⟩
  | ok deployments =>
      cases deployments with
      | nil =>
          refine Or.inr (Or.inl ⟨rfl, fun runtimes built runtime member => ?_⟩)
          cases directory : loader.directory with
          | error message =>
              simp only [Except.mapError, bind, Except.bind, directory, List.isEmpty_nil,
                if_true] at built
              cases built
          | ok mapping =>
              obtain ⟨made, returned, owns, -⟩ := @makeRuntime_ok δ env backend env.configured mapping
              simp only [Except.mapError, bind, Except.bind, directory, List.isEmpty_nil, if_true,
                returned, pure, Except.pure, Except.ok.injEq] at built
              rw [← built, List.mem_singleton] at member
              rw [member, owns]
      | cons first rest => exact Or.inr (Or.inr ⟨first :: rest, rfl, rfl⟩)

/-- The deployments that a reload builds. -/
def unknownDeployments (runtimes : List (SubgraphRuntime δ))
    (deployments : List SubgraphDeployment) : List SubgraphDeployment :=
  deployments.filter fun deployment =>
    !(runtimes.map (·.subgraph.schemaName)).contains deployment.subgraph.schemaName

/-- How a reload ends: it fails, and then not all deployments it builds load; the
registry is empty; or what it builds is added to a part of the live set. -/
theorem reconcileSubgraphRuntimes_cases {env : Environment δ} (loader : Loader env.configured)
    (backend : Backend δ) (registry : Registry) (runtimes : List (SubgraphRuntime δ)) :
    (∃ cause, reconcileSubgraphRuntimes env loader backend registry runtimes = .error cause ∧
      ∀ deployments, registry.listSubgraphDeployments = .ok deployments →
        ¬ ∀ deployment ∈ unknownDeployments runtimes deployments, Loads loader deployment) ∨
    (registry.listSubgraphDeployments = .ok [] ∧
      reconcileSubgraphRuntimes env loader backend registry runtimes = .ok (⟨0, 0⟩, runtimes)) ∨
    ∃ deployments delta kept added, registry.listSubgraphDeployments = .ok deployments ∧
      kept ⊆ runtimes ∧
      (unknownDeployments runtimes deployments).mapM (buildDeployment env loader backend) =
        .ok added ∧
      reconcileSubgraphRuntimes env loader backend registry runtimes =
        .ok (delta, kept ++ added) := by
  unfold reconcileSubgraphRuntimes
  cases listed : registry.listSubgraphDeployments with
  | error cause => exact Or.inl ⟨.registry cause, rfl, fun _ => nofun⟩
  | ok deployments =>
      cases deployments with
      | nil => exact Or.inr (Or.inl ⟨rfl, rfl⟩)
      | cons first rest =>
          cases built : (unknownDeployments runtimes (first :: rest)).mapM
              (buildDeployment env loader backend) with
          | error cause =>
              refine Or.inl ⟨cause, ?_, ?_⟩
              · unfold unknownDeployments at built
                simp only [Except.mapError, bind, Except.bind, List.isEmpty_cons, if_false, built,
                  Bool.false_eq_true]
              · intro deployments same loads
                cases same
                obtain ⟨added, ok⟩ := @buildDeployments_of_loads δ env loader backend _ loads
                rw [ok] at built
                cases built
          | ok added =>
              let kept := runtimes.filter fun runtime =>
                ((first :: rest).map (·.subgraph.schemaName)).contains runtime.subgraph.schemaName
              refine Or.inr (Or.inr ⟨first :: rest,
                ⟨added.length, runtimes.length - kept.length⟩, kept, added, rfl, ?_, built, ?_⟩)
              · exact fun runtime member => (List.mem_filter.mp member).1
              · unfold unknownDeployments at built
                simp only [Except.mapError, bind, Except.bind, List.isEmpty_cons, if_false, built,
                  Bool.false_eq_true, pure, Except.pure]
                rfl

/-! ## The live set -/

/-- Every runtime of a live set that has a mapping finds its tables. -/
def AllServed (backend : Backend δ) (runtimes : List (SubgraphRuntime δ)) : Prop :=
  ∀ runtime ∈ runtimes, Served runtime.subgraph runtime.mapping backend

/-- What a node hands its next notification to. -/
def Node.TablesExist (node : Node δ) : Prop :=
  ∀ runtimes, node.live = some runtimes → AllServed node.backend runtimes

section Building

variable {env : Environment δ} {loader : Loader env.configured} {backend : Backend δ}

/-- The deployments with wasm bytes have their tables. -/
def DeploymentsServed (backend : Backend δ) (deployments : List SubgraphDeployment) : Prop :=
  ∀ deployment ∈ deployments, deployment.wasmBytes.isSome = true →
    backend.store.Migrated deployment.subgraph

/-- What is built for deployments is served as they are. -/
theorem allServed_iff {deployments : List SubgraphDeployment} {runtimes : List (SubgraphRuntime δ)}
    (built : deployments.mapM (buildDeployment env loader backend) = .ok runtimes) :
    AllServed backend runtimes ↔ DeploymentsServed backend deployments := by
  have each := buildDeployments_ok built
  clear built
  induction each with
  | nil => exact ⟨fun _ => nofun, fun _ => nofun⟩
  | cons first later ih =>
      obtain ⟨owns, maps⟩ := buildDeployment_ok first
      unfold AllServed DeploymentsServed Served Ready at ih ⊢
      rw [List.forall_mem_cons, List.forall_mem_cons, owns, maps]
      exact and_congr Iff.rfl ih

end Building

theorem run_notify_ok {indexer : Indexer δ} {notification : ChainNotification}
    {runtime : SubgraphRuntime δ} {result : NotificationOutcome × SubgraphRuntime δ}
    {before final : Backend δ}
    (ran : run exec (runtime.notify indexer notification) before = (.ok result, final)) :
    result.2.subgraph = runtime.subgraph ∧ result.2.mapping = runtime.mapping := by
  unfold SubgraphRuntime.notify at ran
  obtain ⟨⟨outcome, state⟩, middle, persisted, ended⟩ := (run_bind_ok_iff exec _ _ _ _ _).mp ran
  simp only [run_pure, Prod.mk.injEq, Except.ok.injEq] at ended
  rw [← ended.1]
  exact ⟨rfl, rfl⟩

theorem run_notifyEach_ok {indexer : Indexer δ} {notification : ChainNotification}
    {runtimes : List (SubgraphRuntime δ)} {before final : Backend δ}
    {results : List (NotificationOutcome × SubgraphRuntime δ)}
    (ran : run exec (runtimes.mapM (·.notify indexer notification)) before = (.ok results, final)) :
    List.Forall₂ (fun old new : SubgraphRuntime δ =>
      new.subgraph = old.subgraph ∧ new.mapping = old.mapping) runtimes (results.map Prod.snd) := by
  induction runtimes generalizing before results with
  | nil =>
      cases ran
      exact .nil
  | cons runtime rest ih =>
      rw [List.mapM_cons] at ran
      obtain ⟨first, between, notified, ran⟩ := (run_bind_ok_iff exec _ _ _ _ _).mp ran
      obtain ⟨others, last, later, returned⟩ := (run_bind_ok_iff exec _ _ _ _ _).mp ran
      simp only [run_pure, Prod.mk.injEq, Except.ok.injEq] at returned
      obtain ⟨together, ended⟩ := returned
      rw [ended] at later
      rw [← together, List.map_cons]
      exact .cons (run_notify_ok notified) (ih later)

/-- A notification keeps the subgraph and the mapping of every runtime. -/
theorem run_fanOut_ok {indexer : Indexer δ} {notification : ChainNotification}
    {runtimes after : List (SubgraphRuntime δ)} {outcome : Option NotificationOutcome}
    {before final : Backend δ}
    (ran : run exec (fanOutNotification indexer runtimes notification) before =
      (.ok (outcome, after), final)) :
    List.Forall₂ (fun old new : SubgraphRuntime δ =>
      new.subgraph = old.subgraph ∧ new.mapping = old.mapping) runtimes after := by
  unfold fanOutNotification at ran
  obtain ⟨results, middle, handed, returned⟩ := (run_bind_ok_iff exec _ _ _ _ _).mp ran
  simp only [run_pure, Prod.mk.injEq, Except.ok.injEq] at returned
  rw [← returned.1.2]
  exact run_notifyEach_ok handed

theorem run_relations {α : Type} (program : NodeProgram δ α) (backend : Backend δ) :
    (run exec program backend).2.store.relations = backend.store.relations := by
  let keeps : Backend δ → Prop := fun current => current.store.relations = backend.store.relations
  have stable : ∀ (request : Request δ) (current : Backend δ),
      keeps current → keeps (exec request current).2 :=
    fun request current same => (request.op.onStore_relations current.store).trans same
  have kept : keeps (run exec program backend).2 := Succeeds.run_stable stable program rfl
  exact kept

theorem migrated_congr {store other : Store δ} {subgraph : SubgraphId}
    (same : other.relations = store.relations) (migrated : store.Migrated subgraph) :
    other.Migrated subgraph :=
  ⟨same ▸ migrated.entityVersions, same ▸ migrated.covenantUtxos, same ▸ migrated.covenantSpends⟩

theorem allServed_of_same {before after : Backend δ} {runtimes others : List (SubgraphRuntime δ)}
    (relations : after.store.relations = before.store.relations)
    (same : List.Forall₂ (fun old new : SubgraphRuntime δ =>
      new.subgraph = old.subgraph ∧ new.mapping = old.mapping) runtimes others)
    (served : AllServed before runtimes) : AllServed after others := by
  induction same with
  | nil => exact fun _ => nofun
  | cons first later ih =>
      obtain ⟨here, rest⟩ := List.forall_mem_cons.mp served
      refine List.forall_mem_cons.mpr ⟨?_, ih rest⟩
      unfold Served
      rw [first.1, first.2]
      exact fun mapped => migrated_congr relations (here mapped)

namespace Node

variable (env : Environment δ)

/-- The condition on one event: where all deployments it builds load, those with
wasm bytes have their tables, the configured subgraph's being created at startup. -/
def Admits (node : Node δ) : NodeEvent env.configured → Prop
  | .startup loader => ∀ deployments, node.registry.listSubgraphDeployments = .ok deployments →
      (∀ deployment ∈ deployments, Loads loader deployment) →
        ∀ deployment ∈ deployments, deployment.wasmBytes.isSome = true →
          deployment.subgraph = env.configured ∨ node.backend.store.Migrated deployment.subgraph
  | .reload loader => ∀ runtimes deployments, node.live = some runtimes →
      node.registry.listSubgraphDeployments = .ok deployments →
        (∀ deployment ∈ unknownDeployments runtimes deployments, Loads loader deployment) →
          ∀ deployment ∈ unknownDeployments runtimes deployments,
            deployment.wasmBytes.isSome = true → node.backend.store.Migrated deployment.subgraph
  | _ => True

variable {env}

theorem startup_tablesExist_iff (node : Node δ) (loader : Loader env.configured) :
    (node.startup env loader).TablesExist ↔ node.Admits env (.startup loader) := by
  let backend : Backend δ :=
    { store := node.backend.store.ensureSubgraphSchema env.configured, published := [] }
  have served : ∀ deployments : List SubgraphDeployment, DeploymentsServed backend deployments ↔
      ∀ deployment ∈ deployments, deployment.wasmBytes.isSome = true →
        deployment.subgraph = env.configured ∨
          node.backend.store.Migrated deployment.subgraph := by
    intro deployments
    refine forall_congr' fun deployment => imp_congr_right fun _ => imp_congr_right fun _ => ?_
    exact node.backend.store.migrated_ensureSubgraphSchema env.configured deployment.subgraph
  have live : (node.startup env loader).TablesExist ↔ ∀ runtimes,
      buildSubgraphRuntimes env loader backend node.registry = .ok runtimes →
        AllServed backend runtimes := by
    unfold startup TablesExist
    cases built : buildSubgraphRuntimes env loader backend node.registry with
    | error cause => simp only [backend] at built; simp [built]
    | ok runtimes => simp only [backend] at built; simp [built, backend]
  rw [live]
  unfold Admits
  rcases buildSubgraphRuntimes_cases loader backend node.registry with
    ⟨cause, listed, built⟩ | ⟨listed, owned⟩ | ⟨deployments, listed, built⟩
  · rw [listed, built]
    exact ⟨fun _ => nofun, fun _ => nofun⟩
  · rw [listed]
    constructor
    · intro _ deployments same _ deployment member
      cases same
      cases member
    · intro _ runtimes built runtime member _
      unfold Ready
      rw [owned runtimes built runtime member]
      exact (node.backend.store.migrated_ensureSubgraphSchema _ _).mpr (Or.inl rfl)
  · rw [listed, built]
    constructor
    · intro served' others same loads
      cases same
      obtain ⟨runtimes, ok⟩ := @buildDeployments_of_loads δ env loader backend _ loads
      exact (served deployments).mp ((allServed_iff ok).mp (served' runtimes ok))
    · intro admits runtimes ok
      refine (allServed_iff ok).mpr ((served deployments).mpr (admits deployments rfl ?_))
      exact loads_of_built ok

theorem reload_tablesExist_iff {node : Node δ} (before : node.TablesExist)
    (loader : Loader env.configured) :
    (node.reload env loader).TablesExist ↔ node.Admits env (.reload loader) := by
  cases live : node.live with
  | none => simp [reload, Admits, live, before]
  | some runtimes =>
      have unchanged : ∀ cause, reconcileSubgraphRuntimes env loader node.backend node.registry
          runtimes = .error cause → (node.reload env loader).TablesExist := by
        intro cause failed
        simp only [reload, live, failed]
        exact before
      have followed : ∀ delta followed, reconcileSubgraphRuntimes env loader node.backend
          node.registry runtimes = .ok (delta, followed) →
            ((node.reload env loader).TablesExist ↔ AllServed node.backend followed) := by
        intro delta followed reconciled
        simp [reload, TablesExist, live, reconciled]
      have kept : AllServed node.backend runtimes := before runtimes live
      have admits : node.Admits env (.reload loader) ↔ ∀ deployments,
          node.registry.listSubgraphDeployments = .ok deployments →
            (∀ deployment ∈ unknownDeployments runtimes deployments, Loads loader deployment) →
              DeploymentsServed node.backend (unknownDeployments runtimes deployments) := by
        constructor
        · intro all deployments listed
          exact all runtimes deployments live listed
        · intro all others deployments running listed
          rw [live, Option.some.injEq] at running
          rw [← running]
          exact all deployments listed
      rw [admits]
      rcases reconcileSubgraphRuntimes_cases loader node.backend node.registry runtimes with
        ⟨cause, failed, stuck⟩ | ⟨listed, same⟩ |
        ⟨deployments, delta, rest, added, listed, fewer, built, reconciled⟩
      · constructor
        · intro _ deployments listed loads
          exact absurd loads (stuck deployments listed)
        · intro _
          exact unchanged cause failed
      · constructor
        · intro _ deployments listed' _ deployment member
          rw [listed, Except.ok.injEq] at listed'
          rw [← listed'] at member
          cases member
        · intro _
          exact (followed _ _ same).mpr kept
      · rw [followed _ _ reconciled, listed]
        constructor
        · intro served others same _
          cases same
          refine (allServed_iff built).mp fun runtime member => ?_
          exact served runtime (List.mem_append_right _ member)
        · intro served runtime member
          rcases List.mem_append.mp member with old | new
          · exact kept runtime (fewer old)
          · have fresh := served deployments rfl (loads_of_built built)
            exact (allServed_iff built).mpr fresh runtime new

theorem notify_tablesExist {node : Node δ} (before : node.TablesExist)
    (notification : ChainNotification) : (node.notify env notification).TablesExist := by
  cases live : node.live with
  | none =>
      simp only [notify, live]
      exact before
  | some runtimes =>
      have relations := run_relations (fanOutNotification env.indexer runtimes notification)
        node.backend
      cases ran : run exec (fanOutNotification env.indexer runtimes notification) node.backend with
      | mk answer backend =>
          rw [ran] at relations
          cases answer with
          | error reason => simp [notify, TablesExist, live, ran]
          | ok result =>
              obtain ⟨outcome, after⟩ := result
              have same := run_fanOut_ok ran
              cases outcome with
              | none => simp [notify, TablesExist, live, ran]
              | some outcome =>
                  have served : AllServed backend after := by
                    have kept : AllServed node.backend runtimes := before runtimes live
                    exact allServed_of_same relations same kept
                  simpa [notify, TablesExist, live, ran] using served

theorem step_tablesExist_iff {node : Node δ} (before : node.TablesExist)
    (event : NodeEvent env.configured) :
    (node.step env event).TablesExist ↔ node.Admits env event := by
  cases event with
  | startup loader => exact startup_tablesExist_iff node loader
  | deploy name row => exact iff_of_true before trivial
  | remove name => exact iff_of_true before trivial
  | reload loader => exact reload_tablesExist_iff before loader
  | notify notification => exact iff_of_true (notify_tablesExist before notification) trivial

/-- Over a run, the tables of all live runtimes exist exactly as long as every
event is admitted. -/
theorem runEach_tablesExist_iff {node : Node δ} (before : node.TablesExist)
    (events : List (NodeEvent env.configured)) :
    (∀ done, done <+: events → (node.runEach env done).TablesExist) ↔
      ∀ done event, done ++ [event] <+: events → (node.runEach env done).Admits env event := by
  induction events generalizing node with
  | nil =>
      constructor
      · intro _ done event first
        simp at first
      · intro _ done first
        rw [List.prefix_nil.mp first]
        exact before
  | cons event rest ih =>
      constructor
      · intro exist done other first
        have next : (node.step env event).TablesExist :=
          exist [event] (List.prefix_append [event] rest)
        cases done with
        | nil =>
            obtain ⟨same, -⟩ := List.cons_prefix_cons.mp first
            rw [same]
            exact (step_tablesExist_iff before event).mp next
        | cons head done =>
            rw [List.cons_append] at first
            obtain ⟨same, later⟩ := List.cons_prefix_cons.mp first
            rw [same]
            refine (ih next).mp (fun done first => ?_) done other later
            exact exist (event :: done) (List.cons_prefix_cons.mpr ⟨rfl, first⟩)
      · intro admits done first
        cases done with
        | nil => exact before
        | cons head done =>
            obtain ⟨same, later⟩ := List.cons_prefix_cons.mp first
            rw [same]
            have admitted : node.Admits env event :=
              admits [] event (List.prefix_append [event] rest)
            have next := (step_tablesExist_iff before event).mpr admitted
            refine (ih next).mpr (fun done other first => ?_) done later
            exact admits (event :: done) other (List.cons_prefix_cons.mpr ⟨rfl, first⟩)

/-- No store call that handing a notification to the live set makes can fail for a
missing table. -/
def MissesNone (env : Environment δ) (node : Node δ) : Prop :=
  ∀ runtimes notification reason final, node.live = some runtimes →
    run exec (fanOutNotification env.indexer runtimes notification) node.backend =
      (.error reason, final) → ¬ reason.MissingTable

theorem missesNone_of_tablesExist {node : Node δ} (exist : node.TablesExist) :
    node.MissesNone env := by
  intro runtimes notification reason final live failed
  have stable : ∀ (request : Request δ) (backend : Backend δ),
      AllServed backend runtimes → AllServed (exec request backend).2 runtimes :=
    fun request backend served runtime member =>
      served_stable _ _ request backend (served runtime member)
  have handed : FailsOnly exec (fun backend => AllServed backend runtimes)
      (fun reason => ¬ reason.MissingTable)
      (fanOutNotification env.indexer runtimes notification) := by
    refine FailsOnly.bind stable ?_ fun _ => FailsOnly.pure _
    refine FailsOnly.mapM stable fun runtime member => ?_
    intro backend served
    exact notify_finds env.indexer runtime notification backend (served runtime member)
  exact handed node.backend (exist runtimes live) reason final failed

/-- No event but a startup creates tables. -/
theorem step_relations (node : Node δ) (event : NodeEvent env.configured) :
    (node.step env event).backend.store.relations = node.backend.store.relations ∨
      (node.step env event).backend.store.relations =
        (node.backend.store.ensureSubgraphSchema env.configured).relations := by
  cases event with
  | startup loader =>
      simp only [step, startup]
      split <;> exact Or.inr rfl
  | deploy name row => exact Or.inl rfl
  | remove name => exact Or.inl rfl
  | reload loader =>
      simp only [step, reload]
      split
      · exact Or.inl rfl
      · split <;> exact Or.inl rfl
  | notify notification =>
      simp only [step, notify]
      split
      · exact Or.inl rfl
      · rename_i runtimes live
        have relations := run_relations (fanOutNotification env.indexer runtimes notification)
          node.backend
        split <;> rename_i ran <;> rw [ran] at relations <;> exact Or.inl relations

/-- The tables of a subgraph that is not the configured one are never created. -/
theorem runEach_migrated_iff {subgraph : SubgraphId} (other : subgraph ≠ env.configured)
    (node : Node δ) (events : List (NodeEvent env.configured)) :
    (node.runEach env events).backend.store.Migrated subgraph ↔
      node.backend.store.Migrated subgraph := by
  induction events generalizing node with
  | nil => exact Iff.rfl
  | cons event rest ih =>
      refine (ih (node.step env event)).trans ?_
      rcases step_relations node event with same | created
      · exact ⟨migrated_congr same.symm, migrated_congr same⟩
      · constructor
        · intro migrated
          have ensured := (node.backend.store.migrated_ensureSubgraphSchema env.configured
            subgraph).mp (migrated_congr created.symm migrated)
          exact ensured.resolve_left other
        · intro migrated
          exact migrated_congr created
            ((node.backend.store.migrated_ensureSubgraphSchema _ _).mpr (Or.inr migrated))

/-- In every run of a node, the tables of every live runtime with a mapping exist and
no notification misses one, exactly when every startup and every reload that can
build its deployments finds the tables of those with wasm bytes, or, at startup,
creates them because the deployment is the configured one. -/
theorem tables_exist_iff (env : Environment δ) (registry : Registry) (backend : Backend δ)
    (events : List (NodeEvent env.configured)) :
    (∀ done, done <+: events →
      ((stopped registry backend).runEach env done).TablesExist ∧
      ((stopped registry backend).runEach env done).MissesNone env) ↔
    ∀ done event, done ++ [event] <+: events →
      ((stopped registry backend).runEach env done).Admits env event := by
  have before : (stopped registry backend).TablesExist := fun _ => nofun
  rw [← runEach_tablesExist_iff before events]
  constructor
  · intro both done first
    exact (both done first).1
  · intro exist done first
    exact ⟨exist done first, missesNone_of_tablesExist (exist done first)⟩

/-! ### A deployment that never had tables -/

def wasmRow : RegistryRow where
  schemaSdl := ""
  manifestJson := .null
  wasmSha256 := none
  wasmBytes := some [0]
  removed := false

/-- A subgraph besides the configured one is deployed before the node starts, and
then a swap is locked. -/
def otherDeployed : List (NodeEvent demoEnvironment.configured) :=
  [.deploy "demo" wasmRow, .deploy "other" wasmRow, .startup silentLoader, .notify firstLock]

/-- The deployed subgraph runs without tables, and the first block with a hit ends
the process for all. -/
theorem deployed_without_tables :
    ¬ ∀ (registry : Registry) (backend : Backend (List (List UInt8)))
        (events : List (NodeEvent demoEnvironment.configured)) done, done <+: events →
      ((stopped registry backend).runEach demoEnvironment done).TablesExist ∧
      ((stopped registry backend).runEach demoEnvironment done).MissesNone demoEnvironment := by
  intro always
  let node : Node (List (List UInt8)) := (stopped ∅ ⟨.empty ∅, []⟩).runEach demoEnvironment
    (otherDeployed.take 3)
  obtain ⟨exist, -⟩ := always ∅ ⟨.empty ∅, []⟩ otherDeployed _ (List.take_prefix 3 _)
  have unserved : (node.live.getD []).any (fun runtime => runtime.mapping.isSome &&
      !decide ((runtime.subgraph.schemaName, "entity_versions") ∈ node.backend.store.relations)) =
        true := by decide +kernel
  obtain ⟨runtime, member, lacks⟩ := List.any_eq_true.mp unserved
  cases live : node.live with
  | none =>
      rw [live] at member
      cases member
  | some runtimes =>
      rw [live] at member
      rw [Bool.and_eq_true, Bool.not_eq_true', decide_eq_false_iff_not] at lacks
      exact lacks.2 (exist runtimes live runtime member lacks.1).entityVersions

example :
    ((stopped ∅ ⟨.empty ∅, []⟩).runEach demoEnvironment otherDeployed).live.isNone = true := by
  decide +kernel

end Node

end KasGraph
