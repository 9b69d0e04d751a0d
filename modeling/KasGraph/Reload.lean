import KasGraph.TablesExist

set_option autoImplicit false

/-! Convergence of a reload. The live set is edited in place, after everything that can fail;
what it runs afterwards is compared with what is registered. -/

namespace KasGraph

variable {δ : Type}

/-! ## The reload in place -/

/-- The reload as it edits the live set: `retain` drops what is not registered and `extend`
appends what was built. -/
def reconcileInPlace (env : Environment δ) (loader : Loader env.configured) (backend : Backend δ)
    (registry : Registry) :
    ExceptT StartError (StateM (List (SubgraphRuntime δ))) ReloadDelta := do
  let deployments ← MonadExcept.ofExcept (registry.listSubgraphDeployments.mapError .registry)
  if deployments.isEmpty then
    return ⟨0, 0⟩
  let existing := (← get).map (·.subgraph.schemaName)
  let desired := deployments.map (·.subgraph.schemaName)
  let added ← MonadExcept.ofExcept ((deployments.filter fun deployment =>
    !existing.contains deployment.subgraph.schemaName).mapM (buildDeployment env loader backend))
  let before := (← get).length
  modify fun runtimes =>
    runtimes.filter fun runtime => desired.contains runtime.subgraph.schemaName
  let removed := before - (← get).length
  modify (· ++ added)
  return ⟨added.length, removed⟩

section InPlace

variable {σ ε α : Type}

theorem run_ofExcept (value : Except ε α) :
    ExceptT.run (MonadExcept.ofExcept value : ExceptT ε (StateM σ) α) = pure value := by
  cases value <;> rfl

theorem run_get (state : σ) :
    StateT.run (ExceptT.run (get : ExceptT ε (StateM σ) σ)) state = pure (.ok state, state) := rfl

end InPlace

/-- The runtimes that stay. -/
def survivingRuntimes (runtimes : List (SubgraphRuntime δ))
    (deployments : List SubgraphDeployment) : List (SubgraphRuntime δ) :=
  runtimes.filter fun runtime =>
    (deployments.map (·.subgraph.schemaName)).contains runtime.subgraph.schemaName

section Reload

variable {env : Environment δ} {loader : Loader env.configured} {backend : Backend δ}
  {registry : Registry}

theorem reconcileSubgraphRuntimes_of_listed {deployments : List SubgraphDeployment}
    (listed : registry.listSubgraphDeployments = .ok deployments) (nonempty : deployments ≠ [])
    (runtimes : List (SubgraphRuntime δ)) :
    reconcileSubgraphRuntimes env loader backend registry runtimes =
      ((unknownDeployments runtimes deployments).mapM (buildDeployment env loader backend)).map
        fun added =>
          (⟨added.length, runtimes.length - (survivingRuntimes runtimes deployments).length⟩,
            survivingRuntimes runtimes deployments ++ added) := by
  have filled : deployments.isEmpty = false := List.isEmpty_eq_false_iff.mpr nonempty
  unfold reconcileSubgraphRuntimes unknownDeployments survivingRuntimes
  rw [listed]
  simp only [Except.mapError, bind, Except.bind, filled, Bool.false_eq_true, if_false]
  cases (deployments.filter fun deployment =>
    !(runtimes.map (·.subgraph.schemaName)).contains deployment.subgraph.schemaName).mapM
      (buildDeployment env loader backend) <;> rfl

/-- A reload that fails leaves the live set as it was. -/
theorem reconcileInPlace_eq (env : Environment δ) (loader : Loader env.configured)
    (backend : Backend δ) (registry : Registry) (runtimes : List (SubgraphRuntime δ)) :
    (reconcileInPlace env loader backend registry).run.run runtimes =
      match reconcileSubgraphRuntimes env loader backend registry runtimes with
      | .ok (delta, after) => (.ok delta, after)
      | .error cause => (.error cause, runtimes) := by
  cases listed : registry.listSubgraphDeployments with
  | error cause =>
      unfold reconcileSubgraphRuntimes reconcileInPlace
      rw [listed]
      rfl
  | ok deployments =>
      by_cases none : deployments = []
      · unfold reconcileSubgraphRuntimes reconcileInPlace
        rw [listed, none]
        rfl
      · have filled : deployments.isEmpty = false := List.isEmpty_eq_false_iff.mpr none
        rw [reconcileSubgraphRuntimes_of_listed listed none, reconcileInPlace, listed]
        simp only [Except.mapError, filled, Bool.false_eq_true, if_false, ExceptT.run_bind,
          StateT.run_bind, run_ofExcept, run_get, pure_bind, unknownDeployments]
        generalize List.mapM (buildDeployment env loader backend) _ = built
        cases built with
        | error cause => rfl
        | ok added => rfl

/-! ## What runs after it -/

/-- What loading gives where it succeeds: the mapping of the manifest and the module that are
written out for a deployment and read back. -/
abbrev Compiler := (deployment : SubgraphDeployment) →
  { loaded : LoadedMapping // loaded.subgraph = deployment.subgraph }

/-- Loading may fail, but gives one mapping for one deployment. -/
def Loader.Compiles {configured : SubgraphId} (loader : Loader configured)
    (compile : Compiler) : Prop :=
  ∀ deployment loaded, loader.deployed deployment = .ok loaded → loaded = compile deployment

/-- The runtime runs the module and the manifest of the deployment, or none without a module. -/
def RunsDeployment (compile : Compiler) (deployment : SubgraphDeployment)
    (runtime : SubgraphRuntime δ) : Prop :=
  runtime.mapping = deployment.wasmBytes.map fun _ => (compile deployment).1

/-- Each runtime whose subgraph is registered runs what is registered for it. -/
def RunsRegistered (compile : Compiler) (deployments : List SubgraphDeployment)
    (runtimes : List (SubgraphRuntime δ)) : Prop :=
  ∀ runtime ∈ runtimes, ∀ deployment ∈ deployments, runtime.subgraph = deployment.subgraph →
    RunsDeployment compile deployment runtime

/-- The live set after a reload is the one registered: its subgraphs are those of the
deployments, each runs what is registered for it, and a runtime that already did is the same
runtime as before. -/
structure Converged (compile : Compiler) (deployments : List SubgraphDeployment)
    (before after : List (SubgraphRuntime δ)) : Prop where
  exact : ∀ subgraph, subgraph ∈ after.map (·.subgraph) ↔ subgraph ∈ deployments.map (·.subgraph)
  registered : RunsRegistered compile deployments after
  kept : ∀ runtime ∈ before, ∀ deployment ∈ deployments, runtime.subgraph = deployment.subgraph →
    RunsDeployment compile deployment runtime → runtime ∈ after

variable {compile : Compiler} {deployments : List SubgraphDeployment}
  {runtimes added : List (SubgraphRuntime δ)}

theorem buildDeployment_runs (compiles : loader.Compiles compile)
    {deployment : SubgraphDeployment} {runtime : SubgraphRuntime δ}
    (built : buildDeployment env loader backend deployment = .ok runtime) :
    runtime.subgraph = deployment.subgraph ∧ RunsDeployment compile deployment runtime := by
  obtain ⟨owns, mapping, loaded, maps⟩ := buildDeployment_loaded built
  refine ⟨owns, ?_⟩
  rw [RunsDeployment, maps]
  cases loadDeploymentMapping_ok loaded with
  | inl bare => rw [bare.1, bare.2, Option.map_none, Option.map_none]
  | inr wasm =>
      obtain ⟨bytes, given, answer, rfl⟩ := wasm
      obtain ⟨code, shape⟩ := Option.isSome_iff_exists.mp bytes
      rw [shape, compiles deployment given answer, Option.map_some, Option.map_some]

theorem mem_survivingRuntimes (runtime : SubgraphRuntime δ) :
    runtime ∈ survivingRuntimes runtimes deployments ↔
      runtime ∈ runtimes ∧ ∃ deployment ∈ deployments,
        runtime.subgraph = deployment.subgraph := by
  rw [survivingRuntimes, List.mem_filter, List.contains_iff_mem, List.mem_map]
  refine and_congr_right fun _ => exists_congr fun deployment => and_congr_right fun _ => ?_
  exact ⟨fun same => SubgraphId.eq_of_schemaName same.symm, fun same => by rw [same]⟩

theorem mem_unknownDeployments (deployment : SubgraphDeployment) :
    deployment ∈ unknownDeployments runtimes deployments ↔
      deployment ∈ deployments ∧ deployment.subgraph ∉ runtimes.map (·.subgraph) := by
  rw [unknownDeployments, List.mem_filter, Bool.not_eq_true', ← Bool.not_eq_true,
    List.contains_iff_mem, List.mem_map, List.mem_map]
  refine and_congr_right fun _ => not_congr (exists_congr fun runtime => ?_)
  refine and_congr_right fun _ => ?_
  exact ⟨SubgraphId.eq_of_schemaName, fun same => by rw [same]⟩

/-- What is built owns the subgraphs of the new deployments. -/
theorem subgraphs_of_built {unknown : List SubgraphDeployment}
    (built : unknown.mapM (buildDeployment env loader backend) = .ok added) :
    added.map (·.subgraph) = unknown.map (·.subgraph) := by
  have each := buildDeployments_ok built
  clear built
  induction each with
  | nil => rfl
  | cons first later ih =>
      rw [List.map_cons, List.map_cons, ih, (buildDeployment_loaded first).1]

theorem runs_of_built (compiles : loader.Compiles compile) {unknown : List SubgraphDeployment}
    (built : unknown.mapM (buildDeployment env loader backend) = .ok added)
    {runtime : SubgraphRuntime δ} (member : runtime ∈ added) :
    ∃ deployment ∈ unknown, runtime.subgraph = deployment.subgraph ∧
      RunsDeployment compile deployment runtime := by
  obtain ⟨deployment, unknown, first⟩ := exists_of_forall₂ (buildDeployments_ok built) member
  exact ⟨deployment, unknown, buildDeployment_runs compiles first⟩

theorem deploymentOf_schemaName {name : String} {row : RegistryRow}
    {deployment : SubgraphDeployment} (read : Registry.deploymentOf name row = .ok deployment) :
    deployment.subgraph.schemaName = name := by
  unfold Registry.deploymentOf SubgraphId.new at read
  split at read
  · cases read
    rfl
  · cases read

/-- No subgraph is registered twice. -/
theorem listSubgraphDeployments_nodup
    (listed : registry.listSubgraphDeployments = .ok deployments) :
    (deployments.map (·.subgraph)).Nodup := by
  have each := forall₂_of_mapM listed
  have apart := OrderedMap.entriesWhere_pairwise registry fun _ row => !row.removed
  change List.Pairwise _ (registry.toList.filter fun entry => !entry.2.removed) at apart
  generalize registry.toList.filter (fun entry => !entry.2.removed) = entries at each apart
  clear listed
  induction each with
  | nil => exact List.nodup_nil
  | @cons entry deployment rest others read later ih =>
      obtain ⟨above, below⟩ := List.pairwise_cons.mp apart
      refine List.nodup_cons.mpr ⟨?_, ih below⟩
      intro member
      obtain ⟨other, listed, same⟩ := List.mem_map.mp member
      obtain ⟨origin, inside, written⟩ := exists_of_forall₂ later listed
      have less := above origin inside
      rw [← deploymentOf_schemaName read, ← deploymentOf_schemaName written, same,
        Std.ReflOrd.compare_self] at less
      cases less

/-- The subgraphs of the live set after a reload are those registered. -/
theorem mem_subgraphs_iff
    (built : (unknownDeployments runtimes deployments).mapM (buildDeployment env loader backend) =
      .ok added) (subgraph : SubgraphId) :
    subgraph ∈ (survivingRuntimes runtimes deployments ++ added).map (·.subgraph) ↔
      subgraph ∈ deployments.map (·.subgraph) := by
  rw [List.map_append, List.mem_append, subgraphs_of_built built, List.mem_map, List.mem_map,
    List.mem_map]
  constructor
  · rintro (⟨runtime, survives, rfl⟩ | ⟨deployment, unknown, rfl⟩)
    · obtain ⟨-, deployment, listed, same⟩ := (mem_survivingRuntimes runtime).mp survives
      exact ⟨deployment, listed, same.symm⟩
    · exact ⟨deployment, ((mem_unknownDeployments deployment).mp unknown).1, rfl⟩
  · rintro ⟨deployment, listed, rfl⟩
    by_cases running : deployment.subgraph ∈ runtimes.map (·.subgraph)
    · obtain ⟨runtime, member, same⟩ := List.mem_map.mp running
      exact .inl ⟨runtime, (mem_survivingRuntimes runtime).mpr
        ⟨member, deployment, listed, same⟩, same⟩
    · exact .inr ⟨deployment, (mem_unknownDeployments deployment).mpr ⟨listed, running⟩, rfl⟩

/-- Each subgraph runs once when no two runtimes had one before. -/
theorem subgraphs_perm (distinct : (deployments.map (·.subgraph)).Nodup)
    (once : (runtimes.map (·.subgraph)).Nodup)
    (built : (unknownDeployments runtimes deployments).mapM (buildDeployment env loader backend) =
      .ok added) :
    ((survivingRuntimes runtimes deployments ++ added).map (·.subgraph)).Perm
      (deployments.map (·.subgraph)) := by
  refine (List.perm_ext_iff_of_nodup ?_ distinct).mpr (mem_subgraphs_iff built)
  rw [List.map_append, subgraphs_of_built built]
  refine List.nodup_append.mpr ⟨?_, ?_, ?_⟩
  · exact once.sublist (List.filter_sublist.map _)
  · exact distinct.sublist (List.filter_sublist.map _)
  · intro subgraph surviving other unknown same
    obtain ⟨runtime, member, rfl⟩ := List.mem_map.mp surviving
    obtain ⟨deployment, fresh, rfl⟩ := List.mem_map.mp unknown
    refine ((mem_unknownDeployments deployment).mp fresh).2 (List.mem_map.mpr ⟨runtime, ?_, same⟩)
    exact ((mem_survivingRuntimes runtime).mp member).1

/-- Runtimes that are built run what is registered; the others run it when they did. -/
theorem runsRegistered_iff (compiles : loader.Compiles compile)
    (distinct : (deployments.map (·.subgraph)).Nodup)
    (built : (unknownDeployments runtimes deployments).mapM (buildDeployment env loader backend) =
      .ok added) :
    RunsRegistered compile deployments (survivingRuntimes runtimes deployments ++ added) ↔
      RunsRegistered compile deployments runtimes := by
  constructor
  · intro runs runtime member deployment listed same
    refine runs runtime (List.mem_append_left _ ?_) deployment listed same
    exact (mem_survivingRuntimes runtime).mpr ⟨member, deployment, listed, same⟩
  · intro runs runtime member deployment listed same
    cases List.mem_append.mp member with
    | inl surviving =>
        exact runs runtime ((mem_survivingRuntimes runtime).mp surviving).1 deployment listed same
    | inr fresh =>
        obtain ⟨source, unknown, owns, runsSource⟩ := runs_of_built compiles built fresh
        have registered := ((mem_unknownDeployments source).mp unknown).1
        have one : source = deployment :=
          List.inj_on_of_nodup_map distinct registered listed (owns.symm.trans same)
        rwa [← one]

/-- A reload that fails, as it does when a runtime cannot be built, leaves the live set as it was.
After one that succeeds the subgraphs are those registered, each once if they were, and the
runtimes of subgraphs that stay are the same as before; the set has converged exactly when each
runtime that stays already ran what is registered for it. -/
theorem reload_converges_iff (env : Environment δ) (loader : Loader env.configured)
    (compile : Compiler) (compiles : loader.Compiles compile) (backend : Backend δ)
    (registry : Registry) (deployments : List SubgraphDeployment)
    (listed : registry.listSubgraphDeployments = .ok deployments) (nonempty : deployments ≠ [])
    (runtimes after : List (SubgraphRuntime δ)) (result : Except StartError ReloadDelta)
    (ran : (reconcileInPlace env loader backend registry).run.run runtimes = (result, after)) :
    (∀ cause, result = .error cause → after = runtimes) ∧
    (∀ deployment ∈ unknownDeployments runtimes deployments, ∀ cause,
      buildDeployment env loader backend deployment = .error cause → after = runtimes) ∧
    ∀ delta, result = .ok delta →
      ((runtimes.map (·.subgraph)).Nodup →
        (after.map (·.subgraph)).Perm (deployments.map (·.subgraph))) ∧
      (∀ runtime ∈ runtimes, runtime.subgraph ∈ deployments.map (·.subgraph) → runtime ∈ after) ∧
      (Converged compile deployments runtimes after ↔
        RunsRegistered compile deployments runtimes) := by
  have distinct := listSubgraphDeployments_nodup listed
  rw [reconcileInPlace_eq, reconcileSubgraphRuntimes_of_listed listed nonempty] at ran
  cases built : (unknownDeployments runtimes deployments).mapM
      (buildDeployment env loader backend) with
  | error cause =>
      rw [built] at ran
      obtain ⟨rfl, rfl⟩ := Prod.mk.inj ran
      refine ⟨fun _ _ => rfl, fun _ _ _ _ => rfl, ?_⟩
      intro delta failed
      cases failed
  | ok added =>
      rw [built] at ran
      obtain ⟨rfl, rfl⟩ := Prod.mk.inj ran
      have kept : ∀ runtime ∈ runtimes, ∀ deployment ∈ deployments,
          runtime.subgraph = deployment.subgraph →
            runtime ∈ survivingRuntimes runtimes deployments ++ added := by
        intro runtime member deployment inside same
        exact List.mem_append_left _
          ((mem_survivingRuntimes runtime).mpr ⟨member, deployment, inside, same⟩)
      refine ⟨?_, ?_, fun delta _ => ⟨?_, ?_, ?_⟩⟩
      · intro cause failed
        cases failed
      · intro deployment unknown cause failed
        obtain ⟨runtime, ok⟩ := @buildDeployment_of_loads δ env loader backend deployment
          (loads_of_built built deployment unknown)
        rw [ok] at failed
        cases failed
      · exact fun once => subgraphs_perm distinct once built
      · intro runtime member registered
        obtain ⟨deployment, inside, same⟩ := List.mem_map.mp registered
        exact kept runtime member deployment inside same.symm
      · rw [← runsRegistered_iff compiles distinct built]
        constructor
        · exact fun converged => converged.registered
        · intro runs
          exact ⟨mem_subgraphs_iff built, runs,
            fun runtime member deployment inside same _ =>
              kept runtime member deployment inside same⟩

end Reload

/-! ## A redeployed subgraph -/

/-- The deployment of "demo" that carries a module. -/
def demoDeployment : SubgraphDeployment where
  subgraph := demoSubgraph
  schemaSdl := ""
  manifestJson := .null
  wasmSha256 := none
  wasmBytes := some [0]

def demoRegistry : Registry := Registry.upsertSubgraphDeployment ∅ "demo" Node.wasmRow

theorem demoRegistry_listed : demoRegistry.listSubgraphDeployments = .ok [demoDeployment] := rfl

theorem silentMapping_for (deployment : SubgraphDeployment) :
    { silentMapping with subgraph := deployment.subgraph }.subgraph = deployment.subgraph := rfl

/-- Every module binds no handler. -/
def silentCompile : Compiler := fun deployment =>
  ⟨{ silentMapping with subgraph := deployment.subgraph }, silentMapping_for deployment⟩

theorem silentLoader_compiles : silentLoader.Compiles silentCompile := by
  intro deployment loaded answered
  exact (Except.ok.inj answered).symm

/-- A runtime of "demo" that has just started, with a mapping or none. -/
def demoRuntime (mapping : MappingOf demoSubgraph) : SubgraphRuntime (List (List UInt8)) where
  subgraph := demoSubgraph
  ingestion := .withFinalityDepth [] none
  mapping := mapping.map (·.1)
  owned loaded same := by
    obtain ⟨owned, -, rfl⟩ := Option.map_eq_some_iff.mp same
    exact owned.2

/-- The reload finds "demo" running and builds nothing. -/
theorem demo_reload (mapping : MappingOf demoSubgraph) :
    (reconcileInPlace demoEnvironment silentLoader ⟨.empty ∅, []⟩ demoRegistry).run.run
      [demoRuntime mapping] = (.ok ⟨0, 0⟩, [demoRuntime mapping]) := by
  rw [reconcileInPlace_eq, reconcileSubgraphRuntimes_of_listed demoRegistry_listed
    (List.cons_ne_nil _ _)]
  rfl

theorem reload_converges_running :
    Converged silentCompile [demoDeployment] [demoRuntime (some (silentCompile demoDeployment))]
      [demoRuntime (some (silentCompile demoDeployment))] := by
  refine ((reload_converges_iff demoEnvironment silentLoader silentCompile silentLoader_compiles _
    demoRegistry _ demoRegistry_listed (List.cons_ne_nil _ _) _ _ _
    (demo_reload _)).2.2 _ rfl).2.2.mpr ?_
  intro runtime member deployment registered same
  cases List.mem_singleton.mp member
  cases List.mem_singleton.mp registered
  rfl

/-- A subgraph that was deployed without a module and is redeployed with one runs without it. -/
theorem redeployed_module_not_loaded :
    ¬ ∀ (env : Environment (List (List UInt8))) (loader : Loader env.configured)
        (compile : Compiler) (backend : Backend (List (List UInt8))) (registry : Registry)
        (deployments : List SubgraphDeployment) (runtimes after : List (SubgraphRuntime _))
        (delta : ReloadDelta),
      loader.Compiles compile → registry.listSubgraphDeployments = .ok deployments →
      deployments ≠ [] →
      (reconcileInPlace env loader backend registry).run.run runtimes = (.ok delta, after) →
        Converged compile deployments runtimes after := by
  intro always
  have converged := always _ _ _ _ _ _ _ _ _ silentLoader_compiles demoRegistry_listed
    (List.cons_ne_nil _ _) (demo_reload none)
  have runs := converged.registered _ (List.mem_singleton_self _) _ (List.mem_singleton_self _) rfl
  cases runs

end KasGraph
