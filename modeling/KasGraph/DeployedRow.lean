import KasGraph.MaterializeFrame
import KasGraph.Reload

set_option autoImplicit false

/-! What a node runs for a row of the registry. The row is written out below the work directory and
read back there; a runtime that is built from it keeps what was read. -/

namespace KasGraph

open EffectProgram FileSystem
open Json (Value)

variable {δ : Type}

/-! ## Reading back what was written -/

/-- A wasm that is a file of the build directory, beside the manifest. -/
structure PlainWasm (wasmName : String) : Prop where
  named : IsName wasmName.toList
  slashless : '/' ∉ wasmName.toList
  apart : wasmName ≠ "manifest.json"

section Places

variable {cwd : Location} {base : Path} {deployment : SubgraphDeployment} {wasmName : String}

theorem PlainWasm.wasmPlace_eq (plain : PlainWasm wasmName) :
    wasmPlace cwd base deployment wasmName =
      wasmName.toList :: "build".toList :: ownDir cwd base deployment.subgraph := by
  unfold wasmPlace wasmPath
  rw [locate_join_name plain.named plain.slashless, locate_buildDir]
  rfl

theorem PlainWasm.ne_manifestPlace (plain : PlainWasm wasmName) :
    wasmPlace cwd base deployment wasmName ≠ manifestPlace cwd base deployment := by
  rw [plain.wasmPlace_eq, manifestPlace_eq]
  intro same
  exact plain.apart (String.toList_inj.mp (List.cons.inj same).1)

theorem PlainWasm.ne_schemaPlace (plain : PlainWasm wasmName) :
    wasmPlace cwd base deployment wasmName ≠ schemaPlace cwd base deployment := by
  rw [plain.wasmPlace_eq, schemaPlace_eq]
  intro same
  have lengths := congrArg List.length same
  simp only [List.length_cons] at lengths
  omega

end Places

section Disk

variable {codec : MappingCodec} {base : Path} {deployment : SubgraphDeployment}
  {wasmName : String} {wasmBytes : List UInt8} {machine after : Machine}

/-- A materialization that goes through leaves the wasm at its place. -/
def StoresWasm (place : Location) (wasmBytes : List UInt8)
    (outcome : Except MaterializeError Path × Machine) : Prop :=
  ∀ dir, outcome.1 = .ok dir → outcome.2.disk.file? place = some wasmBytes

theorem StoresWasm.of_error {place : Location} (reason : MaterializeError) :
    StoresWasm place wasmBytes (.error reason, after) := by
  intro dir done
  cases done

theorem materializeSubgraphDir_stores
    (named : wasmField deployment.manifestJson = some wasmName)
    (carried : deployment.wasmBytes = some wasmBytes) (plain : PlainWasm wasmName)
    (machine : Machine) :
    StoresWasm (wasmPlace machine.cwd base deployment wasmName) wasmBytes
      (run onDisk (materializeSubgraphDir codec deployment base) machine) := by
  rw [materializeSubgraphDir_eq named carried, run_createDirAll_bind]
  have kept := machine.createDirAll_keeps (buildDir (subgraphDir base deployment.subgraph))
  generalize (machine.createDirAll (buildDir (subgraphDir base deployment.subgraph))).2 = built
    at kept ⊢
  split
  · apply run_writeFile_cases
    · exact .of_error _
    · intro place torn leads free keeps
      exact .of_error _
    · intro place second leads free keeps held
      have cwd := keeps.cwd.trans kept.cwd
      apply run_writeFile_cases
      · exact .of_error _
      · intro place torn leads free keeps
        exact .of_error _
      · intro place third leads free wrote stored
        rw [cwd, Disk.find_eq_some_iff] at leads
        obtain rfl : wasmPlace machine.cwd base deployment wasmName = place := leads.2
        apply run_writeFile_cases
        · exact .of_error _
        · intro place torn leads free keeps
          exact .of_error _
        · intro place last leads free final sdl dir done
          rw [wrote.cwd, cwd, Disk.find_eq_some_iff] at leads
          obtain rfl : schemaPlace machine.cwd base deployment = place := leads.2
          change last.disk.file? _ = _
          rw [final.files _ fun listed => plain.ne_schemaPlace (List.mem_singleton.mp listed)]
          exact stored
  · exact .of_error _

/-- What a load returns is read from the manifest, and from the wasm that it names. -/
theorem load_ok {subgraph : SubgraphId} {dir : Path} {loaded : LoadedMapping}
    (ran : run onDisk (LoadedMapping.load codec subgraph dir) machine = (.ok loaded, after)) :
    loaded.subgraph = subgraph ∧
      (∃ json, machine.disk.file? (locate machine.cwd (manifestPath dir)) = some json ∧
        codec.descriptorOf json = some loaded.descriptor) ∧
      ∃ bytes,
        machine.disk.file? (locate machine.cwd (wasmPath dir loaded.descriptor.wasm)) =
          some bytes ∧
        codec.fromWasm bytes = .ok loaded.runtime := by
  unfold LoadedMapping.load at ran
  obtain ⟨descriptor, middle, read, ran⟩ := (run_bind_ok_iff onDisk _ _ _ _ _).mp ran
  obtain ⟨disk, cwd, -, spelled⟩ := descriptorLoad_reads codec dir machine
  rw [read] at disk cwd spelled
  simp only at disk cwd spelled
  obtain ⟨bytes, last, asked, compiled⟩ := (run_bind_ok_iff onDisk _ _ _ _ _).mp ran
  rw [run_read] at asked
  obtain ⟨answer, rfl⟩ := Prod.mk.inj asked
  rcases middle.read_cases (wasmPath dir descriptor.wasm) with
    failed | ⟨place, contents, leads, held, -, same⟩
  · rw [failed] at answer
    obtain rfl := Except.ok.inj answer
    cases compiled
  · obtain rfl := Except.ok.inj answer
    unfold compileMapping at compiled
    split at compiled
    · cases compiled
    · rename_i bytes found
      obtain rfl := same bytes found
      split at compiled
      · cases compiled
      · rename_i runtime given
        cases compiled
        rw [disk, cwd] at leads
        rw [disk] at held
        obtain rfl := (Disk.find_eq_some_iff.mp leads).2
        exact ⟨rfl, spelled descriptor rfl, bytes, held, given⟩

/-- The mapping of a deployment: the descriptor of its manifest, and its module compiled. -/
structure Gives (codec : MappingCodec) (manifest : Value) (wasmBytes : List UInt8)
    (loaded : LoadedMapping) : Prop where
  descriptor : codec.descriptorOf (codec.toVecPretty manifest) = some loaded.descriptor
  runtime : codec.fromWasm wasmBytes = .ok loaded.runtime

/-- What is loaded is what was written, whatever is on the disk and whatever fails. -/
theorem loadMaterialized_gives (carried : deployment.wasmBytes = some wasmBytes)
    (plain : ∀ wasmName ∈ wasmField deployment.manifestJson, PlainWasm wasmName)
    (reads_back : codec.ReadsBack deployment.manifestJson) {loaded : LoadedMapping}
    (ran : run onDisk (loadMaterialized codec deployment base) machine =
      (.ok (some loaded), after)) :
    Gives codec deployment.manifestJson wasmBytes loaded := by
  unfold loadMaterialized at ran
  rw [carried] at ran
  obtain ⟨dir, middle, written, ran⟩ := (run_bind_ok_iff onDisk _ _ _ _ _).mp ran
  obtain ⟨found, last, loads, returned⟩ := (run_bind_ok_iff onDisk _ _ _ _ _).mp ran
  cases returned
  cases named : wasmField deployment.manifestJson with
  | none =>
      unfold materializeSubgraphDir at written
      rw [named] at written
      cases written
  | some wasmName =>
      have beside := plain wasmName named
      have outcome := (@materializeSubgraphDir_materializes codec base _ _ _ named carried
        machine).2
      have stored := @materializeSubgraphDir_stores codec base _ _ _ named carried beside machine
      unfold StoresWasm at stored
      rw [written] at outcome stored
      obtain ⟨rfl, disk⟩ := outcome dir rfl
      have wasm := stored _ rfl
      have manifest := disk.manifest
      rw [if_neg beside.ne_manifestPlace] at manifest
      obtain ⟨-, ⟨json, held, spelled⟩, bytes, module, compiled⟩ := load_ok loads
      rw [disk.stays] at held module
      have text : json = codec.toVecPretty deployment.manifestJson :=
        Option.some.inj (held.symm.trans manifest)
      subst text
      have same := reads_back loaded.descriptor spelled
      rw [named] at same
      obtain rfl := Option.some.inj same
      have wrote : bytes = wasmBytes := Option.some.inj (module.symm.trans wasm)
      subst wrote
      exact ⟨spelled, compiled⟩

end Disk

/-! ## Runtimes of a row -/

/-- What the loader gives for a deployment is read from disk, whatever else is there. -/
def Loader.FromDisk {configured : SubgraphId} (codec : MappingCodec) (base : Path)
    (loader : Loader configured) : Prop :=
  ∀ deployment loaded, loader.deployed deployment = .ok loaded → ∃ machine after,
    run onDisk (loadMaterialized codec deployment base) machine = (.ok (some loaded.1), after)

/-- The row of a subgraph that stays deployed, with a module that reads back. -/
structure ServedRow (codec : MappingCodec) (wasmBytes : List UInt8) (row : RegistryRow) :
    Prop where
  stays : row.removed = false
  carried : row.wasmBytes = some wasmBytes
  plain : ∀ wasmName ∈ wasmField row.manifestJson, PlainWasm wasmName
  reads_back : codec.ReadsBack row.manifestJson

/-- The runtime runs the module of the row. -/
def RunsRow (codec : MappingCodec) (wasmBytes : List UInt8) (row : RegistryRow)
    (runtime : SubgraphRuntime δ) : Prop :=
  ∃ loaded, runtime.mapping = some loaded ∧ Gives codec row.manifestJson wasmBytes loaded

section Rows

variable {codec : MappingCodec} {base : Path} {wasmBytes : List UInt8} {row : RegistryRow}
  {name : String} {registry : Registry} {deployments : List SubgraphDeployment}

/-- The deployment of a row that is registered is listed, and is the only one of its name. -/
theorem mem_of_registered (registered : registry[name]? = some row)
    (stays : row.removed = false) (listed : registry.listSubgraphDeployments = .ok deployments) :
    (∃ deployment ∈ deployments, Registry.deploymentOf name row = .ok deployment) ∧
      ∀ deployment ∈ deployments, deployment.subgraph.schemaName = name →
        Registry.deploymentOf name row = .ok deployment := by
  have each := forall₂_of_mapM listed
  refine ⟨?_, ?_⟩
  · have entry : (name, row) ∈ registry.toList.filter fun entry => !entry.2.removed := by
      refine List.mem_filter.mpr ⟨(OrderedMap.mem_toList registry name row).mpr registered, ?_⟩
      rw [stays]
      rfl
    obtain ⟨deployment, member, read⟩ := exists_of_forall₂ each.flip entry
    exact ⟨deployment, member, read⟩
  · intro deployment member named
    obtain ⟨⟨other, found⟩, entry, read⟩ := exists_of_forall₂ each member
    have same : name = other := named.symm.trans (deploymentOf_schemaName read)
    subst same
    have there := (OrderedMap.mem_toList registry name found).mp (List.mem_filter.mp entry).1
    obtain rfl := Option.some.inj (registered.symm.trans there)
    exact read

theorem deploymentOf_ok {deployment : SubgraphDeployment}
    (read : Registry.deploymentOf name row = .ok deployment) :
    deployment.manifestJson = row.manifestJson ∧ deployment.wasmBytes = row.wasmBytes := by
  unfold Registry.deploymentOf at read
  cases valid : SubgraphId.new name with
  | error cause =>
      rw [valid] at read
      cases read
  | ok subgraph =>
      rw [valid] at read
      cases read
      exact ⟨rfl, rfl⟩

variable {env : Environment δ} {loader : Loader env.configured} {backend : Backend δ}

/-- A runtime that is built for the row runs its module. -/
theorem buildDeployment_runsRow (served : ServedRow codec wasmBytes row)
    (from_disk : loader.FromDisk codec base) {deployment : SubgraphDeployment}
    (read : Registry.deploymentOf name row = .ok deployment) {runtime : SubgraphRuntime δ}
    (built : buildDeployment env loader backend deployment = .ok runtime) :
    RunsRow codec wasmBytes row runtime := by
  obtain ⟨manifest, bytes⟩ := deploymentOf_ok read
  have carried : deployment.wasmBytes = some wasmBytes := bytes.trans served.carried
  obtain ⟨-, mapping, loaded, maps⟩ := buildDeployment_loaded built
  cases loadDeploymentMapping_ok loaded with
  | inl bare =>
      rw [carried] at bare
      cases bare.1
  | inr wasm =>
      obtain ⟨-, given, answer, rfl⟩ := wasm
      obtain ⟨machine, after, ran⟩ := from_disk deployment given answer
      refine ⟨given.1, maps, ?_⟩
      rw [← manifest]
      apply loadMaterialized_gives carried _ _ ran
      · rw [manifest]
        exact served.plain
      · rw [manifest]
        exact served.reads_back

/-- Every runtime of the subgraph runs the module of its row. -/
def AllRunRow (codec : MappingCodec) (wasmBytes : List UInt8) (name : String) (row : RegistryRow)
    (runtimes : List (SubgraphRuntime δ)) : Prop :=
  ∀ runtime ∈ runtimes, runtime.subgraph.schemaName = name → RunsRow codec wasmBytes row runtime

/-- The subgraph is one of those that run. -/
def IsRunning (name : String) (runtimes : List (SubgraphRuntime δ)) : Prop :=
  name ∈ runtimes.map (·.subgraph.schemaName)

theorem built_runRow (served : ServedRow codec wasmBytes row)
    (from_disk : loader.FromDisk codec base) (registered : registry[name]? = some row)
    (listed : registry.listSubgraphDeployments = .ok deployments)
    {unknown : List SubgraphDeployment} (subset : unknown ⊆ deployments)
    {runtimes : List (SubgraphRuntime δ)}
    (built : unknown.mapM (buildDeployment env loader backend) = .ok runtimes) :
    AllRunRow codec wasmBytes name row runtimes := by
  intro runtime member named
  obtain ⟨deployment, inside, made⟩ := exists_of_forall₂ (buildDeployments_ok built) member
  have own : deployment.subgraph.schemaName = name := by
    rw [← (buildDeployment_loaded made).1]
    exact named
  have read := (mem_of_registered registered served.stays listed).2 deployment (subset inside) own
  exact buildDeployment_runsRow served from_disk read made

theorem built_isRunning (served : ServedRow codec wasmBytes row)
    (registered : registry[name]? = some row)
    (listed : registry.listSubgraphDeployments = .ok deployments)
    {runtimes : List (SubgraphRuntime δ)}
    (built : deployments.mapM (buildDeployment env loader backend) = .ok runtimes) :
    IsRunning name runtimes := by
  obtain ⟨deployment, member, read⟩ := (mem_of_registered registered served.stays listed).1
  have owned := subgraphs_of_built built
  have listed : deployment.subgraph ∈ runtimes.map (·.subgraph) := by
    rw [owned]
    exact List.mem_map.mpr ⟨deployment, member, rfl⟩
  obtain ⟨runtime, inside, same⟩ := List.mem_map.mp listed
  refine List.mem_map.mpr ⟨runtime, inside, ?_⟩
  rw [same, deploymentOf_schemaName read]

/-- What is built from a registry with the row runs the subgraph, and its module. -/
theorem buildSubgraphRuntimes_runRow (served : ServedRow codec wasmBytes row)
    (from_disk : loader.FromDisk codec base) (registered : registry[name]? = some row)
    {runtimes : List (SubgraphRuntime δ)}
    (built : buildSubgraphRuntimes env loader backend registry = .ok runtimes) :
    AllRunRow codec wasmBytes name row runtimes ∧ IsRunning name runtimes := by
  rcases buildSubgraphRuntimes_cases loader backend registry with
    ⟨cause, -, failed⟩ | ⟨listed, -⟩ | ⟨deployments, listed, same⟩
  · rw [failed] at built
    cases built
  · obtain ⟨deployment, member, -⟩ := (mem_of_registered registered served.stays listed).1
    cases member
  · rw [same] at built
    exact ⟨built_runRow served from_disk registered listed (List.Subset.refl _) built,
      built_isRunning served registered listed built⟩

/-- A reload keeps what runs the row's module, and the subgraph running. -/
theorem reconcile_runRow (served : ServedRow codec wasmBytes row)
    (from_disk : loader.FromDisk codec base) (registered : registry[name]? = some row)
    {runtimes after : List (SubgraphRuntime δ)} {delta : ReloadDelta}
    (all : AllRunRow codec wasmBytes name row runtimes)
    (reconciled : reconcileSubgraphRuntimes env loader backend registry runtimes =
      .ok (delta, after)) :
    AllRunRow codec wasmBytes name row after ∧ (IsRunning name runtimes → IsRunning name after) := by
  cases listed : registry.listSubgraphDeployments with
  | error cause =>
      unfold reconcileSubgraphRuntimes at reconciled
      rw [listed] at reconciled
      cases reconciled
  | ok deployments =>
      obtain ⟨deployment, member, read⟩ := (mem_of_registered registered served.stays listed).1
      rw [reconcileSubgraphRuntimes_of_listed listed (List.ne_nil_of_mem member)] at reconciled
      cases built : (unknownDeployments runtimes deployments).mapM
          (buildDeployment env loader backend) with
      | error cause =>
          rw [built] at reconciled
          cases reconciled
      | ok added =>
          rw [built] at reconciled
          cases reconciled
          refine ⟨?_, ?_⟩
          · intro runtime listed' named
            rcases List.mem_append.mp listed' with survives | fresh
            · exact all runtime ((mem_survivingRuntimes runtime).mp survives).1 named
            · have known : unknownDeployments runtimes deployments ⊆ deployments :=
                fun other inside => ((mem_unknownDeployments other).mp inside).1
              exact built_runRow served from_disk registered listed known built runtime fresh named
          · intro running
            obtain ⟨runtime, inside, named⟩ := List.mem_map.mp running
            refine List.mem_map.mpr ⟨runtime, List.mem_append_left _ ?_, named⟩
            refine (mem_survivingRuntimes runtime).mpr ⟨inside, deployment, member, ?_⟩
            exact SubgraphId.eq_of_schemaName (named.trans (deploymentOf_schemaName read).symm)

end Rows

/-! ## Runs of a node -/

/-- The subgraph is neither deployed nor removed, and what is loaded is read from disk. -/
def NodeEvent.Spares {configured : SubgraphId} (codec : MappingCodec) (base : Path)
    (name : String) : NodeEvent configured → Prop
  | .startup loader => loader.FromDisk codec base
  | .deploy other _ => other ≠ name
  | .remove other => other ≠ name
  | .reload loader => loader.FromDisk codec base
  | .notify _ => True

/-- The row is registered, and what runs of its subgraph runs its module. -/
structure Node.ServesRow (codec : MappingCodec) (wasmBytes : List UInt8) (name : String)
    (row : RegistryRow) (node : Node δ) : Prop where
  registered : node.registry[name]? = some row
  live : ∀ runtimes, node.live = some runtimes → AllRunRow codec wasmBytes name row runtimes

/-- The subgraph runs whenever the node does. -/
def Node.KeepsRunning (name : String) (node : Node δ) : Prop :=
  ∀ runtimes, node.live = some runtimes → IsRunning name runtimes

section Runs

variable {codec : MappingCodec} {base : Path} {wasmBytes : List UInt8} {row : RegistryRow}
  {name : String} {env : Environment δ} {node : Node δ}

theorem setSubgraphRemoved_of_ne {registry : Registry} {other : String} (apart : other ≠ name) :
    (registry.setSubgraphRemoved other)[name]? = registry[name]? := by
  unfold Registry.setSubgraphRemoved
  split
  · exact OrderedMap.get_insert_of_ne _ _ apart
  · rfl

/-- A notification keeps the subgraphs and their mappings. -/
theorem notified_runRow {runtimes after : List (SubgraphRuntime δ)}
    (same : List.Forall₂ (fun old new : SubgraphRuntime δ =>
      new.subgraph = old.subgraph ∧ new.mapping = old.mapping) runtimes after) :
    (AllRunRow codec wasmBytes name row runtimes → AllRunRow codec wasmBytes name row after) ∧
      (IsRunning name runtimes → IsRunning name after) := by
  induction same with
  | nil => exact ⟨id, id⟩
  | @cons old new olds news first later ih =>
      unfold AllRunRow IsRunning RunsRow at ih ⊢
      rw [List.forall_mem_cons, List.forall_mem_cons, List.map_cons, List.map_cons,
        List.mem_cons, List.mem_cons, first.1, first.2]
      exact ⟨And.imp id ih.1, Or.imp id ih.2⟩

/-- One event keeps the row registered and its module running. -/
theorem Node.step_servesRow (served : ServedRow codec wasmBytes row)
    (serves : node.ServesRow codec wasmBytes name row) {event : NodeEvent env.configured}
    (spares : event.Spares codec base name) :
    (node.step env event).ServesRow codec wasmBytes name row ∧
      (node.KeepsRunning name → (node.step env event).KeepsRunning name) := by
  cases event with
  | deploy other written =>
      refine ⟨⟨?_, serves.live⟩, id⟩
      exact (OrderedMap.get_insert_of_ne _ _ spares).trans serves.registered
  | remove other =>
      exact ⟨⟨(setSubgraphRemoved_of_ne spares).trans serves.registered, serves.live⟩, id⟩
  | startup loader =>
      change (node.startup env loader).ServesRow codec wasmBytes name row ∧
        (node.KeepsRunning name → (node.startup env loader).KeepsRunning name)
      unfold Node.startup
      simp only
      split
      · rename_i runtimes built
        obtain ⟨all, running⟩ := buildSubgraphRuntimes_runRow served spares serves.registered built
        refine ⟨⟨serves.registered, ?_⟩, ?_⟩
        · intro others same
          cases same
          exact all
        · intro _ others same
          cases same
          exact running
      · refine ⟨⟨serves.registered, ?_⟩, ?_⟩
        · intro others same
          cases same
        · intro _ others same
          cases same
  | reload loader =>
      change (node.reload env loader).ServesRow codec wasmBytes name row ∧
        (node.KeepsRunning name → (node.reload env loader).KeepsRunning name)
      unfold Node.reload
      split
      · exact ⟨serves, id⟩
      · rename_i runtimes live
        split
        · rename_i delta after reconciled
          obtain ⟨all, running⟩ := reconcile_runRow served spares serves.registered
            (serves.live runtimes live) reconciled
          refine ⟨⟨serves.registered, ?_⟩, ?_⟩
          · intro others same
            cases same
            exact all
          · intro keeps others same
            cases same
            exact running (keeps runtimes live)
        · exact ⟨serves, id⟩
  | notify notification =>
      change (node.notify env notification).ServesRow codec wasmBytes name row ∧
        (node.KeepsRunning name → (node.notify env notification).KeepsRunning name)
      unfold Node.notify
      split
      · exact ⟨serves, id⟩
      · rename_i runtimes live
        split
        · rename_i outcome after backend ran
          obtain ⟨all, running⟩ := @notified_runRow δ codec wasmBytes row name _ _
            (run_fanOut_ok ran)
          refine ⟨⟨serves.registered, ?_⟩, ?_⟩
          · intro others same
            cases same
            exact all (serves.live runtimes live)
          · intro keeps others same
            cases same
            exact running (keeps runtimes live)
        · refine ⟨⟨serves.registered, ?_⟩, ?_⟩
          · intro others same
            cases same
          · intro _ others same
            cases same
        · refine ⟨⟨serves.registered, ?_⟩, ?_⟩
          · intro others same
            cases same
          · intro _ others same
            cases same

theorem Node.runEach_servesRow (served : ServedRow codec wasmBytes row)
    (serves : node.ServesRow codec wasmBytes name row) {events : List (NodeEvent env.configured)}
    (spares : ∀ event ∈ events, event.Spares codec base name) :
    (node.runEach env events).ServesRow codec wasmBytes name row ∧
      (node.KeepsRunning name → (node.runEach env events).KeepsRunning name) := by
  induction events generalizing node with
  | nil => exact ⟨serves, id⟩
  | cons event events ih =>
      obtain ⟨first, rest⟩ := List.forall_mem_cons.mp spares
      obtain ⟨here, running⟩ := Node.step_servesRow served serves first
      obtain ⟨later, runs⟩ := ih here rest
      exact ⟨later, fun keeps => runs (running keeps)⟩

end Runs

end KasGraph
