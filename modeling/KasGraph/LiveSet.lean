import KasGraph.NodeRun

set_option autoImplicit false

/-! The node as a whole. It runs one runtime for every deployed subgraph over one
store and one stream hub, hands each notification to all of them, and follows
the registry of deployments when it starts and when it reloads. -/

namespace KasGraph

open EffectProgram
open Json (Value)

variable {δ : Type}

/-! ## The registry -/

/-- A row of `kasgraph_subgraph` under its subgraph name. A removed row stays. -/
structure RegistryRow where
  schemaSdl : String
  manifestJson : Value
  wasmSha256 : Option String
  wasmBytes : Option (List UInt8)
  removed : Bool

abbrev Registry := OrderedMap String RegistryRow

structure SubgraphDeployment where
  subgraph : SubgraphId
  schemaSdl : String
  manifestJson : Value
  wasmSha256 : Option String
  wasmBytes : Option (List UInt8)

namespace Registry

/-- Record a deployment; a removed subgraph comes back. -/
def upsertSubgraphDeployment (registry : Registry) (name : String) (row : RegistryRow) :
    Registry :=
  registry.insert name { row with removed := false }

def setSubgraphRemoved (registry : Registry) (name : String) : Registry :=
  match registry[name]? with
  | some row => registry.insert name { row with removed := true }
  | none => registry

def deploymentOf (name : String) (row : RegistryRow) : Except StoreError SubgraphDeployment := do
  let subgraph ← SubgraphId.new name
  return {
    subgraph
    schemaSdl := row.schemaSdl
    manifestJson := row.manifestJson
    wasmSha256 := row.wasmSha256
    wasmBytes := row.wasmBytes }

/-- The deployments that are not removed, by name. A name that is no subgraph id
fails the whole read. -/
def listSubgraphDeployments (registry : Registry) : Except StoreError (List SubgraphDeployment) :=
  (registry.toList.filter fun entry => !entry.2.removed).mapM fun entry =>
    deploymentOf entry.1 entry.2

end Registry

/-! ## Building runtimes -/

/-- What the node is started with. -/
structure Environment (δ : Type) where
  toolkit : Toolkit
  hasher : PoiHasher δ
  configured : SubgraphId
  finalityDepth : Option UInt64

/-- The indexer of every runtime; the node always attaches its stream hub. -/
def Environment.indexer (env : Environment δ) : Indexer δ where
  toolkit := env.toolkit
  hasher := env.hasher
  stream := true

inductive StartError where
  | registry (cause : StoreError)
  | load (message : String)
  | node (cause : NodeError)

/-- Materializing and compiling mappings, which reads the disk and may fail at
one time and not at another: those of deployments, and that of the directory
configured for the fallback subgraph. -/
structure Loader (configured : SubgraphId) where
  deployed : (deployment : SubgraphDeployment) →
    Except String { loaded : LoadedMapping // loaded.subgraph = deployment.subgraph }
  directory : Except String (Option { loaded : LoadedMapping // loaded.subgraph = configured })

/-- A mapping for a subgraph, or none. -/
abbrev MappingOf (subgraph : SubgraphId) :=
  Option { loaded : LoadedMapping // loaded.subgraph = subgraph }

section Building

variable (env : Environment δ) (loader : Loader env.configured) (backend : Backend δ)

/-- The mapping of a deployment, or none for one without wasm bytes. -/
def loadDeploymentMapping (deployment : SubgraphDeployment) :
    Except StartError (MappingOf deployment.subgraph) :=
  match deployment.wasmBytes with
  | none => .ok none
  | some _ =>
      match loader.deployed deployment with
      | .ok loaded => .ok (some loaded)
      | .error message => .error (.load message)

/-- A runtime re-anchored at the latest checkpoint of its subgraph. It only reads
the store. -/
def makeRuntime (subgraph : SubgraphId) (mapping : MappingOf subgraph) :
    Except StartError (SubgraphRuntime δ) :=
  (run exec (makeSubgraphRuntime env.indexer subgraph (mapping.map (·.1))
    (fun loaded same => by
      obtain ⟨owned, -, rfl⟩ := Option.map_eq_some_iff.mp same
      exact owned.2) env.finalityDepth) backend).1.mapError .node

def buildDeployment (deployment : SubgraphDeployment) : Except StartError (SubgraphRuntime δ) := do
  let mapping ← loadDeploymentMapping env loader deployment
  makeRuntime env backend deployment.subgraph mapping

/-- The runtimes of all deployments, or the configured one when there are none. -/
def buildSubgraphRuntimes (registry : Registry) : Except StartError (List (SubgraphRuntime δ)) := do
  let deployments ← registry.listSubgraphDeployments.mapError .registry
  if deployments.isEmpty then
    let mapping ← loader.directory.mapError .load
    let runtime ← makeRuntime env backend env.configured mapping
    return [runtime]
  else
    deployments.mapM (buildDeployment env loader backend)

structure ReloadDelta where
  added : Nat
  removed : Nat
  deriving DecidableEq, Repr

/-- Follow the registry: runtimes of new deployments are built first, then those
of removed ones are dropped. An empty registry changes nothing. -/
def reconcileSubgraphRuntimes (registry : Registry) (runtimes : List (SubgraphRuntime δ)) :
    Except StartError (ReloadDelta × List (SubgraphRuntime δ)) := do
  let deployments ← registry.listSubgraphDeployments.mapError .registry
  if deployments.isEmpty then
    return (⟨0, 0⟩, runtimes)
  else
    let existing := runtimes.map (·.subgraph.schemaName)
    let desired := deployments.map (·.subgraph.schemaName)
    let added ← (deployments.filter fun deployment =>
      !existing.contains deployment.subgraph.schemaName).mapM (buildDeployment env loader backend)
    let kept := runtimes.filter fun runtime => desired.contains runtime.subgraph.schemaName
    return (⟨added.length, runtimes.length - kept.length⟩, kept ++ added)

end Building

/-- Hand a notification to every runtime, in order. The first failure stops the
others. The outcome of the first runtime stands for all. -/
def fanOutNotification (indexer : Indexer δ) (runtimes : List (SubgraphRuntime δ))
    (notification : ChainNotification) :
    NodeProgram δ (Option NotificationOutcome × List (SubgraphRuntime δ)) := do
  let outcomes ← runtimes.mapM (·.notify indexer notification)
  return (outcomes.head?.map Prod.fst, outcomes.map Prod.snd)

/-! ## Runs of the node -/

/-- The registry and the backend outlive the process; `live` is the live set of a
running one. -/
structure Node (δ : Type) where
  registry : Registry
  backend : Backend δ
  live : Option (List (SubgraphRuntime δ))

/-- What can happen to a node. Deployments and removals come from outside. -/
inductive NodeEvent (configured : SubgraphId) where
  | startup (loader : Loader configured)
  | deploy (name : String) (row : RegistryRow)
  | remove (name : String)
  | reload (loader : Loader configured)
  | notify (notification : ChainNotification)

namespace Node

variable (env : Environment δ)

/-- Start the process: create the schema of the configured subgraph, attach a new
hub, and build the live set. -/
def startup (node : Node δ) (loader : Loader env.configured) : Node δ :=
  let backend : Backend δ :=
    { store := node.backend.store.ensureSubgraphSchema env.configured, published := [] }
  match buildSubgraphRuntimes env loader backend node.registry with
  | .ok runtimes => { node with backend, live := some runtimes }
  | .error _ => { node with backend, live := none }

/-- A reload that fails keeps the current set. -/
def reload (node : Node δ) (loader : Loader env.configured) : Node δ :=
  match node.live with
  | none => node
  | some runtimes =>
      match reconcileSubgraphRuntimes env loader node.backend node.registry runtimes with
      | .ok (_, runtimes) => { node with live := some runtimes }
      | .error _ => node

/-- A notification that fails for one runtime ends the process. -/
def notify (node : Node δ) (notification : ChainNotification) : Node δ :=
  match node.live with
  | none => node
  | some runtimes =>
      match run exec (fanOutNotification env.indexer runtimes notification) node.backend with
      | (.ok (some _, runtimes), backend) => { node with backend, live := some runtimes }
      | (.ok (none, _), backend) => { node with backend, live := none }
      | (.error _, backend) => { node with backend, live := none }

def step (node : Node δ) : NodeEvent env.configured → Node δ
  | .startup loader => node.startup env loader
  | .deploy name row => { node with registry := node.registry.upsertSubgraphDeployment name row }
  | .remove name => { node with registry := node.registry.setSubgraphRemoved name }
  | .reload loader => node.reload env loader
  | .notify notification => node.notify env notification

def runEach (node : Node δ) (events : List (NodeEvent env.configured)) : Node δ :=
  events.foldl (step env) node

/-- A node that is not running. -/
def stopped (registry : Registry) (backend : Backend δ) : Node δ := ⟨registry, backend, none⟩

end Node

/-! ## A node for "demo" -/

/-- A node configured for "demo". -/
def demoEnvironment : Environment (List (List UInt8)) where
  toolkit := htlcIndexer.toolkit
  hasher := freeHasher
  configured := demoSubgraph
  finalityDepth := none

/-- Every mapping loads and binds no handler. -/
def silentLoader : Loader demoEnvironment.configured where
  deployed deployment := .ok ⟨{ silentMapping with subgraph := deployment.subgraph }, rfl⟩
  directory := .ok none

end KasGraph
