import KasGraph.FileSystem
import KasGraph.LiveSet

set_option autoImplicit false

/-! From a deploy bundle to a mapping on disk. The endpoint checks the bundle and stores it; the
node writes the stored manifest, the wasm the manifest names and the schema below its work
directory, and loads the mapping from there. -/

namespace KasGraph

open EffectProgram FileSystem
open Json (Value)

/-! ## The deploy endpoint -/

/-- `Buffer.from(text, 'base64')` and the hex of a SHA-256. -/
structure BundleCodec where
  fromBase64 : String → List UInt8
  sha256Hex : List UInt8 → String

structure DeploySubgraphInput where
  subgraphId : String
  schemaSdl : String
  manifestJson : Value
  wasmSha256 : Option String
  wasmBase64 : Option String

/-- A field that must be a string when it is there. -/
def optionalString (bundle : Value) (field message : String) : Except String (Option String) :=
  match bundle.get? field with
  | none => .ok none
  | some (.string text) => .ok (some text)
  | some _ => .error message

/-- Check a posted bundle; the error is the first problem. The manifest may be anything but
null. -/
def parseDeployBundle (codec : BundleCodec) (raw : Value) : Except String DeploySubgraphInput := do
  let .object _ := raw | .error "deploy bundle must be a JSON object"
  let some (.string subgraphId) := raw.get? "subgraphId"
    | .error "subgraphId must match ^[a-z0-9_]+$"
  if !allowedSchemaName subgraphId then
    .error "subgraphId must match ^[a-z0-9_]+$"
  let some (.string schemaSdl) := raw.get? "schemaSdl" | .error "schemaSdl is required"
  if schemaSdl.isEmpty then
    .error "schemaSdl is required"
  let some manifestJson := raw.get? "manifestJson" | .error "manifestJson is required"
  if manifestJson == .null then
    .error "manifestJson is required"
  let wasmSha256 ← optionalString raw "wasmSha256" "wasmSha256 must be a string when present"
  let wasmBase64 ← optionalString raw "wasmBase64" "wasmBase64 must be a string when present"
  match wasmBase64, wasmSha256 with
  | some wasmBase64, some declared =>
      let actual := codec.sha256Hex (codec.fromBase64 wasmBase64)
      if actual != declared then
        .error ("wasm sha256 mismatch: bundle declares " ++ declared ++ ", bytes hash to " ++
          actual)
  | _, _ => .ok ()
  return { subgraphId, schemaSdl, manifestJson, wasmSha256, wasmBase64 }

/-- The row that an accepted bundle is stored as. -/
def DeploySubgraphInput.row (codec : BundleCodec) (input : DeploySubgraphInput) : RegistryRow where
  schemaSdl := input.schemaSdl
  manifestJson := input.manifestJson
  wasmSha256 := input.wasmSha256
  wasmBytes := input.wasmBase64.map codec.fromBase64
  removed := false

/-- The deployment came in as a bundle that the endpoint accepted. -/
def SubgraphDeployment.Accepted (codec : BundleCodec) (deployment : SubgraphDeployment) : Prop :=
  ∃ raw input, parseDeployBundle codec raw = .ok input ∧
    Registry.deploymentOf input.subgraphId (input.row codec) = .ok deployment

/-- The endpoint looks at no field of the manifest: it accepts any but null, with a schema that is
not empty. -/
theorem SubgraphDeployment.accepted_of_carried (codec : BundleCodec) (text : String)
    {deployment : SubgraphDeployment}
    (carried : deployment.wasmBytes = some (codec.fromBase64 text))
    (undeclared : deployment.wasmSha256 = none) (schema : deployment.schemaSdl.isEmpty = false)
    (manifest : deployment.manifestJson ≠ .null) : deployment.Accepted codec := by
  obtain ⟨⟨name, valid⟩, schemaSdl, manifestJson, wasmSha256, wasmBytes⟩ := deployment
  simp only at carried undeclared schema manifest
  subst carried undeclared
  refine ⟨.object [("manifestJson", manifestJson), ("schemaSdl", .string schemaSdl),
    ("subgraphId", .string name), ("wasmBase64", .string text)],
    ⟨name, schemaSdl, manifestJson, none, some text⟩, ?_, ?_⟩
  · have present : (manifestJson == .null) = false := beq_false_of_ne manifest
    unfold parseDeployBundle
    simp [Value.get?, List.lookup, valid, schema, present, optionalString, bind, Except.bind, pure,
      Except.pure]
  · unfold Registry.deploymentOf SubgraphId.new
    simp only [dif_pos valid]
    rfl

/-! ## Materializing -/

/-- `serde_json` and the wasm runtime: the text a manifest is written as, the descriptor that
bytes spell, if they do, and the mapping that bytes compile to. -/
structure MappingCodec where
  toVecPretty : Value → List UInt8
  descriptorOf : List UInt8 → Option BuildDescriptor
  fromWasm : List UInt8 → Except MappingError MappingRuntime

inductive MaterializeError where
  | message (text : String)
  | createDir (path : Path)
  | write (path : Path)
  | manifestNotFound (path : Path)
  | manifestRead (path : Path)
  | manifestParse (path : Path)
  | readWasm (path : Path)
  | compile (path : Path) (source : MappingError)

abbrev FileProgram (α : Type) := Program FileSystem.signature MaterializeError α

/-- The meaning of the requests, on a machine. -/
abbrev onDisk : Semantics FileSystem.signature MaterializeError Machine := FileSystem.exec

/-- Make a request that answers whether it went through. -/
def createDirAll (path : Path) : FileProgram Unit := do
  let made : Bool ← request (.createDirAll path)
  if made then return () else .fail (.createDir path)

def writeFile (path : Path) (contents : List UInt8) : FileProgram Unit := do
  let written : Bool ← request (.write path contents)
  if written then return () else .fail (.write path)

/-- `value.get("wasm").and_then(|v| v.as_str())`. -/
def wasmField (manifest : Value) : Option String :=
  (manifest.get? "wasm").bind Value.asStr?

/-- The paths below the base. -/
def subgraphDir (base : Path) (subgraph : SubgraphId) : Path :=
  join base subgraph.schemaName.toList

def buildDir (dir : Path) : Path :=
  join dir "build".toList

def manifestPath (dir : Path) : Path :=
  join (buildDir dir) "manifest.json".toList

def schemaPath (dir : Path) : Path :=
  join dir "schema.graphql".toList

/-- The path of a wasm, given the name that a manifest has for it. -/
def wasmPath (dir : Path) (wasm : String) : Path :=
  join (buildDir dir) wasm.toList

/-- Write a deployment out to `<base>/<id>`, and answer that directory. -/
def materializeSubgraphDir (codec : MappingCodec) (deployment : SubgraphDeployment) (base : Path) :
    FileProgram Path :=
  match wasmField deployment.manifestJson with
  | none => .fail (.message "deployed manifest has no `wasm` field")
  | some wasmName =>
      match deployment.wasmBytes with
      | none => .fail (.message "deployment carries no wasm bytes to materialize")
      | some wasmBytes => do
          let dir := subgraphDir base deployment.subgraph
          createDirAll (buildDir dir)
          writeFile (manifestPath dir) (codec.toVecPretty deployment.manifestJson)
          writeFile (wasmPath dir wasmName) wasmBytes
          writeFile (schemaPath dir) deployment.schemaSdl.toUTF8.toList
          return dir

/-- Load the descriptor below a subgraph's directory. -/
def BuildDescriptor.load (codec : MappingCodec) (dir : Path) : FileProgram BuildDescriptor := do
  let path := manifestPath dir
  let there : Bool ← request (.exist path)
  if there then
    let json : Option (List UInt8) ← request (.read path)
    match json with
    | none => .fail (.manifestRead path)
    | some json =>
        match codec.descriptorOf json with
        | none => .fail (.manifestParse path)
        | some descriptor => return descriptor
  else
    .fail (.manifestNotFound path)

/-- Compile the wasm read at a path. -/
def compileMapping (codec : MappingCodec) (subgraph : SubgraphId) (descriptor : BuildDescriptor)
    (path : Path) : Option (List UInt8) → FileProgram LoadedMapping
  | none => .fail (.readWasm path)
  | some bytes =>
      match codec.fromWasm bytes with
      | .error source => .fail (.compile path source)
      | .ok runtime => return { subgraph, descriptor, runtime }

/-- Load the descriptor and the wasm it names, and compile it. -/
def LoadedMapping.load (codec : MappingCodec) (subgraph : SubgraphId) (dir : Path) :
    FileProgram LoadedMapping := do
  let descriptor ← BuildDescriptor.load codec dir
  let path := wasmPath dir descriptor.wasm
  let bytes : Option (List UInt8) ← request (.read path)
  compileMapping codec subgraph descriptor path bytes

/-- Materialize a deployment and load its mapping; one without wasm bytes has none. -/
def loadMaterialized (codec : MappingCodec) (deployment : SubgraphDeployment) (base : Path) :
    FileProgram (Option LoadedMapping) :=
  match deployment.wasmBytes with
  | none => return none
  | some _ => do
      let dir ← materializeSubgraphDir codec deployment base
      let loaded ← LoadedMapping.load codec deployment.subgraph dir
      return some loaded

end KasGraph
