import KasGraph.Base64
import KasGraph.GatewayServer

set_option autoImplicit false

/-! The deploy, status and remove commands. Each works on a client of the registry: one queries
the registry itself, the other asks the server of a hosted node. -/

namespace KasGraph

open Json (Value)
open LossyText (fromUtf8Lossy)

/-! ## The bundle -/

/-- `JSON.parse` and `JSON.stringify`. -/
structure JsonText where
  parse : String → Except String Value
  stringify : Value → String

structure DeployBundle where
  subgraphId : String
  schemaSdl : String
  manifestJson : Value
  wasmSha256 : String
  wasmBase64 : String

def DeployBundle.toJson (bundle : DeployBundle) : Value :=
  .object [("manifestJson", bundle.manifestJson), ("schemaSdl", .string bundle.schemaSdl),
    ("subgraphId", .string bundle.subgraphId), ("wasmBase64", .string bundle.wasmBase64),
    ("wasmSha256", .string bundle.wasmSha256)]

def isIdChar (c : Char) : Bool := c.isLower || c.isDigit || c == '_'

/-- `replace(/[^a-z0-9_]+/g, '_')`: a run of other characters is one underscore. -/
def underscored (inRun : Bool) : List Char → List Char
  | [] => []
  | c :: rest =>
      if isIdChar c then c :: underscored false rest
      else if inRun then underscored true rest
      else '_' :: underscored true rest

/-- A text without a character at its ends. -/
def trimEnds (mark : Char) (text : List Char) : List Char :=
  ((text.dropWhile (· == mark)).reverse.dropWhile (· == mark)).reverse

/-- The id of a name that is already trimmed and in lower case. -/
def subgraphIdFromLower (name : String) : Option String :=
  let id := String.ofList (trimEnds '_' (underscored false name.toList))
  if allowedSchemaName id then some id else none

/-- What is found at a path. -/
inductive Entry where
  | missing
  | unreadable (message : String)
  | file (contents : List UInt8)

/-- The directory of a subgraph: `path.join` of its root and names below it, and what is there. -/
structure Project where
  join : List String → String
  entry : String → Entry

/-- Why there is no bundle: an error that is reported with an exit code, or one that is thrown. -/
inductive AssembleError where
  | reported (error : String) (code : Nat)
  | thrown (message : String)

/-- What the commands and the server take from JavaScript. -/
structure JsToolkit where
  bundles : BundleCodec
  json : JsonText
  /-- `name.trim().toLowerCase()`. -/
  lowered : String → String

def subgraphIdFromName (toolkit : JsToolkit) (name : String) : Option String :=
  subgraphIdFromLower (toolkit.lowered name)

/-- A field, or the empty text when it is no string. -/
def textField (value : Value) (field : String) : String :=
  ((value.get? field).bind Value.asStr?).getD ""

def Project.readDescriptor (project : Project) (json : JsonText) :
    Except AssembleError Value :=
  let path := project.join ["build", "manifest.json"]
  let unparsed (message : String) : AssembleError :=
    .reported ("failed to parse " ++ path ++ ": " ++ message) 65
  match project.entry path with
  | .missing => .error (.reported (path ++ " not found — run `kasgraph build` first") 66)
  | .unreadable message => .error (unparsed message)
  | .file contents => (json.parse (fromUtf8Lossy contents)).mapError unparsed

/-- Read a file that must be there. -/
def Project.read (project : Project) (path hint : String) : Except AssembleError (List UInt8) :=
  match project.entry path with
  | .missing => .error (.reported (path ++ " not found" ++ hint) 66)
  | .unreadable message => .error (.thrown message)
  | .file contents => .ok contents

def assembleDeployBundle (toolkit : JsToolkit) (project : Project) :
    Except AssembleError DeployBundle := do
  let descriptor ← project.readDescriptor toolkit.json
  if descriptor = .null then
    .error (.thrown "Cannot read properties of null (reading 'name')")
  let name := textField descriptor "name"
  let some subgraphId := subgraphIdFromName toolkit name
    | .error (.reported ("manifest name " ++ toolkit.json.stringify (.string name) ++
        " has no valid subgraph id (need [a-z0-9_])") 65)
  let wasmName := textField descriptor "wasm"
  if wasmName.isEmpty then
    .error (.reported (project.join ["build", "manifest.json"] ++ " has no `wasm` field") 65)
  let wasmBytes ← project.read (project.join ["build", wasmName]) " — run `kasgraph build` first"
  let schemaBytes ← project.read (project.join ["schema.graphql"]) ""
  return {
    subgraphId
    schemaSdl := fromUtf8Lossy schemaBytes
    manifestJson := descriptor
    wasmSha256 := toolkit.bundles.sha256Hex wasmBytes
    wasmBase64 := Base64.encode wasmBytes }

/-! ## Clients of the registry -/

structure DeployedStatus where
  subgraphId : String
  status : String
  deployedAt : String
  wasmSha256 : Option String

/-- What the commands ask of the registry, over a state that answers. -/
structure SubgraphRegistryClient (σ : Type) where
  upsertDeployment : DeployBundle → σ → Except String Unit × σ
  setRemoved : String → σ → Except String Bool × σ
  fetchStatus : String → σ → Except String (Option DeployedStatus) × σ

def DeployBundle.row (bundles : BundleCodec) (bundle : DeployBundle) : RegistryRow where
  schemaSdl := bundle.schemaSdl
  manifestJson := bundle.manifestJson
  wasmSha256 := some bundle.wasmSha256
  wasmBytes := some (bundles.fromBase64 bundle.wasmBase64)
  removed := false

/-- A query on the registry behind a server. -/
def Gateway.ask {α : Type} (refused : Option String) (gateway : Gateway)
    (answer : Registry → α × Registry) : Except String α × Gateway :=
  let (result, registry) := KasGraph.query refused gateway.registry answer
  (result, { gateway with registry })

/-- The registry itself; `deployedAt` reads a column that nothing else does. -/
def PgSubgraphRegistry (bundles : BundleCodec) (deployedAt : String → String)
    (refused : Option String) : SubgraphRegistryClient Gateway where
  upsertDeployment bundle gateway :=
    gateway.ask refused fun registry =>
      ((), registry.upsertSubgraphDeployment bundle.subgraphId (bundle.row bundles))
  setRemoved subgraphId gateway :=
    gateway.ask refused fun registry => removeSubgraph registry subgraphId
  fetchStatus subgraphId gateway :=
    gateway.ask refused fun registry =>
      (registry[subgraphId]?.map fun row =>
        { subgraphId
          status := if row.removed then "removed" else "active"
          deployedAt := deployedAt subgraphId
          wasmSha256 := row.wasmSha256 }, registry)

structure FetchInit where
  method : String
  headers : List (String × String)
  body : Option String

structure FetchResponse where
  status : Nat
  json : Except String Value

abbrev FetchLike (σ : Type) := String → FetchInit → σ → Except String FetchResponse × σ

namespace HttpDeployTransport

/-- `baseUrl.replace(/\/+$/, '')`. -/
def trimmedBase (baseUrl : String) : String :=
  String.ofList (baseUrl.toList.reverse.dropWhile (· == '/')).reverse

def url (baseUrl suffix : String) : String := trimmedBase baseUrl ++ "/subgraphs" ++ suffix

def bodyMessage (response : FetchResponse) : String :=
  match response.json with
  | .ok body => ((body.get? "error").bind Value.asStr?).getD "unknown error"
  | .error _ => "unknown error"

/-- The answer to a request; one that is not a success is an error. -/
def succeeded {α : Type} (response : FetchResponse) (value : Except String α) : Except String α :=
  if response.status < 200 ∨ 300 ≤ response.status then
    .error ("node responded " ++ toString response.status ++ ": " ++ bodyMessage response)
  else value

/-- `await` a response and read it. -/
def answered {σ α : Type} (outcome : Except String FetchResponse × σ)
    (read : FetchResponse → Except String α) : Except String α × σ :=
  (outcome.1.bind read, outcome.2)

end HttpDeployTransport

open HttpDeployTransport in
/-- The server of a hosted node. -/
def HttpDeployTransport {σ : Type} (json : JsonText) (baseUrl : String)
    (fetchImpl : FetchLike σ) : SubgraphRegistryClient σ where
  upsertDeployment bundle state :=
    answered (fetchImpl (url baseUrl "") ⟨"POST", [("content-type", "application/json")],
        some (json.stringify bundle.toJson)⟩ state) fun response =>
      succeeded response (.ok ())
  setRemoved subgraphId state :=
    answered (fetchImpl (url baseUrl ("/" ++ subgraphId)) ⟨"DELETE", [], none⟩ state)
      fun response =>
        if response.status = 404 then .ok false else succeeded response (.ok true)
  fetchStatus subgraphId state :=
    answered (fetchImpl (url baseUrl ("/" ++ subgraphId)) ⟨"GET", [], none⟩ state)
      fun response =>
        if response.status = 404 then .ok none
        else succeeded response <| response.json.map fun body =>
          some {
            subgraphId := ((body.get? "subgraphId").bind Value.asStr?).getD subgraphId
            status := "active"
            deployedAt := ""
            wasmSha256 := (body.get? "wasmSha256").bind Value.asStr? }

/-! ## The commands -/

/-- `args[args.indexOf(flag) + 1]`, or the variable. -/
def resolveFlag (flag : String) (args : List String) (fallback : Option String) :
    Option String :=
  match args.dropWhile (· != flag) with
  | _ :: value :: _ => some value
  | _ => fallback

def resolveNodeUrl : List String → Option String → Option String := resolveFlag "--node"

def resolveDatabaseUrl : List String → Option String → Option String :=
  resolveFlag "--database-url"

/-- Where the commands run: the variables, and the clients for a url. -/
structure CliEnvironment (σ : Type) where
  nodeUrl : Option String
  databaseUrl : Option String
  hosted : String → SubgraphRegistryClient σ
  direct : String → SubgraphRegistryClient σ

/-- The client for the arguments; a hosted node is preferred. -/
def defaultClientFactory {σ : Type} (env : CliEnvironment σ) (args : List String) :
    Except String (SubgraphRegistryClient σ) :=
  match (resolveNodeUrl args env.nodeUrl).filter (!·.isEmpty) with
  | some nodeUrl => .ok (env.hosted nodeUrl)
  | none =>
      match (resolveDatabaseUrl args env.databaseUrl).filter (!·.isEmpty) with
      | some url => .ok (env.direct url)
      | none => .error ("kasgraph: no target — pass `--node <url>` (hosted) or `--database-url " ++
          "<url>` (direct), or set KASGRAPH_NODE_URL / DATABASE_URL\n")

def nonFlagArg (args : List String) : Option String :=
  args.find? fun arg => !arg.startsWith "--"

structure CommandResult where
  code : Nat
  stdout : String
  stderr : String
  deriving DecidableEq

def CommandResult.failed (code : Nat) (stderr : String) : CommandResult := ⟨code, "", stderr⟩

def CommandResult.done (stdout : String) : CommandResult := ⟨0, stdout, ""⟩

/-- A command that throws ends in the handler of the program. -/
def CommandResult.thrown (message : String) : CommandResult :=
  .failed 70 ("kasgraph: unexpected error\n" ++ message ++ "\n")

section Commands

variable {σ : Type}

/-- Answer for what a client said. -/
def reported {α : Type} (outcome : Except String α × σ) (failure : String)
    (result : α → CommandResult) : CommandResult × σ :=
  match outcome with
  | (.error message, state) => (.failed 70 (failure ++ message ++ "\n"), state)
  | (.ok value, state) => (result value, state)

def runDeploy (toolkit : JsToolkit) (project : Project)
    (makeClient : Except String (SubgraphRegistryClient σ)) (state : σ) : CommandResult × σ :=
  match assembleDeployBundle toolkit project with
  | .error (.reported error code) => (.failed code ("kasgraph deploy: " ++ error ++ "\n"), state)
  | .error (.thrown message) => (.thrown message, state)
  | .ok bundle =>
      match makeClient with
      | .error message => (.failed 78 message, state)
      | .ok client =>
          reported (client.upsertDeployment bundle state)
            "kasgraph deploy: registry write failed: " fun _ =>
              .done ("deployed `" ++ bundle.subgraphId ++ "` (wasm sha256 " ++
                String.ofList (bundle.wasmSha256.toList.take 12) ++ "…)\n")

def runStatus (args : List String) (makeClient : Except String (SubgraphRegistryClient σ))
    (state : σ) : CommandResult × σ :=
  match nonFlagArg args with
  | none => (.failed 64 "kasgraph status: usage: kasgraph status <subgraph>\n", state)
  | some subgraphId =>
      match makeClient with
      | .error message => (.failed 78 message, state)
      | .ok client =>
          reported (client.fetchStatus subgraphId state)
            "kasgraph status: registry read failed: " fun status =>
              match status with
              | none =>
                  .failed 1 ("kasgraph status: `" ++ subgraphId ++ "` is not deployed\n")
              | some status =>
                  .done (status.subgraphId ++ ": " ++ status.status ++ " (deployed " ++
                    status.deployedAt ++ ")\n")

def runRemove (args : List String) (makeClient : Except String (SubgraphRegistryClient σ))
    (state : σ) : CommandResult × σ :=
  match nonFlagArg args with
  | none => (.failed 64 "kasgraph remove: usage: kasgraph remove <subgraph>\n", state)
  | some subgraphId =>
      match makeClient with
      | .error message => (.failed 78 message, state)
      | .ok client =>
          reported (client.setRemoved subgraphId state)
            "kasgraph remove: registry write failed: " fun removed =>
              if removed then .done ("removed `" ++ subgraphId ++ "`\n")
              else .failed 1 ("kasgraph remove: `" ++ subgraphId ++ "` is not deployed\n")

end Commands

/-! ## A hosted node -/

/-- Where the requests of a command come from, and when. -/
structure Sender where
  remoteAddress : Option String
  now : Nat

def Sender.request (sender : Sender) (init : FetchInit) (url : String) : HttpRequest where
  remoteAddress := sender.remoteAddress
  now := sender.now
  method := init.method
  url
  origin := none
  authorization := init.headers.lookup "authorization"
  body := (init.body.getD "").toUTF8.toList

/-- The server of a node under a url, with the answers of the handlers beside the endpoint. -/
structure HostedNode where
  toolkit : JsToolkit
  options : GatewayOptions
  site : String
  elsewhere : Target → String → FetchResponse

namespace HostedNode

variable (node : HostedNode)

def parse (text : String) : Option Value := (node.toolkit.json.parse text).toOption

/-- A request is answered before the next thing happens. -/
def exchange (refused : Option String) (request : HttpRequest) (gateway : Gateway) :
    Option Reply × Gateway :=
  let arrived := gateway.arrive node.options request
  let finished :=
    if gateway.waiting.length < arrived.waiting.length then
      arrived.finish node.toolkit.bundles node.parse node.options gateway.waiting.length refused
    else arrived
  (finished.answered.getLast?.map Prod.snd, finished)

def sent (status : Nat) (body : Value) : FetchResponse :=
  ⟨status, node.toolkit.json.parse (node.toolkit.json.stringify body)⟩

def response (reply : Option Reply) : Except String FetchResponse :=
  match reply with
  | some (.sent status (some body)) => .ok (node.sent status body)
  | some (.sent status none) => .ok ⟨status, node.toolkit.json.parse ""⟩
  | some (.delegated target url) => .ok (node.elsewhere target url)
  | none => .error "fetch failed"

/-- `fetch`, where only this server is there. -/
def fetch (sender : Sender) (refused : Option String) : FetchLike Gateway :=
  fun url init gateway =>
    if node.site.toList.isPrefixOf url.toList then
      let target := String.ofList (url.toList.drop node.site.toList.length)
      let (reply, gateway) := node.exchange refused (sender.request init target) gateway
      (node.response reply, gateway)
    else (.error "fetch failed", gateway)

end HostedNode

/-! ## Sessions -/

inductive DeployCommand where
  | deploy (project : Project)
  | status
  | remove

/-- One run of the program: its arguments and variables, and what the pool makes of its query. -/
structure Invocation where
  command : DeployCommand
  args : List String
  nodeUrl : Option String
  databaseUrl : Option String
  sender : Sender
  refused : Option String

section Sessions

variable (node : HostedNode) (deployedAt : String → String)

def Invocation.environment (invocation : Invocation) : CliEnvironment Gateway where
  nodeUrl := invocation.nodeUrl
  databaseUrl := invocation.databaseUrl
  hosted url :=
    HttpDeployTransport node.toolkit.json url (node.fetch invocation.sender invocation.refused)
  direct _ := PgSubgraphRegistry node.toolkit.bundles deployedAt invocation.refused

def Invocation.run (invocation : Invocation) (gateway : Gateway) : CommandResult × Gateway :=
  let makeClient :=
    defaultClientFactory (invocation.environment node deployedAt) invocation.args
  match invocation.command with
  | .deploy project => runDeploy node.toolkit project makeClient gateway
  | .status => runStatus invocation.args makeClient gateway
  | .remove => runRemove invocation.args makeClient gateway

/-- Commands are run while the server has other things to do. -/
inductive SessionStep where
  | command (invocation : Invocation)
  | server (event : GatewayEvent)

/-- A command that was run, the registry that it found, and how it ended. -/
structure Ran where
  invocation : Invocation
  registry : Registry
  result : CommandResult

def runSession (gateway : Gateway) : List SessionStep → List Ran × Gateway
  | [] => ([], gateway)
  | .server event :: rest =>
      runSession (gateway.step node.toolkit.bundles node.parse node.options event) rest
  | .command invocation :: rest =>
      let (result, after) := invocation.run node deployedAt gateway
      let (ran, final) := runSession after rest
      (⟨invocation, gateway.registry, result⟩ :: ran, final)

theorem runSession_command (gateway : Gateway) (invocation : Invocation)
    (rest : List SessionStep) :
    runSession node deployedAt gateway (.command invocation :: rest) =
      (⟨invocation, gateway.registry, (invocation.run node deployedAt gateway).1⟩ ::
          (runSession node deployedAt (invocation.run node deployedAt gateway).2 rest).1,
        (runSession node deployedAt (invocation.run node deployedAt gateway).2 rest).2) :=
  rfl

end Sessions

end KasGraph
