import KasGraph.DeployCommands
import KasGraph.GatewayRuns

set_option autoImplicit false

/-! The two clients of the registry compared. A server without a token and without a limit does for
a command what the command would do on the registry itself. -/

namespace KasGraph

open FileSystem (pieces pieces_append pieces_of_plain)
open Json (Value)
open LossyText (fromUtf8Lossy_toUTF8)

/-! ## The paths of the endpoint -/

theorem not_mem_of_allowed {id : String} (valid : allowedSchemaName id = true) {c : Char}
    (refused : isIdChar c = false) : c ∉ id.toList := by
  unfold allowedSchemaName at valid
  rw [Bool.and_eq_true, List.all_eq_true] at valid
  intro listed
  have allowed : isIdChar c = true := valid.2 c listed
  rw [refused] at allowed
  cases allowed

theorem toList_ne_nil_of_allowed {id : String} (valid : allowedSchemaName id = true) :
    id.toList ≠ [] := by
  intro empty
  rw [String.toList_eq_nil_iff.mp empty] at valid
  cases valid

/-- The paths that the commands ask for: the endpoint, or a subgraph below it. -/
def endpointPath : Option String → String
  | none => "/subgraphs"
  | some id => "/subgraphs/" ++ id

theorem pathSegments_subgraph {id : String} (valid : allowedSchemaName id = true) :
    pathSegments ("/subgraphs/" ++ id) = ["subgraphs".toList, id.toList] := by
  have slashless := not_mem_of_allowed valid (by decide : isIdChar '/' = false)
  have front : ("/subgraphs/" ++ id).toList.dropWhile (· == '/') =
      "subgraphs".toList ++ '/' :: id.toList := by
    simp
  have back : ("subgraphs".toList ++ '/' :: id.toList).reverse.dropWhile (· == '/') =
      ("subgraphs".toList ++ '/' :: id.toList).reverse := by
    apply List.dropWhile_eq_self_iff.mpr
    intro nonempty first
    have last : (id.toList.reverse).head? = some '/' := by
      have reversed : id.toList.reverse ≠ [] := by
        simpa using toList_ne_nil_of_allowed valid
      cases held : id.toList.reverse with
      | nil => exact absurd held reversed
      | cons c rest =>
          simp [held] at first
          simp [first]
    have listed := List.mem_of_head? last
    exact slashless (List.mem_reverse.mp listed)
  unfold pathSegments
  rw [front, back, List.reverse_reverse, pieces_append, pieces_of_plain slashless,
    pieces_of_plain (by decide)]
  rfl

theorem pathname_endpoint {id : Option String} (valid : ∀ name ∈ id, allowedSchemaName name) :
    Gateway.pathname (endpointPath id) = endpointPath id := by
  have plain : '?' ∉ (endpointPath id).toList := by
    cases id with
    | none => decide
    | some id =>
        have absent := not_mem_of_allowed (valid id rfl) (by decide : isIdChar '?' = false)
        simp [endpointPath, absent]
  unfold Gateway.pathname
  have whole : (endpointPath id).toList.takeWhile (· != '?') = (endpointPath id).toList := by
    apply List.takeWhile_eq_self_iff.mpr
    intro c listed
    simp only [bne_iff_ne, ne_eq]
    rintro rfl
    exact plain listed
  rw [whole, String.ofList_toList]

theorem routeOf_endpoint (id : Option String) : routeOf (endpointPath id) = none := by
  unfold routeOf endpointPath
  cases id with
  | none => simp
  | some id => simp [String.ext_iff]

/-! ## What the endpoint answers -/

/-- The text of a value reads back. -/
def JsonText.Keeps (json : JsonText) (value : Value) : Prop :=
  json.parse (json.stringify value) = .ok value

/-- The endpoint takes the bundle unless its schema is empty. -/
structure DeployBundle.Sound (bundles : BundleCodec) (bundle : DeployBundle) : Prop where
  id : allowedSchemaName bundle.subgraphId = true
  manifest : bundle.manifestJson ≠ .null
  hash : bundles.sha256Hex (bundles.fromBase64 bundle.wasmBase64) = bundle.wasmSha256

theorem parseDeployBundle_toJson {bundles : BundleCodec} {bundle : DeployBundle}
    (sound : bundle.Sound bundles) :
    parseDeployBundle bundles bundle.toJson =
      if bundle.schemaSdl.isEmpty then .error "schemaSdl is required"
      else .ok {
        subgraphId := bundle.subgraphId
        schemaSdl := bundle.schemaSdl
        manifestJson := bundle.manifestJson
        wasmSha256 := some bundle.wasmSha256
        wasmBase64 := some bundle.wasmBase64 } := by
  have present : (bundle.manifestJson == .null) = false := beq_false_of_ne sound.manifest
  unfold parseDeployBundle DeployBundle.toJson
  cases empty : bundle.schemaSdl.isEmpty with
  | true =>
      simp [Value.get?, List.lookup, sound.id, empty, bind, Except.bind]
  | false =>
      simp [Value.get?, List.lookup, sound.id, empty, present, sound.hash, optionalString, bind,
        Except.bind, pure, Except.pure]

section Served

variable {node : HostedNode} {request : HttpRequest} {refused : Option String}

theorem readBody_of_text {text : String} (body : request.body = text.toUTF8.toList)
    {value : Value} (nonempty : text ≠ "") (parsed : node.parse text = some value) :
    Gateway.readBody node.parse request = .ok (some value) := by
  have written : text.isEmpty = false := by simpa using nonempty
  unfold Gateway.readBody
  simp only [body, fromUtf8Lossy_toUTF8, written, parsed, Bool.false_eq_true, if_false]

theorem readBody_of_empty (body : request.body = []) :
    Gateway.readBody node.parse request = .ok none := by
  unfold Gateway.readBody
  rw [body]
  rfl

/-- The answer to a query that the pool may refuse. -/
def answerOf (refused : Option String) (registry : Registry)
    (answer : Registry → DeployResponse × Registry) : Reply × Registry :=
  match query refused registry answer with
  | (.ok response, registry) => (.sent response.status response.body, registry)
  | (.error message, registry) => (.sent 500 (errorBody message), registry)

theorem handle_deploy {bundle : DeployBundle} (sound : bundle.Sound node.toolkit.bundles)
    (method : request.method = "POST") (url : request.url = endpointPath none)
    (body : Gateway.readBody node.parse request = .ok (some bundle.toJson))
    (authorized : isAuthorized request.authorization node.options.deployToken = true)
    (registry : Registry) :
    Gateway.handle node.toolkit.bundles node.parse node.options refused request registry =
      if bundle.schemaSdl.isEmpty then
        (.sent 400 (errorBody "schemaSdl is required"), registry)
      else
        answerOf refused registry fun registry =>
          (⟨200, .object [("status", .string "active"),
              ("subgraphId", .string bundle.subgraphId)]⟩,
            registry.upsertSubgraphDeployment bundle.subgraphId
              (bundle.row node.toolkit.bundles)) := by
  have path : pathSegments (Gateway.pathname request.url) = ["subgraphs".toList] := by
    rw [url, pathname_endpoint (by simp)]
    decide
  have posting : (request.method == "POST") = true := by simp [method]
  unfold Gateway.handle handleDeployRequest Gateway.deployRequest
  simp only [body, path, posting, authorized, ne_eq, not_true_eq_false, if_false,
    Bool.not_true, Bool.and_false, Bool.false_eq_true, Option.elim_some,
    parseDeployBundle_toJson sound]
  cases empty : bundle.schemaSdl.isEmpty with
  | true => rfl
  | false => rfl

/-- The body of a status that is found. -/
def statusBody (id : String) (wasmSha256 : Option String) : Value :=
  .object ([("deployed", .bool true), ("subgraphId", .string id)] ++
    (wasmSha256.map fun hash => ("wasmSha256", Value.string hash)).toList)

def statusAnswer (id : String) (registry : Registry) : DeployResponse × Registry :=
  match fetchSubgraphDeployment registry id with
  | none => (⟨404, errorBody "not deployed"⟩, registry)
  | some row => (⟨200, statusBody id row.wasmSha256⟩, registry)

theorem statusAnswer_registry (id : String) (registry : Registry) :
    (statusAnswer id registry).2 = registry := by
  unfold statusAnswer
  split
  · rfl
  · rfl

def removeAnswer (id : String) (registry : Registry) : DeployResponse × Registry :=
  let (removed, registry) := removeSubgraph registry id
  if removed then
    (⟨200, .object [("removed", .bool true), ("subgraphId", .string id)]⟩, registry)
  else
    (⟨404, errorBody "not deployed"⟩, registry)

theorem handle_below {id : String} (valid : allowedSchemaName id = true)
    (url : request.url = endpointPath (some id)) (body : request.body = [])
    (authorized : isAuthorized request.authorization node.options.deployToken = true)
    (registry : Registry) :
    let handled :=
      Gateway.handle node.toolkit.bundles node.parse node.options refused request registry
    (request.method = "GET" → handled = answerOf refused registry (statusAnswer id)) ∧
      (request.method = "DELETE" → handled = answerOf refused registry (removeAnswer id)) := by
  have path : pathSegments (Gateway.pathname request.url) =
      ["subgraphs".toList, id.toList] := by
    rw [url, pathname_endpoint (by simpa using valid)]
    exact pathSegments_subgraph valid
  unfold Gateway.handle handleDeployRequest Gateway.deployRequest
  simp only [readBody_of_empty body, path, authorized, ne_eq, not_true_eq_false, if_false,
    Bool.not_true, Bool.and_false, Bool.false_eq_true, String.ofList_toList, valid]
  refine ⟨?_, ?_⟩
  · intro getting
    rw [getting]
    rfl
  · intro deleting
    rw [deleting]
    rfl

/-- A request of the endpoint is answered at once: turned away by the limit or the token, or
handled. -/
theorem exchange_eq (gateway : Gateway) (method : request.method ≠ "OPTIONS")
    (route : routeOf request.url = none) :
    node.exchange refused request gateway =
      let (allowed, buckets) :=
        allowRequest request node.options.rateLimitPerMinute gateway.buckets
      let (reply, registry) :=
        if !allowed then
          (Reply.sent 429 (errorBody "rate limit exceeded"), gateway.registry)
        else if requiresAuth request.method &&
            !isAuthorized request.authorization node.options.deployToken then
          (.sent 401 (errorBody "unauthorized"), gateway.registry)
        else
          Gateway.handle node.toolkit.bundles node.parse node.options refused request
            gateway.registry
      (some reply, { gateway with
        buckets, registry, answered := gateway.answered ++ [(request, reply)] }) := by
  unfold HostedNode.exchange Gateway.arrive
  rw [if_neg method]
  cases limited : allowRequest request node.options.rateLimitPerMinute gateway.buckets with
  | mk allowed buckets =>
      simp only [route]
      cases allowed with
      | false => simp [Gateway.answer]
      | true =>
          cases turned : requiresAuth request.method &&
              !isAuthorized request.authorization node.options.deployToken with
          | true => simp [Gateway.answer]
          | false =>
              simp only [Bool.not_true, Bool.false_eq_true, if_false, List.length_append,
                List.length_singleton, Nat.lt_add_one, if_true, Gateway.finish,
                List.getElem?_concat_length, List.eraseIdx_append_of_length_le, le_refl,
                Nat.sub_self, List.eraseIdx_zero, List.tail_cons, List.append_nil,
                Gateway.answer, List.getLast?_append, List.getLast?_singleton, Option.some_or,
                Option.map_some]

end Served

/-! ## The clients compared -/

/-- A server that turns no command away. -/
structure HostedNode.Open (node : HostedNode) : Prop where
  unlimited : node.options.rateLimitPerMinute ≤ 0
  tokenless : isAuthorized none node.options.deployToken = true

/-- Servers in the same state, their answers so far aside. -/
structure Gateway.Alike (gateway other : Gateway) : Prop where
  registry : gateway.registry = other.registry
  buckets : gateway.buckets = other.buckets
  waiting : gateway.waiting = other.waiting

/-- Both go well and answer alike, or both fail. -/
inductive Agree {α : Type} (related : α → α → Prop) : Except String α → Except String α → Prop
  | ok {hosted direct : α} (alike : related hosted direct) :
      Agree related (.ok hosted) (.ok direct)
  | error (hosted direct : String) : Agree related (.error hosted) (.error direct)

section Clients

variable {node : HostedNode} {sender : Sender} {refused : Option String} {base : String}
  {init : FetchInit} {gateway : Gateway}

open HttpDeployTransport

theorem fetch_site (target : trimmedBase base = node.site) (suffix : String) :
    node.fetch sender refused (url base suffix) init gateway =
      (node.response
          (node.exchange refused (sender.request init ("/subgraphs" ++ suffix)) gateway).1,
        (node.exchange refused (sender.request init ("/subgraphs" ++ suffix)) gateway).2) := by
  have whole : (url base suffix).toList =
      node.site.toList ++ ("/subgraphs" ++ suffix).toList := by
    unfold url
    rw [target, String.append_assoc, String.toList_append]
  unfold HostedNode.fetch
  rw [whole, if_pos (List.isPrefixOf_iff_prefix.mpr (List.prefix_append _ _)), List.drop_left,
    String.ofList_toList]

def HostedNode.queryResponse (node : HostedNode) : Except String DeployResponse → FetchResponse
  | .ok response => node.sent response.status response.body
  | .error message => node.sent 500 (errorBody message)

/-- What an open server makes of a request that it handles by a query. -/
theorem fetch_query (opened : node.Open) (target : trimmedBase base = node.site)
    {suffix : String} {id : Option String} (path : "/subgraphs" ++ suffix = endpointPath id)
    (method : init.method ≠ "OPTIONS") (unsigned : init.headers.lookup "authorization" = none)
    {answer : Registry → DeployResponse × Registry}
    (handled : Gateway.handle node.toolkit.bundles node.parse node.options refused
        (sender.request init (endpointPath id)) gateway.registry =
      answerOf refused gateway.registry answer) :
    ∃ answered, node.fetch sender refused (url base suffix) init gateway =
      (.ok (node.queryResponse (gateway.ask refused answer).1),
      { (gateway.ask refused answer).2 with answered }) := by
  have passes : allowRequest (sender.request init (endpointPath id))
      node.options.rateLimitPerMinute gateway.buckets = (true, gateway.buckets) :=
    if_pos opened.unlimited
  have authorized : isAuthorized (sender.request init (endpointPath id)).authorization
      node.options.deployToken = true := by
    change isAuthorized (init.headers.lookup "authorization") _ = true
    rw [unsigned]
    exact opened.tokenless
  rw [fetch_site target, path, exchange_eq gateway method (routeOf_endpoint id), passes]
  simp only [authorized, Bool.not_true, Bool.and_false, Bool.false_eq_true, if_false, handled]
  unfold answerOf Gateway.ask
  cases refused with
  | none => exact ⟨_, rfl⟩
  | some message => exact ⟨_, rfl⟩

theorem upsert_agrees (opened : node.Open) (target : trimmedBase base = node.site)
    {bundle : DeployBundle} (sound : bundle.Sound node.toolkit.bundles)
    (schema : bundle.schemaSdl ≠ "") (keeps : node.toolkit.json.Keeps bundle.toJson)
    (written : node.toolkit.json.stringify bundle.toJson ≠ "") (deployedAt : String → String)
    {other : Gateway} (alike : gateway.Alike other) :
    let hosted := (HttpDeployTransport node.toolkit.json base
      (node.fetch sender refused)).upsertDeployment bundle gateway
    let direct := (PgSubgraphRegistry node.toolkit.bundles deployedAt
      refused).upsertDeployment bundle other
    Agree (· = ·) hosted.1 direct.1 ∧ hosted.2.Alike direct.2 := by
  have nonempty : bundle.schemaSdl.isEmpty = false := by simpa using schema
  have posting : "POST" ≠ "OPTIONS" := by decide
  have unsigned : [("content-type", "application/json")].lookup "authorization" = none := by
    decide
  obtain ⟨answered, served⟩ := @fetch_query node sender refused base
    ⟨"POST", [("content-type", "application/json")],
      some (node.toolkit.json.stringify bundle.toJson)⟩ gateway opened target "" none
    String.append_empty posting unsigned _ <| by
      rw [handle_deploy sound rfl rfl (readBody_of_text rfl written (by
        unfold HostedNode.parse
        rw [keeps]
        rfl)) opened.tokenless, nonempty]
      rfl
  intro hosted direct
  have asked : hosted = HttpDeployTransport.answered (node.fetch sender refused _ _ gateway) _ :=
    rfl
  rw [asked, served]
  cases refused with
  | none =>
      refine ⟨.ok rfl, ?_, alike.buckets, alike.waiting⟩
      change gateway.registry.upsertSubgraphDeployment _ _ =
        other.registry.upsertSubgraphDeployment _ _
      rw [alike.registry]
  | some message => exact ⟨.error _ _, alike.registry, alike.buckets, alike.waiting⟩

theorem suffix_path (id : String) : "/subgraphs" ++ ("/" ++ id) = endpointPath (some id) :=
  String.append_assoc.symm

theorem request_body (bare : init.body = none) (url : String) :
    (sender.request init url).body = [] := by
  unfold Sender.request
  rw [bare]
  simp

theorem remove_agrees (opened : node.Open) (target : trimmedBase base = node.site)
    {id : String} (valid : allowedSchemaName id = true) (deployedAt : String → String)
    {other : Gateway} (alike : gateway.Alike other) :
    let hosted := (HttpDeployTransport node.toolkit.json base
      (node.fetch sender refused)).setRemoved id gateway
    let direct := (PgSubgraphRegistry node.toolkit.bundles deployedAt
      refused).setRemoved id other
    Agree (· = ·) hosted.1 direct.1 ∧ hosted.2.Alike direct.2 := by
  have deleting : "DELETE" ≠ "OPTIONS" := by decide
  obtain ⟨answered, served⟩ := @fetch_query node sender refused base ⟨"DELETE", [], none⟩ gateway
    opened target ("/" ++ id) (some id) (suffix_path id) deleting rfl (removeAnswer id)
    ((@handle_below node (sender.request ⟨"DELETE", [], none⟩ (endpointPath (some id))) refused id
      valid rfl (request_body rfl _) opened.tokenless gateway.registry).2 rfl)
  intro hosted direct
  have asked : hosted = HttpDeployTransport.answered (node.fetch sender refused _ _ gateway) _ :=
    rfl
  rw [asked, served]
  cases refused with
  | some message => exact ⟨.error _ _, alike.registry, alike.buckets, alike.waiting⟩
  | none =>
      have same : direct = (.ok (removeSubgraph gateway.registry id).1,
          { other with registry := (removeSubgraph gateway.registry id).2 }) := by
        rw [alike.registry]
        rfl
      have answer : removeAnswer id gateway.registry =
          if (removeSubgraph gateway.registry id).1 then
            (⟨200, .object [("removed", .bool true), ("subgraphId", .string id)]⟩,
              (removeSubgraph gateway.registry id).2)
          else (⟨404, errorBody "not deployed"⟩, (removeSubgraph gateway.registry id).2) := rfl
      unfold Gateway.ask query
      simp only
      rw [same, answer]
      cases (removeSubgraph gateway.registry id).1 with
      | true => exact ⟨.ok rfl, rfl, alike.buckets, alike.waiting⟩
      | false => exact ⟨.ok rfl, rfl, alike.buckets, alike.waiting⟩

/-- The row of a subgraph, when it has been removed. -/
def Registry.RemovedRow (registry : Registry) (id : String) : Prop :=
  ∃ row, registry[id]? = some row ∧ row.removed = true

/-- A removed subgraph is not deployed for the endpoint, which the registry itself still knows. -/
def StatusAlike (registry : Registry) (id : String) (hosted direct : Option DeployedStatus) : Prop :=
  (registry.RemovedRow id → hosted = none ∧ direct.isSome) ∧
    (¬ registry.RemovedRow id → (hosted.isSome ↔ direct.isSome))

theorem status_agrees (opened : node.Open) (target : trimmedBase base = node.site)
    {id : String} (valid : allowedSchemaName id = true)
    (keeps : ∀ hash, node.toolkit.json.Keeps (statusBody id hash))
    (deployedAt : String → String) {other : Gateway} (alike : gateway.Alike other) :
    let hosted := (HttpDeployTransport node.toolkit.json base
      (node.fetch sender refused)).fetchStatus id gateway
    let direct := (PgSubgraphRegistry node.toolkit.bundles deployedAt
      refused).fetchStatus id other
    Agree (StatusAlike gateway.registry id) hosted.1 direct.1 ∧ hosted.2.Alike direct.2 := by
  have getting : "GET" ≠ "OPTIONS" := by decide
  obtain ⟨answered, served⟩ := @fetch_query node sender refused base ⟨"GET", [], none⟩ gateway
    opened target ("/" ++ id) (some id) (suffix_path id) getting rfl (statusAnswer id)
    ((@handle_below node (sender.request ⟨"GET", [], none⟩ (endpointPath (some id))) refused id
      valid rfl (request_body rfl _) opened.tokenless gateway.registry).1 rfl)
  intro hosted direct
  have asked : hosted = HttpDeployTransport.answered (node.fetch sender refused _ _ gateway) _ :=
    rfl
  rw [asked, served]
  cases refused with
  | some message => exact ⟨.error _ _, alike.registry, alike.buckets, alike.waiting⟩
  | none =>
      have same : direct.1 = .ok (gateway.registry[id]?.map fun row =>
          { subgraphId := id
            status := if row.removed then "removed" else "active"
            deployedAt := deployedAt id
            wasmSha256 := row.wasmSha256 }) := by
        rw [alike.registry]
        rfl
      refine ⟨?_, (statusAnswer_registry id _).trans alike.registry, alike.buckets, alike.waiting⟩
      rw [same]
      unfold Gateway.ask query statusAnswer fetchSubgraphDeployment
      simp only
      cases found : gateway.registry[id]? with
      | none =>
          refine .ok ⟨?_, fun _ => Iff.rfl⟩
          intro removed
          obtain ⟨row, present, -⟩ := removed
          rw [found] at present
          cases present
      | some row =>
          cases gone : row.removed with
          | true =>
              simp only [Option.filter_some, gone, Bool.not_true, Bool.false_eq_true, if_false]
              exact .ok ⟨fun _ => ⟨rfl, rfl⟩, fun stays => absurd ⟨row, found, gone⟩ stays⟩
          | false =>
              simp only [Option.filter_some, gone, Bool.not_false, if_true]
              have read : node.toolkit.json.parse (node.toolkit.json.stringify
                  (statusBody id row.wasmSha256)) = .ok (statusBody id row.wasmSha256) :=
                keeps row.wasmSha256
              simp only [HttpDeployTransport.answered, HostedNode.queryResponse,
                HostedNode.sent, Except.bind, succeeded, read, Except.map]
              refine .ok ⟨?_, fun _ => Iff.rfl⟩
              intro removed
              obtain ⟨other, present, gone'⟩ := removed
              rw [found] at present
              obtain rfl := Option.some.inj present
              rw [gone] at gone'
              cases gone'

end Clients

/-! ## The commands compared -/

/-- What an assembled bundle is made of. -/
structure Assembled (toolkit : JsToolkit) (project : Project) (bundle : DeployBundle)
    (wasmBytes : List UInt8) : Prop where
  descriptor : project.readDescriptor toolkit.json = .ok bundle.manifestJson
  manifest : bundle.manifestJson ≠ .null
  id : subgraphIdFromName toolkit (textField bundle.manifestJson "name") =
    some bundle.subgraphId
  named : textField bundle.manifestJson "wasm" ≠ ""
  wasm : project.entry (project.join ["build", textField bundle.manifestJson "wasm"]) =
    .file wasmBytes
  hash : bundle.wasmSha256 = toolkit.bundles.sha256Hex wasmBytes
  bytes : bundle.wasmBase64 = Base64.encode wasmBytes

theorem Project.read_ok {project : Project} {path hint : String} {contents : List UInt8}
    (read : project.read path hint = .ok contents) : project.entry path = .file contents := by
  unfold Project.read at read
  split at read
  · cases read
  · cases read
  · rename_i found
    cases read
    exact found

theorem assembleDeployBundle_ok {toolkit : JsToolkit} {project : Project} {bundle : DeployBundle}
    (assembled : assembleDeployBundle toolkit project = .ok bundle) :
    ∃ wasmBytes, Assembled toolkit project bundle wasmBytes := by
  unfold assembleDeployBundle at assembled
  cases read : project.readDescriptor toolkit.json with
  | error reason =>
      rw [read] at assembled
      cases assembled
  | ok descriptor =>
      simp only [read, bind, Except.bind] at assembled
      split at assembled
      · cases assembled
      · rename_i present
        split at assembled
        · rename_i id found
          split at assembled
          · cases assembled
          · rename_i named
            split at assembled
            · cases assembled
            · rename_i wasmBytes wasm
              split at assembled
              · cases assembled
              · cases assembled
                exact ⟨wasmBytes, read, present, found, by simpa using named,
                  Project.read_ok wasm, rfl, rfl⟩
        · cases assembled

theorem subgraphIdFromName_valid {toolkit : JsToolkit} {name id : String}
    (derived : subgraphIdFromName toolkit name = some id) : allowedSchemaName id = true := by
  unfold subgraphIdFromName subgraphIdFromLower at derived
  simp only at derived
  split at derived
  · rename_i valid
    cases derived
    exact valid
  · cases derived

/-- What the toolkit promises: base64 reads back, and an empty text is no JSON. -/
structure JsToolkit.Lawful (toolkit : JsToolkit) : Prop where
  base64 : ∀ bytes, toolkit.bundles.fromBase64 (Base64.encode bytes) = bytes
  empty : ∀ value, toolkit.json.parse "" ≠ .ok value

theorem Assembled.sound {toolkit : JsToolkit} {project : Project} {bundle : DeployBundle}
    {wasmBytes : List UInt8} (assembled : Assembled toolkit project bundle wasmBytes)
    (lawful : toolkit.Lawful) : bundle.Sound toolkit.bundles where
  id := subgraphIdFromName_valid assembled.id
  manifest := assembled.manifest
  hash := by rw [assembled.bytes, lawful.base64, assembled.hash]

/-- The command asks the server of the node. -/
def Invocation.TargetsNode (node : HostedNode) (invocation : Invocation) : Prop :=
  ∃ url, resolveNodeUrl invocation.args invocation.nodeUrl = some url ∧ url.isEmpty = false ∧
    HttpDeployTransport.trimmedBase url = node.site

/-- The command asks the registry itself. -/
def Invocation.TargetsDatabase (invocation : Invocation) : Prop :=
  (resolveNodeUrl invocation.args invocation.nodeUrl).filter (!·.isEmpty) = none ∧
    ∃ url, resolveDatabaseUrl invocation.args invocation.databaseUrl = some url ∧
      url.isEmpty = false

section Factory

variable {node : HostedNode} {deployedAt : String → String} {invocation : Invocation}

theorem makeClient_of_node (targets : invocation.TargetsNode node) :
    ∃ base, HttpDeployTransport.trimmedBase base = node.site ∧
      defaultClientFactory (invocation.environment node deployedAt) invocation.args =
        .ok (HttpDeployTransport node.toolkit.json base
          (node.fetch invocation.sender invocation.refused)) := by
  obtain ⟨url, resolved, nonempty, site⟩ := targets
  refine ⟨url, site, ?_⟩
  unfold defaultClientFactory Invocation.environment
  simp only [resolved, Option.filter_some, nonempty, Bool.not_false, if_true]

theorem makeClient_of_database (targets : invocation.TargetsDatabase) :
    defaultClientFactory (invocation.environment node deployedAt) invocation.args =
      .ok (PgSubgraphRegistry node.toolkit.bundles deployedAt invocation.refused) := by
  obtain ⟨nodeless, url, resolved, nonempty⟩ := targets
  unfold defaultClientFactory Invocation.environment
  simp only [nodeless, resolved, Option.filter_some, nonempty, Bool.not_false, if_true]

end Factory

/-- The command is about a subgraph that its arguments name. -/
def Invocation.Names (invocation : Invocation) : Prop :=
  invocation.command = .status ∨ invocation.command = .remove

/-- One command, once for the server and once for the registry itself. -/
structure Paired (node : HostedNode) (hosted direct : Invocation) : Prop where
  command : hosted.command = direct.command
  named : hosted.Names → nonFlagArg hosted.args = nonFlagArg direct.args
  refused : hosted.refused = direct.refused
  remote : hosted.TargetsNode node
  near : direct.TargetsDatabase
  /-- The endpoint wants a schema. -/
  schema : ∀ project bundle, hosted.command = .deploy project →
    assembleDeployBundle node.toolkit project = .ok bundle →
    bundle.schemaSdl ≠ "" ∧ node.toolkit.json.Keeps bundle.toJson
  id : hosted.Names → ∀ id, nonFlagArg hosted.args = some id → allowedSchemaName id = true
  status : ∀ id hash, nonFlagArg hosted.args = some id → hosted.command = .status →
    node.toolkit.json.Keeps (statusBody id hash)

/-- The status of a subgraph that is removed, whose row is still there. -/
def Ran.AsksRemoved (ran : Ran) : Prop :=
  ran.invocation.command = .status ∧ ran.invocation.refused = none ∧
    ∃ id, nonFlagArg ran.invocation.args = some id ∧ ran.registry.RemovedRow id

/-- How a command ends over the server and on the registry itself. -/
structure RanAlike (hosted direct : Ran) : Prop where
  registry : hosted.registry = direct.registry
  code : ¬ hosted.AsksRemoved → hosted.result.code = direct.result.code
  removed : hosted.AsksRemoved → hosted.result.code = 1 ∧ direct.result.code = 0
  stdout : hosted.invocation.command ≠ .status →
    hosted.result.stdout = direct.result.stdout

section Pairs

variable {node : HostedNode} {deployedAt : String → String} {hosted direct : Invocation}
  {gateway other : Gateway}

theorem reported_agree {α : Type} {remote near : Except String α × Gateway} {failure : String}
    {result : α → CommandResult} (agree : Agree (· = ·) remote.1 near.1)
    (alike : remote.2.Alike near.2) :
    (reported remote failure result).1.code = (reported near failure result).1.code ∧
      (reported remote failure result).1.stdout = (reported near failure result).1.stdout ∧
      (reported remote failure result).2.Alike (reported near failure result).2 := by
  obtain ⟨first, gateway⟩ := remote
  obtain ⟨second, other⟩ := near
  cases agree with
  | ok same =>
      subst same
      exact ⟨rfl, rfl, alike⟩
  | error => exact ⟨rfl, rfl, alike⟩

/-- A command that no status is ends the same over the server and on the registry itself. -/
theorem alike_of_same (alike : gateway.Alike other)
    (plain : hosted.command ≠ .status) {remote near : CommandResult}
    (code : remote.code = near.code) (stdout : remote.stdout = near.stdout) :
    RanAlike ⟨hosted, gateway.registry, remote⟩ ⟨direct, other.registry, near⟩ where
  registry := alike.registry
  code _ := code
  removed asks := absurd asks.1 plain
  stdout _ := stdout

theorem deploy_alike (opened : node.Open) (lawful : node.toolkit.Lawful)
    (paired : Paired node hosted direct) (alike : gateway.Alike other) {project : Project}
    (deploys : hosted.command = .deploy project) :
    RanAlike ⟨hosted, gateway.registry, (hosted.run node deployedAt gateway).1⟩
        ⟨direct, other.registry, (direct.run node deployedAt other).1⟩ ∧
      (hosted.run node deployedAt gateway).2.Alike (direct.run node deployedAt other).2 := by
  have again : direct.command = .deploy project := paired.command.symm.trans deploys
  have plain : hosted.command ≠ .status := by
    rw [deploys]
    exact fun same => nomatch same
  obtain ⟨base, site, client⟩ := @makeClient_of_node node deployedAt hosted paired.remote
  unfold Invocation.run
  simp only [deploys, again, client, makeClient_of_database paired.near]
  unfold runDeploy
  cases assembled : assembleDeployBundle node.toolkit project with
  | error reason =>
      cases reason with
      | reported error code => exact ⟨alike_of_same alike plain rfl rfl, alike⟩
      | thrown message => exact ⟨alike_of_same alike plain rfl rfl, alike⟩
  | ok bundle =>
      obtain ⟨wasmBytes, made⟩ := assembleDeployBundle_ok assembled
      obtain ⟨schema, keeps⟩ := paired.schema project bundle deploys assembled
      have written : node.toolkit.json.stringify bundle.toJson ≠ "" := by
        intro empty
        have parsed : node.toolkit.json.parse "" = .ok bundle.toJson := empty ▸ keeps
        exact lawful.empty _ parsed
      have agrees := @upsert_agrees node hosted.sender hosted.refused base gateway opened site
        bundle (made.sound lawful) schema keeps written deployedAt other alike
      rw [paired.refused] at agrees ⊢
      obtain ⟨code, stdout, after⟩ := @reported_agree _ _ _
        "kasgraph deploy: registry write failed: " (fun _ => .done ("deployed `" ++
          bundle.subgraphId ++ "` (wasm sha256 " ++
          String.ofList (bundle.wasmSha256.toList.take 12) ++ "…)\n")) agrees.1 agrees.2
      exact ⟨alike_of_same alike plain code stdout, after⟩

theorem remove_alike (opened : node.Open) (paired : Paired node hosted direct)
    (alike : gateway.Alike other) (removes : hosted.command = .remove) :
    RanAlike ⟨hosted, gateway.registry, (hosted.run node deployedAt gateway).1⟩
        ⟨direct, other.registry, (direct.run node deployedAt other).1⟩ ∧
      (hosted.run node deployedAt gateway).2.Alike (direct.run node deployedAt other).2 := by
  have again : direct.command = .remove := paired.command.symm.trans removes
  have plain : hosted.command ≠ .status := by
    rw [removes]
    exact fun same => nomatch same
  obtain ⟨base, site, client⟩ := @makeClient_of_node node deployedAt hosted paired.remote
  unfold Invocation.run
  simp only [removes, again, client, makeClient_of_database paired.near]
  unfold runRemove
  rw [← paired.named (.inr removes)]
  cases named : nonFlagArg hosted.args with
  | none => exact ⟨alike_of_same alike plain rfl rfl, alike⟩
  | some id =>
      have agrees := @remove_agrees node hosted.sender hosted.refused base gateway opened site
        id (paired.id (.inr removes) id named) deployedAt other alike
      rw [paired.refused] at agrees ⊢
      obtain ⟨code, stdout, after⟩ := @reported_agree _ _ _
        "kasgraph remove: registry write failed: " (fun removed : Bool =>
          if removed then .done ("removed `" ++ id ++ "`\n")
          else .failed 1 ("kasgraph remove: `" ++ id ++ "` is not deployed\n"))
        agrees.1 agrees.2
      exact ⟨alike_of_same alike plain code stdout, after⟩

theorem status_alike (opened : node.Open) (paired : Paired node hosted direct)
    (alike : gateway.Alike other) (asks : hosted.command = .status) :
    RanAlike ⟨hosted, gateway.registry, (hosted.run node deployedAt gateway).1⟩
        ⟨direct, other.registry, (direct.run node deployedAt other).1⟩ ∧
      (hosted.run node deployedAt gateway).2.Alike (direct.run node deployedAt other).2 := by
  have again : direct.command = .status := paired.command.symm.trans asks
  have quiet : hosted.command ≠ .status → False := fun other => other asks
  obtain ⟨base, site, client⟩ := @makeClient_of_node node deployedAt hosted paired.remote
  unfold Invocation.run
  simp only [asks, again, client]
  unfold runStatus
  rw [← paired.named (.inl asks)]
  cases named : nonFlagArg hosted.args with
  | none =>
      refine ⟨⟨alike.registry, fun _ => rfl, ?_, fun other => (quiet other).elim⟩, alike⟩
      intro removed
      obtain ⟨-, -, id, known, -⟩ := removed
      rw [named] at known
      cases known
  | some id =>
      have agrees := @status_agrees node hosted.sender hosted.refused base gateway opened site
        id (paired.id (.inl asks) id named) (fun hash => paired.status id hash named asks)
        deployedAt other alike
      obtain ⟨agree, after⟩ := agrees
      rw [makeClient_of_database paired.near, ← paired.refused]
      simp only
      have failed : ∀ message, hosted.refused = some message →
          ((PgSubgraphRegistry node.toolkit.bundles deployedAt hosted.refused).fetchStatus id
            other).1 = .error message := by
        intro message known
        rw [known]
        rfl
      generalize (HttpDeployTransport node.toolkit.json base
        (node.fetch hosted.sender hosted.refused)).fetchStatus id gateway = remote at agree after ⊢
      generalize held : (PgSubgraphRegistry node.toolkit.bundles deployedAt
        hosted.refused).fetchStatus id other = near at agree after failed ⊢
      obtain ⟨first, gateway'⟩ := remote
      obtain ⟨second, other'⟩ := near
      cases agree with
      | error =>
          refine ⟨⟨alike.registry, fun _ => rfl, ?_, fun other => (quiet other).elim⟩, after⟩
          intro removed
          rw [removed.2.1] at held
          cases held
      | @ok before now related =>
          have served : hosted.refused = none := by
            cases refused : hosted.refused with
            | none => rfl
            | some message => cases failed message refused
          refine ⟨⟨alike.registry, ?_, ?_, fun other => (quiet other).elim⟩, ?_⟩
          · intro stays
            have there := related.2 fun removed => stays ⟨asks, served, id, named, removed⟩
            cases before with
            | none =>
                cases now with
                | none => rfl
                | some status => simp at there
            | some status =>
                cases now with
                | none => simp at there
                | some status => rfl
          · intro removed
            obtain ⟨-, -, name, known, gone⟩ := removed
            obtain rfl : id = name := Option.some.inj (named.symm.trans known)
            obtain ⟨hidden, there⟩ := related.1 gone
            subst hidden
            obtain ⟨status, rfl⟩ := Option.isSome_iff_exists.mp there
            exact ⟨rfl, rfl⟩
          · exact after

theorem run_alike (opened : node.Open) (lawful : node.toolkit.Lawful)
    (paired : Paired node hosted direct) (alike : gateway.Alike other) :
    RanAlike ⟨hosted, gateway.registry, (hosted.run node deployedAt gateway).1⟩
        ⟨direct, other.registry, (direct.run node deployedAt other).1⟩ ∧
      (hosted.run node deployedAt gateway).2.Alike (direct.run node deployedAt other).2 := by
  cases command : hosted.command with
  | deploy project => exact deploy_alike opened lawful paired alike command
  | status => exact status_alike opened paired alike command
  | remove => exact remove_alike opened paired alike command

end Pairs

/-! ## Sessions compared -/

section Sessions

variable {codec : BundleCodec} {parse : String → Option Value} {options : GatewayOptions}

theorem Gateway.Alike.arrive {gateway other : Gateway} (alike : gateway.Alike other)
    (request : HttpRequest) :
    (gateway.arrive options request).Alike (other.arrive options request) := by
  unfold Gateway.arrive
  rw [alike.buckets]
  split
  · exact ⟨alike.registry, alike.buckets, alike.waiting⟩
  · simp only
    split
    · exact ⟨alike.registry, rfl, alike.waiting⟩
    · split
      · exact ⟨alike.registry, rfl, alike.waiting⟩
      · split
        · exact ⟨alike.registry, rfl, alike.waiting⟩
        · exact ⟨alike.registry, rfl, congrArg (· ++ [request]) alike.waiting⟩

theorem Gateway.Alike.finish {gateway other : Gateway} (alike : gateway.Alike other)
    (position : Nat) (refused : Option String) :
    (gateway.finish codec parse options position refused).Alike
      (other.finish codec parse options position refused) := by
  unfold Gateway.finish
  rw [alike.waiting, alike.registry]
  cases other.waiting[position]? with
  | none => exact alike
  | some request => exact ⟨rfl, alike.buckets, rfl⟩

theorem Gateway.Alike.step {gateway other : Gateway} (alike : gateway.Alike other)
    (event : GatewayEvent) :
    (gateway.step codec parse options event).Alike (other.step codec parse options event) := by
  cases event with
  | arrive request => exact alike.arrive request
  | finish position refused =>
      change (gateway.finish codec parse options position refused).Alike
        (other.finish codec parse options position refused)
      exact alike.finish position refused

/-- Two sessions of the same commands, one over the server. -/
inductive StepPaired (node : HostedNode) : SessionStep → SessionStep → Prop where
  | command {hosted direct : Invocation} (paired : Paired node hosted direct) :
      StepPaired node (.command hosted) (.command direct)
  | server (event : GatewayEvent) : StepPaired node (.server event) (.server event)

/-- A server without a token and without a limit serves the commands as the registry itself would:
in every session, whatever else the server does in between and whatever the pool refuses, the
commands end alike and leave the same registry. Only the status of a subgraph that is removed
tells the two apart. -/
theorem hosted_session_agrees (node : HostedNode) (opened : node.Open)
    (lawful : node.toolkit.Lawful) (deployedAt : String → String) (gateway : Gateway)
    {hosted direct : List SessionStep} (paired : List.Forall₂ (StepPaired node) hosted direct) :
    List.Forall₂ RanAlike (runSession node deployedAt gateway hosted).1
        (runSession node deployedAt gateway direct).1 ∧
      (runSession node deployedAt gateway hosted).2.registry =
        (runSession node deployedAt gateway direct).2.registry := by
  have follows : ∀ {gateway other : Gateway}, gateway.Alike other →
      List.Forall₂ RanAlike (runSession node deployedAt gateway hosted).1
          (runSession node deployedAt other direct).1 ∧
        (runSession node deployedAt gateway hosted).2.registry =
          (runSession node deployedAt other direct).2.registry := by
    induction paired with
    | nil => exact fun alike => ⟨.nil, alike.registry⟩
    | cons first rest ih =>
        intro gateway other alike
        cases first with
        | server event => exact ih (alike.step event)
        | command pair =>
            obtain ⟨same, after⟩ := @run_alike node deployedAt _ _ gateway other opened lawful pair
              alike
            obtain ⟨later, final⟩ := ih after
            rw [runSession_command, runSession_command]
            exact ⟨.cons same later, final⟩
  exact follows ⟨rfl, rfl, rfl⟩

end Sessions

/-! ## A session -/

def bondDescriptor : Value :=
  .object [("name", .string "kasbonds"), ("wasm", .string "kasbonds.wasm")]

def bondDescriptorText : String :=
  "\x7b\"name\":\"kasbonds\",\"wasm\":\"kasbonds.wasm\"\x7d"

def bondWasm : List UInt8 := [0, 97, 115, 109]

def bondWasmSha256 : String :=
  "cd5d4935a48c0672cb06407bb443bc0087aff947c6b864bac886982c73b3027f"

def bondBundle : DeployBundle where
  subgraphId := "kasbonds"
  schemaSdl := "type Bond"
  manifestJson := bondDescriptor
  wasmSha256 := bondWasmSha256
  wasmBase64 := "AGFzbQ=="

def bondBundleText : String :=
  "\x7b\"subgraphId\":\"kasbonds\",\"schemaSdl\":\"type Bond\",\"manifestJson\":" ++
    bondDescriptorText ++ ",\"wasmSha256\":\"" ++ bondWasmSha256 ++
    "\",\"wasmBase64\":\"AGFzbQ==\"\x7d"

/-- The texts and hashes of one project. -/
def bondToolkit : JsToolkit where
  bundles := {
    fromBase64 := Base64.decode
    sha256Hex := fun bytes => if bytes = bondWasm then bondWasmSha256 else "" }
  json := {
    parse := fun text =>
      if text = bondDescriptorText then .ok bondDescriptor
      else if text = bondBundleText then .ok bondBundle.toJson
      else .error "Unexpected end of JSON input"
    stringify := fun value =>
      if value = bondBundle.toJson then bondBundleText else bondDescriptorText }
  lowered := fun name => name

def bondProject : Project where
  join names := "/bonds/" ++ "/".intercalate names
  entry path :=
    if path = "/bonds/build/manifest.json" then .file bondDescriptorText.toUTF8.toList
    else if path = "/bonds/build/kasbonds.wasm" then .file bondWasm
    else if path = "/bonds/schema.graphql" then .file "type Bond".toUTF8.toList
    else .missing

theorem bondToolkit_lawful : bondToolkit.Lawful where
  base64 := Base64.decode_encode
  empty := by
    intro value
    have neither : "" ≠ bondDescriptorText ∧ "" ≠ bondBundleText := by decide +kernel
    simp only [bondToolkit, if_neg neither.1, if_neg neither.2]
    exact fun same => nomatch same

theorem bondProject_assembled :
    assembleDeployBundle bondToolkit bondProject = .ok bondBundle := by
  have descriptor : bondProject.readDescriptor bondToolkit.json = .ok bondDescriptor := by
    unfold Project.readDescriptor bondProject bondToolkit
    have path : "/bonds/" ++ "/".intercalate ["build", "manifest.json"] =
        "/bonds/build/manifest.json" := by decide +kernel
    simp only [path, if_true, fromUtf8Lossy_toUTF8]
    rfl
  have wasm : bondProject.read (bondProject.join ["build", "kasbonds.wasm"])
      " — run `kasgraph build` first" = .ok bondWasm := by
    have path : "/bonds/" ++ "/".intercalate ["build", "kasbonds.wasm"] =
        "/bonds/build/kasbonds.wasm" := by decide +kernel
    unfold Project.read bondProject
    simp only [path]
    rfl
  have schema : bondProject.read (bondProject.join ["schema.graphql"]) "" =
      .ok "type Bond".toUTF8.toList := by
    have path : "/bonds/" ++ "/".intercalate ["schema.graphql"] = "/bonds/schema.graphql" := by
      decide +kernel
    unfold Project.read bondProject
    simp only [path]
    rfl
  have name : subgraphIdFromName bondToolkit (textField bondDescriptor "name") =
      some "kasbonds" := by decide +kernel
  have wasmName : textField bondDescriptor "wasm" = "kasbonds.wasm" := by decide +kernel
  unfold assembleDeployBundle
  rw [descriptor]
  simp only [bind, Except.bind, name, wasmName, wasm, schema, fromUtf8Lossy_toUTF8]
  rfl

def openNode : HostedNode where
  toolkit := bondToolkit
  options := { corsAllowedOrigins := [], rateLimitPerMinute := 0, deployToken := none }
  site := "http://node"
  elsewhere _ _ := ⟨404, .error "Not Found"⟩

/-- A deployment that is removed again, over the server or on the registry itself. -/
def bondSession (target : List String) : List SessionStep :=
  let run (command : DeployCommand) (args : List String) : SessionStep :=
    .command ⟨command, args ++ target, none, none, ⟨none, 0⟩, none⟩
  [run (.deploy bondProject) [], run .remove ["kasbonds"]]

theorem bondSession_paired :
    List.Forall₂ (StepPaired openNode) (bondSession ["--node", "http://node/"])
      (bondSession ["--database-url", "postgres://db"]) := by
  refine .cons (.command ?_) (.cons (.command ?_) .nil)
  · refine ⟨rfl, ?_, rfl, ⟨"http://node/", rfl, ?_, ?_⟩, ⟨rfl, "postgres://db", rfl, ?_⟩, ?_, ?_, ?_⟩
    · exact fun names => by rcases names with same | same <;> cases same
    · decide +kernel
    · decide +kernel
    · decide +kernel
    · intro project bundle deploys assembled
      obtain rfl := DeployCommand.deploy.inj deploys
      obtain rfl := Except.ok.inj (bondProject_assembled.symm.trans assembled)
      refine ⟨by decide +kernel, ?_⟩
      unfold JsonText.Keeps openNode bondToolkit
      simp only [if_true]
      have apart : bondBundleText ≠ bondDescriptorText := by decide +kernel
      rw [if_neg apart]
    · exact fun names => by rcases names with same | same <;> cases same
    · intro id hash named asks
      cases asks
  · refine ⟨rfl, fun _ => ?_, rfl, ⟨"http://node/", rfl, ?_, ?_⟩, ⟨rfl, "postgres://db", rfl, ?_⟩,
      ?_, ?_, ?_⟩
    · decide +kernel
    · decide +kernel
    · decide +kernel
    · decide +kernel
    · intro project bundle deploys
      cases deploys
    · intro _ id named
      have known : nonFlagArg ["kasbonds", "--node", "http://node/"] = some "kasbonds" := by
        decide +kernel
      obtain rfl := Option.some.inj (known.symm.trans named)
      decide +kernel
    · intro id hash named asks
      cases asks

theorem hosted_session_agrees_bonds :
    (runSession openNode id (.start ∅) (bondSession ["--node", "http://node/"])).2.registry =
      (runSession openNode id (.start ∅)
        (bondSession ["--database-url", "postgres://db"])).2.registry :=
  (hosted_session_agrees openNode ⟨by decide, rfl⟩ bondToolkit_lawful id (.start ∅)
    bondSession_paired).2

end KasGraph
