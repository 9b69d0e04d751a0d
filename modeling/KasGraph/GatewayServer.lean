import KasGraph.FilePaths
import KasGraph.LossyText
import KasGraph.Materialize

set_option autoImplicit false

/-! The gateway's HTTP server. Every request is counted against the limit of its address, then
routed. The deploy endpoint checks the token, reads the body, and answers by one query on the
registry; other requests come in while it waits. -/

namespace KasGraph

open FileSystem (pieces)
open Json (Value)
open LossyText (fromUtf8Lossy)

/-! ## The deploy endpoint -/

structure DeployRequest where
  method : String
  path : String
  body : Option Value
  authorization : Option String

structure DeployResponse where
  status : Nat
  body : Value

def requiresAuth (method : String) : Bool := method == "POST" || method == "DELETE"

/-- No token, or an empty one, lets every request pass. -/
def isAuthorized (authorization token : Option String) : Bool :=
  match token with
  | none => true
  | some token => token.isEmpty || authorization == some ("Bearer " ++ token)

/-- The path without the slashes at its ends, piece by piece. -/
def pathSegments (path : String) : List (List Char) :=
  pieces (((path.toList.dropWhile (· == '/')).reverse.dropWhile (· == '/')).reverse)

/-- The subgraph's row unless it is removed; no row comes back after an update. -/
def removeSubgraph (registry : Registry) (subgraph : String) : Bool × Registry :=
  match registry[subgraph]? with
  | some row =>
      if row.removed then (false, registry) else (true, registry.setSubgraphRemoved subgraph)
  | none => (false, registry)

def fetchSubgraphDeployment (registry : Registry) (subgraph : String) : Option RegistryRow :=
  registry[subgraph]?.filter fun row => !row.removed

/-- A query that the pool may refuse. -/
def query {α : Type} (refused : Option String) (registry : Registry)
    (answer : Registry → α × Registry) : Except String α × Registry :=
  match refused with
  | some message => (.error message, registry)
  | none => let (value, after) := answer registry; (.ok value, after)

def errorBody (message : String) : Value := .object [("error", .string message)]

def handleDeployRequest (codec : BundleCodec) (token refused : Option String)
    (request : DeployRequest) (registry : Registry) :
    Except String DeployResponse × Registry :=
  match pathSegments request.path with
  | first :: rest =>
      if first ≠ "subgraphs".toList then
        (.ok ⟨404, errorBody "not found"⟩, registry)
      else if requiresAuth request.method && !isAuthorized request.authorization token then
        (.ok ⟨401, errorBody "unauthorized"⟩, registry)
      else
        match request.method == "POST", rest with
        | true, [] =>
            match request.body.elim (.error "deploy bundle must be a JSON object")
                (parseDeployBundle codec) with
            | .error message => (.ok ⟨400, errorBody message⟩, registry)
            | .ok input =>
                query refused registry fun registry =>
                  (⟨200, .object [("status", .string "active"),
                      ("subgraphId", .string input.subgraphId)]⟩,
                    registry.upsertSubgraphDeployment input.subgraphId (input.row codec))
        | _, [] => (.ok ⟨400, errorBody "invalid subgraph id"⟩, registry)
        | _, id :: _ =>
            let id := String.ofList id
            if !allowedSchemaName id then
              (.ok ⟨400, errorBody "invalid subgraph id"⟩, registry)
            else if request.method == "GET" then
              query refused registry fun registry =>
                match fetchSubgraphDeployment registry id with
                | none => (⟨404, errorBody "not deployed"⟩, registry)
                | some row => (⟨200, .object ([("deployed", .bool true),
                    ("subgraphId", .string id)] ++
                      (row.wasmSha256.map fun hash => ("wasmSha256", Value.string hash)).toList)⟩,
                  registry)
            else if request.method == "DELETE" then
              query refused registry fun registry =>
                let (removed, registry) := removeSubgraph registry id
                if removed then
                  (⟨200, .object [("removed", .bool true), ("subgraphId", .string id)]⟩, registry)
                else
                  (⟨404, errorBody "not deployed"⟩, registry)
            else
              (.ok ⟨405, errorBody "method not allowed"⟩, registry)
  | [] => (.ok ⟨404, errorBody "not found"⟩, registry)

/-! ## Requests and answers -/

structure HttpRequest where
  remoteAddress : Option String
  /-- `Date.now()` when it comes in. -/
  now : Nat
  method : String
  url : String
  origin : Option String
  authorization : Option String
  body : List UInt8

/-- The handlers beside the deploy endpoint. -/
inductive Target where
  | soak
  | health
  | status
  | metrics
  | graphql
  deriving DecidableEq

/-- What becomes of a request: an answer of its own, or another handler with the url it sees. -/
inductive Reply where
  | sent (status : Nat) (body : Option Value)
  | delegated (target : Target) (url : String)

structure GatewayOptions where
  corsAllowedOrigins : List String
  rateLimitPerMinute : Int
  deployToken : Option String

def applyCors (options : GatewayOptions) (request : HttpRequest) : List (String × String) :=
  match request.origin with
  | some origin =>
      if options.corsAllowedOrigins.contains origin then
        [("access-control-allow-origin", origin), ("vary", "origin"),
          ("access-control-allow-methods", "GET, HEAD, POST, OPTIONS, DELETE"),
          ("access-control-allow-headers", "content-type, authorization")]
      else []
  | none => []

/-! ## The limit -/

structure RateLimitBucket where
  minute : Nat
  count : Nat
  deriving DecidableEq, Repr

abbrev Buckets := OrderedMap String RateLimitBucket

namespace HttpRequest

def key (request : HttpRequest) : String := request.remoteAddress.getD "unknown"

def minute (request : HttpRequest) : Nat := request.now / 60000

end HttpRequest

def allowRequest (request : HttpRequest) (rateLimitPerMinute : Int) (buckets : Buckets) :
    Bool × Buckets :=
  if rateLimitPerMinute ≤ 0 then
    (true, buckets)
  else
    match buckets[request.key]? with
    | none => (true, buckets.insert request.key ⟨request.minute, 1⟩)
    | some bucket =>
        if bucket.minute ≠ request.minute then
          (true, buckets.insert request.key ⟨request.minute, 1⟩)
        else
          (decide ((bucket.count + 1 : Nat) ≤ rateLimitPerMinute),
            buckets.insert request.key ⟨bucket.minute, bucket.count + 1⟩)

/-! ## The server -/

def pathMatches (url path : String) : Bool := url == path || url.startsWith (path ++ "?")

/-- Where a request that is within the limit goes; none is the deploy endpoint. -/
def routeOf (url : String) : Option (Target × String) :=
  if url == "/" || url.startsWith "/?" then some (.soak, "/soak")
  else if url == "/subgraphs" || url.startsWith "/subgraphs/" || url.startsWith "/subgraphs?" then
    none
  else if url == "/soak" || url.startsWith "/soak/" then some (.soak, url)
  else if pathMatches url "/healthz" || pathMatches url "/health" then some (.health, url)
  else if pathMatches url "/status" then some (.status, url)
  else if pathMatches url "/metrics" then some (.metrics, url)
  else some (.graphql, url)

/-- The server: what waits for its body or for the pool, and what was answered so far. -/
structure Gateway where
  buckets : Buckets
  registry : Registry
  waiting : List HttpRequest
  answered : List (HttpRequest × Reply)

/-- Requests come in, and those of the deploy endpoint finish in any order; the pool may refuse
their query. -/
inductive GatewayEvent where
  | arrive (request : HttpRequest)
  | finish (position : Nat) (refused : Option String)

namespace Gateway

variable (codec : BundleCodec) (parse : String → Option Value) (options : GatewayOptions)

def start (registry : Registry) : Gateway :=
  { buckets := ∅, registry, waiting := [], answered := [] }

def answer (gateway : Gateway) (request : HttpRequest) (reply : Reply) : Gateway :=
  { gateway with answered := gateway.answered ++ [(request, reply)] }

def arrive (gateway : Gateway) (request : HttpRequest) : Gateway :=
  if request.method = "OPTIONS" then
    gateway.answer request (.sent 204 none)
  else
    let (allowed, buckets) := allowRequest request options.rateLimitPerMinute gateway.buckets
    let gateway := { gateway with buckets }
    if !allowed then
      gateway.answer request (.sent 429 (errorBody "rate limit exceeded"))
    else
      match routeOf request.url with
      | some (target, url) => gateway.answer request (.delegated target url)
      | none =>
          if requiresAuth request.method &&
              !isAuthorized request.authorization options.deployToken then
            gateway.answer request (.sent 401 (errorBody "unauthorized"))
          else
            { gateway with waiting := gateway.waiting ++ [request] }

/-- The body of a request: none when it is empty, an error when it is no JSON. -/
def readBody (request : HttpRequest) : Except Unit (Option Value) :=
  let raw := fromUtf8Lossy request.body
  if raw.isEmpty then .ok none
  else match parse raw with
    | some value => .ok (some value)
    | none => .error ()

/-- `(req.url ?? '/').split('?')[0]`. -/
def pathname (url : String) : String := String.ofList (url.toList.takeWhile (· != '?'))

def deployRequest (request : HttpRequest) (body : Option Value) : DeployRequest :=
  ⟨request.method, pathname request.url, body, request.authorization⟩

/-- The reply of the deploy endpoint to a request it has read. -/
def handle (refused : Option String) (request : HttpRequest) (registry : Registry) :
    Reply × Registry :=
  match readBody parse request with
  | .error () => (.sent 400 (errorBody "invalid JSON body"), registry)
  | .ok body =>
      match handleDeployRequest codec options.deployToken refused (deployRequest request body)
        registry with
      | (.ok response, registry) => (.sent response.status response.body, registry)
      | (.error message, registry) => (.sent 500 (errorBody message), registry)

def finish (gateway : Gateway) (position : Nat) (refused : Option String) : Gateway :=
  match gateway.waiting[position]? with
  | none => gateway
  | some request =>
      let (reply, registry) := handle codec parse options refused request gateway.registry
      { gateway with registry, waiting := gateway.waiting.eraseIdx position }.answer request reply

def step (gateway : Gateway) : GatewayEvent → Gateway
  | .arrive request => gateway.arrive options request
  | .finish position refused => gateway.finish codec parse options position refused

def runEach (gateway : Gateway) (events : List GatewayEvent) : Gateway :=
  events.foldl (step codec parse options) gateway

end Gateway

end KasGraph
