import KasGraph.Interference
import KasGraph.LiveSet
import KasGraph.Recovery
import KasGraph.TablesExist
import KasGraph.TurnMachine

set_option autoImplicit false

/-! Continuous ingestion. After a preflight the loop takes what comes first: a tick of the
reload interval, an interrupt, or a message of the subscription. A message goes to every runtime;
when it announces a gap, one recovery is fetched and handed over in the same way. -/

namespace KasGraph

open EffectProgram MachineInt TurnMachine

/-! ## The preflight -/

structure ContinuousConfig where
  wsUrl : Option String
  servedBy : String
  gapRecoveryBlockHashes : List String
  /-- Zero is no limit. -/
  maxMessages : UInt64
  /-- Zero disables the reload. -/
  reloadSecs : UInt64

structure ServerInfo where
  rpcApiVersion : UInt64

structure NodeInfo where
  hasMessageId : Bool
  hasNotifyCommand : Bool

structure LiveRpcCapabilities where
  endpoint : String
  serverInfo : ServerInfo
  nodeInfo : NodeInfo

def validateContinuousConfig (config : ContinuousConfig) : Except String String :=
  match config.wsUrl with
  | none => .error "KASGRAPH_INGEST_MODE=continuous requires KASGRAPH_NOTIFICATION_WS_URL"
  | some wsUrl => .ok wsUrl

def validateLiveCapabilities (capabilities : LiveRpcCapabilities) : Except String Unit := do
  if capabilities.serverInfo.rpcApiVersion < 1 then
    throw ("RPC endpoint " ++ capabilities.endpoint ++ " reported unsupported rpcApiVersion=" ++
      toString capabilities.serverInfo.rpcApiVersion ++ " (need >= 1)")
  if !capabilities.nodeInfo.hasMessageId then
    throw ("RPC endpoint " ++ capabilities.endpoint ++ " does not advertise hasMessageId=true; " ++
      "live wRPC subscription path expects message ids")
  if !capabilities.nodeInfo.hasNotifyCommand then
    throw ("RPC endpoint " ++ capabilities.endpoint ++ " does not advertise " ++
      "hasNotifyCommand=true; live wRPC subscription path expects generic subscribe semantics")

namespace MultiRpcClient

def new (config : RpcClientConfig) : MultiRpcClient where
  config
  health := ∅
  auditLog := []
  nextBackupIndex := 0
  asked := 0

def probeLiveCapabilities (probe : Nat → RpcEndpoint → Except RpcError LiveRpcCapabilities)
    (client : MultiRpcClient) : Except RpcError LiveRpcCapabilities × MultiRpcClient :=
  let (endpoints, client) := client.nextChain
  client.tryEndpoints probe none endpoints

def drainAuditLog (client : MultiRpcClient) : List BlockAuditRecord × MultiRpcClient :=
  (client.auditLog, { client with auditLog := [] })

end MultiRpcClient

/-- The client of the loop: the configured one, or one for the socket's endpoint alone. -/
def driverClient (rpcClient : Option MultiRpcClient) (servedBy wsUrl : String) : MultiRpcClient :=
  rpcClient.getD (.new { primary := ⟨servedBy, wsUrl⟩, backups := [] })

/-! ## The loop -/

variable {δ : Type}

/-- What the loop works on. The registry is written by others. -/
structure Ingesting (δ : Type) where
  registry : Registry
  backend : Backend δ
  runtimes : List (SubgraphRuntime δ)
  client : MultiRpcClient
  processed : UInt64

/-- Why the loop ended, or never began. -/
inductive LoopExit where
  | misconfigured (message : String)
  | unreachable (cause : RpcError)
  | interrupted
  | channelClosed
  | reachedMaxMessages
  | persistence (cause : NodeError)
  | noRuntimes
  | indexOutOfBounds

/-- What can come up between two messages: others change the registry, and the subscription
driver resolves hashes through the client that the loop shares with it. -/
inductive Wake (configured : SubgraphId) where
  | deploy (name : String) (row : RegistryRow)
  | remove (name : String)
  | hydrate (blockHashes : List String)
  | reload (loader : Loader configured)
  | ctrlC
  | receive (message : Option ChainNotification)

/-- What became of the gap a message announced. -/
inductive GapAnswer where
  | notAsked
  | skipped
  | failed (cause : RpcError)
  | recovered (notification : ChainNotification)

/-- What the loop reports of a turn. -/
inductive LoopNote (configured : SubgraphId) where
  | event (happened : NodeEvent configured)
  | hydrated (blocks : List IngestedBlock)
  | handled (notification : ChainNotification) (answer : GapAnswer)
      (fetched : List IngestedBlock) (persisted : List BlockAuditRecord)

def BlockAuditRecord.row (record : BlockAuditRecord) : RpcBlockAuditRecord where
  blockHash := record.blockHash
  daaScore := record.daaScore.toInt64
  servedBy := record.servedBy

namespace MultiRpcClient

variable (upstream : Upstream)

/-- The blocks a batch fetch is served, up to the first hash that no endpoint serves. -/
def served (client : MultiRpcClient) : List String → List IngestedBlock
  | [] => []
  | hash :: rest =>
      match client.fetchBlock upstream hash with
      | (.error _, _) => []
      | (.ok block, client) => block :: client.served rest

/-- The blocks a recovery is served. -/
def servedInDaaRange (client : MultiRpcClient) (startHash : String) : List IngestedBlock :=
  let (endpoints, client) := client.nextChain
  match client.tryEndpoints (upstream.virtualChainFromBlock · · startHash) none endpoints with
  | (.error _, _) => []
  | (.ok (_, addedHashes), client) => client.served upstream addedHashes

end MultiRpcClient

/-- The blocks the recovery of a gap is served. -/
def servedForGap (upstream : Upstream) (client : MultiRpcClient)
    (gapRecoveryBlockHashes : List String) (state : IngestionState δ) (fromDaa : UInt64) :
    List IngestedBlock :=
  match state.recoveryAnchorHash fromDaa with
  | some anchorHash => client.servedInDaaRange upstream anchorHash
  | none => client.served upstream gapRecoveryBlockHashes

namespace Ingesting

/-- The state in which the loop starts on a live set. -/
def start (registry : Registry) (backend : Backend δ) (runtimes : List (SubgraphRuntime δ))
    (client : MultiRpcClient) : Ingesting δ :=
  { registry, backend, runtimes, client, processed := 0 }

variable (env : Environment δ) (upstream : Upstream) (config : ContinuousConfig)

/-- Hand a notification to every runtime. -/
def fanOut (state : Ingesting δ) (notification : ChainNotification) :
    Except LoopExit NotificationOutcome × Ingesting δ :=
  match run exec (fanOutNotification env.indexer state.runtimes notification) state.backend with
  | (.ok (some outcome, runtimes), backend) => (.ok outcome, { state with runtimes, backend })
  | (.ok (none, _), backend) => (.error .noRuntimes, { state with backend })
  | (.error cause, backend) => (.error (.persistence cause), { state with backend })

/-- Write what the client fetched to the audit table. -/
def persistDrainedRpcAudit (state : Ingesting δ) : List BlockAuditRecord × Ingesting δ :=
  let (drained, client) := state.client.drainAuditLog
  (drained, { state with
    client
    backend := { state.backend with
      store := drained.foldl (fun store record => store.insertRpcBlockAudit record.row)
        state.backend.store } })

/-- The end of a turn: persist the audit records, then look at the limit. -/
def finishTurn (state : Ingesting δ) : List BlockAuditRecord × Turn LoopExit (Ingesting δ) :=
  let (drained, state) := state.persistDrainedRpcAudit
  if config.maxMessages ≠ 0 ∧ config.maxMessages ≤ state.processed then
    (drained, .exit .reachedMaxMessages state)
  else
    (drained, .next state)

/-- Answer an announced gap and finish the turn. A gap that cannot be recovered skips the rest
of the turn, the limit included. -/
def answerGap (state : Ingesting δ) (notification : ChainNotification) (first : SubgraphRuntime δ)
    (fromDaa toDaa : UInt64) :
    LoopNote env.configured × Turn LoopExit (Ingesting δ) :=
  let blocks := servedForGap upstream state.client config.gapRecoveryBlockHashes first.ingestion
    fromDaa
  match recoverGap upstream state.client config.gapRecoveryBlockHashes first.ingestion
      fromDaa toDaa with
  | none => (.handled notification .skipped [] [], .next state)
  | some (.error cause, client) =>
      let (drained, turn) := finishTurn config { state with client }
      (.handled notification (.failed cause) blocks drained, turn)
  | some (.ok recovery, client) =>
      match fanOut env { state with client } recovery with
      | (.error reason, state) =>
          (.handled notification (.recovered recovery) blocks [], .exit reason state)
      | (.ok _, state) =>
          let (drained, turn) := finishTurn config state
          (.handled notification (.recovered recovery) blocks drained, turn)

/-- Handle one message. -/
def receive (state : Ingesting δ) (notification : ChainNotification) :
    LoopNote env.configured × Turn LoopExit (Ingesting δ) :=
  match state.fanOut env notification with
  | (.error reason, state) => (.handled notification .notAsked [] [], .exit reason state)
  | (.ok outcome, state) =>
      let state := { state with processed := saturatingAddU64 state.processed 1 }
      match outcome.recoveryRequested with
      | none =>
          let (drained, turn) := finishTurn config state
          (.handled notification .notAsked [] drained, turn)
      | some (fromDaa, toDaa) =>
          match state.runtimes with
          | [] => (.handled notification .notAsked [] [], .exit .indexOutOfBounds state)
          | first :: _ => state.answerGap env upstream config notification first fromDaa toDaa

/-- A reload that fails keeps the current set. -/
def reload (state : Ingesting δ) (loader : Loader env.configured) : Ingesting δ :=
  match reconcileSubgraphRuntimes env loader state.backend state.registry state.runtimes with
  | .ok (_, runtimes) => { state with runtimes }
  | .error _ => state

/-- One turn of the loop, with what it reports. -/
def wake (state : Ingesting δ) :
    Wake env.configured → List (LoopNote env.configured) × Turn LoopExit (Ingesting δ)
  | .deploy name row =>
      ([.event (.deploy name row)],
        .next { state with registry := state.registry.upsertSubgraphDeployment name row })
  | .remove name =>
      ([.event (.remove name)],
        .next { state with registry := state.registry.setSubgraphRemoved name })
  | .hydrate blockHashes =>
      ([.hydrated (state.client.served upstream blockHashes)],
        .next { state with client := (state.client.fetchBlocks upstream blockHashes).2 })
  | .reload loader =>
      if config.reloadSecs = 0 then ([], .next state)
      else ([.event (.reload loader)], .next (state.reload env loader))
  | .ctrlC => ([], .exit .interrupted state)
  | .receive none => ([], .exit .channelClosed state)
  | .receive (some notification) =>
      let (note, turn) := state.receive env upstream config notification
      ([note], turn)

/-- The loop over what comes up. -/
def loop (state : Ingesting δ) (wakes : List (Wake env.configured)) :
    Turn LoopExit (Ingesting δ) :=
  runEach (fun input state => (wake env upstream config state input).2) state wakes

/-- What the loop reports. -/
def notes (state : Ingesting δ) (wakes : List (Wake env.configured)) :
    List (LoopNote env.configured) :=
  noteEach (fun input state => (wake env upstream config state input).2)
    (fun input state => (wake env upstream config state input).1) state wakes

end Ingesting

/-! ## The whole mode -/

/-- Continuous ingestion on a live set: the checks before the loop, and the state the loop
starts in. -/
def startContinuousIngestion (probe : Nat → RpcEndpoint → Except RpcError LiveRpcCapabilities)
    (config : ContinuousConfig) (rpcClient : Option MultiRpcClient) :
    Except LoopExit MultiRpcClient := do
  let wsUrl ← (validateContinuousConfig config).mapError .misconfigured
  let (probed, client) :=
    (driverClient rpcClient config.servedBy wsUrl).probeLiveCapabilities probe
  let capabilities ← probed.mapError .unreachable
  (validateLiveCapabilities capabilities).mapError .misconfigured
  return client

end KasGraph
