import KasGraph.ContinuousLoop

set_option autoImplicit false

/-! The continuous loop is a run of the node. It hands over the messages it receives, each gap
followed by at most one recovery, and reloads the live set; beside that it only writes audit rows,
which nothing else reads. -/

namespace KasGraph

open EffectProgram MachineInt TurnMachine

variable {δ : Type}

/-! ## Audit rows are not read -/

def Store.unaudited (store : Store δ) : Store δ := { store with kasgraphRpcBlockAudit := [] }

def Backend.unaudited (backend : Backend δ) : Backend δ :=
  { backend with store := backend.store.unaudited }

theorem Store.exists_audits {left right : Store δ} (alike : left.unaudited = right.unaudited) :
    ∃ audits, left = { right with kasgraphRpcBlockAudit := audits } := by
  refine ⟨left.kasgraphRpcBlockAudit, ?_⟩
  cases left
  cases right
  simpa [Store.unaudited] using alike

theorem Store.onRelation_unaudited {α : Type} {left right : Store δ} (subgraph : SubgraphId)
    (table : String) (result : α) {after after' : Store δ}
    (alike : left.unaudited = right.unaudited) (effects : after.unaudited = after'.unaudited) :
    (left.onRelation subgraph table result after).1 =
        (right.onRelation subgraph table result after').1 ∧
      (left.onRelation subgraph table result after).2.unaudited =
        (right.onRelation subgraph table result after').2.unaudited := by
  have relations := congrArg Store.relations alike
  change left.relations = right.relations at relations
  unfold Store.onRelation
  rw [relations]
  split
  · exact ⟨rfl, effects⟩
  · exact ⟨rfl, alike⟩

theorem Store.insertCovenantLineageRow_unaudited (store : Store δ)
    (audits : List RpcBlockAuditRecord) (row : CovenantLineageRow) :
    let other := { store with kasgraphRpcBlockAudit := audits }
    (other.insertCovenantLineageRow row).1 = (store.insertCovenantLineageRow row).1 ∧
      (other.insertCovenantLineageRow row).2.unaudited =
        (store.insertCovenantLineageRow row).2.unaudited := by
  intro other
  by_cases taken : ((store.kasgraphCovenantLineageRow.find? row.key).isSome ||
    store.covenantLineageRowExists row.covenantId row.txHash row.outputIndex) = true
  · rw [show other.insertCovenantLineageRow row = (.error _, other) from if_pos taken,
      show store.insertCovenantLineageRow row = (.error _, store) from if_pos taken]
    exact ⟨rfl, rfl⟩
  · rw [show other.insertCovenantLineageRow row = ite _ _ _ from if_neg taken,
      show store.insertCovenantLineageRow row = ite _ _ _ from if_neg taken]
    by_cases headless : (store.kasgraphCovenantLineageHead.find? row.covenantId).isNone = true
    · rw [if_pos headless, if_pos headless]
      exact ⟨rfl, rfl⟩
    · rw [if_neg headless, if_neg headless]
      exact ⟨rfl, rfl⟩

/-- Stores that differ in audit rows alone answer alike and are left alike. -/
theorem NodeOp.onStore_unaudited (op : NodeOp δ) {left right : Store δ}
    (alike : left.unaudited = right.unaudited) :
    (op.onStore left).1 = (op.onStore right).1 ∧
      (op.onStore left).2.unaudited = (op.onStore right).2.unaudited := by
  obtain ⟨audits, rfl⟩ := Store.exists_audits alike
  cases op with
  | upsertEntityVersion _ | snapshotEntities _ | trackCovenantUtxo _ | lookupCovenantUtxo _ _ _
  | covenantUtxosCreatedByTx _ _ | covenantLineageContinues _ _ _ | recordCovenantSpend _
  | unwindEntityVersions _ _ | unwindCovenantUtxos _ _ | unwindCovenantSpends _ _ =>
      exact Store.onRelation_unaudited _ _ _ rfl rfl
  | upsertCovenantLineageHead head =>
      simp only [onStore, Store.upsertCovenantLineageHead]
      split <;> exact ⟨rfl, rfl⟩
  | insertCovenantLineageRow row =>
      exact Store.insertCovenantLineageRow_unaudited right audits row
  | unwindCovenantLineage subgraph cutoff =>
      simp only [onStore, Store.unwindCovenantLineage]
      split <;> exact ⟨rfl, rfl⟩
  | _ => exact ⟨rfl, rfl⟩

theorem exec_unaudited (request : Request δ) {left right : Backend δ}
    (alike : left.unaudited = right.unaudited) :
    (exec request left).1 = (exec request right).1 ∧
      (exec request left).2.unaudited = (exec request right).2.unaudited := by
  have stores := congrArg Backend.store alike
  have published := congrArg Backend.published alike
  change left.store.unaudited = right.store.unaudited at stores
  change left.published = right.published at published
  obtain ⟨answers, effects⟩ := request.op.onStore_unaudited stores
  simp only [exec, Backend.unaudited, answers, effects, published, and_self]

theorem run_unaudited {α : Type} (program : NodeProgram δ α) {left right : Backend δ}
    (alike : left.unaudited = right.unaudited) :
    (run exec program left).1 = (run exec program right).1 ∧
      (run exec program left).2.unaudited = (run exec program right).2.unaudited :=
  @run_agree_of_log (signature δ) NodeError α (Backend δ) Empty exec (fun _ _ => [])
    (fun left right => left.unaudited = right.unaudited) (fun _ => True)
    (fun request _ _ alike _ => exec_unaudited request alike) program left right alike
    (fun _ _ => trivial)

/-! ## Nodes -/

theorem makeRuntime_unaudited (env : Environment δ) {left right : Backend δ}
    (alike : left.unaudited = right.unaudited) (subgraph : SubgraphId)
    (mapping : MappingOf subgraph) :
    makeRuntime env left subgraph mapping = makeRuntime env right subgraph mapping := by
  unfold makeRuntime
  rw [(run_unaudited _ alike).1]

theorem reconcileSubgraphRuntimes_unaudited (env : Environment δ) (loader : Loader env.configured)
    {left right : Backend δ} (alike : left.unaudited = right.unaudited) (registry : Registry)
    (runtimes : List (SubgraphRuntime δ)) :
    reconcileSubgraphRuntimes env loader left registry runtimes =
      reconcileSubgraphRuntimes env loader right registry runtimes := by
  have building : buildDeployment env loader left = buildDeployment env loader right := by
    funext deployment
    unfold buildDeployment
    simp only [makeRuntime_unaudited env alike]
  unfold reconcileSubgraphRuntimes
  rw [building]

namespace Ingesting

variable {env : Environment δ} {upstream : Upstream} {config : ContinuousConfig}

/-- A node that looks like the loop's, audit rows aside. -/
structure Matches (state : Ingesting δ) (node : Node δ) : Prop where
  registry : node.registry = state.registry
  backend : node.backend.unaudited = state.backend.unaudited
  live : node.live = some state.runtimes

/-- A node that looks like what an ended loop leaves. -/
structure Left (state : Ingesting δ) (node : Node δ) : Prop where
  registry : node.registry = state.registry
  backend : node.backend.unaudited = state.backend.unaudited

theorem Matches.left {state : Ingesting δ} {node : Node δ} (matched : state.Matches node) :
    state.Left node := ⟨matched.registry, matched.backend⟩

/-- A fan-out is the node's step on the notification. -/
theorem fanOut_follows {state : Ingesting δ} {node : Node δ} (matched : state.Matches node)
    (notification : ChainNotification) :
    match state.fanOut env notification with
    | (.ok _, after) => after.Matches (node.step env (.notify notification))
    | (.error _, after) => after.Left (node.step env (.notify notification)) := by
  obtain ⟨answers, effects⟩ := run_unaudited
    (fanOutNotification env.indexer state.runtimes notification) matched.backend
  unfold fanOut
  simp only [Node.step, Node.notify, matched.live]
  rcases here : run exec (fanOutNotification env.indexer state.runtimes notification)
    state.backend with ⟨cause | ⟨_ | outcome, runtimes⟩, backend⟩ <;>
  · rcases there : run exec (fanOutNotification env.indexer state.runtimes notification)
      node.backend with ⟨answer, backend'⟩
    rw [here, there] at answers effects
    simp only at answers effects
    subst answers
    constructor <;> first | exact matched.registry | exact effects | rfl

/-- The audit rows of a drain are all that it changes in the store. -/
theorem persistDrainedRpcAudit_backend (state : Ingesting δ) :
    state.persistDrainedRpcAudit.2.backend.unaudited = state.backend.unaudited := by
  have rows : ∀ (records : List BlockAuditRecord) (store : Store δ),
      (records.foldl (fun store record => store.insertRpcBlockAudit record.row) store).unaudited =
        store.unaudited := by
    intro records
    induction records with
    | nil => exact fun _ => rfl
    | cons record records ih => exact fun store => ih _
  simp only [persistDrainedRpcAudit, MultiRpcClient.drainAuditLog, Backend.unaudited, rows]

theorem finishTurn_follows {state : Ingesting δ} {node : Node δ} (matched : state.Matches node) :
    (finishTurn config state).2.Satisfies (·.Matches node) (fun _ after => after.Left node) := by
  have kept : state.persistDrainedRpcAudit.2.Matches node :=
    ⟨matched.registry, matched.backend.trans state.persistDrainedRpcAudit_backend.symm,
      matched.live⟩
  unfold finishTurn
  simp only
  split
  · exact kept.left
  · exact kept

end Ingesting

/-- The node's events that the loop's reports stand for. -/
def LoopNote.events {configured : SubgraphId} : LoopNote configured → List (NodeEvent configured)
  | .event happened => [happened]
  | .hydrated _ => []
  | .handled notification (.recovered recovery) _ _ => [.notify notification, .notify recovery]
  | .handled notification _ _ _ => [.notify notification]

namespace Ingesting

variable {env : Environment δ} {upstream : Upstream} {config : ContinuousConfig}

/-- The state after the fan-out of a message that counts. -/
def counted (state : Ingesting δ) : Ingesting δ :=
  { state with processed := saturatingAddU64 state.processed 1 }

/-- The ways in which a message is handled. -/
inductive Received (env : Environment δ) (upstream : Upstream) (config : ContinuousConfig)
    (state : Ingesting δ) (notification : ChainNotification) :
    LoopNote env.configured → Turn LoopExit (Ingesting δ) → Prop where
  | refused {reason : LoopExit} {after : Ingesting δ}
      (handed : state.fanOut env notification = (.error reason, after)) :
      Received env upstream config state notification (.handled notification .notAsked [] [])
        (.exit reason after)
  | plain {outcome : NotificationOutcome} {after : Ingesting δ}
      (handed : state.fanOut env notification = (.ok outcome, after))
      (quiet : outcome.recoveryRequested = none) :
      Received env upstream config state notification
        (.handled notification .notAsked [] after.counted.client.auditLog)
        (finishTurn config after.counted).2
  | outOfBounds {outcome : NotificationOutcome} {after : Ingesting δ}
      (handed : state.fanOut env notification = (.ok outcome, after))
      (empty : after.runtimes = []) :
      Received env upstream config state notification (.handled notification .notAsked [] [])
        (.exit .indexOutOfBounds after.counted)
  | skipped {outcome : NotificationOutcome} {after : Ingesting δ} {first : SubgraphRuntime δ}
      {fromDaa toDaa : UInt64} (handed : state.fanOut env notification = (.ok outcome, after))
      (asked : outcome.recoveryRequested = some (fromDaa, toDaa))
      (unanswered : recoverGap upstream after.client config.gapRecoveryBlockHashes first.ingestion
        fromDaa toDaa = none) :
      Received env upstream config state notification (.handled notification .skipped [] [])
        (.next after.counted)
  | failed {outcome : NotificationOutcome} {after : Ingesting δ} {first : SubgraphRuntime δ}
      {fromDaa toDaa : UInt64} {cause : RpcError} {client : MultiRpcClient}
      (handed : state.fanOut env notification = (.ok outcome, after))
      (asked : outcome.recoveryRequested = some (fromDaa, toDaa))
      (answered : recoverGap upstream after.client config.gapRecoveryBlockHashes first.ingestion
        fromDaa toDaa = some (.error cause, client)) :
      Received env upstream config state notification
        (.handled notification (.failed cause) (servedForGap upstream after.client
          config.gapRecoveryBlockHashes first.ingestion fromDaa) client.auditLog)
        (finishTurn config { after.counted with client }).2
  | unrecovered {outcome : NotificationOutcome} {after last : Ingesting δ}
      {first : SubgraphRuntime δ} {fromDaa toDaa : UInt64} {recovery : ChainNotification}
      {client : MultiRpcClient} {reason : LoopExit}
      (handed : state.fanOut env notification = (.ok outcome, after))
      (asked : outcome.recoveryRequested = some (fromDaa, toDaa))
      (answered : recoverGap upstream after.client config.gapRecoveryBlockHashes first.ingestion
        fromDaa toDaa = some (.ok recovery, client))
      (again : fanOut env { after.counted with client } recovery = (.error reason, last)) :
      Received env upstream config state notification
        (.handled notification (.recovered recovery) (servedForGap upstream after.client
          config.gapRecoveryBlockHashes first.ingestion fromDaa) [])
        (.exit reason last)
  | recovered {outcome second : NotificationOutcome} {after last : Ingesting δ}
      {first : SubgraphRuntime δ} {fromDaa toDaa : UInt64} {recovery : ChainNotification}
      {client : MultiRpcClient} (handed : state.fanOut env notification = (.ok outcome, after))
      (asked : outcome.recoveryRequested = some (fromDaa, toDaa))
      (answered : recoverGap upstream after.client config.gapRecoveryBlockHashes first.ingestion
        fromDaa toDaa = some (.ok recovery, client))
      (again : fanOut env { after.counted with client } recovery = (.ok second, last)) :
      Received env upstream config state notification
        (.handled notification (.recovered recovery) (servedForGap upstream after.client
          config.gapRecoveryBlockHashes first.ingestion fromDaa) last.client.auditLog)
        (finishTurn config last).2

theorem finishTurn_fst (state : Ingesting δ) :
    (finishTurn config state).1 = state.client.auditLog := by
  unfold finishTurn
  simp only
  split <;> rfl

theorem receive_cases (state : Ingesting δ) (notification : ChainNotification) :
    Received env upstream config state notification
      (state.receive env upstream config notification).1
      (state.receive env upstream config notification).2 := by
  unfold receive
  rcases handed : fanOut env state notification with ⟨reason | outcome, after⟩
  · exact .refused handed
  · obtain ⟨registry, backend, runtimes, client, processed⟩ := after
    simp only
    cases asked : outcome.recoveryRequested with
    | none =>
        simp only [finishTurn_fst]
        exact .plain handed asked
    | some range =>
        cases runtimes with
        | nil => exact .outOfBounds handed rfl
        | cons first rest =>
            simp only [answerGap]
            rcases answered : recoverGap upstream client config.gapRecoveryBlockHashes
              first.ingestion range.1 range.2 with _ | ⟨cause | recovery, client'⟩
            · exact .skipped handed asked answered
            · simp only [finishTurn_fst]
              exact .failed handed asked answered
            · simp only
              rcases again : fanOut env (Ingesting.mk registry backend (first :: rest) client'
                (saturatingAddU64 processed 1)) recovery with ⟨reason | second, last⟩
              · exact .unrecovered handed asked answered again
              · simp only [finishTurn_fst]
                exact .recovered handed asked answered again

theorem fanOut_ok_follows {state after : Ingesting δ} {node : Node δ}
    {outcome : NotificationOutcome} {notification : ChainNotification}
    (matched : state.Matches node)
    (handed : state.fanOut env notification = (.ok outcome, after)) :
    after.Matches (node.step env (.notify notification)) := by
  have followed := @fanOut_follows δ env _ _ matched notification
  rw [handed] at followed
  exact followed

theorem fanOut_error_follows {state after : Ingesting δ} {node : Node δ} {reason : LoopExit}
    {notification : ChainNotification} (matched : state.Matches node)
    (handed : state.fanOut env notification = (.error reason, after)) :
    after.Left (node.step env (.notify notification)) := by
  have followed := @fanOut_follows δ env _ _ matched notification
  rw [handed] at followed
  exact followed

theorem Matches.withClient {state : Ingesting δ} {node : Node δ} (matched : state.Matches node)
    (client : MultiRpcClient) : { state.counted with client }.Matches node :=
  ⟨matched.registry, matched.backend, matched.live⟩

theorem Matches.counted {state : Ingesting δ} {node : Node δ} (matched : state.Matches node) :
    state.counted.Matches node :=
  ⟨matched.registry, matched.backend, matched.live⟩

/-- Handling a message is the node's step on it, and on the recovery it led to. -/
theorem Received.follows {state : Ingesting δ} {node : Node δ} (matched : state.Matches node)
    {notification : ChainNotification} {note : LoopNote env.configured}
    {turn : Turn LoopExit (Ingesting δ)}
    (received : Received env upstream config state notification note turn) :
    turn.Satisfies (·.Matches (node.runEach env note.events))
      (fun _ after => after.Left (node.runEach env note.events)) := by
  cases received with
  | refused handed => exact fanOut_error_follows matched handed
  | plain handed quiet => exact finishTurn_follows (fanOut_ok_follows matched handed).counted
  | outOfBounds handed empty => exact (fanOut_ok_follows matched handed).counted.left
  | skipped handed asked unanswered => exact (fanOut_ok_follows matched handed).counted
  | failed handed asked answered =>
      exact finishTurn_follows ((fanOut_ok_follows matched handed).withClient _)
  | unrecovered handed asked answered again =>
      exact fanOut_error_follows ((fanOut_ok_follows matched handed).withClient _) again
  | recovered handed asked answered again =>
      exact finishTurn_follows
        (fanOut_ok_follows ((fanOut_ok_follows matched handed).withClient _) again)

theorem reload_follows {state : Ingesting δ} {node : Node δ} (matched : state.Matches node)
    (loader : Loader env.configured) :
    (state.reload env loader).Matches (node.step env (.reload loader)) := by
  have same := reconcileSubgraphRuntimes_unaudited env loader matched.backend state.registry
    state.runtimes
  unfold reload
  simp only [Node.step, Node.reload, matched.live, matched.registry, same]
  cases reconcileSubgraphRuntimes env loader state.backend state.registry state.runtimes with
  | error cause => exact matched
  | ok result => exact ⟨rfl, matched.backend, rfl⟩

theorem wake_follows {state : Ingesting δ} {node : Node δ} (matched : state.Matches node)
    (input : Wake env.configured) :
    let turned := wake env upstream config state input
    turned.2.Satisfies (·.Matches (node.runEach env (turned.1.flatMap LoopNote.events)))
      (fun _ after => after.Left (node.runEach env (turned.1.flatMap LoopNote.events))) := by
  intro turned
  cases input with
  | deploy name row =>
      exact ⟨congrArg (·.upsertSubgraphDeployment name row) matched.registry, matched.backend,
        matched.live⟩
  | remove name =>
      exact ⟨congrArg (·.setSubgraphRemoved name) matched.registry, matched.backend, matched.live⟩
  | hydrate blockHashes => exact ⟨matched.registry, matched.backend, matched.live⟩
  | reload loader =>
      simp only [turned, wake]
      split
      · exact matched
      · exact reload_follows matched loader
  | ctrlC => exact matched.left
  | receive message =>
      cases message with
      | none => exact matched.left
      | some notification =>
          have followed := (@receive_cases δ env upstream config state notification).follows matched
          simp only [turned, wake, List.flatMap_cons, List.flatMap_nil, List.append_nil]
          exact followed

/-- Along every run of the loop there is a run of the node that looks the same. -/
theorem loop_follows {state : Ingesting δ} {node : Node δ} (matched : state.Matches node)
    (wakes : List (Wake env.configured)) :
    (state.loop env upstream config wakes).Satisfies
      (·.Matches (node.runEach env ((state.notes env upstream config wakes).flatMap
        LoopNote.events)))
      (fun _ after => after.Left (node.runEach env ((state.notes env upstream config
        wakes).flatMap LoopNote.events))) := by
  have folded : ∀ notes : List (LoopNote env.configured), ∀ node : Node δ,
      notes.foldl (fun node note => node.runEach env note.events) node =
        node.runEach env (notes.flatMap LoopNote.events) := by
    intro notes node
    unfold Node.runEach
    rw [List.foldl_flatMap]
  have each : ∀ (input : Wake env.configured) (state : Ingesting δ) (node : Node δ),
      state.Matches node → (wake env upstream config state input).2.Satisfies
        (·.Matches ((wake env upstream config state input).1.foldl
          (fun node note => node.runEach env note.events) node))
        (fun _ after => after.Left ((wake env upstream config state input).1.foldl
          (fun node note => node.runEach env note.events) node)) := by
    intro input state node matched
    rw [folded]
    exact wake_follows matched input
  have followed := @runEach_simulates _ _ _ _ _ _ _ _ _ _ each wakes _ _ matched
  rw [folded] at followed
  exact followed

/-! ## What the reports say -/

end Ingesting

def IngestedBlock.audit (block : IngestedBlock) : BlockAuditRecord :=
  ⟨block.hash, block.daaScore, block.servedBy⟩

namespace MultiRpcClient

variable {upstream : Upstream}

theorem tryEndpoints_auditLog {α : Type} (ask : Nat → RpcEndpoint → Except RpcError α)
    (endpoints : List RpcEndpoint) (client : MultiRpcClient) (lastErr : Option RpcError) :
    (client.tryEndpoints ask lastErr endpoints).2.auditLog = client.auditLog := by
  induction endpoints generalizing client lastErr with
  | nil => rfl
  | cons endpoint rest ih =>
      unfold tryEndpoints
      simp only
      cases ask client.asked endpoint with
      | ok value => rfl
      | error cause => exact ih _ _

/-- A fetch appends what it was served to the log, and it serves what it returns. -/
theorem fetchBlocks_served (client : MultiRpcClient) (hashes : List String) :
    (client.fetchBlocks upstream hashes).2.auditLog =
        client.auditLog ++ (client.served upstream hashes).map IngestedBlock.audit ∧
      ∀ blocks, (client.fetchBlocks upstream hashes).1 = .ok blocks →
        client.served upstream hashes = blocks := by
  induction hashes generalizing client with
  | nil =>
      refine ⟨(List.append_nil _).symm, ?_⟩
      intro blocks fetched
      cases fetched
      rfl
  | cons hash rest ih =>
      have asked := tryEndpoints_auditLog (upstream.getBlock · · hash) client.nextChain.1
        client.nextChain.2 none
      unfold fetchBlocks served fetchBlock
      simp only
      rcases answered : tryEndpoints (upstream.getBlock · · hash) client.nextChain.2 none
        client.nextChain.1 with ⟨cause | block, middle⟩
      · rw [answered] at asked
        refine ⟨?_, ?_⟩
        · simp only [List.map_nil, List.append_nil]
          exact asked
        · intro blocks fetched
          cases fetched
      · rw [answered] at asked
        obtain ⟨logged, returned⟩ := ih (middle.recordAudit block)
        have recorded : (middle.recordAudit block).auditLog =
            client.auditLog ++ [block.audit] := by
          rw [← show middle.auditLog = client.auditLog from asked]
          rfl
        rw [recorded] at logged
        simp only [List.map_cons]
        rcases later : (middle.recordAudit block).fetchBlocks upstream rest with
          ⟨cause | others, last⟩
        · rw [later] at logged
          refine ⟨?_, ?_⟩
          · simpa using logged
          · intro blocks fetched
            cases fetched
        · rw [later] at logged returned
          refine ⟨?_, ?_⟩
          · simpa using logged
          · intro blocks fetched
            cases fetched
            rw [returned others rfl]

theorem servedInDaaRange_spec (client : MultiRpcClient) (startHash : String)
    (fromDaa toDaa : UInt64) :
    let blocks := client.servedInDaaRange upstream startHash
    let recovered := client.recoverBlocksInDaaRange upstream startHash fromDaa toDaa
    recovered.2.auditLog = client.auditLog ++ blocks.map IngestedBlock.audit ∧
      ∀ recovery, recovered.1 = .ok recovery →
        ∃ removed, recovery = .virtualChainChanged removed
          (blocks.filter (inDaaRange fromDaa toDaa)) := by
  intro blocks recovered
  have asked := tryEndpoints_auditLog (upstream.virtualChainFromBlock · · startHash)
    client.nextChain.1 client.nextChain.2 none
  simp only [blocks, recovered, servedInDaaRange, recoverBlocksInDaaRange]
  rcases answered : tryEndpoints (upstream.virtualChainFromBlock · · startHash)
    client.nextChain.2 none client.nextChain.1 with ⟨cause | ⟨removed, added⟩, middle⟩
  · rw [answered] at asked
    refine ⟨?_, ?_⟩
    · rw [List.map_nil, List.append_nil]
      exact asked
    · intro recovery returned
      cases returned
  · rw [answered] at asked
    have kept : middle.auditLog = client.auditLog := asked
    obtain ⟨logged, returned⟩ := @fetchBlocks_served upstream middle added
    simp only
    rcases fetched : middle.fetchBlocks upstream added with ⟨cause | others, last⟩
    · rw [fetched] at logged
      refine ⟨?_, ?_⟩
      · rw [← kept]
        exact logged
      · intro recovery returned
        cases returned
    · rw [fetched] at logged returned
      refine ⟨?_, ?_⟩
      · rw [← kept]
        exact logged
      · intro recovery answer
        cases answer
        rw [returned others rfl]
        exact ⟨removed, rfl⟩

theorem recoverBlocksByHashes_spec (client : MultiRpcClient) (hashes : List String)
    (fromDaa toDaa : UInt64) :
    let blocks := client.served upstream hashes
    let recovered := client.recoverBlocksByHashes upstream hashes fromDaa toDaa
    recovered.2.auditLog = client.auditLog ++ blocks.map IngestedBlock.audit ∧
      ∀ recovery, recovered.1 = .ok recovery →
        ∃ removed, recovery = .virtualChainChanged removed
          (blocks.filter (inDaaRange fromDaa toDaa)) := by
  intro blocks recovered
  obtain ⟨logged, returned⟩ := @fetchBlocks_served upstream client hashes
  simp only [blocks, recovered, recoverBlocksByHashes]
  rcases fetched : client.fetchBlocks upstream hashes with ⟨cause | others, last⟩
  · rw [fetched] at logged
    refine ⟨logged, ?_⟩
    intro recovery answer
    cases answer
  · rw [fetched] at logged returned
    refine ⟨logged, ?_⟩
    intro recovery answer
    cases answer
    rw [returned others rfl]
    exact ⟨[], rfl⟩

end MultiRpcClient

/-- A gap is answered with the blocks of its range among those served. -/
theorem recoverGap_spec {upstream : Upstream} {client after : MultiRpcClient}
    {hashes : List String} {state : IngestionState δ} {fromDaa toDaa : UInt64}
    {answer : Except RpcError ChainNotification}
    (answered : recoverGap upstream client hashes state fromDaa toDaa = some (answer, after)) :
    let blocks := servedForGap upstream client hashes state fromDaa
    after.auditLog = client.auditLog ++ blocks.map IngestedBlock.audit ∧
      ∀ recovery, answer = .ok recovery →
        ∃ removed, recovery = .virtualChainChanged removed
          (blocks.filter (inDaaRange fromDaa toDaa)) := by
  unfold recoverGap at answered
  unfold servedForGap
  cases anchored : state.recoveryAnchorHash fromDaa with
  | some anchorHash =>
      simp only [anchored, Option.some.injEq] at answered
      have spec := @MultiRpcClient.servedInDaaRange_spec upstream client anchorHash fromDaa toDaa
      rw [answered] at spec
      exact spec
  | none =>
      simp only [anchored, Option.ite_none_left_eq_some, Option.some.injEq] at answered
      have spec := @MultiRpcClient.recoverBlocksByHashes_spec upstream client hashes fromDaa toDaa
      rw [answered.2] at spec
      exact spec

theorem IngestionState.applyBlock_recoveryRequested (state : IngestionState δ)
    (block : BootstrapBlock) : (state.applyBlock block).1.recoveryRequested = none := by
  unfold applyBlock
  simp only
  split
  · rfl
  · split <;> rfl

/-- Only a recovery request asks for a recovery. -/
theorem notify_recoveryRequested {indexer : Indexer δ} {runtime after : SubgraphRuntime δ}
    {notification : ChainNotification} {outcome : NotificationOutcome} {before final : Backend δ}
    {fromDaa toDaa : UInt64}
    (ran : run exec (runtime.notify indexer notification) before = (.ok (outcome, after), final))
    (asked : outcome.recoveryRequested = some (fromDaa, toDaa)) :
    ∃ reason, notification = .recoveryRequired fromDaa toDaa reason := by
  unfold SubgraphRuntime.notify applyAndPersistNotification at ran
  obtain ⟨⟨result, state⟩, middle, applied, returned⟩ := (run_bind_ok_iff exec _ _ _ _ _).mp ran
  simp only [run_pure, Prod.mk.injEq, Except.ok.injEq] at returned
  obtain ⟨⟨rfl, -⟩, -⟩ := returned
  cases transited : runtime.ingestion.applyNotification indexer.toolkit notification with
  | error cause =>
      rw [transited] at applied
      cases applied
  | ok result =>
      obtain ⟨transition, ingestion⟩ := result
      rw [transited] at applied
      obtain ⟨digest, last, persisted, ended⟩ := (run_bind_ok_iff exec _ _ _ _ _).mp applied
      simp only [run_pure, Prod.mk.injEq, Except.ok.injEq] at ended
      obtain ⟨⟨rfl, -⟩, -⟩ := ended
      cases notification with
      | blockAdded block =>
          have quiet := IngestionState.applyBlock_recoveryRequested runtime.ingestion
            (blockFromRpc indexer.toolkit block)
          have same : _ = transition := congrArg Prod.fst (Except.ok.inj transited)
          change transition.recoveryRequested = _ at asked
          rw [← same, quiet] at asked
          cases asked
      | virtualChainChanged removed added =>
          cases transited
          cases asked
      | recoveryRequired fromDaaScore toDaaScore reason =>
          obtain ⟨rfl, -⟩ := IngestionState.applyNotification_recoveryRequired transited
          cases asked
          exact ⟨reason, rfl⟩

namespace Ingesting

variable {env : Environment δ} {upstream : Upstream} {config : ContinuousConfig}

/-- A fan-out that succeeds went to some runtime, and it asks for a recovery only when the
notification does. -/
theorem fanOut_ok {state after : Ingesting δ} {notification : ChainNotification}
    {outcome : NotificationOutcome}
    (handed : state.fanOut env notification = (.ok outcome, after)) :
    after.runtimes ≠ [] ∧ after.client = state.client ∧ after.processed = state.processed ∧
      ∀ fromDaa toDaa, outcome.recoveryRequested = some (fromDaa, toDaa) →
        ∃ reason, notification = .recoveryRequired fromDaa toDaa reason := by
  unfold fanOut at handed
  rcases ran : run exec (fanOutNotification env.indexer state.runtimes notification)
    state.backend with ⟨cause | ⟨_ | first, runtimes⟩, backend⟩ <;> rw [ran] at handed
  · cases handed
  · cases handed
  · cases handed
    unfold fanOutNotification at ran
    obtain ⟨outcomes, middle, notified, returned⟩ := (run_bind_ok_iff exec _ _ _ _ _).mp ran
    simp only [run_pure, Prod.mk.injEq, Except.ok.injEq] at returned
    obtain ⟨⟨head, rfl⟩, -⟩ := returned
    cases live : state.runtimes with
    | nil =>
        rw [live] at notified
        cases notified
        cases head
    | cons runtime rest =>
        rw [live, List.mapM_cons] at notified
        obtain ⟨result, between, led, rest⟩ := (run_bind_ok_iff exec _ _ _ _ _).mp notified
        obtain ⟨others, last, later, collected⟩ := (run_bind_ok_iff exec _ _ _ _ _).mp rest
        simp only [run_pure, Prod.mk.injEq, Except.ok.injEq] at collected
        obtain ⟨rfl, -⟩ := collected
        cases head
        refine ⟨List.cons_ne_nil _ _, rfl, rfl, ?_⟩
        intro fromDaa toDaa asked
        exact notify_recoveryRequested led asked

theorem fanOut_client {state after : Ingesting δ} {notification : ChainNotification}
    {answer : Except LoopExit NotificationOutcome}
    (handed : state.fanOut env notification = (answer, after)) :
    after.client = state.client := by
  unfold fanOut at handed
  split at handed <;> cases handed <;> rfl

theorem fanOut_error {state after : Ingesting δ} {notification : ChainNotification}
    {reason : LoopExit} (handed : state.fanOut env notification = (.error reason, after)) :
    reason = .noRuntimes ∨ ∃ cause, reason = .persistence cause := by
  unfold fanOut at handed
  split at handed <;> cases handed
  · exact Or.inl rfl
  · exact Or.inr ⟨_, rfl⟩

end Ingesting

/-- What a report may say of a gap: a recovery is handed over after the announcement of the gap
alone, and with the blocks of its range among those that were fetched for it. -/
def GapAnswer.Answers (notification : ChainNotification) (fetched : List IngestedBlock) :
    GapAnswer → Prop
  | .notAsked => fetched = []
  | .skipped => fetched = [] ∧
      ∃ fromDaa toDaa reason, notification = .recoveryRequired fromDaa toDaa reason
  | .failed _ => ∃ fromDaa toDaa reason, notification = .recoveryRequired fromDaa toDaa reason
  | .recovered recovery => ∃ fromDaa toDaa reason removed,
      notification = .recoveryRequired fromDaa toDaa reason ∧
        recovery = .virtualChainChanged removed (fetched.filter (inDaaRange fromDaa toDaa))

namespace LoopNote

variable {configured : SubgraphId}

/-- A report is sound when its answer is. -/
def Sound : LoopNote configured → Prop
  | .event _ => True
  | .hydrated _ => True
  | .handled notification answer fetched _ => answer.Answers notification fetched

def message? : LoopNote configured → Option ChainNotification
  | .handled notification _ _ _ => some notification
  | _ => none

def fetched : LoopNote configured → List IngestedBlock
  | .event _ => []
  | .hydrated blocks => blocks
  | .handled _ _ blocks _ => blocks

def persisted : LoopNote configured → List BlockAuditRecord
  | .handled _ _ _ records => records
  | _ => []

end LoopNote

def Wake.message? {configured : SubgraphId} : Wake configured → List ChainNotification
  | .receive (some notification) => [notification]
  | _ => []

namespace Ingesting

variable {env : Environment δ} {upstream : Upstream} {config : ContinuousConfig}
  {state : Ingesting δ} {notification : ChainNotification} {note : LoopNote env.configured}
  {turn : Turn LoopExit (Ingesting δ)}

theorem Received.sound (received : Received env upstream config state notification note turn) :
    note.Sound := by
  cases received with
  | refused handed => exact rfl
  | plain handed quiet => exact rfl
  | outOfBounds handed empty => exact rfl
  | skipped handed asked unanswered =>
      obtain ⟨reason, announced⟩ := (fanOut_ok handed).2.2.2 _ _ asked
      exact ⟨rfl, _, _, reason, announced⟩
  | failed handed asked answered =>
      obtain ⟨reason, announced⟩ := (fanOut_ok handed).2.2.2 _ _ asked
      exact ⟨_, _, reason, announced⟩
  | unrecovered handed asked answered again | recovered handed asked answered again =>
      obtain ⟨reason, announced⟩ := (fanOut_ok handed).2.2.2 _ _ asked
      obtain ⟨removed, found⟩ := (recoverGap_spec answered).2 _ rfl
      exact ⟨_, _, reason, removed, announced, found⟩

/-- The first runtime is there when its anchor is asked for. -/
theorem Received.in_bounds (received : Received env upstream config state notification note turn)
    (last : Ingesting δ) : turn ≠ .exit .indexOutOfBounds last := by
  have finishes : ∀ state : Ingesting δ,
      (finishTurn config state).2 ≠ .exit .indexOutOfBounds last := by
    intro state
    unfold finishTurn
    simp only
    split <;> intro ended <;> cases ended
  cases received with
  | refused handed | unrecovered _ _ _ handed =>
      intro ended
      cases ended
      have known := fanOut_error handed
      simp at known
  | outOfBounds handed empty => exact absurd empty (fanOut_ok handed).1
  | skipped handed asked unanswered =>
      intro ended
      cases ended
  | plain _ _ | failed _ _ _ | recovered _ _ _ _ => exact finishes _

/-- Nothing that was fetched is lost: it is in the table or still in the log. -/
def Accounts (client client' : MultiRpcClient) (fetched : List IngestedBlock)
    (persisted : List BlockAuditRecord) : Prop :=
  persisted ++ client'.auditLog = client.auditLog ++ fetched.map IngestedBlock.audit

theorem finishTurn_client (state : Ingesting δ) :
    (finishTurn config state).2.Satisfies (fun after => after.client.auditLog = [])
      (fun _ after => after.client.auditLog = []) := by
  unfold finishTurn
  simp only
  split <;> exact rfl

theorem finishTurn_accounts {client : MultiRpcClient} {fetched : List IngestedBlock}
    (logged : state.client.auditLog = client.auditLog ++ fetched.map IngestedBlock.audit) :
    (finishTurn config state).2.Satisfies
      (fun after => Accounts client after.client fetched state.client.auditLog)
      (fun _ after => Accounts client after.client fetched state.client.auditLog) := by
  unfold finishTurn Accounts
  simp only
  split <;>
  · change state.client.auditLog ++ [] = _
    rw [List.append_nil, logged]

theorem Received.accounts (received : Received env upstream config state notification note turn) :
    turn.Satisfies (fun after => Accounts state.client after.client note.fetched note.persisted)
      (fun _ after => Accounts state.client after.client note.fetched note.persisted) := by
  cases received with
  | refused handed =>
      change [] ++ _ = _ ++ []
      rw [fanOut_client handed, List.append_nil, List.nil_append]
  | plain handed quiet =>
      have kept := congrArg MultiRpcClient.auditLog (fanOut_client handed)
      apply finishTurn_accounts
      change _ = _ ++ []
      rw [List.append_nil]
      exact kept
  | outOfBounds handed empty =>
      have kept := congrArg MultiRpcClient.auditLog (fanOut_client handed)
      change [] ++ _ = _ ++ []
      rw [List.append_nil, List.nil_append]
      exact kept
  | skipped handed asked unanswered =>
      have kept := congrArg MultiRpcClient.auditLog (fanOut_client handed)
      change [] ++ _ = _ ++ []
      rw [List.append_nil, List.nil_append]
      exact kept
  | failed handed asked answered =>
      apply finishTurn_accounts
      rw [← fanOut_client handed]
      exact (recoverGap_spec answered).1
  | unrecovered handed asked answered again =>
      have logged := (recoverGap_spec answered).1
      change [] ++ _ = _ ++ _
      rw [List.nil_append, fanOut_client again, ← fanOut_client handed]
      exact logged
  | recovered handed asked answered again =>
      have logged := (recoverGap_spec answered).1
      apply finishTurn_accounts
      rw [fanOut_client again, ← fanOut_client handed]
      exact logged

theorem Accounts.trans {first second third : MultiRpcClient} {fetched more : List IngestedBlock}
    {persisted others : List BlockAuditRecord} (begun : Accounts first second fetched persisted)
    (later : Accounts second third more others) :
    Accounts first third (fetched ++ more) (persisted ++ others) := by
  unfold Accounts at *
  rw [List.append_assoc, later, ← List.append_assoc, begun, List.map_append, List.append_assoc]

theorem wake_accounts (state : Ingesting δ) (input : Wake env.configured) :
    let turned := wake env upstream config state input
    let accounts := fun after : Ingesting δ => Accounts state.client after.client
      (turned.1.flatMap LoopNote.fetched) (turned.1.flatMap LoopNote.persisted)
    turned.2.Satisfies accounts (fun _ => accounts) := by
  intro turned accounts
  have same : ∀ client : MultiRpcClient, Accounts client client [] [] := by
    intro client
    unfold Accounts
    simp
  cases input with
  | deploy name row => exact same _
  | remove name => exact same _
  | hydrate blockHashes =>
      have logged := (@MultiRpcClient.fetchBlocks_served upstream state.client blockHashes).1
      change [] ++ _ = _ ++ List.map _ (_ ++ [])
      rw [List.append_nil, List.nil_append]
      exact logged
  | reload loader =>
      simp only [accounts, turned, wake]
      split
      · exact same _
      · have kept : (state.reload env loader).client = state.client := by
          unfold reload
          split <;> rfl
        change Accounts state.client (state.reload env loader).client [] []
        rw [kept]
        exact same _
  | ctrlC => exact same _
  | receive message =>
      cases message with
      | none => exact same _
      | some notification =>
          have accounted := (@receive_cases δ env upstream config state notification).accounts
          simp only [accounts, turned, wake, List.flatMap_cons, List.flatMap_nil, List.append_nil]
          exact accounted

/-- The ways in which a turn goes. -/
inductive Woken (env : Environment δ) (upstream : Upstream) (config : ContinuousConfig)
    (state : Ingesting δ) :
    List (LoopNote env.configured) → Turn LoopExit (Ingesting δ) → Prop where
  | event (happened : NodeEvent env.configured) {after : Ingesting δ}
      (uncounted : after.processed = state.processed) :
      Woken env upstream config state [.event happened] (.next after)
  | hydrated (blocks : List IngestedBlock) {after : Ingesting δ}
      (uncounted : after.processed = state.processed) :
      Woken env upstream config state [.hydrated blocks] (.next after)
  | idle : Woken env upstream config state [] (.next state)
  | ended {reason : LoopExit} (known : reason = .interrupted ∨ reason = .channelClosed) :
      Woken env upstream config state [] (.exit reason state)
  | received {notification : ChainNotification} {note : LoopNote env.configured}
      {turn : Turn LoopExit (Ingesting δ)}
      (handled : Received env upstream config state notification note turn) :
      Woken env upstream config state [note] turn

theorem wake_cases (state : Ingesting δ) (input : Wake env.configured) :
    Woken env upstream config state (wake env upstream config state input).1
      (wake env upstream config state input).2 := by
  cases input with
  | deploy name row => exact .event _ rfl
  | remove name => exact .event _ rfl
  | hydrate blockHashes => exact .hydrated _ rfl
  | reload loader =>
      simp only [wake]
      split
      · exact .idle
      · apply Woken.event
        unfold reload
        split <;> rfl
  | ctrlC => exact .ended (Or.inl rfl)
  | receive message =>
      cases message with
      | none => exact .ended (Or.inr rfl)
      | some notification => exact .received (receive_cases state notification)

theorem Received.message? (received : Received env upstream config state notification note turn) :
    note.message? = some notification := by
  cases received <;> rfl

theorem wake_message? (state : Ingesting δ) (input : Wake env.configured) :
    (wake env upstream config state input).1.filterMap LoopNote.message? = input.message? := by
  cases input with
  | receive message =>
      cases message with
      | none => rfl
      | some notification =>
          have read := (@receive_cases δ env upstream config state notification).message?
          simp only [wake, List.filterMap_cons, List.filterMap_nil, read]
          rfl
  | reload loader =>
      simp only [wake]
      split <;> rfl
  | deploy name row | remove name | hydrate blockHashes | ctrlC => rfl

/-- Every report is sound. -/
theorem Woken.sound {notes : List (LoopNote env.configured)}
    (woken : Woken env upstream config state notes turn) : ∀ note ∈ notes, note.Sound := by
  cases woken with
  | event | hydrated => simp [LoopNote.Sound]
  | idle | ended => simp
  | received handled =>
      rw [List.forall_mem_singleton]
      exact handled.sound

/-- No turn looks for a first runtime in vain. -/
theorem Woken.in_bounds {notes : List (LoopNote env.configured)}
    (woken : Woken env upstream config state notes turn) (last : Ingesting δ) :
    turn ≠ .exit .indexOutOfBounds last := by
  cases woken with
  | event | hydrated | idle =>
      intro stopped
      cases stopped
  | ended known =>
      intro stopped
      cases stopped
      simp at known
  | received handled => exact handled.in_bounds last

/-- After a message whose gap, if any, was not skipped, the log is empty. -/
def Drained (notes : List (LoopNote env.configured)) (client : MultiRpcClient) : Prop :=
  ∀ notification answer fetched persisted,
    notes.getLast? = some (.handled notification answer fetched persisted) →
      answer ≠ .skipped → client.auditLog = []

theorem Received.drained (received : Received env upstream config state notification note turn) :
    turn.Satisfies
      (fun after => ∀ notification answer fetched persisted,
        note = .handled notification answer fetched persisted →
          answer ≠ .skipped → after.client.auditLog = [])
      (fun _ _ => True) := by
  cases received with
  | refused _ | outOfBounds _ _ | unrecovered _ _ _ _ => exact trivial
  | skipped handed asked unanswered =>
      intro _ _ _ _ same asked
      cases same
      exact absurd rfl asked
  | plain _ _ | failed _ _ _ | recovered _ _ _ _ =>
      apply (finishTurn_client _).mono
      · intro _ empty _ _ _ _ _ _
        exact empty
      · exact fun _ _ _ => trivial

theorem Woken.drained {notes before : List (LoopNote env.configured)}
    (woken : Woken env upstream config state notes turn) (held : Drained before state.client) :
    turn.Satisfies (fun after => Drained (before ++ notes) after.client) (fun _ _ => True) := by
  cases woken with
  | event happened uncounted | hydrated blocks uncounted =>
      intro _ _ _ _ last
      rw [List.getLast?_concat] at last
      cases last
  | idle =>
      rw [List.append_nil]
      exact held
  | ended known => exact trivial
  | received handled =>
      apply handled.drained.mono
      · intro after empty notification answer fetched persisted last
        rw [List.getLast?_concat, Option.some.injEq] at last
        exact empty notification answer fetched persisted last
      · exact fun _ _ _ => trivial

/-! ## The limit -/

end Ingesting

namespace LoopNote

variable {configured : SubgraphId}

def answer? : LoopNote configured → Option GapAnswer
  | .handled _ answer _ _ => some answer
  | _ => none

end LoopNote

/-- The gaps that the messages of a report announced, answered. -/
def gapAnswers {configured : SubgraphId} (notes : List (LoopNote configured)) : List GapAnswer :=
  notes.filterMap LoopNote.answer?

namespace Ingesting

/-- Messages are counted, and from the limit on the loop goes on after skipped gaps alone. -/
structure WithinLimit (config : ContinuousConfig) (answers : List GapAnswer)
    (state : Ingesting δ) : Prop where
  counted : state.processed.toNat = min answers.length (2 ^ 64 - 1)
  skips : config.maxMessages ≠ 0 → ∀ position answer, answers[position]? = some answer →
    config.maxMessages.toNat ≤ position + 1 → answer = .skipped

/-- A loop that stops at its limit has handled that many messages. -/
def StopsAtLimit (config : ContinuousConfig) (answers : List GapAnswer) (reason : LoopExit) :
    Prop :=
  reason = .reachedMaxMessages →
    config.maxMessages ≠ 0 ∧ config.maxMessages.toNat ≤ answers.length

theorem toNat_saturatingAddU64_one (n : UInt64) :
    (saturatingAddU64 n 1).toNat = min (n.toNat + 1) (2 ^ 64 - 1) := by
  by_cases fits : n.toNat + 1 < 2 ^ 64
  · rw [toNat_saturatingAddU64 fits, UInt64.toNat_one]
    omega
  · have full : saturatingAddU64 n 1 = .ofNat (2 ^ 64 - 1) := by
      unfold saturatingAddU64 checkedAdd
      rw [UInt64.toNat_one, if_neg fits]
      rfl
    rw [full]
    have last : (UInt64.ofNat (2 ^ 64 - 1)).toNat = 2 ^ 64 - 1 := rfl
    omega

variable {env : Environment δ} {upstream : Upstream} {config : ContinuousConfig}
  {before state : Ingesting δ} {answers : List GapAnswer} {answer : GapAnswer}

theorem WithinLimit.counts (within : WithinLimit config answers before)
    (counts : state.processed = saturatingAddU64 before.processed 1) :
    state.processed.toNat = min (answers ++ [answer]).length (2 ^ 64 - 1) := by
  have counted := within.counted
  rw [counts, toNat_saturatingAddU64_one, List.length_append, List.length_singleton]
  omega

theorem WithinLimit.snoc (within : WithinLimit config answers before)
    (counts : state.processed = saturatingAddU64 before.processed 1)
    (allowed : config.maxMessages ≠ 0 → config.maxMessages ≤ state.processed →
      answer = .skipped) :
    WithinLimit config (answers ++ [answer]) state := by
  have counted := @WithinLimit.counts δ config before state answers answer within counts
  refine ⟨counted, ?_⟩
  intro limited position found present reached
  rcases Nat.lt_or_ge position answers.length with earlier | later
  · rw [List.getElem?_append_left earlier] at present
    exact within.skips limited position found present reached
  · rw [List.getElem?_append_right later, List.getElem?_singleton] at present
    split at present
    · rename_i last
      cases present
      apply allowed limited
      rw [UInt64.le_iff_toNat_le, counted, List.length_append, List.length_singleton]
      have bounded := config.maxMessages.toNat_lt
      omega
    · cases present

theorem finishTurn_within (within : WithinLimit config answers before)
    (counts : state.processed = saturatingAddU64 before.processed 1) :
    (finishTurn config state).2.Satisfies (WithinLimit config (answers ++ [answer]))
      (fun reason _ => StopsAtLimit config (answers ++ [answer]) reason) := by
  have counted := @WithinLimit.counts δ config before state answers answer within counts
  unfold finishTurn
  simp only
  split
  · rename_i full
    intro _
    refine ⟨full.1, ?_⟩
    have reached := UInt64.le_iff_toNat_le.mp full.2
    change config.maxMessages.toNat ≤ state.processed.toNat at reached
    omega
  · rename_i free
    have drained : state.persistDrainedRpcAudit.2.processed =
        saturatingAddU64 before.processed 1 := counts
    exact within.snoc drained fun limited full => absurd ⟨limited, full⟩ free

theorem Received.within {notification : ChainNotification} {note : LoopNote env.configured}
    {turn : Turn LoopExit (Ingesting δ)}
    (received : Received env upstream config before notification note turn)
    (within : WithinLimit config answers before) :
    turn.Satisfies (WithinLimit config (answers ++ gapAnswers [note]))
      (fun reason _ => StopsAtLimit config (answers ++ gapAnswers [note]) reason) := by
  cases received with
  | refused handed | unrecovered _ _ _ handed =>
      intro stopped
      subst stopped
      have known := fanOut_error handed
      simp at known
  | outOfBounds handed empty =>
      intro stopped
      cases stopped
  | plain handed quiet =>
      have counts := congrArg (saturatingAddU64 · 1) (fanOut_ok handed).2.2.1
      exact finishTurn_within within counts
  | skipped handed asked unanswered =>
      have counts := congrArg (saturatingAddU64 · 1) (fanOut_ok handed).2.2.1
      exact within.snoc counts fun _ _ => rfl
  | failed handed asked answered =>
      have counts := congrArg (saturatingAddU64 · 1) (fanOut_ok handed).2.2.1
      exact finishTurn_within within counts
  | recovered handed asked answered again =>
      have counts := congrArg (saturatingAddU64 · 1) (fanOut_ok handed).2.2.1
      exact finishTurn_within within ((fanOut_ok again).2.2.1.trans counts)

theorem Woken.within {notes : List (LoopNote env.configured)}
    {turn : Turn LoopExit (Ingesting δ)} (woken : Woken env upstream config before notes turn)
    (within : WithinLimit config answers before) :
    turn.Satisfies (WithinLimit config (answers ++ gapAnswers notes))
      (fun reason _ => StopsAtLimit config (answers ++ gapAnswers notes) reason) := by
  cases woken with
  | event happened uncounted | hydrated blocks uncounted =>
      change WithinLimit config (answers ++ []) _
      rw [List.append_nil]
      exact ⟨uncounted ▸ within.counted, within.skips⟩
  | idle =>
      change WithinLimit config (answers ++ []) _
      rw [List.append_nil]
      exact within
  | ended known =>
      intro stopped
      subst stopped
      simp at known
  | received handled => exact handled.within within

/-! ## Runs of the loop -/

/-- The rule for runs of the loop: an invariant of the reports made so far and of the state. -/
theorem loop_satisfies {going : List (LoopNote env.configured) → Ingesting δ → Prop}
    {stopped : List (LoopNote env.configured) → LoopExit → Ingesting δ → Prop}
    (each : ∀ input before state, going before state →
      (wake env upstream config state input).2.Satisfies
        (going (before ++ (wake env upstream config state input).1))
        (stopped (before ++ (wake env upstream config state input).1)))
    {state : Ingesting δ} (started : going [] state) (wakes : List (Wake env.configured)) :
    (state.loop env upstream config wakes).Satisfies
      (going (state.notes env upstream config wakes))
      (stopped (state.notes env upstream config wakes)) :=
  runEach_satisfies each started

/-- The continuous loop refines the node: along every run the registry, the store without its
audit rows, the stream and the live set are those of the node that takes the deployments, the
reloads and the messages in their order, each announced gap followed by at most one recovery. The
messages are read in order, and no turn looks for a runtime that is not there. -/
theorem continuous_refines_node (env : Environment δ) (upstream : Upstream)
    (config : ContinuousConfig) (registry : Registry) (backend : Backend δ)
    (runtimes : List (SubgraphRuntime δ)) (client : MultiRpcClient)
    (wakes : List (Wake env.configured)) :
    let begun := Ingesting.start registry backend runtimes client
    let notes := begun.notes env upstream config wakes
    let node := Node.runEach env ⟨registry, backend, some runtimes⟩ (notes.flatMap LoopNote.events)
    (begun.loop env upstream config wakes).Satisfies (·.Matches node)
        (fun reason after => after.Left node ∧ reason ≠ .indexOutOfBounds) ∧
      notes.filterMap LoopNote.message? <+: wakes.flatMap Wake.message? ∧
      ∀ note ∈ notes, note.Sound := by
  intro begun notes node
  have started : begun.Matches ⟨registry, backend, some runtimes⟩ := ⟨rfl, rfl, rfl⟩
  have followed := @loop_follows δ env upstream config begun _ started wakes
  have kept : (begun.loop env upstream config wakes).Satisfies
      (fun _ => ∀ note ∈ notes, note.Sound)
      (fun reason _ => (∀ note ∈ notes, note.Sound) ∧ reason ≠ .indexOutOfBounds) := by
    apply @loop_satisfies δ env upstream config (fun notes _ => ∀ note ∈ notes, note.Sound)
      (fun notes reason _ => (∀ note ∈ notes, note.Sound) ∧ reason ≠ .indexOutOfBounds)
    · intro input before state sound
      have woken := @wake_cases δ env upstream config state input
      have all : ∀ note ∈ before ++ (wake env upstream config state input).1, note.Sound :=
        List.forall_mem_append.mpr ⟨sound, woken.sound⟩
      cases taken : (wake env upstream config state input).2 with
      | next after => exact all
      | exit reason after =>
          refine ⟨all, ?_⟩
          intro stopped
          subst stopped
          exact woken.in_bounds after taken
    · simp
  refine ⟨?_, noteEach_prefix (fun input state => wake_message? state input) _ _, ?_⟩
  · apply (followed.and kept).mono
    · exact fun _ both => both.1
    · exact fun _ _ both => ⟨both.1, both.2.2⟩
  · cases ended : begun.loop env upstream config wakes with
    | next after =>
        rw [ended] at kept
        exact kept
    | exit reason after =>
        rw [ended] at kept
        exact kept.1

/-- The limit on messages: the loop counts every message it handles, and it goes on at or past
the limit only while every message from there on announced a gap that it skipped. -/
theorem loop_within_limit (env : Environment δ) (upstream : Upstream)
    (config : ContinuousConfig) (registry : Registry) (backend : Backend δ)
    (runtimes : List (SubgraphRuntime δ)) (client : MultiRpcClient)
    (wakes : List (Wake env.configured)) :
    let begun := Ingesting.start registry backend runtimes client
    let answers := gapAnswers (begun.notes env upstream config wakes)
    (begun.loop env upstream config wakes).Satisfies (WithinLimit config answers)
      (fun reason _ => StopsAtLimit config answers reason) := by
  intro begun answers
  apply @loop_satisfies δ env upstream config
    (fun notes => WithinLimit config (gapAnswers notes))
    (fun notes reason _ => StopsAtLimit config (gapAnswers notes) reason)
  · intro input before state within
    have woken := (@wake_cases δ env upstream config state input).within within
    have appended : gapAnswers (before ++ (wake env upstream config state input).1) =
        gapAnswers before ++ gapAnswers (wake env upstream config state input).1 :=
      List.filterMap_append
    rw [appended]
    exact woken
  · exact ⟨rfl, fun _ position answer present => by simp [gapAnswers] at present⟩

end Ingesting

end KasGraph
