import KasGraph.Ingestion

set_option autoImplicit false

/-! Gap recovery. The client asks one endpoint after another for the chain delta
since an anchor, fetches the added blocks, and hands the delta to the state
machine as one notification. -/

namespace KasGraph

open MachineInt

/-! ## The client -/

structure RpcEndpoint where
  label : String
  url : String
  deriving DecidableEq, Repr

structure RpcClientConfig where
  primary : RpcEndpoint
  backups : List RpcEndpoint

inductive RpcError where
  | allEndpointsFailed
  | transport (endpoint source : String)
  | subscriptionRejected (endpoint message : String)
  | malformedResponse (response : String)
  deriving DecidableEq, Repr

structure BlockAuditRecord where
  blockHash : String
  daaScore : UInt64
  servedBy : String
  deriving DecidableEq, Repr

/-- What the endpoints answer, each request at its own time: the removed and the
added hashes of `getVirtualChainFromBlock`, and the block of `getBlock`. -/
structure Upstream where
  virtualChainFromBlock : Nat → RpcEndpoint → String → Except RpcError (List String × List String)
  getBlock : Nat → RpcEndpoint → String → Except RpcError IngestedBlock

/-- The client; `asked` counts its requests. -/
structure MultiRpcClient where
  config : RpcClientConfig
  health : OrderedMap String Bool
  auditLog : List BlockAuditRecord
  nextBackupIndex : UInt64
  asked : Nat

/-- The primary, then the backups in turn from a starting index. -/
def RpcClientConfig.failoverChain (config : RpcClientConfig) (backupStart : UInt64) :
    List RpcEndpoint :=
  config.primary :: (List.range config.backups.length).filterMap fun offset =>
    config.backups[(backupStart.toNat + offset) % config.backups.length]?

namespace MultiRpcClient

def setEndpointHealth (client : MultiRpcClient) (endpoint : String) (healthy : Bool) :
    MultiRpcClient :=
  { client with health := client.health.insert endpoint healthy }

def recordAudit (client : MultiRpcClient) (block : IngestedBlock) : MultiRpcClient :=
  { client with
    auditLog := client.auditLog ++ [⟨block.hash, block.daaScore, block.servedBy⟩] }

/-- The endpoints of the next request; the backups rotate with every request. -/
def nextChain (client : MultiRpcClient) : List RpcEndpoint × MultiRpcClient :=
  (client.config.failoverChain client.nextBackupIndex,
    { client with nextBackupIndex := client.nextBackupIndex + 1 })

/-- Ask the endpoints in turn until one answers. -/
def tryEndpoints {α : Type} (ask : Nat → RpcEndpoint → Except RpcError α)
    (client : MultiRpcClient) (lastErr : Option RpcError) :
    List RpcEndpoint → Except RpcError α × MultiRpcClient
  | [] => (.error (lastErr.getD .allEndpointsFailed), client)
  | endpoint :: rest =>
      let answer := ask client.asked endpoint
      let client := { client with asked := client.asked + 1 }
      match answer with
      | .ok value => (.ok value, client.setEndpointHealth endpoint.label true)
      | .error err =>
          tryEndpoints ask (client.setEndpointHealth endpoint.label false) (some err) rest

variable (upstream : Upstream)

def fetchBlock (client : MultiRpcClient) (blockHash : String) :
    Except RpcError IngestedBlock × MultiRpcClient :=
  let (endpoints, client) := client.nextChain
  match client.tryEndpoints (upstream.getBlock · · blockHash) none endpoints with
  | (.ok block, client) => (.ok block, client.recordAudit block)
  | (.error err, client) => (.error err, client)

/-- Fetch blocks one by one, up to the first that no endpoint serves. -/
def fetchBlocks (client : MultiRpcClient) :
    List String → Except RpcError (List IngestedBlock) × MultiRpcClient
  | [] => (.ok [], client)
  | hash :: rest =>
      match client.fetchBlock upstream hash with
      | (.error err, client) => (.error err, client)
      | (.ok block, client) =>
          match client.fetchBlocks rest with
          | (.error err, client) => (.error err, client)
          | (.ok blocks, client) => (.ok (block :: blocks), client)

end MultiRpcClient

/-- Whether a block's score lies in a range. -/
def inDaaRange (fromDaaScore toDaaScore : UInt64) (block : IngestedBlock) : Bool :=
  fromDaaScore ≤ block.daaScore && block.daaScore ≤ toDaaScore

namespace MultiRpcClient

variable (upstream : Upstream)

def recoverBlocksByHashes (client : MultiRpcClient) (blockHashes : List String)
    (fromDaaScore toDaaScore : UInt64) : Except RpcError ChainNotification × MultiRpcClient :=
  match client.fetchBlocks upstream blockHashes with
  | (.error err, client) => (.error err, client)
  | (.ok recovered, client) =>
      (.ok (.virtualChainChanged [] (recovered.filter (inDaaRange fromDaaScore toDaaScore))),
        client)

/-- The removed hashes pass as the endpoint gave them; of the added blocks only
those of the range do. -/
def recoverBlocksInDaaRange (client : MultiRpcClient) (startHash : String)
    (fromDaaScore toDaaScore : UInt64) : Except RpcError ChainNotification × MultiRpcClient :=
  let (endpoints, client) := client.nextChain
  match client.tryEndpoints (upstream.virtualChainFromBlock · · startHash) none endpoints with
  | (.error err, client) => (.error err, client)
  | (.ok (removed, addedHashes), client) =>
      match client.fetchBlocks upstream addedHashes with
      | (.error err, client) => (.error err, client)
      | (.ok added, client) =>
          (.ok (.virtualChainChanged removed
            (added.filter (inDaaRange fromDaaScore toDaaScore))), client)

end MultiRpcClient

/-! ## The choice of a recovery -/

namespace IngestionState

variable {δ : Type}

/-- The hash of the highest block held below a gap; at one score the waiting block
counts. -/
def recoveryAnchorHash (state : IngestionState δ) (fromDaa : UInt64) : Option String :=
  let cutoff := (saturatingSubU64 fromDaa 1).toInt64
  let known := (state.committed.toList ++ state.probabilistic.toList).filter (·.1 ≤ cutoff)
  let highest := known.foldl (fun best entry =>
    match best with
    | some held => if entry.1 < held.1 then some held else some entry
    | none => some entry) (none : Option (Int64 × BootstrapBlock))
  highest.map (·.2.hash)

/-- A block is held under some score with this hash. -/
def HoldsHash (state : IngestionState δ) (hash : String) : Prop :=
  ∃ (score : Int64) (block : BootstrapBlock), (state.committed[score]? = some block ∨
    state.probabilistic[score]? = some block) ∧ block.hash = hash

end IngestionState

/-- The recovery of a gap: from the anchor when there is one, else from the
configured hashes, else none. -/
def recoverGap {δ : Type} (upstream : Upstream) (client : MultiRpcClient)
    (gapRecoveryBlockHashes : List String) (state : IngestionState δ)
    (fromDaa toDaa : UInt64) : Option (Except RpcError ChainNotification × MultiRpcClient) :=
  match state.recoveryAnchorHash fromDaa with
  | some anchorHash => some (client.recoverBlocksInDaaRange upstream anchorHash fromDaa toDaa)
  | none =>
      if gapRecoveryBlockHashes.isEmpty then none
      else some (client.recoverBlocksByHashes upstream gapRecoveryBlockHashes fromDaa toDaa)

/-! ## What a recovery hands over -/

namespace MultiRpcClient

/-- The whole delta of an anchor: the hashes it removes and the blocks it adds. -/
def chainDelta (upstream : Upstream) (client : MultiRpcClient) (startHash : String) :
    Except RpcError (List String × List IngestedBlock) × MultiRpcClient :=
  let (endpoints, client) := client.nextChain
  match client.tryEndpoints (upstream.virtualChainFromBlock · · startHash) none endpoints with
  | (.error err, client) => (.error err, client)
  | (.ok (removed, addedHashes), client) =>
      match client.fetchBlocks upstream addedHashes with
      | (.error err, client) => (.error err, client)
      | (.ok added, client) => (.ok (removed, added), client)

/-- A request is answered by an endpoint. -/
theorem tryEndpoints_ok {α : Type} {ask : Nat → RpcEndpoint → Except RpcError α}
    {client after : MultiRpcClient} {lastErr : Option RpcError} {endpoints : List RpcEndpoint}
    {value : α} (answered : client.tryEndpoints ask lastErr endpoints = (.ok value, after)) :
    ∃ now endpoint, ask now endpoint = .ok value := by
  induction endpoints generalizing client lastErr with
  | nil => cases answered
  | cons endpoint rest ih =>
      unfold tryEndpoints at answered
      cases answer : ask client.asked endpoint with
      | ok found =>
          simp only [answer, Prod.mk.injEq, Except.ok.injEq] at answered
          exact ⟨client.asked, endpoint, answered.1 ▸ answer⟩
      | error err =>
          simp only [answer] at answered
          exact ih answered

theorem fetchBlock_ok {upstream : Upstream} {client after : MultiRpcClient} {hash : String}
    {block : IngestedBlock} (fetched : client.fetchBlock upstream hash = (.ok block, after)) :
    ∃ now endpoint, upstream.getBlock now endpoint hash = .ok block := by
  unfold fetchBlock at fetched
  simp only at fetched
  split at fetched
  · rename_i found later answered
    simp only [Prod.mk.injEq, Except.ok.injEq] at fetched
    exact fetched.1 ▸ tryEndpoints_ok answered
  · cases fetched

/-- Blocks come back in the order of their hashes. -/
theorem fetchBlocks_ok {upstream : Upstream} {client after : MultiRpcClient}
    {hashes : List String} {blocks : List IngestedBlock}
    (fetched : client.fetchBlocks upstream hashes = (.ok blocks, after)) :
    List.Forall₂ (fun hash block => ∃ now endpoint, upstream.getBlock now endpoint hash = .ok block)
      hashes blocks := by
  induction hashes generalizing client blocks with
  | nil =>
      cases fetched
      exact .nil
  | cons hash rest ih =>
      unfold fetchBlocks at fetched
      split at fetched
      · cases fetched
      · rename_i block middle first
        split at fetched
        · cases fetched
        · rename_i others final later
          cases fetched
          exact .cons (fetchBlock_ok first) (ih later)

/-- The delta is one an endpoint answered, with the blocks served for its added hashes. -/
theorem chainDelta_ok {upstream : Upstream} {client after : MultiRpcClient} {startHash : String}
    {removed : List String} {added : List IngestedBlock}
    (delta : client.chainDelta upstream startHash = (.ok (removed, added), after)) :
    ∃ now endpoint hashes,
      upstream.virtualChainFromBlock now endpoint startHash = .ok (removed, hashes) ∧
      List.Forall₂ (fun hash block =>
        ∃ now endpoint, upstream.getBlock now endpoint hash = .ok block) hashes added := by
  unfold chainDelta at delta
  simp only at delta
  split at delta
  · cases delta
  · rename_i _ hashes middle answered
    split at delta
    · cases delta
    · rename_i fetched
      cases delta
      obtain ⟨now, endpoint, answer⟩ := tryEndpoints_ok answered
      exact ⟨now, endpoint, hashes, answer, fetchBlocks_ok fetched⟩

/-- A recovery keeps of the delta's added blocks those of its range. -/
theorem recoverBlocksInDaaRange_eq (upstream : Upstream) (client : MultiRpcClient)
    (startHash : String) (fromDaa toDaa : UInt64) :
    client.recoverBlocksInDaaRange upstream startHash fromDaa toDaa =
      ((client.chainDelta upstream startHash).1.map fun delta =>
          .virtualChainChanged delta.1 (delta.2.filter (inDaaRange fromDaa toDaa)),
        (client.chainDelta upstream startHash).2) := by
  unfold recoverBlocksInDaaRange chainDelta
  simp only
  split
  · rfl
  · split <;> rfl

end MultiRpcClient

/-- A recovery loses no chain block: where a state holds a block the delta
removes, every block the delta adds is handed over with it, in chain order. -/
def KeepsChain (δ : Type) (toolkit : Toolkit) (upstream : Upstream) (client : MultiRpcClient)
    (startHash : String) (fromDaa toDaa : UInt64) : Prop :=
  ∀ removed added after, client.chainDelta upstream startHash = (.ok (removed, added), after) →
    ∀ state : IngestionState δ, IngestionState.Reachable toolkit state →
      (∃ hash ∈ removed, state.HoldsHash hash) →
        client.recoverBlocksInDaaRange upstream startHash fromDaa toDaa =
          (.ok (.virtualChainChanged removed added), after)

namespace IngestionState

variable {δ : Type}

/-- A block brings in its own hash and no other. -/
theorem holdsHash_applyBlock {state : IngestionState δ} {block : BootstrapBlock} {hash : String}
    (holds : (state.applyBlock block).2.HoldsHash hash) :
    state.HoldsHash hash ∨ block.hash = hash := by
  have arrived : ∀ (score : Int64) (held : BootstrapBlock),
      (arrive state.probabilistic block)[score]? = some held → held.hash = hash →
        state.HoldsHash hash ∨ block.hash = hash := by
    intro score held present same
    unfold arrive at present
    by_cases here : block.daaScore = score
    · rw [← here, OrderedMap.get_insert_self, Option.some.injEq] at present
      exact Or.inr (present ▸ same)
    · rw [OrderedMap.get_insert_of_ne _ _ here] at present
      obtain ⟨stood, -⟩ := (OrderedMap.get_filter_eq_some _ _ _ _).mp present
      exact Or.inl ⟨score, held, Or.inr stood, same⟩
  have applied := state.applyBlock_applied block
  generalize (state.applyBlock block).1 = transition at applied
  generalize (state.applyBlock block).2 = after at applied holds
  obtain ⟨score, held, present, same⟩ := holds
  cases applied with
  | ignored other found => exact Or.inl ⟨score, held, present, same⟩
  | buffered free unfinalized uncut =>
      rcases present with committed | waiting
      · exact Or.inl ⟨score, held, Or.inl committed, same⟩
      · exact arrived score held waiting same
  | promoted free ready waiting swept =>
      have unswept : ∀ other, waiting[score]? = some other → other.hash = hash →
          state.HoldsHash hash ∨ block.hash = hash := by
        intro other found named
        rw [swept, get_sweepFinalized] at found
        obtain ⟨plain, stood, rfl⟩ := Option.map_eq_some_iff.mp found
        rw [BootstrapBlock.finalizeBy_hash] at named
        exact arrived score plain stood named
      rcases present with committed | waits
      · rw [OrderedMap.get_insertEach_entriesWhere, Option.or_eq_some_iff] at committed
        rcases committed with moved | ⟨-, stood⟩
        · exact unswept held (Option.filter_eq_some_iff.mp moved).1 same
        · exact Or.inl ⟨score, held, Or.inl stood, same⟩
      · exact unswept held ((OrderedMap.get_filter_eq_some _ _ _ _).mp waits).1 same

theorem holdsHash_applyBlocks {state : IngestionState δ} {blocks : List BootstrapBlock}
    {hash : String} (holds : (state.applyBlocks blocks).2.HoldsHash hash) :
    state.HoldsHash hash ∨ ∃ block ∈ blocks, block.hash = hash := by
  induction blocks generalizing state with
  | nil => exact Or.inl holds
  | cons block rest ih =>
      rcases ih holds with earlier | ⟨other, member, same⟩
      · exact (holdsHash_applyBlock earlier).imp id fun same => ⟨block, List.mem_cons_self, same⟩
      · exact Or.inr ⟨other, List.mem_cons_of_mem _ member, same⟩

/-- After a chain change a hash is held that was held before and not removed, or
that was handed over: a removed block is out, and an added block that was not
handed over is missing. -/
theorem holdsHash_virtualChainChanged {toolkit : Toolkit} {state after : IngestionState δ}
    {removed : List String} {handed : List IngestedBlock} {transition : IngestionTransition}
    (returned : state.applyNotification toolkit (.virtualChainChanged removed handed) =
      .ok (transition, after)) {hash : String} (holds : after.HoldsHash hash) :
    (state.HoldsHash hash ∧ hash ∉ removed) ∨ ∃ block ∈ handed, block.hash = hash := by
  rw [applyNotification_virtualChainChanged, Except.ok.injEq, Prod.mk.injEq] at returned
  rw [← returned.2] at holds
  rcases holdsHash_applyBlocks holds with ⟨score, held, present, same⟩ | ⟨block, member, same⟩
  · left
    rw [OrderedMap.get_filter_eq_some, OrderedMap.get_filter_eq_some] at present
    have kept : ¬ held.hash ∈ removed := by
      rcases present with committed | waiting
      · simpa using committed.2
      · simpa using waiting.2
    exact ⟨⟨score, held, present.imp And.left And.left, same⟩, same ▸ kept⟩
  · obtain ⟨delivered, inside, rfl⟩ := List.mem_map.mp member
    exact Or.inr ⟨delivered, inside, same⟩

end IngestionState

/-- A block that arrives first, unfinalized, is held. -/
private theorem holds_first {δ : Type} (toolkit : Toolkit) (prior : δ) (hash : String) :
    ∃ state : IngestionState δ, IngestionState.Reachable toolkit state ∧
      state.HoldsHash hash := by
  let block := blockFromRpc toolkit (headerBlock hash 1 false)
  let state := IngestionState.withFinalityDepth prior none
  refine ⟨(state.applyBlock block).2,
    .notify (.blockAdded (headerBlock hash 1 false)) (.start prior none) rfl, ?_⟩
  have applied := state.applyBlock_applied block
  generalize (state.applyBlock block).1 = transition at applied
  generalize (state.applyBlock block).2 = after at applied
  cases applied with
  | ignored held present => cases present
  | buffered => exact ⟨1, block, Or.inr (OrderedMap.get_insert_self _ _ _), rfl⟩
  | promoted _ ready =>
      rcases ready with finalized | cut
      · cases finalized
      · cases cut

/-- A recovery loses no chain block exactly when its delta removes nothing or
adds only blocks of the range. -/
theorem keepsChain_iff {δ : Type} (prior : δ) (toolkit : Toolkit) (upstream : Upstream)
    (client : MultiRpcClient) (startHash : String) (fromDaa toDaa : UInt64) :
    KeepsChain δ toolkit upstream client startHash fromDaa toDaa ↔
      ∀ removed added after,
        client.chainDelta upstream startHash = (.ok (removed, added), after) →
          removed = [] ∨
            ∀ block ∈ added, fromDaa ≤ block.daaScore ∧ block.daaScore ≤ toDaa := by
  constructor
  · intro keeps removed added after delta
    cases removed with
    | nil => exact Or.inl rfl
    | cons hash rest =>
        obtain ⟨state, reachable, holds⟩ := holds_first toolkit prior hash
        have whole := keeps _ _ _ delta state reachable ⟨hash, List.mem_cons_self, holds⟩
        rw [MultiRpcClient.recoverBlocksInDaaRange_eq, delta] at whole
        simp only [Except.map, Prod.mk.injEq, Except.ok.injEq,
          ChainNotification.virtualChainChanged.injEq, true_and, and_true] at whole
        refine Or.inr fun block member => ?_
        have inside := (List.filter_eq_self.mp whole) block member
        simpa [inDaaRange] using inside
  · intro fits removed added after delta state _ removes
    obtain ⟨hash, member, -⟩ := removes
    have inside : ∀ block ∈ added, inDaaRange fromDaa toDaa block = true := by
      rcases fits removed added after delta with none | all
      · rw [none] at member
        cases member
      · intro block present
        simpa [inDaaRange] using all block present
    rw [MultiRpcClient.recoverBlocksInDaaRange_eq, delta]
    simp only [Except.map, List.filter_eq_self.mpr inside]

/-! A reorg during the gap: the node removes `old-a` and adds `block-a` below the
range and `block-b` inside it. -/

private def reorgUpstream : Upstream where
  virtualChainFromBlock _ _ _ := .ok (["old-a"], ["block-a", "block-b"])
  getBlock _ _ hash := .ok (headerBlock hash (if hash = "block-a" then 9 else 10) true)

private def reorgClient : MultiRpcClient where
  config := { primary := ⟨"primary", "wss://primary"⟩, backups := [] }
  health := ∅
  auditLog := []
  nextBackupIndex := 0
  asked := 0

/-- The recovery takes `old-a` out and leaves `block-a` behind. -/
theorem recovery_drops_block_below_range :
    ¬ KeepsChain Unit bareToolkit reorgUpstream reorgClient "anchor-hash" 10 10 := by
  intro keeps
  have outside := (keepsChain_iff () bareToolkit reorgUpstream reorgClient "anchor-hash" 10 10).mp
    keeps ["old-a"] [headerBlock "block-a" 9 true, headerBlock "block-b" 10 true] _ rfl
  rcases outside with none | inside
  · cases none
  · exact absurd (inside _ List.mem_cons_self).1 (by decide)

end KasGraph
