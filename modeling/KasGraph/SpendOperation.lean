import KasGraph.BlockDispatch

set_option autoImplicit false

/-! The operation reported with a spend. It is a fact of the spending transaction: all the
receipts it consumes and creates are classified together, whatever token they are of. -/

namespace KasGraph

open EffectProgram
open Json (Value)

variable {δ : Type}

/-! ## The receipts of a transaction -/

section Receipts

variable (subgraph : SubgraphId) (utxos : Table CovenantUtxoRecord.key)
  (inputs : List IngestedTransactionInput) (spendingTx : String)

/-- The tracked output an input consumes. -/
def consumedAt (input : IngestedTransactionInput) :
    Option (IngestedTransactionInput × CovenantUtxoRecord) :=
  (utxos.find? (subgraph.schemaName, input.previousTxHash,
    input.previousOutputIndex.toInt32)).map (input, ·)

/-- The tracked outputs a transaction consumes, in the order of its inputs. -/
def consumedBy : List (IngestedTransactionInput × CovenantUtxoRecord) :=
  (inputs.filter (·.spendingTxHash == spendingTx)).filterMap (consumedAt subgraph utxos)

/-- The receipts a transaction creates. -/
def receiptsCreatedBy : List CovenantUtxoRecord :=
  (utxos.select fun row => row.subgraph = subgraph && row.txHash == spendingTx).filter
    (·.detectorKind == "KCC20Asset")

/-- The operation read off receipts, unless some state is not that of a receipt. -/
def operationFrom (consumed created : List CovenantUtxoRecord) : Option String :=
  (kcc20SpendOperation (consumed.map (·.lockedState))
    (created.map (·.lockedState))).toOption.map (·.asStr)

/-- The operation of a transaction: that of all its receipts, and none when it consumes
another tracked covenant too. -/
def transactionOperation : Option String :=
  let consumed := (consumedBy subgraph utxos inputs spendingTx).map (·.2)
  if consumed.all (·.detectorKind == "KCC20Asset") then
    operationFrom consumed (receiptsCreatedBy subgraph utxos spendingTx)
  else
    none

/-- The operation of the receipts under one covenant id alone. -/
def operationUnder (covenantId : Option String) : Option String :=
  operationFrom
    (((consumedBy subgraph utxos inputs spendingTx).map (·.2)).filter fun row =>
      row.detectorKind == "KCC20Asset" && row.covenantId == covenantId)
    ((receiptsCreatedBy subgraph utxos spendingTx).filter (·.covenantId == covenantId))

/-- The transaction consumes and creates receipts of one token, and nothing else tracked. -/
structure OneToken (covenantId : Option String) : Prop where
  consumed : ∀ pair ∈ consumedBy subgraph utxos inputs spendingTx,
    pair.2.detectorKind = "KCC20Asset" ∧ pair.2.covenantId = covenantId
  created : ∀ row ∈ receiptsCreatedBy subgraph utxos spendingTx, row.covenantId = covenantId

instance OneToken.decidable (covenantId : Option String) :
    Decidable (OneToken subgraph utxos inputs spendingTx covenantId) :=
  decidable_of_iff
    ((∀ pair ∈ consumedBy subgraph utxos inputs spendingTx,
        pair.2.detectorKind = "KCC20Asset" ∧ pair.2.covenantId = covenantId) ∧
      ∀ row ∈ receiptsCreatedBy subgraph utxos spendingTx, row.covenantId = covenantId)
    ⟨fun both => ⟨both.1, both.2⟩, fun token => ⟨token.consumed, token.created⟩⟩

variable {subgraph} {utxos} {inputs} {spendingTx}

theorem OneToken.operation {covenantId : Option String}
    (token : OneToken subgraph utxos inputs spendingTx covenantId) :
    transactionOperation subgraph utxos inputs spendingTx =
      operationUnder subgraph utxos inputs spendingTx covenantId := by
  have rows : ∀ row ∈ (consumedBy subgraph utxos inputs spendingTx).map (·.2),
      row.detectorKind = "KCC20Asset" ∧ row.covenantId = covenantId := by
    intro row member
    obtain ⟨pair, listed, rfl⟩ := List.mem_map.mp member
    exact token.consumed pair listed
  unfold transactionOperation operationUnder
  rw [List.filter_eq_self.mpr fun row member => by simp [rows row member],
    List.filter_eq_self.mpr fun row member => by simp [token.created row member]]
  exact if_pos (List.all_eq_true.mpr fun row member => beq_iff_eq.mpr (rows row member).1)

/-! ## Grouped inputs -/

/-- Grouping the inputs keeps, for every transaction, what it consumes in order. -/
theorem consumedIn_get (inputs : List IngestedTransactionInput) (spendingTx : String) :
    ((consumedIn subgraph utxos inputs)[spendingTx]?).getD [] =
      consumedBy subgraph utxos inputs spendingTx := by
  induction inputs using List.reverseRecOn with
  | nil =>
      unfold consumedIn
      rw [List.foldl_nil, Std.ExtTreeMap.getElem?_empty]
      rfl
  | append_singleton inputs last ih =>
      unfold consumedIn consumedBy at ih ⊢
      rw [List.foldl_append, List.filter_append, List.filterMap_append, ← ih, List.foldl_cons,
        List.foldl_nil]
      generalize inputs.foldl _ _ = grouped
      unfold consumedAt
      cases tracked : utxos.find? (subgraph.schemaName, last.previousTxHash,
          last.previousOutputIndex.toInt32) with
      | none =>
          have nothing : ([last].filter (·.spendingTxHash == spendingTx)).filterMap
              (consumedAt subgraph utxos) = [] := by
            refine List.filterMap_eq_nil_iff.mpr fun input member => ?_
            rw [List.mem_singleton.mp (List.mem_of_mem_filter member)]
            unfold consumedAt
            rw [tracked, Option.map_none]
          unfold consumedAt at nothing
          rw [nothing, List.append_nil]
      | some spent =>
          by_cases own : last.spendingTxHash = spendingTx
          · subst own
            simp only [beq_self_eq_true, List.filter_cons_of_pos, List.filter_nil,
              List.filterMap_cons, List.filterMap_nil, tracked, Option.map_some]
            unfold ConsumedByTx.push
            rw [OrderedMap.get_insert_self, Option.getD_some]
          · have other : (last.spendingTxHash == spendingTx) = false := beq_false_of_ne own
            simp only [other, Bool.false_eq_true, not_false_eq_true, List.filter_cons_of_neg,
              List.filter_nil, List.filterMap_nil, List.append_nil]
            unfold ConsumedByTx.push
            rw [OrderedMap.get_insert_of_ne _ _ own]

/-- A spend is of an input of its transaction, and carries the operation of that. -/
theorem spendsIn_operation {spend : DetectedSpend} (detected : spend ∈ spendsIn subgraph utxos inputs) :
    (spend.input, spend.spent) ∈ consumedBy subgraph utxos inputs spend.input.spendingTxHash ∧
      spend.operation =
        transactionOperation subgraph utxos inputs spend.input.spendingTxHash := by
  obtain ⟨⟨spendingTx, consumed⟩, grouped, made⟩ := List.mem_flatMap.mp detected
  obtain ⟨⟨input, spent⟩, member, rfl⟩ := List.mem_map.mp made
  have group : consumedBy subgraph utxos inputs spendingTx = consumed := by
    rw [← consumedIn_get, (OrderedMap.mem_toList ..).mp grouped, Option.getD_some]
  subst group
  have own : input.spendingTxHash = spendingTx := by
    obtain ⟨found, listed, same⟩ := List.mem_filterMap.mp member
    obtain ⟨row, -, paired⟩ := Option.map_eq_some_iff.mp same
    have first : found = input := congrArg Prod.fst paired
    rw [first] at listed
    exact beq_iff_eq.mp (List.mem_filter.mp listed).2
  subst own
  refine ⟨member, ?_⟩
  simp only [operationOf, transactionOperation, operationFrom, receiptsCreatedBy, List.all_map,
    List.map_map]
  rfl

end Receipts

/-! ## What handlers are told -/

/-- The operation an event reports with its spend. -/
def MappingEvent.reportedOperation (event : MappingEvent) : Option String :=
  (((event.payload.get? "spend").bind (·.get? "operation"))).bind Value.asStr?

theorem spendMappingEvent_operation (spend : CovenantSpend) (priorState : Value)
    (blockDaaScore : UInt64) (blockHash handler : String) :
    (spendMappingEvent spend priorState blockDaaScore blockHash handler).reportedOperation =
      some spend.operation := by
  have reported : (spendMappingEvent spend priorState blockDaaScore blockHash
      handler).payload.get? "spend" = some spend.toJson := by
    refine Value.get?_ofFields_of_last [] spend.toJson ?_
    show "spend" ∉ ["state"]
    decide
  have operation : spend.toJson.get? "operation" = some (.string spend.operation) := by
    refine Value.get?_ofFields_of_last [("covenantId", .string spend.covenantId)] _ ?_
    show "operation" ∉ ["spentValueSompi", "successorCovenantId"]
    decide
  unfold MappingEvent.reportedOperation
  rw [reported, Option.bind_some, operation]
  rfl

theorem DetectedSpend.events_report {loaded : LoadedMapping} {block : BootstrapBlock}
    {spend : DetectedSpend} {event : MappingEvent} (handed : event ∈ spend.events loaded block) :
    event.reportedOperation = spend.operation := by
  unfold DetectedSpend.events at handed
  split at handed
  · rename_i operation covenantId resolved carried
    obtain ⟨handler, -, rfl⟩ := List.mem_map.mp handed
    rw [spendMappingEvent_operation, resolved]
  · cases handed

/-- Every spend of a committed block is recorded, and its handlers are told the operation of
its whole transaction: the classification of all the receipts that consumes and creates, and
none when it also consumes a covenant of another kind. When all are of one token, it is the
operation under the id of that token alone. -/
theorem spends_report_transaction_operation {indexer : Indexer δ} {subgraph : SubgraphId}
    {loaded : LoadedMapping} {block : BootstrapBlock} {before after : Backend δ}
    {dispatched : List EntityVersionRecord}
    (ran : run exec (persistCommittedRows indexer subgraph (some loaded) block) before =
      (.ok dispatched, after)) :
    let utxos := after.store.covenantUtxos
    let spends := spendsIn subgraph utxos block.inputs
    after.store.covenantSpends =
        before.store.covenantSpends.replay (spends.map (·.row subgraph block)) ∧
      ∀ spend ∈ spends,
        (∀ event ∈ spend.events loaded block, event.reportedOperation = spend.operation) ∧
        spend.operation =
          transactionOperation subgraph utxos block.inputs spend.input.spendingTxHash ∧
        (OneToken subgraph utxos block.inputs spend.input.spendingTxHash spend.spent.covenantId →
          spend.operation = operationUnder subgraph utxos block.inputs
            spend.input.spendingTxHash spend.spent.covenantId) := by
  have left := (Prod.mk.inj
    (persistCommittedRows_computes indexer subgraph block (some loaded) before _ after ran)).2
  intro utxos spends
  constructor
  · have recorded := (Store.withBlock_tables indexer subgraph (some loaded) block
      before.store).2.2.2.2.2.1
    change after.store.covenantSpends = before.store.covenantSpends.replay
      ((spendsIn subgraph after.store.covenantUtxos block.inputs).map (·.row subgraph block))
    rw [left]
    exact recorded
  · intro spend detected
    obtain ⟨-, reported⟩ := spendsIn_operation detected
    exact ⟨fun event handed => DetectedSpend.events_report handed, reported,
      fun token => reported.trans token.operation⟩

/-! ## One token in a transaction, and two -/

def receiptOutput (txHash : String) (outputIndex : UInt32) : IngestedTransactionOutput where
  txHash
  outputIndex
  value := 1
  scriptPublicKey := kcc20AssetFingerprint.head ++ kcc20AssetFingerprint.tail

/-- A block with one transaction that spends a receipt into another of its token. -/
def transferBlock : BootstrapBlock := blockFromRpc kcc20Indexer.toolkit
  { headerBlock "b" 11 true with
    outputs := [receiptOutput "u" 0]
    inputs := [spendOf "u" "t"] }

/-- A transfer of one token. -/
theorem spends_report_transaction_operation_transfer :
    ∃ state, kcc20Start.notify kcc20Indexer receiptBlock = some state ∧
      ∃ dispatched after, run exec (persistCommittedRows kcc20Indexer demoSubgraph
          (some spendMapping) transferBlock) state.backend = (.ok dispatched, after) ∧
        ∃ spend ∈ spendsIn demoSubgraph after.store.covenantUtxos transferBlock.inputs,
          spend.operation = operationUnder demoSubgraph after.store.covenantUtxos
            transferBlock.inputs spend.input.spendingTxHash spend.spent.covenantId := by
  have checked : (kcc20Start.notify kcc20Indexer receiptBlock).any (fun state =>
      let ran := run exec (persistCommittedRows kcc20Indexer demoSubgraph (some spendMapping)
        transferBlock) state.backend
      ran.1.toOption.isSome &&
        (spendsIn demoSubgraph ran.2.store.covenantUtxos transferBlock.inputs).any fun spend =>
          decide (OneToken demoSubgraph ran.2.store.covenantUtxos transferBlock.inputs
            spend.input.spendingTxHash spend.spent.covenantId)) = true := by
    decide +kernel
  obtain ⟨state, success, verdict⟩ := (Option.any_eq_true _ _).mp checked
  obtain ⟨succeeds, single⟩ := (Bool.and_eq_true_iff ..).mp verdict
  obtain ⟨spend, detected, token⟩ := List.any_eq_true.mp single
  refine ⟨state, success, ?_⟩
  rcases ran : run exec (persistCommittedRows kcc20Indexer demoSubgraph (some spendMapping)
      transferBlock) state.backend with ⟨cause | dispatched, after⟩
  · rw [ran] at succeeds
    cases succeeds
  · rw [ran] at detected token
    exact ⟨dispatched, after, rfl, spend, detected,
      ((spends_report_transaction_operation ran).2 spend detected).2.2 (of_decide_eq_true token)⟩

/-- A block that creates a receipt of each of two tokens. -/
def twoTokensBlock : ChainNotification := .blockAdded
  { headerBlock "a" 10 true with outputs := [receiptOutput "t" 0, receiptOutput "v" 0] }

/-- A block with one transaction that spends both into two receipts of the first. -/
def exchangeBlock : BootstrapBlock := blockFromRpc kcc20Indexer.toolkit
  { headerBlock "b" 11 true with
    outputs := [receiptOutput "u" 0, receiptOutput "u" 1]
    inputs := [spendOf "u" "t", spendOf "u" "v"] }

/-- A spend is reported as a transfer, and under its id alone it is none: the first token
mints and the second burns. -/
theorem exchange_reports_transfer :
    ∃ state, kcc20Start.notify kcc20Indexer twoTokensBlock = some state ∧
      ∃ dispatched after, run exec (persistCommittedRows kcc20Indexer demoSubgraph
          (some spendMapping) exchangeBlock) state.backend = (.ok dispatched, after) ∧
        ∃ spend ∈ spendsIn demoSubgraph after.store.covenantUtxos exchangeBlock.inputs,
          spend.operation ≠ operationUnder demoSubgraph after.store.covenantUtxos
            exchangeBlock.inputs spend.input.spendingTxHash spend.spent.covenantId := by
  have checked : (kcc20Start.notify kcc20Indexer twoTokensBlock).any (fun state =>
      let ran := run exec (persistCommittedRows kcc20Indexer demoSubgraph (some spendMapping)
        exchangeBlock) state.backend
      ran.1.toOption.isSome &&
        (spendsIn demoSubgraph ran.2.store.covenantUtxos exchangeBlock.inputs).any fun spend =>
          decide (spend.operation ≠ operationUnder demoSubgraph ran.2.store.covenantUtxos
            exchangeBlock.inputs spend.input.spendingTxHash spend.spent.covenantId)) = true := by
    decide +kernel
  obtain ⟨state, success, verdict⟩ := (Option.any_eq_true _ _).mp checked
  obtain ⟨succeeds, differs⟩ := (Bool.and_eq_true_iff ..).mp verdict
  obtain ⟨spend, detected, apart⟩ := List.any_eq_true.mp differs
  refine ⟨state, success, ?_⟩
  rcases ran : run exec (persistCommittedRows kcc20Indexer demoSubgraph (some spendMapping)
      exchangeBlock) state.backend with ⟨cause | dispatched, after⟩
  · rw [ran] at succeeds
    cases succeeds
  · rw [ran] at detected apart
    exact ⟨dispatched, after, rfl, spend, detected, of_decide_eq_true apart⟩

end KasGraph
