import KasGraph.CovenantTracking
import KasGraph.WireBlocks

set_option autoImplicit false

/-! The outpoints that a block spends, against those written in its JSON. -/

namespace KasGraph

open Json (FloatText Value)

/-! ## Partial readings -/

section Readings

variable {α β : Type} {strict loose : α → Option β}

theorem length_filterMap_le (below : ∀ x b, strict x = some b → loose x = some b)
    (items : List α) : (items.filterMap strict).length ≤ (items.filterMap loose).length := by
  induction items with
  | nil => exact le_rfl
  | cons x rest ih =>
      cases read : strict x with
      | none =>
          rw [List.filterMap_cons_none read]
          refine ih.trans ?_
          cases also : loose x with
          | none => rw [List.filterMap_cons_none also]
          | some b =>
              rw [List.filterMap_cons_some also]
              exact Nat.le_succ _
      | some b =>
          rw [List.filterMap_cons_some read, List.filterMap_cons_some (below x b read)]
          exact Nat.succ_le_succ ih

/-- Where one reading says no more than another, both read a list alike exactly when they
read the same of its items. -/
theorem filterMap_eq_iff (below : ∀ x b, strict x = some b → loose x = some b)
    (items : List α) : items.filterMap loose = items.filterMap strict ↔
      ∀ x ∈ items, (loose x).isSome = true → (strict x).isSome = true := by
  induction items with
  | nil => exact iff_of_true rfl fun x member => absurd member List.not_mem_nil
  | cons x rest ih =>
      rw [List.forall_mem_cons, ← ih]
      cases read : strict x with
      | some b =>
          rw [List.filterMap_cons_some read, List.filterMap_cons_some (below x b read),
            List.cons.injEq]
          exact ⟨fun same => ⟨fun _ => rfl, same.2⟩, fun same => ⟨rfl, same.2⟩⟩
      | none =>
          rw [List.filterMap_cons_none read]
          cases also : loose x with
          | none =>
              rw [List.filterMap_cons_none also]
              exact ⟨fun same => ⟨id, same⟩, And.right⟩
          | some b =>
              rw [List.filterMap_cons_some also]
              refine iff_of_false (fun same => ?_) fun given => Bool.false_ne_true (given.1 rfl)
              have level := congrArg List.length same
              have short := length_filterMap_le below rest
              rw [List.length_cons] at level
              omega

end Readings

/-! ## Written outpoints -/

/-- The transaction an input's previous outpoint names. -/
def writtenTransaction (input : Value) : Option String :=
  (input.pointer "previousOutpoint" "transactionId").bind Value.asStr?

/-- The index an input's previous outpoint names: a number or a text of one, of 32 bits. -/
def writtenIndex (input : Value) : Option UInt32 :=
  ((input.pointer "previousOutpoint" "index").bind numberOrText).bind fun n =>
    if n.toNat < 2 ^ 32 then some n.toUInt32 else none

/-- An input as it is written: none where it names no outpoint. -/
def writtenInput (spendingTxHash : String) (input : Value) : Option IngestedTransactionInput :=
  (writtenTransaction input).bind fun previousTxHash =>
    (writtenIndex input).map fun previousOutputIndex =>
      { spendingTxHash, previousTxHash, previousOutputIndex }

def writtenInputs (txs : List Value) : List IngestedTransactionInput :=
  txs.flatMap fun tx => (inputsOf tx).filterMap (writtenInput (transactionHash tx))

/-- An input that names a transaction names an index as well. -/
def NamesOutpoint (input : Value) : Prop :=
  (writtenTransaction input).isSome = true → (writtenIndex input).isSome = true

theorem extractInput_eq (spendingTxHash : String) (input : Value) :
    extractInput spendingTxHash input = (writtenTransaction input).map fun previousTxHash =>
      { spendingTxHash, previousTxHash, previousOutputIndex := previousIndex input } := rfl

theorem previousIndex_of_written {input : Value} {index : UInt32}
    (written : writtenIndex input = some index) : previousIndex input = index := by
  obtain ⟨n, read, fits⟩ := Option.bind_eq_some_iff.mp written
  obtain ⟨-, narrowed⟩ := Option.ite_none_right_eq_some.mp fits
  cases narrowed
  rw [previousIndex, read]
  rfl

theorem extractInput_of_written (spendingTxHash : String) (input : Value)
    (named : IngestedTransactionInput) (written : writtenInput spendingTxHash input = some named) :
    extractInput spendingTxHash input = some named := by
  obtain ⟨previousTxHash, transaction, rest⟩ := Option.bind_eq_some_iff.mp written
  obtain ⟨index, indexed, same⟩ := Option.map_eq_some_iff.mp rest
  rw [extractInput_eq, transaction, Option.map_some, previousIndex_of_written indexed, same]

theorem isSome_writtenInput (spendingTxHash : String) (input : Value) :
    ((extractInput spendingTxHash input).isSome = true →
      (writtenInput spendingTxHash input).isSome = true) ↔ NamesOutpoint input := by
  unfold writtenInput NamesOutpoint
  rw [extractInput_eq, Option.isSome_map]
  cases writtenTransaction input with
  | none => exact iff_of_true (fun none => none) fun none => absurd none Bool.false_ne_true
  | some previousTxHash => rw [Option.bind_some, Option.isSome_map]

/-- The inputs of all transactions, each with the transaction that spends. -/
def allInputs (txs : List Value) : List (String × Value) :=
  txs.flatMap fun tx => (inputsOf tx).map (Prod.mk (transactionHash tx))

theorem flatMap_inputs (read : String → Value → Option IngestedTransactionInput)
    (txs : List Value) :
    (txs.flatMap fun tx => (inputsOf tx).filterMap (read (transactionHash tx))) =
      (allInputs txs).filterMap fun input => read input.1 input.2 := by
  rw [allInputs, List.filterMap_flatMap]
  refine List.flatMap_congr fun tx member => ?_
  rw [List.filterMap_map]
  rfl

/-- The inputs of a block are those written in it, exactly when each input that names a
transaction names an index. -/
theorem extractTransactionInputs_eq_iff (txs : List Value) :
    extractTransactionInputs txs = writtenInputs txs ↔
      ∀ tx ∈ txs, ∀ input ∈ inputsOf tx, NamesOutpoint input := by
  rw [extractTransactionInputs, writtenInputs, flatMap_inputs, flatMap_inputs]
  refine (filterMap_eq_iff (fun input named written =>
    extractInput_of_written input.1 input.2 named written) (allInputs txs)).trans ?_
  simp only [isSome_writtenInput]
  constructor
  · intro each tx listed input member
    exact each (transactionHash tx, input)
      (List.mem_flatMap.mpr ⟨tx, listed, List.mem_map.mpr ⟨input, member, rfl⟩⟩)
  · intro each pair member
    obtain ⟨tx, listed, mapped⟩ := List.mem_flatMap.mp member
    obtain ⟨input, inside, rfl⟩ := List.mem_map.mp mapped
    exact each tx listed input inside

theorem mem_writtenInputs {txs : List Value} {named : IngestedTransactionInput}
    (listed : named ∈ writtenInputs txs) : ∃ tx ∈ txs, ∃ input ∈ inputsOf tx,
      writtenTransaction input = some named.previousTxHash ∧
        writtenIndex input = some named.previousOutputIndex := by
  obtain ⟨tx, inTxs, read⟩ := List.mem_flatMap.mp listed
  obtain ⟨input, inside, written⟩ := List.mem_filterMap.mp read
  obtain ⟨previousTxHash, transaction, rest⟩ := Option.bind_eq_some_iff.mp written
  obtain ⟨index, indexed, rfl⟩ := Option.map_eq_some_iff.mp rest
  exact ⟨tx, inTxs, input, inside, transaction, indexed⟩

/-- The spent outpoints of a block are those written in its JSON exactly when every input that
names a transaction names an index of 32 bits; then an output is found spent only by an input
that names it. -/
theorem spent_outpoints_exact (floats : FloatText) (value : Value) (servedBy : String)
    (block : IngestedBlock) (parsed : parseBlockValue floats value servedBy = .ok block) :
    (block.inputs = writtenInputs (transactionsOf value) ↔
      ∀ tx ∈ transactionsOf value, ∀ input ∈ inputsOf tx, NamesOutpoint input) ∧
    ((∀ tx ∈ transactionsOf value, ∀ input ∈ inputsOf tx, NamesOutpoint input) →
      ∀ (subgraph : SubgraphId) (utxos : Tracked), ∀ input ∈ block.inputs, ∀ spent,
        utxos.find? (subgraph.schemaName, input.previousTxHash,
            input.previousOutputIndex.toInt32) = some spent →
          ∃ tx ∈ transactionsOf value, ∃ written ∈ inputsOf tx,
            writtenTransaction written = some spent.txHash ∧
              writtenIndex written = some spent.outputIndex.toUInt32) := by
  have inputs := (parseBlockValue_ok parsed).1
  have exact := extractTransactionInputs_eq_iff (transactionsOf value)
  rw [← inputs] at exact
  refine ⟨exact, fun named subgraph utxos input member spent found => ?_⟩
  rw [exact.mpr named] at member
  obtain ⟨tx, listed, written, inside, transaction, index⟩ := mem_writtenInputs member
  have key := Table.key_of_find found
  simp only [CovenantUtxoRecord.key, Prod.mk.injEq] at key
  refine ⟨tx, listed, written, inside, ?_, ?_⟩
  · rw [transaction, key.2.1]
  · rw [index, key.2.2]
    exact congrArg some (UInt32.toUInt32_toInt32 _).symm

/-- A block with one input, of this previous outpoint. -/
def spendingValue (outpoint : List (String × Value)) : Value :=
  .object [("blueScore", .number (.posInt 7)), ("daaScore", .number (.posInt 9)),
    ("hash", .string "b"),
    ("transactions", .array [.object [("id", .string "t"),
      ("inputs", .array [.object [("previousOutpoint", .object outpoint)]])]])]

/-- The block read from it, with this index. -/
def spendingBlock (index : UInt32) : IngestedBlock where
  hash := "b"
  daaScore := 9
  blueScore := 7
  isFinalized := false
  servedBy := "node"
  outputs := []
  inputs := [{ spendingTxHash := "t", previousTxHash := "aa", previousOutputIndex := index }]

theorem spent_outpoints_exact_indexed :
    (spendingBlock 1).inputs = writtenInputs (transactionsOf (spendingValue
      [("index", .string "1"), ("transactionId", .string "aa")])) := by
  have parsed : parseBlockValue (fun _ => "0") (spendingValue
      [("index", .string "1"), ("transactionId", .string "aa")]) "node" =
        .ok (spendingBlock 1) := by
    decide
  refine (spent_outpoints_exact _ _ _ _ parsed).1.mpr fun tx listed input inside => ?_
  cases List.mem_singleton.mp listed
  cases List.mem_singleton.mp inside
  exact fun _ => by decide

/-- Without an index the first output of the transaction counts as spent. -/
theorem missing_index_spends_first :
    ¬ ∀ (floats : FloatText) (value : Value) (servedBy : String) (block : IngestedBlock),
      parseBlockValue floats value servedBy = .ok block →
        block.inputs = writtenInputs (transactionsOf value) := by
  intro always
  have parsed : parseBlockValue (fun _ => "0") (spendingValue
      [("transactionId", .string "aa")]) "node" = .ok (spendingBlock 0) := by
    decide
  exact absurd (always _ _ _ _ parsed) (by decide)

end KasGraph
