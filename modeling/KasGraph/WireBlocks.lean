import KasGraph.LegacyInscription
import KasGraph.Recovery

set_option autoImplicit false

/-! Blocks read from the JSON of the node. Transactions are walked for their outputs and
inputs; what does not have the expected shape is passed over. -/

namespace KasGraph

open Json (FloatText Number Value)

/-! ## Reading values -/

namespace Json.Value

def asU64? : Value → Option UInt64
  | .number (.posInt n) => some n
  | _ => none

def asBool? : Value → Option Bool
  | .bool b => some b
  | _ => none

def asArray? : Value → Option (List Value)
  | .array items => some items
  | _ => none

/-- `value.pointer("/first/second")`, of names that are no array index. -/
def pointer (value : Value) (first second : String) : Option Value :=
  (value.get? first).bind (·.get? second)

end Json.Value

def extractString (floats : FloatText) (candidates : List (Option Value)) (original : Value) :
    Except RpcError String :=
  match candidates.findSome? fun candidate => candidate.bind Value.asStr? with
  | some text => .ok text
  | none => .error (.malformedResponse (original.text floats))

/-- A number, or a text of one. -/
def numberOrText (value : Value) : Option UInt64 :=
  value.asU64? <|> value.asStr?.bind fromStrU64

def extractU64 (floats : FloatText) (candidates : List (Option Value)) (original : Value) :
    Except RpcError UInt64 :=
  match candidates.findSome? fun candidate => candidate.bind numberOrText with
  | some number => .ok number
  | none => .error (.malformedResponse (original.text floats))

/-! ## Transactions -/

/-- The id of a transaction, under the names it may have. -/
def transactionHash (tx : Value) : String :=
  (((tx.pointer "verboseData" "transactionId").bind Value.asStr?) <|>
    ((tx.get? "transactionId").bind Value.asStr?) <|>
    ((tx.get? "id").bind Value.asStr?)).getD ""

def extractOutput (txHash : String) (output : Value) (idx : Nat) : IngestedTransactionOutput :=
  let scriptHex := (((output.pointer "scriptPublicKey" "scriptPublicKey").bind Value.asStr?) <|>
    ((output.get? "scriptPublicKey").bind Value.asStr?)).getD ""
  let value := ((output.get? "value").bind fun v => v.asStr?.bind fromStrU64 <|> v.asU64?).getD 0
  { txHash
    outputIndex := UInt32.ofNat idx
    scriptPublicKey := (hexDecode scriptHex).getD []
    value }

def extractTransactionOutputs (txs : List Value) : List IngestedTransactionOutput :=
  txs.flatMap fun tx =>
    match (tx.get? "outputs").bind Value.asArray? with
    | none => []
    | some outputs => outputs.zipIdx.map fun output =>
        extractOutput (transactionHash tx) output.1 output.2

/-- The index of a previous outpoint, narrowed to 32 bits; zero where it cannot be read. -/
def previousIndex (input : Value) : UInt32 :=
  (((input.pointer "previousOutpoint" "index").bind numberOrText).getD 0).toUInt32

/-- The previous outpoint of an input, unless it names no transaction. -/
def extractInput (spendingTxHash : String) (input : Value) : Option IngestedTransactionInput :=
  ((input.pointer "previousOutpoint" "transactionId").bind Value.asStr?).map
    fun previousTxHash =>
      { spendingTxHash, previousTxHash, previousOutputIndex := previousIndex input }

/-- The inputs a transaction lists. -/
def inputsOf (tx : Value) : List Value := ((tx.get? "inputs").bind Value.asArray?).getD []

def extractTransactionInputs (txs : List Value) : List IngestedTransactionInput :=
  txs.flatMap fun tx => (inputsOf tx).filterMap (extractInput (transactionHash tx))

/-! ## Blocks -/

/-- The transactions a block lists. -/
def transactionsOf (value : Value) : List Value :=
  ((value.get? "transactions").bind Value.asArray?).getD []

def parseBlockValue (floats : FloatText) (value : Value) (servedBy : String) :
    Except RpcError IngestedBlock := do
  let header := (value.get? "header").getD value
  let hash ← extractString floats [value.get? "hash", header.get? "hash"] value
  let daaScore ← extractU64 floats [header.get? "daaScore", value.get? "daaScore"] value
  let blueScore ← extractU64 floats [header.get? "blueScore", value.get? "blueScore"] value
  let isFinalized := ((value.get? "isFinalized").bind Value.asBool?).getD false
  return { hash, daaScore, blueScore, isFinalized, servedBy,
           outputs := extractTransactionOutputs (transactionsOf value),
           inputs := extractTransactionInputs (transactionsOf value) }

/-- What a block was read from. -/
theorem parseBlockValue_ok {floats : FloatText} {value : Value} {servedBy : String}
    {block : IngestedBlock} (parsed : parseBlockValue floats value servedBy = .ok block) :
    block.inputs = extractTransactionInputs (transactionsOf value) ∧
      extractU64 floats [((value.get? "header").getD value).get? "daaScore",
        value.get? "daaScore"] value = .ok block.daaScore := by
  unfold parseBlockValue at parsed
  dsimp only at parsed
  cases named : extractString floats
      [value.get? "hash", ((value.get? "header").getD value).get? "hash"] value with
  | error e =>
      rw [named] at parsed
      cases parsed
  | ok hash =>
      cases scored : extractU64 floats [((value.get? "header").getD value).get? "daaScore",
          value.get? "daaScore"] value with
      | error e =>
          rw [named, scored] at parsed
          cases parsed
      | ok daaScore =>
          cases blue : extractU64 floats [((value.get? "header").getD value).get? "blueScore",
              value.get? "blueScore"] value with
          | error e =>
              rw [named, scored, blue] at parsed
              cases parsed
          | ok blueScore =>
              rw [named, scored, blue] at parsed
              cases parsed
              exact ⟨rfl, rfl⟩

end KasGraph
