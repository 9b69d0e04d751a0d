import KasGraph.Detectors

set_option autoImplicit false

/-! Blocks as the RPC layer delivers them and as the indexer holds them, with
the detector hits and the canonical bytes computed once on arrival. -/

namespace KasGraph

open Json (Value FloatText Unprintable)

/-! ## The wire model -/

structure IngestedTransactionOutput where
  txHash : String
  outputIndex : UInt32
  scriptPublicKey : List UInt8
  value : UInt64
  deriving DecidableEq, Repr

structure IngestedTransactionInput where
  spendingTxHash : String
  previousTxHash : String
  previousOutputIndex : UInt32
  deriving DecidableEq, Repr

structure IngestedBlock where
  hash : String
  daaScore : UInt64
  blueScore : UInt64
  isFinalized : Bool
  servedBy : String
  outputs : List IngestedTransactionOutput
  inputs : List IngestedTransactionInput
  deriving DecidableEq, Repr

inductive ChainNotification where
  | blockAdded (block : IngestedBlock)
  | virtualChainChanged (removedChainBlockHashes : List String)
      (addedChainBlocks : List IngestedBlock)
  | recoveryRequired (fromDaaScore toDaaScore : UInt64) (reason : String)
  deriving DecidableEq, Repr

/-! ## The indexer's blocks -/

structure BootstrapBlock where
  hash : String
  daaScore : Int64
  blueScore : Int64
  servedBy : String
  isFinalized : Bool
  canonicalEntityBytes : List UInt8
  outputs : List IngestedTransactionOutput
  inputs : List IngestedTransactionInput
  detectorHits : List DetectedPattern
  deriving DecidableEq

/-- What the indexer uses from outside its own modules: the registered
detectors, the 256-bit hash of covenant ids, and the texts of floats and of
unprintable characters. -/
structure Toolkit where
  registry : List DetectorEntry
  blake2b : List UInt8 → List UInt8
  floats : FloatText
  unprintable : Unprintable

/-- The order of the detector rows in a block's canonical bytes. -/
def DetectedPattern.le (a b : DetectedPattern) : Bool :=
  ((compare a.txHash b.txHash).then
    ((compare a.outputIndex b.outputIndex).then (compare a.kind.debug b.kind.debug))).isLE

variable (toolkit : Toolkit)

def detectorRowText (row : DetectedPattern) : String :=
  let covenant := row.covenantId.getD ""
  let payloadCanonical :=
    Json.canonicalizeJson toolkit.floats toolkit.unprintable row.payload
  "::det:" ++ row.txHash ++ ":" ++ toString row.outputIndex ++ ":" ++ row.kind.debug ++ ":" ++
    covenant ++ ":" ++ payloadCanonical

/-- A header of the block's metadata followed by its sorted detector rows. -/
def canonicalBytesForBlock (block : IngestedBlock) (detectorHits : List DetectedPattern) :
    List UInt8 :=
  let header := "hash=" ++ block.hash ++ "::daa=" ++ toString block.daaScore ++ "::blue=" ++
    toString block.blueScore ++ "::finalized=" ++ toString block.isFinalized ++ "::served_by=" ++
    block.servedBy
  let rows := detectorHits.insertionSort fun a b => a.le b
  (rows.foldl (fun buffer row => buffer ++ detectorRowText toolkit row) header).toUTF8.toList

def blockFromRpc (block : IngestedBlock) : BootstrapBlock :=
  let detectorHits := block.outputs.flatMap fun out =>
    detectInOutput toolkit.registry out.scriptPublicKey out.txHash out.outputIndex
  { hash := block.hash
    daaScore := block.daaScore.toInt64
    blueScore := block.blueScore.toInt64
    servedBy := block.servedBy
    isFinalized := block.isFinalized
    canonicalEntityBytes := canonicalBytesForBlock toolkit block detectorHits
    outputs := block.outputs
    inputs := block.inputs
    detectorHits }

/-- The hits of a delivered block carry no covenant id and no field that no detector names. -/
theorem blockFromRpc_plain {block : IngestedBlock} {hit : DetectedPattern}
    (detected : hit ∈ (blockFromRpc toolkit block).detectorHits) {name : String}
    (unnamed : ∀ entry ∈ toolkit.registry, name ∉ entry.matcher.fields) :
    hit.covenantId = none ∧ hit.payload.get? name = none := by
  obtain ⟨output, -, found⟩ := List.mem_flatMap.mp detected
  exact detectInOutput_plain found unnamed

/-- A block's canonical bytes start with its header. -/
theorem canonicalBytesForBlock_ne_nil (block : IngestedBlock)
    (detectorHits : List DetectedPattern) :
    canonicalBytesForBlock toolkit block detectorHits ≠ [] := by
  have grows : ∀ (rows : List DetectedPattern) (buffer : String),
      buffer.length ≤ (rows.foldl (fun buffer row => buffer ++ detectorRowText toolkit row)
        buffer).length := by
    intro rows
    induction rows with
    | nil => exact fun buffer => le_refl _
    | cons row rows ih =>
        intro buffer
        have longer := ih (buffer ++ detectorRowText toolkit row)
        rw [String.length_append] at longer
        rw [List.foldl_cons]
        omega
  apply Json.toUTF8_toList_ne_nil
  intro none
  have short := congrArg String.length none
  have header := grows (detectorHits.insertionSort fun a b => a.le b) ("hash=" ++ block.hash ++
    "::daa=" ++ toString block.daaScore ++ "::blue=" ++ toString block.blueScore ++
    "::finalized=" ++ toString block.isFinalized ++ "::served_by=" ++ block.servedBy)
  have empty := header.trans (le_of_eq short)
  simp [String.length_append] at empty

@[simp] theorem blockFromRpc_hash (block : IngestedBlock) :
    (blockFromRpc toolkit block).hash = block.hash := rfl

@[simp] theorem blockFromRpc_daaScore (block : IngestedBlock) :
    (blockFromRpc toolkit block).daaScore = block.daaScore.toInt64 := rfl

@[simp] theorem blockFromRpc_isFinalized (block : IngestedBlock) :
    (blockFromRpc toolkit block).isFinalized = block.isFinalized := rfl

/-- A block without transactions, as a scaffold endpoint serves it. -/
def headerBlock (hash : String) (daaScore : UInt64) (finalized : Bool) : IngestedBlock where
  hash
  daaScore
  blueScore := daaScore
  isFinalized := finalized
  servedBy := "primary"
  outputs := []
  inputs := []

/-- A toolkit without detectors. -/
def bareToolkit : Toolkit where
  registry := []
  blake2b := fun bytes => bytes
  floats := fun _ => "0.0"
  unprintable := fun _ => false

end KasGraph
