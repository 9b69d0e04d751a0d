import KasGraph.Krc721Ledger
import KasGraph.LegacyJournal

set_option autoImplicit false

/-! Journal rows of legacy operations, and the way back: a row written from a valid
inscription is read back as that inscription. -/

namespace KasGraph

inductive LegacyReconstructError where
  | unknownOp (op family : String)
  | missingColumn (op column : String)
  | invalidU64 (column value : String)
  deriving DecidableEq, Repr

def required (value : Option String) (op column : String) : Except LegacyReconstructError String :=
  match value with
  | some text => .ok text
  | none => .error (.missingColumn op column)

def parseU64 (value column : String) : Except LegacyReconstructError UInt64 :=
  match fromStrU64 value with
  | some number => .ok number
  | none => .error (.invalidU64 column value)

/-- The number in a column that an operation needs. -/
def requiredU64 (value : Option String) (op column : String) :
    Except LegacyReconstructError UInt64 := do
  parseU64 (← required value op column) column

/-- An operation as it arrives: the envelope in a transaction of an accepting block, the
inscription it parses to, and the sender. -/
structure LegacyOp (ε ι : Type) (valid : ε → ι → Prop) where
  envelope : ε
  inscription : ι
  parsed : valid envelope inscription
  sender : String
  txHash : String
  acceptingBlockHash : String
  acceptingDaaScore : Int64

/-! ## KRC-20 -/

structure Krc20LegacyOpRecord where
  subgraph : SubgraphId
  tick : String
  tickRaw : String
  acceptingBlockHash : String
  seq : Int64
  acceptingDaaScore : Int64
  txHash : String
  op : String
  sender : String
  recipient : Option String
  amount : Option String
  maxSupply : Option String
  mintLimit : Option String

instance : LegacyOpRow Krc20LegacyOpRecord where
  table := "kasgraph_krc20_legacy_ledger"
  subgraph := Krc20LegacyOpRecord.subgraph
  tick := Krc20LegacyOpRecord.tick
  acceptingBlockHash := Krc20LegacyOpRecord.acceptingBlockHash
  seq := Krc20LegacyOpRecord.seq
  acceptingDaaScore := Krc20LegacyOpRecord.acceptingDaaScore
  txHash := Krc20LegacyOpRecord.txHash

def krc20InscriptionFromRecord (record : Krc20LegacyOpRecord) :
    Except LegacyReconstructError Krc20Inscription := do
  let op ← match record.op with
    | "deploy" => do
        let max ← requiredU64 record.maxSupply "deploy" "max_supply"
        let lim ← requiredU64 record.mintLimit "deploy" "mint_limit"
        pure (.deploy max lim)
    | "mint" => do
        let amt ← requiredU64 record.amount "mint" "amount"
        pure (.mint amt)
    | "transfer" => do
        let amt ← requiredU64 record.amount "transfer" "amount"
        let recipient ← required record.recipient "transfer" "recipient"
        pure (.transfer amt recipient)
    | "burn" => do
        let amt ← requiredU64 record.amount "burn" "amount"
        pure (.burn amt)
    | other => .error (.unknownOp other "KRC-20")
  return { tick := record.tick, tickRaw := record.tickRaw, op }

/-- Rebuild a ledger from journal rows in replay order. -/
def replayKrc20FromRecords (records : List Krc20LegacyOpRecord) :
    Except LegacyReconstructError (Except Overflow Krc20Ledger) := do
  let ops ← records.mapM fun record => do
    return (← krc20InscriptionFromRecord record, record.sender)
  return Krc20Ledger.replay ops

/-- A KRC-20 operation. -/
abbrev Krc20LegacyOp := LegacyOp Krc20.RawEnvelope Krc20Inscription fun envelope inscription =>
  Krc20.parseEnvelope envelope = .valid inscription

/-- The text of an operation's kind. -/
def Krc20Op.name : Krc20Op → String
  | .deploy _ _ => "deploy"
  | .mint _ => "mint"
  | .transfer _ _ => "transfer"
  | .burn _ => "burn"

/-- The row of an accepted operation: its numbers are the texts its envelope carried. -/
def Krc20LegacyOp.row (subgraph : SubgraphId) (seq : Int64) (op : Krc20LegacyOp) :
    Krc20LegacyOpRecord where
  subgraph
  tick := op.inscription.tick
  tickRaw := op.inscription.tickRaw
  acceptingBlockHash := op.acceptingBlockHash
  seq
  acceptingDaaScore := op.acceptingDaaScore
  txHash := op.txHash
  op := op.inscription.op.name
  sender := op.sender
  recipient := match op.inscription.op with
    | .transfer _ recipient => some recipient
    | _ => none
  amount := match op.inscription.op with
    | .deploy _ _ => none
    | _ => op.envelope.amt
  maxSupply := match op.inscription.op with
    | .deploy _ _ => op.envelope.max
    | _ => none
  mintLimit := match op.inscription.op with
    | .deploy _ _ => op.envelope.lim
    | _ => none

/-! ## KRC-721 -/

structure Krc721LegacyOpRecord where
  subgraph : SubgraphId
  tick : String
  tickRaw : String
  acceptingBlockHash : String
  seq : Int64
  acceptingDaaScore : Int64
  txHash : String
  op : String
  sender : String
  tokenId : Option String
  recipient : Option String
  metadataUri : Option String
  maxSupply : Option String

instance : LegacyOpRow Krc721LegacyOpRecord where
  table := "kasgraph_krc721_legacy_ledger"
  subgraph := Krc721LegacyOpRecord.subgraph
  tick := Krc721LegacyOpRecord.tick
  acceptingBlockHash := Krc721LegacyOpRecord.acceptingBlockHash
  seq := Krc721LegacyOpRecord.seq
  acceptingDaaScore := Krc721LegacyOpRecord.acceptingDaaScore
  txHash := Krc721LegacyOpRecord.txHash

def krc721InscriptionFromRecord (record : Krc721LegacyOpRecord) :
    Except LegacyReconstructError Krc721Inscription := do
  let op ← match record.op with
    | "deploy" => do
        let max ← requiredU64 record.maxSupply "deploy" "max_supply"
        pure (.deploy max)
    | "mint" => do
        let id ← requiredU64 record.tokenId "mint" "token_id"
        let uri ← required record.metadataUri "mint" "metadata_uri"
        pure (.mint id uri)
    | "transfer" => do
        let id ← requiredU64 record.tokenId "transfer" "token_id"
        let recipient ← required record.recipient "transfer" "recipient"
        pure (.transfer id recipient)
    | "burn" => do
        let id ← requiredU64 record.tokenId "burn" "token_id"
        pure (.burn id)
    | other => .error (.unknownOp other "KRC-721")
  return { tick := record.tick, tickRaw := record.tickRaw, op }

/-- Rebuild a ledger from journal rows in replay order. -/
def replayKrc721FromRecords (records : List Krc721LegacyOpRecord) :
    Except LegacyReconstructError Krc721Ledger := do
  let ops ← records.mapM fun record => do
    return (← krc721InscriptionFromRecord record, record.sender)
  return Krc721Ledger.replay ops

/-- A KRC-721 operation. -/
abbrev Krc721LegacyOp := LegacyOp Krc721.RawEnvelope Krc721Inscription fun envelope inscription =>
  Krc721.parseEnvelope envelope = .valid inscription

/-- The text of an operation's kind. -/
def Krc721Op.name : Krc721Op → String
  | .deploy _ => "deploy"
  | .mint _ _ => "mint"
  | .transfer _ _ => "transfer"
  | .burn _ => "burn"

/-- The row of an accepted operation: its numbers are the texts its envelope carried. -/
def Krc721LegacyOp.row (subgraph : SubgraphId) (seq : Int64) (op : Krc721LegacyOp) :
    Krc721LegacyOpRecord where
  subgraph
  tick := op.inscription.tick
  tickRaw := op.inscription.tickRaw
  acceptingBlockHash := op.acceptingBlockHash
  seq
  acceptingDaaScore := op.acceptingDaaScore
  txHash := op.txHash
  op := op.inscription.op.name
  sender := op.sender
  tokenId := match op.inscription.op with
    | .deploy _ => none
    | _ => op.envelope.id
  recipient := match op.inscription.op with
    | .transfer _ recipient => some recipient
    | _ => none
  metadataUri := match op.inscription.op with
    | .mint _ uri => some uri
    | _ => none
  maxSupply := match op.inscription.op with
    | .deploy _ => op.envelope.max
    | _ => none

/-! ## Reading rows back -/

theorem requiredU64_of_parseAmount {value : Option String} {number : UInt64}
    (parsed : Krc20.parseAmount value = some number) (op column : String) :
    requiredU64 value op column = .ok number := by
  obtain ⟨text, rfl, reads⟩ := Krc20.parseAmount_eq_some parsed
  change parseU64 text column = _
  unfold parseU64
  rw [reads]

theorem requiredU64_of_parseU64 {value : Option String} {number : UInt64}
    (parsed : Krc721.parseU64 value = some number) (op column : String) :
    requiredU64 value op column = .ok number := by
  obtain ⟨text, rfl, reads⟩ := Krc721.parseU64_eq_some parsed
  change parseU64 text column = _
  unfold parseU64
  rw [reads]

/-- The fields of a valid envelope that its operation was parsed from. -/
theorem Krc20.parseOp_fields {env : Krc20.RawEnvelope} {op : Krc20Op}
    (parsed : Krc20.parseOp env = .ok op) : match op with
      | .deploy max lim =>
          Krc20.parseAmount env.max = some max ∧ Krc20.parseAmount env.lim = some lim
      | .mint amt => Krc20.parseAmount env.amt = some amt
      | .transfer amt _ => Krc20.parseAmount env.amt = some amt
      | .burn amt => Krc20.parseAmount env.amt = some amt := by
  unfold Krc20.parseOp at parsed
  split at parsed
  · split at parsed
    · cases parsed
    · rename_i max maxRead
      split at parsed
      · cases parsed
      · rename_i lim limRead
        cases parsed
        exact ⟨maxRead, limRead⟩
  · split at parsed
    · rename_i amt amtRead
      cases parsed
      exact amtRead
    · cases parsed
  · split at parsed
    · cases parsed
    · rename_i amt amtRead
      split at parsed
      · cases parsed
        exact amtRead
      · cases parsed
  · split at parsed
    · rename_i amt amtRead
      cases parsed
      exact amtRead
    · cases parsed
  · cases parsed

theorem Krc20.op_of_parseEnvelope {env : Krc20.RawEnvelope} {inscription : Krc20Inscription}
    (parsed : Krc20.parseEnvelope env = .valid inscription) :
    Krc20.parseOp env = .ok inscription.op := by
  unfold Krc20.parseEnvelope at parsed
  split at parsed
  · cases parsed
  · split at parsed
    · cases parsed
    · split at parsed
      · cases parsed
      · split at parsed
        · cases parsed
        · cases parsed
          assumption

theorem krc20InscriptionFromRecord_row (subgraph : SubgraphId) (seq : Int64) (op : Krc20LegacyOp) :
    krc20InscriptionFromRecord (op.row subgraph seq) = .ok op.inscription := by
  have fields := Krc20.parseOp_fields (Krc20.op_of_parseEnvelope op.parsed)
  obtain ⟨envelope, ⟨tick, tickRaw, performed⟩, parsed, sender, txHash, hash, daa⟩ := op
  unfold krc20InscriptionFromRecord Krc20LegacyOp.row
  cases performed with
  | deploy max lim =>
      have maxRead := requiredU64_of_parseAmount fields.1 "deploy" "max_supply"
      have limRead := requiredU64_of_parseAmount fields.2 "deploy" "mint_limit"
      simp only [Krc20Op.name, maxRead, limRead, bind, Except.bind, pure, Except.pure]
  | mint amt =>
      have amtRead := requiredU64_of_parseAmount fields "mint" "amount"
      simp only [Krc20Op.name, amtRead, bind, Except.bind, pure, Except.pure]
  | transfer amt recipient =>
      have amtRead := requiredU64_of_parseAmount fields "transfer" "amount"
      simp only [Krc20Op.name, amtRead, required, bind, Except.bind, pure, Except.pure]
  | burn amt =>
      have amtRead := requiredU64_of_parseAmount fields "burn" "amount"
      simp only [Krc20Op.name, amtRead, bind, Except.bind, pure, Except.pure]

/-- The fields of a valid envelope that its operation was parsed from. -/
theorem Krc721.parseOp_fields {env : Krc721.RawEnvelope} {op : Krc721Op}
    (parsed : Krc721.parseOp env = .ok op) : match op with
      | .deploy max => Krc721.parseU64 env.max = some max
      | .mint id _ => Krc721.parseU64 env.id = some id
      | .transfer id _ => Krc721.parseU64 env.id = some id
      | .burn id => Krc721.parseU64 env.id = some id := by
  unfold Krc721.parseOp at parsed
  split at parsed
  · split at parsed
    · rename_i max maxRead
      cases parsed
      exact maxRead
    · cases parsed
  · split at parsed
    · cases parsed
    · rename_i id idRead
      split at parsed
      · cases parsed
        exact idRead
      · cases parsed
  · split at parsed
    · cases parsed
    · rename_i id idRead
      split at parsed
      · cases parsed
        exact idRead
      · cases parsed
  · split at parsed
    · rename_i id idRead
      cases parsed
      exact idRead
    · cases parsed
  · cases parsed

theorem Krc721.op_of_parseEnvelope {env : Krc721.RawEnvelope} {inscription : Krc721Inscription}
    (parsed : Krc721.parseEnvelope env = .valid inscription) :
    Krc721.parseOp env = .ok inscription.op := by
  unfold Krc721.parseEnvelope at parsed
  split at parsed
  · cases parsed
  · split at parsed
    · cases parsed
    · split at parsed
      · cases parsed
      · split at parsed
        · cases parsed
        · cases parsed
          assumption

theorem krc721InscriptionFromRecord_row (subgraph : SubgraphId) (seq : Int64)
    (op : Krc721LegacyOp) :
    krc721InscriptionFromRecord (op.row subgraph seq) = .ok op.inscription := by
  have fields := Krc721.parseOp_fields (Krc721.op_of_parseEnvelope op.parsed)
  obtain ⟨envelope, ⟨tick, tickRaw, performed⟩, parsed, sender, txHash, hash, daa⟩ := op
  unfold krc721InscriptionFromRecord Krc721LegacyOp.row
  cases performed with
  | deploy max =>
      have maxRead := requiredU64_of_parseU64 fields "deploy" "max_supply"
      simp only [Krc721Op.name, maxRead, bind, Except.bind, pure, Except.pure]
  | mint id uri =>
      have idRead := requiredU64_of_parseU64 fields "mint" "token_id"
      simp only [Krc721Op.name, idRead, required, bind, Except.bind, pure, Except.pure]
  | transfer id recipient =>
      have idRead := requiredU64_of_parseU64 fields "transfer" "token_id"
      simp only [Krc721Op.name, idRead, required, bind, Except.bind, pure, Except.pure]
  | burn id =>
      have idRead := requiredU64_of_parseU64 fields "burn" "token_id"
      simp only [Krc721Op.name, idRead, bind, Except.bind, pure, Except.pure]

end KasGraph
