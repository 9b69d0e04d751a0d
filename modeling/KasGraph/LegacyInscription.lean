import Mathlib

set_option autoImplicit false

/-! Legacy inscriptions. An operation rides in the payload of a transaction as a JSON
envelope whose numbers are decimal texts; parsing validates the fields its operation
needs. -/

namespace KasGraph

/-- `text.parse::<u64>().ok()`: decimal digits, which a plus sign may precede. -/
def fromStrU64 (text : String) : Option UInt64 :=
  let digits := match text.toList with
    | '+' :: rest => rest
    | all => all
  if digits.isEmpty || !digits.all Char.isDigit then
    none
  else
    let value := digits.foldl (fun value digit => 10 * value + (digit.toNat - 48)) 0
    if value < 2 ^ 64 then some (UInt64.ofNat value) else none

/-- `text.is_ascii()`. -/
def isAscii (text : String) : Bool := text.toList.all fun c => c.toNat < 128

/-- `text.to_ascii_lowercase()`. -/
def toAsciiLowercase (text : String) : String := text.map Char.toLower

/-- A number written in digits alone, without a sign or other decoration. -/
private def plainU64 (value : Option String) : Option UInt64 := do
  let value ← value
  if value.isEmpty || !value.toList.all Char.isDigit then none else fromStrU64 value

/-- A present, non-empty text. -/
private def nonEmpty (value : Option String) : Option String := value.filter fun text => !text.isEmpty

/-! ## KRC-20 -/

namespace Krc20

def parseAmount (value : Option String) : Option UInt64 := plainU64 value

end Krc20

inductive Krc20Op where
  | deploy (max lim : UInt64)
  | mint (amt : UInt64)
  | transfer (amt : UInt64) (recipient : String)
  | burn (amt : UInt64)
  deriving DecidableEq, Repr

structure Krc20Inscription where
  tick : String
  tickRaw : String
  op : Krc20Op
  deriving DecidableEq, Repr

inductive Krc20Parse where
  | notKrc20
  | malformed (reason : String)
  | valid (inscription : Krc20Inscription)
  deriving DecidableEq, Repr

namespace Krc20

/-- The envelope before validation; `recipient` is its field `to`. -/
structure RawEnvelope where
  p : Option String
  op : Option String
  tick : Option String
  max : Option String
  lim : Option String
  amt : Option String
  recipient : Option String
  deriving DecidableEq, Repr

/-- The operation of an envelope, or why it has none. -/
def parseOp (env : RawEnvelope) : Except String Krc20Op :=
  match env.op with
  | some "deploy" =>
      match parseAmount env.max with
      | none => .error "deploy requires a numeric max"
      | some max =>
          match parseAmount env.lim with
          | none => .error "deploy requires a numeric lim"
          | some lim => .ok (.deploy max lim)
  | some "mint" =>
      match parseAmount env.amt with
      | some amt => .ok (.mint amt)
      | none => .error "mint requires a numeric amt"
  | some "transfer" =>
      match parseAmount env.amt with
      | none => .error "transfer requires a numeric amt"
      | some amt =>
          match nonEmpty env.recipient with
          | some recipient => .ok (.transfer amt recipient)
          | none => .error "transfer requires a recipient"
  | some "burn" =>
      match parseAmount env.amt with
      | some amt => .ok (.burn amt)
      | none => .error "burn requires a numeric amt"
  | _ => .error "unknown or missing op"

/-- Validate an envelope. -/
def parseEnvelope (env : RawEnvelope) : Krc20Parse :=
  if env.p != some "krc-20" then
    .notKrc20
  else
    match env.tick with
    | none => .malformed "missing tick"
    | some tickRaw =>
        if tickRaw.isEmpty || !isAscii tickRaw then
          .malformed "tick must be non-empty ASCII"
        else
          match parseOp env with
          | .error reason => .malformed reason
          | .ok op => .valid { tick := toAsciiLowercase tickRaw, tickRaw, op }

end Krc20

/-- Parse the payload of a transaction; `fromSlice` reads its bytes as an envelope. -/
def parseKrc20Inscription (fromSlice : List UInt8 → Option Krc20.RawEnvelope)
    (payload : List UInt8) : Krc20Parse :=
  match fromSlice payload with
  | some env => Krc20.parseEnvelope env
  | none => .notKrc20

/-! ## KRC-721 -/

namespace Krc721

def parseU64 (value : Option String) : Option UInt64 := plainU64 value

end Krc721

inductive Krc721Op where
  | deploy (max : UInt64)
  | mint (id : UInt64) (uri : String)
  | transfer (id : UInt64) (recipient : String)
  | burn (id : UInt64)
  deriving DecidableEq, Repr

structure Krc721Inscription where
  tick : String
  tickRaw : String
  op : Krc721Op
  deriving DecidableEq, Repr

inductive Krc721Parse where
  | notKrc721
  | malformed (reason : String)
  | valid (inscription : Krc721Inscription)
  deriving DecidableEq, Repr

namespace Krc721

/-- The envelope before validation; `recipient` is its field `to`. -/
structure RawEnvelope where
  p : Option String
  op : Option String
  tick : Option String
  max : Option String
  id : Option String
  uri : Option String
  recipient : Option String
  deriving DecidableEq, Repr

/-- The operation of an envelope, or why it has none. -/
def parseOp (env : RawEnvelope) : Except String Krc721Op :=
  match env.op with
  | some "deploy" =>
      match parseU64 env.max with
      | some max => .ok (.deploy max)
      | none => .error "deploy requires a numeric max"
  | some "mint" =>
      match parseU64 env.id with
      | none => .error "mint requires a numeric id"
      | some id =>
          match nonEmpty env.uri with
          | some uri => .ok (.mint id uri)
          | none => .error "mint requires a metadata uri"
  | some "transfer" =>
      match parseU64 env.id with
      | none => .error "transfer requires a numeric id"
      | some id =>
          match nonEmpty env.recipient with
          | some recipient => .ok (.transfer id recipient)
          | none => .error "transfer requires a recipient"
  | some "burn" =>
      match parseU64 env.id with
      | some id => .ok (.burn id)
      | none => .error "burn requires a numeric id"
  | _ => .error "unknown or missing op"

/-- Validate an envelope. -/
def parseEnvelope (env : RawEnvelope) : Krc721Parse :=
  if env.p != some "krc-721" then
    .notKrc721
  else
    match env.tick with
    | none => .malformed "missing tick"
    | some tickRaw =>
        if tickRaw.isEmpty || !isAscii tickRaw then
          .malformed "tick must be non-empty ASCII"
        else
          match parseOp env with
          | .error reason => .malformed reason
          | .ok op => .valid { tick := toAsciiLowercase tickRaw, tickRaw, op }

end Krc721

/-- Parse the payload of a transaction; `fromSlice` reads its bytes as an envelope. -/
def parseKrc721Inscription (fromSlice : List UInt8 → Option Krc721.RawEnvelope)
    (payload : List UInt8) : Krc721Parse :=
  match fromSlice payload with
  | some env => Krc721.parseEnvelope env
  | none => .notKrc721

/-! ## Parsed numbers -/

theorem Krc20.parseAmount_some (text : String) : Krc20.parseAmount (some text) =
    if text.isEmpty || !text.toList.all Char.isDigit then none else fromStrU64 text := rfl

theorem Krc721.parseU64_some (text : String) : Krc721.parseU64 (some text) =
    if text.isEmpty || !text.toList.all Char.isDigit then none else fromStrU64 text := rfl

theorem Krc20.parseOp_transfer {env : Krc20.RawEnvelope} (op : env.op = some "transfer") :
    (Krc20.parseOp env).toOption = (Krc20.parseAmount env.amt).bind fun amt =>
      (env.recipient.filter fun text => !text.isEmpty).map fun recipient =>
        .transfer amt recipient := by
  change _ = (Krc20.parseAmount env.amt).bind fun amt =>
    (nonEmpty env.recipient).map fun recipient => Krc20Op.transfer amt recipient
  simp only [Krc20.parseOp, op]
  cases Krc20.parseAmount env.amt with
  | none => rfl
  | some amt =>
      cases nonEmpty env.recipient with
      | none => simp only [Option.bind_some, Option.map_none, Except.toOption]
      | some recipient => simp only [Option.bind_some, Option.map_some, Except.toOption]

theorem Krc721.parseOp_transfer {env : Krc721.RawEnvelope} (op : env.op = some "transfer") :
    (Krc721.parseOp env).toOption = (Krc721.parseU64 env.id).bind fun id =>
      (env.recipient.filter fun text => !text.isEmpty).map fun recipient =>
        .transfer id recipient := by
  change _ = (Krc721.parseU64 env.id).bind fun id =>
    (nonEmpty env.recipient).map fun recipient => Krc721Op.transfer id recipient
  simp only [Krc721.parseOp, op]
  cases Krc721.parseU64 env.id with
  | none => rfl
  | some id =>
      cases nonEmpty env.recipient with
      | none => simp only [Option.bind_some, Option.map_none, Except.toOption]
      | some recipient => simp only [Option.bind_some, Option.map_some, Except.toOption]

theorem Krc721.parseOp_mint {env : Krc721.RawEnvelope} (op : env.op = some "mint") :
    (Krc721.parseOp env).toOption = (Krc721.parseU64 env.id).bind fun id =>
      (env.uri.filter fun text => !text.isEmpty).map fun uri => .mint id uri := by
  change _ = (Krc721.parseU64 env.id).bind fun id =>
    (nonEmpty env.uri).map fun uri => Krc721Op.mint id uri
  simp only [Krc721.parseOp, op]
  cases Krc721.parseU64 env.id with
  | none => rfl
  | some id =>
      cases nonEmpty env.uri with
      | none => simp only [Option.bind_some, Option.map_none, Except.toOption]
      | some uri => simp only [Option.bind_some, Option.map_some, Except.toOption]

private theorem plainU64_eq_some {value : Option String} {number : UInt64}
    (parsed : plainU64 value = some number) :
    ∃ text, value = some text ∧ fromStrU64 text = some number := by
  obtain ⟨text, present, rest⟩ := Option.bind_eq_some_iff.mp parsed
  refine ⟨text, present, ?_⟩
  split at rest
  · cases rest
  · exact rest

theorem Krc20.parseAmount_eq_some {value : Option String} {amount : UInt64}
    (parsed : Krc20.parseAmount value = some amount) :
    ∃ text, value = some text ∧ fromStrU64 text = some amount := plainU64_eq_some parsed

theorem Krc721.parseU64_eq_some {value : Option String} {number : UInt64}
    (parsed : Krc721.parseU64 value = some number) :
    ∃ text, value = some text ∧ fromStrU64 text = some number := plainU64_eq_some parsed

end KasGraph
