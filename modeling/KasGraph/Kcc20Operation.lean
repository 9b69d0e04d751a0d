import KasGraph.Detectors

set_option autoImplicit false

/-! The operation of a KCC20 spend, read off the receipts it consumes and the
receipts it creates. -/

namespace KasGraph

open Json (Value)

def identifierCovenantId : UInt8 := 0x02

/-- The state of one receipt. The amount is an unsigned 128-bit value. -/
structure Kcc20ReceiptState where
  ownerIdentifier : String
  identifierType : UInt8
  amount : Nat
  isMinter : Bool
  deriving DecidableEq, Repr

inductive Kcc20DecodeError where
  | missingField (field : String)
  | notHex (field : String)
  | overflow (field : String)
  deriving DecidableEq, Repr

inductive Kcc20Operation where
  | transfer
  | mint
  | burn
  | rotateController
  deriving DecidableEq, Repr

def Kcc20Operation.asStr : Kcc20Operation → String
  | .transfer => "transfer"
  | .mint => "mint"
  | .burn => "burn"
  | .rotateController => "rotate_controller"

def hexStr (payload : Value) (field : String) : Except Kcc20DecodeError String :=
  match (payload.get? field).bind Value.asStr? with
  | some s => .ok s
  | none => .error (.missingField field)

private def hexBytes (payload : Value) (field : String) : Except Kcc20DecodeError (List UInt8) := do
  match hexDecode (← hexStr payload field) with
  | some bytes => .ok bytes
  | none => .error (.notHex field)

/-- A field of exactly one byte. -/
def hexByte (payload : Value) (field : String) : Except Kcc20DecodeError UInt8 := do
  match ← hexBytes payload field with
  | [b] => .ok b
  | _ => .error (.overflow field)

/-- A little-endian field of at most eight bytes. -/
def hexLeU64 (payload : Value) (field : String) : Except Kcc20DecodeError Nat := do
  let bytes ← hexBytes payload field
  if bytes.length > 8 then
    .error (.overflow field)
  else
    .ok (bytes.zipIdx.foldl (fun acc (b, i) => acc ||| b.toNat <<< (8 * i)) 0)

namespace Kcc20ReceiptState

def fromPayload (payload : Value) : Except Kcc20DecodeError Kcc20ReceiptState := do
  let ownerIdentifier ← hexStr payload "owner_identifier"
  let identifierType ← hexByte payload "identifier_type"
  let amount ← hexLeU64 payload "amount"
  let isMinter ← hexByte payload "is_minter"
  return { ownerIdentifier, identifierType, amount, isMinter := isMinter != 0 }

/-- The minter branch bound to a controller covenant. -/
def isControllerBinding (r : Kcc20ReceiptState) : Bool :=
  r.isMinter && r.identifierType == identifierCovenantId

end Kcc20ReceiptState

/-- The summed amount, saturating at the 128-bit maximum. -/
def sumAmounts (receipts : List Kcc20ReceiptState) : Nat :=
  receipts.foldl (fun acc r => min (acc + r.amount) (2 ^ 128 - 1)) 0

/-- The controllers bound on the minter branches, as a set. -/
def controllerBindings (receipts : List Kcc20ReceiptState) : Finset String :=
  ((receipts.filter (·.isControllerBinding)).map (·.ownerIdentifier)).toFinset

def classifyKcc20Operation (prev next : List Kcc20ReceiptState) : Kcc20Operation :=
  match compare (sumAmounts next) (sumAmounts prev) with
  | .gt => .mint
  | .lt => .burn
  | .eq => if controllerBindings prev ≠ controllerBindings next then .rotateController else .transfer

/-- The operation of a spend, unless some payload is not a receipt. -/
def kcc20SpendOperation (consumed created : List Value) :
    Except Kcc20DecodeError Kcc20Operation := do
  let prev ← consumed.mapM Kcc20ReceiptState.fromPayload
  let next ← created.mapM Kcc20ReceiptState.fromPayload
  return classifyKcc20Operation prev next

/-! ## Decoded fields -/

/-- The value of bytes, the least significant first. -/
def leValue : List UInt8 → Nat
  | [] => 0
  | b :: rest => b.toNat + 256 * leValue rest

theorem leValue_lt (bytes : List UInt8) : leValue bytes < 2 ^ (8 * bytes.length) := by
  induction bytes with
  | nil => exact Nat.one_pos
  | cons b rest ih =>
      have below := b.toNat_lt
      have grown : 2 ^ (8 * (b :: rest).length) = 256 * 2 ^ (8 * rest.length) := by
        rw [List.length_cons, Nat.mul_add, pow_add, Nat.mul_comm]
        rfl
      rw [leValue, grown]
      omega

/-- Each byte is put above those read before it. -/
private theorem foldl_leValue (bytes : List UInt8) (k acc : Nat) (below : acc < 2 ^ (8 * k)) :
    (bytes.zipIdx k).foldl (fun acc x => acc ||| x.1.toNat <<< (8 * x.2)) acc =
      acc + 2 ^ (8 * k) * leValue bytes := by
  induction bytes generalizing k acc with
  | nil => rfl
  | cons b rest ih =>
      have size := b.toNat_lt
      have placed : acc ||| b.toNat <<< (8 * k) = 2 ^ (8 * k) * b.toNat + acc := by
        rw [Nat.shiftLeft_eq, Nat.mul_comm b.toNat, Nat.or_comm,
          Nat.two_pow_add_eq_or_of_lt below]
      have grown : 2 ^ (8 * (k + 1)) = 2 ^ (8 * k) * 256 := by
        rw [Nat.mul_add, pow_add]
        rfl
      have room : 2 ^ (8 * k) * b.toNat + acc < 2 ^ (8 * (k + 1)) := by
        rw [grown]
        calc 2 ^ (8 * k) * b.toNat + acc
            < 2 ^ (8 * k) * b.toNat + 2 ^ (8 * k) := Nat.add_lt_add_left below _
          _ = 2 ^ (8 * k) * (b.toNat + 1) := by rw [Nat.mul_add, Nat.mul_one]
          _ ≤ 2 ^ (8 * k) * 256 := Nat.mul_le_mul_left _ (by omega)
      rw [List.zipIdx_cons, List.foldl_cons, placed, ih (k + 1) _ room, grown, leValue]
      ring

private theorem hexBytes_of_hex {payload : Value} {field : String} {bytes : List UInt8}
    (held : payload.get? field = some (.string (hexEncode bytes))) :
    hexBytes payload field = .ok bytes := by
  simp only [hexBytes, hexStr, held, Option.bind_some, Value.asStr?, bind, Except.bind,
    hexDecode_hexEncode]

theorem hexByte_of_hex {payload : Value} {field : String} {b : UInt8}
    (held : payload.get? field = some (.string (hexEncode [b]))) :
    hexByte payload field = .ok b := by
  simp only [hexByte, hexBytes_of_hex held, bind, Except.bind]

theorem hexLeU64_of_hex {payload : Value} {field : String} {bytes : List UInt8}
    (held : payload.get? field = some (.string (hexEncode bytes))) (short : bytes.length ≤ 8) :
    hexLeU64 payload field = .ok (leValue bytes) := by
  have value : bytes.zipIdx.foldl (fun acc x => acc ||| x.1.toNat <<< (8 * x.2)) 0 =
      leValue bytes := by
    rw [foldl_leValue bytes 0 0 Nat.one_pos, Nat.mul_zero, pow_zero, Nat.one_mul, Nat.zero_add]
  simp only [hexLeU64, hexBytes_of_hex held, bind, Except.bind, Nat.not_lt.mpr short, ↓reduceIte]
  exact congrArg Except.ok value

/-- An amount that was read fits 64 bits. -/
theorem hexLeU64_lt {payload : Value} {field : String} {amount : Nat}
    (read : hexLeU64 payload field = .ok amount) : amount < 2 ^ 64 := by
  unfold hexLeU64 at read
  cases decoded : hexBytes payload field with
  | error e =>
      rw [decoded] at read
      cases read
  | ok bytes =>
      rw [decoded] at read
      by_cases long : bytes.length > 8
      · simp only [bind, Except.bind, long, ↓reduceIte, reduceCtorEq] at read
      · have value : bytes.zipIdx.foldl (fun acc x => acc ||| x.1.toNat <<< (8 * x.2)) 0 =
            amount := by
          simp only [bind, Except.bind, long, ↓reduceIte, Except.ok.injEq] at read
          exact read
        rw [foldl_leValue bytes 0 0 Nat.one_pos, Nat.mul_zero, pow_zero, Nat.one_mul,
          Nat.zero_add] at value
        rw [← value]
        exact (leValue_lt bytes).trans_le (Nat.pow_le_pow_right (by decide) (by omega))

theorem Kcc20ReceiptState.amount_lt {payload : Value} {r : Kcc20ReceiptState}
    (decoded : fromPayload payload = .ok r) : r.amount < 2 ^ 64 := by
  unfold fromPayload at decoded
  cases owner : hexStr payload "owner_identifier" with
  | error e =>
      rw [owner] at decoded
      cases decoded
  | ok ownerIdentifier =>
      cases identifier : hexByte payload "identifier_type" with
      | error e =>
          rw [owner, identifier] at decoded
          cases decoded
      | ok identifierType =>
          cases read : hexLeU64 payload "amount" with
          | error e =>
              rw [owner, identifier, read] at decoded
              cases decoded
          | ok amount =>
              cases minter : hexByte payload "is_minter" with
              | error e =>
                  rw [owner, identifier, read, minter] at decoded
                  cases decoded
              | ok flag =>
                  rw [owner, identifier, read, minter] at decoded
                  cases decoded
                  exact hexLeU64_lt read

end KasGraph
