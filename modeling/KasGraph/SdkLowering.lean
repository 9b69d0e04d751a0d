import KasGraph.MappingSdk

set_option autoImplicit false

/-! How the helpers reach the host. Strings are encoded into blocks of the heap of the guest, and
what the host hands over is unpacked and decoded; a built mapping exports the handlers so lowered
next to the allocator. -/

namespace KasGraph

open EffectProgram
open Json (Value)

variable {γ : Type}

/-! ## Packed pointers -/

/-- `<i32>(packed >>> 32)`. -/
def unpackPtr (packed : Int64) : Int32 := (packed.toUInt64 >>> 32).toInt64.toInt32

/-- `<i32>packed`. -/
def unpackLen (packed : Int64) : Int32 := packed.toInt32

theorem getLsbD_lowMask (i : Nat) : (0xffffffff#64).getLsbD i = decide (i < 32) := by
  have ones : 0xffffffff#64 = (BitVec.allOnes 32).setWidth 64 := by decide
  rw [ones, BitVec.getLsbD_setWidth, BitVec.getLsbD_allOnes]
  by_cases low : i < 32
  · simp [low]
    omega
  · simp [low]

theorem high_half (p l : BitVec 32) :
    ((p.signExtend 64 <<< 32 ||| (l.signExtend 64 &&& 0xffffffff#64)) >>> 32).setWidth 32 = p := by
  apply BitVec.eq_of_getLsbD_eq
  intro i inside
  simp only [BitVec.getLsbD_setWidth, BitVec.getLsbD_ushiftRight, BitVec.getLsbD_or,
    BitVec.getLsbD_and, getLsbD_lowMask, BitVec.getLsbD_shiftLeft, BitVec.getLsbD_signExtend]
  have above : ¬ 32 + i < 32 := by omega
  have within : 32 + i < 64 := by omega
  simp [inside, above, within]
  intro _
  omega

theorem low_half (p l : BitVec 32) :
    (p.signExtend 64 <<< 32 ||| (l.signExtend 64 &&& 0xffffffff#64)).setWidth 32 = l := by
  apply BitVec.eq_of_getLsbD_eq
  intro i inside
  simp only [BitVec.getLsbD_setWidth, BitVec.getLsbD_or, BitVec.getLsbD_and, getLsbD_lowMask,
    BitVec.getLsbD_shiftLeft, BitVec.getLsbD_signExtend]
  have within : i < 64 := by omega
  simp [inside, within]

theorem toBitVec_packPointer (ptr len : Int32) :
    (packPointer ptr len).toBitVec =
      ptr.toBitVec.signExtend 64 <<< 32 ||| (len.toBitVec.signExtend 64 &&& 0xffffffff#64) := by
  simp only [packPointer, Int64.toBitVec_or, Int64.toBitVec_shiftLeft, Int64.toBitVec_and,
    Int32.toBitVec_toInt64]
  rfl

@[simp] theorem unpackPtr_packPointer (ptr len : Int32) :
    unpackPtr (packPointer ptr len) = ptr := by
  apply Int32.toBitVec.inj
  have upper : (unpackPtr (packPointer ptr len)).toBitVec =
      ((packPointer ptr len).toBitVec >>> 32).setWidth 32 := by
    rw [unpackPtr, Int64.toBitVec_toInt32, BitVec.signExtend_eq_setWidth_of_le _ (by omega)]
    rfl
  rw [upper, toBitVec_packPointer, high_half]

@[simp] theorem unpackLen_packPointer (ptr len : Int32) :
    unpackLen (packPointer ptr len) = len := by
  apply Int32.toBitVec.inj
  rw [unpackLen, Int64.toBitVec_toInt32, BitVec.signExtend_eq_setWidth_of_le _ (by omega),
    toBitVec_packPointer, low_half]

theorem packPointer_ne_zero {ptr : Int32} (len : Int32) (placed : ptr ≠ 0) :
    packPointer ptr len ≠ 0 := by
  intro zero
  apply placed
  rw [← unpackPtr_packPointer ptr len, zero]
  rfl

/-! ## Lowering -/

/-- What the compiler links into a mapping: the bump allocator, with the end of what it has
allocated, and the decoding of strings. -/
structure AscRuntime (γ : Type) where
  top : γ → Nat
  alloc : Nat → Guest γ UInt32
  decodeUtf8 : List UInt8 → String

/-- A mapping as the compiler leaves it. Before each operation, and before the event is decoded,
the code of the mapping works on its own heap. -/
structure CompiledMapping (γ : Type) (lib : GuestJson) where
  asc : AscRuntime γ
  imports : List GuestImport
  memory : LinearMemory
  globals : γ
  start : Guest γ Unit
  decodeWork : Guest γ Unit
  work : SdkOp lib.Obj → Guest γ Unit
  handlers : List (String × Handler lib.Obj)

namespace AscRuntime

variable (asc : AscRuntime γ)

/-- `String.UTF8.encode`, with the pointer and the length that are passed on. -/
def encode (text : String) : Guest γ (Int32 × Int32) := do
  let bytes := text.toUTF8.toList
  let ptr ← asc.alloc bytes.length
  Guest.perform (.store ptr.toNat bytes)
  return (ptr.toInt32, Int32.ofNat bytes.length)

/-- `String.UTF8.decodeUnsafe`. -/
def decodeUnsafe (ptr len : Int32) : Guest γ String := do
  let bytes ← Guest.perform (.load ptr.toUInt32.toNat len.toUInt32.toNat)
  return asc.decodeUtf8 bytes

/-- The export of the build glue. -/
def kasgraphAlloc (size : Int32) : Guest γ Int32 := do
  let ptr ← asc.alloc size.toUInt32.toNat
  return ptr.toInt32

end AscRuntime

def abortTrap : Trap := .message "wasm trap: wasm `unreachable` instruction executed"

def HandlerStop.trap : HandlerStop → Trap
  | .abort => abortTrap
  | .malformed e => .message (malformedWrite e)

namespace CompiledMapping

variable {lib : GuestJson} (mapping : CompiledMapping γ lib)

def parseObj (text : String) : Guest γ lib.Obj :=
  match lib.parse text with
  | some obj => .done obj
  | none => .fail abortTrap

def hostLog (level : Int32) (message : String) : Guest γ Unit := do
  let (ptr, len) ← mapping.asc.encode message
  Guest.perform (.log level ptr len)

def storeGet (entity id : String) : Guest γ (Option lib.Obj) := do
  let (entityPtr, entityLen) ← mapping.asc.encode entity
  let (idPtr, idLen) ← mapping.asc.encode id
  let packed ← Guest.perform (.storeGet entityPtr entityLen idPtr idLen)
  if packed = 0 then
    return none
  else
    let text ← mapping.asc.decodeUnsafe (unpackPtr packed) (unpackLen packed)
    let obj ← parseObj text
    return some obj

def storeSet (entity id : String) (data : lib.Obj) : Guest γ Unit := do
  let (ptr, len) ← mapping.asc.encode (lib.writeText entity id data)
  Guest.perform (.storeSet ptr len)

/-- The helper of an operation. -/
def helper : (op : SdkOp lib.Obj) → Guest γ op.Reply
  | .log level message => mapping.hostLog level message
  | .get entity id => mapping.storeGet entity id
  | .set entity id data => mapping.storeSet entity id data

def lower (op : SdkOp lib.Obj) : Guest γ op.Reply := do
  mapping.work op
  mapping.helper op

/-- Decode the event that the host wrote. -/
def decodeEvent (ptr len : Int32) : Guest γ (Event lib.Obj) := do
  mapping.decodeWork
  let text ← mapping.asc.decodeUnsafe ptr len
  let root ← parseObj text
  return lib.eventOf root

def lowerHandler (handler : Handler lib.Obj) (ptr len : Int32) : Guest γ Unit := do
  let event ← mapping.decodeEvent ptr len
  (handler event).interpret mapping.lower HandlerStop.trap

def exports (name : String) : Option (GuestExport γ) :=
  if name = "memory" then some .memory
  else if name = "kasgraph_alloc" then some (.alloc mapping.asc.kasgraphAlloc)
  else (mapping.handlers.lookup name).map fun handler => .handler (mapping.lowerHandler handler)

def module : GuestModule γ where
  imports := mapping.imports
  memory := mapping.memory
  globals := mapping.globals
  start := mapping.start
  exports := mapping.exports

end CompiledMapping

end KasGraph
