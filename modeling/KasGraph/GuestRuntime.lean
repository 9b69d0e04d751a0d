import KasGraph.Interpretation
import KasGraph.LinearMemory
import KasGraph.LossyText
import KasGraph.MappingHost

set_option autoImplicit false

/-! The runtime of mappings. A guest works on its own memory and globals and calls three host
functions; a dispatch instantiates it, hands it the event and collects what it emitted. -/

namespace KasGraph

open EffectProgram
open Json (Value FloatText)
open LossyText (fromUtf8Lossy)

/-! ## Host state -/

structure MappingLog where
  level : Int32
  message : String
  deriving DecidableEq, Repr

/-- What the host functions work on during one dispatch. The readable entities are serialized. -/
structure HostState where
  logs : List MappingLog
  entityOps : List EntityOp
  entities : OrderedMap (String × String) (List UInt8)
  decodeError : Option String

namespace HostState

def fresh (entities : OrderedMap (String × String) (List UInt8)) : HostState where
  logs := []
  entityOps := []
  entities
  decodeError := none

end HostState

/-- Why a call ends early. -/
inductive Trap where
  | outOfFuel
  | message (text : String)
  deriving DecidableEq, Repr

def Trap.text : Trap → String
  | .outOfFuel => "all fuel consumed by WebAssembly"
  | .message text => text

/-- A guest in the middle of a dispatch. -/
structure Instance (γ : Type) where
  memory : LinearMemory
  globals : γ
  fuel : Nat
  host : HostState

/-! ## Guest code -/

/-- What guest code does to its instance, and its calls of the host. -/
inductive GuestOp (γ : Type) where
  | burn (amount : Nat)
  | load (start length : Nat)
  | store (start : Nat) (block : List UInt8)
  | memorySize
  | memoryGrow (pages : Nat)
  | globalGet
  | globalSet (globals : γ)
  | log (level ptr len : Int32)
  | storeSet (ptr len : Int32)
  | storeGet (entityPtr entityLen idPtr idLen : Int32)

variable {γ : Type}

@[reducible] def GuestOp.Reply : GuestOp γ → Type
  | burn _ => Unit
  | load _ _ => List UInt8
  | store _ _ => Unit
  | memorySize => Nat
  | memoryGrow _ => Bool
  | globalGet => γ
  | globalSet _ => Unit
  | log _ _ _ => Unit
  | storeSet _ _ => Unit
  | storeGet _ _ _ _ => Int64

abbrev guestSignature (γ : Type) : Signature where
  Op := GuestOp γ
  Reply := GuestOp.Reply

/-- Code of a guest, unrolled as far as its fuel can take it. -/
abbrev Guest (γ α : Type) := Program (guestSignature γ) Trap α

namespace Guest

def perform (op : GuestOp γ) : Guest γ op.Reply := @Program.perform (guestSignature γ) Trap op

end Guest

/-- An item a module exports, with the type of a function. -/
inductive GuestExport (γ : Type) where
  | memory
  | alloc (body : Int32 → Guest γ Int32)
  | handler (body : Int32 → Int32 → Guest γ Unit)
  | function
  | other

inductive ValueType where
  | i32
  | i64
  | f32
  | f64
  deriving DecidableEq, Repr

structure GuestImport where
  moduleName : String
  name : String
  params : List ValueType
  results : List ValueType
  deriving DecidableEq, Repr

/-- A compiled module. Its start function runs when it is instantiated. -/
structure GuestModule (γ : Type) where
  imports : List GuestImport
  memory : LinearMemory
  globals : γ
  start : Guest γ Unit
  exports : String → Option (GuestExport γ)

/-- The JSON library of the host: the text of floats and the reader of entity writes. -/
structure HostJson where
  floats : FloatText
  entityOp : List UInt8 → Except String EntityOp

/-! ## Host functions -/

/-- What `register_host_functions` links. -/
def hostFunctions : List GuestImport :=
  [⟨"kasgraph", "log", [.i32, .i32, .i32], []⟩,
    ⟨"kasgraph", "store_set", [.i32, .i32], []⟩,
    ⟨"kasgraph", "store_get", [.i32, .i32, .i32, .i32], [.i64]⟩]

def GuestModule.exportsMemory (module : GuestModule γ) : Bool :=
  match module.exports "memory" with
  | some .memory => true
  | _ => false

/-- `usize::try_from` of a pointer or a length. -/
def toUsize (value : Int32) (message : String) : Except Trap Nat :=
  if value.toInt < 0 then .error (.message message) else .ok value.toInt.toNat

/-- Read a block of the exported memory. -/
def readGuestBytes (module : GuestModule γ) (inst : Instance γ) (ptr len : Int32) :
    Except Trap (List UInt8) := do
  if !module.exportsMemory then
    throw (.message "guest has no `memory` export")
  let start ← toUsize ptr "negative pointer"
  let length ← toUsize len "negative length"
  match inst.memory.read start length with
  | some block => return block
  | none => throw (.message
      ("guest pointer " ++ toString start ++ ".." ++ toString (start + length) ++ " is out of bounds"))

def readGuestString (module : GuestModule γ) (inst : Instance γ) (ptr len : Int32) :
    Except Trap String :=
  fromUtf8Lossy <$> readGuestBytes module inst ptr len

/-- `ptr as usize` extends the sign, so a negative pointer is out of bounds. -/
def writeGuestBytes (memory : LinearMemory) (ptr : Int32) (block : List UInt8) :
    Option LinearMemory :=
  if ptr.toInt < 0 then none else memory.write ptr.toInt.toNat block

/-- `i32::try_from(bytes.len())`. -/
def i32Length (bytes : List UInt8) : Option Int32 :=
  if bytes.length < 2 ^ 31 then some (Int32.ofNat bytes.length) else none

/-- `(i64::from(ptr) << 32) | (i64::from(len) & 0xffff_ffff)`. -/
def packPointer (ptr len : Int32) : Int64 :=
  (ptr.toInt64 <<< 32) ||| (len.toInt64 &&& 0xffffffff)

section Host

variable (json : HostJson) (module : GuestModule γ)

/-- `kasgraph.log`. -/
def hostLog (inst : Instance γ) (level ptr len : Int32) : Except Trap Unit × Instance γ :=
  match readGuestBytes module inst ptr len with
  | .error trap => (.error trap, inst)
  | .ok bytes =>
      (.ok (), { inst with host := { inst.host with
        logs := inst.host.logs ++ [{ level, message := fromUtf8Lossy bytes }] } })

def malformedWrite (e : String) : String := "store_set received malformed entity-op JSON: " ++ e

/-- `kasgraph.store_set`. -/
def hostStoreSet (inst : Instance γ) (ptr len : Int32) : Except Trap Unit × Instance γ :=
  match readGuestBytes module inst ptr len with
  | .error trap => (.error trap, inst)
  | .ok bytes =>
      match json.entityOp bytes with
      | .ok op =>
          (.ok (), { inst with host := { inst.host with entityOps := inst.host.entityOps ++ [op] } })
      | .error e =>
          let msg := malformedWrite e
          (.error (.message msg), { inst with host := { inst.host with decodeError := some msg } })

/-- Run the allocator of the guest for a buffer of the host. -/
def reenterAlloc
    (execute : (α : Type) → Guest γ α → Instance γ → Except Trap α × Instance γ)
    (inst : Instance γ) (len : Int32) : Except Trap Int32 × Instance γ :=
  match module.exports "kasgraph_alloc" with
  | some (.alloc body) => execute Int32 (body len) inst
  | some (.handler _) | some .function =>
      (.error (.message "`kasgraph_alloc` wrong signature"), inst)
  | _ => (.error (.message "guest has no `kasgraph_alloc` export"), inst)

/-- Hand bytes to the guest in a buffer that it allocates. -/
def handBuffer
    (execute : (α : Type) → Guest γ α → Instance γ → Except Trap α × Instance γ)
    (inst : Instance γ) (bytes : List UInt8) : Except Trap Int64 × Instance γ :=
  match i32Length bytes with
  | none => (.error (.message "store_get value exceeds i32 length"), inst)
  | some len =>
      match reenterAlloc module execute inst len with
      | (.error trap, inst) => (.error trap, inst)
      | (.ok ptr, inst) =>
          if !module.exportsMemory then
            (.error (.message "guest has no `memory` export"), inst)
          else
            match writeGuestBytes inst.memory ptr bytes with
            | none => (.error (.message
                "store_get write out of bounds: out of bounds memory access"), inst)
            | some memory => (.ok (packPointer ptr len), { inst with memory })

/-- The entity and the id that a lookup names. -/
def readKey (inst : Instance γ) (entityPtr entityLen idPtr idLen : Int32) :
    Except Trap (String × String) := do
  let entity ← readGuestString module inst entityPtr entityLen
  let id ← readGuestString module inst idPtr idLen
  return (entity, id)

/-- `kasgraph.store_get`: zero on a miss. -/
def hostStoreGet
    (execute : (α : Type) → Guest γ α → Instance γ → Except Trap α × Instance γ)
    (inst : Instance γ) (entityPtr entityLen idPtr idLen : Int32) :
    Except Trap Int64 × Instance γ :=
  match readKey module inst entityPtr entityLen idPtr idLen with
  | .error trap => (.error trap, inst)
  | .ok key =>
      match inst.host.entities[key]? with
      | none => (.ok 0, inst)
      | some bytes => handBuffer module execute inst bytes

/-- One operation of guest code, when the host re-enters the guest by `execute`. -/
def guestStep (execute : (α : Type) → Guest γ α → Instance γ → Except Trap α × Instance γ) :
    Semantics (guestSignature γ) Trap (Instance γ) := fun op inst =>
  match op with
  | .burn amount =>
      if inst.fuel < amount then (.error .outOfFuel, { inst with fuel := 0 })
      else (.ok (), { inst with fuel := inst.fuel - amount })
  | .load start length =>
      match inst.memory.read start length with
      | some block => (.ok block, inst)
      | none => (.error (.message "out of bounds memory access"), inst)
  | .store start block =>
      match inst.memory.write start block with
      | some memory => (.ok (), { inst with memory })
      | none => (.error (.message "out of bounds memory access"), inst)
  | .memorySize => (.ok inst.memory.pages, inst)
  | .memoryGrow pages =>
      match inst.memory.grow pages with
      | some memory => (.ok true, { inst with memory })
      | none => (.ok false, inst)
  | .globalGet => (.ok inst.globals, inst)
  | .globalSet globals => (.ok (), { inst with globals })
  | .log level ptr len => hostLog module inst level ptr len
  | .storeSet ptr len => hostStoreSet json module inst ptr len
  | .storeGet entityPtr entityLen idPtr idLen =>
      hostStoreGet module execute inst entityPtr entityLen idPtr idLen

/-- Run guest code with room for a number of nested calls on the stack. -/
def guestExec : Nat → Semantics (guestSignature γ) Trap (Instance γ)
  | 0 => guestStep json module fun _ _ inst =>
      (.error (.message "wasm trap: call stack exhausted"), inst)
  | depth + 1 => guestStep json module fun _ program inst => run (guestExec depth) program inst

end Host

/-! ## Dispatch -/

/-- A compiled mapping with its limits. -/
structure GuestRuntime (γ : Type) where
  module : GuestModule γ
  json : HostJson
  fuelLimit : Nat
  stackDepth : Nat

/-- Everything one dispatch produced. -/
structure DispatchReport where
  logs : List MappingLog
  entityOps : List EntityOp
  fuelConsumed : Nat
  deriving DecidableEq

def defaultFuel : Nat := 50000000

/-- Compile a mapping. Only the presence of the two exports is checked here. -/
def GuestRuntime.fromWasm (json : HostJson) (stackDepth : Nat)
    (compile : List UInt8 → Except String (GuestModule γ)) (wasm : List UInt8) :
    Except MappingError (GuestRuntime γ) := do
  let module ← (compile wasm).mapError fun e => .engine ("failed to compile module: " ++ e)
  if (module.exports "memory").isNone then
    throw (.abiMismatch "guest module does not export `memory`")
  if (module.exports "kasgraph_alloc").isNone then
    throw (.abiMismatch "guest module does not export `kasgraph_alloc(i32) -> i32`")
  return { module, json, fuelLimit := defaultFuel, stackDepth }

/-- Fuel exhaustion is told from a trap of the handler. -/
def classifyTrap (handler : String) : Trap → MappingError
  | .outOfFuel => .fuelExhausted handler
  | .message text => .handlerTrap handler text

/-- The document handed to a handler. -/
def eventDocument (event : MappingEvent) : Value :=
  .ofFields [
    ("block", .ofFields [
      ("daaScore", .number (.posInt event.blockDaaScore)),
      ("hash", .string event.blockHash)]),
    ("payload", event.payload)]

namespace GuestRuntime

variable (runtime : GuestRuntime γ)

def execute {α : Type} (program : Guest γ α) (inst : Instance γ) : Except Trap α × Instance γ :=
  run (guestExec runtime.json runtime.module runtime.stackDepth) program inst

/-- Link the imports and run the start function. -/
def instantiate (host : HostState) : Except MappingError (Instance γ) :=
  match runtime.module.imports.find? fun wanted => !hostFunctions.contains wanted with
  | some wanted => .error (.engine ("instantiation failed: unknown import: `" ++
      wanted.moduleName ++ "::" ++ wanted.name ++ "` has not been defined"))
  | none =>
      match runtime.execute runtime.module.start
          ⟨runtime.module.memory, runtime.module.globals, runtime.fuelLimit, host⟩ with
      | (.ok (), inst) => .ok inst
      | (.error trap, _) => .error (.engine ("instantiation failed: " ++ trap.text))

/-- The exports a dispatch needs: the memory, the allocator and the handler. -/
def requiredExports (handler : String) :
    Except MappingError ((Int32 → Guest γ Int32) × (Int32 → Int32 → Guest γ Unit)) :=
  if !runtime.module.exportsMemory then
    .error (.abiMismatch "guest missing `memory` export")
  else
    match runtime.module.exports "kasgraph_alloc" with
    | some (.alloc alloc) =>
        match runtime.module.exports handler with
        | some (.handler body) => .ok (alloc, body)
        | _ => .error (.abiMismatch ("guest has no handler export `" ++ handler ++ "`"))
    | _ => .error (.abiMismatch "`kasgraph_alloc` has the wrong signature")

/-- Place the event in guest memory: where it is, how long it is, and the instance after. -/
def placeEvent (handler : String) (alloc : Int32 → Guest γ Int32) (input : List UInt8)
    (inst : Instance γ) : Except MappingError (Int32 × Int32 × Instance γ) :=
  match i32Length input with
  | none => .error (.engine "event JSON exceeds i32 length")
  | some len =>
      match runtime.execute (alloc len) inst with
      | (.error trap, _) => .error (classifyTrap handler trap)
      | (.ok ptr, inst) =>
          match writeGuestBytes inst.memory ptr input with
          | none => .error (.abiMismatch
              "`kasgraph_alloc` returned an out-of-bounds pointer: out of bounds memory access")
          | some memory => .ok (ptr, len, { inst with memory })

def eventInput (event : MappingEvent) : List UInt8 :=
  Json.toVec runtime.json.floats (eventDocument event)

/-- A call of a handler that is ready to be made. -/
structure HandlerCall (γ : Type) where
  body : Int32 → Int32 → Guest γ Unit
  ptr : Int32
  len : Int32
  inst : Instance γ

/-- Everything before the handler is called. -/
def prepare (event : MappingEvent) (host : HostState) : Except MappingError (HandlerCall γ) := do
  let inst ← runtime.instantiate host
  let (alloc, body) ← runtime.requiredExports event.handler
  let (ptr, len, inst) ← runtime.placeEvent event.handler alloc (runtime.eventInput event) inst
  return { body, ptr, len, inst }

/-- Call the handler. A malformed entity write is reported as such. -/
def callHandler (handler : String) (call : HandlerCall γ) : Except MappingError DispatchReport :=
  match runtime.execute (call.body call.ptr call.len) call.inst with
  | (.ok (), inst) => .ok {
      logs := inst.host.logs
      entityOps := inst.host.entityOps
      fuelConsumed := runtime.fuelLimit - inst.fuel }
  | (.error trap, inst) =>
      match inst.host.decodeError with
      | some decodeError => .error (.decodePayload decodeError)
      | none => .error (classifyTrap handler trap)

def dispatchInner (event : MappingEvent) (host : HostState) :
    Except MappingError DispatchReport := do
  let call ← runtime.prepare event host
  runtime.callHandler event.handler call

def dispatch (event : MappingEvent) : Except MappingError DispatchReport :=
  runtime.dispatchInner event (HostState.fresh ∅)

/-- The snapshot as the host functions read it. -/
def serialized (entities : EntitySnapshot) : OrderedMap (String × String) (List UInt8) :=
  entities.map fun _ value => Json.toVec runtime.json.floats value

/-- Dispatch with the committed entities that the handler may read. -/
def dispatchWithEntities (event : MappingEvent) (entities : EntitySnapshot) :
    Except MappingError DispatchReport :=
  runtime.dispatchInner event (HostState.fresh (runtime.serialized entities))

/-- The runtime as the node uses it: the entity writes of a dispatch. -/
def mappingRuntime : MappingRuntime := fun event entities =>
  (fun report => ⟨report.entityOps⟩) <$> runtime.dispatchWithEntities event entities

end GuestRuntime

end KasGraph
