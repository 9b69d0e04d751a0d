import KasGraph.GuestRuntime

set_option autoImplicit false

/-! What authors of mappings write against: events, accessors of JSON objects, and a store that is
read and written by key. Here without memory or pointers. -/

namespace KasGraph

open EffectProgram
open Json (Value FloatText)

/-- The JSON library of a mapping. Parsing aborts on anything but an object. -/
structure GuestJson where
  Obj : Type
  parse : String → Option Obj
  stringify : Obj → String
  empty : Obj
  setString : Obj → String → String → Obj
  setInteger : Obj → String → Int64 → Obj
  setBool : Obj → String → Bool → Obj
  setObj : Obj → String → Obj → Obj
  getString : Obj → String → Option String
  getInteger : Obj → String → Option Int64
  getBool : Obj → String → Option Bool
  getObj : Obj → String → Option Obj

structure Event (Obj : Type) where
  daaScore : UInt64
  blockHash : String
  payload : Option Obj

/-- What a handler does through the helpers. -/
inductive SdkOp (Obj : Type) where
  | log (level : Int32) (message : String)
  | get (entity id : String)
  | set (entity id : String) (data : Obj)

@[reducible] def SdkOp.Reply {Obj : Type} : SdkOp Obj → Type
  | log _ _ => Unit
  | get _ _ => Option Obj
  | set _ _ _ => Unit

abbrev sdkSignature (Obj : Type) : Signature where
  Op := SdkOp Obj
  Reply := SdkOp.Reply

/-- Why a handler stops: it aborts, or the host cannot read a write. -/
inductive HandlerStop where
  | abort
  | malformed (e : String)
  deriving DecidableEq, Repr

abbrev MappingProgram (Obj α : Type) := Program (sdkSignature Obj) HandlerStop α

abbrev Handler (Obj : Type) := Event Obj → MappingProgram Obj Unit

namespace MappingProgram

variable {Obj : Type}

def log (level : Int32) (message : String) : MappingProgram Obj Unit :=
  @Program.perform (sdkSignature Obj) HandlerStop (.log level message)

def get (entity id : String) : MappingProgram Obj (Option Obj) :=
  @Program.perform (sdkSignature Obj) HandlerStop (.get entity id)

def set (entity id : String) (data : Obj) : MappingProgram Obj Unit :=
  @Program.perform (sdkSignature Obj) HandlerStop (.set entity id data)

end MappingProgram

def logInfo : Int32 := 1

/-! ## Accessors -/

namespace GuestJson

variable (lib : GuestJson)

/-- A string field, or "" if absent or not a string. -/
def objStr (obj : Option lib.Obj) (key : String) : String :=
  match obj with
  | none => ""
  | some obj => (lib.getString obj key).getD ""

/-- An integer field, or 0 if absent or not an integer. -/
def objU64 (obj : Option lib.Obj) (key : String) : UInt64 :=
  match obj with
  | none => 0
  | some obj => ((lib.getInteger obj key).map Int64.toUInt64).getD 0

/-- A boolean field, or false if absent or not a boolean. -/
def objBool (obj : Option lib.Obj) (key : String) : Bool :=
  match obj with
  | none => false
  | some obj => (lib.getBool obj key).getD false

/-- The event that a parsed document stands for. -/
def eventOf (root : lib.Obj) : Event lib.Obj :=
  let block := lib.getObj root "block"
  { daaScore := ((block.bind fun block => lib.getInteger block "daaScore").map
      Int64.toUInt64).getD 0
    blockHash := (block.bind fun block => lib.getString block "hash").getD ""
    payload := lib.getObj root "payload" }

/-- The text of an entity write. -/
def writeText (entity id : String) (data : lib.Obj) : String :=
  let op := lib.setString lib.empty "entity" entity
  let op := lib.setString op "id" id
  lib.stringify (lib.setObj op "data" data)

end GuestJson

/-! ## Meaning -/

/-- What a handler leaves behind. -/
structure SdkState where
  logs : List MappingLog
  entityOps : List EntityOp
  deriving DecidableEq

/-- The text that the host hands over for a value. -/
def HostJson.text (json : HostJson) (value : Value) : String := Value.text json.floats value

section Meaning

variable (lib : GuestJson) (json : HostJson) (entities : EntitySnapshot)

def sdkMeaning : Semantics (sdkSignature lib.Obj) HandlerStop SdkState := fun op state =>
  match op with
  | .log level message => (.ok (), { state with logs := state.logs ++ [{ level, message }] })
  | .get entity id =>
      match entities[(entity, id)]? with
      | none => (.ok none, state)
      | some value =>
          match lib.parse (json.text value) with
          | some obj => (.ok (some obj), state)
          | none => (.error .abort, state)
  | .set entity id data =>
      match json.entityOp (lib.writeText entity id data).toUTF8.toList with
      | .ok op => (.ok (), { state with entityOps := state.entityOps ++ [op] })
      | .error e => (.error (.malformed e), state)

/-- A handler as its author reads it: on the event and the committed entities. -/
def handlerMeaning (handler : Handler lib.Obj) (event : MappingEvent) :
    Except HandlerStop Unit × SdkState :=
  match lib.parse (json.text (eventDocument event)) with
  | none => (.error .abort, ⟨[], []⟩)
  | some root => run (sdkMeaning lib json entities) (handler (lib.eventOf root)) ⟨[], []⟩

end Meaning

end KasGraph
