import KasGraph.WireBlocks

set_option autoImplicit false

/-! Messages of the notification stream: what an envelope carries, and what of it a reader
of notifications takes. -/

namespace KasGraph

open Json (FloatText Value)

inductive ParsedNotification where
  | ready (notification : ChainNotification)
  | virtualChainByHashes (removedChainBlockHashes addedChainBlockHashes : List String)
  | subscriptionAck
  | subscriptionRejected (message : String)
  | ignore
  deriving DecidableEq

def normalizeNotificationKind (raw : String) : Option String :=
  if raw ∈ ["BlockAdded", "blockAdded", "BlockAddedNotification", "blockAddedNotification",
      "block-added"] then
    some "BlockAdded"
  else if raw ∈ ["VirtualChainChanged", "virtualChainChanged", "VirtualChainChangedNotification",
      "virtualChainChangedNotification", "virtual-chain-changed"] then
    some "VirtualChainChanged"
  else if raw ∈ ["RecoveryRequired", "recoveryRequired", "recovery-required"] then
    some "RecoveryRequired"
  else
    none

/-- The texts among the items of an array field. -/
def textsAt (payload : Value) (field : String) : List String :=
  (((payload.get? field).bind Value.asArray?).getD []).filterMap Value.asStr?

/-- An unsigned field, as a number alone. -/
def scoreAt (floats : FloatText) (payload : Value) (field : String) : Except RpcError UInt64 :=
  match (payload.get? field).bind Value.asU64? with
  | some score => .ok score
  | none => .error (.malformedResponse (payload.text floats))

section Parsing

variable (floats : FloatText)

def parseRecoveryRequired (payload : Value) : Except RpcError ChainNotification := do
  let fromDaaScore ← scoreAt floats payload "fromDaaScore"
  let toDaaScore ← scoreAt floats payload "toDaaScore"
  let reason := ((payload.get? "reason").bind Value.asStr?).getD "notification-stream"
  return .recoveryRequired fromDaaScore toDaaScore reason

def parseVirtualChainChanged (payload : Value) (servedBy : String) :
    Except RpcError ParsedNotification :=
  let removed := textsAt payload "removedChainBlockHashes"
  match (payload.get? "addedChainBlocks").bind Value.asArray? with
  | some values => do
      let added ← values.mapM fun value => parseBlockValue floats value servedBy
      return .ready (.virtualChainChanged removed added)
  | none => .ok (.virtualChainByHashes removed (textsAt payload "addedChainBlockHashes"))

def parseChainNotificationKind (kind : String) (value : Value) (servedBy : String) :
    Except RpcError ParsedNotification :=
  let payload := (value.get? kind).getD value
  if kind = "BlockAdded" then do
    let block ← parseBlockValue floats ((payload.get? "block").getD payload) servedBy
    return .ready (.blockAdded block)
  else if kind = "VirtualChainChanged" then
    parseVirtualChainChanged floats payload servedBy
  else if kind = "RecoveryRequired" then do
    let notification ← parseRecoveryRequired floats payload
    return .ready notification
  else
    .error (.malformedResponse (value.text floats))

/-- The message of an error object; the whole of `shown` where it has none. -/
def errorMessage (error shown : Value) : String :=
  ((error.get? "message").bind Value.asStr?).getD (shown.text floats)

/-- A message that names a method and no notification. -/
def parseMethod (method : String) (value : Value) : ParsedNotification :=
  if method = "subscribe" ∨ method = "unsubscribe" then
    match value.get? "error" with
    | some error => .subscriptionRejected (errorMessage floats error value)
    | none =>
        if (value.get? "params").isSome || (value.get? "result").isSome then .subscriptionAck
        else .ignore
  else
    .ignore

/-- A message that names neither: the response to a request. -/
def parseResponse (value : Value) : Except RpcError ParsedNotification :=
  if (value.get? "id").isSome then
    match value.get? "error" with
    | some error => .ok (.subscriptionRejected (errorMessage floats error error))
    | none =>
        if (value.get? "result").isSome then .ok .subscriptionAck
        else .error (.malformedResponse (value.text floats))
  else
    .error (.malformedResponse (value.text floats))

def parseChainNotificationEnvelope (value : Value) (servedBy : String) :
    Except RpcError ParsedNotification :=
  match (value.get? "kind").bind Value.asStr? with
  | some kind => parseChainNotificationKind floats kind value servedBy
  | none =>
      match (value.get? "method").bind Value.asStr? with
      | some method =>
          match normalizeNotificationKind method with
          | some kind =>
              parseChainNotificationKind floats kind
                ((value.get? "params" <|> value.get? "result").getD value) servedBy
          | none => .ok (parseMethod floats method value)
      | none =>
          match ((value.get? "event").bind Value.asStr?).bind normalizeNotificationKind with
          | some kind =>
              parseChainNotificationKind floats kind ((value.get? "data").getD value) servedBy
          | none => parseResponse floats value

/-- What a reader of complete notifications takes of a parsed message. -/
def ParsedNotification.complete (servedBy : String) :
    ParsedNotification → Except RpcError ChainNotification
  | .ready notification => .ok notification
  | .virtualChainByHashes _ _ =>
      .error (.malformedResponse "virtual-chain notification only provided block hashes")
  | .subscriptionAck =>
      .error (.malformedResponse "message only contained a subscription acknowledgement")
  | .subscriptionRejected message => .error (.subscriptionRejected servedBy message)
  | .ignore => .error (.malformedResponse "message did not contain a chain notification")

def parseChainNotification (value : Value) (servedBy : String) :
    Except RpcError ChainNotification := do
  let parsed ← parseChainNotificationEnvelope floats value servedBy
  parsed.complete servedBy

end Parsing

end KasGraph
