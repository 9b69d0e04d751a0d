import KasGraph.Blocks
import KasGraph.MachineInt

set_option autoImplicit false

/-! The continuous subscription driver. It reads one connection after another,
forwards what it reads on one channel, and puts a recovery request in front of
the first fresh notification after a reconnect when scores were missed. -/

namespace KasGraph

open MachineInt

/-! ## The driver -/

/-- The retry policy. `scale` is the delay after one more failure, a product of
floats that only sets how long the driver sleeps. -/
structure SubscriptionBackoff where
  initialDelayMs : UInt64
  maxDelayMs : UInt64
  scale : UInt64 → UInt64
  maxAttempts : UInt32

inductive SubscriptionDriverEvent where
  | connected (url : String) (reconnectCount : UInt64)
  | reconnectScheduled (url : String) (reconnectCount delayMs : UInt64) (reason : String)
      (lastEmittedDaa : Option UInt64)
  | gapDetected (url : String) (reconnectCount fromDaaScore toDaaScore : UInt64)
  | stopped (url : String) (reconnectCount : UInt64) (reason : String)
      (lastEmittedDaa : Option UInt64)
  deriving DecidableEq, Repr

/-- What survives a reconnect. -/
structure DriverState where
  lastEmittedDaa : Option UInt64 := none
  pendingGapCheck : Bool := false
  reconnectCount : UInt64 := 0

/-- What one connection does: the messages read on it, each parsed into its
notifications, and how it ends. A failed connect reads nothing and ends in an
error; a frame without notifications is an empty batch. -/
structure Connection where
  batches : List (List ChainNotification)
  ending : Except String Unit

/-- The notifications read on a connection. -/
def Connection.received (connection : Connection) : List ChainNotification :=
  connection.batches.flatten

/-- One thing the driver does: it reports an event, sends a request of its own
or a notification it read, or has a send refused by a closed channel. -/
inductive DriverEntry where
  | event (event : SubscriptionDriverEvent)
  | requested (request : ChainNotification)
  | forwarded (notification : ChainNotification)
  | refused (notification : ChainNotification)
  deriving DecidableEq, Repr

/-- The driver at work. `receiver` is how many more times the driver will find
its channel open, without end when the receiver is never dropped. -/
structure Session where
  state : DriverState
  receiver : Option Nat
  log : List DriverEntry

namespace Session

def start (receiver : Option Nat) : Session := { state := {}, receiver, log := [] }

def report (session : Session) (event : SubscriptionDriverEvent) : Session :=
  { session with log := session.log ++ [.event event] }

/-- Whether the receiver has been dropped. -/
def isClosed (session : Session) : Bool × Session :=
  match session.receiver with
  | some 0 => (true, session)
  | some (left + 1) => (false, { session with receiver := some left })
  | none => (false, session)

/-- Send on the channel; false when the receiver has been dropped. -/
def send (session : Session) (entry : ChainNotification → DriverEntry)
    (notification : ChainNotification) : Bool × Session :=
  let (closed, session) := session.isClosed
  if closed then
    (false, { session with log := session.log ++ [.refused notification] })
  else
    (true, { session with log := session.log ++ [entry notification] })

end Session

def firstDaaOf : ChainNotification → Option UInt64
  | .blockAdded block => some block.daaScore
  | .virtualChainChanged _ added => (added.map (·.daaScore)).min?
  | .recoveryRequired .. => none

def maxDaaOf : ChainNotification → Option UInt64
  | .blockAdded block => some block.daaScore
  | .virtualChainChanged _ added => (added.map (·.daaScore)).max?
  | .recoveryRequired .. => none

/-- The lowest score of the payload strictly above a threshold. -/
def nextDaaAfter (notification : ChainNotification) (threshold : UInt64) : Option UInt64 :=
  match notification with
  | .blockAdded block => if threshold < block.daaScore then some block.daaScore else none
  | .virtualChainChanged _ added =>
      ((added.map (·.daaScore)).filter (threshold < ·)).min?
  | .recoveryRequired .. => none

def gapReason (last next : UInt64) : String :=
  "subscription gap after reconnect: last emitted DAA " ++ toString last ++
    ", next observed DAA " ++ toString next

/-- The request for the scores strictly between two. -/
def gapRequest (last next : UInt64) : ChainNotification :=
  .recoveryRequired (saturatingAddU64 last 1) (saturatingSubU64 next 1) (gapReason last next)

namespace Session

def announceGap (url : String) (session : Session) (last next : UInt64) : Bool × Session :=
  let session := session.report <| .gapDetected url session.state.reconnectCount
    (saturatingAddU64 last 1) (saturatingSubU64 next 1)
  session.send .requested (gapRequest last next)

def clearGapCheck (session : Session) : Session :=
  { session with state := { session.state with pendingGapCheck := false } }

/-- The gap check in front of a notification; false when the receiver is gone. -/
def checkGap (url : String) (session : Session) (notification : ChainNotification) :
    Bool × Session :=
  if session.state.pendingGapCheck then
    match session.state.lastEmittedDaa with
    | some last =>
        match nextDaaAfter notification last with
        | some next =>
            if saturatingAddU64 last 1 < next then
              let (sent, session) := session.announceGap url last next
              if sent then (true, session.clearGapCheck) else (false, session)
            else
              (true, session.clearGapCheck)
        | none => (true, session)
    | none =>
        if (firstDaaOf notification).isSome then (true, session.clearGapCheck) else (true, session)
  else
    (true, session)

/-- The highest score after a notification. -/
def emitDaa (session : Session) (notification : ChainNotification) : Session :=
  match maxDaaOf notification with
  | some daa =>
      { session with
        state := { session.state with
          lastEmittedDaa := some (session.state.lastEmittedDaa.elim daa fun prev => max prev daa) } }
  | none => session

def handle (url : String) (session : Session) (notification : ChainNotification) :
    Bool × Session :=
  let (checked, session) := session.checkGap url notification
  if checked then (session.emitDaa notification).send .forwarded notification
  else (false, session)

def handleEach (url : String) (session : Session) : List ChainNotification → Bool × Session
  | [] => (true, session)
  | notification :: rest =>
      let (sent, session) := session.handle url notification
      if sent then session.handleEach url rest else (false, session)

/-- Read the messages of a connection. Before each read the driver looks
whether the receiver is still there. -/
def readEach (url : String) (ending : Except String Unit) (session : Session) :
    List (List ChainNotification) → Except String Unit × Session
  | [] =>
      let (closed, session) := session.isClosed
      (if closed then .ok () else ending, session)
  | batch :: rest =>
      let (closed, session) := session.isClosed
      if closed then
        (.ok (), session)
      else
        let (sent, session) := session.handleEach url batch
        if sent then session.readEach url ending rest else (.ok (), session)

def runSubscriptionOnce (url : String) (session : Session) (connection : Connection) :
    Except String Unit × Session :=
  session.readEach url connection.ending connection.batches

/-- Prime the gap check for the next connection and report the reconnect. -/
def scheduleReconnect (url : String) (session : Session) (delayMs : UInt64) (reason : String) :
    Session :=
  let state := { session.state with
    pendingGapCheck := true
    reconnectCount := saturatingAddU64 session.state.reconnectCount 1 }
  { session with state }.report <|
    .reconnectScheduled url state.reconnectCount delayMs reason state.lastEmittedDaa

def stop (url : String) (session : Session) (reason : String) : Session :=
  session.report <| .stopped url session.state.reconnectCount reason session.state.lastEmittedDaa

end Session

/-- Where the driver stands after the connections it was given. -/
inductive DriverOutcome where
  | live
  | receiverClosed
  | gaveUp (unmade : List Connection)

/-- `attempt.saturating_add(1)` on `u32`. -/
def nextAttempt (attempt : UInt32) : UInt32 :=
  if attempt.toNat + 1 < 2 ^ 32 then attempt + 1 else attempt

def runDriver (url : String) (backoff : SubscriptionBackoff) (attempt : UInt32)
    (delay : UInt64) (session : Session) : List Connection → DriverOutcome × Session
  | [] => (.live, session)
  | connection :: rest =>
      let (closed, session) := session.isClosed
      if closed then
        (.receiverClosed, session.stop url "downstream receiver closed")
      else
        let session := session.report (.connected url session.state.reconnectCount)
        match session.runSubscriptionOnce url connection with
        | (.ok (), session) =>
            runDriver url backoff 0 backoff.initialDelayMs
              (session.scheduleReconnect url 0 "stream ended cleanly") rest
        | (.error err, session) =>
            let attempt := nextAttempt attempt
            if backoff.maxAttempts ≠ 0 ∧ backoff.maxAttempts < attempt then
              (.gaveUp rest, session.stop url ("max attempts exhausted: " ++ err))
            else
              runDriver url backoff attempt (min (backoff.scale delay) backoff.maxDelayMs)
                (session.scheduleReconnect url delay err) rest

/-- The driver over the connections it gets to make, from its start. -/
def runContinuousSubscription (url : String) (backoff : SubscriptionBackoff)
    (receiver : Option Nat) (connections : List Connection) : DriverOutcome × Session :=
  runDriver url backoff 0 backoff.initialDelayMs (.start receiver) connections

end KasGraph
