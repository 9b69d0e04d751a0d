import KasGraph.Broadcast
import KasGraph.NodeProgram

set_option autoImplicit false

/-! The stream hub and its subscriptions. Every subscription sees every event; the loops of
`recv` and `try_recv` drop those that none of its filters matches. -/

namespace KasGraph

open Broadcast
open Json (Value)

/-! ## Filters -/

inductive StreamFilter where
  | covenantId (id : String)
  | openSilverPattern (pattern : String)
  | krc20Ticker (ticker : String)
  | address (addr : String)
  | all
  deriving DecidableEq, Repr

/-- `payload.get(key).and_then(|v| v.as_str())`. -/
def payloadString (payload : Value) (key : String) : Option String :=
  (payload.get? key).bind Value.asStr?

/-- The address-bearing payload keys. -/
def addressFields : List String :=
  ["address", "sender", "recipient", "owner", "owner_pubkey", "beneficiary", "to", "from", "holder",
    "holder_pubkey"]

def eventMatches (event : StreamEvent) : StreamFilter → Bool
  | .all => true
  | .covenantId id => payloadString event.payload "covenant_id" == some id
  | .openSilverPattern pattern => event.kind == pattern
  | .krc20Ticker ticker => payloadString event.payload "tick" == some ticker
  | .address addr => addressFields.any fun key => payloadString event.payload key == some addr

def eventMatchesAny (filters : List StreamFilter) (event : StreamEvent) : Bool :=
  filters.any fun filter => eventMatches event filter

/-! ## Subscriptions -/

inductive StreamError where
  | closed
  | lagged (laggedBy : Nat)
  deriving DecidableEq, Repr

structure StreamSubscription where
  rx : Receiver StreamEvent
  filters : List StreamFilter
  deriving DecidableEq

/-- Where one pass through the loop of a read leaves it: at the next pass, at the await, or
with a result. `recv` never returns without an event. -/
inductive Pass where
  | again
  | awaits
  | returns (result : Except StreamError (Option StreamEvent))

namespace StreamSubscription

/-- One pass, given what it does when no event waits. -/
def pass (onEmpty : Pass) (subscription : StreamSubscription) : Pass × StreamSubscription :=
  match subscription.rx.tryRecv with
  | (.ok event, rx) =>
      (if eventMatchesAny subscription.filters event then .returns (.ok (some event)) else .again,
        { subscription with rx })
  | (.error .empty, rx) => (onEmpty, { subscription with rx })
  | (.error .closed, rx) => (.returns (.error .closed), { subscription with rx })
  | (.error (.lagged n), rx) => (.returns (.error (.lagged n)), { subscription with rx })

/-- The loop of `recv` waits for the next event. -/
def recv : StreamSubscription → Pass × StreamSubscription :=
  pass .awaits

/-- The loop of `try_recv` returns when no event waits. -/
def tryRecv : StreamSubscription → Pass × StreamSubscription :=
  pass (.returns (.ok none))

end StreamSubscription

/-- The two ways to read. -/
inductive StreamCall where
  | recv
  | tryRecv
  deriving DecidableEq, Repr

def StreamCall.pass : StreamCall → StreamSubscription → Pass × StreamSubscription
  | .recv => StreamSubscription.recv
  | .tryRecv => StreamSubscription.tryRecv

/-- A subscription and its use: the read that runs, and what the reads have returned. It was
made when `since` events had been published. -/
structure StreamSubscriber where
  subscription : StreamSubscription
  call : Option StreamCall
  since : Nat
  received : List StreamEvent
  lagged : Bool
  deriving DecidableEq

namespace StreamSubscriber

/-- Start a read, when none runs. -/
def start (subscriber : StreamSubscriber) (call : StreamCall) : StreamSubscriber :=
  { subscriber with call := some (subscriber.call.getD call) }

/-- The caller drops the read that runs. -/
def cancel (subscriber : StreamSubscriber) : StreamSubscriber :=
  { subscriber with call := none }

/-- The caller of a read gets its result. -/
def returned (subscriber : StreamSubscriber) :
    Except StreamError (Option StreamEvent) → StreamSubscriber
  | .ok event =>
      { subscriber with call := none, received := subscriber.received ++ event.toList }
  | .error .closed => { subscriber with call := none }
  | .error (.lagged _) => { subscriber with call := none, lagged := true }

/-- The read that runs passes once through its loop. -/
def advance (subscriber : StreamSubscriber) : StreamSubscriber :=
  match subscriber.call with
  | none => subscriber
  | some call =>
      match call.pass subscriber.subscription with
      | (.again, subscription) => { subscriber with subscription }
      | (.awaits, subscription) => { subscriber with subscription }
      | (.returns result, subscription) => { subscriber with subscription }.returned result

/-- A pass of a read, started if none runs. -/
def poll (subscriber : StreamSubscriber) : StreamSubscriber :=
  (subscriber.start .tryRecv).advance

end StreamSubscriber

/-! ## The hub -/

/-- The hub with its subscribers, and the events published on it. -/
structure StreamHub where
  slots : Nat
  published : List StreamEvent
  subscribers : List StreamSubscriber
  isOpen : Bool

/-- What happens at a hub, in any order. The passes of the reads interleave with all else. -/
inductive HubStep where
  | subscribe (filters : List StreamFilter)
  | publish (event : StreamEvent)
  | start (subscriber : Nat) (call : StreamCall)
  | advance (subscriber : Nat)
  | cancel (subscriber : Nat)
  | drop

namespace StreamHub

/-- A channel rounds its capacity up to a power of two. -/
def new (capacity : Nat) : StreamHub where
  slots := (max capacity 1).nextPowerOfTwo
  published := []
  subscribers := []
  isOpen := true

def subscribe (hub : StreamHub) (filters : List StreamFilter) : StreamHub :=
  { hub with
    subscribers := hub.subscribers ++ [{
      subscription := ⟨.subscribe hub.slots hub.isOpen, filters⟩
      call := none
      since := hub.published.length
      received := []
      lagged := false }] }

/-- Send an event to every subscription, whatever its filters. -/
def publish (hub : StreamHub) (event : StreamEvent) : StreamHub :=
  { hub with
    published := hub.published ++ [event]
    subscribers := hub.subscribers.map fun subscriber =>
      { subscriber with
        subscription := { subscriber.subscription with
          rx := subscriber.subscription.rx.send event } } }

/-- The last clone of the hub is dropped. -/
def drop (hub : StreamHub) : StreamHub :=
  { hub with
    isOpen := false
    subscribers := hub.subscribers.map fun subscriber =>
      { subscriber with
        subscription := { subscriber.subscription with rx := subscriber.subscription.rx.close } } }

def withSubscriber (hub : StreamHub) (i : Nat) (act : StreamSubscriber → StreamSubscriber) :
    StreamHub :=
  { hub with subscribers := hub.subscribers.modify i act }

/-- A dropped hub neither publishes nor subscribes any more. -/
def step (hub : StreamHub) : HubStep → StreamHub
  | .subscribe filters => if hub.isOpen then hub.subscribe filters else hub
  | .publish event => if hub.isOpen then hub.publish event else hub
  | .start i call => hub.withSubscriber i (·.start call)
  | .advance i => hub.withSubscriber i (·.advance)
  | .cancel i => hub.withSubscriber i (·.cancel)
  | .drop => hub.drop

def run (hub : StreamHub) (steps : List HubStep) : StreamHub :=
  steps.foldl step hub

end StreamHub

/-! ## What one pass does -/

namespace StreamSubscriber

variable {subscriber : StreamSubscriber} {published : List StreamEvent}

/-- A pass, whichever read runs: it reports a lag, reads the event that waits first, or finds
that no event waits. -/
theorem advance_cases (subscriber : StreamSubscriber) :
    (subscriber.subscription.rx.slots < subscriber.subscription.rx.waiting.length ∧
      ∃ subscription call, subscriber.advance =
        { subscriber with subscription, call, lagged := true }) ∨
    (∃ event rest, subscriber.subscription.rx.waiting = event :: rest ∧
      ∃ call, subscriber.advance =
        { subscriber with
          subscription := { subscriber.subscription with
            rx := { subscriber.subscription.rx with waiting := rest } }
          call
          received := subscriber.received ++
            if eventMatchesAny subscriber.subscription.filters event then [event] else [] }) ∨
    ((subscriber.call = none ∨ subscriber.subscription.rx.waiting = []) ∧
      ∃ call, subscriber.advance = { subscriber with call }) := by
  unfold advance
  cases running : subscriber.call with
  | none => exact .inr (.inr ⟨.inl rfl, subscriber.call, rfl⟩)
  | some call =>
      have passes : ∃ onEmpty, call.pass = StreamSubscription.pass onEmpty ∧
          (onEmpty = .awaits ∨ onEmpty = .returns (.ok none)) := by
        cases call with
        | recv => exact ⟨_, rfl, .inl rfl⟩
        | tryRecv => exact ⟨_, rfl, .inr rfl⟩
      obtain ⟨onEmpty, pass, waits⟩ := passes
      simp only [pass, StreamSubscription.pass]
      rcases subscriber.subscription.rx.tryRecv_cases with
        ⟨behind, skipped, after, read⟩ | ⟨event, rest, waiting, read⟩ | ⟨none, read⟩
      · rw [read]
        exact .inl ⟨behind, _, _, rfl⟩
      · refine .inr (.inl ⟨event, rest, waiting, ?_⟩)
        rw [read]
        by_cases matched : eventMatchesAny subscriber.subscription.filters event = true
        · simp only [if_pos matched]
          exact ⟨_, rfl⟩
        · simp only [if_neg matched, List.append_nil]
          exact ⟨_, rfl⟩
      · refine .inr (.inr ⟨.inr none, ?_⟩)
        rw [read]
        clear none read
        cases subscriber.subscription.rx.isOpen with
        | false => exact ⟨_, rfl⟩
        | true =>
            rcases waits with rfl | rfl
            · exact ⟨_, rfl⟩
            · exact ⟨none, by simp only [if_true, returned, Option.toList_none, List.append_nil]⟩

/-! ## What a subscriber receives -/

/-- Unless it was told that it lagged, a subscriber has received the events published since it
subscribed that match one of its filters, as far as it has looked at them. -/
structure Sound (published : List StreamEvent) (subscriber : StreamSubscriber) : Prop where
  since_le : subscriber.since ≤ published.length
  delivers : subscriber.lagged = false →
    Delivers (eventMatchesAny subscriber.subscription.filters) (published.drop subscriber.since)
      subscriber.subscription.rx subscriber.received

theorem Sound.advance (sound : subscriber.Sound published) :
    subscriber.advance.Sound published := by
  rcases subscriber.advance_cases with
    ⟨-, subscription, call, after⟩ | ⟨event, rest, waits, call, after⟩ | ⟨-, call, after⟩
  · rw [after]
    exact ⟨sound.since_le, fun unlagged => absurd unlagged.symm Bool.false_ne_true⟩
  · rw [after]
    refine ⟨sound.since_le, fun unlagged => ?_⟩
    by_cases matched : eventMatchesAny subscriber.subscription.filters event = true
    · rw [if_pos matched]
      exact (sound.delivers unlagged).accept waits matched
    · rw [if_neg matched, List.append_nil]
      exact (sound.delivers unlagged).reject waits matched
  · rw [after]
    exact ⟨sound.since_le, sound.delivers⟩

/-- A pass reads one event when one waits and the subscriber is not behind. -/
theorem poll_of_waiting {event : StreamEvent} {rest : List StreamEvent}
    (kept : subscriber.subscription.rx.waiting.length ≤ subscriber.subscription.rx.slots)
    (waits : subscriber.subscription.rx.waiting = event :: rest) :
    ∃ call, subscriber.poll =
      { subscriber with
        subscription := { subscriber.subscription with
          rx := { subscriber.subscription.rx with waiting := rest } }
        call
        received := subscriber.received ++
          if eventMatchesAny subscriber.subscription.filters event then [event] else [] } := by
  rcases (subscriber.start .tryRecv).advance_cases with
    ⟨behind, -⟩ | ⟨first, others, found, call, after⟩ | ⟨idle | none, -⟩
  · exact absurd kept (Nat.not_le.mpr behind)
  · obtain ⟨rfl, rfl⟩ := List.cons.inj (waits.symm.trans found)
    exact ⟨call, after⟩
  · exact absurd idle (Option.some_ne_none _)
  · exact absurd (waits.symm.trans none) (List.cons_ne_nil _ _)

/-- A subscriber that is not behind receives all that waits for it by polling. -/
theorem poll_drains (waiting : List StreamEvent) (subscriber : StreamSubscriber)
    (waits : subscriber.subscription.rx.waiting = waiting)
    (kept : waiting.length ≤ subscriber.subscription.rx.slots) :
    let after := poll^[waiting.length] subscriber
    after.received =
        subscriber.received ++ waiting.filter (eventMatchesAny subscriber.subscription.filters) ∧
      after.subscription.rx.waiting = [] ∧ after.lagged = subscriber.lagged := by
  induction waiting generalizing subscriber with
  | nil => exact ⟨(List.append_nil _).symm, waits, rfl⟩
  | cons event rest ih =>
      obtain ⟨call, after⟩ := poll_of_waiting (waits ▸ kept) waits
      rw [List.length_cons, Function.iterate_succ_apply, after]
      obtain ⟨received, drained, lagged⟩ := ih
        { subscriber with
          subscription := { subscriber.subscription with
            rx := { subscriber.subscription.rx with waiting := rest } }
          call
          received := subscriber.received ++
            if eventMatchesAny subscriber.subscription.filters event then [event] else [] }
        rfl (Nat.le_of_succ_le kept)
      refine ⟨received.trans ?_, drained, lagged⟩
      rw [List.append_assoc, List.filter_cons]
      split <;> rfl

end StreamSubscriber

namespace StreamHub

/-- Every subscriber of the hub is sound. -/
def Sound (hub : StreamHub) : Prop :=
  ∀ subscriber ∈ hub.subscribers, subscriber.Sound hub.published

variable {hub : StreamHub}

theorem Sound.subscribe (sound : hub.Sound) (filters : List StreamFilter) :
    (hub.subscribe filters).Sound := by
  intro subscriber member
  rcases List.mem_append.mp member with old | new
  · exact sound subscriber old
  · rw [List.mem_singleton.mp new]
    refine ⟨le_refl _, fun _ => ?_⟩
    simp only
    rw [show (hub.subscribe filters).published = hub.published from rfl, List.drop_length]
    exact Delivers.subscribe _ _

theorem Sound.publish (sound : hub.Sound) (event : StreamEvent) : (hub.publish event).Sound := by
  intro subscriber member
  obtain ⟨before, known, rfl⟩ := List.mem_map.mp member
  obtain ⟨since_le, delivers⟩ := sound before known
  refine ⟨since_le.trans (List.prefix_append _ [event]).length_le, fun unlagged => ?_⟩
  have sent : (hub.publish event).published.drop before.since =
      hub.published.drop before.since ++ [event] := List.drop_append_of_le_length since_le
  rw [sent]
  exact (delivers unlagged).send event

theorem Sound.drop (sound : hub.Sound) : hub.drop.Sound := by
  intro subscriber member
  obtain ⟨before, known, rfl⟩ := List.mem_map.mp member
  obtain ⟨since_le, delivers⟩ := sound before known
  exact ⟨since_le, fun unlagged => (delivers unlagged).close⟩

theorem Sound.withSubscriber (sound : hub.Sound) (i : Nat)
    {act : StreamSubscriber → StreamSubscriber}
    (keeps : ∀ subscriber, subscriber.Sound hub.published → (act subscriber).Sound hub.published) :
    (hub.withSubscriber i act).Sound := by
  intro subscriber member
  obtain ⟨j, found⟩ := List.mem_iff_getElem?.mp member
  rw [show (hub.withSubscriber i act).subscribers = hub.subscribers.modify i act from rfl,
    List.getElem?_modify] at found
  obtain ⟨before, known, rfl⟩ := Option.map_eq_some_iff.mp found
  have sound := sound before (List.mem_of_getElem? known)
  split
  · exact keeps before sound
  · exact sound

theorem Sound.step (sound : hub.Sound) (step : HubStep) : (hub.step step).Sound := by
  cases step with
  | subscribe filters =>
      change (if hub.isOpen then hub.subscribe filters else hub).Sound
      split
      · exact sound.subscribe filters
      · exact sound
  | publish event =>
      change (if hub.isOpen then hub.publish event else hub).Sound
      split
      · exact sound.publish event
      · exact sound
  | start i call =>
      exact sound.withSubscriber i fun _ before => ⟨before.since_le, before.delivers⟩
  | advance i => exact sound.withSubscriber i fun _ before => before.advance
  | cancel i =>
      exact sound.withSubscriber i fun _ before => ⟨before.since_le, before.delivers⟩
  | drop => exact sound.drop

/-- Every subscriber is sound, whatever happens in whatever order. -/
theorem run_sound (capacity : Nat) (steps : List HubStep) :
    ((new capacity).run steps).Sound := by
  have start : (new capacity).Sound := fun _ member => absurd member List.not_mem_nil
  unfold run
  generalize new capacity = hub at start ⊢
  induction steps generalizing hub with
  | nil => exact start
  | cons step steps ih => exact ih (hub.step step) (start.step step)

end StreamHub

end KasGraph
