import KasGraph.Json

set_option autoImplicit false

/-! The in-memory subscription source. Events and requests of a subscriber meet through a
queue of events and one slot for a request that waits. -/

namespace KasGraph

open Json (Value)

/-! ## Events and filters -/

/-- A detected pattern as the gateway hands it to subscribers. -/
structure PatternEvent where
  subgraph : String
  blockHash : String
  blockDaaScore : String
  txHash : String
  outputIndex : Nat
  detectorKind : String
  covenantId : Option String
  payload : Option Value
  deriving DecidableEq

structure DetectedPatternsFilter where
  subgraph : Option String
  kind : Option String
  covenantId : Option String
  deriving DecidableEq

/-- A key that the filter leaves out matches anything. -/
def patternMatches (event : PatternEvent) (filter : DetectedPatternsFilter) : Bool :=
  filter.subgraph.all (event.subgraph == ·) && filter.kind.all (event.detectorKind == ·) &&
    filter.covenantId.all fun covenantId => event.covenantId == some covenantId

/-! ## A subscriber -/

inductive IteratorResult where
  | value (event : PatternEvent)
  | done
  deriving DecidableEq

/-- A subscriber, with what each `next` call made on it so far was answered. -/
structure InMemorySubscriber where
  filter : DetectedPatternsFilter
  queue : List PatternEvent
  /-- The call whose promise the slot resolves. -/
  pending : Option Nat
  closed : Bool
  answers : List (Option IteratorResult)
  deriving DecidableEq

inductive SubscriberCall where
  | push (event : PatternEvent)
  | next
  | close
  deriving DecidableEq

namespace InMemorySubscriber

def new (filter : DetectedPatternsFilter) : InMemorySubscriber where
  filter
  queue := []
  pending := none
  closed := false
  answers := []

/-- Resolve the waiting call and free the slot. -/
def resolve (sub : InMemorySubscriber) (call : Nat) (result : IteratorResult) :
    InMemorySubscriber :=
  { sub with pending := none, answers := sub.answers.set call (some result) }

def push (sub : InMemorySubscriber) (event : PatternEvent) : InMemorySubscriber :=
  if sub.closed then
    sub
  else
    match sub.pending with
    | some call => sub.resolve call (.value event)
    | none => { sub with queue := sub.queue ++ [event] }

def next (sub : InMemorySubscriber) : InMemorySubscriber :=
  if sub.closed then
    { sub with answers := sub.answers ++ [some .done] }
  else
    match sub.queue with
    | event :: rest => { sub with queue := rest, answers := sub.answers ++ [some (.value event)] }
    | [] => { sub with pending := some sub.answers.length, answers := sub.answers ++ [none] }

/-- What `return` and `throw` do to a subscriber. -/
def close (sub : InMemorySubscriber) : InMemorySubscriber :=
  if sub.closed then
    sub
  else
    match sub.pending with
    | some call => { sub.resolve call .done with closed := true }
    | none => { sub with closed := true }

def apply (sub : InMemorySubscriber) : SubscriberCall → InMemorySubscriber
  | .push event => sub.push event
  | .next => sub.next
  | .close => sub.close

def run (filter : DetectedPatternsFilter) (calls : List SubscriberCall) : InMemorySubscriber :=
  calls.foldl apply (new filter)

theorem push_filter (sub : InMemorySubscriber) (event : PatternEvent) :
    (sub.push event).filter = sub.filter := by
  unfold push
  split
  · rfl
  · split <;> rfl

theorem next_filter (sub : InMemorySubscriber) : sub.next.filter = sub.filter := by
  unfold next
  split
  · rfl
  · split <;> rfl

theorem close_filter (sub : InMemorySubscriber) : sub.close.filter = sub.filter := by
  unfold close
  split
  · rfl
  · split <;> rfl

theorem apply_filter (sub : InMemorySubscriber) (call : SubscriberCall) :
    (sub.apply call).filter = sub.filter := by
  cases call with
  | push event => exact push_filter sub event
  | next => exact next_filter sub
  | close => exact close_filter sub

section Equations

variable {sub : InMemorySubscriber}

theorem push_of_pending (stillOpen : sub.closed = false) {call : Nat}
    (waits : sub.pending = some call) (event : PatternEvent) :
    sub.push event = sub.resolve call (.value event) := by
  unfold push
  rw [if_neg (by simp [stillOpen]), waits]

theorem push_of_idle (stillOpen : sub.closed = false) (idle : sub.pending = none)
    (event : PatternEvent) : sub.push event = { sub with queue := sub.queue ++ [event] } := by
  unfold push
  rw [if_neg (by simp [stillOpen]), idle]

theorem next_of_closed (closed : sub.closed = true) :
    sub.next = { sub with answers := sub.answers ++ [some .done] } := if_pos closed

theorem next_of_queued (stillOpen : sub.closed = false) {event : PatternEvent}
    {rest : List PatternEvent} (queued : sub.queue = event :: rest) :
    sub.next = { sub with queue := rest, answers := sub.answers ++ [some (.value event)] } := by
  unfold next
  rw [if_neg (by simp [stillOpen]), queued]

theorem next_of_empty (stillOpen : sub.closed = false) (empty : sub.queue = []) :
    sub.next = { sub with pending := some sub.answers.length, answers := sub.answers ++ [none] } := by
  unfold next
  rw [if_neg (by simp [stillOpen]), empty]

theorem close_of_closed (closed : sub.closed = true) : sub.close = sub := if_pos closed

theorem close_of_pending (stillOpen : sub.closed = false) {call : Nat}
    (waits : sub.pending = some call) :
    sub.close = { sub.resolve call .done with closed := true } := by
  unfold close
  rw [if_neg (by simp [stillOpen]), waits]

theorem close_of_idle (stillOpen : sub.closed = false) (idle : sub.pending = none) :
    sub.close = { sub with closed := true } := by
  unfold close
  rw [if_neg (by simp [stillOpen]), idle]

end Equations

theorem run_filter (filter : DetectedPatternsFilter) (calls : List SubscriberCall) :
    (run filter calls).filter = filter := by
  induction calls using List.reverseRecOn with
  | nil => rfl
  | append_singleton calls call ih =>
      unfold run at ih ⊢
      rw [List.foldl_concat, apply_filter, ih]

theorem push_of_closed {sub : InMemorySubscriber} (closed : sub.closed = true)
    (event : PatternEvent) : sub.push event = sub := if_pos closed

theorem push_closed (sub : InMemorySubscriber) (event : PatternEvent) :
    (sub.push event).closed = sub.closed := by
  unfold push
  split
  · rfl
  · split <;> rfl

theorem next_closed (sub : InMemorySubscriber) : sub.next.closed = sub.closed := by
  unfold next
  split
  · rfl
  · split <;> rfl

theorem close_closed (sub : InMemorySubscriber) : sub.close.closed = true := by
  unfold close
  split
  · assumption
  · split <;> rfl

end InMemorySubscriber

/-! ## What a subscriber owes -/

/-- What a subscriber was given and asked until it closed. -/
structure SubscriberHistory where
  events : List PatternEvent
  requests : Nat
  closed : Bool
  deriving DecidableEq

namespace SubscriberHistory

def empty : SubscriberHistory := ⟨[], 0, false⟩

def add (history : SubscriberHistory) (call : SubscriberCall) : SubscriberHistory :=
  if history.closed then
    history
  else
    match call with
    | .push event => { history with events := history.events ++ [event] }
    | .next => { history with requests := history.requests + 1 }
    | .close => { history with closed := true }

def of (calls : List SubscriberCall) : SubscriberHistory := calls.foldl add empty

/-- The answer owed to a request: the event of its number, or the end once closed. -/
def answerAt (history : SubscriberHistory) (i : Nat) : Option IteratorResult :=
  match history.events[i]? with
  | some event => some (.value event)
  | none => if history.closed then some .done else none

/-- The requests that wait for an event. -/
def outstanding (history : SubscriberHistory) : Nat := history.requests - history.events.length

section Equations

variable {history : SubscriberHistory}

theorem add_of_closed (closed : history.closed = true) (call : SubscriberCall) :
    history.add call = history := if_pos closed

theorem add_push (stillOpen : history.closed = false) (event : PatternEvent) :
    history.add (.push event) = { history with events := history.events ++ [event] } :=
  if_neg (by simp [stillOpen])

theorem add_next (stillOpen : history.closed = false) :
    history.add .next = { history with requests := history.requests + 1 } :=
  if_neg (by simp [stillOpen])

theorem add_close (stillOpen : history.closed = false) :
    history.add .close = { history with closed := true } :=
  if_neg (by simp [stillOpen])

end Equations

theorem of_concat (calls : List SubscriberCall) (call : SubscriberCall) :
    of (calls ++ [call]) = (of calls).add call := by
  unfold of
  rw [List.foldl_concat]

theorem answerAt_of_lt {history : SubscriberHistory} {i : Nat}
    (within : i < history.events.length) :
    history.answerAt i = some (.value history.events[i]) := by
  unfold answerAt
  rw [List.getElem?_eq_getElem within]

theorem answerAt_of_le {history : SubscriberHistory} {i : Nat}
    (past : history.events.length ≤ i) :
    history.answerAt i = if history.closed then some .done else none := by
  unfold answerAt
  rw [List.getElem?_eq_none past]

end SubscriberHistory

/-- The answers to the requests made before closing are the ones owed. -/
def AnswersOwed (filter : DetectedPatternsFilter) (calls : List SubscriberCall) : Prop :=
  ∀ i < (SubscriberHistory.of calls).requests,
    (InMemorySubscriber.run filter calls).answers[i]? =
      some ((SubscriberHistory.of calls).answerAt i)

/-- Whenever an event or the end comes to an open subscriber, at most one request waits. -/
def Uncrowded (calls : List SubscriberCall) : Prop :=
  ∀ before call rest, calls = before ++ call :: rest →
    (SubscriberHistory.of before).closed = false → call ≠ .next →
      (SubscriberHistory.of before).outstanding ≤ 1

/-- What holds at every element of a sequence, after those before it, and at one more. -/
theorem at_each_concat_iff {α : Type} {holds : List α → α → Prop} {items : List α} {item : α} :
    (∀ before other rest, items ++ [item] = before ++ other :: rest → holds before other) ↔
      (∀ before other rest, items = before ++ other :: rest → holds before other) ∧
        holds items item := by
  constructor
  · intro each
    refine ⟨fun before other rest split => ?_, each items item [] rfl⟩
    exact each before other (rest ++ [item]) (by rw [split]; simp)
  · rintro ⟨each, last⟩ before other rest split
    induction rest using List.reverseRecOn with
    | nil =>
        obtain ⟨rfl, same⟩ := List.append_inj' split rfl
        rw [← List.singleton_inj.mp same]
        exact last
    | append_singleton front final _ =>
        rw [← List.cons_append, ← List.append_assoc] at split
        exact each before other front (List.append_inj' split rfl).1

theorem uncrowded_concat_iff (calls : List SubscriberCall) (call : SubscriberCall) :
    Uncrowded (calls ++ [call]) ↔ Uncrowded calls ∧
      ((SubscriberHistory.of calls).closed = false → call ≠ .next →
        (SubscriberHistory.of calls).outstanding ≤ 1) :=
  at_each_concat_iff

/-! ## Runs of one subscriber -/

/-- A subscriber that answered every request as owed, and holds what is not asked for yet. -/
structure KeepsUp (history : SubscriberHistory) (sub : InMemorySubscriber) : Prop where
  closed : sub.closed = history.closed
  answered : ∀ i < history.requests, sub.answers[i]? = some (history.answerAt i)
  counted : history.closed = false → sub.answers.length = history.requests
  queue : history.closed = false → sub.queue = history.events.drop history.requests
  pending : history.closed = false → sub.pending =
    if history.events.length < history.requests then some (history.requests - 1) else none

/-- A request that is owed an answer and will never get one. -/
structure Lost (history : SubscriberHistory) (sub : InMemorySubscriber) (i : Nat) : Prop where
  asked : i < history.requests
  silent : sub.answers[i]? = some none
  forgotten : sub.pending ≠ some i
  owed : history.answerAt i ≠ none

theorem keepsUp_new (filter : DetectedPatternsFilter) :
    KeepsUp .empty (.new filter) where
  closed := rfl
  answered := fun _ impossible => absurd impossible (Nat.not_lt_zero _)
  counted := fun _ => rfl
  queue := fun _ => rfl
  pending := fun _ => rfl

section Step

variable {history : SubscriberHistory} {sub : InMemorySubscriber}

/-- While open, the queue and the slot say which side is ahead. -/
theorem KeepsUp.waits (keeps : KeepsUp history sub) (stillOpen : history.closed = false)
    (behind : history.events.length < history.requests) :
    sub.pending = some (history.requests - 1) ∧ sub.queue = [] := by
  constructor
  · rw [keeps.pending stillOpen, if_pos behind]
  · rw [keeps.queue stillOpen, List.drop_of_length_le (by omega)]

theorem KeepsUp.idle (keeps : KeepsUp history sub) (stillOpen : history.closed = false)
    (ahead : ¬ history.events.length < history.requests) : sub.pending = none := by
  rw [keeps.pending stillOpen, if_neg ahead]

theorem KeepsUp.push (keeps : KeepsUp history sub) (stillOpen : history.closed = false)
    (single : history.outstanding ≤ 1) (event : PatternEvent) :
    KeepsUp (history.add (.push event)) (sub.push event) := by
  have subOpen : sub.closed = false := keeps.closed.trans stillOpen
  have counted := keeps.counted stillOpen
  unfold SubscriberHistory.outstanding at single
  rw [SubscriberHistory.add_push stillOpen]
  have grown : (history.events ++ [event]).length = history.events.length + 1 := by simp
  have earlier : ∀ i < history.events.length,
      ({ history with events := history.events ++ [event] } : SubscriberHistory).answerAt i =
        history.answerAt i := by
    intro i within
    rw [SubscriberHistory.answerAt_of_lt within,
      SubscriberHistory.answerAt_of_lt (by rw [grown]; omega)]
    simp [List.getElem_append_left within]
  by_cases behind : history.events.length < history.requests
  · -- The one request that waits is the last one, and the event is its own.
    obtain ⟨pending, queue⟩ := keeps.waits stillOpen behind
    rw [InMemorySubscriber.push_of_pending subOpen pending]
    exact {
      closed := keeps.closed
      answered := by
        intro i asked
        show (sub.answers.set (history.requests - 1) _)[i]? = _
        change i < history.requests at asked
        by_cases last : i = history.events.length
        · have here : history.requests - 1 = i := by omega
          rw [here, List.getElem?_set_self (by omega),
            SubscriberHistory.answerAt_of_lt (by rw [grown]; omega)]
          simp [last]
        · rw [List.getElem?_set_ne (by omega), earlier i (by omega)]
          exact keeps.answered i asked
      counted := by
        intro _
        show (sub.answers.set _ _).length = history.requests
        rw [List.length_set, counted]
      queue := by
        intro _
        show sub.queue = (history.events ++ [event]).drop history.requests
        rw [queue, List.drop_of_length_le (by omega)]
      pending := by
        intro _
        show none = if (history.events ++ [event]).length < history.requests then _ else none
        rw [if_neg (by omega)] }
  · have pending := keeps.idle stillOpen behind
    rw [InMemorySubscriber.push_of_idle subOpen pending]
    exact {
      closed := keeps.closed
      answered := by
        intro i asked
        change i < history.requests at asked
        rw [earlier i (by omega)]
        exact keeps.answered i asked
      counted := fun _ => counted
      queue := by
        intro _
        show sub.queue ++ [event] = (history.events ++ [event]).drop history.requests
        rw [keeps.queue stillOpen, List.drop_append_of_le_length (by omega)]
      pending := by
        intro _
        show sub.pending = if (history.events ++ [event]).length < history.requests then _ else none
        rw [pending, if_neg (by omega)] }

theorem KeepsUp.next (keeps : KeepsUp history sub) (stillOpen : history.closed = false) :
    KeepsUp (history.add .next) sub.next := by
  have subOpen : sub.closed = false := keeps.closed.trans stillOpen
  have counted := keeps.counted stillOpen
  rw [SubscriberHistory.add_next stillOpen]
  -- The answers so far stay, and the new one is the one owed.
  have answers : ∀ i < history.requests + 1,
      (sub.answers ++ [history.answerAt history.requests])[i]? = some (history.answerAt i) := by
    intro i asked
    by_cases last : i = history.requests
    · rw [last, ← counted, List.getElem?_concat_length]
    · rw [List.getElem?_append_left (by omega)]
      exact keeps.answered i (by omega)
  have longer : ∀ result : Option IteratorResult,
      (sub.answers ++ [result]).length = history.requests + 1 := by
    intro result
    rw [List.length_append, counted]
    rfl
  by_cases held : history.requests < history.events.length
  · have queue := keeps.queue stillOpen
    rw [List.drop_eq_getElem_cons held] at queue
    rw [InMemorySubscriber.next_of_queued subOpen queue]
    rw [SubscriberHistory.answerAt_of_lt held] at answers
    exact {
      closed := keeps.closed
      answered := answers
      counted := fun _ => longer _
      queue := fun _ => rfl
      pending := by
        intro _
        show sub.pending = if history.events.length < history.requests + 1 then _ else none
        rw [keeps.idle stillOpen (by omega), if_neg (by omega)] }
  · have queue : sub.queue = [] := by
      rw [keeps.queue stillOpen, List.drop_of_length_le (by omega)]
    rw [InMemorySubscriber.next_of_empty subOpen queue]
    have owed : history.answerAt history.requests = none := by
      rw [SubscriberHistory.answerAt_of_le (by omega), stillOpen, if_neg Bool.false_ne_true]
    rw [owed] at answers
    exact {
      closed := keeps.closed
      answered := answers
      counted := fun _ => longer none
      queue := by
        intro _
        show sub.queue = history.events.drop (history.requests + 1)
        rw [queue, List.drop_of_length_le (by omega)]
      pending := by
        intro _
        show some sub.answers.length = if history.events.length < history.requests + 1 then
          some (history.requests + 1 - 1) else none
        rw [if_pos (by omega), counted, Nat.add_sub_cancel] }

theorem KeepsUp.close (keeps : KeepsUp history sub) (stillOpen : history.closed = false)
    (single : history.outstanding ≤ 1) : KeepsUp (history.add .close) sub.close := by
  have subOpen : sub.closed = false := keeps.closed.trans stillOpen
  have counted := keeps.counted stillOpen
  unfold SubscriberHistory.outstanding at single
  rw [SubscriberHistory.add_close stillOpen]
  have earlier : ∀ i < history.events.length,
      ({ history with closed := true } : SubscriberHistory).answerAt i = history.answerAt i := by
    intro i within
    rw [SubscriberHistory.answerAt_of_lt within]
    exact @SubscriberHistory.answerAt_of_lt { history with closed := true } i within
  by_cases behind : history.events.length < history.requests
  · obtain ⟨pending, queue⟩ := keeps.waits stillOpen behind
    rw [InMemorySubscriber.close_of_pending subOpen pending]
    refine ⟨rfl, ?_, nofun, nofun, nofun⟩
    intro i asked
    show (sub.answers.set (history.requests - 1) _)[i]? = _
    change i < history.requests at asked
    by_cases last : i = history.events.length
    · have here : history.requests - 1 = i := by omega
      have ended : ({ history with closed := true } : SubscriberHistory).answerAt i = some .done :=
        SubscriberHistory.answerAt_of_le (Nat.le_of_eq last.symm)
      rw [here, List.getElem?_set_self (by omega), ended]
    · rw [List.getElem?_set_ne (by omega), earlier i (by omega)]
      exact keeps.answered i asked
  · rw [InMemorySubscriber.close_of_idle subOpen (keeps.idle stillOpen behind)]
    refine ⟨rfl, ?_, nofun, nofun, nofun⟩
    intro i asked
    change i < history.requests at asked
    rw [earlier i (by omega)]
    exact keeps.answered i asked

/-- A closed subscriber answers nothing any more but the end. -/
theorem KeepsUp.apply_of_closed (keeps : KeepsUp history sub) (closed : history.closed = true)
    (call : SubscriberCall) : KeepsUp (history.add call) (sub.apply call) := by
  have subClosed : sub.closed = true := keeps.closed.trans closed
  rw [SubscriberHistory.add_of_closed closed]
  cases call with
  | push event =>
      show KeepsUp history (sub.push event)
      rw [InMemorySubscriber.push_of_closed subClosed]
      exact keeps
  | next =>
      show KeepsUp history sub.next
      rw [InMemorySubscriber.next_of_closed subClosed]
      refine ⟨keeps.closed, ?_, ?_, ?_, ?_⟩
      · intro i asked
        have answered := keeps.answered i asked
        have within := (List.getElem?_eq_some_iff.mp answered).1
        show (sub.answers ++ [_])[i]? = _
        rw [List.getElem?_append_left within, answered]
      all_goals
        intro stillOpen
        simp [closed] at stillOpen
  | close =>
      show KeepsUp history sub.close
      rw [InMemorySubscriber.close_of_closed subClosed]
      exact keeps

theorem KeepsUp.apply (keeps : KeepsUp history sub) (call : SubscriberCall)
    (single : history.closed = false → call ≠ .next → history.outstanding ≤ 1) :
    KeepsUp (history.add call) (sub.apply call) := by
  by_cases closed : history.closed = true
  · exact keeps.apply_of_closed closed call
  · have stillOpen : history.closed = false := Bool.eq_false_of_not_eq_true closed
    cases call with
    | push event => exact keeps.push stillOpen (single stillOpen nofun) event
    | next => exact keeps.next stillOpen
    | close => exact keeps.close stillOpen (single stillOpen nofun)

/-- When two requests wait, the slot has only the later: what comes passes the earlier by. -/
theorem KeepsUp.lost (keeps : KeepsUp history sub) (stillOpen : history.closed = false)
    {call : SubscriberCall} (delivers : call ≠ .next) (crowded : ¬ history.outstanding ≤ 1) :
    Lost (history.add call) (sub.apply call) history.events.length := by
  have subOpen : sub.closed = false := keeps.closed.trans stillOpen
  unfold SubscriberHistory.outstanding at crowded
  obtain ⟨pending, -⟩ := keeps.waits stillOpen (by omega)
  have silent : sub.answers[history.events.length]? = some none := by
    rw [keeps.answered _ (by omega), SubscriberHistory.answerAt_of_le (Nat.le_refl _), stillOpen,
      if_neg Bool.false_ne_true]
  have missed : history.requests - 1 ≠ history.events.length := by omega
  have asked : history.events.length < history.requests := by omega
  cases call with
  | next => exact absurd rfl delivers
  | push event =>
      show Lost _ (sub.push event) _
      rw [SubscriberHistory.add_push stillOpen, InMemorySubscriber.push_of_pending subOpen pending]
      refine ⟨asked, ?_, nofun, ?_⟩
      · show (sub.answers.set _ _)[_]? = _
        rw [List.getElem?_set_ne missed, silent]
      · rw [SubscriberHistory.answerAt_of_lt (by simp)]
        nofun
  | close =>
      show Lost _ sub.close _
      rw [SubscriberHistory.add_close stillOpen,
        InMemorySubscriber.close_of_pending subOpen pending]
      refine ⟨asked, ?_, nofun, ?_⟩
      · show (sub.answers.set _ _)[_]? = _
        rw [List.getElem?_set_ne missed, silent]
      · rw [SubscriberHistory.answerAt_of_le (Nat.le_refl _), if_pos rfl]
        nofun

/-- An answer given or owed is not taken back. -/
theorem SubscriberHistory.add_answerAt {i : Nat} (owed : history.answerAt i ≠ none)
    (call : SubscriberCall) : (history.add call).answerAt i ≠ none := by
  by_cases closed : history.closed = true
  · rw [SubscriberHistory.add_of_closed closed]
    exact owed
  · have stillOpen : history.closed = false := Bool.eq_false_of_not_eq_true closed
    have within : i < history.events.length := by
      by_contra past
      rw [SubscriberHistory.answerAt_of_le (by omega), stillOpen] at owed
      exact owed rfl
    have inside : i < (history.add call).events.length := by
      cases call with
      | push event =>
          rw [SubscriberHistory.add_push stillOpen]
          simp only [List.length_append]
          omega
      | next =>
          rw [SubscriberHistory.add_next stillOpen]
          exact within
      | close =>
          rw [SubscriberHistory.add_close stillOpen]
          exact within
    rw [SubscriberHistory.answerAt_of_lt inside]
    nofun

theorem SubscriberHistory.requests_le_add (history : SubscriberHistory) (call : SubscriberCall) :
    history.requests ≤ (history.add call).requests := by
  by_cases closed : history.closed = true
  · rw [SubscriberHistory.add_of_closed closed]
  · have stillOpen : history.closed = false := Bool.eq_false_of_not_eq_true closed
    cases call with
    | push event => rw [SubscriberHistory.add_push stillOpen]
    | next =>
        rw [SubscriberHistory.add_next stillOpen]
        exact Nat.le_succ _
    | close => rw [SubscriberHistory.add_close stillOpen]

/-- A request that the slot has forgotten stays without an answer. -/
theorem InMemorySubscriber.apply_forgotten {i : Nat} (silent : sub.answers[i]? = some none)
    (forgotten : sub.pending ≠ some i) (call : SubscriberCall) :
    (sub.apply call).answers[i]? = some none ∧ (sub.apply call).pending ≠ some i := by
  have asked := (List.getElem?_eq_some_iff.mp silent).1
  by_cases closed : sub.closed = true
  · cases call with
    | push event =>
        show (sub.push event).answers[i]? = some none ∧ (sub.push event).pending ≠ some i
        rw [push_of_closed closed]
        exact ⟨silent, forgotten⟩
    | next =>
        show sub.next.answers[i]? = some none ∧ sub.next.pending ≠ some i
        rw [next_of_closed closed]
        exact ⟨(List.getElem?_append_left asked).trans silent, forgotten⟩
    | close =>
        show sub.close.answers[i]? = some none ∧ sub.close.pending ≠ some i
        rw [close_of_closed closed]
        exact ⟨silent, forgotten⟩
  · have stillOpen : sub.closed = false := Bool.eq_false_of_not_eq_true closed
    have kept : ∀ other result, sub.pending = some other →
        (sub.answers.set other result)[i]? = some none := by
      intro other result waits
      rw [List.getElem?_set_ne (fun same => forgotten (by rw [waits, same])), silent]
    cases call with
    | push event =>
        show (sub.push event).answers[i]? = some none ∧ (sub.push event).pending ≠ some i
        cases pending : sub.pending with
        | some other =>
            rw [push_of_pending stillOpen pending]
            exact ⟨kept other _ pending, nofun⟩
        | none =>
            rw [push_of_idle stillOpen pending]
            exact ⟨silent, forgotten⟩
    | next =>
        show sub.next.answers[i]? = some none ∧ sub.next.pending ≠ some i
        cases queue : sub.queue with
        | cons event rest =>
            rw [next_of_queued stillOpen queue]
            exact ⟨(List.getElem?_append_left asked).trans silent, forgotten⟩
        | nil =>
            rw [next_of_empty stillOpen queue]
            refine ⟨(List.getElem?_append_left asked).trans silent, fun same => ?_⟩
            have last : sub.answers.length = i := Option.some.inj same
            omega
    | close =>
        show sub.close.answers[i]? = some none ∧ sub.close.pending ≠ some i
        cases pending : sub.pending with
        | some other =>
            rw [close_of_pending stillOpen pending]
            exact ⟨kept other _ pending, nofun⟩
        | none =>
            rw [close_of_idle stillOpen pending]
            exact ⟨silent, forgotten⟩

theorem Lost.apply {i : Nat} (lost : Lost history sub i) (call : SubscriberCall) :
    Lost (history.add call) (sub.apply call) i := by
  obtain ⟨silent, forgotten⟩ :=
    InMemorySubscriber.apply_forgotten lost.silent lost.forgotten call
  exact {
    asked := Nat.lt_of_lt_of_le lost.asked (history.requests_le_add call)
    silent
    forgotten
    owed := SubscriberHistory.add_answerAt lost.owed call }

end Step

theorem InMemorySubscriber.run_concat (filter : DetectedPatternsFilter)
    (calls : List SubscriberCall) (call : SubscriberCall) :
    run filter (calls ++ [call]) = (run filter calls).apply call := by
  unfold run
  rw [List.foldl_concat]

/-- A run serves every request so far, or has lost one for good. -/
theorem keepsUp_or_lost (filter : DetectedPatternsFilter) (calls : List SubscriberCall) :
    (Uncrowded calls ∧ KeepsUp (.of calls) (.run filter calls)) ∨
      (¬ Uncrowded calls ∧ ∃ i, Lost (.of calls) (.run filter calls) i) := by
  induction calls using List.reverseRecOn with
  | nil =>
      left
      refine ⟨fun before call rest split => ?_, keepsUp_new filter⟩
      simp at split
  | append_singleton calls call ih =>
      rw [uncrowded_concat_iff, SubscriberHistory.of_concat, InMemorySubscriber.run_concat]
      cases ih with
      | inl served =>
          obtain ⟨uncrowded, keeps⟩ := served
          by_cases single : (SubscriberHistory.of calls).closed = false → call ≠ .next →
              (SubscriberHistory.of calls).outstanding ≤ 1
          · exact Or.inl ⟨⟨uncrowded, single⟩, keeps.apply call single⟩
          · right
            refine ⟨fun both => single both.2, ?_⟩
            push Not at single
            obtain ⟨stillOpen, delivers, crowded⟩ := single
            exact ⟨_, keeps.lost stillOpen delivers (by omega)⟩
      | inr missed =>
          obtain ⟨crowded, i, lost⟩ := missed
          exact Or.inr ⟨fun both => crowded both.1, i, lost.apply call⟩

/-- A subscriber keeps its promises exactly when no two requests wait as something comes. -/
theorem answersOwed_iff (filter : DetectedPatternsFilter) (calls : List SubscriberCall) :
    AnswersOwed filter calls ↔ Uncrowded calls := by
  cases keepsUp_or_lost filter calls with
  | inl served => exact iff_of_true served.2.answered served.1
  | inr missed =>
      obtain ⟨crowded, i, lost⟩ := missed
      refine iff_of_false (fun served => ?_) crowded
      have answered := served i lost.asked
      rw [lost.silent] at answered
      exact lost.owed (Option.some.inj answered).symm

/-! ## The source -/

/-- Every subscriber made so far, and those that `publish` goes through. -/
structure InMemorySubscriptionSource where
  subscribers : List InMemorySubscriber
  attached : List Nat
  deriving DecidableEq

/-- A step of a producer or a consumer. Subscribers are numbered as they come. -/
inductive SourceCall where
  | subscribe (filter : DetectedPatternsFilter)
  | publish (event : PatternEvent)
  | next (id : Nat)
  | close (id : Nat)
  deriving DecidableEq

namespace InMemorySubscriptionSource

def empty : InMemorySubscriptionSource := ⟨[], []⟩

def subscribeDetectedPatterns (source : InMemorySubscriptionSource)
    (filter : DetectedPatternsFilter) : InMemorySubscriptionSource where
  subscribers := source.subscribers ++ [.new filter]
  attached := source.attached ++ [source.subscribers.length]

def offer (event : PatternEvent) (sub : InMemorySubscriber) : InMemorySubscriber :=
  if patternMatches event sub.filter then sub.push event else sub

def publish (source : InMemorySubscriptionSource) (event : PatternEvent) :
    InMemorySubscriptionSource :=
  { source with
    subscribers := source.attached.foldl (fun subs id => subs.modify id (offer event))
      source.subscribers }

def next (source : InMemorySubscriptionSource) (id : Nat) : InMemorySubscriptionSource :=
  { source with subscribers := source.subscribers.modify id InMemorySubscriber.next }

/-- Closing the first time also detaches, by `onClose`. -/
def close (source : InMemorySubscriptionSource) (id : Nat) : InMemorySubscriptionSource :=
  match source.subscribers[id]? with
  | none => source
  | some sub =>
      if sub.closed then
        source
      else
        { subscribers := source.subscribers.modify id InMemorySubscriber.close
          attached := source.attached.erase id }

def apply (source : InMemorySubscriptionSource) : SourceCall → InMemorySubscriptionSource
  | .subscribe filter => source.subscribeDetectedPatterns filter
  | .publish event => source.publish event
  | .next id => source.next id
  | .close id => source.close id

def run (calls : List SourceCall) : InMemorySubscriptionSource := calls.foldl apply empty

/-- The attached subscribers are the open ones, each once. -/
structure Invariant (source : InMemorySubscriptionSource) : Prop where
  nodup : source.attached.Nodup
  within : ∀ id ∈ source.attached, id < source.subscribers.length
  stillOpen : ∀ id sub, source.subscribers[id]? = some sub →
    (id ∈ source.attached ↔ sub.closed = false)

end InMemorySubscriptionSource

/-- What a call on the source is to one of its subscribers. -/
def SourceCall.on (id : Nat) (filter : DetectedPatternsFilter) : SourceCall → List SubscriberCall
  | .subscribe _ => []
  | .publish event => if patternMatches event filter then [.push event] else []
  | .next other => if other = id then [.next] else []
  | .close other => if other = id then [.close] else []

theorem modifyEach_getElem? {α : Type} (f : α → α) {ids : List Nat} (nodup : ids.Nodup)
    (elements : List α) (id : Nat) :
    (ids.foldl (fun elements id => elements.modify id f) elements)[id]? =
      if id ∈ ids then elements[id]?.map f else elements[id]? := by
  induction ids generalizing elements with
  | nil => simp
  | cons first rest ih =>
      obtain ⟨fresh, nodup⟩ := List.nodup_cons.mp nodup
      rw [List.foldl_cons, ih nodup]
      by_cases here : id = first
      · subst here
        rw [if_neg fresh, if_pos List.mem_cons_self, List.getElem?_modify]
        simp
      · have same : (elements.modify first f)[id]? = elements[id]? := by
          rw [List.getElem?_modify]
          simp [Ne.symm here]
        rw [same]
        simp [here]

theorem modifyEach_length {α : Type} (f : α → α) (ids : List Nat) (elements : List α) :
    (ids.foldl (fun elements id => elements.modify id f) elements).length = elements.length := by
  induction ids generalizing elements with
  | nil => rfl
  | cons first rest ih => rw [List.foldl_cons, ih, List.length_modify]

namespace InMemorySubscriptionSource

theorem invariant_empty : Invariant empty where
  nodup := List.nodup_nil
  within := nofun
  stillOpen := nofun

variable {source : InMemorySubscriptionSource}

theorem publish_get (invariant : source.Invariant) (event : PatternEvent) {id : Nat}
    {sub : InMemorySubscriber} (found : source.subscribers[id]? = some sub) :
    (source.publish event).subscribers[id]? = some (offer event sub) := by
  show (source.attached.foldl _ source.subscribers)[id]? = _
  rw [modifyEach_getElem? _ invariant.nodup, found]
  by_cases attached : id ∈ source.attached
  · rw [if_pos attached]
    rfl
  · have closed : sub.closed = true := by
      simpa using mt (invariant.stillOpen id sub found).mpr attached
    rw [if_neg attached]
    unfold offer
    rw [InMemorySubscriber.push_of_closed closed, ite_self]

theorem offer_closed (event : PatternEvent) (sub : InMemorySubscriber) :
    (offer event sub).closed = sub.closed := by
  unfold offer
  split
  · exact InMemorySubscriber.push_closed sub event
  · rfl

theorem Invariant.subscribe (invariant : source.Invariant) (filter : DetectedPatternsFilter) :
    (source.subscribeDetectedPatterns filter).Invariant where
  nodup := by
    have fresh : source.subscribers.length ∉ source.attached := fun attached =>
      Nat.lt_irrefl _ (invariant.within _ attached)
    exact List.nodup_append.mpr ⟨invariant.nodup, List.nodup_singleton _, by
      intro id attached other new same
      rw [List.mem_singleton.mp new] at same
      exact fresh (same ▸ attached)⟩
  within := by
    intro id attached
    show id < (source.subscribers ++ [_]).length
    rw [List.length_append]
    cases List.mem_append.mp attached with
    | inl old => exact Nat.lt_add_right _ (invariant.within id old)
    | inr new =>
        rw [List.mem_singleton.mp new]
        exact Nat.lt_succ_self _
  stillOpen := by
    intro id sub found
    change (source.subscribers ++ [_])[id]? = some sub at found
    show id ∈ source.attached ++ [_] ↔ _
    by_cases old : id < source.subscribers.length
    · rw [List.getElem?_append_left old] at found
      have other : id ≠ source.subscribers.length := Nat.ne_of_lt old
      simp [other, invariant.stillOpen id sub found]
    · have last : id = source.subscribers.length := by
        have within := (List.getElem?_eq_some_iff.mp found).1
        simp only [List.length_append, List.length_singleton] at within
        omega
      rw [last, List.getElem?_concat_length] at found
      rw [← Option.some.inj found]
      simp [last, InMemorySubscriber.new]

theorem Invariant.publish (invariant : source.Invariant) (event : PatternEvent) :
    (source.publish event).Invariant where
  nodup := invariant.nodup
  within := by
    intro id attached
    show id < (source.attached.foldl _ source.subscribers).length
    rw [modifyEach_length]
    exact invariant.within id attached
  stillOpen := by
    intro id sub found
    have within := (List.getElem?_eq_some_iff.mp found).1
    change id < (source.attached.foldl _ source.subscribers).length at within
    rw [modifyEach_length] at within
    have before := List.getElem?_eq_getElem within
    rw [publish_get invariant event before] at found
    rw [← Option.some.inj found, offer_closed]
    exact invariant.stillOpen id _ before

theorem modify_get {id other : Nat} {f : InMemorySubscriber → InMemorySubscriber}
    {sub : InMemorySubscriber} (found : source.subscribers[id]? = some sub) :
    (source.subscribers.modify other f)[id]? = some (if other = id then f sub else sub) := by
  rw [List.getElem?_modify, found]
  rfl

theorem Invariant.next (invariant : source.Invariant) (other : Nat) :
    (source.next other).Invariant where
  nodup := invariant.nodup
  within := by
    intro id attached
    show id < (source.subscribers.modify other _).length
    rw [List.length_modify]
    exact invariant.within id attached
  stillOpen := by
    intro id sub found
    have within := (List.getElem?_eq_some_iff.mp found).1
    change id < (source.subscribers.modify other _).length at within
    rw [List.length_modify] at within
    have before := List.getElem?_eq_getElem within
    change (source.subscribers.modify other _)[id]? = some sub at found
    rw [modify_get before] at found
    have same : sub.closed = source.subscribers[id].closed := by
      rw [← Option.some.inj found]
      split
      · exact InMemorySubscriber.next_closed _
      · rfl
    rw [same]
    exact invariant.stillOpen id _ before

theorem close_of_open {other : Nat} {sub : InMemorySubscriber}
    (found : source.subscribers[other]? = some sub) (stillOpen : sub.closed = false) :
    source.close other =
      { subscribers := source.subscribers.modify other InMemorySubscriber.close
        attached := source.attached.erase other } := by
  unfold close
  rw [found]
  exact if_neg (by simp [stillOpen])

theorem close_of_closed {other : Nat}
    (closed : ∀ sub, source.subscribers[other]? = some sub → sub.closed = true) :
    source.close other = source := by
  unfold close
  cases found : source.subscribers[other]? with
  | none => rfl
  | some sub => exact if_pos (closed sub found)

theorem close_attached_length_le (source : InMemorySubscriptionSource) (id : Nat) :
    (source.close id).attached.length ≤ source.attached.length := by
  unfold close
  split
  · exact Nat.le_refl _
  · split
    · exact Nat.le_refl _
    · exact List.length_erase_le

theorem Invariant.close (invariant : source.Invariant) (other : Nat) :
    (source.close other).Invariant := by
  by_cases closed : ∀ sub, source.subscribers[other]? = some sub → sub.closed = true
  · rw [close_of_closed closed]
    exact invariant
  · push Not at closed
    obtain ⟨sub, found, stillOpen⟩ := closed
    rw [close_of_open found (by simpa using stillOpen)]
    exact {
      nodup := invariant.nodup.erase other
      within := by
        intro id attached
        rw [List.length_modify]
        exact invariant.within id (List.mem_of_mem_erase attached)
      stillOpen := by
        intro id after same
        have within := (List.getElem?_eq_some_iff.mp same).1
        rw [List.length_modify] at within
        have before := List.getElem?_eq_getElem within
        rw [modify_get before] at same
        rw [invariant.nodup.mem_erase_iff, ← Option.some.inj same]
        by_cases here : other = id
        · rw [if_pos here, InMemorySubscriber.close_closed]
          simp [here]
        · rw [if_neg here, invariant.stillOpen id _ before]
          simp [Ne.symm here] }

theorem Invariant.apply (invariant : source.Invariant) (call : SourceCall) :
    (source.apply call).Invariant := by
  cases call with
  | subscribe filter => exact invariant.subscribe filter
  | publish event => exact invariant.publish event
  | next id => exact invariant.next id
  | close id => exact invariant.close id

/-- What a call does to a subscriber is what the subscriber's own calls do. -/
theorem apply_get (invariant : source.Invariant) {id : Nat} {sub : InMemorySubscriber}
    (found : source.subscribers[id]? = some sub) (call : SourceCall) :
    (source.apply call).subscribers[id]? =
      some ((call.on id sub.filter).foldl InMemorySubscriber.apply sub) := by
  cases call with
  | subscribe filter =>
      show (source.subscribers ++ [_])[id]? = some sub
      rw [List.getElem?_append_left (List.getElem?_eq_some_iff.mp found).1, found]
  | publish event =>
      show (source.publish event).subscribers[id]? = _
      rw [publish_get invariant event found]
      unfold offer SourceCall.on
      simp only
      split <;> rfl
  | next other =>
      show (source.subscribers.modify other _)[id]? = _
      rw [modify_get found]
      unfold SourceCall.on
      simp only
      split <;> rfl
  | close other =>
      show (source.close other).subscribers[id]? = _
      by_cases closed : ∀ sub, source.subscribers[other]? = some sub → sub.closed = true
      · rw [close_of_closed closed, found]
        unfold SourceCall.on
        by_cases here : other = id
        · subst here
          show _ = some ((if other = other then _ else _ : List SubscriberCall).foldl _ sub)
          rw [if_pos rfl]
          exact congrArg some (InMemorySubscriber.close_of_closed (closed sub found)).symm
        · simp [here]
      · push Not at closed
        obtain ⟨target, there, stillOpen⟩ := closed
        rw [close_of_open there (by simpa using stillOpen), modify_get found]
        unfold SourceCall.on
        simp only
        split <;> rfl

theorem run_concat (calls : List SourceCall) (call : SourceCall) :
    run (calls ++ [call]) = (run calls).apply call := by
  unfold run
  rw [List.foldl_concat]

theorem run_invariant (calls : List SourceCall) : (run calls).Invariant := by
  induction calls using List.reverseRecOn with
  | nil => exact invariant_empty
  | append_singleton calls call ih =>
      rw [run_concat]
      exact ih.apply call

/-- From its subscription on, a subscriber lives through its own calls alone. -/
theorem run_get (before after : List SourceCall) (filter : DetectedPatternsFilter) :
    (run (before ++ .subscribe filter :: after)).subscribers[(run before).subscribers.length]? =
      some (.run filter
        (after.flatMap (SourceCall.on (run before).subscribers.length filter))) := by
  induction after using List.reverseRecOn with
  | nil =>
      rw [run_concat]
      exact List.getElem?_concat_length
  | append_singleton after call ih =>
      have invariant := run_invariant (before ++ .subscribe filter :: after)
      have step := apply_get invariant ih call
      have kept : (InMemorySubscriber.run filter
          (after.flatMap (SourceCall.on (run before).subscribers.length filter))).filter =
            filter := InMemorySubscriber.run_filter _ _
      rw [kept] at step
      rw [← List.cons_append, ← List.append_assoc, run_concat, step, List.flatMap_append,
        List.flatMap_singleton]
      unfold InMemorySubscriber.run
      rw [List.foldl_append]

end InMemorySubscriptionSource

/-! ## What each subscriber receives -/

/-- The calls on the source from a subscription on, as its subscriber takes them. -/
def subscriberCalls (before after : List SourceCall) (filter : DetectedPatternsFilter) :
    List SubscriberCall :=
  after.flatMap (SourceCall.on (InMemorySubscriptionSource.run before).subscribers.length filter)

/-- Every subscriber's requests, until it closes, get the matching events since it subscribed
in order, and those left over when it closes get the end. -/
def EventsDelivered (calls : List SourceCall) : Prop :=
  ∀ before filter after, calls = before ++ .subscribe filter :: after →
    ∃ sub, (InMemorySubscriptionSource.run calls).subscribers[
        (InMemorySubscriptionSource.run before).subscribers.length]? = some sub ∧
      ∀ i < (SubscriberHistory.of (subscriberCalls before after filter)).requests,
        sub.answers[i]? =
          some ((SubscriberHistory.of (subscriberCalls before after filter)).answerAt i)

/-- The slot holds one request, so a second one made while the first waits replaces it. -/
theorem events_delivered_iff (calls : List SourceCall) :
    EventsDelivered calls ↔
      ∀ before filter after, calls = before ++ .subscribe filter :: after →
        Uncrowded (subscriberCalls before after filter) := by
  constructor
  · intro delivered before filter after split
    obtain ⟨sub, found, answered⟩ := delivered before filter after split
    rw [split, InMemorySubscriptionSource.run_get before after filter] at found
    rw [← Option.some.inj found] at answered
    exact (answersOwed_iff filter _).mp answered
  · intro uncrowded before filter after split
    refine ⟨.run filter (subscriberCalls before after filter), ?_, ?_⟩
    · rw [split]
      exact InMemorySubscriptionSource.run_get before after filter
    · exact (answersOwed_iff filter _).mpr (uncrowded before filter after split)

/-- Two requests, then two events: the first request is never answered. -/
theorem first_request_lost :
    ¬ EventsDelivered [.subscribe ⟨none, none, none⟩, .next 0, .next 0,
      .publish ⟨"demo", "b1", "1", "t1", 0, "kcc20", none, none⟩,
      .publish ⟨"demo", "b2", "2", "t2", 0, "kcc20", none, none⟩] := by
  intro delivered
  obtain ⟨sub, found, answered⟩ := delivered [] _ _ rfl
  have first := answered 0 (by decide)
  have silent : ((InMemorySubscriptionSource.run [.subscribe ⟨none, none, none⟩, .next 0, .next 0,
      .publish ⟨"demo", "b1", "1", "t1", 0, "kcc20", none, none⟩,
      .publish ⟨"demo", "b2", "2", "t2", 0, "kcc20", none, none⟩]).subscribers[0]?.bind
        (·.answers[0]?)) = some none := by rfl
  change (InMemorySubscriptionSource.run _).subscribers[0]? = some sub at found
  rw [found] at silent
  change sub.answers[0]? = some none at silent
  rw [silent] at first
  exact absurd (Option.some.inj first) nofun

end KasGraph
