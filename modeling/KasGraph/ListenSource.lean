import KasGraph.PatternSubscriptions

set_option autoImplicit false

/-! The subscription source behind LISTEN. Its subscribers share one client, which is made when
the first of them comes and ended when the last has gone; both take several turns. -/

namespace KasGraph

/-- Where the attempt to get a client waits. -/
inductive ConnectStage where
  /-- for `options.connect()` -/
  | making
  /-- for `client.connect()` -/
  | connecting (client : Nat)
  /-- for the LISTEN query -/
  | listening (client : Nat)
  deriving DecidableEq

/-- Where `close` waits. -/
inductive CloseStage where
  | unlistening
  | ending
  deriving DecidableEq

structure PgListenSource where
  bus : InMemorySubscriptionSource
  client : Option Nat
  /-- Whether `connectPromise` is set. -/
  connectPromise : Bool
  attempt : Option ConnectStage
  closing : List (Nat × CloseStage)
  /-- Calls of `return` that have detached their subscriber and not yet looked for others. -/
  returning : Nat
  made : Nat
  /-- The clients that connected and have not ended. -/
  connections : List Nat
  /-- Whether the last attempt that settled failed. -/
  failed : Bool
  deriving DecidableEq

/-- A step of a subscriber, or a promise that settles, well or not. -/
inductive ListenEvent where
  | subscribe (filter : DetectedPatternsFilter)
  | iteratorReturn (id : Nat)
  | closeIfLast
  | clientMade (ok : Bool)
  | clientConnected (ok : Bool)
  | listened (ok : Bool)
  | unlistened (client : Nat)
  | clientEnded (client : Nat)
  deriving DecidableEq

namespace PgListenSource

def new : PgListenSource where
  bus := .empty
  client := none
  connectPromise := false
  attempt := none
  closing := []
  returning := 0
  made := 0
  connections := []
  failed := false

def subscriberCount (source : PgListenSource) : Nat := source.bus.attached.length

def ensureConnected (source : PgListenSource) : PgListenSource :=
  if source.client.isSome then
    source
  else if source.connectPromise then
    source
  else
    { source with connectPromise := true, attempt := some .making }

def subscribeDetectedPatterns (source : PgListenSource) (filter : DetectedPatternsFilter) :
    PgListenSource :=
  let source := source.ensureConnected
  { source with bus := source.bus.subscribeDetectedPatterns filter }

/-- The first turn of `return`: the subscriber is off the bus, and the rest waits. -/
def iteratorReturn (source : PgListenSource) (id : Nat) : PgListenSource :=
  { source with bus := source.bus.close id, returning := source.returning + 1 }

/-- The first turn of `close`, up to its query. -/
def close (source : PgListenSource) : PgListenSource :=
  match source.client with
  | none => source
  | some client =>
      { source with
        client := none
        connectPromise := false
        closing := source.closing ++ [(client, .unlistening)] }

/-- The second turn of `return`. -/
def closeIfLast (source : PgListenSource) : PgListenSource :=
  let source := { source with returning := source.returning - 1 }
  if source.subscriberCount = 0 then source.close else source

/-- The `catch` of the attempt. -/
def attemptFailed (source : PgListenSource) : PgListenSource :=
  { source with connectPromise := false, attempt := none, failed := true }

def clientMade (source : PgListenSource) (ok : Bool) : PgListenSource :=
  if ok then
    { source with attempt := some (.connecting source.made), made := source.made + 1 }
  else
    source.attemptFailed

def clientConnected (source : PgListenSource) (client : Nat) (ok : Bool) : PgListenSource :=
  if ok then
    { source with
      attempt := some (.listening client), connections := source.connections ++ [client] }
  else
    source.attemptFailed

def listened (source : PgListenSource) (client : Nat) (ok : Bool) : PgListenSource :=
  if ok then
    { source with client := some client, attempt := none, failed := false }
  else
    source.attemptFailed

/-- UNLISTEN settled; if it failed that is reported only. -/
def unlistened (source : PgListenSource) (client : Nat) : PgListenSource :=
  { source with
    closing := source.closing.erase (client, .unlistening) ++ [(client, .ending)] }

def clientEnded (source : PgListenSource) (client : Nat) : PgListenSource :=
  { source with
    closing := source.closing.erase (client, .ending)
    connections := source.connections.erase client }

/-- The source after an event, where it can come. -/
def step (source : PgListenSource) : ListenEvent → Option PgListenSource
  | .subscribe filter => some (source.subscribeDetectedPatterns filter)
  | .iteratorReturn id =>
      if id < source.bus.subscribers.length then some (source.iteratorReturn id) else none
  | .closeIfLast => if 0 < source.returning then some source.closeIfLast else none
  | .clientMade ok =>
      match source.attempt with
      | some .making => some (source.clientMade ok)
      | _ => none
  | .clientConnected ok =>
      match source.attempt with
      | some (.connecting client) => some (source.clientConnected client ok)
      | _ => none
  | .listened ok =>
      match source.attempt with
      | some (.listening client) => some (source.listened client ok)
      | _ => none
  | .unlistened client =>
      if (client, .unlistening) ∈ source.closing then some (source.unlistened client) else none
  | .clientEnded client =>
      if (client, .ending) ∈ source.closing then some (source.clientEnded client) else none

def run (events : List ListenEvent) : Option PgListenSource := events.foldlM step new

/-- No attempt, no `close` and no `return` is under way. -/
def AtRest (source : PgListenSource) : Prop :=
  source.attempt = none ∧ source.closing = [] ∧ source.returning = 0

/-- At most one connection; at rest there is one for subscribers, unless it could not be had. -/
def Lifecycle (source : PgListenSource) : Prop :=
  source.connections.length ≤ 1 ∧
    (source.AtRest →
      (source.connections ≠ [] ↔ 0 < source.subscriberCount ∧ source.failed = false))

/-- A client connects only when none is being closed, is listened to only when someone is there
to hear or to close it, and always can be listened to. -/
def Careful (source : PgListenSource) : ListenEvent → Prop
  | .clientConnected true => source.closing = []
  | .listened true => 0 < source.subscriberCount ∨ 0 < source.returning
  | .listened false => False
  | _ => True

/-! ## What holds between careful steps -/

/-- The connection that an attempt has made so far. -/
def attemptConnections (source : PgListenSource) : List Nat :=
  match source.attempt with
  | some (.listening client) => [client]
  | _ => []

/-- The connections that an attempt, the source or a `close` still has in hand. -/
def inHand (source : PgListenSource) : List Nat :=
  source.attemptConnections ++ source.client.toList ++ source.closing.map Prod.fst

structure Kept (source : PgListenSource) : Prop where
  inHand : source.connections = source.inHand
  single : source.connections.length ≤ 1
  attempting : source.attempt ≠ none → source.client = none ∧ source.connectPromise = true
  promise : source.attempt = none → source.connectPromise = source.client.isSome
  served : 0 < source.subscriberCount →
    source.attempt ≠ none ∨ source.client ≠ none ∨ source.failed = true
  healthy : source.client ≠ none → source.failed = false
  watched : source.client ≠ none → 0 < source.subscriberCount ∨ 0 < source.returning

theorem kept_new : Kept new where
  inHand := rfl
  single := Nat.zero_le _
  attempting := fun started => absurd rfl started
  promise := fun _ => rfl
  served := nofun
  healthy := fun client => absurd rfl client
  watched := fun client => absurd rfl client

variable {source : PgListenSource}

theorem Kept.lifecycle (kept : Kept source) : source.Lifecycle := by
  refine ⟨kept.single, fun rest => ?_⟩
  obtain ⟨attempt, closing, returning⟩ := rest
  have connections : source.connections = source.client.toList := by
    rw [kept.inHand]
    simp [PgListenSource.inHand, attemptConnections, attempt, closing]
  cases client : source.client with
  | none =>
      rw [connections, client]
      refine iff_of_false (fun some => some rfl) (fun both => ?_)
      have served := kept.served both.1
      simp [attempt, client, both.2] at served
  | some other =>
      have has : source.client ≠ none := by simp [client]
      rw [connections, client]
      refine iff_of_true (by simp) ⟨?_, kept.healthy has⟩
      have watched := kept.watched has
      omega

theorem ensureConnected_of_started (kept : Kept source)
    (started : source.attempt ≠ none ∨ source.client ≠ none) : source.ensureConnected = source := by
  unfold ensureConnected
  by_cases client : source.client = none
  · have attempt : source.attempt ≠ none := started.resolve_right (not_not_intro client)
    rw [client, (kept.attempting attempt).2]
    rfl
  · exact if_pos (Option.isSome_iff_ne_none.mpr client)

theorem ensureConnected_of_idle (kept : Kept source) (attempt : source.attempt = none)
    (client : source.client = none) :
    source.ensureConnected = { source with connectPromise := true, attempt := some .making } := by
  have promise := kept.promise attempt
  unfold ensureConnected
  rw [promise, client]
  rfl

theorem Kept.ensureConnected (kept : Kept source) : Kept source.ensureConnected := by
  by_cases started : source.attempt ≠ none ∨ source.client ≠ none
  · rw [ensureConnected_of_started kept started]
    exact kept
  · push Not at started
    obtain ⟨attempt, client⟩ := started
    rw [ensureConnected_of_idle kept attempt client]
    have inHand := kept.inHand
    exact {
      inHand := by simpa [PgListenSource.inHand, attemptConnections, attempt] using inHand
      single := kept.single
      attempting := fun _ => ⟨client, rfl⟩
      promise := nofun
      served := fun _ => Or.inl nofun
      healthy := fun has => absurd client has
      watched := fun has => absurd client has }

theorem ensureConnected_started (kept : Kept source) :
    source.ensureConnected.attempt ≠ none ∨ source.ensureConnected.client ≠ none := by
  by_cases started : source.attempt ≠ none ∨ source.client ≠ none
  · rw [ensureConnected_of_started kept started]
    exact started
  · push Not at started
    rw [ensureConnected_of_idle kept started.1 started.2]
    exact Or.inl nofun

theorem Kept.subscribe (kept : Kept source) (filter : DetectedPatternsFilter) :
    Kept (source.subscribeDetectedPatterns filter) where
  inHand := kept.ensureConnected.inHand
  single := kept.ensureConnected.single
  attempting := kept.ensureConnected.attempting
  promise := kept.ensureConnected.promise
  served := by
    intro _
    cases ensureConnected_started kept with
    | inl attempt => exact Or.inl attempt
    | inr client => exact Or.inr (Or.inl client)
  healthy := kept.ensureConnected.healthy
  watched := by
    intro _
    left
    show 0 < (source.ensureConnected.bus.attached ++ [_]).length
    simp

theorem Kept.iteratorReturn (kept : Kept source) (id : Nat) : Kept (source.iteratorReturn id) where
  inHand := kept.inHand
  single := kept.single
  attempting := kept.attempting
  promise := kept.promise
  served := by
    intro attached
    exact kept.served (Nat.lt_of_lt_of_le attached
      (InMemorySubscriptionSource.close_attached_length_le source.bus id))
  healthy := kept.healthy
  watched := fun _ => Or.inr (Nat.succ_pos _)

theorem closeIfLast_of_attached (others : 0 < source.subscriberCount) :
    source.closeIfLast = { source with returning := source.returning - 1 } :=
  if_neg (Nat.ne_of_gt others)

theorem closeIfLast_of_no_client (client : source.client = none) :
    source.closeIfLast = { source with returning := source.returning - 1 } := by
  unfold closeIfLast close
  simp only [client, ite_self]

theorem closeIfLast_of_last (last : source.subscriberCount = 0) {client : Nat}
    (has : source.client = some client) :
    source.closeIfLast =
      { source with
        returning := source.returning - 1
        client := none
        connectPromise := false
        closing := source.closing ++ [(client, .unlistening)] } := by
  unfold closeIfLast close
  simp only [has]
  exact if_pos last

/-- While the source has its client nothing else is in hand. -/
theorem Kept.alone (kept : Kept source) {client : Nat} (has : source.client = some client) :
    source.attempt = none ∧ source.closing = [] := by
  have attempt : source.attempt = none := by
    by_contra started
    rw [(kept.attempting started).1] at has
    nomatch has
  have single := kept.single
  rw [kept.inHand] at single
  refine ⟨attempt, ?_⟩
  simpa [PgListenSource.inHand, attemptConnections, attempt, has] using single

theorem Kept.closeIfLast (kept : Kept source) : Kept source.closeIfLast := by
  by_cases others : 0 < source.subscriberCount
  · rw [closeIfLast_of_attached others]
    exact { kept with watched := fun _ => Or.inl others }
  · have last : source.subscriberCount = 0 := by omega
    cases client : source.client with
    | none =>
        rw [closeIfLast_of_no_client client]
        exact { kept with watched := fun has => absurd client has }
    | some other =>
        obtain ⟨attempt, closing⟩ := kept.alone client
        have inHand := kept.inHand
        rw [closeIfLast_of_last last client]
        exact {
          inHand := by
            simpa [PgListenSource.inHand, attemptConnections, attempt, client, closing] using inHand
          single := kept.single
          attempting := fun started => absurd attempt started
          promise := fun _ => rfl
          served := fun attached => absurd attached others
          healthy := fun has => absurd rfl has
          watched := fun has => absurd rfl has }

/-- An attempt that fails before it has a connection leaves nothing behind. -/
theorem Kept.attemptFailed (kept : Kept source) (started : source.attempt ≠ none)
    (bare : source.attemptConnections = []) : Kept source.attemptFailed where
  inHand := by
    have inHand := kept.inHand
    unfold PgListenSource.inHand at inHand ⊢
    rw [bare] at inHand
    exact inHand
  single := kept.single
  attempting := fun started => absurd rfl started
  promise := by
    intro _
    show false = source.client.isSome
    rw [(kept.attempting started).1]
    rfl
  served := fun _ => Or.inr (Or.inr rfl)
  healthy := fun has => absurd (kept.attempting started).1 has
  watched := fun has => absurd (kept.attempting started).1 has

theorem Kept.clientMade (kept : Kept source) (making : source.attempt = some .making) (ok : Bool) :
    Kept (source.clientMade ok) := by
  have started : source.attempt ≠ none := by simp [making]
  have bare : source.attemptConnections = [] := by simp [attemptConnections, making]
  cases ok with
  | false => exact kept.attemptFailed started bare
  | true =>
      have inHand := kept.inHand
      obtain ⟨client, promise⟩ := kept.attempting started
      exact {
        inHand := by
          unfold PgListenSource.inHand at inHand
          rw [bare] at inHand
          exact inHand
        single := kept.single
        attempting := fun _ => ⟨client, promise⟩
        promise := nofun
        served := fun _ => Or.inl nofun
        healthy := fun has => absurd client has
        watched := fun has => absurd client has }

theorem Kept.clientConnected (kept : Kept source) {client : Nat}
    (connecting : source.attempt = some (.connecting client)) (ok : Bool)
    (careful : source.Careful (.clientConnected ok)) : Kept (source.clientConnected client ok) := by
  have started : source.attempt ≠ none := by simp [connecting]
  have bare : source.attemptConnections = [] := by simp [attemptConnections, connecting]
  cases ok with
  | false => exact kept.attemptFailed started bare
  | true =>
      have closing : source.closing = [] := careful
      obtain ⟨noClient, promise⟩ := kept.attempting started
      have connections : source.connections = [] := by
        rw [kept.inHand]
        simp [PgListenSource.inHand, bare, noClient, closing]
      exact {
        inHand := by
          show source.connections ++ [client] = [client] ++ _ ++ _
          rw [connections]
          show [client] = [client] ++ source.client.toList ++ source.closing.map Prod.fst
          rw [noClient, closing]
          rfl
        single := by
          show (source.connections ++ [client]).length ≤ 1
          simp [connections]
        attempting := fun _ => ⟨noClient, promise⟩
        promise := nofun
        served := fun _ => Or.inl nofun
        healthy := fun has => absurd noClient has
        watched := fun has => absurd noClient has }

theorem Kept.listened (kept : Kept source) {client : Nat}
    (listening : source.attempt = some (.listening client)) (ok : Bool)
    (careful : source.Careful (.listened ok)) : Kept (source.listened client ok) := by
  cases ok with
  | false => exact careful.elim
  | true =>
      obtain ⟨noClient, promise⟩ := kept.attempting (by simp [listening])
      have inHand := kept.inHand
      exact {
        inHand := by
          show source.connections = [] ++ [client] ++ source.closing.map Prod.fst
          simpa [PgListenSource.inHand, attemptConnections, listening, noClient] using inHand
        single := kept.single
        attempting := fun started => absurd rfl started
        promise := fun _ => promise
        served := fun _ => Or.inr (Or.inl nofun)
        healthy := fun _ => rfl
        watched := fun _ => careful }

/-- A connection being closed is the only one. -/
theorem Kept.only_closing (kept : Kept source) {client : Nat} {stage : CloseStage}
    (closing : (client, stage) ∈ source.closing) :
    source.closing = [(client, stage)] ∧ source.connections = [client] ∧
      source.attemptConnections = [] ∧ source.client = none := by
  have single := kept.single
  have inHand := kept.inHand
  rw [inHand] at single
  unfold PgListenSource.inHand at single inHand
  simp only [List.length_append, List.length_map] at single
  have some := List.length_pos_of_mem closing
  have attempt : source.attemptConnections = [] := List.eq_nil_of_length_eq_zero (by omega)
  have client : source.client.toList = [] := List.eq_nil_of_length_eq_zero (by omega)
  obtain ⟨only, alone⟩ := List.length_eq_one_iff.mp (show source.closing.length = 1 by omega)
  rw [alone] at closing
  rw [← List.mem_singleton.mp closing] at alone
  refine ⟨alone, ?_, attempt, by simpa using client⟩
  rw [inHand, attempt, client, alone]
  rfl

theorem Kept.unlistened (kept : Kept source) {client : Nat}
    (closing : (client, .unlistening) ∈ source.closing) : Kept (source.unlistened client) := by
  obtain ⟨alone, -, -, -⟩ := kept.only_closing closing
  have inHand := kept.inHand
  exact {
    kept with
    inHand := by
      show source.connections = source.attemptConnections ++ source.client.toList ++
        (source.closing.erase (client, .unlistening) ++ [(client, CloseStage.ending)]).map Prod.fst
      rw [inHand]
      unfold PgListenSource.inHand
      simp [alone] }

theorem Kept.clientEnded (kept : Kept source) {client : Nat}
    (closing : (client, .ending) ∈ source.closing) : Kept (source.clientEnded client) := by
  obtain ⟨alone, connection, attempt, noClient⟩ := kept.only_closing closing
  exact {
    kept with
    inHand := by
      show source.connections.erase client = source.attemptConnections ++ source.client.toList ++
        (source.closing.erase (client, .ending)).map Prod.fst
      rw [alone, connection, attempt, noClient]
      simp
    single := by
      show (source.connections.erase client).length ≤ 1
      simp [connection] }

/-- The step function read as a relation, with the guards of each event. -/
inductive Stepped (source : PgListenSource) : ListenEvent → PgListenSource → Prop where
  | subscribe (filter : DetectedPatternsFilter) :
      Stepped source (.subscribe filter) (source.subscribeDetectedPatterns filter)
  | iteratorReturn (id : Nat) : Stepped source (.iteratorReturn id) (source.iteratorReturn id)
  | closeIfLast : Stepped source .closeIfLast source.closeIfLast
  | clientMade (ok : Bool) (making : source.attempt = some .making) :
      Stepped source (.clientMade ok) (source.clientMade ok)
  | clientConnected (client : Nat) (ok : Bool)
      (connecting : source.attempt = some (.connecting client)) :
      Stepped source (.clientConnected ok) (source.clientConnected client ok)
  | listened (client : Nat) (ok : Bool) (listening : source.attempt = some (.listening client)) :
      Stepped source (.listened ok) (source.listened client ok)
  | unlistened (client : Nat) (closing : (client, .unlistening) ∈ source.closing) :
      Stepped source (.unlistened client) (source.unlistened client)
  | clientEnded (client : Nat) (closing : (client, .ending) ∈ source.closing) :
      Stepped source (.clientEnded client) (source.clientEnded client)

theorem stepped {event : ListenEvent} {after : PgListenSource}
    (next : source.step event = some after) : Stepped source event after := by
  cases event with
  | subscribe filter =>
      cases next
      exact .subscribe filter
  | iteratorReturn id =>
      simp only [step, Option.ite_none_right_eq_some, Option.some.injEq] at next
      rw [← next.2]
      exact .iteratorReturn id
  | closeIfLast =>
      simp only [step, Option.ite_none_right_eq_some, Option.some.injEq] at next
      rw [← next.2]
      exact .closeIfLast
  | clientMade ok =>
      simp only [step] at next
      split at next
      · rename_i making
        cases next
        exact .clientMade ok making
      · nomatch next
  | clientConnected ok =>
      simp only [step] at next
      split at next
      · rename_i client connecting
        cases next
        exact .clientConnected client ok connecting
      · nomatch next
  | listened ok =>
      simp only [step] at next
      split at next
      · rename_i client listening
        cases next
        exact .listened client ok listening
      · nomatch next
  | unlistened client =>
      simp only [step, Option.ite_none_right_eq_some, Option.some.injEq] at next
      rw [← next.2]
      exact .unlistened client next.1
  | clientEnded client =>
      simp only [step, Option.ite_none_right_eq_some, Option.some.injEq] at next
      rw [← next.2]
      exact .clientEnded client next.1

theorem Kept.step (kept : Kept source) {event : ListenEvent} {after : PgListenSource}
    (careful : source.Careful event) (next : source.step event = some after) : Kept after := by
  cases stepped next with
  | subscribe filter => exact kept.subscribe filter
  | iteratorReturn id => exact kept.iteratorReturn id
  | closeIfLast => exact kept.closeIfLast
  | clientMade ok making => exact kept.clientMade making ok
  | clientConnected client ok connecting => exact kept.clientConnected connecting ok careful
  | listened client ok listening => exact kept.listened listening ok careful
  | unlistened client closing => exact kept.unlistened closing
  | clientEnded client closing => exact kept.clientEnded closing

/-! ## What a careless step leaves -/

/-- A connection that no one will end, after a failure. -/
structure Leaked (source : PgListenSource) : Prop where
  connections : source.connections ≠ []
  client : source.client = none
  closing : source.closing = []
  bare : source.attemptConnections = []
  failed : source.failed = true

theorem Leaked.not_lifecycle (leaked : Leaked source) (rest : source.AtRest) :
    ¬ source.Lifecycle := by
  intro lifecycle
  have healthy := ((lifecycle.2 rest).mp leaked.connections).2
  rw [leaked.failed] at healthy
  nomatch healthy

theorem two_connections {first : Nat} (connections : source.connections ≠ []) :
    ¬ (source.connections ++ [first]).length ≤ 1 := by
  have some := List.length_pos_of_ne_nil connections
  simp only [List.length_append, List.length_singleton]
  omega

/-- A step that is not careful breaks the promise at once or leaks a connection. -/
theorem Kept.step_careless (kept : Kept source) {event : ListenEvent} {after : PgListenSource}
    (careless : ¬ source.Careful event) (next : source.step event = some after) :
    ¬ after.Lifecycle ∨ Leaked after := by
  cases stepped next with
  | subscribe filter => exact absurd trivial careless
  | iteratorReturn id => exact absurd trivial careless
  | closeIfLast => exact absurd trivial careless
  | clientMade ok making => exact absurd trivial careless
  | unlistened client closing => exact absurd trivial careless
  | clientEnded client closing => exact absurd trivial careless
  | clientConnected client ok connecting =>
      cases ok with
      | false => exact absurd trivial careless
      | true =>
          have closing : source.closing ≠ [] := careless
          have connections : source.connections ≠ [] := by
            rw [kept.inHand]
            simp [PgListenSource.inHand, closing]
          exact Or.inl fun lifecycle => two_connections connections lifecycle.1
  | listened client ok listening =>
      have inHand := kept.inHand
      have single := kept.single
      obtain ⟨noClient, -⟩ := kept.attempting (by simp [listening])
      simp only [PgListenSource.inHand, attemptConnections, listening, noClient] at inHand
      have closing : source.closing = [] := by
        rw [inHand] at single
        simpa using single
      have connections : source.connections = [client] := by
        rw [inHand, closing]
        rfl
      cases ok with
      | false =>
          right
          exact {
            connections := by
              show source.connections ≠ []
              simp [connections]
            client := noClient
            closing
            bare := rfl
            failed := rfl }
      | true =>
          left
          intro lifecycle
          have alone : ¬ (0 < source.subscriberCount ∨ 0 < source.returning) := careless
          have rest : (source.listened client true).AtRest :=
            ⟨rfl, closing, show source.returning = 0 by omega⟩
          have has : (source.listened client true).connections ≠ [] := by
            show source.connections ≠ []
            simp [connections]
          have subscribed : 0 < source.subscriberCount := ((lifecycle.2 rest).mp has).1
          omega

theorem ensureConnected_leaked (leaked : Leaked source) : Leaked source.ensureConnected := by
  unfold ensureConnected
  split
  · exact leaked
  · split
    · exact leaked
    · exact { leaked with bare := rfl }

theorem Leaked.step (leaked : Leaked source) {event : ListenEvent} {after : PgListenSource}
    (next : source.step event = some after) : ¬ after.Lifecycle ∨ Leaked after := by
  cases stepped next with
  | subscribe filter => exact Or.inr { ensureConnected_leaked leaked with }
  | iteratorReturn id => exact Or.inr { leaked with }
  | closeIfLast =>
      rw [closeIfLast_of_no_client leaked.client]
      exact Or.inr { leaked with }
  | clientMade ok making =>
      cases ok with
      | false => exact Or.inr { leaked with bare := rfl, failed := rfl }
      | true => exact Or.inr { leaked with bare := rfl }
  | clientConnected client ok connecting =>
      cases ok with
      | false => exact Or.inr { leaked with bare := rfl, failed := rfl }
      | true => exact Or.inl fun lifecycle => two_connections leaked.connections lifecycle.1
  | listened client ok listening =>
      have bare := leaked.bare
      simp [attemptConnections, listening] at bare
  | unlistened client closing => simp [leaked.closing] at closing
  | clientEnded client closing => simp [leaked.closing] at closing

/-! ## Runs -/

theorem run_concat (events : List ListenEvent) (event : ListenEvent) :
    run (events ++ [event]) = (run events).bind (·.step event) := by
  unfold run
  rw [List.foldlM_append]
  simp

/-- Every step of a run is careful. -/
def CarefulRun (events : List ListenEvent) : Prop :=
  ∀ before event rest source, events = before ++ event :: rest → run before = some source →
    source.Careful event

/-- The lifecycle holds in every state of a run. -/
def LifecycleRun (events : List ListenEvent) : Prop :=
  ∀ before rest source, events = before ++ rest → run before = some source → source.Lifecycle

def EndsAtRest (events : List ListenEvent) : Prop :=
  ∃ source, run events = some source ∧ source.AtRest

theorem CarefulRun.before {before rest : List ListenEvent} (careful : CarefulRun (before ++ rest)) :
    CarefulRun before := by
  intro front event back source split
  exact careful front event (back ++ rest) source (by rw [split, List.append_assoc]; rfl)

theorem carefulRun_concat {events : List ListenEvent} {event : ListenEvent}
    (careful : CarefulRun events) (last : ∀ source, run events = some source → source.Careful event) :
    CarefulRun (events ++ [event]) := by
  have earlier : ∀ before other rest, events = before ++ other :: rest →
      ∀ source, run before = some source → source.Careful other :=
    fun before other rest split source => careful before other rest source split
  have each := at_each_concat_iff.mpr ⟨earlier, last⟩
  exact fun before other rest source split => each before other rest split source

theorem LifecycleRun.before {before rest : List ListenEvent}
    (lifecycle : LifecycleRun (before ++ rest)) : LifecycleRun before := by
  intro front back source split
  exact lifecycle front (back ++ rest) source (by rw [split, List.append_assoc])

theorem LifecycleRun.last {events : List ListenEvent} (lifecycle : LifecycleRun events)
    (ends : run events = some source) : source.Lifecycle :=
  lifecycle events [] source (List.append_nil events).symm ends

theorem CarefulRun.kept {events : List ListenEvent} (careful : CarefulRun events)
    (ends : run events = some source) : Kept source := by
  induction events using List.reverseRecOn generalizing source with
  | nil =>
      cases ends
      exact kept_new
  | append_singleton events event ih =>
      rw [run_concat] at ends
      obtain ⟨before, reached, next⟩ := Option.bind_eq_some_iff.mp ends
      have kept := ih careful.before reached
      exact kept.step (careful events event [] before rfl reached) next

/-- A run with a careless step breaks the promise on the way or has leaked a connection. -/
theorem leaked_of_careless {events : List ListenEvent} (careless : ¬ CarefulRun events)
    (lifecycle : LifecycleRun events) (ends : run events = some source) : Leaked source := by
  induction events using List.reverseRecOn generalizing source with
  | nil => exact absurd (fun before event rest source split => by simp at split) careless
  | append_singleton events event ih =>
      have holds := lifecycle.last ends
      rw [run_concat] at ends
      obtain ⟨before, reached, next⟩ := Option.bind_eq_some_iff.mp ends
      by_cases careful : CarefulRun events
      · have careless : ¬ before.Careful event := by
          intro last
          refine careless (carefulRun_concat careful fun other same => ?_)
          rw [← Option.some.inj (reached.symm.trans same)]
          exact last
        exact ((careful.kept reached).step_careless careless next).resolve_left (not_not_intro holds)
      · exact ((ih careful lifecycle.before reached).step next).resolve_left (not_not_intro holds)

/-- Careful runs keep the lifecycle, and of the runs that come to rest only they do. -/
theorem lifecycle_iff_careful (events : List ListenEvent) :
    (CarefulRun events → LifecycleRun events) ∧
      (EndsAtRest events → LifecycleRun events → CarefulRun events) := by
  constructor
  · intro careful before rest source split reached
    rw [split] at careful
    exact (careful.before.kept reached).lifecycle
  · intro ends lifecycle
    obtain ⟨source, reached, rest⟩ := ends
    by_contra careless
    exact (leaked_of_careless careless lifecycle reached).not_lifecycle rest (lifecycle.last reached)

/-- The only subscriber leaves while the client connects, and the client stays. -/
theorem late_client_stays :
    ¬ LifecycleRun [.subscribe ⟨none, none, none⟩, .clientMade true, .iteratorReturn 0, .closeIfLast,
      .clientConnected true, .listened true] := by
  intro lifecycle
  obtain ⟨source, reached, rest, connections, alone⟩ :
      ∃ source, run [.subscribe ⟨none, none, none⟩, .clientMade true, .iteratorReturn 0,
          .closeIfLast, .clientConnected true, .listened true] = some source ∧
        source.AtRest ∧ source.connections = [0] ∧ source.subscriberCount = 0 :=
    ⟨_, rfl, ⟨rfl, rfl, rfl⟩, rfl, rfl⟩
  have has : source.connections ≠ [] := by simp [connections]
  have subscribed := (((lifecycle.last reached).2 rest).mp has).1
  omega

end PgListenSource

end KasGraph
