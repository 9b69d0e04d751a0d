import KasGraph.TextLines
import KasGraph.WireNotifications

set_option autoImplicit false

/-! Text frames of the notification stream. A frame of several lines is read by another path
than a frame of one; a batch equals its lines sent apart except where that path is stricter. -/

namespace KasGraph

open Json (FloatText Value)
open TextLines (lines messages nonBlank trim)

/-! ## Reading a frame -/

section Reading

variable (upstream : Upstream) (fromStr : String → Except String Value) (floats : FloatText)

/-- One message, as JSON by `serde_json::from_str`. -/
def readMessage (servedBy text : String) : Except RpcError ParsedNotification := do
  let value ← (fromStr text).mapError RpcError.malformedResponse
  parseChainNotificationEnvelope floats value servedBy

def parseNotificationsJsonl (jsonl servedBy : String) : Except RpcError (List ChainNotification) :=
  (messages jsonl.toList).mapM fun trimmed => do
    let value ← (fromStr (String.ofList trimmed)).mapError RpcError.malformedResponse
    parseChainNotification floats value servedBy

def deliverMessage (servedBy : String) (client : MultiRpcClient) :
    Except RpcError ParsedNotification → Except RpcError (List ChainNotification) × MultiRpcClient
  | .error err => (.error err, client)
  | .ok (.ready notification) => (.ok [notification], client)
  | .ok (.virtualChainByHashes removed added) =>
      match client.fetchBlocks upstream added with
      | (.error err, client) => (.error err, client)
      | (.ok blocks, client) => (.ok [.virtualChainChanged removed blocks], client)
  | .ok .subscriptionAck => (.ok [], client)
  | .ok (.subscriptionRejected message) =>
      (.error (.subscriptionRejected servedBy message), client)
  | .ok .ignore => (.ok [], client)

def parseWsMessage (client : MultiRpcClient) (text servedBy : String) :
    Except RpcError (List ChainNotification) × MultiRpcClient :=
  let trimmed := trim text.toList
  if trimmed.isEmpty then
    (.ok [], client)
  else if (lines trimmed).length > 1 then
    (parseNotificationsJsonl fromStr floats (String.ofList trimmed) servedBy, client)
  else
    deliverMessage upstream servedBy client
      (readMessage fromStr floats servedBy (String.ofList trimmed))

/-- Frames received one after another, up to the first that fails. -/
def parseWsMessages (servedBy : String) (client : MultiRpcClient) :
    List String → Except RpcError (List ChainNotification) × MultiRpcClient
  | [] => (.ok [], client)
  | text :: rest =>
      match parseWsMessage upstream fromStr floats client text servedBy with
      | (.error err, client) => (.error err, client)
      | (.ok first, client) =>
          match parseWsMessages servedBy client rest with
          | (.error err, client) => (.error err, client)
          | (.ok later, client) => (.ok (first ++ later), client)

end Reading

/-- The non-blank lines of a text. -/
def nonBlankLines (text : String) : List String :=
  ((lines text.toList).filter fun line => !(trim line).isEmpty).map String.ofList

/-! ## Messages one after another -/

section Delivery

variable {upstream : Upstream} {servedBy : String}

/-- Messages delivered one after another, up to the first that fails. -/
def deliverMessages (upstream : Upstream) (servedBy : String) (client : MultiRpcClient) :
    List (Except RpcError ParsedNotification) →
      Except RpcError (List ChainNotification) × MultiRpcClient
  | [] => (.ok [], client)
  | reading :: rest =>
      match deliverMessage upstream servedBy client reading with
      | (.error err, client) => (.error err, client)
      | (.ok first, client) =>
          match deliverMessages upstream servedBy client rest with
          | (.error err, client) => (.error err, client)
          | (.ok later, client) => (.ok (first ++ later), client)

/-- The message carries a whole notification. -/
def IsReady (reading : Except RpcError ParsedNotification) : Prop :=
  ∃ notification, reading = .ok (.ready notification)

/-- The message fails whatever the endpoints answer. -/
def IsRefused (reading : Except RpcError ParsedNotification) : Prop :=
  (∃ err, reading = .error err) ∨ ∃ message, reading = .ok (.subscriptionRejected message)

/-- The hashes whose blocks have to be asked for. -/
def askedHashes : Except RpcError ParsedNotification → List String
  | .ok (.virtualChainByHashes _ added) => added
  | _ => []

theorem fetchBlocks_append_isOk (client : MultiRpcClient) (front back : List String) :
    (client.fetchBlocks upstream (front ++ back)).1.isOk =
      ((client.fetchBlocks upstream front).1.isOk &&
        ((client.fetchBlocks upstream front).2.fetchBlocks upstream back).1.isOk) := by
  induction front generalizing client with
  | nil => rfl
  | cons hash rest ih =>
      rw [List.cons_append, MultiRpcClient.fetchBlocks, MultiRpcClient.fetchBlocks]
      obtain ⟨answer, after⟩ := client.fetchBlock upstream hash
      cases answer with
      | error err => rfl
      | ok block =>
          have later := ih after
          revert later
          dsimp only
          obtain ⟨joined, _⟩ := after.fetchBlocks upstream (rest ++ back)
          obtain ⟨others, final⟩ := after.fetchBlocks upstream rest
          cases joined <;> cases others <;> exact id

/-- A message fails when it is refused or a block it asks for is. -/
theorem deliverMessage_isOk (client : MultiRpcClient)
    (reading : Except RpcError ParsedNotification) :
    (deliverMessage upstream servedBy client reading).1.isOk = true ↔
      ¬ IsRefused reading ∧ (client.fetchBlocks upstream (askedHashes reading)).1.isOk = true := by
  cases reading with
  | error err =>
      exact iff_of_false Bool.false_ne_true fun kept => kept.1 (.inl ⟨err, rfl⟩)
  | ok parsed =>
      have refused : IsRefused (.ok parsed) ↔
          ∃ message, parsed = .subscriptionRejected message := by
        simp [IsRefused]
      rw [refused]
      cases parsed with
      | subscriptionRejected message =>
          exact iff_of_false Bool.false_ne_true fun kept => kept.1 ⟨message, rfl⟩
      | virtualChainByHashes removed added =>
          rw [deliverMessage, askedHashes]
          obtain ⟨answer, after⟩ := client.fetchBlocks upstream added
          cases answer <;> simp [Except.isOk, Except.toBool]
      | ready _ => exact iff_of_true rfl ⟨by simp, rfl⟩
      | subscriptionAck => exact iff_of_true rfl ⟨by simp, rfl⟩
      | ignore => exact iff_of_true rfl ⟨by simp, rfl⟩

theorem deliverMessage_client (client : MultiRpcClient)
    (reading : Except RpcError ParsedNotification) :
    (deliverMessage upstream servedBy client reading).2 =
      (client.fetchBlocks upstream (askedHashes reading)).2 := by
  cases reading with
  | error err => rfl
  | ok parsed =>
      cases parsed with
      | virtualChainByHashes removed added =>
          rw [deliverMessage, askedHashes]
          obtain ⟨answer, after⟩ := client.fetchBlocks upstream added
          cases answer <;> rfl
      | _ => rfl

theorem deliverMessages_cons_isOk (client : MultiRpcClient)
    (reading : Except RpcError ParsedNotification)
    (rest : List (Except RpcError ParsedNotification)) :
    (deliverMessages upstream servedBy client (reading :: rest)).1.isOk =
      ((deliverMessage upstream servedBy client reading).1.isOk &&
        (deliverMessages upstream servedBy
          (deliverMessage upstream servedBy client reading).2 rest).1.isOk) := by
  rw [deliverMessages]
  obtain ⟨answer, after⟩ := deliverMessage upstream servedBy client reading
  cases answer with
  | error err => rfl
  | ok first =>
      dsimp only
      obtain ⟨others, final⟩ := deliverMessages upstream servedBy after rest
      cases others <;> rfl

/-- Messages fail when one of them is refused or a block they ask for is. -/
theorem deliverMessages_isOk (client : MultiRpcClient)
    (readings : List (Except RpcError ParsedNotification)) :
    (deliverMessages upstream servedBy client readings).1.isOk = true ↔
      (∀ reading ∈ readings, ¬ IsRefused reading) ∧
        (client.fetchBlocks upstream (readings.flatMap askedHashes)).1.isOk = true := by
  induction readings generalizing client with
  | nil => exact iff_of_true rfl ⟨fun _ none => absurd none List.not_mem_nil, rfl⟩
  | cons reading rest ih =>
      rw [deliverMessages_cons_isOk, Bool.and_eq_true, deliverMessage_isOk, ih,
        deliverMessage_client, List.flatMap_cons, fetchBlocks_append_isOk, Bool.and_eq_true,
        List.forall_mem_cons]
      exact and_and_and_comm

/-! ## A batch of messages -/

/-- What a batch takes of its messages. -/
def completeMessages (servedBy : String) (readings : List (Except RpcError ParsedNotification)) :
    Except RpcError (List ChainNotification) :=
  readings.mapM fun reading => reading >>= ParsedNotification.complete servedBy

theorem complete_isOk (reading : Except RpcError ParsedNotification) :
    (reading >>= ParsedNotification.complete servedBy).isOk = true ↔ IsReady reading := by
  constructor
  · intro complete
    cases reading with
    | error err => exact absurd complete Bool.false_ne_true
    | ok parsed =>
        cases parsed with
        | ready notification => exact ⟨notification, rfl⟩
        | _ => exact absurd complete Bool.false_ne_true
  · rintro ⟨notification, rfl⟩
    rfl

theorem completeMessages_cons_isOk (reading : Except RpcError ParsedNotification)
    (rest : List (Except RpcError ParsedNotification)) :
    (completeMessages servedBy (reading :: rest)).isOk =
      ((reading >>= ParsedNotification.complete servedBy).isOk &&
        (completeMessages servedBy rest).isOk) := by
  rw [completeMessages, List.mapM_cons, ← completeMessages]
  cases reading >>= ParsedNotification.complete servedBy with
  | error err => rfl
  | ok notification =>
      cases completeMessages servedBy rest <;> rfl

theorem completeMessages_isOk (readings : List (Except RpcError ParsedNotification)) :
    (completeMessages servedBy readings).isOk = true ↔ ∀ reading ∈ readings, IsReady reading := by
  induction readings with
  | nil => exact iff_of_true rfl fun _ none => absurd none List.not_mem_nil
  | cons reading rest ih =>
      rw [completeMessages_cons_isOk, Bool.and_eq_true, complete_isOk, ih, List.forall_mem_cons]

/-- Whole notifications are read alike by both paths. -/
theorem completeMessages_of_ready (client : MultiRpcClient)
    {readings : List (Except RpcError ParsedNotification)}
    (ready : ∀ reading ∈ readings, IsReady reading) :
    completeMessages servedBy readings = (deliverMessages upstream servedBy client readings).1 := by
  induction readings generalizing client with
  | nil => rfl
  | cons reading rest ih =>
      obtain ⟨notification, rfl⟩ := ready reading (List.mem_cons_self ..)
      have later := ih client fun reading member => ready reading (List.mem_cons_of_mem _ member)
      rw [completeMessages, List.mapM_cons, ← completeMessages, later, deliverMessages,
        deliverMessage]
      dsimp only
      obtain ⟨others, final⟩ := deliverMessages upstream servedBy client rest
      cases others <;> rfl

/-- A batch gives what its messages give apart exactly when all of them are whole
notifications or they fail apart as well. -/
theorem completeMessages_eq_iff (client : MultiRpcClient)
    (readings : List (Except RpcError ParsedNotification)) :
    (completeMessages servedBy readings).toOption =
        (deliverMessages upstream servedBy client readings).1.toOption ↔
      (∀ reading ∈ readings, IsReady reading) ∨ (∃ reading ∈ readings, IsRefused reading) ∨
        (client.fetchBlocks upstream (readings.flatMap askedHashes)).1.isOk = false := by
  by_cases ready : ∀ reading ∈ readings, IsReady reading
  · rw [completeMessages_of_ready client ready]
    exact iff_of_true rfl (.inl ready)
  · have fails : (completeMessages servedBy readings).toOption = none := by
      have failed := mt (@completeMessages_isOk servedBy readings).mp ready
      cases result : completeMessages servedBy readings with
      | error err => rfl
      | ok notifications =>
          rw [result] at failed
          exact absurd rfl failed
    have apart : none = (deliverMessages upstream servedBy client readings).1.toOption ↔
        ¬ (deliverMessages upstream servedBy client readings).1.isOk = true := by
      cases (deliverMessages upstream servedBy client readings).1 with
      | error err => exact iff_of_true rfl Bool.false_ne_true
      | ok notifications => exact iff_of_false (Option.some_ne_none _).symm fun kept => kept rfl
    rw [fails, apart, deliverMessages_isOk, not_and_or, Bool.not_eq_true, or_iff_right ready]
    simp only [not_forall, not_not, exists_prop]

end Delivery

/-! ## Frames and their messages -/

section Frames

variable (upstream : Upstream) (fromStr : String → Except String Value) (floats : FloatText)

/-- The messages of a text, each read by itself. -/
def readMessages (servedBy text : String) : List (Except RpcError ParsedNotification) :=
  (messages text.toList).map fun trimmed =>
    readMessage fromStr floats servedBy (String.ofList trimmed)

theorem parseNotificationsJsonl_eq (jsonl servedBy : String) :
    parseNotificationsJsonl fromStr floats jsonl servedBy =
      completeMessages servedBy (readMessages fromStr floats servedBy jsonl) := by
  rw [completeMessages, readMessages, List.mapM_map]
  have same : ∀ trimmed : List Char,
      (readMessage fromStr floats servedBy (String.ofList trimmed) >>=
        ParsedNotification.complete servedBy) =
      (fromStr (String.ofList trimmed)).mapError RpcError.malformedResponse >>=
        fun value => parseChainNotification floats value servedBy :=
    fun trimmed => bind_assoc _ _ _
  exact congrArg (fun read => (messages jsonl.toList).mapM read) (funext same).symm

theorem deliverMessages_singleton (servedBy : String) (client : MultiRpcClient)
    (reading : Except RpcError ParsedNotification) :
    deliverMessages upstream servedBy client [reading] =
      deliverMessage upstream servedBy client reading := by
  rw [deliverMessages]
  obtain ⟨answer, after⟩ := deliverMessage upstream servedBy client reading
  cases answer with
  | error err => rfl
  | ok notifications =>
      dsimp only [deliverMessages]
      rw [List.append_nil]

/-- A frame of one line delivers its message. -/
theorem parseWsMessage_line (client : MultiRpcClient) (text servedBy : String)
    (shown : (trim text.toList).isEmpty = false) (single : (lines (trim text.toList)).length ≤ 1) :
    parseWsMessage upstream fromStr floats client text servedBy =
      deliverMessage upstream servedBy client
        (readMessage fromStr floats servedBy (String.ofList (trim text.toList))) := by
  rw [parseWsMessage, shown, if_neg Bool.false_ne_true, if_neg (Nat.not_lt.mpr single)]

theorem parseWsMessage_single (client : MultiRpcClient) (text servedBy : String)
    (single : (lines (trim text.toList)).length ≤ 1) :
    parseWsMessage upstream fromStr floats client text servedBy =
      deliverMessages upstream servedBy client (readMessages fromStr floats servedBy text) := by
  have held := TextLines.messages_of_single single
  rw [TextLines.messages_trim, nonBlank, List.map_singleton, TextLines.trim_idempotent] at held
  rw [readMessages, held]
  cases shown : (trim text.toList).isEmpty with
  | true =>
      rw [parseWsMessage, List.isEmpty_iff.mp shown]
      rfl
  | false =>
      rw [parseWsMessage_line upstream fromStr floats client text servedBy shown single,
        List.filter_cons_of_pos (by rw [shown]; rfl)]
      exact (deliverMessages_singleton upstream servedBy client _).symm

theorem parseWsMessage_batch (client : MultiRpcClient) (text servedBy : String)
    (batch : (lines (trim text.toList)).length > 1) :
    parseWsMessage upstream fromStr floats client text servedBy =
      (completeMessages servedBy (readMessages fromStr floats servedBy text), client) := by
  have shown : (trim text.toList).isEmpty = false := by
    cases shape : trim text.toList with
    | nil =>
        rw [shape] at batch
        exact absurd batch (by decide)
    | cons c rest => rfl
  rw [parseWsMessage, shown, if_neg Bool.false_ne_true, if_pos batch, parseNotificationsJsonl_eq,
    readMessages, readMessages, String.toList_ofList, TextLines.messages_trim]

theorem parseWsMessages_lines (servedBy : String) (client : MultiRpcClient)
    {pieces : List (List Char)} (single : ∀ line ∈ pieces, (lines (trim line)).length ≤ 1) :
    parseWsMessages upstream fromStr floats servedBy client
        ((pieces.filter fun line => !(trim line).isEmpty).map String.ofList) =
      deliverMessages upstream servedBy client ((nonBlank pieces).map fun trimmed =>
        readMessage fromStr floats servedBy (String.ofList trimmed)) := by
  induction pieces generalizing client with
  | nil => rfl
  | cons line rest ih =>
      have later := fun client => ih client fun line member =>
        single line (List.mem_cons_of_mem _ member)
      rw [nonBlank, List.map_cons]
      cases shown : (trim line).isEmpty with
      | true =>
          rw [List.filter_cons_of_neg (by rw [shown]; decide),
            List.filter_cons_of_neg (by rw [shown]; decide)]
          exact later client
      | false =>
          rw [List.filter_cons_of_pos (by rw [shown]; rfl),
            List.filter_cons_of_pos (by rw [shown]; rfl), List.map_cons, List.map_cons,
            parseWsMessages, deliverMessages, ← nonBlank]
          have alone := parseWsMessage_line upstream fromStr floats client (String.ofList line)
            servedBy
          rw [String.toList_ofList] at alone
          rw [alone shown (single line (List.mem_cons_self ..))]
          simp only [later]

/-- The lines of a text sent apart deliver its messages one after another. -/
theorem parseWsMessages_nonBlankLines (client : MultiRpcClient) (text servedBy : String) :
    parseWsMessages upstream fromStr floats servedBy client (nonBlankLines text) =
      deliverMessages upstream servedBy client (readMessages fromStr floats servedBy text) :=
  parseWsMessages_lines upstream fromStr floats servedBy client fun _ listed =>
    TextLines.length_lines_trim listed

/-- A frame gives what its lines give sent apart exactly when it has one line, all its messages
are whole notifications, or one of them fails apart as well: it is refused, or a block that is
named by hash alone is not served. -/
theorem frame_equals_lines_iff (client : MultiRpcClient) (text servedBy : String) :
    (parseWsMessage upstream fromStr floats client text servedBy).1.toOption =
        (parseWsMessages upstream fromStr floats servedBy client
          (nonBlankLines text)).1.toOption ↔
      (lines (trim text.toList)).length ≤ 1 ∨
        (∀ reading ∈ readMessages fromStr floats servedBy text, IsReady reading) ∨
        (∃ reading ∈ readMessages fromStr floats servedBy text, IsRefused reading) ∨
        (client.fetchBlocks upstream
          ((readMessages fromStr floats servedBy text).flatMap askedHashes)).1.isOk = false := by
  rw [parseWsMessages_nonBlankLines]
  by_cases single : (lines (trim text.toList)).length ≤ 1
  · rw [parseWsMessage_single upstream fromStr floats client text servedBy single]
    exact iff_of_true rfl (.inl single)
  · rw [parseWsMessage_batch upstream fromStr floats client text servedBy (Nat.not_le.mp single),
      or_iff_right single]
    exact completeMessages_eq_iff client _

end Frames

/-- An acknowledgement and a notification, as lines. -/
def ackLine : String := "\x7b\"id\":1,\"result\":\x7b\x7d\x7d"

def recoveryLine : String :=
  "\x7b\"kind\":\"RecoveryRequired\",\"fromDaaScore\":1,\"toDaaScore\":2\x7d"

/-- The values of the two lines. -/
def sampleFromStr (text : String) : Except String Value :=
  if text = ackLine then
    .ok (.object [("id", .number (.posInt 1)), ("result", .object [])])
  else if text = recoveryLine then
    .ok (.object [("fromDaaScore", .number (.posInt 1)), ("kind", .string "RecoveryRequired"),
      ("toDaaScore", .number (.posInt 2))])
  else
    .error "expected value"

/-- An endpoint that serves nothing, and its client. -/
def idleUpstream : Upstream where
  virtualChainFromBlock _ endpoint _ := .error (.transport endpoint.url "closed")
  getBlock _ endpoint _ := .error (.transport endpoint.url "closed")

def idleClient : MultiRpcClient where
  config := { primary := ⟨"primary", "http://node"⟩, backups := [] }
  health := ∅
  auditLog := []
  nextBackupIndex := 0
  asked := 0

/-- An acknowledgement is passed over in a frame of its own and fails the batch it is in. -/
theorem acknowledgement_fails_batch :
    ¬ ∀ (upstream : Upstream) (fromStr : String → Except String Value) (floats : FloatText)
        (client : MultiRpcClient) (text servedBy : String),
      (parseWsMessage upstream fromStr floats client text servedBy).1.toOption =
        (parseWsMessages upstream fromStr floats servedBy client
          (nonBlankLines text)).1.toOption := by
  intro always
  have same := always idleUpstream sampleFromStr (fun _ => "0") idleClient
    (ackLine ++ "\n" ++ recoveryLine) "node"
  have lines : nonBlankLines (ackLine ++ "\n" ++ recoveryLine) = [ackLine, recoveryLine] := by
    decide +kernel
  rw [lines] at same
  have batch : (parseWsMessage idleUpstream sampleFromStr (fun _ => "0") idleClient
      (ackLine ++ "\n" ++ recoveryLine) "node").1.toOption = none := by
    decide +kernel
  have apart : (parseWsMessages idleUpstream sampleFromStr (fun _ => "0") "node" idleClient
      [ackLine, recoveryLine]).1.toOption =
        some [.recoveryRequired 1 2 "notification-stream"] := by
    decide +kernel
  rw [batch, apart] at same
  cases same

end KasGraph
