import Mathlib.Data.List.Basic

set_option autoImplicit false

/-! A receiver of a bounded broadcast channel. A value waits for it until it is read, or until
more values wait than the channel has slots: the oldest are then gone, and the next read says
how many. -/

namespace Broadcast

variable {α : Type}

inductive TryRecvError where
  | empty
  | closed
  | lagged (skipped : Nat)
  deriving DecidableEq, Repr

structure Receiver (α : Type) where
  slots : Nat
  waiting : List α
  isOpen : Bool
  deriving DecidableEq, Repr

namespace Receiver

/-- A new receiver sees what is sent from now on. -/
def subscribe (slots : Nat) (isOpen : Bool) : Receiver α := ⟨slots, [], isOpen⟩

def send (receiver : Receiver α) (value : α) : Receiver α :=
  { receiver with waiting := receiver.waiting ++ [value] }

/-- The last sender is dropped: what waits can still be read. -/
def close (receiver : Receiver α) : Receiver α :=
  { receiver with isOpen := false }

def tryRecv (receiver : Receiver α) : Except TryRecvError α × Receiver α :=
  if receiver.slots < receiver.waiting.length then
    let skipped := receiver.waiting.length - receiver.slots
    (.error (.lagged skipped), { receiver with waiting := receiver.waiting.drop skipped })
  else
    match receiver.waiting with
    | value :: rest => (.ok value, { receiver with waiting := rest })
    | [] => (.error (if receiver.isOpen then .empty else .closed), receiver)

variable {receiver : Receiver α}

theorem tryRecv_of_behind (behind : receiver.slots < receiver.waiting.length) :
    receiver.tryRecv = (.error (.lagged (receiver.waiting.length - receiver.slots)),
      { receiver with
        waiting := receiver.waiting.drop (receiver.waiting.length - receiver.slots) }) :=
  if_pos behind

theorem tryRecv_of_cons {value : α} {rest : List α}
    (kept : receiver.waiting.length ≤ receiver.slots) (waits : receiver.waiting = value :: rest) :
    receiver.tryRecv = (.ok value, { receiver with waiting := rest }) := by
  unfold tryRecv
  rw [if_neg (Nat.not_lt.mpr kept), waits]

theorem tryRecv_of_nil (none : receiver.waiting = []) :
    receiver.tryRecv = (.error (if receiver.isOpen then .empty else .closed), receiver) := by
  unfold tryRecv
  rw [none, List.length_nil, if_neg (Nat.not_lt_zero receiver.slots)]

/-- What a read can do. -/
theorem tryRecv_cases (receiver : Receiver α) :
    (receiver.slots < receiver.waiting.length ∧
      ∃ skipped after, receiver.tryRecv = (.error (.lagged skipped), after)) ∨
    (∃ value rest, receiver.waiting = value :: rest ∧
      receiver.tryRecv = (.ok value, { receiver with waiting := rest })) ∨
    (receiver.waiting = [] ∧
      receiver.tryRecv = (.error (if receiver.isOpen then .empty else .closed), receiver)) := by
  by_cases behind : receiver.slots < receiver.waiting.length
  · exact .inl ⟨behind, _, _, tryRecv_of_behind behind⟩
  · cases waits : receiver.waiting with
    | nil => exact .inr (.inr ⟨rfl, tryRecv_of_nil waits⟩)
    | cons value rest =>
        exact .inr (.inl ⟨value, rest, rfl, tryRecv_of_cons (Nat.not_lt.mp behind) waits⟩)

end Receiver

/-! ## What a receiver has been handed -/

/-- Of the values sent since it subscribed, all that do not wait any more were looked at in
order, and those the predicate accepts were received. -/
def Delivers (accepts : α → Bool) (sent : List α) (receiver : Receiver α) (received : List α) :
    Prop :=
  ∃ read, sent = read ++ receiver.waiting ∧ received = read.filter accepts

namespace Delivers

variable {accepts : α → Bool} {sent received : List α} {receiver : Receiver α}

theorem subscribe (slots : Nat) (isOpen : Bool) :
    Delivers accepts [] (.subscribe slots isOpen) [] := ⟨[], rfl, rfl⟩

theorem send (delivers : Delivers accepts sent receiver received) (value : α) :
    Delivers accepts (sent ++ [value]) (receiver.send value) received := by
  obtain ⟨read, split, rfl⟩ := delivers
  refine ⟨read, ?_, rfl⟩
  rw [split, List.append_assoc]
  rfl

theorem close (delivers : Delivers accepts sent receiver received) :
    Delivers accepts sent receiver.close received := delivers

variable {value : α} {rest : List α}

theorem accept (delivers : Delivers accepts sent receiver received)
    (waits : receiver.waiting = value :: rest) (accepted : accepts value = true) :
    Delivers accepts sent { receiver with waiting := rest } (received ++ [value]) := by
  obtain ⟨read, split, rfl⟩ := delivers
  refine ⟨read ++ [value], ?_, ?_⟩
  · rw [split, waits, List.append_cons]
  · rw [List.filter_append, List.filter_cons_of_pos accepted, List.filter_nil]

theorem reject (delivers : Delivers accepts sent receiver received)
    (waits : receiver.waiting = value :: rest) (rejected : ¬ accepts value = true) :
    Delivers accepts sent { receiver with waiting := rest } received := by
  obtain ⟨read, split, rfl⟩ := delivers
  refine ⟨read ++ [value], ?_, ?_⟩
  · rw [split, waits, List.append_cons]
  · rw [List.filter_append, List.filter_cons_of_neg rejected, List.filter_nil, List.append_nil]

/-- Once nothing waits, all that the predicate accepts was received. -/
theorem drained (delivers : Delivers accepts sent receiver received)
    (none : receiver.waiting = []) : received = sent.filter accepts := by
  obtain ⟨read, split, rfl⟩ := delivers
  rw [split, none, List.append_nil]

end Delivers

end Broadcast
