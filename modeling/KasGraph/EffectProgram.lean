import Mathlib

set_option autoImplicit false

/-! Programs over atomic operations. A program names each operation it performs
and continues with the answer, so one program can be run on a state, traced, or
confined to the operations it may perform. -/

namespace EffectProgram

/-- Atomic operations, each with the type of its answer. -/
structure Signature where
  Op : Type
  Reply : Op → Type

/-- A finite program: it returns, stops with a reason, or performs one
operation and goes on with the answer. -/
inductive Program (S : Signature) (ε α : Type) : Type where
  | done (value : α) : Program S ε α
  | fail (reason : ε) : Program S ε α
  | call (op : S.Op) (next : S.Reply op → Program S ε α) : Program S ε α

variable {S : Signature} {ε α β γ σ τ ι : Type}

namespace Program

def bind (program : Program S ε α) (rest : α → Program S ε β) : Program S ε β :=
  match program with
  | .done value => rest value
  | .fail reason => .fail reason
  | .call op next => .call op fun reply => (next reply).bind rest

instance : Monad (Program S ε) where
  pure := .done
  bind := .bind

theorem bind_done (program : Program S ε α) : program.bind .done = program := by
  induction program with
  | done value => rfl
  | fail reason => rfl
  | call op next ih => simp only [bind, ih]

theorem bind_assoc (program : Program S ε α) (first : α → Program S ε β)
    (second : β → Program S ε γ) :
    (program.bind first).bind second = program.bind fun value => (first value).bind second := by
  induction program with
  | done value => rfl
  | fail reason => rfl
  | call op next ih => simp only [bind, ih]

instance : LawfulMonad (Program S ε) :=
  LawfulMonad.mk' (Program S ε) bind_done (fun _ _ => rfl) bind_assoc

/-- Perform one operation and return its answer. -/
def perform (op : S.Op) : Program S ε (S.Reply op) := .call op .done

end Program

/-- The meaning of each operation on a state: an answer or an error, and the
state it leaves. -/
abbrev Semantics (S : Signature) (ε σ : Type) :=
  (op : S.Op) → σ → Except ε (S.Reply op) × σ

/-- Run a program. It stops at the first operation that fails, with the state
that the operations before it left. -/
def run (exec : Semantics S ε σ) : Program S ε α → σ → Except ε α × σ
  | .done value, state => (.ok value, state)
  | .fail reason, state => (.error reason, state)
  | .call op next, state =>
      match exec op state with
      | (.ok reply, after) => run exec (next reply) after
      | (.error reason, after) => (.error reason, after)

/-- The operations a run performs, in order, the failing one included. -/
def trace (exec : Semantics S ε σ) : Program S ε α → σ → List S.Op
  | .done _, _ => []
  | .fail _, _ => []
  | .call op next, state =>
      op :: match exec op state with
        | (.ok reply, after) => trace exec (next reply) after
        | (.error _, _) => []

section Running

variable (exec : Semantics S ε σ)

@[simp] theorem run_pure (value : α) (state : σ) :
    run exec (pure value : Program S ε α) state = (.ok value, state) := rfl

@[simp] theorem run_fail (reason : ε) (state : σ) :
    run exec (.fail reason : Program S ε α) state = (.error reason, state) := rfl

@[simp] theorem run_perform (op : S.Op) (state : σ) :
    run exec (.perform op) state = exec op state := by
  simp only [Program.perform, run]
  rcases exec op state with ⟨_ | _, _⟩ <;> rfl

theorem run_bind (program : Program S ε α) (rest : α → Program S ε β) (state : σ) :
    run exec (program >>= rest) state =
      match run exec program state with
      | (.ok value, after) => run exec (rest value) after
      | (.error reason, after) => (.error reason, after) := by
  induction program generalizing state with
  | done value => rfl
  | fail reason => rfl
  | call op next ih =>
      change run exec (.call op fun reply => next reply >>= rest) state = _
      simp only [run]
      rcases exec op state with ⟨_ | reply, after⟩
      · rfl
      · exact ih reply after

theorem run_bind_of_ok {program : Program S ε α} {state after : σ} {value : α}
    (first : run exec program state = (.ok value, after)) (rest : α → Program S ε β) :
    run exec (program >>= rest) state = run exec (rest value) after := by
  rw [run_bind, first]

/-- A sequence succeeds exactly when both parts do, the second from where the
first one ended. -/
theorem run_bind_ok_iff (program : Program S ε α) (rest : α → Program S ε β)
    (state final : σ) (result : β) :
    run exec (program >>= rest) state = (.ok result, final) ↔
      ∃ value middle, run exec program state = (.ok value, middle) ∧
        run exec (rest value) middle = (.ok result, final) := by
  rw [run_bind]
  rcases run exec program state with ⟨reason | value, middle⟩
  · simp
  · simp

@[simp] theorem trace_pure (value : α) (state : σ) :
    trace exec (pure value : Program S ε α) state = [] := rfl

@[simp] theorem trace_perform (op : S.Op) (state : σ) :
    trace exec (.perform op) state = [op] := by
  simp only [Program.perform, trace]
  rcases exec op state with ⟨_ | _, _⟩ <;> rfl

theorem trace_bind (program : Program S ε α) (rest : α → Program S ε β) (state : σ) :
    trace exec (program >>= rest) state =
      trace exec program state ++
        match run exec program state with
        | (.ok value, after) => trace exec (rest value) after
        | (.error _, _) => [] := by
  induction program generalizing state with
  | done value => rfl
  | fail reason => rfl
  | call op next ih =>
      change trace exec (.call op fun reply => next reply >>= rest) state = _
      simp only [trace, run]
      rcases exec op state with ⟨_ | reply, after⟩
      · rfl
      · exact congrArg (op :: ·) (ih reply after)

theorem trace_bind_of_ok {program : Program S ε α} {state after : σ} {value : α}
    (first : run exec program state = (.ok value, after)) (rest : α → Program S ε β) :
    trace exec (program >>= rest) state =
      trace exec program state ++ trace exec (rest value) after := by
  rw [trace_bind, first]

theorem mem_trace_bind {program : Program S ε α} {state : σ} {op : S.Op}
    (performed : op ∈ trace exec program state) (rest : α → Program S ε β) :
    op ∈ trace exec (program >>= rest) state := by
  rw [trace_bind]
  exact List.mem_append_left _ performed

theorem mem_trace_bind_of_ok {program : Program S ε α} {state after : σ} {value : α}
    (first : run exec program state = (.ok value, after)) {rest : α → Program S ε β} {op : S.Op}
    (performed : op ∈ trace exec (rest value) after) :
    op ∈ trace exec (program >>= rest) state := by
  rw [trace_bind_of_ok exec first]
  exact List.mem_append_right _ performed

end Running

/-! ## Footprints -/

/-- Whatever the answers, the program performs allowed operations only and
returns a value that satisfies `post`. -/
def Within (allowed : S.Op → Prop) (post : α → Prop) : Program S ε α → Prop
  | .done value => post value
  | .fail _ => True
  | .call op next => allowed op ∧ ∀ reply, Within allowed post (next reply)

namespace Within

variable {allowed : S.Op → Prop} {post : α → Prop}

theorem pure {value : α} (holds : post value) :
    Within allowed post (Pure.pure value : Program S ε α) := holds

theorem fail (reason : ε) : Within allowed post (.fail reason : Program S ε α) := trivial

theorem perform {op : S.Op} (permitted : allowed op) :
    Within allowed (fun _ => True) (.perform op : Program S ε (S.Reply op)) :=
  ⟨permitted, fun _ => trivial⟩

theorem bind {program : Program S ε α} {rest : α → Program S ε β} {final : β → Prop}
    (first : Within allowed post program)
    (second : ∀ value, post value → Within allowed final (rest value)) :
    Within allowed final (program >>= rest) := by
  induction program with
  | done value => exact second value first
  | fail reason => trivial
  | call op next ih => exact ⟨first.1, fun reply => ih reply (first.2 reply)⟩

theorem mono {wider : S.Op → Prop} {weaker : α → Prop} {program : Program S ε α}
    (confined : Within allowed post program) (ops : ∀ op, allowed op → wider op)
    (values : ∀ value, post value → weaker value) : Within wider weaker program := by
  induction program with
  | done value => exact values value confined
  | fail reason => trivial
  | call op next ih => exact ⟨ops op confined.1, fun reply => ih reply (confined.2 reply)⟩

theorem forM {items : List ι} {body : ι → Program S ε PUnit}
    (each : ∀ item ∈ items, Within allowed (fun _ => True) (body item)) :
    Within allowed (fun _ => True) (ForM.forM items body) := by
  induction items with
  | nil => exact pure trivial
  | cons item items ih =>
      rw [List.forM_cons]
      apply bind (each item (by simp))
      intro _ _
      exact ih fun other member => each other (List.mem_cons_of_mem _ member)

/-- Loop rule: what the loop carries satisfies the invariant throughout. -/
theorem foldlM {items : List ι} {body : β → ι → Program S ε β} {inv : β → Prop}
    (each : ∀ item ∈ items, ∀ value, inv value → Within allowed inv (body value item))
    {init : β} (initial : inv init) : Within allowed inv (List.foldlM body init items) := by
  induction items generalizing init with
  | nil => exact pure initial
  | cons item items ih =>
      rw [List.foldlM_cons]
      apply bind (each item (by simp) init initial)
      intro value held
      exact ih (fun other member => each other (List.mem_cons_of_mem _ member)) held

theorem findSomeM? {items : List ι} {body : ι → Program S ε (Option β)}
    (each : ∀ item ∈ items, Within allowed (fun _ => True) (body item)) :
    Within allowed (fun _ => True) (List.findSomeM? body items) := by
  induction items with
  | nil => exact pure trivial
  | cons item items ih =>
      rw [List.findSomeM?_cons]
      apply bind (each item (by simp))
      intro found _
      cases found with
      | some value => exact pure trivial
      | none => exact ih fun other member => each other (List.mem_cons_of_mem _ member)

end Within

section Footprints

variable (exec : Semantics S ε σ) {allowed : S.Op → Prop} {post : α → Prop}

theorem trace_within {program : Program S ε α} (confined : Within allowed post program)
    (state : σ) : ∀ op ∈ trace exec program state, allowed op := by
  induction program generalizing state with
  | done value => intro op member; cases member
  | fail reason => intro op member; cases member
  | call op next ih =>
      intro performed member
      simp only [trace] at member
      rcases List.mem_cons.mp member with rfl | member
      · exact confined.1
      · rcases performedStep : exec op state with ⟨_ | reply, after⟩
        · simp [performedStep] at member
        · rw [performedStep] at member
          exact ih reply (confined.2 reply) after performed member

/-- Induction over a successful run: a relation between the state before, the
operations performed and the state after, extended by one operation at the front. -/
theorem run_trace_induction {program : Program S ε α} (confined : Within allowed post program)
    (relates : σ → List S.Op → σ → Prop) (nil : ∀ state, relates state [] state)
    (cons : ∀ op, allowed op → ∀ state reply middle ops final,
      exec op state = (.ok reply, middle) → relates middle ops final →
      relates state (op :: ops) final)
    {state final : σ} {value : α} (success : run exec program state = (.ok value, final)) :
    relates state (trace exec program state) final := by
  induction program generalizing state with
  | done result =>
      simp only [run, Prod.mk.injEq] at success
      rw [← success.2]
      exact nil state
  | fail reason => simp [run] at success
  | call op next ih =>
      simp only [run] at success
      simp only [trace]
      rcases performed : exec op state with ⟨reason | reply, after⟩
      · simp [performed] at success
      · simp only [performed] at success
        have rest := ih reply (confined.2 reply) success
        exact cons op confined.1 state reply after _ final performed rest

/-- When each successful operation acts on a view by itself, a successful run
acts on it by the operations of its trace, in order. -/
theorem run_view_eq_foldl {program : Program S ε α} (confined : Within allowed post program)
    (view : σ → τ) (effect : S.Op → τ → τ)
    (step : ∀ op, allowed op → ∀ state reply after, exec op state = (.ok reply, after) →
      view after = effect op (view state))
    {state final : σ} {value : α} (success : run exec program state = (.ok value, final)) :
    view final = (trace exec program state).foldl (fun seen op => effect op seen) (view state) := by
  apply run_trace_induction exec confined (fun before ops after =>
    view after = ops.foldl (fun seen op => effect op seen) (view before)) _ _ success
  · intro before
    rfl
  · intro op permitted before reply middle ops after performed rest
    rw [rest, List.foldl_cons, step op permitted before reply middle performed]

end Footprints

/-! ## What a program computes -/

/-- Seen through a view, a run that succeeds returns the value and leaves the view that
`meaning` gives. -/
def Computes (exec : Semantics S ε σ) (view : σ → τ) (program : Program S ε α)
    (meaning : τ → α × τ) : Prop :=
  ∀ state value final, run exec program state = (.ok value, final) →
    (value, view final) = meaning (view state)

namespace Computes

variable {exec : Semantics S ε σ} {view : σ → τ}

theorem pure (value : α) :
    Computes exec view (Pure.pure value) fun seen => (value, seen) := by
  intro state result final success
  simp only [run_pure, Prod.mk.injEq, Except.ok.injEq] at success
  rw [← success.1, ← success.2]

/-- Sequencing, with the meaning of the whole as it is wanted. -/
theorem bind {program : Program S ε α} {rest : α → Program S ε β} {first : τ → α × τ}
    {later : α → τ → β × τ} {meaning : τ → β × τ} (begins : Computes exec view program first)
    (continues : ∀ value, Computes exec view (rest value) (later value))
    (same : ∀ seen, later (first seen).1 (first seen).2 = meaning seen) :
    Computes exec view (program >>= rest) meaning := by
  intro state result final success
  obtain ⟨value, between, ran, rested⟩ := (run_bind_ok_iff exec _ _ _ _ _).mp success
  have middle := begins state value between ran
  have last := continues value between result final rested
  rw [last, ← same, ← middle]

theorem congr {program : Program S ε α} {meaning other : τ → α × τ}
    (computes : Computes exec view program meaning) (same : ∀ seen, meaning seen = other seen) :
    Computes exec view program other := by
  intro state value final success
  rw [computes state value final success, same]

theorem forM {items : List ι} {body : ι → Program S ε PUnit} (step : τ → ι → τ)
    (each : ∀ item, Computes exec view (body item) fun seen => (⟨⟩, step seen item)) :
    Computes exec view (ForM.forM items body) fun seen => (⟨⟩, items.foldl step seen) := by
  induction items with
  | nil => exact pure _
  | cons item items ih =>
      rw [List.forM_cons]
      exact bind (each item) (fun _ => ih) fun _ => rfl

/-- A loop that carries a value and whose steps only read. -/
theorem foldlM {items : List ι} {body : β → ι → Program S ε β} (step : β → ι → τ → β)
    (each : ∀ value item,
      Computes exec view (body value item) fun seen => (step value item seen, seen)) (init : β) :
    Computes exec view (List.foldlM body init items) fun seen =>
      (items.foldl (fun value item => step value item seen) init, seen) := by
  induction items generalizing init with
  | nil => exact pure _
  | cons item items ih =>
      rw [List.foldlM_cons]
      exact bind (each init item) (fun value => ih value) fun _ => rfl

theorem ite {test : Prop} [Decidable test] {yes no : Program S ε α} {first second : τ → α × τ}
    (accepted : Computes exec view yes first) (rejected : Computes exec view no second) :
    Computes exec view (if test then yes else no) fun seen =>
      if test then first seen else second seen := by
  by_cases holds : test
  · simpa only [if_pos holds] using accepted
  · simpa only [if_neg holds] using rejected

/-- A search whose steps only read. -/
theorem findSomeM? {items : List ι} {body : ι → Program S ε (Option β)}
    (found : ι → τ → Option β)
    (each : ∀ item, Computes exec view (body item) fun seen => (found item seen, seen)) :
    Computes exec view (List.findSomeM? body items) fun seen =>
      (items.findSome? fun item => found item seen, seen) := by
  induction items with
  | nil => exact pure _
  | cons item items ih =>
      rw [List.findSomeM?_cons]
      have rest : ∀ value : Option β, Computes exec view
          (match value with
          | some value => Pure.pure (some value)
          | none => List.findSomeM? body items)
          fun seen => (value.or (items.findSome? fun item => found item seen), seen) := by
        intro value
        cases value with
        | some value => exact pure _
        | none => exact ih
      apply bind (each item) rest
      intro seen
      rw [List.findSome?_cons]
      cases found item seen <;> rfl

end Computes

/-! ## Programs that cannot fail -/

/-- From every state that satisfies the invariant the program succeeds. -/
def Succeeds (exec : Semantics S ε σ) (inv : σ → Prop) (program : Program S ε α) : Prop :=
  ∀ state, inv state → ∃ value final, run exec program state = (.ok value, final)

namespace Succeeds

variable {exec : Semantics S ε σ} {inv : σ → Prop}

theorem pure (value : α) : Succeeds exec inv (Pure.pure value) :=
  fun state _ => ⟨value, state, rfl⟩

theorem ite {test : Prop} [Decidable test] {yes no : Program S ε α}
    (accepted : Succeeds exec inv yes) (rejected : Succeeds exec inv no) :
    Succeeds exec inv (if test then yes else no) := by
  by_cases holds : test
  · simpa only [if_pos holds] using accepted
  · simpa only [if_neg holds] using rejected

section Sequences

variable (stable : ∀ op state, inv state → inv (exec op state).2)
include stable

/-- What every operation keeps, every run keeps. -/
theorem run_stable (program : Program S ε α) {state : σ} (held : inv state) :
    inv (run exec program state).2 := by
  induction program generalizing state with
  | done value => exact held
  | fail reason => exact held
  | call op next ih =>
      have kept := stable op state held
      simp only [run]
      rcases performed : exec op state with ⟨_ | reply, after⟩
      · simpa only [performed] using kept
      · rw [performed] at kept
        exact ih reply kept

theorem bind {program : Program S ε α} {rest : α → Program S ε β}
    (first : Succeeds exec inv program) (second : ∀ value, Succeeds exec inv (rest value)) :
    Succeeds exec inv (program >>= rest) := by
  intro state held
  obtain ⟨value, middle, ran⟩ := first state held
  have kept := run_stable stable program held
  rw [ran] at kept
  obtain ⟨result, final, rested⟩ := second value middle kept
  exact ⟨result, final, by rw [run_bind_of_ok exec ran, rested]⟩

theorem forM {items : List ι} {body : ι → Program S ε PUnit}
    (each : ∀ item ∈ items, Succeeds exec inv (body item)) :
    Succeeds exec inv (ForM.forM items body) := by
  induction items with
  | nil => exact pure _
  | cons item items ih =>
      rw [List.forM_cons]
      apply bind stable (each item (by simp))
      intro _
      exact ih fun other member => each other (List.mem_cons_of_mem _ member)

theorem foldlM {items : List ι} {body : β → ι → Program S ε β}
    (each : ∀ value item, Succeeds exec inv (body value item)) (init : β) :
    Succeeds exec inv (List.foldlM body init items) := by
  induction items generalizing init with
  | nil => exact pure _
  | cons item items ih =>
      rw [List.foldlM_cons]
      exact bind stable (each init item) ih

theorem findSomeM? {items : List ι} {body : ι → Program S ε (Option β)}
    (each : ∀ item, Succeeds exec inv (body item)) :
    Succeeds exec inv (List.findSomeM? body items) := by
  induction items with
  | nil => exact pure _
  | cons item items ih =>
      rw [List.findSomeM?_cons]
      apply bind stable (each item)
      intro found
      cases found with
      | some value => exact pure _
      | none => exact ih

end Sequences

end Succeeds

/-! ## The reasons a program fails with -/

/-- From every state that satisfies the invariant the program fails, if it does,
with an expected reason. -/
def FailsOnly (exec : Semantics S ε σ) (inv : σ → Prop) (expected : ε → Prop)
    (program : Program S ε α) : Prop :=
  ∀ state, inv state → ∀ reason final,
    run exec program state = (.error reason, final) → expected reason

namespace FailsOnly

variable {exec : Semantics S ε σ} {inv : σ → Prop} {expected : ε → Prop}

theorem of_succeeds {program : Program S ε α} (succeeds : Succeeds exec inv program) :
    FailsOnly exec inv expected program := by
  intro state held reason final failed
  obtain ⟨value, after, ran⟩ := succeeds state held
  rw [ran] at failed
  cases failed

theorem pure (value : α) :
    FailsOnly exec inv expected (Pure.pure value : Program S ε α) :=
  of_succeeds (Succeeds.pure value)

theorem fail {reason : ε} (known : expected reason) :
    FailsOnly exec inv expected (.fail reason : Program S ε α) := by
  intro state held other final failed
  cases failed
  exact known

theorem ite {test : Prop} [Decidable test] {yes no : Program S ε α}
    (accepted : FailsOnly exec inv expected yes) (rejected : FailsOnly exec inv expected no) :
    FailsOnly exec inv expected (if test then yes else no) := by
  by_cases holds : test
  · simpa only [if_pos holds] using accepted
  · simpa only [if_neg holds] using rejected

section Sequences

variable (stable : ∀ op state, inv state → inv (exec op state).2)
include stable

theorem bind {program : Program S ε α} {rest : α → Program S ε β}
    (first : FailsOnly exec inv expected program)
    (second : ∀ value, FailsOnly exec inv expected (rest value)) :
    FailsOnly exec inv expected (program >>= rest) := by
  intro state held reason final failed
  have kept := Succeeds.run_stable stable program held
  rw [run_bind] at failed
  cases ran : run exec program state with
  | mk answer middle =>
      rw [ran] at kept failed
      cases answer with
      | error cause =>
          cases failed
          exact first state held _ _ ran
      | ok value => exact second value middle kept reason final failed

theorem forM {items : List ι} {body : ι → Program S ε PUnit}
    (each : ∀ item ∈ items, FailsOnly exec inv expected (body item)) :
    FailsOnly exec inv expected (ForM.forM items body) := by
  induction items with
  | nil => exact pure _
  | cons item items ih =>
      rw [List.forM_cons]
      apply bind stable (each item (by simp))
      intro _
      exact ih fun other member => each other (List.mem_cons_of_mem _ member)

theorem foldlM {items : List ι} {body : β → ι → Program S ε β}
    (each : ∀ value item, FailsOnly exec inv expected (body value item)) (init : β) :
    FailsOnly exec inv expected (List.foldlM body init items) := by
  induction items generalizing init with
  | nil => exact pure _
  | cons item items ih =>
      rw [List.foldlM_cons]
      exact bind stable (each init item) ih

theorem mapM {items : List ι} {body : ι → Program S ε β}
    (each : ∀ item ∈ items, FailsOnly exec inv expected (body item)) :
    FailsOnly exec inv expected (List.mapM body items) := by
  induction items with
  | nil => exact pure _
  | cons item items ih =>
      rw [List.mapM_cons]
      apply bind stable (each item (by simp))
      intro _
      apply bind stable (ih fun other member => each other (List.mem_cons_of_mem _ member))
      intro _
      exact pure _

end Sequences

end FailsOnly

/-! ## What a program adds to a log -/

/-- Every run that succeeds appends the items to a log kept in the state. -/
def Emits {ω : Type} (exec : Semantics S ε σ) (log : σ → List ω) (items : List ω)
    (program : Program S ε α) : Prop :=
  ∀ state value final, run exec program state = (.ok value, final) → log final = log state ++ items

namespace Emits

variable {ω : Type} {exec : Semantics S ε σ} {log : σ → List ω}

theorem pure (value : α) : Emits exec log [] (Pure.pure value : Program S ε α) := by
  intro state result final ran
  cases ran
  exact (List.append_nil _).symm

theorem fail (reason : ε) (items : List ω) :
    Emits exec log items (.fail reason : Program S ε α) := by
  intro state result final ran
  cases ran

theorem ite {test : Prop} [Decidable test] {yes no : Program S ε α} {items : List ω}
    (accepted : Emits exec log items yes) (rejected : Emits exec log items no) :
    Emits exec log items (if test then yes else no) := by
  by_cases holds : test
  · simpa only [if_pos holds] using accepted
  · simpa only [if_neg holds] using rejected

theorem bind {program : Program S ε α} {rest : α → Program S ε β} {items others : List ω}
    (first : Emits exec log items program) (second : ∀ value, Emits exec log others (rest value)) :
    Emits exec log (items ++ others) (program >>= rest) := by
  intro state result final ran
  obtain ⟨value, middle, began, ended⟩ := (run_bind_ok_iff exec _ _ _ _ _).mp ran
  rw [second value middle result final ended, first state value middle began, List.append_assoc]

/-- A program that adds nothing, followed by another. -/
theorem silent {program : Program S ε α} {rest : α → Program S ε β} {items : List ω}
    (first : Emits exec log [] program) (second : ∀ value, Emits exec log items (rest value)) :
    Emits exec log items (program >>= rest) :=
  bind first second

/-- A program followed by one that adds nothing. -/
theorem andSilent {program : Program S ε α} {rest : α → Program S ε β} {items : List ω}
    (first : Emits exec log items program) (second : ∀ value, Emits exec log [] (rest value)) :
    Emits exec log items (program >>= rest) := by
  have both := bind first second
  rwa [List.append_nil] at both

theorem forM {items : List ι} {body : ι → Program S ε PUnit} {added : ι → List ω}
    (each : ∀ item ∈ items, Emits exec log (added item) (body item)) :
    Emits exec log (items.flatMap added) (ForM.forM items body) := by
  induction items with
  | nil => exact pure _
  | cons item items ih =>
      rw [List.forM_cons, List.flatMap_cons]
      apply bind (each item List.mem_cons_self)
      intro _
      exact ih fun other member => each other (List.mem_cons_of_mem _ member)

theorem forM_silent {items : List ι} {body : ι → Program S ε PUnit}
    (each : ∀ item ∈ items, Emits exec log [] (body item)) :
    Emits exec log [] (ForM.forM items body) := by
  have all := forM each
  rwa [List.flatMap_eq_nil_iff.mpr fun _ _ => rfl] at all

theorem foldlM {items : List ι} {body : β → ι → Program S ε β} {added : ι → List ω}
    (each : ∀ value, ∀ item ∈ items, Emits exec log (added item) (body value item)) (init : β) :
    Emits exec log (items.flatMap added) (List.foldlM body init items) := by
  induction items generalizing init with
  | nil => exact pure _
  | cons item items ih =>
      rw [List.foldlM_cons, List.flatMap_cons]
      apply bind (each init item List.mem_cons_self)
      intro value
      exact ih (fun value other member => each value other (List.mem_cons_of_mem _ member)) value

theorem mapM {items : List ι} {body : ι → Program S ε β} {added : ι → List ω}
    (each : ∀ item ∈ items, Emits exec log (added item) (body item)) :
    Emits exec log (items.flatMap added) (List.mapM body items) := by
  induction items with
  | nil => exact pure _
  | cons item items ih =>
      rw [List.mapM_cons, List.flatMap_cons]
      apply bind (each item List.mem_cons_self)
      intro _
      apply andSilent (ih fun other member => each other (List.mem_cons_of_mem _ member))
      intro _
      exact pure _

theorem findSomeM? {items : List ι} {body : ι → Program S ε (Option β)}
    (each : ∀ item, Emits exec log [] (body item)) :
    Emits exec log [] (List.findSomeM? body items) := by
  induction items with
  | nil => exact pure _
  | cons item items ih =>
      unfold List.findSomeM?
      apply silent (each item)
      intro found
      cases found with
      | some value => exact pure _
      | none => exact ih

end Emits

/-! ## Stopping a program -/

/-- The state a run leaves when it is stopped after a number of operations. -/
def stoppedAfter (exec : Semantics S ε σ) (stop : Nat) (program : Program S ε α) (state : σ) : σ :=
  ((trace exec program state).take stop).foldl (fun current op => (exec op current).2) state

/-- The operations of a run, one after the other, lead to where the run ends. -/
theorem foldl_trace (exec : Semantics S ε σ) (program : Program S ε α) (state : σ) :
    (trace exec program state).foldl (fun current op => (exec op current).2) state =
      (run exec program state).2 := by
  induction program generalizing state with
  | done value => rfl
  | fail reason => rfl
  | call op next ih =>
      unfold trace run
      rw [List.foldl_cons]
      rcases exec op state with ⟨_ | reply, after⟩
      · rfl
      · exact ih reply after

end EffectProgram
