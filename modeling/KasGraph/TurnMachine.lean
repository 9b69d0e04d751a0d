import Mathlib

set_option autoImplicit false

/-! Machines fed with inputs one by one. After an input a machine goes on from a new state, or
it stops with a reason and reads no further input. -/

namespace TurnMachine

variable {σ τ ι ρ ω κ : Type}

/-- What one input does to a machine. -/
inductive Turn (ρ σ : Type) where
  | next (state : σ)
  | exit (reason : ρ) (state : σ)

namespace Turn

def state : Turn ρ σ → σ
  | .next state => state
  | .exit _ state => state

/-- Whether a postcondition for each way to end holds. -/
def Satisfies (going : σ → Prop) (stopped : ρ → σ → Prop) : Turn ρ σ → Prop
  | .next state => going state
  | .exit reason state => stopped reason state

theorem Satisfies.mono {going wider : σ → Prop} {stopped more : ρ → σ → Prop} {turn : Turn ρ σ}
    (held : turn.Satisfies going stopped) (next : ∀ state, going state → wider state)
    (exit : ∀ reason state, stopped reason state → more reason state) :
    turn.Satisfies wider more := by
  cases turn with
  | next state => exact next state held
  | exit reason state => exact exit reason state held

theorem Satisfies.and {going others : σ → Prop} {stopped more : ρ → σ → Prop} {turn : Turn ρ σ}
    (first : turn.Satisfies going stopped) (second : turn.Satisfies others more) :
    turn.Satisfies (fun state => going state ∧ others state)
      (fun reason state => stopped reason state ∧ more reason state) := by
  cases turn with
  | next state => exact ⟨first, second⟩
  | exit reason state => exact ⟨first, second⟩

end Turn

variable (turn : ι → σ → Turn ρ σ) (note : ι → σ → List ω)

/-- Feed inputs until the machine stops. -/
def runEach (state : σ) : List ι → Turn ρ σ
  | [] => .next state
  | input :: rest =>
      match turn input state with
      | .next after => runEach after rest
      | .exit reason after => .exit reason after

/-- The notes of the inputs that were read, in order. -/
def noteEach (state : σ) : List ι → List ω
  | [] => []
  | input :: rest =>
      note input state ++
        match turn input state with
        | .next after => noteEach after rest
        | .exit _ _ => []

section Rules

variable {turn note}

/-- An invariant of the state and of the notes made so far. -/
theorem runEach_satisfies {going : List ω → σ → Prop} {stopped : List ω → ρ → σ → Prop}
    (each : ∀ input before state, going before state →
      (turn input state).Satisfies (going (before ++ note input state))
        (stopped (before ++ note input state)))
    {inputs : List ι} {before : List ω} {state : σ} (started : going before state) :
    (runEach turn state inputs).Satisfies (going (before ++ noteEach turn note state inputs))
      (stopped (before ++ noteEach turn note state inputs)) := by
  induction inputs generalizing before state with
  | nil =>
      simp only [runEach, noteEach, List.append_nil]
      exact started
  | cons input rest ih =>
      have stepped := each input before state started
      simp only [runEach, noteEach]
      cases taken : turn input state with
      | next after =>
          rw [taken] at stepped
          rw [← List.append_assoc]
          exact ih stepped
      | exit reason after =>
          rw [taken] at stepped
          rw [List.append_nil]
          exact stepped

/-- A machine follows another when each turn is matched by the steps its notes stand for. -/
theorem runEach_simulates {step : τ → ω → τ} {matched : σ → τ → Prop}
    {left : ρ → σ → τ → Prop}
    (each : ∀ input state other, matched state other →
      (turn input state).Satisfies (matched · ((note input state).foldl step other))
        (left · · ((note input state).foldl step other)))
    {inputs : List ι} {state : σ} {other : τ} (started : matched state other) :
    (runEach turn state inputs).Satisfies
      (matched · ((noteEach turn note state inputs).foldl step other))
      (left · · ((noteEach turn note state inputs).foldl step other)) := by
  have followed := @runEach_satisfies σ ι ρ ω turn note
    (fun before state => matched state (before.foldl step other))
    (fun before reason state => left reason state (before.foldl step other))
    (fun input before state held => by
      simp only [List.foldl_append]
      exact each input state _ held)
    inputs [] state started
  simpa using followed

/-- What is read off the notes is asked for by a prefix of the inputs. -/
theorem noteEach_prefix {read : ω → Option κ} {asked : ι → List κ}
    (each : ∀ input state, (note input state).filterMap read = asked input) (state : σ)
    (inputs : List ι) :
    (noteEach turn note state inputs).filterMap read <+: inputs.flatMap asked := by
  induction inputs generalizing state with
  | nil => exact List.nil_prefix
  | cons input rest ih =>
      simp only [noteEach, List.filterMap_append, List.flatMap_cons, each]
      apply (List.prefix_append_right_inj _).mpr
      cases turn input state with
      | next after => exact ih after
      | exit reason after => exact List.nil_prefix

end Rules

end TurnMachine
