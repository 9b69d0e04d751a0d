import KasGraph.EffectProgram

set_option autoImplicit false

/-! Programs that keep an invariant of the state. What an operation answers is described by a
postcondition, so what is written later can be justified by what was read before. -/

namespace EffectProgram

variable {S : Signature} {ε α β σ ι : Type}

/-- From a state with the invariant a run leaves one, also when it fails, and a value it answers
is as described. -/
def Maintains (exec : Semantics S ε σ) (inv : σ → Prop) (post : α → Prop)
    (program : Program S ε α) : Prop :=
  ∀ state, inv state → inv (run exec program state).2 ∧
    ∀ value, (run exec program state).1 = .ok value → post value

namespace Maintains

variable {exec : Semantics S ε σ} {inv : σ → Prop}

theorem pure {post : α → Prop} {value : α} (described : post value) :
    Maintains exec inv post (Pure.pure value : Program S ε α) := by
  intro state held
  refine ⟨held, ?_⟩
  intro other answered
  cases answered
  exact described

theorem fail {post : α → Prop} (reason : ε) :
    Maintains exec inv post (.fail reason : Program S ε α) := by
  intro state held
  refine ⟨held, ?_⟩
  intro value answered
  cases answered

theorem perform {op : S.Op} {post : S.Reply op → Prop}
    (each : ∀ state, inv state → inv (exec op state).2 ∧
      ∀ reply, (exec op state).1 = .ok reply → post reply) :
    Maintains exec inv post (.perform op) := by
  intro state held
  rw [run_perform]
  exact each state held

theorem bind {program : Program S ε α} {rest : α → Program S ε β} {post : α → Prop}
    {final : β → Prop} (first : Maintains exec inv post program)
    (second : ∀ value, post value → Maintains exec inv final (rest value)) :
    Maintains exec inv final (program >>= rest) := by
  intro state held
  obtain ⟨kept, described⟩ := first state held
  rw [run_bind]
  rcases ran : run exec program state with ⟨reason | value, middle⟩
  · rw [ran] at kept
    refine ⟨kept, ?_⟩
    intro other answered
    cases answered
  · rw [ran] at kept described
    exact second value (described value rfl) middle kept

theorem mono {post weaker : α → Prop} {program : Program S ε α}
    (maintains : Maintains exec inv post program) (weaken : ∀ value, post value → weaker value) :
    Maintains exec inv weaker program := by
  intro state held
  obtain ⟨kept, described⟩ := maintains state held
  exact ⟨kept, fun value answered => weaken value (described value answered)⟩

theorem ite {test : Prop} [Decidable test] {yes no : Program S ε α} {post : α → Prop}
    (first : test → Maintains exec inv post yes) (second : ¬ test → Maintains exec inv post no) :
    Maintains exec inv post (if test then yes else no) := by
  by_cases true' : test
  · rw [if_pos true']
    exact first true'
  · rw [if_neg true']
    exact second true'

theorem forM {items : List ι} {body : ι → Program S ε PUnit}
    (each : ∀ item ∈ items, Maintains exec inv (fun _ => True) (body item)) :
    Maintains exec inv (fun _ => True) (ForM.forM items body) := by
  induction items with
  | nil => exact pure trivial
  | cons item items ih =>
      rw [List.forM_cons]
      apply bind (each item List.mem_cons_self)
      intro _ _
      exact ih fun other member => each other (List.mem_cons_of_mem _ member)

/-- A fold whose accumulator is described at every step. -/
theorem foldlM {items : List ι} {body : β → ι → Program S ε β} {post : β → Prop}
    (each : ∀ value item, item ∈ items → post value → Maintains exec inv post (body value item))
    {init : β} (start : post init) : Maintains exec inv post (List.foldlM body init items) := by
  induction items generalizing init with
  | nil => exact pure start
  | cons item items ih =>
      rw [List.foldlM_cons]
      apply bind (each init item List.mem_cons_self start)
      intro value described
      exact ih (fun value other member => each value other (List.mem_cons_of_mem _ member)) described

theorem mapM {items : List ι} {body : ι → Program S ε β} {post : β → Prop}
    (each : ∀ item ∈ items, Maintains exec inv post (body item)) :
    Maintains exec inv (fun values => ∀ value ∈ values, post value) (List.mapM body items) := by
  induction items with
  | nil =>
      apply pure
      intro value member
      cases member
  | cons item items ih =>
      rw [List.mapM_cons]
      apply bind (each item List.mem_cons_self)
      intro value described
      apply bind (ih fun other member => each other (List.mem_cons_of_mem _ member))
      intro values all
      apply pure
      intro other member
      rcases List.mem_cons.mp member with rfl | later
      · exact described
      · exact all other later

/-- A program of operations that each keep the invariant. -/
theorem of_within {allowed : S.Op → Prop} {post : α → Prop} {program : Program S ε α}
    (confined : Within allowed post program)
    (each : ∀ op, allowed op → ∀ state, inv state → inv (exec op state).2) :
    Maintains exec inv post program := by
  induction program with
  | done value => exact pure confined
  | fail reason => exact fail reason
  | call op next ih =>
      obtain ⟨permitted, onward⟩ := confined
      have performed : Maintains exec inv (fun _ => True) (Program.perform op : Program S ε _) :=
        perform fun state held => ⟨each op permitted state held, fun _ _ => trivial⟩
      exact bind performed fun reply _ => ih reply (onward reply)

end Maintains

end EffectProgram
