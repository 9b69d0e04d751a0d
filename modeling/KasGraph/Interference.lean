import KasGraph.EffectProgram

set_option autoImplicit false

/-! Programs that share a state. A view is the part of the state a program depends on; what
others do beside the view cannot change what the program computes. -/

namespace EffectProgram

variable {S : Signature} {ε α β σ τ ι : Type}

/-- Every run that succeeds leaves the view alone. -/
def Keeps (exec : Semantics S ε σ) (view : σ → τ) (program : Program S ε α) : Prop :=
  ∀ state value final, run exec program state = (.ok value, final) → view final = view state

/-- A run that succeeds is repeated from every state that looks the same: there the program
answers the same and leaves a state that looks the same, or it stops with an excused reason. -/
def Mirrors (exec : Semantics S ε σ) (view : σ → τ) (excused : ε → Prop)
    (program : Program S ε α) : Prop :=
  ∀ left right, view left = view right →
    ∀ value final, run exec program left = (.ok value, final) →
      (∃ other, run exec program right = (.ok value, other) ∧ view other = view final) ∨
      ∃ reason other, run exec program right = (.error reason, other) ∧ excused reason

/-- Each allowed operation that succeeds leaves the view alone. -/
theorem Keeps.of_within {exec : Semantics S ε σ} {view : σ → τ} {allowed : S.Op → Prop}
    {post : α → Prop} {program : Program S ε α} (confined : Within allowed post program)
    (each : ∀ op, allowed op → ∀ state reply after, exec op state = (.ok reply, after) →
      view after = view state) : Keeps exec view program := by
  intro state value final ran
  apply run_trace_induction exec confined (fun before _ after => view after = view before) _ _ ran
  · intro _
    rfl
  · intro op permitted before reply middle _ after performed rest
    rw [rest, each op permitted before reply middle performed]

namespace Keeps

variable {exec : Semantics S ε σ} {view : σ → τ}

theorem pure (value : α) : Keeps exec view (Pure.pure value : Program S ε α) := by
  intro state result final ran
  cases ran
  rfl

theorem bind {program : Program S ε α} {rest : α → Program S ε β}
    (first : Keeps exec view program) (second : ∀ value, Keeps exec view (rest value)) :
    Keeps exec view (program >>= rest) := by
  intro state result final ran
  obtain ⟨value, middle, began, ended⟩ := (run_bind_ok_iff exec _ _ _ _ _).mp ran
  rw [second value middle result final ended, first state value middle began]

theorem mapM {items : List ι} {body : ι → Program S ε β}
    (each : ∀ item ∈ items, Keeps exec view (body item)) :
    Keeps exec view (List.mapM body items) := by
  induction items with
  | nil => exact pure _
  | cons item items ih =>
      rw [List.mapM_cons]
      apply bind (each item List.mem_cons_self)
      intro _
      apply bind (ih fun other member => each other (List.mem_cons_of_mem _ member))
      intro _
      exact pure _

end Keeps

namespace Mirrors

variable {exec : Semantics S ε σ} {view : σ → τ} {excused : ε → Prop}

theorem pure (value : α) : Mirrors exec view excused (Pure.pure value : Program S ε α) := by
  intro left right alike result final ran
  cases ran
  exact Or.inl ⟨right, rfl, alike.symm⟩

theorem fail (reason : ε) : Mirrors exec view excused (.fail reason : Program S ε α) := by
  intro left right alike result final ran
  cases ran

theorem bind {program : Program S ε α} {rest : α → Program S ε β}
    (first : Mirrors exec view excused program)
    (second : ∀ value, Mirrors exec view excused (rest value)) :
    Mirrors exec view excused (program >>= rest) := by
  intro left right alike result final ran
  obtain ⟨value, middle, began, ended⟩ := (run_bind_ok_iff exec _ _ _ _ _).mp ran
  rcases first left right alike value middle began with ⟨between, same, seen⟩ | stopped
  · rw [run_bind_of_ok exec same]
    exact second value middle between seen.symm result final ended
  · obtain ⟨reason, other, failed, known⟩ := stopped
    exact Or.inr ⟨reason, other, by rw [run_bind, failed], known⟩

theorem forM {items : List ι} {body : ι → Program S ε PUnit}
    (each : ∀ item ∈ items, Mirrors exec view excused (body item)) :
    Mirrors exec view excused (ForM.forM items body) := by
  induction items with
  | nil => exact pure _
  | cons item items ih =>
      rw [List.forM_cons]
      apply bind (each item List.mem_cons_self)
      intro _
      exact ih fun other member => each other (List.mem_cons_of_mem _ member)

theorem foldlM {items : List ι} {body : β → ι → Program S ε β}
    (each : ∀ value item, Mirrors exec view excused (body value item)) (init : β) :
    Mirrors exec view excused (List.foldlM body init items) := by
  induction items generalizing init with
  | nil => exact pure _
  | cons item items ih =>
      rw [List.foldlM_cons]
      exact bind (each init item) ih

/-- A program whose operations answer by the view alone. -/
theorem of_within {allowed : S.Op → Prop} {post : α → Prop} {program : Program S ε α}
    (confined : Within allowed post program)
    (each : ∀ op, allowed op → ∀ left right, view left = view right →
      (exec op left).1 = (exec op right).1 ∧ view (exec op left).2 = view (exec op right).2) :
    Mirrors exec view excused program := by
  intro left right alike
  induction program generalizing left right with
  | done value =>
      intro result final ran
      exact pure value left right alike result final ran
  | fail reason =>
      intro result final ran
      exact fail reason left right alike result final ran
  | call op next ih =>
      intro result final ran
      obtain ⟨answers, views⟩ := each op confined.1 left right alike
      simp only [run] at ran ⊢
      rcases performed : exec op left with ⟨reason | reply, after⟩
      · simp [performed] at ran
      · rcases other : exec op right with ⟨reason' | reply', after'⟩
        · simp [performed, other] at answers
        · simp only [performed, other, Except.ok.injEq] at answers views ran ⊢
          subst answers
          exact ih reply (confined.2 reply) after after' views result final ran

/-- A program without an answer that leaves the view alone and fails with excused reasons. -/
theorem of_keeps {program : Program S ε PUnit} (keeps : Keeps exec view program)
    (fails : FailsOnly exec (fun _ => True) excused program) :
    Mirrors exec view excused program := by
  intro left right alike value final ran
  have kept := keeps left value final ran
  cases elsewhere : run exec program right with
  | mk answer other =>
      cases answer with
      | error reason =>
          exact Or.inr ⟨reason, other, rfl, fails right trivial reason other elsewhere⟩
      | ok value' =>
          refine Or.inl ⟨other, rfl, ?_⟩
          rw [keeps right value' other elsewhere, kept, alike]

/-- One item among others that leave its view alone gives what it gives by itself. -/
theorem mapM_alone {body : ι → Program S ε β} {first rest : List ι} {mine : ι}
    (before : ∀ item ∈ first, Keeps exec view (body item))
    (after : ∀ item ∈ rest, Keeps exec view (body item))
    (mirrors : Mirrors exec view excused (body mine)) {left right final : σ} {values : List β}
    (alike : view left = view right)
    (ran : run exec (List.mapM body (first ++ mine :: rest)) left = (.ok values, final)) :
    ∃ value, values[first.length]? = some value ∧
      ((∃ other, run exec (body mine) right = (.ok value, other) ∧ view other = view final) ∨
        ∃ reason other, run exec (body mine) right = (.error reason, other) ∧ excused reason) := by
  induction first generalizing left values with
  | nil =>
      rw [List.nil_append, List.mapM_cons] at ran
      obtain ⟨value, middle, began, continued⟩ := (run_bind_ok_iff exec _ _ _ _ _).mp ran
      obtain ⟨others, last, ended, returned⟩ := (run_bind_ok_iff exec _ _ _ _ _).mp continued
      cases returned
      refine ⟨value, rfl, ?_⟩
      rw [Keeps.mapM after middle others final ended]
      exact mirrors left right alike value middle began
  | cons item first ih =>
      rw [List.cons_append, List.mapM_cons] at ran
      obtain ⟨value, middle, began, continued⟩ := (run_bind_ok_iff exec _ _ _ _ _).mp ran
      obtain ⟨others, last, ended, returned⟩ := (run_bind_ok_iff exec _ _ _ _ _).mp continued
      cases returned
      have kept := before item List.mem_cons_self left value middle began
      exact ih (fun other member => before other (List.mem_cons_of_mem _ member))
        (kept.trans alike) ended

end Mirrors

/-! ## What a run reads -/

/-- What is noted of the operations of a run, each in the state it is performed in. -/
def runLog {ω : Type} (exec : Semantics S ε σ) (note : S.Op → σ → List ω) :
    Program S ε α → σ → List ω
  | .done _, _ => []
  | .fail _, _ => []
  | .call op next, state =>
      note op state ++ match exec op state with
        | (.ok reply, after) => runLog exec note (next reply) after
        | (.error _, _) => []

/-- Two states that agree stay in agreement, and the answers are the same, as long as every item
noted on the way holds. -/
theorem run_agree_of_log {ω : Type} {exec : Semantics S ε σ} {note : S.Op → σ → List ω}
    {agree : σ → σ → Prop} {holds : ω → Prop}
    (each : ∀ op left right, agree left right → (∀ item ∈ note op left, holds item) →
      (exec op left).1 = (exec op right).1 ∧ agree (exec op left).2 (exec op right).2)
    (program : Program S ε α) {left right : σ} (start : agree left right)
    (noted : ∀ item ∈ runLog exec note program left, holds item) :
    (run exec program left).1 = (run exec program right).1 ∧
      agree (run exec program left).2 (run exec program right).2 := by
  induction program generalizing left right with
  | done value => exact ⟨rfl, start⟩
  | fail reason => exact ⟨rfl, start⟩
  | call op next ih =>
      simp only [runLog, List.mem_append] at noted
      obtain ⟨answers, agreed⟩ := each op left right start fun item member =>
        noted item (Or.inl member)
      rcases performed : exec op left with ⟨reason | reply, after⟩
      · rcases other : exec op right with ⟨reason' | reply', after'⟩
        · rw [performed, other] at answers agreed
          simp only [run, performed, other]
          exact ⟨congrArg _ (Except.error.inj answers), agreed⟩
        · rw [performed, other] at answers
          cases answers
      · rcases other : exec op right with ⟨reason' | reply', after'⟩
        · rw [performed, other] at answers
          cases answers
        · rw [performed, other] at answers agreed
          have same := Except.ok.inj answers
          subst same
          simp only [run, performed, other]
          apply ih reply agreed
          intro item member
          apply noted item
          rw [performed]
          exact Or.inr member

end EffectProgram
