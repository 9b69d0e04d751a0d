import KasGraph.EffectProgram

set_option autoImplicit false

/-! Lowering programs. Each operation of a program is replaced by a program over the operations
of a machine below; what the machine computes is compared with what the operation means. -/

namespace EffectProgram

variable {S T : Signature} {ε ε' α σ τ : Type}

namespace Program

/-- Replace every operation by its implementation and every reason by one of the machine. -/
def interpret (implement : (op : S.Op) → Program T ε' (S.Reply op)) (failing : ε → ε') :
    Program S ε α → Program T ε' α
  | .done value => .done value
  | .fail reason => .fail (failing reason)
  | .call op next => implement op >>= fun reply => (next reply).interpret implement failing

end Program

/-- What the machine did is what the program means, or the machine stopped for a reason of its
own: an answer is the same and leads to related states, a failure is excused or stands for one
of the program. -/
def Simulates (related : σ → τ → Prop) (stands : ε → ε' → τ → Prop) (excused : ε' → τ → Prop)
    (meant : Except ε α × σ) : Except ε' α × τ → Prop
  | (.ok value, after) => ∃ state, meant = (.ok value, state) ∧ related state after
  | (.error reason, after) =>
      excused reason after ∨ ∃ cause state, meant = (.error cause, state) ∧ stands cause reason after

/-- When every implementation does what its operation means, the lowered program does what the
program means. -/
theorem interpret_simulates {meaning : Semantics S ε σ} {machine : Semantics T ε' τ}
    {implement : (op : S.Op) → Program T ε' (S.Reply op)} {failing : ε → ε'}
    {related : σ → τ → Prop} {stands : ε → ε' → τ → Prop} {excused : ε' → τ → Prop}
    (operations : ∀ op state below, related state below →
      Simulates related stands excused (meaning op state) (run machine (implement op) below))
    (failures : ∀ reason state below, related state below → stands reason (failing reason) below)
    (program : Program S ε α) {state : σ} {below : τ} (start : related state below) :
    Simulates related stands excused (run meaning program state)
      (run machine (program.interpret implement failing) below) := by
  induction program generalizing state below with
  | done value => exact ⟨state, rfl, start⟩
  | fail reason => exact Or.inr ⟨reason, state, rfl, failures reason state below start⟩
  | call op next ih =>
      have once := operations op state below start
      simp only [Program.interpret, run_bind]
      rcases performed : run machine (implement op) below with ⟨reason | reply, after⟩
      · rw [performed] at once
        rcases once with ignored | ⟨cause, final, meant, same⟩
        · exact Or.inl ignored
        · refine Or.inr ⟨cause, final, ?_, same⟩
          simp only [run, meant]
      · rw [performed] at once
        obtain ⟨middle, meant, held⟩ := once
        have rest := ih reply held
        simp only [run, meant]
        exact rest

end EffectProgram
