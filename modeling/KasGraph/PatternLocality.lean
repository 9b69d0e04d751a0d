import KasGraph.TextRewrite

set_option autoImplicit false

/-! How a match depends on the line: on the units alone as far as the pattern tells them apart,
and on no unit beyond one that the pattern does not take. -/

namespace KasGraph.TextRewrite

/-! ## Lines that a pattern does not tell apart -/

section Respects

variable {related : UInt16 → UInt16 → Prop}

/-- No part of the pattern tells related units apart. -/
def Pattern.Respects (related : UInt16 → UInt16 → Prop) : Pattern → Prop
  | .empty => True
  | .unit accepts => ∀ u v, related u v → accepts u = accepts v
  | .seq first second => first.Respects related ∧ second.Respects related
  | .either first second => first.Respects related ∧ second.Respects related
  | .many accepts => ∀ u v, related u v → accepts u = accepts v
  | .boundary => False

def Aligned (related : UInt16 → UInt16 → Prop) (cursor cursor' : Cursor) : Prop :=
  List.Forall₂ related cursor.rest cursor'.rest

theorem manyEnds_aligned {accepts : UInt16 → Bool}
    (same : ∀ u v, related u v → accepts u = accepts v) {rest rest' : List UInt16}
    (aligned : List.Forall₂ related rest rest') (before before' : Option UInt16) :
    List.Forall₂ (Aligned related) (manyEnds accepts before rest)
      (manyEnds accepts before' rest') := by
  induction aligned generalizing before before' with
  | nil => exact .cons .nil .nil
  | @cons u v rest rest' head tail ih =>
      unfold manyEnds
      rw [same u v head]
      split
      · exact List.rel_append (ih _ _) (.cons (.cons head tail) .nil)
      · exact .cons (.cons head tail) .nil

theorem Pattern.ends_aligned {pattern : Pattern} (respects : pattern.Respects related)
    {cursor cursor' : Cursor} (aligned : Aligned related cursor cursor') :
    List.Forall₂ (Aligned related) (pattern.ends cursor) (pattern.ends cursor') := by
  induction pattern generalizing cursor cursor' with
  | empty => exact .cons aligned .nil
  | unit accepts =>
      obtain ⟨before, rest⟩ := cursor
      obtain ⟨before', rest'⟩ := cursor'
      change List.Forall₂ related rest rest' at aligned
      cases aligned with
      | nil => exact .nil
      | @cons u v _ _ head tail =>
          simp only [ends]
          rw [respects u v head]
          split
          · exact .cons tail .nil
          · exact .nil
  | seq first second ihFirst ihSecond =>
      exact List.rel_flatMap (ihFirst respects.1 aligned)
        fun _ _ between => ihSecond respects.2 between
  | either first second ihFirst ihSecond =>
      exact List.rel_append (ihFirst respects.1 aligned) (ihSecond respects.2 aligned)
  | many accepts => exact manyEnds_aligned respects aligned _ _
  | boundary => exact respects.elim

end Respects

/-! ## A unit that is not taken -/

section Rejects

variable {stop : UInt16} {tail tail' : List UInt16}

/-- No part of the pattern takes the unit. -/
def Pattern.Rejects (stop : UInt16) : Pattern → Prop
  | .empty => True
  | .unit accepts => accepts stop = false
  | .seq first second => first.Rejects stop ∧ second.Rejects stop
  | .either first second => first.Rejects stop ∧ second.Rejects stop
  | .many accepts => accepts stop = false
  | .boundary => True

/-- The two lines are the same up to the unit and through it. -/
def SameUpTo (stop : UInt16) (tail tail' : List UInt16) (cursor cursor' : Cursor) : Prop :=
  cursor.before = cursor'.before ∧
    ∃ common, cursor.rest = common ++ stop :: tail ∧ cursor'.rest = common ++ stop :: tail'

theorem manyEnds_sameUpTo {accepts : UInt16 → Bool} (rejects : accepts stop = false)
    (before : Option UInt16) (common : List UInt16) :
    List.Forall₂ (SameUpTo stop tail tail') (manyEnds accepts before (common ++ stop :: tail))
      (manyEnds accepts before (common ++ stop :: tail')) := by
  induction common generalizing before with
  | nil =>
      simp only [List.nil_append, manyEnds, rejects]
      exact .cons ⟨rfl, [], rfl, rfl⟩ .nil
  | cons u common ih =>
      simp only [List.cons_append, manyEnds]
      split
      · exact List.rel_append (ih _) (.cons ⟨rfl, u :: common, rfl, rfl⟩ .nil)
      · exact .cons ⟨rfl, u :: common, rfl, rfl⟩ .nil

theorem Pattern.ends_sameUpTo {pattern : Pattern} (rejects : pattern.Rejects stop)
    {cursor cursor' : Cursor} (same : SameUpTo stop tail tail' cursor cursor') :
    List.Forall₂ (SameUpTo stop tail tail') (pattern.ends cursor) (pattern.ends cursor') := by
  induction pattern generalizing cursor cursor' with
  | empty => exact .cons same .nil
  | unit accepts =>
      obtain ⟨before, rest⟩ := cursor
      obtain ⟨before', rest'⟩ := cursor'
      obtain ⟨-, common, first, second⟩ := same
      change rest = _ at first
      change rest' = _ at second
      subst first second
      cases common with
      | nil =>
          have taken : accepts stop = false := rejects
          simp only [ends, List.nil_append, taken]
          exact .nil
      | cons u common =>
          simp only [ends, List.cons_append]
          split
          · exact .cons ⟨rfl, common, rfl, rfl⟩ .nil
          · exact .nil
  | seq first second ihFirst ihSecond =>
      exact List.rel_flatMap (ihFirst rejects.1 same)
        fun _ _ between => ihSecond rejects.2 between
  | either first second ihFirst ihSecond =>
      exact List.rel_append (ihFirst rejects.1 same) (ihSecond rejects.2 same)
  | many accepts =>
      obtain ⟨before, rest⟩ := cursor
      obtain ⟨before', rest'⟩ := cursor'
      obtain ⟨sameBefore, common, first, second⟩ := same
      change before = before' at sameBefore
      change rest = _ at first
      change rest' = _ at second
      subst sameBefore first second
      exact manyEnds_sameUpTo rejects before common
  | boundary =>
      have alike : cursor.atBoundary = cursor'.atBoundary := by
        obtain ⟨sameBefore, common, first, second⟩ := same
        unfold Cursor.atBoundary
        rw [sameBefore, first, second]
        cases common <;> rfl
      simp only [ends, alike]
      split
      · exact .cons same .nil
      · exact .nil

end Rejects

/-! ## Ends -/

theorem manyEnds_suffix {accepts : UInt16 → Bool} {before : Option UInt16} {rest : List UInt16}
    {last : Cursor} (found : last ∈ manyEnds accepts before rest) :
    ∃ taken, rest = taken ++ last.rest ∧ taken.all accepts = true := by
  induction rest generalizing before with
  | nil =>
      rw [manyEnds, List.mem_singleton] at found
      exact ⟨[], by rw [found]; rfl, rfl⟩
  | cons u rest ih =>
      unfold manyEnds at found
      split at found
      · rename_i accepted
        cases List.mem_append.mp found with
        | inl later =>
            obtain ⟨taken, same, all⟩ := ih later
            refine ⟨u :: taken, by rw [same]; rfl, ?_⟩
            rw [List.all_cons, accepted, all]
            rfl
        | inr here =>
            rw [List.mem_singleton] at here
            exact ⟨[], by rw [here]; rfl, rfl⟩
      · rw [List.mem_singleton] at found
        exact ⟨[], by rw [found]; rfl, rfl⟩

theorem Pattern.ends_suffix {pattern : Pattern} {cursor last : Cursor}
    (found : last ∈ pattern.ends cursor) : ∃ taken, cursor.rest = taken ++ last.rest := by
  induction pattern generalizing cursor last with
  | empty =>
      rw [ends, List.mem_singleton] at found
      exact ⟨[], by rw [found]; rfl⟩
  | unit accepts =>
      obtain ⟨before, rest⟩ := cursor
      cases rest with
      | nil => nomatch found
      | cons u rest =>
          simp only [ends] at found
          split at found
          · rw [List.mem_singleton] at found
            exact ⟨[u], by rw [found]; rfl⟩
          · nomatch found
  | seq first second ihFirst ihSecond =>
      obtain ⟨between, before, after⟩ := List.mem_flatMap.mp found
      obtain ⟨front, start⟩ := ihFirst before
      obtain ⟨back, rest⟩ := ihSecond after
      exact ⟨front ++ back, by rw [start, rest, List.append_assoc]⟩
  | either first second ihFirst ihSecond =>
      cases List.mem_append.mp found with
      | inl left => exact ihFirst left
      | inr right => exact ihSecond right
  | many accepts =>
      obtain ⟨taken, split, -⟩ := manyEnds_suffix found
      exact ⟨taken, split⟩
  | boundary =>
      simp only [ends] at found
      split at found
      · rw [List.mem_singleton] at found
        exact ⟨[], by rw [found]; rfl⟩
      · nomatch found

theorem Pattern.head_seq {first second : Pattern} {cursor last : Cursor}
    (head : ((Pattern.seq first second).ends cursor).head? = some last) :
    ∃ between ∈ first.ends cursor, (second.ends between).head? = some last := by
  simp only [ends, List.head?_flatMap] at head
  exact List.exists_of_findSome?_eq_some head

theorem manyEnds_ne_nil (accepts : UInt16 → Bool) (before : Option UInt16) (rest : List UInt16) :
    manyEnds accepts before rest ≠ [] := by
  cases rest with
  | nil => nofun
  | cons u rest =>
      unfold manyEnds
      split <;> simp

/-- The first end of `many` is where nothing more can be taken. -/
theorem manyEnds_head {accepts : UInt16 → Bool} {before : Option UInt16} {rest : List UInt16}
    {last : Cursor} (head : (manyEnds accepts before rest).head? = some last) :
    last.rest.head?.any accepts = false := by
  induction rest generalizing before with
  | nil =>
      rw [manyEnds, List.head?_cons, Option.some.injEq] at head
      rw [← head]
      rfl
  | cons u rest ih =>
      unfold manyEnds at head
      split at head
      · rw [List.head?_append_of_ne_nil _ (manyEnds_ne_nil accepts _ rest)] at head
        exact ih head
      · rename_i refused
        rw [List.head?_cons, Option.some.injEq] at head
        rw [← head]
        simpa using refused

theorem mem_manyEnds_start (accepts : UInt16 → Bool) (before : Option UInt16)
    (rest : List UInt16) : (⟨before, rest⟩ : Cursor) ∈ manyEnds accepts before rest := by
  cases rest with
  | nil => exact List.mem_singleton_self _
  | cons u rest =>
      unfold manyEnds
      split <;> simp

/-! ## The edits of one match -/

namespace Rule

variable (rule : Rule)

/-- What the rest of a line becomes, after a unit and within a match. -/
def rewriteFrom (before : Option UInt16) (pending : List Edit) (rest : List UInt16) : List UInt16 :=
  applyScript rule.marker (rule.script before pending rest) rest

theorem script_pending (pending : List Edit) (before : Option UInt16) (taken rest : List UInt16)
    (length : taken.length = pending.length) :
    rule.script before pending (taken ++ rest) =
      pending ++ rule.script (taken.getLast?.or before) [] rest := by
  induction pending generalizing before taken with
  | nil =>
      rw [List.length_eq_zero_iff.mp length]
      rfl
  | cons edit pending ih =>
      cases taken with
      | nil => nomatch length
      | cons u taken =>
          rw [List.cons_append, script, ih (some u) taken (Nat.succ.inj length), List.getLast?_cons]
          cases taken.getLast? <;> rfl

theorem applyScript_append {α : Type} (marker : List α) (edits later : List Edit)
    (taken rest : List α) (length : taken.length = edits.length) :
    applyScript marker (edits ++ later) (taken ++ rest) =
      applyScript marker edits taken ++ applyScript marker later rest := by
  induction edits generalizing taken with
  | nil =>
      rw [List.length_eq_zero_iff.mp length]
      rfl
  | cons edit edits ih =>
      cases taken with
      | nil => nomatch length
      | cons u taken =>
          have same := ih taken (Nat.succ.inj length)
          cases edit <;> simp [applyScript, same]

theorem applyScript_drops {α : Type} (marker taken : List α) :
    applyScript marker (List.replicate taken.length .drop) taken = [] := by
  induction taken with
  | nil => rfl
  | cons u taken ih =>
      rw [List.length_cons, List.replicate_succ]
      exact ih

theorem applyScript_copies {α : Type} (marker taken : List α) :
    applyScript marker (List.replicate taken.length .copy) taken = taken := by
  induction taken with
  | nil => rfl
  | cons u taken ih =>
      rw [List.length_cons, List.replicate_succ]
      exact congrArg (u :: ·) ih

theorem matchEdits_length {kept length : Nat} (some : 0 < length) :
    (matchEdits kept length).length = length := by
  unfold matchEdits
  split
  · simp
    omega
  · simp
    omega

/-- A match of `taken` leaves its kept head and the marker. -/
theorem applyScript_matchEdits {α : Type} (marker : List α) {kept : Nat} {taken : List α}
    (short : kept < taken.length) :
    applyScript marker (matchEdits kept taken.length) taken = taken.take kept ++ marker := by
  have head : (taken.take kept).length = kept := by
    rw [List.length_take]
    omega
  obtain ⟨u, after, split⟩ : ∃ u after, taken.drop kept = u :: after :=
    List.exists_cons_of_ne_nil (by simpa using short)
  have back : after.length = taken.length - kept - 1 := by
    have length := congrArg List.length split
    rw [List.length_drop, List.length_cons] at length
    omega
  unfold matchEdits
  rw [if_pos short]
  conv_lhs => arg 3; rw [← List.take_append_drop kept taken, split]
  rw [applyScript_append _ _ _ _ _ (by simp [head])]
  have copied := applyScript_copies marker (taken.take kept)
  rw [head] at copied
  rw [copied]
  show taken.take kept ++ (marker ++ applyScript marker _ after) = _
  rw [← back, applyScript_drops, List.append_nil]

/-- A line that begins with a match: the match's head, the marker, and what the rest becomes. -/
theorem rewriteFrom_match {before : Option UInt16} {taken rest : List UInt16} {kept : Nat}
    (found : rule.pattern.matchLength ⟨before, taken ++ rest⟩ = some taken.length)
    (keeps : rule.kept taken = kept) (short : kept < taken.length) :
    rule.rewriteFrom before [] (taken ++ rest) =
      taken.take kept ++ rule.marker ++ rule.rewriteFrom (taken.getLast?.or before) [] rest := by
  obtain ⟨u, after, rfl⟩ : ∃ u after, taken = u :: after :=
    List.exists_cons_of_ne_nil (by
      intro empty
      rw [empty] at short
      exact absurd short (Nat.not_lt_zero _))
  have edits : rule.editsAt ⟨before, u :: after ++ rest⟩ = matchEdits kept (u :: after).length := by
    unfold editsAt
    rw [found]
    simp only [List.length_cons]
    rw [← keeps]
    congr 2
    simp
  have started : rule.script before [] (u :: after ++ rest) =
      rule.script before (matchEdits kept (u :: after).length) (u :: after ++ rest) := by
    have length := @matchEdits_length kept (u :: after).length (Nat.succ_pos _)
    rw [List.cons_append] at edits ⊢
    conv_lhs => unfold script
    simp only [edits]
    cases split : matchEdits kept (u :: after).length with
    | nil =>
        rw [split] at length
        nomatch length
    | cons edit pending => rfl
  have length := @matchEdits_length kept (u :: after).length (Nat.succ_pos _)
  unfold rewriteFrom
  rw [started, rule.script_pending _ _ _ _ length.symm,
    applyScript_append _ _ _ _ _ length.symm, applyScript_matchEdits _ short]

/-- A line that begins with no match keeps its first unit. -/
theorem rewriteFrom_no_match {before : Option UInt16} {u : UInt16} {rest : List UInt16}
    (missed : rule.pattern.matchLength ⟨before, u :: rest⟩ = none) :
    rule.rewriteFrom before [] (u :: rest) = u :: rule.rewriteFrom (some u) [] rest := by
  have edits : rule.editsAt ⟨before, u :: rest⟩ = [.copy] := by
    unfold editsAt
    rw [missed]
  unfold rewriteFrom
  conv_lhs => unfold script
  rw [edits]
  rfl

end Rule

end KasGraph.TextRewrite
