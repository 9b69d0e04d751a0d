import KasGraph.Utf16

set_option autoImplicit false

/-! Patterns over sequences of units, tried as a backtracking matcher tries them, and lines
rewritten match by match. Of two lines that are rewritten at the same places, what is left of
their difference is what the rewriting keeps. -/

namespace KasGraph.TextRewrite

/-! ## Patterns -/

inductive Pattern where
  | empty
  | unit (accepts : UInt16 → Bool)
  | seq (first second : Pattern)
  | either (first second : Pattern)
  /-- As many units as it can take, then one less, and so on. -/
  | many (accepts : UInt16 → Bool)
  /-- Between a word unit and another. -/
  | boundary

/-- A place in a line: the unit before it and the units after. -/
structure Cursor where
  before : Option UInt16
  rest : List UInt16
  deriving DecidableEq

def isWord (unit : UInt16) : Bool :=
  (48 ≤ unit && unit ≤ 57) || (65 ≤ unit && unit ≤ 90) || (97 ≤ unit && unit ≤ 122) || unit = 95

def Cursor.atBoundary (cursor : Cursor) : Bool :=
  cursor.before.any isWord != cursor.rest.head?.any isWord

def manyEnds (accepts : UInt16 → Bool) (before : Option UInt16) : List UInt16 → List Cursor
  | [] => [⟨before, []⟩]
  | unit :: rest =>
      if accepts unit then
        manyEnds accepts (some unit) rest ++ [⟨before, unit :: rest⟩]
      else
        [⟨before, unit :: rest⟩]

/-- Where the pattern can end from here, in the order in which the ends are tried. -/
def Pattern.ends : Pattern → Cursor → List Cursor
  | .empty, cursor => [cursor]
  | .unit accepts, cursor =>
      match cursor.rest with
      | [] => []
      | next :: rest => if accepts next then [⟨some next, rest⟩] else []
  | .seq first second, cursor => (first.ends cursor).flatMap second.ends
  | .either first second, cursor => first.ends cursor ++ second.ends cursor
  | .many accepts, cursor => manyEnds accepts cursor.before cursor.rest
  | .boundary, cursor => if cursor.atBoundary then [cursor] else []

/-- The length of the match that begins here. -/
def Pattern.matchLength (pattern : Pattern) (cursor : Cursor) : Option Nat :=
  (pattern.ends cursor).head?.map fun last => cursor.rest.length - last.rest.length

/-! ## Rewriting -/

/-- What becomes of one unit. A mark is written in the place of what is dropped. -/
inductive Edit where
  | copy
  | drop
  | markDrop
  | copyMark
  deriving DecidableEq

/-- A pattern, with how much of the head of a match is kept and what stands for the rest of it.
The pattern matches no empty text. -/
structure Rule where
  pattern : Pattern
  kept : List UInt16 → Nat
  marker : List UInt16

namespace Rule

variable {α : Type}

/-- The edits of a match: its kept head, the marker, and the rest dropped. -/
def matchEdits (kept length : Nat) : List Edit :=
  if kept < length then
    List.replicate kept .copy ++ .markDrop :: List.replicate (length - kept - 1) .drop
  else
    List.replicate (length - 1) .copy ++ [.copyMark]

def editsAt (rule : Rule) (cursor : Cursor) : List Edit :=
  match rule.pattern.matchLength cursor with
  | some (length + 1) => matchEdits (rule.kept (cursor.rest.take (length + 1))) (length + 1)
  | _ => [.copy]

/-- The edits of a line from here on; those of a match under way come first. -/
def script (rule : Rule) (before : Option UInt16) : (pending : List Edit) → List UInt16 → List Edit
  | _, [] => []
  | edit :: pending, unit :: rest => edit :: rule.script (some unit) pending rest
  | [], unit :: rest =>
      match rule.editsAt ⟨before, unit :: rest⟩ with
      | [] => .copy :: rule.script (some unit) [] rest
      | edit :: pending => edit :: rule.script (some unit) pending rest

def lineScript (rule : Rule) (line : List UInt16) : List Edit := rule.script none [] line

def applyScript (marker : List α) : List Edit → List α → List α
  | .copy :: edits, unit :: rest => unit :: applyScript marker edits rest
  | .drop :: edits, _ :: rest => applyScript marker edits rest
  | .markDrop :: edits, _ :: rest => marker ++ applyScript marker edits rest
  | .copyMark :: edits, unit :: rest => unit :: marker ++ applyScript marker edits rest
  | _, _ => []

/-- Every match replaced, from left to right. -/
def rewrite (rule : Rule) (line : List UInt16) : List UInt16 :=
  applyScript rule.marker (rule.lineScript line) line

/-- The rewriting of a line whose units carry a flag; the marker carries none. -/
def rewriteFlagged (rule : Rule) (line : List (UInt16 × Bool)) : List (UInt16 × Bool) :=
  applyScript (rule.marker.map (·, false)) (rule.lineScript (line.map Prod.fst)) line

end Rule

def rewriteAll (rules : List Rule) (line : List UInt16) : List UInt16 :=
  rules.foldl (fun line rule => rule.rewrite line) line

def rewriteAllFlagged (rules : List Rule) (line : List (UInt16 × Bool)) : List (UInt16 × Bool) :=
  rules.foldl (fun line rule => rule.rewriteFlagged line) line

/-- Rule by rule the two lines are matched at the same places. -/
def SamePlaces : List Rule → List UInt16 → List UInt16 → Prop
  | [], _, _ => True
  | rule :: rules, line, other =>
      rule.lineScript line = rule.lineScript other ∧
        SamePlaces rules (rule.rewrite line) (rule.rewrite other)

instance decidableSamePlaces :
    (rules : List Rule) → (line other : List UInt16) → Decidable (SamePlaces rules line other)
  | [], _, _ => isTrue trivial
  | rule :: rules, line, other =>
      have := decidableSamePlaces rules (rule.rewrite line) (rule.rewrite other)
      inferInstanceAs (Decidable (_ ∧ _))

/-- A line with a flag on each unit that differs from the one in its place in the other. -/
def flagDifferences (line other : List UInt16) : List (UInt16 × Bool) :=
  List.zipWith (fun unit unit' => (unit, decide (unit ≠ unit'))) line other

/-! ## Two lines -/

section Differ

variable {α β : Type}

theorem applyScript_map (f : α → β) (marker : List α) (edits : List Edit) (line : List α) :
    (Rule.applyScript marker edits line).map f =
      Rule.applyScript (marker.map f) edits (line.map f) := by
  induction edits generalizing line with
  | nil => cases line <;> rfl
  | cons edit edits ih =>
      cases line with
      | nil => cases edit <;> rfl
      | cons unit rest => cases edit <;> simp [Rule.applyScript, ih]

theorem applyScript_forall₂ {related : α → β → Prop} {marker : List α} {marker' : List β}
    (markers : List.Forall₂ related marker marker') (edits : List Edit) {line : List α}
    {line' : List β} (lines : List.Forall₂ related line line') :
    List.Forall₂ related (Rule.applyScript marker edits line)
      (Rule.applyScript marker' edits line') := by
  induction edits generalizing line line' with
  | nil => cases lines <;> exact .nil
  | cons edit edits ih =>
      cases lines with
      | nil => cases edit <;> exact .nil
      | cons head tail =>
          cases edit with
          | copy => exact .cons head (ih tail)
          | drop => exact ih tail
          | markDrop => exact List.rel_append markers (ih tail)
          | copyMark => exact .cons head (List.rel_append markers (ih tail))

end Differ

/-- The flag tells whether the unit is another one. -/
def Differs (flagged : UInt16 × Bool) (unit : UInt16) : Prop := flagged.2 = true ↔ flagged.1 ≠ unit

theorem flagDifferences_differs {line other : List UInt16} (same : line.length = other.length) :
    List.Forall₂ Differs (flagDifferences line other) other := by
  induction line generalizing other with
  | nil =>
      cases other with
      | nil => exact .nil
      | cons unit rest => nomatch same
  | cons unit rest ih =>
      cases other with
      | nil => nomatch same
      | cons unit' rest' =>
          exact .cons (by simp [Differs]) (ih (Nat.succ.inj same))

theorem flagDifferences_units {line other : List UInt16} (same : line.length = other.length) :
    (flagDifferences line other).map Prod.fst = line := by
  induction line generalizing other with
  | nil => rfl
  | cons unit rest ih =>
      cases other with
      | nil => nomatch same
      | cons unit' rest' =>
          show unit :: (flagDifferences rest rest').map Prod.fst = unit :: rest
          rw [ih (Nat.succ.inj same)]

namespace Rule

variable (rule : Rule)

theorem rewriteFlagged_units (line : List (UInt16 × Bool)) :
    (rule.rewriteFlagged line).map Prod.fst = rule.rewrite (line.map Prod.fst) := by
  unfold rewriteFlagged rewrite
  rw [applyScript_map, List.map_map]
  congr 1
  exact List.map_id _

/-- Lines rewritten at the same places differ afterwards just where the flags are. -/
theorem rewriteFlagged_differs {line : List (UInt16 × Bool)} {other : List UInt16}
    (places : rule.lineScript (line.map Prod.fst) = rule.lineScript other)
    (differs : List.Forall₂ Differs line other) :
    List.Forall₂ Differs (rule.rewriteFlagged line) (rule.rewrite other) := by
  unfold rewriteFlagged rewrite
  rw [places]
  refine applyScript_forall₂ ?_ _ differs
  rw [List.forall₂_map_left_iff, List.forall₂_same]
  exact fun unit _ => by simp [Differs]

end Rule

theorem rewriteAllFlagged_units (rules : List Rule) (line : List (UInt16 × Bool)) :
    (rewriteAllFlagged rules line).map Prod.fst = rewriteAll rules (line.map Prod.fst) := by
  induction rules generalizing line with
  | nil => rfl
  | cons rule rules ih =>
      show (rewriteAllFlagged rules (rule.rewriteFlagged line)).map Prod.fst =
        rewriteAll rules (rule.rewrite (line.map Prod.fst))
      rw [ih, rule.rewriteFlagged_units]

theorem rewriteAllFlagged_differs (rules : List Rule) {line : List (UInt16 × Bool)}
    {other : List UInt16} (places : SamePlaces rules (line.map Prod.fst) other)
    (differs : List.Forall₂ Differs line other) :
    List.Forall₂ Differs (rewriteAllFlagged rules line) (rewriteAll rules other) := by
  induction rules generalizing line other with
  | nil => exact differs
  | cons rule rules ih =>
      obtain ⟨first, later⟩ := places
      rw [← rule.rewriteFlagged_units] at later
      exact ih later (rule.rewriteFlagged_differs first differs)

theorem eq_iff_no_flag {line : List (UInt16 × Bool)} {other : List UInt16}
    (differs : List.Forall₂ Differs line other) :
    line.map Prod.fst = other ↔ ∀ unit ∈ line, unit.2 = false := by
  induction differs with
  | nil => simp
  | @cons flagged unit _ _ head _ ih =>
      rw [List.map_cons, List.cons.injEq, List.forall_mem_cons, ih]
      refine and_congr_left fun _ => ?_
      cases flag : flagged.2 with
      | true => simpa [Differs, flag] using head
      | false => simpa [Differs, flag] using head

/-- Two lines rewritten at the same places come out equal just when no unit in which they differ
is kept. -/
theorem rewriteAll_eq_iff (rules : List Rule) {line other : List UInt16}
    (length : line.length = other.length) (places : SamePlaces rules line other) :
    rewriteAll rules line = rewriteAll rules other ↔
      ∀ unit ∈ rewriteAllFlagged rules (flagDifferences line other), unit.2 = false := by
  have units := flagDifferences_units length
  have differs := rewriteAllFlagged_differs rules (units.symm ▸ places)
    (flagDifferences_differs length)
  rw [← eq_iff_no_flag differs, rewriteAllFlagged_units, units]

end KasGraph.TextRewrite
