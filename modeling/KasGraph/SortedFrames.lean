import Mathlib

set_option autoImplicit false

/-! Lists sorted by a preorder and then written out frame by frame. The order in which
the list arrives is seen in what is written exactly where frames of the same rank do not
commute. -/

namespace SortedFrames

variable {α β : Type}

/-- Of two frames it does not matter which comes first. -/
def Commute (frame : α → List β) (a b : α) : Prop :=
  frame a ++ frame b = frame b ++ frame a

theorem flatMap_commute {frame : α → List β} {a : α} {items : List α}
    (commute : ∀ b ∈ items, Commute frame a b) :
    items.flatMap frame ++ frame a = frame a ++ items.flatMap frame := by
  induction items with
  | nil => rw [List.flatMap_nil, List.nil_append, List.append_nil]
  | cons b rest ih =>
      have tail := ih fun c member => commute c (List.mem_cons_of_mem _ member)
      have head : frame a ++ frame b = frame b ++ frame a := commute b (List.mem_cons_self ..)
      rw [List.flatMap_cons, List.append_assoc, tail, ← List.append_assoc, ← head,
        List.append_assoc]

/-- Sorted lists of the same elements are written alike where frames of one rank commute. -/
theorem flatMap_eq_of_sorted {r : α → α → Prop} {frame : α → List β} {first second : List α}
    (left : first.Pairwise r) (right : second.Pairwise r) (perm : first.Perm second)
    (commute : ∀ a ∈ first, ∀ b ∈ first, r a b → r b a → Commute frame a b) :
    first.flatMap frame = second.flatMap frame := by
  induction first generalizing second with
  | nil => rw [List.nil_perm.mp perm]
  | cons a rest ih =>
      -- the head of one list stands somewhere in the other, behind elements of its own rank
      obtain ⟨before, after, rfl⟩ :=
        List.mem_iff_append.mp (perm.mem_iff.mp (List.mem_cons_self ..))
      have tails : rest.Perm (before ++ after) :=
        (perm.trans List.perm_middle).cons_inv
      have sorted : (before ++ after).Pairwise r :=
        right.sublist ((List.sublist_cons_self a after).append_left before)
      have written := ih left.of_cons sorted tails fun b inB c inC =>
        commute b (List.mem_cons_of_mem _ inB) c (List.mem_cons_of_mem _ inC)
      have passed : before.flatMap frame ++ frame a = frame a ++ before.flatMap frame := by
        refine flatMap_commute fun b member => ?_
        have inRest := tails.mem_iff.mpr (List.mem_append_left after member)
        exact commute a (List.mem_cons_self ..) b (List.mem_cons_of_mem _ inRest)
          (List.rel_of_pairwise_cons left inRest)
          ((List.pairwise_append.mp right).2.2 b member a (List.mem_cons_self ..))
      rw [List.flatMap_cons, written, List.flatMap_append, List.flatMap_append, List.flatMap_cons,
        ← List.append_assoc, ← passed, List.append_assoc]

variable (r : α → α → Prop) [DecidableRel r]

/-- What is written of a list: the frames of its sorted elements. -/
def written (frame : α → List β) (items : List α) : List β :=
  (items.insertionSort r).flatMap frame

/-- Every order of arrival is written alike. -/
def OrderFree (frame : α → List β) (items : List α) : Prop :=
  ∀ arrived : List α, arrived.Perm items → written r frame arrived = written r frame items

variable {r} [IsTrans α r]

/-- Two elements of one rank that arrive together stay together. -/
theorem orderedInsert_twins {a b : α} (forth : r a b) (back : r b a) (items : List α) :
    (items.orderedInsert r b).orderedInsert r a =
      items.takeWhile (fun c => ¬ r a c) ++ a :: b :: items.dropWhile fun c => ¬ r a c := by
  induction items with
  | nil => simp only [List.orderedInsert_nil, List.orderedInsert_cons, forth, ↓reduceIte,
      List.takeWhile_nil, List.dropWhile_nil, List.nil_append]
  | cons c rest ih =>
      by_cases placed : r a c
      · have also : r b c := IsTrans.trans b a c back placed
        simp [placed, also, forth]
      · have also : ¬ r b c := fun before => placed (IsTrans.trans a b c forth before)
        simp [placed, also, ih]

theorem commute_of_twins {frame : α → List β} {a b : α} (forth : r a b) (back : r b a)
    {others : List α} (same : written r frame (a :: b :: others) =
      written r frame (b :: a :: others)) : Commute frame a b := by
  have rank : ∀ c, r b c ↔ r a c := fun c =>
    ⟨fun before => IsTrans.trans a b c forth before, fun before => IsTrans.trans b a c back before⟩
  unfold written at same
  simp only [List.insertionSort_cons, orderedInsert_twins forth back,
    orderedInsert_twins back forth, rank, List.flatMap_append, List.flatMap_cons] at same
  have joined := List.append_cancel_left same
  rw [← List.append_assoc, ← List.append_assoc] at joined
  exact List.append_cancel_right joined

/-- The order of arrival is not seen exactly where frames of one rank commute. -/
theorem orderFree_iff [Std.Total r] (frame : α → List β) (items : List α) :
    OrderFree r frame items ↔
      ∀ a ∈ items, ∀ b ∈ items, r a b → r b a → Commute frame a b := by
  constructor
  · intro free a inA b inB forth back
    by_cases same : a = b
    · rw [same, Commute]
    · obtain ⟨before, after, rfl⟩ := List.mem_iff_append.mp inA
      have inRest : b ∈ before ++ after :=
        (List.mem_cons.mp (List.perm_middle.mem_iff.mp inB)).resolve_left fun eq => same eq.symm
      obtain ⟨front, back', split⟩ := List.mem_iff_append.mp inRest
      have first : (a :: b :: (front ++ back')).Perm (before ++ a :: after) := by
        refine (List.Perm.cons a ?_).trans List.perm_middle.symm
        rw [split]
        exact List.perm_middle.symm
      have second := (List.Perm.swap a b (front ++ back')).trans first
      exact commute_of_twins forth back ((free _ first).trans (free _ second).symm)
  · intro commute arrived perm
    refine (flatMap_eq_of_sorted (List.pairwise_insertionSort r items)
      (List.pairwise_insertionSort r arrived) ?_ ?_).symm
    · exact (List.perm_insertionSort r items).trans
        (perm.symm.trans (List.perm_insertionSort r arrived).symm)
    · intro a inA b inB
      exact commute a ((List.mem_insertionSort r).mp inA) b ((List.mem_insertionSort r).mp inB)

end SortedFrames
