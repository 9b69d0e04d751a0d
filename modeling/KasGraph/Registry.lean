import KasGraph.Fingerprints

set_option autoImplicit false

/-! The registered patterns are disjoint: a script matches at most one of them, whatever
the order of the registry. -/

namespace KasGraph

/-! ## What a matcher fixes of a script -/

namespace PatternMatcher

def isMatch (m : PatternMatcher) (script : List UInt8) : Bool :=
  match m with
  | .exact f => f.isMatch script
  | .anchored f => f.isMatch script

theorem matchAndExtract_isSome (m : PatternMatcher) (script : List UInt8) :
    (m.matchAndExtract script).isSome = m.isMatch script := by
  cases m with
  | exact f =>
      show (f.matchAndExtract script).isSome = f.isMatch script
      unfold Fingerprint.matchAndExtract
      cases f.isMatch script <;> rfl
  | anchored f =>
      show (f.matchAndExtract script).isSome = f.isMatch script
      unfold AnchoredFingerprint.matchAndExtract
      cases f.isMatch script <;> rfl

/-- The byte that every matching script has at a position, where there is one. -/
def fixedByte (m : PatternMatcher) (i : Nat) : Option UInt8 :=
  match m with
  | .exact f => if f.inMask i then none else f.bytes[i]?
  | .anchored f => if f.inHeadMask i then none else f.head[i]?

/-- The least length of a matching script. -/
def shortest : PatternMatcher → Nat
  | .exact f => f.bytes.length
  | .anchored f => f.head.length + f.tail.length

/-- The greatest length of a matching script: an anchored body may be of any length. -/
def longest : PatternMatcher → Option Nat
  | .exact f => some f.bytes.length
  | .anchored _ => none

end PatternMatcher

namespace PatternMatcher

variable {m : PatternMatcher} {script : List UInt8}

theorem shortest_le (matched : m.isMatch script = true) : m.shortest ≤ script.length := by
  cases m with
  | exact f =>
      simp only [isMatch, Fingerprint.isMatch, Bool.and_eq_true, beq_iff_eq] at matched
      exact matched.1.ge
  | anchored f =>
      simp only [isMatch, AnchoredFingerprint.isMatch, Bool.and_eq_true, decide_eq_true_eq]
        at matched
      exact matched.1.1

theorem le_longest (matched : m.isMatch script = true) {n : Nat} (bound : m.longest = some n) :
    script.length ≤ n := by
  cases m with
  | exact f =>
      simp only [isMatch, Fingerprint.isMatch, Bool.and_eq_true, beq_iff_eq] at matched
      rw [← Option.some.inj bound]
      exact matched.1.le
  | anchored f => cases bound

/-- A matching script has the bytes the matcher fixes. -/
theorem getElem?_of_fixedByte (matched : m.isMatch script = true) {i : Nat} {byte : UInt8}
    (fixed : m.fixedByte i = some byte) : script[i]? = some byte := by
  cases m with
  | exact f =>
      unfold fixedByte at fixed
      rw [Option.ite_none_left_eq_some] at fixed
      simp only [isMatch, Fingerprint.isMatch, Bool.and_eq_true, beq_iff_eq] at matched
      have within := (List.getElem?_eq_some_iff.mp fixed.2).1
      rw [← fixed.2]
      exact (zip_all_iff (fun e a => beq_iff_eq.trans eq_comm) matched.1.ge).mp matched.2 i within
        (by simpa using fixed.1)
  | anchored f =>
      unfold fixedByte at fixed
      rw [Option.ite_none_left_eq_some] at fixed
      simp only [isMatch, AnchoredFingerprint.isMatch, Bool.and_eq_true, decide_eq_true_eq]
        at matched
      have level : f.head.length ≤ script.length := by omega
      have within := (List.getElem?_eq_some_iff.mp fixed.2).1
      rw [← fixed.2]
      exact (@zip_all_iff _ _ f.inHeadMask _ (fun e a => beq_iff_eq) level).mp matched.1.2 i within
        (by simpa using fixed.1)

/-! ## Separation -/

/-- Every script one of them matches is shorter than any the other matches. -/
def shorterThan (a b : PatternMatcher) : Bool :=
  match a.longest with
  | some n => n < b.shortest
  | none => false

def differsAt (a b : PatternMatcher) (i : Nat) : Bool :=
  match a.fixedByte i, b.fixedByte i with
  | some x, some y => x != y
  | _, _ => false

/-- Told apart by their lengths, or by a byte both fix at one of the positions. -/
def separated (positions : List Nat) (a b : PatternMatcher) : Bool :=
  a.shorterThan b || b.shorterThan a || positions.any (a.differsAt b)

theorem not_both_of_shorterThan {a b : PatternMatcher} (shorter : a.shorterThan b = true)
    (first : a.isMatch script = true) (second : b.isMatch script = true) : False := by
  unfold shorterThan at shorter
  split at shorter
  · rename_i n bound
    have above := le_longest first bound
    have below := shortest_le second
    have strict := of_decide_eq_true shorter
    omega
  · cases shorter

theorem not_both_of_differsAt {a b : PatternMatcher} {i : Nat} (differs : a.differsAt b i = true)
    (first : a.isMatch script = true) (second : b.isMatch script = true) : False := by
  unfold differsAt at differs
  split at differs
  · rename_i x y left right
    have read := getElem?_of_fixedByte first left
    rw [getElem?_of_fixedByte second right, Option.some.injEq] at read
    exact bne_iff_ne.mp differs read.symm
  · cases differs

/-- No script matches two separated patterns. -/
theorem not_both_of_separated {positions : List Nat} {a b : PatternMatcher}
    (apart : separated positions a b = true) (script : List UInt8) :
    ¬ (a.isMatch script = true ∧ b.isMatch script = true) := by
  rintro ⟨first, second⟩
  unfold separated at apart
  rw [Bool.or_eq_true, Bool.or_eq_true] at apart
  rcases apart with (shorter | longer) | differing
  · exact not_both_of_shorterThan shorter first second
  · exact not_both_of_shorterThan longer second first
  · obtain ⟨i, -, differs⟩ := List.any_eq_true.mp differing
    exact not_both_of_differsAt differs first second

end PatternMatcher

/-- Positions that two registered patterns of compatible lengths both fix. -/
def separatingPositions : List Nat := [1, 10, 34, 36, 69]

theorem buildRegistry_separated :
    buildRegistry.Pairwise fun a b => PatternMatcher.separated separatingPositions a.matcher
      b.matcher = true := by
  decide +kernel

/-! ## One hit -/

/-- Where no two entries answer, one answer at most comes back. -/
theorem length_filterMap_le_one {α β : Type} {f : α → Option β} {l : List α}
    (apart : l.Pairwise fun a b => ¬ ((f a).isSome = true ∧ (f b).isSome = true)) :
    (l.filterMap f).length ≤ 1 := by
  induction l with
  | nil => exact Nat.zero_le 1
  | cons a rest ih =>
      obtain ⟨alone, later⟩ := List.pairwise_cons.mp apart
      cases answer : f a with
      | none =>
          rw [List.filterMap_cons_none answer]
          exact ih later
      | some b =>
          have silent : rest.filterMap f = [] := by
            refine List.filterMap_eq_nil_iff.mpr fun other member => ?_
            by_contra answers
            exact alone other member ⟨by rw [answer]; rfl, Option.isSome_iff_ne_none.mpr answers⟩
          rw [List.filterMap_cons_some answer, silent]
          exact Nat.le_refl 1

theorem perm_eq_of_length_le_one {α : Type} {first second : List α}
    (perm : first.Perm second) (short : second.length ≤ 1) : first = second := by
  match second with
  | [] => exact List.perm_nil.mp perm
  | [a] => exact List.perm_singleton.mp perm
  | _ :: _ :: rest =>
      rw [List.length_cons, List.length_cons] at short
      omega

theorem buildRegistry_disjoint (script : List UInt8) :
    buildRegistry.Pairwise fun a b =>
      ¬ (a.matcher.isMatch script = true ∧ b.matcher.isMatch script = true) :=
  buildRegistry_separated.imp fun separated =>
    PatternMatcher.not_both_of_separated separated script

theorem detectInOutput_length_le_one (script : List UInt8) (txHash : String)
    (outputIndex : UInt32) :
    (detectInOutput buildRegistry script txHash outputIndex).length ≤ 1 := by
  apply length_filterMap_le_one
  refine (buildRegistry_disjoint script).imp fun not_both answers => not_both ?_
  rw [Option.isSome_map, Option.isSome_map, PatternMatcher.matchAndExtract_isSome,
    PatternMatcher.matchAndExtract_isSome] at answers
  exact answers

/-- A script matches at most one registered pattern, so an output yields at most one hit, and
the same one for every order of the registry. -/
theorem registry_disjoint (script : List UInt8) :
    (buildRegistry.Pairwise fun a b =>
      ¬ (a.matcher.isMatch script = true ∧ b.matcher.isMatch script = true)) ∧
    ∀ (txHash : String) (outputIndex : UInt32),
      (detectInOutput buildRegistry script txHash outputIndex).length ≤ 1 ∧
      ∀ registry : List DetectorEntry, registry.Perm buildRegistry →
        detectInOutput registry script txHash outputIndex =
          detectInOutput buildRegistry script txHash outputIndex := by
  refine ⟨buildRegistry_disjoint script, fun txHash outputIndex => ?_⟩
  have single := detectInOutput_length_le_one script txHash outputIndex
  exact ⟨single, fun registry order => perm_eq_of_length_le_one (order.filterMap _) single⟩

end KasGraph
