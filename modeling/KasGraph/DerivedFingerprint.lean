import KasGraph.FingerprintMatching

set_option autoImplicit false

/-! Anchored fingerprints derived from samples of one pattern: their longest common prefix
and suffix, when the two do not meet in the shortest sample. -/

namespace KasGraph

/-! ## The loops -/

/-- The loop that advances while positions agree, for at most `remaining` of them. -/
def advance (agree : Nat → Bool) : Nat → Nat → Nat
  | 0, i => i
  | remaining + 1, i => if agree i then advance agree remaining (i + 1) else i

/-- The length on which every other sample agrees with the first. -/
def commonLen (agree : List UInt8 → Nat → Bool) (first : List UInt8)
    (others : List (List UInt8)) : Nat :=
  others.foldl (fun n s => advance (agree s) (min n s.length) 0) first.length

def commonPrefixLen : List (List UInt8) → Nat
  | [] => 0
  | first :: others => commonLen (fun s i => first[i]? == s[i]?) first others

def commonSuffixLen : List (List UInt8) → Nat
  | [] => 0
  | first :: others =>
      commonLen (fun s i => first[first.length - 1 - i]? == s[s.length - 1 - i]?) first others

theorem le_advance_iff {agree : Nat → Bool} {remaining i k : Nat} :
    k ≤ advance agree remaining i ↔
      k ≤ i + remaining ∧ ∀ j, i ≤ j → j < k → agree j = true := by
  induction remaining generalizing i with
  | zero =>
      rw [advance, Nat.add_zero]
      exact ⟨fun below => ⟨below, fun j lower upper => by omega⟩, And.left⟩
  | succ remaining ih =>
      rw [advance]
      by_cases agrees : agree i = true
      · rw [if_pos agrees, ih]
        constructor
        · rintro ⟨bound, each⟩
          refine ⟨by omega, fun j lower upper => ?_⟩
          rcases Nat.eq_or_lt_of_le lower with rfl | later
          · exact agrees
          · exact each j later upper
        · rintro ⟨bound, each⟩
          exact ⟨by omega, fun j lower upper => each j (by omega) upper⟩
      · rw [if_neg agrees]
        constructor
        · intro below
          exact ⟨by omega, fun j lower upper => by omega⟩
        · rintro ⟨bound, each⟩
          by_contra above
          exact agrees (each i le_rfl (by omega))

theorem le_commonLen_iff {agree : List UInt8 → Nat → Bool} {first : List UInt8}
    {others : List (List UInt8)} {k : Nat} :
    k ≤ commonLen agree first others ↔
      k ≤ first.length ∧ ∀ s ∈ others, k ≤ s.length ∧ ∀ j < k, agree s j = true := by
  unfold commonLen
  generalize first.length = start
  induction others generalizing start with
  | nil => exact ⟨fun below => ⟨below, fun s member => absurd member List.not_mem_nil⟩, And.left⟩
  | cons s rest ih =>
      rw [List.foldl_cons, ih, le_advance_iff, List.forall_mem_cons]
      constructor
      · rintro ⟨⟨bound, each⟩, later⟩
        exact ⟨by omega, ⟨by omega, fun j upper => each j (Nat.zero_le j) upper⟩, later⟩
      · rintro ⟨bound, ⟨level, each⟩, later⟩
        exact ⟨⟨by omega, fun j _ upper => each j upper⟩, later⟩

/-! ## Longest common prefix and suffix -/

structure LongestCommonPrefix (scripts : List (List UInt8)) (head : List UInt8) : Prop where
  common : ∀ s ∈ scripts, head <+: s
  longest : ∀ other : List UInt8, (∀ s ∈ scripts, other <+: s) → other <+: head

structure LongestCommonSuffix (scripts : List (List UInt8)) (tail : List UInt8) : Prop where
  common : ∀ s ∈ scripts, tail <:+ s
  longest : ∀ other : List UInt8, (∀ s ∈ scripts, other <:+ s) → other <:+ tail

theorem take_prefix_iff {first s : List UInt8} {k : Nat} (within : k ≤ first.length) :
    first.take k <+: s ↔ k ≤ s.length ∧ ∀ j < k, (first[j]? == s[j]?) = true := by
  have size : (first.take k).length = k := by rw [List.length_take, min_eq_left within]
  rw [List.prefix_iff_getElem?]
  constructor
  · intro each
    have level : k ≤ s.length := by
      by_contra short
      have last := each s.length (by omega)
      rw [List.getElem?_eq_none le_rfl] at last
      cases last
    refine ⟨level, fun j upper => ?_⟩
    rw [beq_iff_eq, each j (by omega), List.getElem_take,
      List.getElem?_eq_getElem (by omega)]
  · rintro ⟨level, each⟩ j upper
    rw [List.getElem_take, ← beq_iff_eq.mp (each j (by omega)),
      List.getElem?_eq_getElem (by omega)]

/-- The suffix loop compares the reversed samples. -/
theorem drop_suffix_iff {first s : List UInt8} {k : Nat} (within : k ≤ first.length) :
    first.drop (first.length - k) <:+ s ↔ k ≤ s.length ∧
      ∀ j < k, (first[first.length - 1 - j]? == s[s.length - 1 - j]?) = true := by
  have turned : (first.drop (first.length - k)).reverse = first.reverse.take k := by
    rw [List.reverse_drop, Nat.sub_sub_self within]
  rw [← List.reverse_prefix, turned, take_prefix_iff (by rwa [List.length_reverse]),
    List.length_reverse]
  refine and_congr_right fun level => forall_congr' fun j => forall_congr' fun upper => ?_
  rw [List.getElem?_reverse (by omega), List.getElem?_reverse (by omega)]

theorem le_commonPrefixLen_iff {first : List UInt8} {others : List (List UInt8)} {k : Nat} :
    k ≤ commonPrefixLen (first :: others) ↔
      k ≤ first.length ∧ ∀ s ∈ others, first.take k <+: s := by
  refine le_commonLen_iff.trans (and_congr_right fun within => ?_)
  exact forall_congr' fun s => forall_congr' fun _ => (take_prefix_iff within).symm

theorem le_commonSuffixLen_iff {first : List UInt8} {others : List (List UInt8)} {k : Nat} :
    k ≤ commonSuffixLen (first :: others) ↔
      k ≤ first.length ∧ ∀ s ∈ others, first.drop (first.length - k) <:+ s := by
  refine le_commonLen_iff.trans (and_congr_right fun within => ?_)
  exact forall_congr' fun s => forall_congr' fun _ => (drop_suffix_iff within).symm

theorem longestCommonPrefix_take (first : List UInt8) (others : List (List UInt8)) :
    LongestCommonPrefix (first :: others)
      (first.take (commonPrefixLen (first :: others))) where
  common := by
    intro s member
    rcases List.mem_cons.mp member with rfl | other
    · exact List.take_prefix ..
    · exact (le_commonPrefixLen_iff.mp le_rfl).2 s other
  longest := by
    intro other common
    have begins := common first (List.mem_cons_self ..)
    have whole := List.prefix_iff_eq_take.mp begins
    have short : other.length ≤ commonPrefixLen (first :: others) := by
      refine le_commonPrefixLen_iff.mpr ⟨begins.length_le, fun s member => ?_⟩
      rw [← whole]
      exact common s (List.mem_cons_of_mem _ member)
    rw [whole]
    exact List.take_prefix_take_left short

theorem longestCommonSuffix_drop (first : List UInt8) (others : List (List UInt8)) :
    LongestCommonSuffix (first :: others)
      (first.drop (first.length - commonSuffixLen (first :: others))) where
  common := by
    intro s member
    rcases List.mem_cons.mp member with rfl | other
    · exact List.drop_suffix ..
    · exact (le_commonSuffixLen_iff.mp le_rfl).2 s other
  longest := by
    intro other common
    have ends := common first (List.mem_cons_self ..)
    have whole := List.suffix_iff_eq_drop.mp ends
    have short : other.length ≤ commonSuffixLen (first :: others) := by
      refine le_commonSuffixLen_iff.mpr ⟨ends.length_le, fun s member => ?_⟩
      rw [← whole]
      exact common s (List.mem_cons_of_mem _ member)
    have bound := (le_commonSuffixLen_iff.mp (le_refl (commonSuffixLen (first :: others)))).1
    refine List.suffix_of_suffix_length_le ends (List.drop_suffix ..) ?_
    rw [List.length_drop]
    omega

theorem LongestCommonPrefix.unique {scripts : List (List UInt8)} {head other : List UInt8}
    (left : LongestCommonPrefix scripts head) (right : LongestCommonPrefix scripts other) :
    head = other :=
  (right.longest head left.common).eq_of_length_le (left.longest other right.common).length_le

theorem LongestCommonSuffix.unique {scripts : List (List UInt8)} {tail other : List UInt8}
    (left : LongestCommonSuffix scripts tail) (right : LongestCommonSuffix scripts other) :
    tail = other :=
  (right.longest tail left.common).eq_of_length_le (left.longest other right.common).length_le

/-! ## Derivation -/

/-- Derive a fingerprint from samples of one pattern; nothing where an addition overflows. -/
def deriveAnchoredFingerprint (scripts : List (List UInt8)) (stateWindows : List MaskedWindow) :
    Option (Except FingerprintError AnchoredFingerprint) :=
  if scripts.length < 2 then
    some (.error (.tooFewSamples scripts.length))
  else
    let headLen := commonPrefixLen scripts
    let tailLen := commonSuffixLen scripts
    let minLen := (scripts.map List.length).min?.getD 0
    if headLen + tailLen > minLen then
      some (.error (.anchorsOverlap headLen tailLen minLen))
    else
      match checkBounds headLen stateWindows with
      | none => none
      | some (.error e) => some (.error e)
      | some (.ok _) =>
          let sample := scripts.headD []
          let fingerprint : AnchoredFingerprint :=
            { head := sample.take headLen, headMaskedWindows := stateWindows,
              tail := sample.drop (sample.length - tailLen) }
          fingerprint.validate.map fun validity => validity.map fun _ => fingerprint

/-- The head and tail taken from the first sample. -/
def anchors (first : List UInt8) (others : List (List UInt8)) (stateWindows : List MaskedWindow) :
    AnchoredFingerprint where
  head := first.take (commonPrefixLen (first :: others))
  headMaskedWindows := stateWindows
  tail := first.drop (first.length - commonSuffixLen (first :: others))

section Anchors

variable {first : List UInt8} {others : List (List UInt8)} {windows : List MaskedWindow}

theorem length_anchors_head :
    (anchors first others windows).head.length = commonPrefixLen (first :: others) := by
  have bound := (le_commonPrefixLen_iff.mp (le_refl (commonPrefixLen (first :: others)))).1
  exact (List.length_take ..).trans (min_eq_left bound)

theorem length_anchors_tail :
    (anchors first others windows).tail.length = commonSuffixLen (first :: others) := by
  have bound := (le_commonSuffixLen_iff.mp (le_refl (commonSuffixLen (first :: others)))).1
  refine (List.length_drop ..).trans ?_
  omega

theorem le_minLen_iff {k : Nat} :
    k ≤ ((first :: others).map List.length).min?.getD 0 ↔
      ∀ s ∈ first :: others, k ≤ s.length := by
  cases shortest : ((first :: others).map List.length).min? with
  | none => exact absurd (List.min?_eq_none_iff.mp shortest) (List.cons_ne_nil _ _)
  | some m => exact (List.le_min?_iff shortest).trans List.forall_mem_map

/-- What is left once the anchors are known not to meet. -/
theorem derive_of_room (more : others ≠ [])
    (room : ∀ s ∈ first :: others, (anchors first others windows).head.length +
      (anchors first others windows).tail.length ≤ s.length)
    (f : AnchoredFingerprint) :
    deriveAnchoredFingerprint (first :: others) windows = some (.ok f) ↔
      ValidWindows windows (anchors first others windows).head.length ∧
        f = anchors first others windows := by
  have several : ¬ (first :: others).length < 2 := by
    have := List.length_pos_iff.mpr more
    rw [List.length_cons]
    omega
  have fits := le_minLen_iff.mpr room
  rw [length_anchors_head, length_anchors_tail] at fits
  unfold deriveAnchoredFingerprint
  rw [if_neg several]
  dsimp only
  rw [if_neg (Nat.not_lt.mpr fits)]
  have same : (anchors first others windows).validate =
      validateWindows windows (anchors first others windows).head.length := rfl
  constructor
  · intro derived
    cases bounds : checkBounds (commonPrefixLen (first :: others)) windows with
    | none =>
        rw [bounds] at derived
        cases derived
    | some result =>
        rw [bounds] at derived
        cases result with
        | error e => cases derived
        | ok u =>
            obtain ⟨validity, validated, mapped⟩ := Option.map_eq_some_iff.mp derived
            cases validity with
            | error e => cases mapped
            | ok v =>
                refine ⟨validateWindows_ok_iff.mp ?_, (Except.ok.inj mapped).symm⟩
                exact validated
  · rintro ⟨valid, rfl⟩
    have validated := validateWindows_ok_iff.mpr valid
    have bounds : checkBounds (commonPrefixLen (first :: others)) windows = some (.ok ()) := by
      rw [← @length_anchors_head first others windows]
      exact checkBounds_ok_iff.mpr fun w member =>
        ⟨valid.representable w member, valid.within w member⟩
    rw [bounds]
    exact Option.map_eq_some_iff.mpr ⟨.ok (), validated, rfl⟩

/-- Nothing is derived from fewer than two samples, from anchors that meet in one of them,
or with a window that is not valid in the head. -/
theorem derive_ok_iff (f : AnchoredFingerprint) :
    deriveAnchoredFingerprint (first :: others) windows = some (.ok f) ↔
      (others ≠ [] ∧ (∀ s ∈ first :: others, (anchors first others windows).head.length +
        (anchors first others windows).tail.length ≤ s.length) ∧
      ValidWindows windows (anchors first others windows).head.length) ∧
      f = anchors first others windows := by
  by_cases more : others = []
  · subst more
    refine iff_of_false ?_ fun given => given.1.1 rfl
    unfold deriveAnchoredFingerprint
    rw [if_pos (show [first].length < 2 from Nat.lt_succ_self 1)]
    intro derived
    cases Option.some.inj derived
  · by_cases room : ∀ s ∈ first :: others, (anchors first others windows).head.length +
        (anchors first others windows).tail.length ≤ s.length
    · rw [derive_of_room more room f]
      exact ⟨fun given => ⟨⟨more, room, given.1⟩, given.2⟩,
        fun given => ⟨given.1.2.2, given.2⟩⟩
    · refine iff_of_false ?_ fun given => room given.1.2.1
      have several : ¬ (first :: others).length < 2 := by
        have := List.length_pos_iff.mpr more
        rw [List.length_cons]
        omega
      have meet := mt le_minLen_iff.mp room
      rw [length_anchors_head, length_anchors_tail] at meet
      unfold deriveAnchoredFingerprint
      rw [if_neg several]
      dsimp only
      rw [if_pos (Nat.not_le.mp meet)]
      intro derived
      cases Option.some.inj derived

/-- Anchors that do not meet match a script that begins and ends as they do. -/
theorem isMatch_anchors (room : ∀ s ∈ first :: others, (anchors first others windows).head.length +
      (anchors first others windows).tail.length ≤ s.length) {s : List UInt8}
    (sample : s ∈ first :: others) : (anchors first others windows).isMatch s = true := by
  obtain ⟨rest, rfl⟩ := (longestCommonPrefix_take first others).common s sample
  have ends := (longestCommonSuffix_drop first others).common _ sample
  have space := room _ sample
  rw [List.length_append] at space
  have inRest : (anchors first others windows).tail <:+ rest := by
    refine List.suffix_of_suffix_length_le ends (List.suffix_append ..) ?_
    exact Nat.le_of_add_le_add_left space
  obtain ⟨middle, split⟩ := inRest
  refine ((anchors first others windows).isMatch_iff _).mpr
    ⟨(anchors first others windows).head, middle, ?_, rfl, fun i within kept => rfl⟩
  rw [List.append_assoc, split]
  rfl

end Anchors

/-- Windows of positive length overlap exactly when they cover a common byte. -/
theorem overlaps_eq_false_iff {a b : MaskedWindow} (left : 0 < a.len) (right : 0 < b.len) :
    a.overlaps b = false ↔ ∀ i, ¬ (a.covers i = true ∧ b.covers i = true) := by
  simp only [MaskedWindow.overlaps, decide_eq_false_iff_not, covers_iff]
  constructor
  · rintro apart i ⟨inA, inB⟩
    exact apart ⟨by omega, by omega⟩
  · intro apart meets
    exact apart (max a.offset b.offset) (by omega)

/-- Windows that lie inside a head of this length and share no byte. -/
structure WindowsApart (windows : List MaskedWindow) (headLen : Nat) : Prop where
  within : ∀ w ∈ windows, w.offset + w.len ≤ headLen
  apart : windows.Pairwise fun a b => ∀ i, ¬ (a.covers i = true ∧ b.covers i = true)

theorem validWindows_iff_apart {windows : List MaskedWindow} {headLen : Nat}
    (positive : ∀ w ∈ windows, 0 < w.len ∧ w.offset + w.len < 2 ^ 64) :
    ValidWindows windows headLen ↔ WindowsApart windows headLen := by
  have pairs : windows.Pairwise (fun a b => a.overlaps b = false) ↔
      windows.Pairwise fun a b => ∀ i, ¬ (a.covers i = true ∧ b.covers i = true) := by
    refine List.Pairwise.iff_of_mem fun {a b} inA inB => ?_
    exact overlaps_eq_false_iff (positive a inA).1 (positive b inB).1
  constructor
  · intro valid
    exact ⟨valid.within, pairs.mp valid.apart⟩
  · intro apart
    exact ⟨fun w member => (positive w member).2, apart.within, pairs.mpr apart.apart⟩

/-- With representable windows no addition overflows. -/
theorem derive_ne_none {windows : List MaskedWindow}
    (small : ∀ w ∈ windows, w.offset + w.len < 2 ^ 64) (scripts : List (List UInt8)) :
    deriveAnchoredFingerprint scripts windows ≠ none := by
  unfold deriveAnchoredFingerprint
  by_cases few : scripts.length < 2
  · rw [if_pos few]
    exact Option.some_ne_none _
  · rw [if_neg few]
    dsimp only
    by_cases meet : commonPrefixLen scripts + commonSuffixLen scripts >
        (scripts.map List.length).min?.getD 0
    · rw [if_pos meet]
      exact Option.some_ne_none _
    · rw [if_neg meet]
      cases bounds : checkBounds (commonPrefixLen scripts) windows with
      | none => exact absurd bounds (checkBounds_ne_none small)
      | some result =>
          cases result with
          | error e => exact Option.some_ne_none _
          | ok u =>
              intro overflow
              have validated := Option.map_eq_none_iff.mp overflow
              exact validateWindows_ne_none small validated

/-- Derivation succeeds exactly for two or more samples whose longest common prefix and
suffix do not meet in any of them, with windows apart inside the prefix; what it gives is
that prefix and suffix, is valid, and matches the samples and every script that fills the
windows and the middle otherwise. -/
theorem derived_fingerprint_exact (scripts : List (List UInt8)) (windows : List MaskedWindow)
    (positive : ∀ w ∈ windows, 0 < w.len ∧ w.offset + w.len < 2 ^ 64) :
    deriveAnchoredFingerprint scripts windows ≠ none ∧
    ((∃ f, deriveAnchoredFingerprint scripts windows = some (.ok f)) ↔
      2 ≤ scripts.length ∧ ∃ head tail, LongestCommonPrefix scripts head ∧
        LongestCommonSuffix scripts tail ∧
        (∀ s ∈ scripts, head.length + tail.length ≤ s.length) ∧
        WindowsApart windows head.length) ∧
    ∀ f, deriveAnchoredFingerprint scripts windows = some (.ok f) →
      LongestCommonPrefix scripts f.head ∧ LongestCommonSuffix scripts f.tail ∧
      f.headMaskedWindows = windows ∧ f.validate = some (.ok ()) ∧
      (∀ s ∈ scripts, f.isMatch s = true) ∧
      ∀ front middle, front.length = f.head.length → SameOutside windows f.head front →
        f.isMatch (front ++ middle ++ f.tail) = true := by
  refine ⟨derive_ne_none (fun w member => (positive w member).2) scripts, ?_⟩
  cases scripts with
  | nil =>
      have failed : ∀ f, deriveAnchoredFingerprint [] windows ≠ some (.ok f) := by
        intro f derived
        cases Option.some.inj derived
      refine ⟨iff_of_false (fun given => Exists.elim given failed) ?_,
        fun f derived => absurd derived (failed f)⟩
      rintro ⟨several, -⟩
      exact absurd several (by decide)
  | cons first others =>
      have prefixes := longestCommonPrefix_take first others
      have suffixes := longestCommonSuffix_drop first others
      constructor
      · constructor
        · rintro ⟨f, derived⟩
          obtain ⟨⟨more, room, valid⟩, -⟩ := (derive_ok_iff f).mp derived
          have several := List.length_pos_iff.mpr more
          refine ⟨by rw [List.length_cons]; omega, _, _, prefixes, suffixes, room, ?_⟩
          exact (validWindows_iff_apart positive).mp valid
        · rintro ⟨several, head, tail, isPrefix, isSuffix, room, apart⟩
          cases isPrefix.unique prefixes
          cases isSuffix.unique suffixes
          have more : others ≠ [] := by
            rintro rfl
            exact absurd several (by rw [List.length_singleton]; omega)
          exact ⟨_, (derive_ok_iff _).mpr
            ⟨⟨more, room, (validWindows_iff_apart positive).mpr apart⟩, rfl⟩⟩
      · intro f derived
        obtain ⟨⟨more, room, valid⟩, rfl⟩ := (derive_ok_iff f).mp derived
        refine ⟨prefixes, suffixes, rfl, validateWindows_ok_iff.mpr valid,
          fun s sample => isMatch_anchors room sample, fun front middle level same => ?_⟩
        exact (AnchoredFingerprint.isMatch_iff _ _).mpr ⟨front, middle, rfl, level, same⟩

/-- One pattern at two loop bounds. -/
def loopSamples : List (List UInt8) := [[1, 2, 9, 3], [1, 2, 8, 8, 3]]

def loopWindow : MaskedWindow where
  field := "state"
  offset := 1
  len := 1

theorem derived_fingerprint_loopSamples :
    deriveAnchoredFingerprint loopSamples [loopWindow] =
      some (.ok { head := [1, 2], headMaskedWindows := [loopWindow], tail := [3] }) ∧
    ∀ s ∈ loopSamples, AnchoredFingerprint.isMatch
      { head := [1, 2], headMaskedWindows := [loopWindow], tail := [3] } s = true := by
  have derived : deriveAnchoredFingerprint loopSamples [loopWindow] =
      some (.ok { head := [1, 2], headMaskedWindows := [loopWindow], tail := [3] }) := rfl
  have exact := derived_fingerprint_exact loopSamples [loopWindow] (by decide)
  exact ⟨derived, (exact.2.2 _ derived).2.2.2.2.1⟩

end KasGraph
