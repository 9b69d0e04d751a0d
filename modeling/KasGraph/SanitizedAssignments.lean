import KasGraph.LogSanitizer
import KasGraph.PatternLocality

set_option autoImplicit false

/-! The values that the sanitizer hides in every line: those written right after a listed key and
its mark, without quotes, spaces, commas or braces. -/

namespace KasGraph.LogSanitizer

open Utf16 (encode)

open TextRewrite (Pattern Rule Cursor isWord Aligned SameUpTo)

/-! ## Units -/

/-- Units that the value of an assignment does not tell apart. -/
def Alike (u v : UInt16) : Prop := u = v ∨ (inValue u = true ∧ inValue v = true)

/-- A unit that ends a value without quotes. -/
def inRun (unit : UInt16) : Bool := !isSpace unit && !oneOf ",\x7d" unit

theorem oneOf_iff {chars : String} {unit : UInt16} :
    oneOf chars unit = true ↔ unit ∈ encode chars := List.contains_iff_mem

theorem inValue_iff {unit : UInt16} :
    inValue unit = true ↔
      isSpace unit = false ∧ unit ≠ 44 ∧ unit ≠ 125 ∧ unit ≠ 34 ∧ unit ≠ 39 := by
  have chars : encode ",\x7d\"'" = [44, 125, 34, 39] := by decide
  unfold inValue oneOf
  rw [chars]
  simp

theorem inRun_iff {unit : UInt16} :
    inRun unit = true ↔ isSpace unit = false ∧ unit ≠ 44 ∧ unit ≠ 125 := by
  have chars : encode ",\x7d" = [44, 125] := by decide
  unfold inRun oneOf
  rw [chars]
  simp

theorem inRun_of_inValue {unit : UInt16} (plain : inValue unit = true) : inRun unit = true := by
  obtain ⟨space, comma, brace, -, -⟩ := inValue_iff.mp plain
  exact inRun_iff.mpr ⟨space, comma, brace⟩

theorem isSpace_alike {u v : UInt16} (alike : Alike u v) : isSpace u = isSpace v := by
  cases alike with
  | inl same => rw [same]
  | inr both => rw [(inValue_iff.mp both.1).1, (inValue_iff.mp both.2).1]

theorem inRun_alike {u v : UInt16} (alike : Alike u v) : inRun u = inRun v := by
  cases alike with
  | inl same => rw [same]
  | inr both => rw [inRun_of_inValue both.1, inRun_of_inValue both.2]

theorem quote_alike {quote u v : UInt16} (isQuote : quote = 34 ∨ quote = 39) (alike : Alike u v) :
    (u = quote) = (v = quote) := by
  cases alike with
  | inl same => rw [same]
  | inr both =>
      obtain ⟨-, -, -, double, single⟩ := inValue_iff.mp both.1
      obtain ⟨-, -, -, double', single'⟩ := inValue_iff.mp both.2
      cases isQuote with
      | inl here => simp [here, double, double']
      | inr here => simp [here, single, single']

theorem alike_refl (line : List UInt16) : List.Forall₂ Alike line line :=
  List.forall₂_same.mpr fun _ _ => Or.inl rfl

theorem alike_of_plain {first second : List UInt16} (length : first.length = second.length)
    (plain : first.all inValue = true) (plain' : second.all inValue = true) :
    List.Forall₂ Alike first second := by
  rw [List.forall₂_iff_get]
  refine ⟨length, fun i within within' => Or.inr ⟨?_, ?_⟩⟩
  · exact List.all_eq_true.mp plain _ (List.get_mem _ _)
  · exact List.all_eq_true.mp plain' _ (List.get_mem _ _)

/-! ## The value of an assignment -/

theorem exactly_double : exactly "\"" = .seq (.unit fun u => u = 34) .empty := by
  have units : encode "\"" = [34] := by decide
  unfold exactly
  rw [units]
  rfl

theorem exactly_single : exactly "'" = .seq (.unit fun u => u = 39) .empty := by
  have units : encode "'" = [39] := by decide
  unfold exactly
  rw [units]
  rfl

/-- A value between two quotes. -/
def quotedValue (quote : UInt16) : Pattern :=
  .seq (.seq (.unit fun u => u = quote) .empty) (.seq (.many fun u => !(u = quote))
    (.seq (.seq (.unit fun u => u = quote) .empty) .empty))

theorem assignedValue_eq :
    assignedValue = .either (quotedValue 34) (.either (quotedValue 39) (some1 inRun)) := by
  have double : (fun u => !oneOf "\"" u) = fun u : UInt16 => !decide (u = 34) := by
    have units : encode "\"" = [34] := by decide
    funext u
    unfold oneOf
    rw [units]
    simp
  have single : (fun u => !oneOf "'" u) = fun u : UInt16 => !decide (u = 39) := by
    have units : encode "'" = [39] := by decide
    funext u
    unfold oneOf
    rw [units]
    simp
  unfold assignedValue
  rw [exactly_double, exactly_single, double, single]
  rfl

theorem quotedValue_respects {quote : UInt16} (isQuote : quote = 34 ∨ quote = 39) :
    (quotedValue quote).Respects Alike := by
  have same : ∀ u v, Alike u v → decide (u = quote) = decide (v = quote) := fun u v alike => by
    simp only [quote_alike isQuote alike]
  have other : ∀ u v, Alike u v → (!decide (u = quote)) = !decide (v = quote) := fun u v alike => by
    rw [same u v alike]
  exact ⟨⟨same, trivial⟩, other, ⟨same, trivial⟩, trivial⟩

theorem assignedValue_respects : assignedValue.Respects Alike := by
  rw [assignedValue_eq]
  exact ⟨quotedValue_respects (Or.inl rfl), quotedValue_respects (Or.inr rfl),
    fun _ _ => inRun_alike, fun _ _ => inRun_alike⟩

/-- Where a match of the value ends: after a quote, or where no more of the run can be taken. -/
structure ValueEnds (line rest : List UInt16) : Prop where
  taken : ∃ front last, line = front ++ last :: rest ∧
    (last = 34 ∨ last = 39 ∨ rest.head?.any inRun = false)

theorem unit_takes {accepts : UInt16 → Bool} {cursor last : Cursor}
    (found : last ∈ (Pattern.unit accepts).ends cursor) :
    ∃ unit, cursor.rest = unit :: last.rest ∧ accepts unit = true := by
  obtain ⟨before, rest⟩ := cursor
  cases rest with
  | nil => simp [Pattern.ends] at found
  | cons unit rest =>
      by_cases accepted : accepts unit = true
      · simp only [Pattern.ends, if_pos accepted, List.mem_singleton] at found
        rw [found]
        exact ⟨unit, rfl, accepted⟩
      · simp [Pattern.ends, accepted] at found

theorem quote_ends {quote : UInt16} {cursor last : Cursor}
    (found : last ∈ (Pattern.seq (.seq (.unit fun u => u = quote) .empty) .empty).ends cursor) :
    cursor.rest = quote :: last.rest := by
  obtain ⟨between, quoted, rest⟩ := List.mem_flatMap.mp found
  obtain ⟨closed, first, here⟩ := List.mem_flatMap.mp quoted
  obtain ⟨unit, split, same⟩ := unit_takes first
  rw [List.mem_singleton.mp rest, List.mem_singleton.mp here, split, of_decide_eq_true same]

theorem quotedValue_ends {quote : UInt16} {cursor last : Cursor}
    (found : last ∈ (quotedValue quote).ends cursor) :
    ∃ front, cursor.rest = front ++ quote :: last.rest := by
  obtain ⟨opened, first, found⟩ := List.mem_flatMap.mp found
  obtain ⟨inside, second, closed⟩ := List.mem_flatMap.mp found
  obtain ⟨front, start⟩ := Pattern.ends_suffix first
  obtain ⟨middle, between⟩ := Pattern.ends_suffix second
  refine ⟨front ++ middle, ?_⟩
  rw [start, between, quote_ends closed, List.append_assoc]

theorem run_ends {cursor last : Cursor} (head : ((some1 inRun).ends cursor).head? = some last) :
    ∃ front final, cursor.rest = front ++ final :: last.rest ∧ last.rest.head?.any inRun = false := by
  obtain ⟨between, first, more⟩ := Pattern.head_seq head
  have stops := TextRewrite.manyEnds_head more
  obtain ⟨unit, split, -⟩ := unit_takes first
  obtain ⟨taken, rest, -⟩ := TextRewrite.manyEnds_suffix (List.mem_of_mem_head? more)
  rw [rest] at split
  cases taken using List.reverseRecOn with
  | nil => exact ⟨[], unit, split, stops⟩
  | append_singleton front final =>
      refine ⟨unit :: front, final, ?_, stops⟩
      rw [split, List.append_assoc]
      rfl

theorem assignedValue_head {cursor last : Cursor}
    (head : (assignedValue.ends cursor).head? = some last) : ValueEnds cursor.rest last.rest := by
  rw [assignedValue_eq] at head
  change ((quotedValue 34).ends cursor ++
    ((quotedValue 39).ends cursor ++ (some1 inRun).ends cursor)).head? = some last at head
  rw [List.head?_append, List.head?_append, Option.or_eq_some_iff, Option.or_eq_some_iff] at head
  rcases head with double | ⟨-, single | ⟨-, run⟩⟩
  · obtain ⟨front, split⟩ := quotedValue_ends (List.mem_of_mem_head? double)
    exact ⟨front, 34, split, Or.inl rfl⟩
  · obtain ⟨front, split⟩ := quotedValue_ends (List.mem_of_mem_head? single)
    exact ⟨front, 39, split, Or.inr (Or.inl rfl)⟩
  · obtain ⟨front, final, split, stops⟩ := run_ends run
    exact ⟨front, final, split, Or.inr (Or.inr stops)⟩

/-! ## An assignment -/

theorem head_seq_suffix {first second : Pattern} {cursor last : Cursor}
    (head : ((Pattern.seq first second).ends cursor).head? = some last) :
    ∃ front between, between ∈ first.ends cursor ∧ cursor.rest = front ++ between.rest ∧
      (second.ends between).head? = some last := by
  obtain ⟨between, found, more⟩ := Pattern.head_seq head
  obtain ⟨front, split⟩ := Pattern.ends_suffix found
  exact ⟨front, between, found, split, more⟩

/-- A match takes a mark, then a value that ends as values do. -/
theorem assignment_head {key : Pattern} {cursor last : Cursor}
    (head : ((assignment key).ends cursor).head? = some last) :
    ∃ front mark gap value, oneOf ":=" mark = true ∧
      cursor.rest = front ++ mark :: (gap ++ value) ∧ ValueEnds value last.rest := by
  obtain ⟨w₁, c₁, -, s₁, head⟩ := head_seq_suffix head
  obtain ⟨w₂, c₂, -, s₂, head⟩ := head_seq_suffix head
  obtain ⟨w₃, c₃, -, s₃, head⟩ := head_seq_suffix head
  obtain ⟨w₄, c₄, -, s₄, head⟩ := head_seq_suffix head
  obtain ⟨-, c₅, marked, -, head⟩ := head_seq_suffix head
  obtain ⟨w₆, c₆, -, s₆, head⟩ := head_seq_suffix head
  obtain ⟨mark, s₅, isMark⟩ := unit_takes marked
  have value : ValueEnds c₆.rest last.rest := by
    change ((assignedValue.ends c₆).flatMap fun cursor => [cursor]).head? = some last at head
    rw [List.flatMap_singleton'] at head
    exact assignedValue_head head
  refine ⟨w₁ ++ w₂ ++ w₃ ++ w₄, mark, w₆, c₆.rest, isMark, ?_, value⟩
  rw [s₁, s₂, s₃, s₄, s₅, s₆]
  simp

theorem mark_aligned {stop : UInt16} {tail tail' : List UInt16}
    (tails : List.Forall₂ Alike tail tail') (accepts : UInt16 → Bool) {cursor cursor' : Cursor}
    (same : SameUpTo stop tail tail' cursor cursor') :
    List.Forall₂ (Aligned Alike) ((Pattern.unit accepts).ends cursor)
      ((Pattern.unit accepts).ends cursor') := by
  obtain ⟨before, rest⟩ := cursor
  obtain ⟨before', rest'⟩ := cursor'
  obtain ⟨-, common, first, second⟩ := same
  change rest = _ at first
  change rest' = _ at second
  subst first second
  cases common with
  | nil =>
      simp only [Pattern.ends, List.nil_append]
      split
      · exact .cons tails .nil
      · exact .nil
  | cons u common =>
      simp only [Pattern.ends, List.cons_append]
      split
      · exact .cons (List.rel_append (alike_refl common) (.cons (Or.inl rfl) tails)) .nil
      · exact .nil

/-- Up to a unit that the key does not take the lines are the same; after it they are alike. -/
theorem assignment_aligned {key : Pattern} {stop : UInt16} {tail tail' : List UInt16}
    (rejects : key.Rejects stop) (noSpace : isSpace stop = false)
    (tails : List.Forall₂ Alike tail tail') {cursor cursor' : Cursor}
    (same : SameUpTo stop tail tail' cursor cursor') :
    List.Forall₂ (Aligned Alike) ((assignment key).ends cursor) ((assignment key).ends cursor') := by
  have rest : (Pattern.seq (.many isSpace) (.seq assignedValue .empty)).Respects Alike :=
    ⟨fun _ _ => isSpace_alike, assignedValue_respects, trivial⟩
  refine List.rel_flatMap (@Pattern.ends_sameUpTo _ _ _ .boundary trivial _ _ same) fun _ _ s₁ => ?_
  refine List.rel_flatMap (Pattern.ends_sameUpTo rejects s₁) fun _ _ s₂ => ?_
  refine List.rel_flatMap (@Pattern.ends_sameUpTo _ _ _ .boundary trivial _ _ s₂) fun _ _ s₃ => ?_
  refine List.rel_flatMap (@Pattern.ends_sameUpTo _ _ _ (.many isSpace) noSpace _ _ s₃)
    fun _ _ s₄ => ?_
  refine List.rel_flatMap (mark_aligned tails _ s₄) fun _ _ s₅ => ?_
  exact Pattern.ends_aligned rest s₅

/-! ## The keys -/

theorem isWord_foldCase (unit : UInt16) : isWord (foldCase unit) = isWord unit := by
  unfold foldCase
  split
  · rename_i upper
    simp only [Bool.and_eq_true, decide_eq_true_eq, UInt16.le_iff_toNat_le] at upper
    have bottom : 65 ≤ unit.toNat := upper.1
    have top : unit.toNat ≤ 90 := upper.2
    have lower : (unit + 32).toNat = unit.toNat + 32 := by
      rw [UInt16.toNat_add]
      show (unit.toNat + 32) % 65536 = unit.toNat + 32
      omega
    have inWord : isWord unit = true := by
      unfold isWord
      simp [UInt16.le_iff_toNat_le, ← UInt16.toNat_inj]
      omega
    have stillWord : isWord (unit + 32) = true := by
      unfold isWord
      simp only [UInt16.le_iff_toNat_le, lower, ← UInt16.toNat_inj]
      simp
      omega
    rw [inWord, stillWord]
  · rfl

theorem key_isWord {key : List UInt16} (listed : IsSecretKey key) :
    key ≠ [] ∧ ∀ unit ∈ key, isWord unit = true := by
  obtain ⟨name, named, same⟩ := listed
  have words : (secretKeys.all fun name => encode name ≠ [] && (encode name).all isWord) = true := by
    rfl
  have spelled := List.all_eq_true.mp words name named
  simp only [Bool.and_eq_true, decide_eq_true_eq, List.all_eq_true] at spelled
  obtain ⟨some, each⟩ := spelled
  constructor
  · intro empty
    rw [empty] at same
    exact some (List.map_eq_nil_iff.mp same.symm)
  · intro unit present
    have folded : foldCase unit ∈ (encode name).map foldCase := by
      rw [← same]
      exact List.mem_map_of_mem present
    obtain ⟨other, within, equal⟩ := List.mem_map.mp folded
    rw [← isWord_foldCase, ← equal, isWord_foldCase]
    exact each other within

theorem word_rejects {s : String} {stop : UInt16}
    (apart : ∀ unit ∈ encode s, foldCase stop ≠ foldCase unit) : (word s).Rejects stop := by
  unfold word
  generalize encode s = units at apart ⊢
  induction units with
  | nil => trivial
  | cons unit units ih =>
      rw [List.forall_mem_cons] at apart
      exact ⟨decide_eq_false apart.1, ih apart.2⟩

theorem choice_rejects {patterns : List Pattern} {stop : UInt16}
    (each : ∀ pattern ∈ patterns, pattern.Rejects stop) : (choice patterns).Rejects stop := by
  induction patterns with
  | nil => rfl
  | cons first rest ih =>
      rw [List.forall_mem_cons] at each
      cases rest with
      | nil => exact each.1
      | cons second rest => exact ⟨each.1, ih each.2⟩

theorem mark_iff {mark : UInt16} : oneOf ":=" mark = true ↔ mark = 58 ∨ mark = 61 := by
  have chars : encode ":=" = [58, 61] := by decide
  rw [oneOf_iff, chars]
  simp

theorem secretKeys_reject {mark : UInt16} (isMark : oneOf ":=" mark = true) :
    (choice (secretKeys.map word)).Rejects mark := by
  apply choice_rejects
  intro pattern listed
  obtain ⟨name, named, rfl⟩ := List.mem_map.mp listed
  apply word_rejects
  intro unit within same
  have inWord := (key_isWord ⟨name, named, rfl⟩).2 unit within
  have both := congrArg isWord same
  rw [isWord_foldCase, isWord_foldCase, inWord] at both
  cases mark_iff.mp isMark with
  | inl here =>
      rw [here] at both
      exact absurd both (by decide)
  | inr here =>
      rw [here] at both
      exact absurd both (by decide)

theorem inValue_of_isWord {unit : UInt16} (inWord : isWord unit = true) : inValue unit = true := by
  rw [inValue_iff]
  unfold isWord at inWord
  unfold isSpace
  simp [UInt16.le_iff_toNat_le, ← UInt16.toNat_inj] at inWord ⊢
  omega

theorem isSpace_apart {unit : UInt16} (space : isSpace unit = true) :
    isWord unit = false ∧ oneOf ":=" unit = false := by
  constructor
  · by_contra inWord
    have plain := inValue_of_isWord (by simpa using inWord)
    rw [(inValue_iff.mp plain).1] at space
    nomatch space
  · by_contra isMark
    cases mark_iff.mp (by simpa using isMark) with
    | inl colon =>
        rw [colon] at space
        exact absurd space (by decide)
    | inr equals =>
        rw [equals] at space
        exact absurd space (by decide)

theorem mark_apart {unit : UInt16} (isMark : oneOf ":=" unit = true) :
    isWord unit = false ∧ isSpace unit = false := by
  cases mark_iff.mp isMark with
  | inl colon => rw [colon]; decide
  | inr equals => rw [equals]; decide

theorem word_mem_ends {s : String} {key : List UInt16}
    (named : key.map foldCase = (encode s).map foldCase) (before : Option UInt16)
    (rest : List UInt16) :
    (⟨key.getLast?.or before, rest⟩ : Cursor) ∈ (word s).ends ⟨before, key ++ rest⟩ := by
  unfold word
  generalize encode s = units at named ⊢
  induction units generalizing key before with
  | nil =>
      rw [List.map_nil, List.map_eq_nil_iff] at named
      rw [named]
      exact List.mem_singleton_self _
  | cons unit units ih =>
      cases key with
      | nil => nomatch named
      | cons first key =>
          obtain ⟨head, tail⟩ := List.cons.inj named
          have later := ih (some first) tail
          rw [List.getLast?_cons]
          refine List.mem_flatMap.mpr ⟨⟨some first, key ++ rest⟩, ?_, ?_⟩
          · simp [Pattern.ends, head]
          · cases last : key.getLast? with
            | none =>
                rw [last] at later
                exact later
            | some other =>
                rw [last] at later
                exact later

theorem choice_mem_ends {patterns : List Pattern} {pattern : Pattern} {cursor last : Cursor}
    (listed : pattern ∈ patterns) (found : last ∈ pattern.ends cursor) :
    last ∈ (choice patterns).ends cursor := by
  induction patterns with
  | nil => nomatch listed
  | cons first rest ih =>
      cases rest with
      | nil =>
          rw [List.mem_singleton.mp listed] at found
          exact found
      | cons second rest =>
          refine List.mem_append.mpr ?_
          cases List.mem_cons.mp listed with
          | inl here =>
              rw [here] at found
              exact Or.inl found
          | inr later => exact Or.inr (ih later)

theorem choice_ends_nil {patterns : List Pattern} {cursor : Cursor}
    (each : ∀ pattern ∈ patterns, pattern.ends cursor = []) : (choice patterns).ends cursor = [] := by
  induction patterns with
  | nil =>
      obtain ⟨before, line⟩ := cursor
      cases line with
      | nil => rfl
      | cons unit line => rfl
  | cons first others ih =>
      rw [List.forall_mem_cons] at each
      cases others with
      | nil => exact each.1
      | cons second others =>
          show first.ends cursor ++ (choice (second :: others)).ends cursor = []
          rw [each.1, ih each.2]
          rfl

theorem key_ends_nil {unit : UInt16} (apart : isWord unit = false) {name : String}
    (named : name ∈ secretKeys) (before : Option UInt16) (rest : List UInt16) :
    (word name).ends ⟨before, unit :: rest⟩ = [] := by
  obtain ⟨some, words⟩ := key_isWord ⟨name, named, rfl⟩
  obtain ⟨first, units, spelled⟩ := List.exists_cons_of_ne_nil some
  have isFirst := words first (by rw [spelled]; exact List.mem_cons_self)
  have missed : foldCase unit ≠ foldCase first := by
    intro same
    have both := congrArg isWord same
    rw [isWord_foldCase, isWord_foldCase, isFirst, apart] at both
    nomatch both
  unfold word
  rw [spelled]
  simp [Pattern.ends, missed]

/-- No match begins at a unit that is in no word. -/
theorem no_match_of_not_word {unit : UInt16} (apart : isWord unit = false)
    (before : Option UInt16) (rest : List UInt16) :
    secretKeyPattern.matchLength ⟨before, unit :: rest⟩ = none := by
  have keys : (choice (secretKeys.map word)).ends ⟨before, unit :: rest⟩ = [] := by
    apply choice_ends_nil
    intro pattern listed
    obtain ⟨name, named, rfl⟩ := List.mem_map.mp listed
    exact key_ends_nil apart named before rest
  have ends : secretKeyPattern.ends ⟨before, unit :: rest⟩ = [] := by
    unfold secretKeyPattern assignment sequence
    show List.flatMap _ (Pattern.ends .boundary _) = []
    unfold Pattern.ends
    split
    · rw [List.flatMap_singleton]
      show List.flatMap _ ((choice (secretKeys.map word)).ends _) = []
      rw [keys]
      rfl
    · rfl
  unfold Pattern.matchLength
  rw [ends]
  rfl

theorem mem_seq {first second : Pattern} {cursor between last : Cursor}
    (head : between ∈ first.ends cursor) (tail : last ∈ second.ends between) :
    last ∈ (Pattern.seq first second).ends cursor :=
  List.mem_flatMap.mpr ⟨between, head, tail⟩

theorem mem_many {accepts : UInt16 → Bool} {taken : List UInt16} (all : taken.all accepts = true)
    (before : Option UInt16) (rest : List UInt16) :
    (⟨taken.getLast?.or before, rest⟩ : Cursor) ∈
      (Pattern.many accepts).ends ⟨before, taken ++ rest⟩ := by
  change _ ∈ TextRewrite.manyEnds accepts before (taken ++ rest)
  induction taken generalizing before with
  | nil => exact TextRewrite.mem_manyEnds_start _ _ _
  | cons unit taken ih =>
      rw [List.all_cons, Bool.and_eq_true] at all
      have later := ih all.2 (some unit)
      rw [List.cons_append, List.getLast?_cons]
      unfold TextRewrite.manyEnds
      rw [if_pos all.1]
      refine List.mem_append.mpr (Or.inl ?_)
      cases last : taken.getLast? with
      | none =>
          rw [last] at later
          exact later
      | some final =>
          rw [last] at later
          exact later

/-- A listed key, a mark between spaces and a value are matched where a word may begin. -/
theorem key_ends_ne_nil {key gap gap' value : List UInt16} {mark : UInt16} {before : Option UInt16}
    (begins : before.any isWord = false) (listed : IsSecretKey key)
    (spaces : gap.all isSpace = true) (isMark : oneOf ":=" mark = true)
    (spaces' : gap'.all isSpace = true)
    (valued : ∀ before, assignedValue.ends ⟨before, value⟩ ≠ []) :
    secretKeyPattern.ends ⟨before, key ++ (gap ++ mark :: (gap' ++ value))⟩ ≠ [] := by
  obtain ⟨some, words⟩ := key_isWord listed
  obtain ⟨name, named, same⟩ := listed
  obtain ⟨initial, units, spelled⟩ := List.exists_cons_of_ne_nil some
  have opens : (⟨before, key ++ (gap ++ mark :: (gap' ++ value))⟩ : Cursor).atBoundary = true := by
    unfold Cursor.atBoundary
    rw [begins, spelled]
    have inWord := words initial (by rw [spelled]; exact List.mem_cons_self)
    simp [inWord]
  have ended : (gap ++ mark :: (gap' ++ value)).head?.any isWord = false := by
    cases gap with
    | nil => exact (mark_apart isMark).1
    | cons space gap =>
        rw [List.all_cons, Bool.and_eq_true] at spaces
        exact (isSpace_apart spaces.1).1
  have closes : (⟨key.getLast?.or before, gap ++ mark :: (gap' ++ value)⟩ : Cursor).atBoundary =
      true := by
    unfold Cursor.atBoundary
    rw [ended, List.getLast?_eq_some_getLast some]
    have inWord := words _ (List.getLast_mem some)
    simp [inWord]
  obtain ⟨last, others, found⟩ :=
    List.exists_cons_of_ne_nil (valued (gap'.getLast?.or (Option.some mark)))
  have taken : last ∈ (Pattern.seq assignedValue .empty).ends
      ⟨gap'.getLast?.or (Option.some mark), value⟩ :=
    List.mem_flatMap.mpr ⟨last, by rw [found]; exact List.mem_cons_self, List.mem_singleton_self _⟩
  have marked : (⟨Option.some mark, gap' ++ value⟩ : Cursor) ∈ (Pattern.unit (oneOf ":=")).ends
      ⟨gap.getLast?.or (key.getLast?.or before), mark :: (gap' ++ value)⟩ := by
    simp [Pattern.ends, isMark]
  have closed : (⟨key.getLast?.or before, gap ++ mark :: (gap' ++ value)⟩ : Cursor) ∈
      Pattern.boundary.ends ⟨key.getLast?.or before, gap ++ mark :: (gap' ++ value)⟩ := by
    simp [Pattern.ends, closes]
  have opened : (⟨before, key ++ (gap ++ mark :: (gap' ++ value))⟩ : Cursor) ∈
      Pattern.boundary.ends ⟨before, key ++ (gap ++ mark :: (gap' ++ value))⟩ := by
    simp [Pattern.ends, opens]
  have keyed := choice_mem_ends (List.mem_map_of_mem named)
    (word_mem_ends same before (gap ++ mark :: (gap' ++ value)))
  exact List.ne_nil_of_mem (mem_seq opened (mem_seq keyed (mem_seq closed (mem_seq
    (mem_many spaces _ _) (mem_seq marked (mem_seq (mem_many spaces' _ _) taken))))))

theorem assignedValue_ne_nil {first : UInt16} (plain : inValue first = true) (value : List UInt16)
    (before : Option UInt16) : assignedValue.ends ⟨before, first :: value⟩ ≠ [] := by
  have run : (⟨some first, value⟩ : Cursor) ∈ (some1 inRun).ends ⟨before, first :: value⟩ := by
    refine List.mem_flatMap.mpr ⟨⟨some first, value⟩, ?_, TextRewrite.mem_manyEnds_start _ _ _⟩
    simp [Pattern.ends, inRun_of_inValue plain]
  rw [assignedValue_eq]
  exact List.ne_nil_of_mem (List.mem_append.mpr (Or.inr (List.mem_append.mpr (Or.inr run))))

/-! ## The two lines -/

theorem assignmentHead_of_mark {front rest : List UInt16} {mark : UInt16}
    (isMark : oneOf ":=" mark = true) :
    assignmentHead (front ++ mark :: rest) ≤ front.length + 1 := by
  unfold assignmentHead
  induction front with
  | nil => simp [List.findIdx?_cons, isMark]
  | cons unit front ih =>
      rw [List.cons_append, List.findIdx?_cons]
      by_cases own : oneOf ":=" unit = true
      · simp [own]
      · rw [if_neg own]
        cases found : (front ++ mark :: rest).findIdx? (oneOf ":=") with
        | none => simp
        | some idx =>
            rw [found] at ih
            have bound : idx + 1 ≤ front.length + 1 := ih
            show idx + 1 + 1 ≤ (unit :: front).length + 1
            rw [List.length_cons]
            omega

theorem assignmentHead_congr {front rest rest' : List UInt16} {mark : UInt16}
    (isMark : oneOf ":=" mark = true) :
    assignmentHead (front ++ mark :: rest) = assignmentHead (front ++ mark :: rest') := by
  unfold assignmentHead
  have found : ∀ rest : List UInt16, ((front ++ [mark]).findIdx? (oneOf ":=")).isSome = true ∧
      (front ++ mark :: rest).findIdx? (oneOf ":=") = (front ++ [mark]).findIdx? (oneOf ":=") := by
    intro rest
    have here : ((front ++ [mark]).findIdx? (oneOf ":=")).isSome = true := by
      rw [List.findIdx?_isSome, List.any_append]
      simp [isMark]
    refine ⟨here, ?_⟩
    have split : front ++ mark :: rest = (front ++ [mark]) ++ rest := by simp
    rw [split, List.findIdx?_append]
    obtain ⟨idx, found⟩ := Option.isSome_iff_exists.mp here
    rw [found]
    rfl
  rw [(found rest).2, (found rest').2]

/-- A match that begins before a stretch of plain units ends before it or takes all of it. -/
theorem match_spares_or_takes {front stretch after taken rest : List UInt16} {last : UInt16}
    (line : front ++ (stretch ++ after) = taken ++ last :: rest)
    (ends : last = 34 ∨ last = 39 ∨ rest.head?.any inRun = false)
    (plain : ∀ unit ∈ stretch, inValue unit = true) :
    (∃ between, front = taken ++ last :: between ∧ rest = between ++ (stretch ++ after)) ∨
      ∃ more, taken ++ [last] = front ++ stretch ++ more ∧ after = more ++ rest := by
  have whole : front ++ (stretch ++ after) = (taken ++ [last]) ++ rest := by
    rw [line, List.append_assoc]
    rfl
  rcases List.append_eq_append_iff.mp whole with ⟨beyond, split, others⟩ | ⟨between, split, others⟩
  · rcases List.append_eq_append_iff.mp others with ⟨more, covers, left⟩ | ⟨inside, cut, left⟩
    · exact Or.inr ⟨more, by rw [split, covers, List.append_assoc], left⟩
    · -- The end would lie within the stretch.
      cases inside with
      | nil =>
          rw [List.append_nil] at cut
          exact Or.inr ⟨[], by rw [split, cut, List.append_nil], by simpa using left.symm⟩
      | cons next inside =>
          have plainNext : inValue next = true := plain next (by rw [cut]; simp)
          cases beyond using List.reverseRecOn with
          | nil =>
              refine Or.inl ⟨[], ?_, ?_⟩
              · rw [List.append_nil] at split
                exact split.symm
              · rw [List.nil_append] at cut
                rw [left, cut]
                rfl
          | append_singleton beyond final _ =>
              have same : last = final := by
                rw [← List.append_assoc] at split
                exact List.singleton_inj.mp (List.append_inj' split rfl).2
              have plainLast : inValue last = true := plain last (by rw [cut, same]; simp)
              obtain ⟨-, -, -, double, single⟩ := inValue_iff.mp plainLast
              rw [left] at ends
              simp [double, single, inRun_of_inValue plainNext] at ends
  · exact Or.inl ⟨between, by rw [split, List.append_assoc]; rfl, others⟩

/-- The rule of the first pass. -/
def firstPass : Rule := redactAssignment secretKeyPattern

/-- What comes before a line matters to no match when it begins with no word. -/
theorem rewriteFrom_forgets {rest : List UInt16} (apart : rest.head?.any isWord = false)
    (before before' : Option UInt16) :
    firstPass.rewriteFrom before [] rest = firstPass.rewriteFrom before' [] rest := by
  cases rest with
  | nil => rfl
  | cons unit rest =>
      have notWord : isWord unit = false := by simpa using apart
      rw [firstPass.rewriteFrom_no_match (no_match_of_not_word notWord before rest),
        firstPass.rewriteFrom_no_match (no_match_of_not_word notWord before' rest)]

theorem matchLength_eq_some {pattern : Pattern} {cursor : Cursor} {length : Nat}
    (found : pattern.matchLength cursor = some length) :
    ∃ last, (pattern.ends cursor).head? = some last ∧
      length = cursor.rest.length - last.rest.length := by
  obtain ⟨last, head, same⟩ := Option.map_eq_some_iff.mp found
  exact ⟨last, head, same.symm⟩

theorem matchLength_aligned {pattern : Pattern} {cursor cursor' : Cursor}
    (lines : cursor.rest.length = cursor'.rest.length)
    (ends : List.Forall₂ (Aligned Alike) (pattern.ends cursor) (pattern.ends cursor')) :
    pattern.matchLength cursor = pattern.matchLength cursor' := by
  unfold Pattern.matchLength
  rw [lines]
  generalize pattern.ends cursor = first at ends ⊢
  generalize pattern.ends cursor' = second at ends ⊢
  cases ends with
  | nil => rfl
  | cons head _ =>
      rw [List.head?_cons, List.head?_cons, Option.map_some, Option.map_some, head.length_eq]

theorem bare_units {key secret : List UInt16} {mark : UInt16} (listed : IsSecretKey key)
    (isMark : oneOf ":=" mark = true) (plain : secret.all inValue = true) :
    ∀ unit ∈ key ++ mark :: secret, inValue unit = true := by
  intro unit present
  cases List.mem_append.mp present with
  | inl inKey => exact inValue_of_isWord ((key_isWord listed).2 unit inKey)
  | inr later =>
      cases List.mem_cons.mp later with
      | inr inSecret => exact List.all_eq_true.mp plain unit inSecret
      | inl here =>
          rw [here]
          cases mark_iff.mp isMark with
          | inl colon => rw [colon]; rfl
          | inr equals => rw [equals]; rfl

/-- What stops a value begins no word. -/
theorem no_word_of_no_run {rest : List UInt16} (stops : rest.head?.any inRun = false) :
    rest.head?.any isWord = false := by
  cases rest with
  | nil => rfl
  | cons unit rest =>
      have refused : inRun unit = false := by simpa using stops
      by_contra inWord
      have taken := inRun_of_inValue (inValue_of_isWord (by simpa using inWord))
      rw [refused] at taken
      nomatch taken

/-- What a replacement keeps of a match does not depend on what follows the mark. -/
theorem kept_congr {front rest rest' : List UInt16} {mark : UInt16}
    (isMark : oneOf ":=" mark = true) :
    (front ++ mark :: rest).take (assignmentHead (front ++ mark :: rest)) =
      (front ++ mark :: rest').take (assignmentHead (front ++ mark :: rest')) := by
  have bound := @assignmentHead_of_mark front rest mark isMark
  rw [@assignmentHead_congr front rest' rest mark isMark]
  have cutAt : ∀ tail : List UInt16, front ++ mark :: tail = (front ++ [mark]) ++ tail := by simp
  have size : (front ++ [mark]).length = front.length + 1 := List.length_append
  rw [cutAt rest, ← size] at bound
  rw [cutAt rest, cutAt rest', List.take_append_of_le_length bound,
    List.take_append_of_le_length bound]

/-- After a match that takes a whole stretch of plain units, nothing tells which they were. -/
theorem rewriteFrom_after {front stretch stretch' more start rest : List UInt16} {final : UInt16}
    (some : stretch ≠ []) (plain : ∀ unit ∈ stretch, inValue unit = true)
    (cut : start ++ [final] = front ++ stretch ++ more)
    (how : final = 34 ∨ final = 39 ∨ rest.head?.any inRun = false) (before : Option UInt16) :
    firstPass.rewriteFrom ((front ++ stretch ++ more).getLast?.or before) [] rest =
      firstPass.rewriteFrom ((front ++ stretch' ++ more).getLast?.or before) [] rest := by
  cases more using List.reverseRecOn with
  | nil =>
      -- The match ends with the stretch, so it stopped where the run does.
      have plainFinal : inValue final = true := by
        have last := congrArg List.getLast? cut
        rw [List.append_nil, List.getLast?_concat, List.getLast?_append,
          List.getLast?_eq_some_getLast some, Option.some_or] at last
        rw [Option.some.inj last]
        exact plain _ (List.getLast_mem some)
      obtain ⟨-, -, -, double, single⟩ := inValue_iff.mp plainFinal
      have stops : rest.head?.any inRun = false := by simpa [double, single] using how
      exact rewriteFrom_forgets (no_word_of_no_run stops) _ _
  | append_singleton more z _ =>
      rw [← List.append_assoc, ← List.append_assoc, List.getLast?_concat, List.getLast?_concat]

/-- Two matches that keep the same of what they take, and after which the lines agree. -/
theorem rewriteFrom_taken {taken taken' rest : List UInt16} {before : Option UInt16}
    (found : secretKeyPattern.matchLength ⟨before, taken ++ rest⟩ = some taken.length)
    (found' : secretKeyPattern.matchLength ⟨before, taken' ++ rest⟩ = some taken.length)
    (length : taken.length = taken'.length) (short : assignmentHead taken < taken.length)
    (short' : assignmentHead taken' < taken'.length)
    (kept : taken.take (assignmentHead taken) = taken'.take (assignmentHead taken'))
    (after : firstPass.rewriteFrom (taken.getLast?.or before) [] rest =
      firstPass.rewriteFrom (taken'.getLast?.or before) [] rest) :
    firstPass.rewriteFrom before [] (taken ++ rest) =
      firstPass.rewriteFrom before [] (taken' ++ rest) := by
  rw [length] at found'
  rw [firstPass.rewriteFrom_match found rfl short, firstPass.rewriteFrom_match found' rfl short']
  exact congrArg₂ (fun head rest => head ++ firstPass.marker ++ rest) kept after

/-- A match of the first pass: what it takes, of which it keeps less than the whole. -/
theorem assignment_taken {before : Option UInt16} {line : List UInt16} {count : Nat}
    (found : secretKeyPattern.matchLength ⟨before, line⟩ = some count) :
    ∃ start final rest, line = start ++ final :: rest ∧ count = (start ++ [final]).length ∧
      (final = 34 ∨ final = 39 ∨ rest.head?.any inRun = false) ∧
      assignmentHead (start ++ [final]) < (start ++ [final]).length := by
  obtain ⟨last, head, counted⟩ := matchLength_eq_some found
  obtain ⟨lead, own, gap, value, isOwn, split, valueEnds⟩ := assignment_head head
  obtain ⟨inner, final, taken, how⟩ := valueEnds.taken
  change line = _ at split
  refine ⟨lead ++ own :: (gap ++ inner), final, last.rest, ?_, ?_, how, ?_⟩
  · rw [split, taken]
    simp
  · rw [counted]
    show line.length - _ = _
    rw [split, taken]
    simp only [List.length_append, List.length_cons, List.length_nil]
    omega
  · have bound := @assignmentHead_of_mark lead (gap ++ inner ++ [final]) own isOwn
    simp only [List.append_assoc, List.cons_append] at bound ⊢
    refine Nat.lt_of_le_of_lt bound ?_
    simp only [List.length_append, List.length_cons, List.length_nil]
    omega

theorem rewriteFrom_bare {key secret other after : List UInt16} {mark : UInt16}
    (listed : IsSecretKey key) (isMark : oneOf ":=" mark = true) (some : secret ≠ [])
    (length : secret.length = other.length) (plain : secret.all inValue = true)
    (plain' : other.all inValue = true) (front : List UInt16) (before : Option UInt16)
    (begins : (front.getLast?.or before).any isWord = false) :
    firstPass.rewriteFrom before [] (front ++ (key ++ mark :: secret ++ after)) =
      firstPass.rewriteFrom before [] (front ++ (key ++ mark :: other ++ after)) := by
  induction size : front.length using Nat.strongRecOn generalizing front before with
  | ind n ih =>
      subst size
      have stretch := bare_units listed isMark plain
      have tails : List.Forall₂ Alike (secret ++ after) (other ++ after) :=
        List.rel_append (alike_of_plain length plain plain') (alike_refl after)
      have same : SameUpTo mark (secret ++ after) (other ++ after)
          ⟨before, front ++ (key ++ mark :: secret ++ after)⟩
          ⟨before, front ++ (key ++ mark :: other ++ after)⟩ :=
        ⟨rfl, front ++ key, by simp, by simp⟩
      have ends := assignment_aligned (secretKeys_reject isMark) (mark_apart isMark).2 tails same
      have lengths := matchLength_aligned (by simp [length]) ends
      change secretKeyPattern.matchLength _ = secretKeyPattern.matchLength _ at lengths
      cases found : secretKeyPattern.matchLength
          ⟨before, front ++ (key ++ mark :: secret ++ after)⟩ with
      | none =>
          rw [found] at lengths
          cases front with
          | nil =>
              obtain ⟨first, value, rfl⟩ := List.exists_cons_of_ne_nil some
              have matched := @key_ends_ne_nil key [] [] (first :: (value ++ after)) mark before
                (by simpa using begins) listed rfl isMark rfl
                (assignedValue_ne_nil (List.all_eq_true.mp plain first List.mem_cons_self) _)
              have missed : secretKeyPattern.ends
                  ⟨before, key ++ ([] ++ mark :: ([] ++ (first :: (value ++ after))))⟩ = [] := by
                rw [TextRewrite.Pattern.matchLength, Option.map_eq_none_iff, List.head?_eq_none_iff]
                  at found
                simpa using found
              exact absurd missed matched
          | cons unit front =>
              rw [List.cons_append] at found lengths
              rw [List.cons_append, List.cons_append, firstPass.rewriteFrom_no_match found,
                firstPass.rewriteFrom_no_match lengths.symm]
              refine congrArg (unit :: ·) (ih front.length (Nat.lt_succ_self _) front _ ?_ rfl)
              rw [List.getLast?_cons] at begins
              cases last : front.getLast? with
              | none => simpa [last] using begins
              | some final => simpa [last] using begins
      | some count =>
          rw [found] at lengths
          obtain ⟨start, final, rest, whole, counted, how, short⟩ := assignment_taken found
          subst counted
          cases match_spares_or_takes whole how stretch with
          | inl spares =>
              obtain ⟨between, rfl, -⟩ := spares
              have lines : ∀ tail : List UInt16,
                  start ++ final :: between ++ tail = (start ++ [final]) ++ (between ++ tail) := by
                simp
              rw [lines] at found lengths
              rw [lines, lines, firstPass.rewriteFrom_match found rfl short,
                firstPass.rewriteFrom_match lengths.symm rfl short]
              refine congrArg (_ ++ ·) (ih between.length ?_ between _ ?_ rfl)
              · simp only [List.length_append, List.length_cons]
                omega
              · rw [← Option.or_assoc, ← List.getLast?_append]
                simpa using begins
          | inr takes =>
              obtain ⟨more, cut, left⟩ := takes
              have lines : ∀ value : List UInt16, front ++ (key ++ mark :: value ++ after) =
                  (front ++ (key ++ mark :: value) ++ more) ++ rest := by
                intro value
                rw [left]
                simp
              have marked : ∀ value : List UInt16, front ++ (key ++ mark :: value) ++ more =
                  (front ++ key) ++ mark :: (value ++ more) := by
                intro value
                simp
              have equal : (front ++ (key ++ mark :: secret) ++ more).length =
                  (front ++ (key ++ mark :: other) ++ more).length := by
                simp [length]
              rw [cut] at found lengths short
              have short' : assignmentHead (front ++ (key ++ mark :: other) ++ more) <
                  (front ++ (key ++ mark :: other) ++ more).length := by
                rw [← equal, marked, assignmentHead_congr isMark, ← marked]
                exact short
              rw [lines] at found lengths
              rw [lines, lines]
              refine rewriteFrom_taken found lengths.symm equal short short' ?_
                (rewriteFrom_after (by simp) stretch cut how before)
              rw [marked, marked]
              exact kept_congr isMark

/-! ## Secrets that are hidden -/

/-- A value without quotes, right after a listed key and its mark. -/
def WrittenBare (before secret : List UInt16) : Prop :=
  ∃ front key mark, before = front ++ key ++ [mark] ∧ WordMayBegin front ∧ IsSecretKey key ∧
    oneOf ":=" mark = true ∧ secret ≠ [] ∧ secret.all inValue = true

theorem sanitizeLogLine_eq (line : List UInt16) :
    sanitizeLogLine line =
      TextRewrite.rewriteAll passes.tail (firstPass.rewriteFrom none [] line) := by
  have split : passes = firstPass :: passes.tail := rfl
  calc sanitizeLogLine line
      = TextRewrite.rewriteAll (firstPass :: passes.tail) line :=
        congrArg (fun rules => TextRewrite.rewriteAll rules line) split
    _ = TextRewrite.rewriteAll passes.tail (firstPass.rewriteFrom none [] line) := by
        rw [TextRewrite.rewriteAll, List.foldl_cons]
        rfl

/-- Whatever the rest of the line is, a match takes a bare value whole. -/
theorem bare_hidden {before secret other after : List UInt16}
    (length : secret.length = other.length) (bare : WrittenBare before secret)
    (plain' : other.all inValue = true) : Hidden before secret other after := by
  obtain ⟨front, key, mark, rfl, begins, listed, isMark, some, plain⟩ := bare
  have first := @rewriteFrom_bare key secret other after mark listed isMark some length plain plain'
    front none (by rw [Option.or_none]; exact begins)
  have lines : ∀ value : List UInt16, front ++ key ++ [mark] ++ value ++ after =
      front ++ (key ++ mark :: value ++ after) := by simp
  unfold Hidden
  rw [lines, lines, sanitizeLogLine_eq, sanitizeLogLine_eq, first]

end KasGraph.LogSanitizer
