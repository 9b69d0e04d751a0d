import KasGraph.SanitizedAssignments

set_option autoImplicit false

/-! The first assignment of a line: it is hidden with spaces around its mark and with its value in
quotes as well, since no earlier match can take its key or its opening quote. -/

namespace KasGraph.LogSanitizer

open Utf16 (encode)

open TextRewrite (Pattern Rule Cursor isWord)

/-! ## Where a line splits -/

theorem split_at_first (accepts : UInt16 → Bool) {front front' rest rest' : List UInt16}
    {unit unit' : UInt16} (same : front ++ unit :: rest = front' ++ unit' :: rest')
    (none_in : front.all (!accepts ·) = true) (none_in' : front'.all (!accepts ·) = true)
    (here : accepts unit = true) (here' : accepts unit' = true) :
    front = front' ∧ unit = unit' ∧ rest = rest' := by
  have cut : ∀ (front rest : List UInt16) (unit : UInt16), front.all (!accepts ·) = true →
      accepts unit = true → (front ++ unit :: rest).takeWhile (!accepts ·) = front := by
    intro front rest unit none_in here
    rw [List.takeWhile_append_of_pos (List.all_eq_true.mp none_in),
      List.takeWhile_cons_of_neg (by simp [here]), List.append_nil]
  have fronts : front = front' := by
    rw [← cut front rest unit none_in here, same, cut front' rest' unit' none_in' here']
  rw [fronts] at same
  obtain ⟨units, rests⟩ := List.cons.inj (List.append_cancel_left same)
  exact ⟨fronts, units, rests⟩

theorem no_mark_in_key {key gap : List UInt16} (words : ∀ unit ∈ key, isWord unit = true)
    (spaces : gap.all isSpace = true) : (key ++ gap).all (!oneOf ":=" ·) = true := by
  rw [List.all_eq_true]
  intro unit present
  cases List.mem_append.mp present with
  | inl inKey =>
      by_contra isMark
      have apart := (mark_apart (by simpa using isMark)).1
      rw [words unit inKey] at apart
      nomatch apart
  | inr inGap =>
      have apart := (isSpace_apart (List.all_eq_true.mp spaces unit inGap)).2
      simp [apart]

/-! ## The parts of a match -/

theorem boundary_stays {cursor last : Cursor} (found : last ∈ Pattern.boundary.ends cursor) :
    last = cursor := by
  by_cases here : cursor.atBoundary = true
  · simpa [Pattern.ends, here] using found
  · simp [Pattern.ends, here] at found

theorem word_takes {s : String} {cursor last : Cursor} (found : last ∈ (word s).ends cursor) :
    ∃ key, cursor.rest = key ++ last.rest ∧ key.map foldCase = (encode s).map foldCase := by
  unfold word at found
  generalize encode s = units at found ⊢
  induction units generalizing cursor with
  | nil =>
      rw [List.mem_singleton.mp found]
      exact ⟨[], rfl, rfl⟩
  | cons unit units ih =>
      obtain ⟨between, first, later⟩ := List.mem_flatMap.mp found
      obtain ⟨own, start, folded⟩ := unit_takes first
      obtain ⟨key, more, spelled⟩ := ih later
      refine ⟨own :: key, by rw [start, more]; rfl, ?_⟩
      rw [List.map_cons, List.map_cons, spelled, of_decide_eq_true folded]

theorem choice_takes {patterns : List Pattern} {cursor last : Cursor}
    (found : last ∈ (choice patterns).ends cursor) :
    ∃ pattern ∈ patterns, last ∈ pattern.ends cursor := by
  induction patterns with
  | nil =>
      obtain ⟨unit, -, accepted⟩ := unit_takes found
      nomatch accepted
  | cons first rest ih =>
      cases rest with
      | nil => exact ⟨first, List.mem_cons_self, found⟩
      | cons second rest =>
          cases List.mem_append.mp found with
          | inl here => exact ⟨first, List.mem_cons_self, here⟩
          | inr later =>
              obtain ⟨pattern, listed, ends⟩ := ih later
              exact ⟨pattern, List.mem_cons_of_mem _ listed, ends⟩

theorem keys_take {cursor last : Cursor}
    (found : last ∈ (choice (secretKeys.map word)).ends cursor) :
    ∃ key, IsSecretKey key ∧ cursor.rest = key ++ last.rest := by
  obtain ⟨pattern, listed, ends⟩ := choice_takes found
  obtain ⟨name, named, rfl⟩ := List.mem_map.mp listed
  obtain ⟨key, split, spelled⟩ := word_takes ends
  exact ⟨key, ⟨name, named, spelled⟩, split⟩

/-- A match is a listed key, a mark between spaces, and the first end of a value. -/
theorem secret_parse {cursor last : Cursor} (head : (secretKeyPattern.ends cursor).head? = some last) :
    ∃ key gap mark gap' value, IsSecretKey key ∧ gap.all isSpace = true ∧
      oneOf ":=" mark = true ∧ gap'.all isSpace = true ∧
      cursor.rest = key ++ gap ++ mark :: (gap' ++ value.rest) ∧
      (assignedValue.ends value).head? = some last := by
  obtain ⟨c₁, found₁, head⟩ := Pattern.head_seq head
  obtain ⟨c₂, found₂, head⟩ := Pattern.head_seq head
  obtain ⟨c₃, found₃, head⟩ := Pattern.head_seq head
  obtain ⟨c₄, found₄, head⟩ := Pattern.head_seq head
  obtain ⟨c₅, found₅, head⟩ := Pattern.head_seq head
  obtain ⟨c₆, found₆, head⟩ := Pattern.head_seq head
  rw [boundary_stays found₁] at found₂
  rw [boundary_stays found₃] at found₄
  obtain ⟨key, listed, split₂⟩ := keys_take found₂
  obtain ⟨gap, split₄, spaces⟩ := TextRewrite.manyEnds_suffix found₄
  obtain ⟨mark, split₅, isMark⟩ := unit_takes found₅
  obtain ⟨gap', split₆, spaces'⟩ := TextRewrite.manyEnds_suffix found₆
  refine ⟨key, gap, mark, gap', c₆, listed, spaces, isMark, spaces', ?_, ?_⟩
  · rw [split₂, split₄, split₅, split₆, List.append_assoc]
  · change ((assignedValue.ends c₆).flatMap fun cursor => [cursor]).head? = some last at head
    rw [List.flatMap_singleton'] at head
    exact head

/-! ## Values -/

/-- From its beginning a value is taken up to this rest of the line. -/
def ValueUpTo (value rest : List UInt16) : Prop :=
  ∀ before, ∃ last, (assignedValue.ends ⟨before, value⟩).head? = some last ∧ last.rest = rest

theorem manyEnds_first (accepts : UInt16 → Bool) (before : Option UInt16) (rest : List UInt16) :
    ∃ last, (TextRewrite.manyEnds accepts before rest).head? = some last ∧
      last.rest = rest.dropWhile accepts := by
  induction rest generalizing before with
  | nil => exact ⟨_, rfl, rfl⟩
  | cons unit rest ih =>
      unfold TextRewrite.manyEnds
      rw [List.dropWhile_cons]
      by_cases accepted : accepts unit = true
      · rw [if_pos accepted, if_pos accepted,
          List.head?_append_of_ne_nil _ (TextRewrite.manyEnds_ne_nil accepts _ rest)]
        exact ih (some unit)
      · rw [if_neg accepted, if_neg accepted]
        exact ⟨_, rfl, rfl⟩

theorem quotedValue_misses {quote unit : UInt16} (other : unit ≠ quote) (before : Option UInt16)
    (rest : List UInt16) : (quotedValue quote).ends ⟨before, unit :: rest⟩ = [] := by
  simp [quotedValue, Pattern.ends, other]

/-- A value between quotes is taken up to the closing one. -/
theorem quotedValue_first {quote : UInt16} {secret : List UInt16} (apart : quote ∉ secret)
    (after : List UInt16) (before : Option UInt16) :
    ((quotedValue quote).ends ⟨before, quote :: (secret ++ quote :: after)⟩).head? =
      some ⟨some quote, after⟩ := by
  obtain ⟨stop, head, rest⟩ :=
    manyEnds_first (fun u => !decide (u = quote)) (some quote) (secret ++ quote :: after)
  have others : ∀ unit ∈ secret, (!decide (unit = quote)) = true := by
    intro unit present
    have differs : unit ≠ quote := fun same => apart (same ▸ present)
    simp [differs]
  rw [List.dropWhile_append_of_pos others, List.dropWhile_cons_of_neg (by simp)] at rest
  obtain ⟨at_, left⟩ := stop
  change left = _ at rest
  subst rest
  obtain ⟨later, found⟩ := List.head?_eq_some_iff.mp head
  simp [quotedValue, Pattern.ends, found]

theorem valueUpTo_quoted {quote : UInt16} {secret : List UInt16}
    (isQuote : quote = 34 ∨ quote = 39) (apart : quote ∉ secret) (after : List UInt16) :
    ValueUpTo (quote :: (secret ++ quote :: after)) after := by
  intro before
  have first := quotedValue_first apart after before
  refine ⟨⟨some quote, after⟩, ?_, rfl⟩
  rw [assignedValue_eq]
  show ((quotedValue 34).ends _ ++ ((quotedValue 39).ends _ ++ _)).head? = _
  cases isQuote with
  | inl double =>
      subst double
      rw [List.head?_append, first]
      rfl
  | inr single =>
      subst single
      rw [quotedValue_misses (by decide), List.nil_append, List.head?_append, first]
      rfl

theorem valueUpTo_bare {secret : List UInt16} (some_in : secret ≠ [])
    (plain : secret.all inValue = true) (after : List UInt16) :
    ValueUpTo (secret ++ after) (after.dropWhile inRun) := by
  intro before
  obtain ⟨unit, more, rfl⟩ := List.exists_cons_of_ne_nil some_in
  rw [List.all_cons, Bool.and_eq_true] at plain
  obtain ⟨last, head, rest⟩ := manyEnds_first inRun (some unit) (more ++ after)
  obtain ⟨-, -, -, double, single⟩ := inValue_iff.mp plain.1
  have run : ∀ other ∈ more, inRun other = true := fun other present =>
    inRun_of_inValue (List.all_eq_true.mp plain.2 other present)
  rw [List.dropWhile_append_of_pos run] at rest
  refine ⟨last, ?_, rest⟩
  rw [assignedValue_eq, List.cons_append]
  show ((quotedValue 34).ends _ ++ ((quotedValue 39).ends _ ++ (some1 inRun).ends _)).head? = _
  rw [quotedValue_misses double, quotedValue_misses single, List.nil_append, List.nil_append]
  unfold some1
  simp only [Pattern.ends, inRun_of_inValue plain.1, if_true, List.flatMap_singleton]
  exact head

/-- No value begins with a space. -/
theorem value_begins {cursor last : Cursor} (found : last ∈ assignedValue.ends cursor) :
    ∃ unit rest, cursor.rest = unit :: rest ∧ isSpace unit = false := by
  obtain ⟨before, line⟩ := cursor
  rw [assignedValue_eq] at found
  cases line with
  | nil => nomatch found
  | cons unit rest =>
      refine ⟨unit, rest, rfl, ?_⟩
      by_contra space
      have isSpace : isSpace unit = true := by simpa using space
      have notRun : inRun unit = false := by simp [inRun, isSpace]
      have double : unit ≠ 34 := fun same => absurd (same ▸ isSpace) (by decide)
      have single : unit ≠ 39 := fun same => absurd (same ▸ isSpace) (by decide)
      change last ∈ (quotedValue 34).ends _ ++ ((quotedValue 39).ends _ ++ (some1 inRun).ends _)
        at found
      rw [quotedValue_misses double, quotedValue_misses single] at found
      simp [some1, Pattern.ends, notRun] at found

/-! ## The first assignment -/

/-- Before the first key nothing is matched. -/
theorem no_match_before {front key gap : List UInt16} {mark : UInt16} (some_in : front ≠ []) (begins : WordMayBegin front)
    (no_mark : front.all (!oneOf ":=" ·) = true) (listed : IsSecretKey key)
    (spaces : gap.all isSpace = true) (isMark : oneOf ":=" mark = true) (before : Option UInt16)
    (rest : List UInt16) :
    secretKeyPattern.matchLength ⟨before, front ++ (key ++ gap ++ mark :: rest)⟩ = none := by
  cases found : secretKeyPattern.matchLength ⟨before, front ++ (key ++ gap ++ mark :: rest)⟩ with
  | none => rfl
  | some count =>
      obtain ⟨last, head, -⟩ := matchLength_eq_some found
      obtain ⟨key', gap', mark', gap'', value, listed', spaces', isMark', -, line, -⟩ :=
        secret_parse head
      obtain ⟨key_some, words⟩ := key_isWord listed
      obtain ⟨-, words'⟩ := key_isWord listed'
      have no_mark_in : (front ++ (key ++ gap)).all (!oneOf ":=" ·) = true := by
        rw [List.all_append, no_mark, no_mark_in_key words spaces]
        rfl
      have marked : (front ++ (key ++ gap)) ++ mark :: rest =
          (key' ++ gap') ++ mark' :: (gap'' ++ value.rest) := by
        rw [List.append_assoc]
        exact line
      have same := (split_at_first (oneOf ":=") marked no_mark_in (no_mark_in_key words' spaces')
        isMark isMark').1
      obtain ⟨unit, units, rfl⟩ := List.exists_cons_of_ne_nil key_some
      obtain ⟨front, final, rfl⟩ := (List.eq_nil_or_concat front).resolve_left some_in
      have apart : isWord final = false := by simpa [WordMayBegin] using begins
      rcases List.append_eq_append_iff.mp same with ⟨more, own, -⟩ | ⟨more, -, own⟩
      · have inKey := words' final (by rw [own]; simp)
        rw [apart] at inKey
        nomatch inKey
      · have inGap : unit ∈ gap' := by rw [own]; simp
        have space := (isSpace_apart (List.all_eq_true.mp spaces' unit inGap)).1
        rw [words unit List.mem_cons_self] at space
        nomatch space

theorem key_matches {key gap gap' value rest : List UInt16} {mark : UInt16} {before : Option UInt16}
    (begins : before.any isWord = false) (listed : IsSecretKey key)
    (spaces : gap.all isSpace = true) (isMark : oneOf ":=" mark = true)
    (spaces' : gap'.all isSpace = true) (upTo : ValueUpTo value rest) :
    secretKeyPattern.matchLength ⟨before, key ++ gap ++ mark :: (gap' ++ value)⟩ =
      some ((key ++ gap ++ mark :: (gap' ++ value)).length - rest.length) := by
  have valued : ∀ before, assignedValue.ends ⟨before, value⟩ ≠ [] := by
    intro before
    obtain ⟨last, head, -⟩ := upTo before
    exact List.ne_nil_of_mem (List.mem_of_mem_head? head)
  have ends := key_ends_ne_nil begins listed spaces isMark spaces' valued
  rw [← List.append_assoc] at ends
  obtain ⟨last, others, found⟩ := List.exists_cons_of_ne_nil ends
  have head : (secretKeyPattern.ends
      ⟨before, key ++ gap ++ mark :: (gap' ++ value)⟩).head? = some last := by
    rw [found]
    rfl
  obtain ⟨key', gap₁, mark', gap₂, start, listed', spaces₁, isMark', spaces₂, line, first⟩ :=
    secret_parse head
  have tails : gap' ++ value = gap₂ ++ start.rest :=
    (split_at_first (oneOf ":=") line (no_mark_in_key (key_isWord listed).2 spaces)
      (no_mark_in_key (key_isWord listed').2 spaces₁) isMark isMark').2.2
  -- The second gap is taken whole, since the value begins with no space.
  obtain ⟨unit, units, begun, apart⟩ := value_begins (List.mem_of_mem_head? first)
  obtain ⟨_, early, -⟩ := upTo none
  obtain ⟨unit', units', begun', apart'⟩ := value_begins (List.mem_of_mem_head? early)
  change value = unit' :: units' at begun'
  have same : start.rest = value := by
    rw [begun, begun'] at tails ⊢
    obtain ⟨-, rfl, rfl⟩ := split_at_first (!isSpace ·) tails (by simpa using spaces')
      (by simpa using spaces₂) (by simp [apart']) (by simp [apart])
    rfl
  obtain ⟨last', head', left⟩ := upTo start.before
  rw [← same] at head'
  have lasts : last = last' := Option.some.inj (first.symm.trans head')
  unfold Pattern.matchLength
  rw [head, Option.map_some, lasts, left]

/-- Up to the first key a line stays as it is. -/
theorem rewriteFrom_front {front key gap rest : List UInt16} {mark : UInt16}
    (begins : WordMayBegin front) (no_mark : front.all (!oneOf ":=" ·) = true)
    (listed : IsSecretKey key) (spaces : gap.all isSpace = true)
    (isMark : oneOf ":=" mark = true) (before : Option UInt16) :
    firstPass.rewriteFrom before [] (front ++ (key ++ gap ++ mark :: rest)) =
      front ++ firstPass.rewriteFrom (front.getLast?.or before) [] (key ++ gap ++ mark :: rest) := by
  induction front generalizing before with
  | nil => rfl
  | cons unit front ih =>
      have missed := no_match_before (List.cons_ne_nil unit front) begins no_mark listed spaces isMark
        before rest
      have later : WordMayBegin front := by
        unfold WordMayBegin at begins ⊢
        rw [List.getLast?_cons] at begins
        cases last : front.getLast? with
        | none => rfl
        | some final => simpa [last] using begins
      rw [List.all_cons, Bool.and_eq_true] at no_mark
      rw [List.cons_append] at missed
      rw [List.cons_append, firstPass.rewriteFrom_no_match missed, ih later no_mark.2,
        List.getLast?_cons, List.cons_append]
      cases front.getLast? with
      | none => rfl
      | some final => rfl

theorem rewriteFrom_first {front key gap gap' taken taken' rest : List UInt16} {mark : UInt16}
    (begins : WordMayBegin front) (no_mark : front.all (!oneOf ":=" ·) = true)
    (listed : IsSecretKey key) (spaces : gap.all isSpace = true)
    (isMark : oneOf ":=" mark = true) (spaces' : gap'.all isSpace = true)
    (upTo : ValueUpTo (taken ++ rest) rest) (upTo' : ValueUpTo (taken' ++ rest) rest)
    (some_in : taken ≠ []) (length : taken.length = taken'.length)
    (after : taken.getLast? = taken'.getLast? ∨ rest.head?.any isWord = false) :
    firstPass.rewriteFrom none [] (front ++ (key ++ gap ++ mark :: (gap' ++ (taken ++ rest)))) =
      firstPass.rewriteFrom none [] (front ++ (key ++ gap ++ mark :: (gap' ++ (taken' ++ rest)))) := by
  have context : (front.getLast?.or none).any isWord = false := by
    rw [Option.or_none]
    exact begins
  have lines : ∀ value : List UInt16, key ++ gap ++ mark :: (gap' ++ (value ++ rest)) =
      (key ++ gap ++ mark :: (gap' ++ value)) ++ rest := by
    intro value
    simp
  have lasts : ∀ value : List UInt16, key ++ gap ++ mark :: (gap' ++ value) =
      (key ++ gap ++ mark :: gap') ++ value := by
    intro value
    simp
  have found : ∀ value : List UInt16, ValueUpTo (value ++ rest) rest →
      secretKeyPattern.matchLength ⟨front.getLast?.or none,
        (key ++ gap ++ mark :: (gap' ++ value)) ++ rest⟩ =
          some (key ++ gap ++ mark :: (gap' ++ value)).length := by
    intro value upTo
    rw [← lines, key_matches context listed spaces isMark spaces' upTo, lines, List.length_append,
      Nat.add_sub_cancel]
  have short : ∀ value : List UInt16, value ≠ [] →
      assignmentHead (key ++ gap ++ mark :: (gap' ++ value)) <
        (key ++ gap ++ mark :: (gap' ++ value)).length := by
    intro value some_in
    have bound := @assignmentHead_of_mark (key ++ gap) (gap' ++ value) mark isMark
    have positive := List.length_pos_iff.mpr some_in
    simp only [List.length_append, List.length_cons] at bound ⊢
    omega
  have some_in' : taken' ≠ [] := by
    intro empty
    rw [empty] at length
    exact some_in (List.length_eq_zero_iff.mp length)
  have equal : (key ++ gap ++ mark :: (gap' ++ taken)).length =
      (key ++ gap ++ mark :: (gap' ++ taken')).length := by
    simp [length]
  rw [rewriteFrom_front begins no_mark listed spaces isMark,
    rewriteFrom_front begins no_mark listed spaces isMark, lines, lines]
  refine congrArg (front ++ ·) (rewriteFrom_taken (found taken upTo) ?_ equal (short taken some_in)
    (short taken' some_in') (kept_congr isMark) ?_)
  · rw [found taken' upTo', equal]
  · cases after with
    | inl same =>
        have ended : ∀ value : List UInt16, (key ++ gap ++ mark :: (gap' ++ value)).getLast? =
            value.getLast?.or (key ++ gap ++ mark :: gap').getLast? := by
          intro value
          rw [lasts, List.getLast?_append]
        rw [ended taken, ended taken', same]
    | inr apart => exact rewriteFrom_forgets apart _ _

/-- Secrets in the first assignment of a line, with no mark before it: bare values, or values
between two quotes. -/
inductive WrittenFirst : List UInt16 → List UInt16 → List UInt16 → List UInt16 → Prop where
  | bare (front key separator secret other after : List UInt16) (begins : WordMayBegin front)
      (no_mark : front.all (!oneOf ":=" ·) = true) (listed : IsSecretKey key)
      (separates : IsSeparator separator) (some_in : secret ≠ [])
      (plain : secret.all inValue = true) (plain' : other.all inValue = true) :
      WrittenFirst (front ++ key ++ separator) secret other after
  | quoted (quote : UInt16) (isQuote : quote = 34 ∨ quote = 39)
      (front key separator secret other after : List UInt16) (begins : WordMayBegin front)
      (no_mark : front.all (!oneOf ":=" ·) = true) (listed : IsSecretKey key)
      (separates : IsSeparator separator) (apart : quote ∉ secret) (apart' : quote ∉ other) :
      WrittenFirst (front ++ key ++ separator ++ [quote]) secret other (quote :: after)

/-- The first assignment of a line is hidden, with its mark between spaces and in quotes too. -/
theorem first_hidden {before secret other after : List UInt16}
    (length : secret.length = other.length) (first : WrittenFirst before secret other after) :
    Hidden before secret other after := by
  unfold Hidden
  rw [sanitizeLogLine_eq, sanitizeLogLine_eq]
  refine congrArg (TextRewrite.rewriteAll passes.tail) ?_
  cases first with
  | bare front key separator _ _ _ begins no_mark listed separates some_in plain plain' =>
      obtain ⟨gap, mark, gap', rfl, isMark, spaces, spaces'⟩ := separates
      have some_in' : other ≠ [] := by
        intro empty
        rw [empty] at length
        exact some_in (List.length_eq_zero_iff.mp length)
      have stops : (after.dropWhile inRun).head?.any inRun = false := by
        have stopped := List.head?_dropWhile_not inRun after
        cases head : (after.dropWhile inRun).head? with
        | none => rfl
        | some unit => simpa [head] using stopped
      have whole : ∀ value : List UInt16, value ++ after =
          (value ++ after.takeWhile inRun) ++ after.dropWhile inRun := by
        intro value
        rw [List.append_assoc, List.takeWhile_append_dropWhile]
      have upTo := valueUpTo_bare some_in plain after
      have upTo' := valueUpTo_bare some_in' plain' after
      rw [whole] at upTo upTo'
      have same := rewriteFrom_first begins no_mark listed spaces isMark spaces' upTo upTo'
        (by simp [some_in]) (by simp [length]) (Or.inr (no_word_of_no_run stops))
      rw [← whole, ← whole] at same
      simpa using same
  | quoted quote isQuote front key separator _ _ after begins no_mark listed separates apart apart' =>
      obtain ⟨gap, mark, gap', rfl, isMark, spaces, spaces'⟩ := separates
      have whole : ∀ value : List UInt16, quote :: (value ++ quote :: after) =
          (quote :: (value ++ [quote])) ++ after := by
        intro value
        simp
      have upTo := valueUpTo_quoted isQuote apart after
      have upTo' := valueUpTo_quoted isQuote apart' after
      rw [whole] at upTo upTo'
      have closed : ∀ value : List UInt16, (quote :: (value ++ [quote])).getLast? = some quote := by
        intro value
        rw [← List.cons_append, List.getLast?_concat]
      have same := rewriteFrom_first begins no_mark listed spaces isMark spaces' upTo upTo'
        (List.cons_ne_nil _ _) (by simp [length]) (Or.inl (by rw [closed, closed]))
      rw [← whole, ← whole] at same
      simpa using same

/-! ## Secrets that are hidden -/

/-- Secrets that the sanitizer is sure to hide from one another. -/
def SurelyHidden (before secret other after : List UInt16) : Prop :=
  (WrittenBare before secret ∧ WrittenBare before other) ∨ WrittenFirst before secret other after ∨
    (SamePlaces before secret other after ∧ Redacted before secret other after)

end KasGraph.LogSanitizer
