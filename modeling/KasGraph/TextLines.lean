import Mathlib.Data.List.DropRight

set_option autoImplicit false

/-! Lines of a text. White space at the ends of a text or of a line does not change which
messages its lines hold. -/

namespace TextLines

/-- The property `White_Space` of Unicode. -/
def isWhitespace (c : Char) : Bool :=
  let n := c.toNat
  (0x9 ≤ n && n ≤ 0xD) || n == 0x20 || n == 0x85 || n == 0xA0 || n == 0x1680 ||
    (0x2000 ≤ n && n ≤ 0x200A) || n == 0x2028 || n == 0x2029 || n == 0x202F || n == 0x205F ||
    n == 0x3000

/-- `str::trim`. -/
def trim (text : List Char) : List Char :=
  (text.dropWhile isWhitespace).rdropWhile isWhitespace

def dropCarriageReturn (line : List Char) : List Char :=
  if line.getLast? = some '\r' then line.dropLast else line

/-- `str::lines`: a carriage return goes with the line feed after it, and nothing follows a
line feed that ends the text. -/
def lines (text : List Char) : List (List Char) :=
  let pieces := text.splitOn '\n'
  pieces.dropLast.map dropCarriageReturn ++ pieces.getLast?.toList.filter (!·.isEmpty)

/-- The lines that are not blank, without the white space at their ends. -/
def messages (text : List Char) : List (List Char) :=
  ((lines text).map trim).filter (!·.isEmpty)

/-! ## White space at the ends -/

theorem trim_cons {c : Char} (blank : isWhitespace c = true) (text : List Char) :
    trim (c :: text) = trim text := by
  rw [trim, trim, List.dropWhile_cons_of_pos blank]

theorem trim_concat {c : Char} (blank : isWhitespace c = true) (text : List Char) :
    trim (text ++ [c]) = trim text := by
  unfold trim
  rw [List.dropWhile_append]
  split
  · rename_i allBlank
    rw [List.isEmpty_iff.mp allBlank, List.dropWhile_cons_of_pos blank]
    rfl
  · rw [List.rdropWhile_concat_pos _ _ _ blank]

theorem trim_dropCarriageReturn (line : List Char) :
    trim (dropCarriageReturn line) = trim line := by
  unfold dropCarriageReturn
  split
  · rename_i ends
    obtain ⟨front, rfl⟩ := List.getLast?_eq_some_iff.mp ends
    rw [List.dropLast_concat, trim_concat (by decide)]
  · rfl

theorem trim_subset {text : List Char} {c : Char} (kept : c ∈ trim text) : c ∈ text :=
  (List.dropWhile_sublist _).subset ((List.rdropWhile_prefix _ _).subset kept)

theorem trim_idempotent (text : List Char) : trim (trim text) = trim text := by
  have front : (trim text).dropWhile isWhitespace = trim text := by
    rw [List.dropWhile_eq_self_iff]
    intro nonempty
    have prefixed : trim text <+: text.dropWhile isWhitespace := List.rdropWhile_prefix _ _
    rw [prefixed.getElem nonempty]
    exact List.dropWhile_get_zero_not _ _ (Nat.lt_of_lt_of_le nonempty prefixed.length_le)
  calc trim (trim text) = (trim text).rdropWhile isWhitespace := by rw [trim, front]
    _ = trim text := List.rdropWhile_idempotent _ _

/-! ## The messages of a text -/

/-- The messages of a list of lines. -/
def nonBlank (pieces : List (List Char)) : List (List Char) :=
  (pieces.map trim).filter (!·.isEmpty)

theorem nonBlank_append (front back : List (List Char)) :
    nonBlank (front ++ back) = nonBlank front ++ nonBlank back := by
  rw [nonBlank, List.map_append, List.filter_append]
  rfl

theorem nonBlank_nil_cons (pieces : List (List Char)) :
    nonBlank ([] :: pieces) = nonBlank pieces := rfl

theorem nonBlank_congr {first second : List Char} (same : trim first = trim second)
    (pieces : List (List Char)) : nonBlank (first :: pieces) = nonBlank (second :: pieces) := by
  rw [nonBlank, List.map_cons, same]
  rfl

theorem messages_eq (text : List Char) : messages text = nonBlank (text.splitOn '\n') := by
  have pieces : text.splitOn '\n' = (text.splitOn '\n').dropLast ++
      [(text.splitOn '\n').getLast (List.splitOn_ne_nil _ _)] :=
    (List.dropLast_append_getLast _).symm
  have front : nonBlank ((text.splitOn '\n').dropLast.map dropCarriageReturn) =
      nonBlank (text.splitOn '\n').dropLast := by
    have same : trim ∘ dropCarriageReturn = trim := funext trim_dropCarriageReturn
    rw [nonBlank, List.map_map, same, nonBlank]
  rw [messages, ← nonBlank, lines, nonBlank_append, front]
  conv_rhs => rw [pieces, nonBlank_append]
  rw [List.getLast?_eq_getLast_of_ne_nil (List.splitOn_ne_nil _ _), Option.toList_some]
  cases (text.splitOn '\n').getLast (List.splitOn_ne_nil _ _) <;> rfl

/-- The messages before and after a line feed. -/
theorem messages_append_cons (front back : List Char) :
    messages (front ++ '\n' :: back) = messages front ++ messages back := by
  rw [messages_eq, messages_eq, messages_eq, List.splitOn_append_cons_self, nonBlank_append]

theorem messages_cons {c : Char} (blank : isWhitespace c = true) (text : List Char) :
    messages (c :: text) = messages text := by
  rw [messages_eq, messages_eq, List.splitOn_cons_eq_if_modifyHead]
  split
  · exact nonBlank_nil_cons _
  · obtain ⟨first, pieces, split⟩ := List.exists_cons_of_ne_nil (List.splitOn_ne_nil '\n' text)
    rw [split, List.modifyHead_cons]
    exact nonBlank_congr (trim_cons blank first) pieces

theorem messages_of_not_mem {text : List Char} (single : '\n' ∉ text) :
    messages text = nonBlank [text] := by
  rw [messages_eq, List.splitOn_eq_singleton single]

theorem messages_concat {c : Char} (blank : isWhitespace c = true) (text : List Char) :
    messages (text ++ [c]) = messages text := by
  by_cases isFeed : c = '\n'
  · rw [isFeed, messages_append_cons]
    exact List.append_nil _
  by_cases single : '\n' ∈ text
  · obtain ⟨front, back, shape⟩ := List.append_of_mem single
    have shorter : back.length < text.length := by
      rw [shape, List.length_append, List.length_cons]
      omega
    rw [shape, List.append_assoc, List.cons_append, messages_append_cons, messages_append_cons,
      messages_concat blank back]
  · have longer : '\n' ∉ text ++ [c] := by
      rw [List.mem_append, List.mem_singleton]
      exact fun member => member.elim single fun feed => isFeed feed.symm
    rw [messages_of_not_mem longer, messages_of_not_mem single]
    exact nonBlank_congr (trim_concat blank text) []
termination_by text.length

theorem messages_dropWhile (text : List Char) :
    messages (text.dropWhile isWhitespace) = messages text := by
  induction text with
  | nil => rfl
  | cons c rest ih =>
      by_cases blank : isWhitespace c = true
      · rw [List.dropWhile_cons_of_pos blank, ih, messages_cons blank]
      · rw [List.dropWhile_cons_of_neg blank]

theorem messages_rdropWhile (text : List Char) :
    messages (text.rdropWhile isWhitespace) = messages text := by
  induction text using List.reverseRecOn with
  | nil => rfl
  | append_singleton front c ih =>
      by_cases blank : isWhitespace c = true
      · rw [List.rdropWhile_concat_pos _ _ _ blank, ih, messages_concat blank]
      · rw [List.rdropWhile_concat_neg _ _ _ blank]

theorem messages_trim (text : List Char) : messages (trim text) = messages text := by
  rw [trim, messages_rdropWhile, messages_dropWhile]

/-- A text of one line is one message, unless it is blank. -/
theorem messages_of_single {text : List Char} (single : (lines text).length ≤ 1) :
    messages text = nonBlank [text] := by
  obtain none | ⟨front, last, pieces⟩ := List.eq_nil_or_concat (text.splitOn '\n')
  · exact absurd none (List.splitOn_ne_nil _ _)
  rw [List.concat_eq_append] at pieces
  have joined : ['\n'].intercalate (front ++ [last]) = text := by
    rw [← pieces, List.intercalate_splitOn]
  rw [messages_eq, pieces]
  rw [lines, pieces, List.dropLast_concat, List.getLast?_concat, List.length_append,
    List.length_map] at single
  cases front with
  | nil =>
      rw [← joined]
      exact congrArg (fun line => nonBlank [line]) (List.append_nil last).symm
  | cons piece rest =>
      -- A line feed that ends the text is followed by no line.
      cases last with
      | cons c line =>
          simp at single
      | nil =>
          have alone : rest = [] := by
            cases rest with
            | nil => rfl
            | cons _ _ => simp at single
          rw [alone] at joined ⊢
          rw [← joined]
          exact nonBlank_congr (trim_concat (by decide) piece).symm []

theorem not_mem_of_mem_splitOn {text piece : List Char} (listed : piece ∈ text.splitOn '\n') :
    '\n' ∉ piece := by
  induction text generalizing piece with
  | nil =>
      rw [List.splitOn_nil, List.mem_singleton] at listed
      rw [listed]
      exact List.not_mem_nil
  | cons c rest ih =>
      rw [List.splitOn_cons_eq_if_modifyHead] at listed
      split at listed
      · cases List.mem_cons.mp listed with
        | inl empty =>
            rw [empty]
            exact List.not_mem_nil
        | inr later => exact ih later
      · rename_i other
        obtain ⟨first, pieces, shape⟩ :=
          List.exists_cons_of_ne_nil (List.splitOn_ne_nil '\n' rest)
        rw [shape, List.modifyHead_cons] at listed
        rw [shape] at ih
        cases List.mem_cons.mp listed with
        | inl extended =>
            rw [extended, List.mem_cons]
            rintro (isFeed | inside)
            · exact other (beq_iff_eq.mpr isFeed.symm)
            · exact ih (List.mem_cons_self ..) inside
        | inr later => exact ih (List.mem_cons_of_mem _ later)

theorem dropCarriageReturn_sublist (line : List Char) : (dropCarriageReturn line).Sublist line := by
  unfold dropCarriageReturn
  split
  · exact List.dropLast_sublist line
  · exact List.Sublist.refl line

theorem not_mem_of_mem_lines {text line : List Char} (listed : line ∈ lines text) :
    '\n' ∉ line := by
  rw [lines, List.mem_append] at listed
  cases listed with
  | inl ended =>
      obtain ⟨piece, member, rfl⟩ := List.mem_map.mp ended
      intro feed
      exact not_mem_of_mem_splitOn ((List.dropLast_sublist _).subset member)
        ((dropCarriageReturn_sublist piece).subset feed)
  | inr final =>
      have last := Option.mem_toList.mp (List.mem_filter.mp final).1
      exact not_mem_of_mem_splitOn (List.mem_of_getLast? last)

/-- A line is a text of one line. -/
theorem length_lines_trim {text line : List Char} (listed : line ∈ lines text) :
    (lines (trim line)).length ≤ 1 := by
  have single : '\n' ∉ trim line := fun feed => not_mem_of_mem_lines listed (trim_subset feed)
  rw [lines, List.splitOn_eq_singleton single]
  cases trim line <;> simp

end TextLines
