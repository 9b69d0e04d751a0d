import Mathlib

set_option autoImplicit false

/-! Texts as sequences of 16-bit units. A sequence with a surrogate that has no partner is the
sequence of no text. -/

namespace KasGraph.Utf16

/-- The units of a character: one, or a high and a low surrogate. -/
def encodeChar (c : Char) : List UInt16 :=
  if c.toNat < 0x10000 then
    [UInt16.ofNat c.toNat]
  else
    [UInt16.ofNat (0xD800 + (c.toNat - 0x10000) / 0x400),
      UInt16.ofNat (0xDC00 + (c.toNat - 0x10000) % 0x400)]

def encode (s : String) : List UInt16 := s.toList.flatMap encodeChar

def decodeUnits : List UInt16 → Option (List Char)
  | [] => some []
  | unit :: rest =>
      if unit.toNat < 0xD800 ∨ 0xDFFF < unit.toNat then
        (decodeUnits rest).map (Char.ofNat unit.toNat :: ·)
      else
        match rest with
        | [] => none
        | low :: rest =>
            if unit.toNat < 0xDC00 ∧ 0xDC00 ≤ low.toNat ∧ low.toNat ≤ 0xDFFF then
              (decodeUnits rest).map
                (Char.ofNat (0x10000 + (unit.toNat - 0xD800) * 0x400 + (low.toNat - 0xDC00)) :: ·)
            else
              none

/-- The text of these units, if every surrogate has its partner. -/
def decode (units : List UInt16) : Option String := (decodeUnits units).map String.ofList

theorem toNat_range (c : Char) : c.toNat < 0xD800 ∨ (0xDFFF < c.toNat ∧ c.toNat < 0x110000) :=
  c.valid

theorem toNat_ofNat_of_valid {n : Nat} (valid : n < 0xD800 ∨ (0xDFFF < n ∧ n < 0x110000)) :
    (Char.ofNat n).toNat = n := by
  rw [Char.toNat_ofNat]
  exact if_pos valid

theorem decodeUnits_of_alone {unit : UInt16} (alone : unit.toNat < 0xD800 ∨ 0xDFFF < unit.toNat)
    (rest : List UInt16) :
    decodeUnits (unit :: rest) = (decodeUnits rest).map (Char.ofNat unit.toNat :: ·) := by
  rw [decodeUnits.eq_def]
  exact if_pos alone

theorem decodeUnits_of_pair {high low : UInt16}
    (fits : ¬ (high.toNat < 0xD800 ∨ 0xDFFF < high.toNat))
    (pair : high.toNat < 0xDC00 ∧ 0xDC00 ≤ low.toNat ∧ low.toNat ≤ 0xDFFF) (rest : List UInt16) :
    decodeUnits (high :: low :: rest) = (decodeUnits rest).map
      (Char.ofNat (0x10000 + (high.toNat - 0xD800) * 0x400 + (low.toNat - 0xDC00)) :: ·) := by
  rw [decodeUnits.eq_def]
  exact (if_neg fits).trans (if_pos pair)

theorem decodeUnits_encodeChar (c : Char) (rest : List UInt16) :
    decodeUnits (encodeChar c ++ rest) = (decodeUnits rest).map (c :: ·) := by
  have range := toNat_range c
  unfold encodeChar
  by_cases basic : c.toNat < 0x10000
  · have unit : (UInt16.ofNat c.toNat).toNat = c.toNat := by
      rw [UInt16.toNat_ofNat']
      omega
    rw [if_pos basic, List.singleton_append, decodeUnits_of_alone (by omega), unit,
      Char.ofNat_toNat]
  · have high : (UInt16.ofNat (0xD800 + (c.toNat - 0x10000) / 0x400)).toNat =
        0xD800 + (c.toNat - 0x10000) / 0x400 := by
      rw [UInt16.toNat_ofNat']
      omega
    have low : (UInt16.ofNat (0xDC00 + (c.toNat - 0x10000) % 0x400)).toNat =
        0xDC00 + (c.toNat - 0x10000) % 0x400 := by
      rw [UInt16.toNat_ofNat']
      omega
    have whole : 0x10000 + (0xD800 + (c.toNat - 0x10000) / 0x400 - 0xD800) * 0x400 +
        (0xDC00 + (c.toNat - 0x10000) % 0x400 - 0xDC00) = c.toNat := by omega
    rw [if_neg basic, List.cons_append, List.singleton_append,
      decodeUnits_of_pair (by omega) (by omega), high, low, whole, Char.ofNat_toNat]

theorem decodeUnits_flatMap (chars : List Char) :
    decodeUnits (chars.flatMap encodeChar) = some chars := by
  induction chars with
  | nil => rfl
  | cons c rest ih => rw [List.flatMap_cons, decodeUnits_encodeChar, ih, Option.map_some]

theorem encodeChar_basic {unit : UInt16} (alone : unit.toNat < 0xD800 ∨ 0xDFFF < unit.toNat) :
    encodeChar (Char.ofNat unit.toNat) = [unit] := by
  have bound := unit.toNat_lt
  have value : (Char.ofNat unit.toNat).toNat = unit.toNat := toNat_ofNat_of_valid (by omega)
  unfold encodeChar
  rw [value, if_pos (by omega), UInt16.ofNat_toNat]

theorem encodeChar_pair {high low : UInt16} (fits : ¬ (high.toNat < 0xD800 ∨ 0xDFFF < high.toNat))
    (pair : high.toNat < 0xDC00 ∧ 0xDC00 ≤ low.toNat ∧ low.toNat ≤ 0xDFFF) :
    encodeChar (Char.ofNat
      (0x10000 + (high.toNat - 0xD800) * 0x400 + (low.toNat - 0xDC00))) = [high, low] := by
  have value : (Char.ofNat
      (0x10000 + (high.toNat - 0xD800) * 0x400 + (low.toNat - 0xDC00))).toNat =
        0x10000 + (high.toNat - 0xD800) * 0x400 + (low.toNat - 0xDC00) :=
    toNat_ofNat_of_valid (by omega)
  have first : 0xD800 + (0x10000 + (high.toNat - 0xD800) * 0x400 + (low.toNat - 0xDC00) - 0x10000) /
      0x400 = high.toNat := by omega
  have second : 0xDC00 + (0x10000 + (high.toNat - 0xD800) * 0x400 + (low.toNat - 0xDC00) - 0x10000) %
      0x400 = low.toNat := by omega
  unfold encodeChar
  rw [value, if_neg (by omega), first, second, UInt16.ofNat_toNat, UInt16.ofNat_toNat]

theorem flatMap_of_decodeUnits {units : List UInt16} {chars : List Char}
    (decoded : decodeUnits units = some chars) : chars.flatMap encodeChar = units := by
  fun_induction decodeUnits units generalizing chars with
  | case1 =>
      rw [← Option.some.inj decoded]
      rfl
  | case2 unit rest alone ih =>
      obtain ⟨tail, found, rfl⟩ := Option.map_eq_some_iff.mp decoded
      rw [List.flatMap_cons, encodeChar_basic alone, ih found]
      rfl
  | case3 => nomatch decoded
  | case4 unit fits low rest pair ih =>
      obtain ⟨tail, found, rfl⟩ := Option.map_eq_some_iff.mp decoded
      rw [List.flatMap_cons, encodeChar_pair fits pair, ih found]
      rfl
  | case5 => nomatch decoded

/-- Decoding inverts encoding, and gives a text to no other units. -/
theorem decode_eq_some_iff {units : List UInt16} {s : String} :
    decode units = some s ↔ units = encode s := by
  constructor
  · intro decoded
    obtain ⟨chars, found, rfl⟩ := Option.map_eq_some_iff.mp decoded
    unfold encode
    rw [String.toList_ofList, flatMap_of_decodeUnits found]
  · intro same
    unfold decode encode at *
    rw [same, decodeUnits_flatMap, Option.map_some, String.ofList_toList]

@[simp]
theorem decode_encode (s : String) : decode (encode s) = some s := decode_eq_some_iff.mpr rfl

theorem encode_inj {s t : String} : encode s = encode t ↔ s = t := by
  constructor
  · intro same
    have both := decode_encode s
    rw [same, decode_encode] at both
    exact (Option.some.inj both).symm
  · exact congrArg encode

end KasGraph.Utf16
