import Mathlib

set_option autoImplicit false

/-! Bytes written with sixty-four letters, three bytes in four letters. The reader skips what is
no letter, the padding too, and drops the bits that fill no byte. -/

namespace Base64

/-! ## Letters -/

def alphabet : List Char :=
  "ABCDEFGHIJKLMNOPQRSTUVWXYZabcdefghijklmnopqrstuvwxyz0123456789+/".toList

def letter (digit : Nat) : Char :=
  alphabet.getD digit '='

/-- The digit of a letter; the two of the alphabet for addresses are read as well. -/
def digit? (c : Char) : Option Nat :=
  if c = '-' then some 62
  else if c = '_' then some 63
  else alphabet.idxOf? c

theorem digit?_letter {digit : Nat} (small : digit < 64) : digit? (letter digit) = some digit := by
  have all : ∀ digit ∈ List.range 64, digit? (letter digit) = some digit := by decide +kernel
  exact all digit (List.mem_range.mpr small)

theorem digit?_padding : digit? '=' = none := by decide

/-! ## Writing and reading -/

/-- The letters of three bytes at a time; the last one or two are padded. -/
def encodeChars : List UInt8 → List Char
  | first :: second :: third :: rest =>
      letter (first.toNat / 4) :: letter (first.toNat % 4 * 16 + second.toNat / 16) ::
        letter (second.toNat % 16 * 4 + third.toNat / 64) :: letter (third.toNat % 64) ::
          encodeChars rest
  | [first, second] =>
      [letter (first.toNat / 4), letter (first.toNat % 4 * 16 + second.toNat / 16),
        letter (second.toNat % 16 * 4), '=']
  | [first] => [letter (first.toNat / 4), letter (first.toNat % 4 * 16), '=', '=']
  | [] => []

def encode (bytes : List UInt8) : String :=
  String.ofList (encodeChars bytes)

def decodeDigits : List Nat → List UInt8
  | first :: second :: third :: fourth :: rest =>
      UInt8.ofNat (first * 4 + second / 16) :: UInt8.ofNat (second % 16 * 16 + third / 4) ::
        UInt8.ofNat (third % 4 * 64 + fourth) :: decodeDigits rest
  | [first, second, third] =>
      [UInt8.ofNat (first * 4 + second / 16), UInt8.ofNat (second % 16 * 16 + third / 4)]
  | [first, second] => [UInt8.ofNat (first * 4 + second / 16)]
  | [_] => []
  | [] => []

def decode (text : String) : List UInt8 :=
  decodeDigits (text.toList.filterMap digit?)

/-! ## The round trip -/

/-- A byte read from its upper and its lower bits. -/
theorem ofNat_eq {byte : UInt8} {n : Nat} (same : n = byte.toNat) : UInt8.ofNat n = byte := by
  rw [same]
  exact UInt8.ofNat_toNat

theorem decodeDigits_encodeChars (bytes : List UInt8) :
    decodeDigits ((encodeChars bytes).filterMap digit?) = bytes := by
  fun_induction encodeChars bytes with
  | case1 first second third rest ih =>
      have one := first.toNat_lt
      have two := second.toNat_lt
      have three := third.toNat_lt
      simp only [List.filterMap_cons]
      rw [digit?_letter (by omega), digit?_letter (by omega), digit?_letter (by omega),
        digit?_letter (by omega)]
      simp only [decodeDigits]
      rw [ih, @ofNat_eq first _ (by omega), @ofNat_eq second _ (by omega),
        @ofNat_eq third _ (by omega)]
  | case2 first second =>
      have one := first.toNat_lt
      have two := second.toNat_lt
      simp only [List.filterMap_cons, List.filterMap_nil, digit?_padding]
      rw [digit?_letter (by omega), digit?_letter (by omega), digit?_letter (by omega)]
      simp only [decodeDigits]
      rw [@ofNat_eq first _ (by omega), @ofNat_eq second _ (by omega)]
  | case3 first =>
      have one := first.toNat_lt
      simp only [List.filterMap_cons, List.filterMap_nil, digit?_padding]
      rw [digit?_letter (by omega), digit?_letter (by omega)]
      simp only [decodeDigits]
      rw [@ofNat_eq first _ (by omega)]
  | case4 => rfl

/-- What is written is read back. -/
theorem decode_encode (bytes : List UInt8) : decode (encode bytes) = bytes := by
  unfold decode encode
  rw [String.toList_ofList]
  exact decodeDigits_encodeChars bytes

end Base64
