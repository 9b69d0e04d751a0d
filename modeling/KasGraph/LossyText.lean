import KasGraph.Json

set_option autoImplicit false

/-! Reading bytes as text. A sequence that is no UTF-8 is replaced, one replacement character
for each longest part that begins a valid one. -/

namespace LossyText

def replacement : Char := Char.ofNat 0xfffd

def isContinuation (byte : UInt8) : Bool := 0x80 ≤ byte && byte ≤ 0xbf

/-- The second byte of a sequence of three or four bytes that starts with `first`. -/
def secondAllowed (first second : UInt8) : Bool :=
  if first == 0xe0 then 0xa0 ≤ second && second ≤ 0xbf
  else if first == 0xed then 0x80 ≤ second && second ≤ 0x9f
  else if 0xe1 ≤ first && first ≤ 0xef then isContinuation second
  else if first == 0xf0 then 0x90 ≤ second && second ≤ 0xbf
  else if 0xf1 ≤ first && first ≤ 0xf3 then isContinuation second
  else if first == 0xf4 then 0x80 ≤ second && second ≤ 0x8f
  else false

/-- How many bytes one replacement character stands for. -/
def invalidLength : List UInt8 → Nat
  | first :: second :: rest =>
      if secondAllowed first second then
        if 0xf0 ≤ first && (rest.head?).any isContinuation then 3 else 2
      else
        1
  | _ => 1

/-- The characters of bytes, with a bound on how many there are. -/
def lossyChars : Nat → List UInt8 → List Char
  | 0, _ => []
  | _ + 1, [] => []
  | bound + 1, byte :: rest =>
      match (byte :: rest).toByteArray.utf8DecodeChar? 0 with
      | some c => c :: lossyChars bound ((byte :: rest).drop c.utf8Size)
      | none => replacement :: lossyChars bound ((byte :: rest).drop (invalidLength (byte :: rest)))

/-- `String::from_utf8_lossy`. -/
def fromUtf8Lossy (bytes : List UInt8) : String := String.ofList (lossyChars bytes.length bytes)

theorem lossyChars_encode (chars : List Char) {bound : Nat}
    (enough : (chars.flatMap String.utf8EncodeChar).length ≤ bound) :
    lossyChars bound (chars.flatMap String.utf8EncodeChar) = chars := by
  induction chars generalizing bound with
  | nil => cases bound <;> rfl
  | cons c chars ih =>
      have positive := c.utf8Size_pos
      have size := String.length_utf8EncodeChar c
      rw [List.flatMap_cons] at enough ⊢
      rw [List.length_append] at enough
      cases bound with
      | zero => omega
      | succ bound =>
          cases encoded : String.utf8EncodeChar c with
          | nil =>
              rw [encoded, List.length_nil] at size
              omega
          | cons byte rest =>
              have decoded : (String.utf8EncodeChar c ++
                  chars.flatMap String.utf8EncodeChar).toByteArray.utf8DecodeChar? 0 = some c := by
                rw [List.toByteArray_append]
                exact ByteArray.utf8DecodeChar?_utf8EncodeChar_append
              rw [encoded] at decoded size enough
              rw [List.cons_append] at decoded ⊢
              rw [lossyChars]
              simp only [decoded]
              rw [← List.cons_append, ← size, List.drop_left, ih]
              omega

/-- What was written as UTF-8 is read back. -/
theorem fromUtf8Lossy_toUTF8 (s : String) : fromUtf8Lossy s.toUTF8.toList = s := by
  rw [fromUtf8Lossy, KasGraph.Json.toUTF8_toList_eq, lossyChars_encode _ le_rfl, String.ofList_toList]

end LossyText
