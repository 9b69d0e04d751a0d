import Mathlib

set_option autoImplicit false

/-! JSON values as the indexer holds them, with their compact text and the
canonical texts and bytes that enter a proof of indexing. -/

namespace KasGraph.Json

/-- A JSON number. A float is kept as its bits. -/
inductive Number where
  | posInt (n : UInt64)
  | negInt (n : Int64)
  | float (bits : UInt64)
  deriving DecidableEq, Repr

/-- A JSON value. The fields of an object are listed by increasing key. -/
inductive Value where
  | null
  | bool (b : Bool)
  | number (n : Number)
  | string (s : String)
  | array (items : List Value)
  | object (fields : List (String × Value))
  deriving Repr

namespace Value

mutual

private def decEqValue : (a b : Value) → Decidable (a = b)
  | .null, .null => isTrue rfl
  | .bool a, .bool b => if same : a = b then isTrue (by rw [same]) else isFalse (by simp [same])
  | .number a, .number b =>
      if same : a = b then isTrue (by rw [same]) else isFalse (by simp [same])
  | .string a, .string b =>
      if same : a = b then isTrue (by rw [same]) else isFalse (by simp [same])
  | .array a, .array b =>
      match decEqItems a b with
      | isTrue same => isTrue (by rw [same])
      | isFalse apart => isFalse (by simp [apart])
  | .object a, .object b =>
      match decEqFields a b with
      | isTrue same => isTrue (by rw [same])
      | isFalse apart => isFalse (by simp [apart])
  | .null, .bool _ | .null, .number _ | .null, .string _ | .null, .array _ | .null, .object _
  | .bool _, .null | .bool _, .number _ | .bool _, .string _ | .bool _, .array _
  | .bool _, .object _ | .number _, .null | .number _, .bool _ | .number _, .string _
  | .number _, .array _ | .number _, .object _ | .string _, .null | .string _, .bool _
  | .string _, .number _ | .string _, .array _ | .string _, .object _ | .array _, .null
  | .array _, .bool _ | .array _, .number _ | .array _, .string _ | .array _, .object _
  | .object _, .null | .object _, .bool _ | .object _, .number _ | .object _, .string _
  | .object _, .array _ => isFalse nofun

private def decEqItems : (a b : List Value) → Decidable (a = b)
  | [], [] => isTrue rfl
  | [], _ :: _ | _ :: _, [] => isFalse nofun
  | a :: as, b :: bs =>
      match decEqValue a b, decEqItems as bs with
      | isTrue head, isTrue tail => isTrue (by rw [head, tail])
      | isFalse head, _ => isFalse (by simp [head])
      | _, isFalse tail => isFalse (by simp [tail])

private def decEqFields : (a b : List (String × Value)) → Decidable (a = b)
  | [], [] => isTrue rfl
  | [], _ :: _ | _ :: _, [] => isFalse nofun
  | (k, a) :: as, (l, b) :: bs =>
      match decEq k l, decEqValue a b, decEqFields as bs with
      | isTrue key, isTrue head, isTrue tail => isTrue (by rw [key, head, tail])
      | isFalse key, _, _ => isFalse (by simp [key])
      | _, isFalse head, _ => isFalse (by simp [head])
      | _, _, isFalse tail => isFalse (by simp [tail])

end

instance : DecidableEq Value := decEqValue

/-- Insert or replace a field, keeping the fields in key order. -/
def insertField (key : String) (value : Value) : List (String × Value) → List (String × Value)
  | [] => [(key, value)]
  | (k, v) :: rest =>
      match compare key k with
      | .lt => (key, value) :: (k, v) :: rest
      | .eq => (key, value) :: rest
      | .gt => (k, v) :: insertField key value rest

/-- The object with these fields, a later field replacing an earlier one of the
same key. -/
def ofFields (fields : List (String × Value)) : Value :=
  .object (fields.foldl (fun sorted field => insertField field.1 field.2 sorted) [])

/-- `value.get(field)` by a string index: only an object has fields. -/
def get? (value : Value) (field : String) : Option Value :=
  match value with
  | .object fields => fields.lookup field
  | _ => none

def asStr? : Value → Option String
  | .string s => some s
  | _ => none

theorem lookup_insertField_of_ne {key name : String} (apart : key ≠ name) (value : Value)
    (fields : List (String × Value)) :
    (insertField key value fields).lookup name = fields.lookup name := by
  have missed : (name == key) = false := beq_false_of_ne apart.symm
  induction fields with
  | nil => simp only [insertField, List.lookup_cons, List.lookup_nil, missed]
  | cons field rest ih =>
      obtain ⟨other, held⟩ := field
      unfold insertField
      cases placed : compare key other with
      | lt => simp only [List.lookup_cons, missed]
      | eq =>
          have same : key = other := Std.LawfulEqOrd.eq_of_compare placed
          subst same
          simp only [List.lookup_cons, missed]
      | gt => simp only [List.lookup_cons, ih]

theorem lookup_insertField_self (key : String) (value : Value) (fields : List (String × Value)) :
    (insertField key value fields).lookup key = some value := by
  induction fields with
  | nil => simp only [insertField, List.lookup_cons, beq_self_eq_true]
  | cons field rest ih =>
      obtain ⟨other, held⟩ := field
      unfold insertField
      cases placed : compare key other with
      | lt => simp only [List.lookup_cons, beq_self_eq_true]
      | eq => simp only [List.lookup_cons, beq_self_eq_true]
      | gt =>
          have apart : (key == other) = false := by
            refine beq_false_of_ne ?_
            rintro rfl
            exact nomatch (Std.ReflOrd.compare_self (a := key)).symm.trans placed
          simp only [List.lookup_cons, apart, ih]

theorem lookup_foldl_insertField {fields : List (String × Value)} {name : String}
    (absent : name ∉ fields.map Prod.fst) (sorted : List (String × Value)) :
    (fields.foldl (fun sorted field => insertField field.1 field.2 sorted) sorted).lookup name =
      sorted.lookup name := by
  induction fields generalizing sorted with
  | nil => rfl
  | cons field rest ih =>
      rw [List.map_cons, List.mem_cons, not_or] at absent
      rw [List.foldl_cons, ih absent.2, lookup_insertField_of_ne (Ne.symm absent.1)]

/-- An object lacks the fields that it was not built from. -/
theorem get?_ofFields_of_absent {fields : List (String × Value)} {name : String}
    (absent : name ∉ fields.map Prod.fst) : (ofFields fields).get? name = none :=
  lookup_foldl_insertField absent []

/-- An object has the last value it was given for a field. -/
theorem get?_ofFields_of_last (before : List (String × Value)) {after : List (String × Value)}
    {name : String} (value : Value) (absent : name ∉ after.map Prod.fst) :
    (ofFields (before ++ (name, value) :: after)).get? name = some value := by
  unfold ofFields get?
  rw [List.foldl_append, List.foldl_cons]
  exact (lookup_foldl_insertField absent _).trans (lookup_insertField_self name value _)

end Value

/-! ## Compact text -/

private def hexDigit (n : Nat) : Char :=
  if n < 10 then Char.ofNat (48 + n) else Char.ofNat (87 + n)

/-- One character of a JSON string literal. -/
def escapeChar (c : Char) : List Char :=
  if c = '"' then ['\\', '"']
  else if c = '\\' then ['\\', '\\']
  else if c.toNat = 8 then ['\\', 'b']
  else if c.toNat = 9 then ['\\', 't']
  else if c.toNat = 10 then ['\\', 'n']
  else if c.toNat = 12 then ['\\', 'f']
  else if c.toNat = 13 then ['\\', 'r']
  else if c.toNat < 32 then
    ['\\', 'u', '0', '0', hexDigit (c.toNat / 16), hexDigit (c.toNat % 16)]
  else [c]

def quote (s : String) : String :=
  String.ofList ('"' :: s.toList.flatMap escapeChar ++ ['"'])

/-- How the serializer renders a float, given its bits. -/
abbrev FloatText := UInt64 → String

def Number.text (floats : FloatText) : Number → String
  | .posInt n => toString n
  | .negInt n => toString n
  | .float bits => floats bits

mutual

/-- `serde_json::to_string`. -/
def Value.text (floats : FloatText) : Value → String
  | .null => "null"
  | .bool b => toString b
  | .number n => n.text floats
  | .string s => quote s
  | .array items => "[" ++ ",".intercalate (Value.itemTexts floats items) ++ "]"
  | .object fields => "\x7b" ++ ",".intercalate (Value.fieldTexts floats fields) ++ "\x7d"

def Value.itemTexts (floats : FloatText) : List Value → List String
  | [] => []
  | item :: items => item.text floats :: Value.itemTexts floats items

def Value.fieldTexts (floats : FloatText) : List (String × Value) → List String
  | [] => []
  | (key, value) :: fields =>
      (quote key ++ ":" ++ value.text floats) :: Value.fieldTexts floats fields

end

/-- `serde_json::to_vec`. -/
def toVec (floats : FloatText) (value : Value) : List UInt8 :=
  (value.text floats).toUTF8.toList

/-! ## The bytes of a text -/

private theorem byteArray_toList_loop (bytes : ByteArray) (i : Nat) (seen : List UInt8) :
    ByteArray.toList.loop bytes i seen = seen.reverse ++ bytes.data.toList.drop i := by
  fun_induction ByteArray.toList.loop bytes i seen with
  | case1 i seen inside ih =>
      have bound : i < bytes.data.size := inside
      have read : bytes.get! i = bytes.data[i] := getElem!_pos bytes.data i bound
      have here : i < bytes.data.toList.length := inside
      rw [ih, List.drop_eq_getElem_cons here, read]
      simp
  | case2 i seen outside =>
      have past : bytes.data.toList.length ≤ i := Nat.not_lt.mp outside
      rw [List.drop_eq_nil_of_le past, List.append_nil]

/-- Only the empty text has no bytes. -/
theorem toUTF8_toList_ne_nil {s : String} (text : s ≠ "") : s.toUTF8.toList ≠ [] := by
  intro none
  apply text
  rw [ByteArray.toList, byteArray_toList_loop] at none
  have bytes : s.toUTF8.data.toList = [] := none
  apply String.toByteArray_inj.mp
  exact ByteArray.ext (Array.toList_inj.mp bytes)

theorem toUTF8_toList_injective {a b : String} (same : a.toUTF8.toList = b.toUTF8.toList) :
    a = b := by
  have bytes : a.toUTF8.data.toList = b.toUTF8.data.toList := by
    simpa only [ByteArray.toList, byteArray_toList_loop, List.reverse_nil, List.nil_append,
      List.drop_zero] using same
  apply String.toByteArray_inj.mp
  exact ByteArray.ext (Array.toList_inj.mp bytes)

/-- The bytes of a text are those of its characters, one after the other. -/
theorem toUTF8_toList_eq (s : String) :
    s.toUTF8.toList = s.toList.flatMap String.utf8EncodeChar := by
  rw [ByteArray.toList, byteArray_toList_loop, List.reverse_nil, List.nil_append, List.drop_zero]
  have whole : s.toUTF8.data.toList = s.toByteArray.data.toList := rfl
  rw [whole, ← String.utf8Encode_toList]
  simp [List.utf8Encode]

/-- A text has at most four bytes for each character. -/
theorem toUTF8_toList_length_le (s : String) : s.toUTF8.toList.length ≤ 4 * s.length := by
  have bytes : ∀ chars : List Char,
      (chars.flatMap String.utf8EncodeChar).length ≤ 4 * chars.length := by
    intro chars
    induction chars with
    | nil => rfl
    | cons c rest ih =>
        have one := c.utf8Size_le_four
        rw [List.flatMap_cons, List.length_append, List.length_cons, String.length_utf8EncodeChar]
        omega
  have whole : s.toUTF8.toList.length = s.toByteArray.data.toList.length := by
    rw [ByteArray.toList, byteArray_toList_loop, List.reverse_nil, List.nil_append, List.drop_zero]
    rfl
  rw [whole, ← String.utf8Encode_toList, ← String.length_toList]
  simpa [List.utf8Encode] using bytes s.toList

/-! ## Canonical forms -/

mutual

/-- Every object rebuilt with its keys in sorted order. -/
def canonicalizeValue : Value → Value
  | .array items => .array (canonicalizeItems items)
  | .object fields => .ofFields (canonicalizeFields fields)
  | other => other

def canonicalizeItems : List Value → List Value
  | [] => []
  | item :: items => canonicalizeValue item :: canonicalizeItems items

def canonicalizeFields : List (String × Value) → List (String × Value)
  | [] => []
  | (key, value) :: fields => (key, canonicalizeValue value) :: canonicalizeFields fields

end

/-- Canonical, compact JSON bytes of a value. -/
def canonicalJson (floats : FloatText) (value : Value) : List UInt8 :=
  toVec floats (canonicalizeValue value)

/-- Which characters a debug rendering replaces by their code point. -/
abbrev Unprintable := Char → Bool

/-- `format!("{:?}", s)` of a string. -/
def debugText (unprintable : Unprintable) (s : String) : String :=
  String.ofList ('"' :: s.toList.flatMap escape ++ ['"'])
where
  escape (c : Char) : List Char :=
    if c = '"' then ['\\', '"']
    else if c = '\\' then ['\\', '\\']
    else if c.toNat = 0 then ['\\', '0']
    else if c.toNat = 9 then ['\\', 't']
    else if c.toNat = 10 then ['\\', 'n']
    else if c.toNat = 13 then ['\\', 'r']
    else if unprintable c then
      ['\\', 'u', Char.ofNat 123] ++ Nat.toDigits 16 c.toNat ++ [Char.ofNat 125]
    else [c]

mutual

/-- The text of a payload with the keys of every object in sorted order. -/
def canonicalizeJson (floats : FloatText) (unprintable : Unprintable) : Value → String
  | .object fields =>
      "\x7b" ++ ",".intercalate (canonicalFieldTexts floats unprintable fields) ++ "\x7d"
  | .array items =>
      "[" ++ ",".intercalate (canonicalItemTexts floats unprintable items) ++ "]"
  | other => other.text floats

def canonicalItemTexts (floats : FloatText) (unprintable : Unprintable) :
    List Value → List String
  | [] => []
  | item :: items =>
      canonicalizeJson floats unprintable item :: canonicalItemTexts floats unprintable items

/-- The fields of an object are already listed by key. -/
def canonicalFieldTexts (floats : FloatText) (unprintable : Unprintable) :
    List (String × Value) → List String
  | [] => []
  | (key, value) :: fields =>
      (debugText unprintable key ++ ":" ++ canonicalizeJson floats unprintable value) ::
        canonicalFieldTexts floats unprintable fields

end

end KasGraph.Json
