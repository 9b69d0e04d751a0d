import KasGraph.LegacyRecords

set_option autoImplicit false

/-! The numbers of a journal row. A column is read by the general decimal parser, an
inscription by one that takes digits alone; the two part at a leading plus sign. -/

namespace KasGraph

/-- The value of a row of decimal digits. -/
def decimalValue (digits : List Char) : Nat :=
  digits.foldl (fun value digit => 10 * value + (digit.toNat - 48)) 0

/-- Digits whose value fits 64 bits. -/
def isDecimalU64 (digits : List Char) : Bool :=
  !digits.isEmpty && digits.all Char.isDigit && decide (decimalValue digits < 2 ^ 64)

/-- A plus sign before such digits. -/
def isSigned (text : String) : Bool :=
  text.toList.head? == some '+' && isDecimalU64 text.toList.tail

/-- The number that such digits write. -/
def decimalU64 (digits : List Char) : Option UInt64 :=
  if isDecimalU64 digits then some (UInt64.ofNat (decimalValue digits)) else none

private theorem readDigits_eq (digits : List Char) :
    (if digits.isEmpty || !digits.all Char.isDigit then none
      else if decimalValue digits < 2 ^ 64 then some (UInt64.ofNat (decimalValue digits))
      else none) = decimalU64 digits := by
  unfold decimalU64 isDecimalU64
  cases digits.isEmpty with
  | true => rfl
  | false =>
      cases digits.all Char.isDigit with
      | false => rfl
      | true => simp only [Bool.or_self, Bool.not_true, Bool.not_false, Bool.and_self,
          Bool.true_and, Bool.false_eq_true, ↓reduceIte, decide_eq_true_eq]

theorem fromStrU64_signed {text : String} {digits : List Char}
    (shape : text.toList = '+' :: digits) : fromStrU64 text = decimalU64 digits := by
  rw [← readDigits_eq, fromStrU64, shape]
  rfl

theorem fromStrU64_unsigned {text : String} (unsigned : text.toList.head? ≠ some '+') :
    fromStrU64 text = decimalU64 text.toList := by
  rw [← readDigits_eq]
  unfold fromStrU64
  split
  · rename_i digits shape
    rw [shape] at unsigned
    exact absurd rfl unsigned
  · rfl

private theorem isEmpty_toList (text : String) : text.isEmpty = text.toList.isEmpty := by
  rw [Bool.eq_iff_iff, String.isEmpty_iff, List.isEmpty_iff, String.toList_eq_nil_iff]

private theorem plain_eq (text : String) :
    (if text.isEmpty || !text.toList.all Char.isDigit then none else fromStrU64 text) =
      decimalU64 text.toList := by
  by_cases digitsOnly : text.toList.all Char.isDigit
  · have unsigned : text.toList.head? ≠ some '+' := by
      intro plus
      have digit := List.all_eq_true.mp digitsOnly '+' (List.mem_of_head? plus)
      exact absurd digit (by decide)
    rw [fromStrU64_unsigned unsigned, digitsOnly, isEmpty_toList]
    cases shape : text.toList with
    | nil => rfl
    | cons first rest => rfl
  · have refused : isDecimalU64 text.toList = false := by
      simp only [isDecimalU64, digitsOnly, Bool.and_false, Bool.false_and]
    simp only [digitsOnly, decimalU64, refused, Bool.not_false, Bool.or_true, Bool.false_eq_true,
      ↓reduceIte]

/-- An inscription's number is digits alone. -/
theorem Krc20.parseAmount_eq (text : String) :
    Krc20.parseAmount (some text) = decimalU64 text.toList :=
  (Krc20.parseAmount_some text).trans (plain_eq text)

theorem Krc721.parseU64_eq (text : String) :
    Krc721.parseU64 (some text) = decimalU64 text.toList :=
  (Krc721.parseU64_some text).trans (plain_eq text)

/-- The sign is never part of an inscription's number. -/
private theorem decimalU64_of_plus {digits : List Char} (plus : digits.head? = some '+') :
    decimalU64 digits = none := by
  cases digits with
  | nil => cases plus
  | cons first rest =>
      cases plus
      rfl

theorem fromStrU64_eq_iff (text : String) :
    fromStrU64 text = decimalU64 text.toList ↔ isSigned text = false := by
  by_cases plus : text.toList.head? = some '+'
  · cases shape : text.toList with
    | nil =>
        rw [shape] at plus
        cases plus
    | cons first digits =>
        rw [shape] at plus
        cases plus
        rw [fromStrU64_signed shape, @decimalU64_of_plus ('+' :: digits) rfl, isSigned, shape,
          decimalU64]
        cases decimal : isDecimalU64 digits with
        | true =>
            simp only [↓reduceIte, reduceCtorEq, List.head?_cons, beq_self_eq_true,
              List.tail_cons, decimal, Bool.and_self, Bool.true_eq_false]
        | false => simp only [Bool.false_eq_true, ↓reduceIte, List.tail_cons, decimal,
            Bool.and_false]
  · have plain : isSigned text = false := by
      rw [isSigned, beq_eq_false_iff_ne.mpr plus, Bool.false_and]
    exact ⟨fun _ => plain, fun _ => fromStrU64_unsigned plus⟩

theorem parseU64_ok_iff (value column : String) (number : UInt64) :
    parseU64 value column = .ok number ↔ fromStrU64 value = some number := by
  unfold parseU64
  cases fromStrU64 value with
  | none => simp only [reduceCtorEq]
  | some read => rw [Except.ok.injEq, Option.some.injEq]

/-! ## Rows -/

private theorem toOption_bind {ε α β : Type} (first : Except ε α) (next : α → Except ε β) :
    (first >>= next).toOption = first.toOption.bind fun value => (next value).toOption := by
  cases first with
  | error e => rfl
  | ok value => rfl

theorem toOption_eq_some_iff {ε α : Type} {result : Except ε α} {value : α} :
    result.toOption = some value ↔ result = .ok value := by
  cases result with
  | error e => simp only [Except.toOption, reduceCtorEq]
  | ok found => rw [Except.toOption, Option.some.injEq, Except.ok.injEq]

/-- The envelope that carries the texts of a row. -/
def Krc20LegacyOpRecord.envelope (record : Krc20LegacyOpRecord) : Krc20.RawEnvelope where
  p := some "krc-20"
  op := some record.op
  tick := some record.tickRaw
  max := record.maxSupply
  lim := record.mintLimit
  amt := record.amount
  recipient := record.recipient

def Krc721LegacyOpRecord.envelope (record : Krc721LegacyOpRecord) : Krc721.RawEnvelope where
  p := some "krc-721"
  op := some record.op
  tick := some record.tickRaw
  max := record.maxSupply
  id := record.tokenId
  uri := record.metadataUri
  recipient := record.recipient

/-- No number of the row is signed, and no text an operation needs is stored empty. -/
structure Krc20LegacyOpRecord.Plain (record : Krc20LegacyOpRecord) : Prop where
  amount : ∀ text ∈ record.amount, isSigned text = false
  maxSupply : ∀ text ∈ record.maxSupply, isSigned text = false
  mintLimit : ∀ text ∈ record.mintLimit, isSigned text = false
  recipient : record.recipient ≠ some ""

structure Krc721LegacyOpRecord.Plain (record : Krc721LegacyOpRecord) : Prop where
  tokenId : ∀ text ∈ record.tokenId, isSigned text = false
  maxSupply : ∀ text ∈ record.maxSupply, isSigned text = false
  metadataUri : record.metadataUri ≠ some ""
  recipient : record.recipient ≠ some ""

private theorem requiredU64_toOption {value : Option String}
    (plain : ∀ text ∈ value, isSigned text = false) (op column : String) :
    (requiredU64 value op column).toOption = Krc20.parseAmount value := by
  cases value with
  | none => rfl
  | some text =>
      rw [Krc20.parseAmount_eq, ← (fromStrU64_eq_iff text).mpr (plain text rfl)]
      change (parseU64 text column).toOption = _
      unfold parseU64
      cases fromStrU64 text with
      | none => rfl
      | some number => rfl

private theorem required_toOption {value : Option String} (stored : value ≠ some "")
    (op column : String) :
    (required value op column).toOption = value.filter fun text => !text.isEmpty := by
  cases value with
  | none => rfl
  | some text =>
      have filled : text.isEmpty = false := by
        rw [Bool.eq_false_iff, ne_eq, String.isEmpty_iff]
        exact fun empty => stored (congrArg some empty)
      simp only [required, Except.toOption, Option.filter_some, filled, Bool.not_false, ↓reduceIte]

theorem krc20InscriptionFromRecord_plain {record : Krc20LegacyOpRecord} (plain : record.Plain) :
    (krc20InscriptionFromRecord record).toOption =
      (Krc20.parseOp record.envelope).toOption.map fun op =>
        { tick := record.tick, tickRaw := record.tickRaw, op } := by
  have amountRead := requiredU64_toOption plain.amount
  have maxRead := requiredU64_toOption plain.maxSupply
  have limRead := requiredU64_toOption plain.mintLimit
  have recipientRead := required_toOption plain.recipient
  unfold krc20InscriptionFromRecord
  dsimp only
  split
  · rename_i shape
    simp only [Krc20.parseOp, Krc20LegacyOpRecord.envelope, shape, toOption_bind, maxRead, limRead]
    cases Krc20.parseAmount record.maxSupply with
    | none => rfl
    | some max =>
        cases Krc20.parseAmount record.mintLimit with
        | none => rfl
        | some lim => rfl
  · rename_i shape
    simp only [Krc20.parseOp, Krc20LegacyOpRecord.envelope, shape, toOption_bind, amountRead]
    cases Krc20.parseAmount record.amount with
    | none => rfl
    | some amt => rfl
  · rename_i shape
    rw [Krc20.parseOp_transfer (congrArg some shape)]
    simp only [Krc20LegacyOpRecord.envelope, toOption_bind, amountRead, recipientRead]
    cases Krc20.parseAmount record.amount with
    | none => rfl
    | some amt =>
        cases record.recipient.filter fun text => !text.isEmpty with
        | none => rfl
        | some recipient => rfl
  · rename_i shape
    simp only [Krc20.parseOp, Krc20LegacyOpRecord.envelope, shape, toOption_bind, amountRead]
    cases Krc20.parseAmount record.amount with
    | none => rfl
    | some amt => rfl
  · rename_i deploy mint transfer burn
    have unknown : (Krc20.parseOp record.envelope).toOption = none := by
      unfold Krc20.parseOp
      split
      · rename_i shape
        exact (deploy (Option.some.inj shape)).elim
      · rename_i shape
        exact (mint (Option.some.inj shape)).elim
      · rename_i shape
        exact (transfer (Option.some.inj shape)).elim
      · rename_i shape
        exact (burn (Option.some.inj shape)).elim
      · rfl
    rw [unknown]
    rfl

private theorem requiredId_toOption {value : Option String}
    (plain : ∀ text ∈ value, isSigned text = false) (op column : String) :
    (requiredU64 value op column).toOption = Krc721.parseU64 value := by
  rw [requiredU64_toOption plain op column]
  cases value with
  | none => rfl
  | some text => rw [Krc20.parseAmount_eq, Krc721.parseU64_eq]

theorem krc721InscriptionFromRecord_plain {record : Krc721LegacyOpRecord}
    (plain : record.Plain) :
    (krc721InscriptionFromRecord record).toOption =
      (Krc721.parseOp record.envelope).toOption.map fun op =>
        { tick := record.tick, tickRaw := record.tickRaw, op } := by
  have idRead := requiredId_toOption plain.tokenId
  have maxRead := requiredId_toOption plain.maxSupply
  have uriRead := required_toOption plain.metadataUri
  have recipientRead := required_toOption plain.recipient
  unfold krc721InscriptionFromRecord
  dsimp only
  split
  · rename_i shape
    simp only [Krc721.parseOp, Krc721LegacyOpRecord.envelope, shape, toOption_bind, maxRead]
    cases Krc721.parseU64 record.maxSupply with
    | none => rfl
    | some max => rfl
  · rename_i shape
    rw [Krc721.parseOp_mint (congrArg some shape)]
    simp only [Krc721LegacyOpRecord.envelope, toOption_bind, idRead, uriRead]
    cases Krc721.parseU64 record.tokenId with
    | none => rfl
    | some id =>
        cases record.metadataUri.filter fun text => !text.isEmpty with
        | none => rfl
        | some uri => rfl
  · rename_i shape
    rw [Krc721.parseOp_transfer (congrArg some shape)]
    simp only [Krc721LegacyOpRecord.envelope, toOption_bind, idRead, recipientRead]
    cases Krc721.parseU64 record.tokenId with
    | none => rfl
    | some id =>
        cases record.recipient.filter fun text => !text.isEmpty with
        | none => rfl
        | some recipient => rfl
  · rename_i shape
    simp only [Krc721.parseOp, Krc721LegacyOpRecord.envelope, shape, toOption_bind, idRead]
    cases Krc721.parseU64 record.tokenId with
    | none => rfl
    | some id => rfl
  · rename_i deploy mint transfer burn
    have unknown : (Krc721.parseOp record.envelope).toOption = none := by
      unfold Krc721.parseOp
      split
      · rename_i shape
        exact (deploy (Option.some.inj shape)).elim
      · rename_i shape
        exact (mint (Option.some.inj shape)).elim
      · rename_i shape
        exact (transfer (Option.some.inj shape)).elim
      · rename_i shape
        exact (burn (Option.some.inj shape)).elim
      · rfl
    rw [unknown]
    rfl

/-! ## Agreement -/

/-- The journal reads the same number as an inscription: both refuse the text, or both
read the same value. -/
def NumbersAgree (text : String) : Prop :=
  ∀ column number,
    (parseU64 text column = .ok number ↔ Krc20.parseAmount (some text) = some number) ∧
      (parseU64 text column = .ok number ↔ Krc721.parseU64 (some text) = some number)

theorem numbersAgree_iff (text : String) : NumbersAgree text ↔ isSigned text = false := by
  rw [← fromStrU64_eq_iff]
  constructor
  · intro agree
    refine Option.ext fun number => ?_
    rw [← parseU64_ok_iff text "amount", (agree "amount" number).1, Krc20.parseAmount_eq]
  · intro same column number
    rw [parseU64_ok_iff, Krc20.parseAmount_eq, Krc721.parseU64_eq, same]
    exact ⟨Iff.rfl, Iff.rfl⟩

/-- The journal and the inscription parsers read the same numbers from exactly the texts
that do not put a plus sign before a number, and a row without such a text reconstructs
exactly when the operation of its inscription parses. -/
theorem journal_numbers_agree (text : String) (krc20Row : Krc20LegacyOpRecord)
    (krc721Row : Krc721LegacyOpRecord) :
    (NumbersAgree text ↔ isSigned text = false) ∧
    (krc20Row.Plain → ∀ op,
      krc20InscriptionFromRecord krc20Row =
          .ok { tick := krc20Row.tick, tickRaw := krc20Row.tickRaw, op } ↔
        Krc20.parseOp krc20Row.envelope = .ok op) ∧
    (krc721Row.Plain → ∀ op,
      krc721InscriptionFromRecord krc721Row =
          .ok { tick := krc721Row.tick, tickRaw := krc721Row.tickRaw, op } ↔
        Krc721.parseOp krc721Row.envelope = .ok op) := by
  refine ⟨numbersAgree_iff text, fun plain op => ?_, fun plain op => ?_⟩
  · rw [← toOption_eq_some_iff, krc20InscriptionFromRecord_plain plain, ← toOption_eq_some_iff]
    refine Option.map_eq_some_iff.trans ⟨?_, fun parsed => ⟨op, parsed, rfl⟩⟩
    rintro ⟨read, parsed, same⟩
    rw [parsed, (Krc20Inscription.mk.inj same).2.2]
  · rw [← toOption_eq_some_iff, krc721InscriptionFromRecord_plain plain, ← toOption_eq_some_iff]
    refine Option.map_eq_some_iff.trans ⟨?_, fun parsed => ⟨op, parsed, rfl⟩⟩
    rintro ⟨read, parsed, same⟩
    rw [parsed, (Krc721Inscription.mk.inj same).2.2]

theorem signed_amount_reconstructs : parseU64 "+5" "amount" = .ok 5 ∧
    Krc20.parseAmount (some "+5") = none ∧ ¬ ∀ text, NumbersAgree text := by
  refine ⟨by decide, by decide, fun agree => ?_⟩
  have plain := (numbersAgree_iff "+5").mp (agree "+5")
  exact absurd plain (by decide)

end KasGraph
