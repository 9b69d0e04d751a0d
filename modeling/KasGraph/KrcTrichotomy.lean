import KasGraph.EnvelopeReading

set_option autoImplicit false

/-! The three answers of the inscription parsers: no inscription, a malformed one, or a valid
one, told apart by the fields of the document in the payload. -/

namespace KasGraph

/-- A field whose text is a decimal number below 2^64, without a sign. -/
def DecimalField (fields : List (String × JsonDocument)) (name : String) (number : UInt64) :
    Prop :=
  ∃ text, (name, .string text) ∈ fields ∧ decimalU64 text.toList = some number

def TextField (fields : List (String × JsonDocument)) (name text : String) : Prop :=
  (name, .string text) ∈ fields

/-- A tick has at least one character, and ASCII characters only. -/
def WellTicked (tickRaw : String) : Prop := tickRaw ≠ "" ∧ isAscii tickRaw = true

theorem wellTicked_iff {tickRaw : String} :
    WellTicked tickRaw ↔ ¬ (tickRaw.isEmpty || !isAscii tickRaw) = true := by
  rw [Bool.or_eq_true, not_or, String.isEmpty_iff, Bool.not_eq_true', Bool.not_eq_false, WellTicked]

/-- The tick of an inscription, as written and in lower case. -/
def TickField (fields : List (String × JsonDocument)) (tick tickRaw : String) : Prop :=
  TextField fields "tick" tickRaw ∧ WellTicked tickRaw ∧ tick = toAsciiLowercase tickRaw

theorem nonEmpty_iff (text : String) : (!text.isEmpty) = true ↔ text ≠ "" := by
  rw [Bool.not_eq_true', Bool.eq_false_iff, ne_eq, String.isEmpty_iff]

section Fields

variable {fields : List (String × JsonDocument)} {name : String} {value : Option String}

/-- A text read from a field is the text the object has there. -/
theorem textField_iff (read : fieldText fields name = some value) (text : String) :
    value = some text ↔ TextField fields name text := by
  have plain : PlainField fields name := fieldText_isSome_iff.mp (by rw [read]; rfl)
  rw [TextField, ← fieldText_eq_some_some plain, read, Option.some.injEq]

/-- A number read from a field is one it has as a decimal text. -/
theorem decimalField_iff (read : fieldText fields name = some value) (number : UInt64) :
    Krc20.parseAmount value = some number ↔ DecimalField fields name number := by
  constructor
  · intro parsed
    obtain ⟨text, held, -⟩ := Krc20.parseAmount_eq_some parsed
    refine ⟨text, (textField_iff read text).mp held, ?_⟩
    rw [← Krc20.parseAmount_eq, ← held]
    exact parsed
  · rintro ⟨text, held, decimal⟩
    rw [(textField_iff read text).mpr held, Krc20.parseAmount_eq]
    exact decimal

theorem decimalId_iff (read : fieldText fields name = some value) (number : UInt64) :
    Krc721.parseU64 value = some number ↔ DecimalField fields name number := by
  rw [← decimalField_iff read]
  cases value with
  | none => rfl
  | some text => rw [Krc721.parseU64_eq, Krc20.parseAmount_eq]

end Fields

/-! ## KRC-20 -/

namespace Krc20

def envelopeNames : List String := ["p", "op", "tick", "max", "lim", "amt", "to"]

def RawEnvelope.ofTexts : List (Option String) → Option RawEnvelope
  | [p, op, tick, max, lim, amt, recipient] => some { p, op, tick, max, lim, amt, recipient }
  | _ => none

def RawEnvelope.deserialize (document : JsonDocument) : Option RawEnvelope :=
  (deserializeTexts envelopeNames document).bind RawEnvelope.ofTexts

theorem ofTexts_total (texts : List (Option String)) (level : texts.length = 7) :
    (RawEnvelope.ofTexts texts).isSome = true := by
  rcases texts with _ | ⟨p, _ | ⟨op, _ | ⟨tick, _ | ⟨max, _ | ⟨lim, _ | ⟨amt, _ | ⟨recipient, _ |
    ⟨extra, rest⟩⟩⟩⟩⟩⟩⟩⟩ <;>
    first
      | rfl
      | simp only [List.length_cons, List.length_nil] at level; omega

theorem ofTexts_tag (texts : List (Option String)) (env : RawEnvelope)
    (made : RawEnvelope.ofTexts texts = some env) : texts.head? = some env.p := by
  unfold RawEnvelope.ofTexts at made
  split at made
  · cases made
    rfl
  · cases made

theorem derived : Derived envelopeNames (·.p) RawEnvelope.deserialize :=
  derived_of_texts ofTexts_total ofTexts_tag

/-- The texts of a tagged object's envelope are those of its fields. -/
theorem deserialize_object {fields : List (String × JsonDocument)} {env : RawEnvelope}
    (read : RawEnvelope.deserialize (.object fields) = some env) :
    fieldText fields "p" = some env.p ∧ fieldText fields "op" = some env.op ∧
      fieldText fields "tick" = some env.tick ∧ fieldText fields "max" = some env.max ∧
      fieldText fields "lim" = some env.lim ∧ fieldText fields "amt" = some env.amt ∧
      fieldText fields "to" = some env.recipient := by
  obtain ⟨texts, named, made⟩ := Option.bind_eq_some_iff.mp read
  simp only [deserializeTexts, envelopeNames, List.mapM_cons, List.mapM_nil, bind,
    Option.bind_eq_some_iff, pure, Option.some.injEq] at named
  obtain ⟨p, hp, -, ⟨op, hop, -, ⟨tick, htick, -, ⟨max, hmax, -, ⟨lim, hlim, -, ⟨amt, hamt, -,
    ⟨recipient, hto, -, rfl, rfl⟩, rfl⟩, rfl⟩, rfl⟩, rfl⟩, rfl⟩, rfl⟩ := named
  cases made
  exact ⟨hp, hop, htick, hmax, hlim, hamt, hto⟩

/-- An operation with the fields it needs. -/
def OpFields (fields : List (String × JsonDocument)) : Krc20Op → Prop
  | .deploy max lim =>
      TextField fields "op" "deploy" ∧ DecimalField fields "max" max ∧
        DecimalField fields "lim" lim
  | .mint amt => TextField fields "op" "mint" ∧ DecimalField fields "amt" amt
  | .transfer amt recipient =>
      TextField fields "op" "transfer" ∧ DecimalField fields "amt" amt ∧
        TextField fields "to" recipient ∧ recipient ≠ ""
  | .burn amt => TextField fields "op" "burn" ∧ DecimalField fields "amt" amt

/-- What an envelope holds of an operation. -/
def Holds (env : RawEnvelope) : Krc20Op → Prop
  | .deploy max lim =>
      env.op = some "deploy" ∧ parseAmount env.max = some max ∧ parseAmount env.lim = some lim
  | .mint amt => env.op = some "mint" ∧ parseAmount env.amt = some amt
  | .transfer amt recipient =>
      env.op = some "transfer" ∧ parseAmount env.amt = some amt ∧
        env.recipient = some recipient ∧ recipient ≠ ""
  | .burn amt => env.op = some "burn" ∧ parseAmount env.amt = some amt

theorem parseOp_ok_iff (env : RawEnvelope) (op : Krc20Op) :
    parseOp env = .ok op ↔ Holds env op := by
  constructor
  · intro parsed
    have whole := toOption_eq_some_iff.mpr parsed
    unfold parseOp at parsed
    split at parsed
    · rename_i shape
      split at parsed
      · cases parsed
      · rename_i max maxRead
        split at parsed
        · cases parsed
        · rename_i lim limRead
          cases parsed
          exact ⟨shape, maxRead, limRead⟩
    · rename_i shape
      split at parsed
      · rename_i amt amtRead
        cases parsed
        exact ⟨shape, amtRead⟩
      · cases parsed
    · rename_i shape
      rw [parseOp_transfer shape] at whole
      obtain ⟨amt, amtRead, given⟩ := Option.bind_eq_some_iff.mp whole
      obtain ⟨recipient, named, same⟩ := Option.map_eq_some_iff.mp given
      obtain ⟨held, filled⟩ := Option.filter_eq_some_iff.mp named
      rw [← same]
      exact ⟨shape, amtRead, held, (nonEmpty_iff recipient).mp filled⟩
    · rename_i shape
      split at parsed
      · rename_i amt amtRead
        cases parsed
        exact ⟨shape, amtRead⟩
      · cases parsed
    · cases parsed
  · cases op with
    | deploy max lim =>
        rintro ⟨shape, maxRead, limRead⟩
        simp only [parseOp, shape, maxRead, limRead]
    | mint amt =>
        rintro ⟨shape, amtRead⟩
        simp only [parseOp, shape, amtRead]
    | transfer amt recipient =>
        rintro ⟨shape, amtRead, held, filled⟩
        refine toOption_eq_some_iff.mp ?_
        rw [parseOp_transfer shape, amtRead, held]
        simp only [Option.bind_some, Option.filter_some, (nonEmpty_iff recipient).mpr filled,
          ↓reduceIte, Option.map_some]
    | burn amt =>
        rintro ⟨shape, amtRead⟩
        simp only [parseOp, shape, amtRead]

theorem parseEnvelope_valid_iff (env : RawEnvelope) (inscription : Krc20Inscription) :
    parseEnvelope env = .valid inscription ↔ env.p = some "krc-20" ∧
      env.tick = some inscription.tickRaw ∧ WellTicked inscription.tickRaw ∧
      inscription.tick = toAsciiLowercase inscription.tickRaw ∧ Holds env inscription.op := by
  rw [← parseOp_ok_iff]
  unfold parseEnvelope
  by_cases tagged : env.p = some "krc-20"
  · simp only [tagged, bne_self_eq_false, Bool.false_eq_true, ↓reduceIte, true_and]
    cases env.tick with
    | none => simp only [reduceCtorEq, false_and]
    | some tickRaw =>
        rw [Option.some.injEq]
        by_cases refused : tickRaw.isEmpty || !isAscii tickRaw
        · simp only [refused, ↓reduceIte, reduceCtorEq, false_iff]
          rintro ⟨rfl, ticked, -⟩
          exact wellTicked_iff.mp ticked refused
        · have ticked := wellTicked_iff.mpr refused
          simp only [refused, Bool.false_eq_true, ↓reduceIte]
          cases parseOp env with
          | error reason => simp only [reduceCtorEq, and_false]
          | ok op =>
              rw [Krc20Parse.valid.injEq, Except.ok.injEq]
              constructor
              · rintro rfl
                exact ⟨rfl, ticked, rfl, rfl⟩
              · rintro ⟨written, -, lowered, performed⟩
                rw [written, performed, ← lowered]
  · have other : (env.p != some "krc-20") = true := bne_iff_ne.mpr tagged
    simp only [other, ↓reduceIte, reduceCtorEq, tagged, false_and]

theorem parseEnvelope_notKrc20_iff (env : RawEnvelope) :
    parseEnvelope env = .notKrc20 ↔ env.p ≠ some "krc-20" := by
  unfold parseEnvelope
  by_cases tagged : env.p = some "krc-20"
  · simp only [tagged, bne_self_eq_false, Bool.false_eq_true, ↓reduceIte, ne_eq,
      not_true_eq_false, iff_false]
    cases env.tick with
    | none => simp only [reduceCtorEq, not_false_eq_true]
    | some tickRaw =>
        by_cases refused : tickRaw.isEmpty || !isAscii tickRaw
        · simp only [refused, ↓reduceIte, reduceCtorEq, not_false_eq_true]
        · simp only [refused, Bool.false_eq_true, ↓reduceIte]
          cases parseOp env with
          | error reason => simp only [reduceCtorEq, not_false_eq_true]
          | ok op => simp only [reduceCtorEq, not_false_eq_true]
  · have other : (env.p != some "krc-20") = true := bne_iff_ne.mpr tagged
    simp only [other, ↓reduceIte, ne_eq, tagged, not_false_eq_true]

/-- The fields of a valid inscription. -/
def InscriptionFields (fields : List (String × JsonDocument)) (inscription : Krc20Inscription) :
    Prop :=
  TickField fields inscription.tick inscription.tickRaw ∧ OpFields fields inscription.op

theorem holds_iff_opFields {fields : List (String × JsonDocument)} {env : RawEnvelope}
    (read : RawEnvelope.deserialize (.object fields) = some env) (op : Krc20Op) :
    Holds env op ↔ OpFields fields op := by
  obtain ⟨-, hop, -, hmax, hlim, hamt, hto⟩ := deserialize_object read
  cases op with
  | deploy max lim =>
      exact and_congr (textField_iff hop _)
        (and_congr (decimalField_iff hmax max) (decimalField_iff hlim lim))
  | mint amt => exact and_congr (textField_iff hop _) (decimalField_iff hamt amt)
  | transfer amt recipient =>
      exact and_congr (textField_iff hop _) (and_congr (decimalField_iff hamt amt)
        (and_congr (textField_iff hto recipient) Iff.rfl))
  | burn amt => exact and_congr (textField_iff hop _) (decimalField_iff hamt amt)

/-- The answers of the parser, for the document in a payload. -/
abbrev Answers (fromSlice : List UInt8 → Option JsonDocument) (payload : List UInt8) : Prop :=
  Trichotomy "krc-20" (fromSlice payload)
    (parseKrc20Inscription (fun bytes => (fromSlice bytes).bind RawEnvelope.deserialize) payload =
      .notKrc20)
    (fun inscription =>
      parseKrc20Inscription (fun bytes => (fromSlice bytes).bind RawEnvelope.deserialize) payload =
        .valid inscription)
    InscriptionFields

theorem answers_iff_regular (fromSlice : List UInt8 → Option JsonDocument)
    (payload : List UInt8) :
    Answers fromSlice payload ↔ Regular "krc-20" envelopeNames (fromSlice payload) := by
  refine trichotomy_iff (fun env inscription => parseEnvelope env = .valid inscription)
    derived ?_ ?_ ?_ ?_
  · simp only [parseKrc20Inscription, Claims]
    cases (fromSlice payload).bind RawEnvelope.deserialize with
    | none => simp only [reduceCtorEq, false_and, exists_false, not_false_eq_true]
    | some env =>
        simp only [parseEnvelope_notKrc20_iff, Option.some.injEq, exists_eq_left', ne_eq]
  · intro inscription
    simp only [parseKrc20Inscription]
    cases (fromSlice payload).bind RawEnvelope.deserialize with
    | none => simp only [reduceCtorEq, false_and, exists_false]
    | some env => simp only [Option.some.injEq, exists_eq_left']
  · exact fun env inscription good => ((parseEnvelope_valid_iff env inscription).mp good).1
  · intro fields env read tagged inscription
    obtain ⟨hp, -, htick, -⟩ := deserialize_object read
    have claimed := (textField_iff hp "krc-20").mpr tagged
    rw [parseEnvelope_valid_iff, textField_iff htick, holds_iff_opFields read,
      and_iff_right claimed, InscriptionFields, TickField, and_assoc, and_assoc]

end Krc20

/-! ## KRC-721 -/

namespace Krc721

def envelopeNames : List String := ["p", "op", "tick", "max", "id", "uri", "to"]

def RawEnvelope.ofTexts : List (Option String) → Option RawEnvelope
  | [p, op, tick, max, id, uri, recipient] => some { p, op, tick, max, id, uri, recipient }
  | _ => none

def RawEnvelope.deserialize (document : JsonDocument) : Option RawEnvelope :=
  (deserializeTexts envelopeNames document).bind RawEnvelope.ofTexts

theorem ofTexts_total (texts : List (Option String)) (level : texts.length = 7) :
    (RawEnvelope.ofTexts texts).isSome = true := by
  rcases texts with _ | ⟨p, _ | ⟨op, _ | ⟨tick, _ | ⟨max, _ | ⟨id, _ | ⟨uri, _ | ⟨recipient, _ |
    ⟨extra, rest⟩⟩⟩⟩⟩⟩⟩⟩ <;>
    first
      | rfl
      | simp only [List.length_cons, List.length_nil] at level; omega

theorem ofTexts_tag (texts : List (Option String)) (env : RawEnvelope)
    (made : RawEnvelope.ofTexts texts = some env) : texts.head? = some env.p := by
  unfold RawEnvelope.ofTexts at made
  split at made
  · cases made
    rfl
  · cases made

theorem derived : Derived envelopeNames (·.p) RawEnvelope.deserialize :=
  derived_of_texts ofTexts_total ofTexts_tag

/-- The texts of a tagged object's envelope are those of its fields. -/
theorem deserialize_object {fields : List (String × JsonDocument)} {env : RawEnvelope}
    (read : RawEnvelope.deserialize (.object fields) = some env) :
    fieldText fields "p" = some env.p ∧ fieldText fields "op" = some env.op ∧
      fieldText fields "tick" = some env.tick ∧ fieldText fields "max" = some env.max ∧
      fieldText fields "id" = some env.id ∧ fieldText fields "uri" = some env.uri ∧
      fieldText fields "to" = some env.recipient := by
  obtain ⟨texts, named, made⟩ := Option.bind_eq_some_iff.mp read
  simp only [deserializeTexts, envelopeNames, List.mapM_cons, List.mapM_nil, bind,
    Option.bind_eq_some_iff, pure, Option.some.injEq] at named
  obtain ⟨p, hp, -, ⟨op, hop, -, ⟨tick, htick, -, ⟨max, hmax, -, ⟨id, hid, -, ⟨uri, huri, -,
    ⟨recipient, hto, -, rfl, rfl⟩, rfl⟩, rfl⟩, rfl⟩, rfl⟩, rfl⟩, rfl⟩ := named
  cases made
  exact ⟨hp, hop, htick, hmax, hid, huri, hto⟩

/-- An operation with the fields it needs. -/
def OpFields (fields : List (String × JsonDocument)) : Krc721Op → Prop
  | .deploy max => TextField fields "op" "deploy" ∧ DecimalField fields "max" max
  | .mint id uri =>
      TextField fields "op" "mint" ∧ DecimalField fields "id" id ∧ TextField fields "uri" uri ∧
        uri ≠ ""
  | .transfer id recipient =>
      TextField fields "op" "transfer" ∧ DecimalField fields "id" id ∧
        TextField fields "to" recipient ∧ recipient ≠ ""
  | .burn id => TextField fields "op" "burn" ∧ DecimalField fields "id" id

/-- What an envelope holds of an operation. -/
def Holds (env : RawEnvelope) : Krc721Op → Prop
  | .deploy max => env.op = some "deploy" ∧ parseU64 env.max = some max
  | .mint id uri =>
      env.op = some "mint" ∧ parseU64 env.id = some id ∧ env.uri = some uri ∧ uri ≠ ""
  | .transfer id recipient =>
      env.op = some "transfer" ∧ parseU64 env.id = some id ∧ env.recipient = some recipient ∧
        recipient ≠ ""
  | .burn id => env.op = some "burn" ∧ parseU64 env.id = some id

theorem parseOp_ok_iff (env : RawEnvelope) (op : Krc721Op) :
    parseOp env = .ok op ↔ Holds env op := by
  constructor
  · intro parsed
    have whole := toOption_eq_some_iff.mpr parsed
    unfold parseOp at parsed
    split at parsed
    · rename_i shape
      split at parsed
      · rename_i max maxRead
        cases parsed
        exact ⟨shape, maxRead⟩
      · cases parsed
    · rename_i shape
      rw [parseOp_mint shape] at whole
      obtain ⟨id, idRead, given⟩ := Option.bind_eq_some_iff.mp whole
      obtain ⟨uri, named, same⟩ := Option.map_eq_some_iff.mp given
      obtain ⟨held, filled⟩ := Option.filter_eq_some_iff.mp named
      rw [← same]
      exact ⟨shape, idRead, held, (nonEmpty_iff uri).mp filled⟩
    · rename_i shape
      rw [parseOp_transfer shape] at whole
      obtain ⟨id, idRead, given⟩ := Option.bind_eq_some_iff.mp whole
      obtain ⟨recipient, named, same⟩ := Option.map_eq_some_iff.mp given
      obtain ⟨held, filled⟩ := Option.filter_eq_some_iff.mp named
      rw [← same]
      exact ⟨shape, idRead, held, (nonEmpty_iff recipient).mp filled⟩
    · rename_i shape
      split at parsed
      · rename_i id idRead
        cases parsed
        exact ⟨shape, idRead⟩
      · cases parsed
    · cases parsed
  · cases op with
    | deploy max =>
        rintro ⟨shape, maxRead⟩
        simp only [parseOp, shape, maxRead]
    | mint id uri =>
        rintro ⟨shape, idRead, held, filled⟩
        refine toOption_eq_some_iff.mp ?_
        rw [parseOp_mint shape, idRead, held]
        simp only [Option.bind_some, Option.filter_some, (nonEmpty_iff uri).mpr filled,
          ↓reduceIte, Option.map_some]
    | transfer id recipient =>
        rintro ⟨shape, idRead, held, filled⟩
        refine toOption_eq_some_iff.mp ?_
        rw [parseOp_transfer shape, idRead, held]
        simp only [Option.bind_some, Option.filter_some, (nonEmpty_iff recipient).mpr filled,
          ↓reduceIte, Option.map_some]
    | burn id =>
        rintro ⟨shape, idRead⟩
        simp only [parseOp, shape, idRead]

theorem parseEnvelope_valid_iff (env : RawEnvelope) (inscription : Krc721Inscription) :
    parseEnvelope env = .valid inscription ↔ env.p = some "krc-721" ∧
      env.tick = some inscription.tickRaw ∧ WellTicked inscription.tickRaw ∧
      inscription.tick = toAsciiLowercase inscription.tickRaw ∧ Holds env inscription.op := by
  rw [← parseOp_ok_iff]
  unfold parseEnvelope
  by_cases tagged : env.p = some "krc-721"
  · simp only [tagged, bne_self_eq_false, Bool.false_eq_true, ↓reduceIte, true_and]
    cases env.tick with
    | none => simp only [reduceCtorEq, false_and]
    | some tickRaw =>
        rw [Option.some.injEq]
        by_cases refused : tickRaw.isEmpty || !isAscii tickRaw
        · simp only [refused, ↓reduceIte, reduceCtorEq, false_iff]
          rintro ⟨rfl, ticked, -⟩
          exact wellTicked_iff.mp ticked refused
        · have ticked := wellTicked_iff.mpr refused
          simp only [refused, Bool.false_eq_true, ↓reduceIte]
          cases parseOp env with
          | error reason => simp only [reduceCtorEq, and_false]
          | ok op =>
              rw [Krc721Parse.valid.injEq, Except.ok.injEq]
              constructor
              · rintro rfl
                exact ⟨rfl, ticked, rfl, rfl⟩
              · rintro ⟨written, -, lowered, performed⟩
                rw [written, performed, ← lowered]
  · have other : (env.p != some "krc-721") = true := bne_iff_ne.mpr tagged
    simp only [other, ↓reduceIte, reduceCtorEq, tagged, false_and]

theorem parseEnvelope_notKrc721_iff (env : RawEnvelope) :
    parseEnvelope env = .notKrc721 ↔ env.p ≠ some "krc-721" := by
  unfold parseEnvelope
  by_cases tagged : env.p = some "krc-721"
  · simp only [tagged, bne_self_eq_false, Bool.false_eq_true, ↓reduceIte, ne_eq,
      not_true_eq_false, iff_false]
    cases env.tick with
    | none => simp only [reduceCtorEq, not_false_eq_true]
    | some tickRaw =>
        by_cases refused : tickRaw.isEmpty || !isAscii tickRaw
        · simp only [refused, ↓reduceIte, reduceCtorEq, not_false_eq_true]
        · simp only [refused, Bool.false_eq_true, ↓reduceIte]
          cases parseOp env with
          | error reason => simp only [reduceCtorEq, not_false_eq_true]
          | ok op => simp only [reduceCtorEq, not_false_eq_true]
  · have other : (env.p != some "krc-721") = true := bne_iff_ne.mpr tagged
    simp only [other, ↓reduceIte, ne_eq, tagged, not_false_eq_true]

/-- The fields of a valid inscription. -/
def InscriptionFields (fields : List (String × JsonDocument)) (inscription : Krc721Inscription) :
    Prop :=
  TickField fields inscription.tick inscription.tickRaw ∧ OpFields fields inscription.op

theorem holds_iff_opFields {fields : List (String × JsonDocument)} {env : RawEnvelope}
    (read : RawEnvelope.deserialize (.object fields) = some env) (op : Krc721Op) :
    Holds env op ↔ OpFields fields op := by
  obtain ⟨-, hop, -, hmax, hid, huri, hto⟩ := deserialize_object read
  cases op with
  | deploy max => exact and_congr (textField_iff hop _) (decimalId_iff hmax max)
  | mint id uri =>
      exact and_congr (textField_iff hop _) (and_congr (decimalId_iff hid id)
        (and_congr (textField_iff huri uri) Iff.rfl))
  | transfer id recipient =>
      exact and_congr (textField_iff hop _) (and_congr (decimalId_iff hid id)
        (and_congr (textField_iff hto recipient) Iff.rfl))
  | burn id => exact and_congr (textField_iff hop _) (decimalId_iff hid id)

/-- The answers of the parser, for the document in a payload. -/
abbrev Answers (fromSlice : List UInt8 → Option JsonDocument) (payload : List UInt8) : Prop :=
  Trichotomy "krc-721" (fromSlice payload)
    (parseKrc721Inscription (fun bytes => (fromSlice bytes).bind RawEnvelope.deserialize) payload =
      .notKrc721)
    (fun inscription =>
      parseKrc721Inscription (fun bytes => (fromSlice bytes).bind RawEnvelope.deserialize) payload =
        .valid inscription)
    InscriptionFields

theorem answers_iff_regular (fromSlice : List UInt8 → Option JsonDocument)
    (payload : List UInt8) :
    Answers fromSlice payload ↔ Regular "krc-721" envelopeNames (fromSlice payload) := by
  refine trichotomy_iff (fun env inscription => parseEnvelope env = .valid inscription)
    derived ?_ ?_ ?_ ?_
  · simp only [parseKrc721Inscription, Claims]
    cases (fromSlice payload).bind RawEnvelope.deserialize with
    | none => simp only [reduceCtorEq, false_and, exists_false, not_false_eq_true]
    | some env =>
        simp only [parseEnvelope_notKrc721_iff, Option.some.injEq, exists_eq_left', ne_eq]
  · intro inscription
    simp only [parseKrc721Inscription]
    cases (fromSlice payload).bind RawEnvelope.deserialize with
    | none => simp only [reduceCtorEq, false_and, exists_false]
    | some env => simp only [Option.some.injEq, exists_eq_left']
  · exact fun env inscription good => ((parseEnvelope_valid_iff env inscription).mp good).1
  · intro fields env read tagged inscription
    obtain ⟨hp, -, htick, -⟩ := deserialize_object read
    have claimed := (textField_iff hp "krc-721").mpr tagged
    rw [parseEnvelope_valid_iff, textField_iff htick, holds_iff_opFields read,
      and_iff_right claimed, InscriptionFields, TickField, and_assoc, and_assoc]

end Krc721

/-! ## Both parsers -/

/-- Both parsers answer by the fields of the document exactly where it is regular: where an
object with their tag has each of their names at most once, with a text or null, and where
the document is no row of such values that starts with the tag. -/
theorem krc_answers_iff (fromSlice : List UInt8 → Option JsonDocument) (payload : List UInt8) :
    (Krc20.Answers fromSlice payload ↔
      Regular "krc-20" Krc20.envelopeNames (fromSlice payload)) ∧
    (Krc721.Answers fromSlice payload ↔
      Regular "krc-721" Krc721.envelopeNames (fromSlice payload)) :=
  ⟨Krc20.answers_iff_regular fromSlice payload, Krc721.answers_iff_regular fromSlice payload⟩

/-- A mint whose amount is a number in place of a text. -/
def numericMint : JsonDocument :=
  .object [("p", .string "krc-20"), ("op", .string "mint"), ("tick", .string "kasp"),
    ("amt", .number "5")]

/-- It carries the tag, and is taken for no inscription at all. -/
theorem numeric_amount_is_ignored :
    parseKrc20Inscription (fun _ => Krc20.RawEnvelope.deserialize numericMint) [] = .notKrc20 ∧
      CarriesTag "krc-20" (some numericMint) ∧
      ¬ ∀ (fromSlice : List UInt8 → Option JsonDocument) (payload : List UInt8),
        Krc20.Answers fromSlice payload := by
  have ignored : parseKrc20Inscription (fun _ => Krc20.RawEnvelope.deserialize numericMint) [] =
      .notKrc20 := by decide
  have carried : CarriesTag "krc-20" (some numericMint) := ⟨_, rfl, List.mem_cons_self ..⟩
  refine ⟨ignored, carried, fun always => ?_⟩
  have answers := always (fun _ => some numericMint) []
  exact answers.notKrc.mp ignored carried

end KasGraph
