import KasGraph.JournalNumbers

set_option autoImplicit false

/-! Envelopes read from JSON documents. A document is taken as it was written, the fields of
an object in their order and repeated names included; the derived deserializer of an
envelope wants each of its names at most once, with a text or null. -/

namespace KasGraph

/-- A parsed JSON document. -/
inductive JsonDocument where
  | null
  | bool (b : Bool)
  | number (digits : String)
  | string (s : String)
  | array (items : List JsonDocument)
  | object (fields : List (String × JsonDocument))

/-- An `Option<String>`. -/
def JsonDocument.optionalText : JsonDocument → Option (Option String)
  | .null => some none
  | .string s => some (some s)
  | _ => none

/-- The field of an optional text: absent, once, or refused. -/
def fieldText (fields : List (String × JsonDocument)) (name : String) :
    Option (Option String) :=
  match fields.filter (·.1 == name) with
  | [] => some none
  | [field] => field.2.optionalText
  | _ => none

/-! ## Fields -/

section Fields

variable {fields : List (String × JsonDocument)} {name : String}

/-- A name that stands at most once, with a text or null. -/
structure PlainField (fields : List (String × JsonDocument)) (name : String) : Prop where
  once : (fields.filter (·.1 == name)).length ≤ 1
  optional : ∀ value, (name, value) ∈ fields → value = .null ∨ ∃ s, value = .string s

theorem mem_named {value : JsonDocument} :
    (name, value) ∈ fields.filter (·.1 == name) ↔ (name, value) ∈ fields := by
  rw [List.mem_filter, beq_self_eq_true, and_iff_left rfl]

theorem optionalText_isSome {value : JsonDocument} :
    value.optionalText.isSome = true ↔ value = .null ∨ ∃ s, value = .string s := by
  cases value with
  | null => exact iff_of_true rfl (Or.inl rfl)
  | string s => exact iff_of_true rfl (Or.inr ⟨s, rfl⟩)
  | bool b => simp [JsonDocument.optionalText]
  | number digits => simp [JsonDocument.optionalText]
  | array items => simp [JsonDocument.optionalText]
  | object fields => simp [JsonDocument.optionalText]

theorem optionalText_eq_some_some {value : JsonDocument} {text : String} :
    value.optionalText = some (some text) ↔ value = .string text := by
  cases value with
  | string s => simp only [JsonDocument.optionalText, Option.some.injEq, JsonDocument.string.injEq]
  | null => simp [JsonDocument.optionalText]
  | bool b => simp [JsonDocument.optionalText]
  | number digits => simp [JsonDocument.optionalText]
  | array items => simp [JsonDocument.optionalText]
  | object fields => simp [JsonDocument.optionalText]

/-- The fields of a name: none, one, or more than a deserializer takes. -/
theorem named_cases (fields : List (String × JsonDocument)) (name : String) :
    (fieldText fields name = some none ∧ ∀ value, (name, value) ∉ fields) ∨
    (∃ value, fieldText fields name = value.optionalText ∧
      (fields.filter (·.1 == name)).length ≤ 1 ∧
      ∀ other, (name, other) ∈ fields ↔ other = value) ∨
    (fieldText fields name = none ∧ 1 < (fields.filter (·.1 == name)).length) := by
  unfold fieldText
  cases named : fields.filter (·.1 == name) with
  | nil =>
      refine Or.inl ⟨rfl, fun value member => ?_⟩
      have listed := mem_named.mpr member
      rw [named] at listed
      cases listed
  | cons field rest =>
      have first : field ∈ fields.filter (·.1 == name) := by
        rw [named]
        exact List.mem_cons_self ..
      have label : field.1 = name := beq_iff_eq.mp (List.mem_filter.mp first).2
      cases rest with
      | nil =>
          refine Or.inr (Or.inl ⟨field.2, rfl, le_refl 1, fun other => ?_⟩)
          rw [← mem_named, named, List.mem_singleton, ← label]
          exact ⟨fun same => congrArg Prod.snd same, fun same => Prod.ext rfl same⟩
      | cons second rest =>
          refine Or.inr (Or.inr ⟨rfl, ?_⟩)
          rw [List.length_cons, List.length_cons]
          omega

theorem fieldText_isSome_iff : (fieldText fields name).isSome = true ↔ PlainField fields name := by
  rcases named_cases fields name with ⟨read, absent⟩ | ⟨value, read, single, held⟩ | ⟨read, several⟩
  · rw [read]
    refine iff_of_true rfl ⟨?_, fun value member => absurd member (absent value)⟩
    by_contra many
    have some : 0 < (fields.filter (·.1 == name)).length := by omega
    obtain ⟨field, listed⟩ := List.exists_mem_of_length_pos some
    have label := beq_iff_eq.mp (List.mem_filter.mp listed).2
    exact absent field.2 (by rw [← label]; exact (List.mem_filter.mp listed).1)
  · rw [read, optionalText_isSome]
    constructor
    · intro kind
      refine ⟨single, fun other member => ?_⟩
      rw [(held other).mp member]
      exact kind
    · exact fun plain => plain.optional value ((held value).mpr rfl)
  · rw [read]
    refine iff_of_false Bool.false_ne_true fun plain => ?_
    exact absurd plain.once (Nat.not_le.mpr several)

/-- The text read is the one the object has under the name. -/
theorem fieldText_eq_some_some (plain : PlainField fields name) (text : String) :
    fieldText fields name = some (some text) ↔ (name, .string text) ∈ fields := by
  rcases named_cases fields name with ⟨read, absent⟩ | ⟨value, read, single, held⟩ | ⟨read, several⟩
  · rw [read]
    refine iff_of_false ?_ (absent _)
    simp only [Option.some.injEq, reduceCtorEq, not_false_eq_true]
  · rw [read, held, optionalText_eq_some_some, eq_comm]
  · exact absurd plain.once (Nat.not_le.mpr several)

end Fields

/-! ## Envelopes -/

/-- An object that carries a protocol tag. -/
def CarriesTag (tag : String) (document : Option JsonDocument) : Prop :=
  ∃ fields, document = some (.object fields) ∧ ("p", .string tag) ∈ fields

/-- A tagged document that is read as its envelope: an object whose other names stand at most
once, with a text or null, and no row of such values in place of an object. -/
structure Regular (tag : String) (names : List String) (document : Option JsonDocument) :
    Prop where
  object : ∀ fields, document = some (.object fields) → ("p", .string tag) ∈ fields →
    ∀ name ∈ names, PlainField fields name
  array : ∀ items, document = some (.array items) → items.length = names.length →
    (∀ item ∈ items, item = .null ∨ ∃ s, item = .string s) → items.head? ≠ some (.string tag)

/-- A deserializer that is derived for a record of optional texts: `p` is the first of its
names. -/
structure Derived {ε : Type} (names : List String) (p : ε → Option String)
    (deserialize : JsonDocument → Option ε) : Prop where
  first : "p" ∈ names
  object : ∀ fields, (deserialize (.object fields)).isSome = true ↔
    ∀ name ∈ names, PlainField fields name
  objectTag : ∀ fields env, deserialize (.object fields) = some env →
    fieldText fields "p" = some (p env)
  array : ∀ items, (deserialize (.array items)).isSome = true ↔
    items.length = names.length ∧ ∀ item ∈ items, item = .null ∨ ∃ s, item = .string s
  arrayTag : ∀ items env, deserialize (.array items) = some env →
    items.head?.bind JsonDocument.optionalText = some (p env)
  scalar : ∀ document, (∀ fields, document ≠ .object fields) → (∀ items, document ≠ .array items) →
    deserialize document = none

/-- The derived deserializer: an object by its names, or a row in their order. -/
def deserializeTexts (names : List String) : JsonDocument → Option (List (Option String))
  | .object fields => names.mapM (fieldText fields)
  | .array items =>
      if items.length = names.length then items.mapM JsonDocument.optionalText else none
  | _ => none

theorem length_of_mapM {α β : Type} {f : α → Option β} {items : List α} {results : List β}
    (read : items.mapM f = some results) : results.length = items.length := by
  induction items generalizing results with
  | nil =>
      rw [← Option.some.inj read]
      rfl
  | cons item rest ih =>
      rw [List.mapM_cons] at read
      obtain ⟨result, -, tail⟩ := Option.bind_eq_some_iff.mp read
      obtain ⟨later, restRead, same⟩ := Option.bind_eq_some_iff.mp tail
      rw [← Option.some.inj same, List.length_cons, List.length_cons, ih restRead]

theorem head_of_mapM {α β : Type} {f : α → Option β} {item : α} {rest : List α}
    {results : List β} (read : (item :: rest).mapM f = some results) :
    results.head? = f item := by
  rw [List.mapM_cons] at read
  obtain ⟨result, first, tail⟩ := Option.bind_eq_some_iff.mp read
  obtain ⟨later, -, same⟩ := Option.bind_eq_some_iff.mp tail
  rw [← Option.some.inj same, first, List.head?_cons]

theorem mapM_isSome_iff {α β : Type} {f : α → Option β} {items : List α} :
    (items.mapM f).isSome = true ↔ ∀ item ∈ items, (f item).isSome = true := by
  induction items with
  | nil => exact iff_of_true rfl fun item member => absurd member List.not_mem_nil
  | cons item rest ih =>
      rw [List.forall_mem_cons, ← ih, List.mapM_cons]
      cases f item with
      | none => simp only [Option.bind_eq_bind, Option.bind_none, Option.isSome_none,
          Bool.false_eq_true, false_and]
      | some result =>
          cases rest.mapM f with
          | none => simp
          | some results => simp

/-- Texts of the right number always make a record. -/
theorem isSome_bind_texts {ε : Type} {count : Nat} {ofTexts : List (Option String) → Option ε}
    (total : ∀ texts : List (Option String), texts.length = count → (ofTexts texts).isSome = true)
    {texts : Option (List (Option String))} (level : ∀ read, texts = some read →
      read.length = count) : texts.isSome = true ↔ (texts.bind ofTexts).isSome = true := by
  cases texts with
  | none => rfl
  | some read => exact iff_of_true rfl (total read (level read rfl))

/-- A record of as many optional texts as there are names is derived. -/
theorem derived_of_texts {ε : Type} {rest : List String} {p : ε → Option String}
    {ofTexts : List (Option String) → Option ε}
    (total : ∀ texts : List (Option String), texts.length = ("p" :: rest).length →
      (ofTexts texts).isSome = true)
    (tag : ∀ texts env, ofTexts texts = some env → texts.head? = some (p env)) :
    Derived ("p" :: rest) p fun document =>
      (deserializeTexts ("p" :: rest) document).bind ofTexts where
  first := List.mem_cons_self ..
  object := by
    intro fields
    rw [← isSome_bind_texts total]
    · simp only [deserializeTexts, mapM_isSome_iff, fieldText_isSome_iff]
    · exact fun texts read => length_of_mapM read
  objectTag := by
    intro fields env read
    obtain ⟨texts, named, made⟩ := Option.bind_eq_some_iff.mp read
    rw [← head_of_mapM named]
    exact tag texts env made
  array := by
    intro items
    rw [← isSome_bind_texts total]
    · by_cases level : items.length = ("p" :: rest).length
      · simp only [deserializeTexts, level, ↓reduceIte, mapM_isSome_iff, optionalText_isSome,
          true_and]
      · simp only [deserializeTexts, level, ↓reduceIte, Option.isSome_none, Bool.false_eq_true,
          false_and]
    · intro texts read
      obtain ⟨level, row⟩ := Option.ite_none_right_eq_some.mp read
      rw [length_of_mapM row, level]
  arrayTag := by
    intro items env read
    obtain ⟨texts, taken, made⟩ := Option.bind_eq_some_iff.mp read
    obtain ⟨level, row⟩ := Option.ite_none_right_eq_some.mp taken
    cases items with
    | nil => cases level
    | cons item others =>
        rw [List.head?_cons, Option.bind_some, ← head_of_mapM row]
        exact tag texts env made
  scalar := by
    intro document noObject noArray
    cases document with
    | object fields => exact absurd rfl (noObject fields)
    | array items => exact absurd rfl (noArray items)
    | null => rfl
    | bool b => rfl
    | number digits => rfl
    | string s => rfl

section Derived

variable {ε : Type} {names : List String} {p : ε → Option String}
  {deserialize : JsonDocument → Option ε} {tag : String}

/-- A document is read as a tagged envelope. -/
def Claims (deserialize : JsonDocument → Option ε) (p : ε → Option String) (tag : String)
    (document : Option JsonDocument) : Prop :=
  ∃ env, document.bind deserialize = some env ∧ p env = some tag

theorem claims_object_iff (derived : Derived names p deserialize)
    (fields : List (String × JsonDocument)) :
    Claims deserialize p tag (some (.object fields)) ↔
      (∀ name ∈ names, PlainField fields name) ∧ ("p", .string tag) ∈ fields := by
  constructor
  · rintro ⟨env, read, tagged⟩
    have plain := (derived.object fields).mp (by
      rw [Option.bind_some] at read
      rw [read]
      rfl)
    have held := derived.objectTag fields env read
    rw [tagged] at held
    exact ⟨plain, (fieldText_eq_some_some (plain "p" derived.first) tag).mp held⟩
  · rintro ⟨plain, tagged⟩
    obtain ⟨env, read⟩ := Option.isSome_iff_exists.mp ((derived.object fields).mpr plain)
    have held := derived.objectTag fields env read
    rw [(fieldText_eq_some_some (plain "p" derived.first) tag).mpr tagged] at held
    exact ⟨env, read, (Option.some.inj held).symm⟩

theorem claims_array_iff (derived : Derived names p deserialize) (items : List JsonDocument) :
    Claims deserialize p tag (some (.array items)) ↔
      (items.length = names.length ∧ ∀ item ∈ items, item = .null ∨ ∃ s, item = .string s) ∧
        items.head? = some (.string tag) := by
  constructor
  · rintro ⟨env, read, tagged⟩
    have shape := (derived.array items).mp (by
      rw [Option.bind_some] at read
      rw [read]
      rfl)
    have held := derived.arrayTag items env read
    rw [tagged] at held
    obtain ⟨item, first, text⟩ := Option.bind_eq_some_iff.mp held
    rw [optionalText_eq_some_some] at text
    exact ⟨shape, text ▸ first⟩
  · rintro ⟨shape, first⟩
    obtain ⟨env, read⟩ := Option.isSome_iff_exists.mp ((derived.array items).mpr shape)
    have held := derived.arrayTag items env read
    rw [first] at held
    exact ⟨env, read, (Option.some.inj held).symm⟩

theorem carries_object_iff (fields : List (String × JsonDocument)) :
    CarriesTag tag (some (.object fields)) ↔ ("p", .string tag) ∈ fields := by
  constructor
  · rintro ⟨other, same, tagged⟩
    cases same
    exact tagged
  · exact fun tagged => ⟨fields, rfl, tagged⟩

theorem not_carries {document : Option JsonDocument}
    (other : ∀ fields, document ≠ some (.object fields)) : ¬ CarriesTag tag document := by
  rintro ⟨fields, same, -⟩
  exact other fields same

theorem not_claims_scalar (derived : Derived names p deserialize) {document : Option JsonDocument}
    (noObject : ∀ fields, document ≠ some (.object fields))
    (noArray : ∀ items, document ≠ some (.array items)) :
    ¬ Claims deserialize p tag document := by
  rintro ⟨env, read, -⟩
  obtain ⟨scalar, parsed, accepted⟩ := Option.bind_eq_some_iff.mp read
  have refused := derived.scalar scalar
    (fun fields same => noObject fields (parsed.trans (congrArg some same)))
    (fun items same => noArray items (parsed.trans (congrArg some same)))
  cases refused.symm.trans accepted

/-- The documents read as tagged envelopes are the objects that carry the tag, exactly where
the document is regular. -/
theorem claims_iff_carries (derived : Derived names p deserialize)
    (document : Option JsonDocument) :
    (Claims deserialize p tag document ↔ CarriesTag tag document) ↔ Regular tag names document := by
  by_cases anObject : ∃ fields, document = some (.object fields)
  · obtain ⟨fields, rfl⟩ := anObject
    rw [claims_object_iff derived, carries_object_iff, and_iff_right_iff_imp]
    constructor
    · intro plain
      constructor
      · intro other same tagged
        cases same
        exact plain tagged
      · intro items same
        cases same
    · exact fun regular tagged => regular.object fields rfl tagged
  · have noObject : ∀ fields, document ≠ some (.object fields) :=
      fun fields same => anObject ⟨fields, same⟩
    by_cases anArray : ∃ items, document = some (.array items)
    · obtain ⟨items, rfl⟩ := anArray
      rw [claims_array_iff derived, iff_false_intro (not_carries noObject), iff_false, not_and]
      constructor
      · intro untagged
        refine ⟨fun fields same => absurd same (noObject fields), fun other same level each => ?_⟩
        cases same
        exact untagged ⟨level, each⟩
      · exact fun regular shape => regular.array items rfl shape.1 shape.2
    · have noArray : ∀ items, document ≠ some (.array items) :=
        fun items same => anArray ⟨items, same⟩
      refine iff_of_true (iff_of_false (not_claims_scalar derived noObject noArray)
        (not_carries noObject)) ?_
      exact ⟨fun fields same => absurd same (noObject fields),
        fun items same => absurd same (noArray items)⟩

/-- The answers of a parser: no inscription exactly without the tag, and a valid one exactly
for a tagged object with the fields it needs. A tagged object is malformed otherwise. -/
structure Trichotomy {ι : Type} (tag : String) (document : Option JsonDocument) (notKrc : Prop)
    (valid : ι → Prop) (needed : List (String × JsonDocument) → ι → Prop) : Prop where
  notKrc : notKrc ↔ ¬ CarriesTag tag document
  valid : ∀ inscription, valid inscription ↔ ∃ fields, document = some (.object fields) ∧
    ("p", .string tag) ∈ fields ∧ needed fields inscription

/-- A parser of derived envelopes answers so exactly for regular documents. -/
theorem trichotomy_iff {ι : Type} {document : Option JsonDocument} {notKrc : Prop}
    {valid : ι → Prop} {needed : List (String × JsonDocument) → ι → Prop}
    (accepts : ε → ι → Prop) (derived : Derived names p deserialize)
    (refused : notKrc ↔ ¬ Claims deserialize p tag document)
    (accepted : ∀ inscription, valid inscription ↔
      ∃ env, document.bind deserialize = some env ∧ accepts env inscription)
    (tagged : ∀ env inscription, accepts env inscription → p env = some tag)
    (fromFields : ∀ fields env, deserialize (.object fields) = some env →
      ("p", .string tag) ∈ fields → ∀ inscription,
        accepts env inscription ↔ needed fields inscription) :
    Trichotomy tag document notKrc valid needed ↔ Regular tag names document := by
  rw [← claims_iff_carries derived]
  constructor
  · intro answers
    have same := refused.symm.trans answers.notKrc
    exact not_iff_not.mp same
  · intro same
    refine ⟨refused.trans (not_congr same), fun inscription => ?_⟩
    rw [accepted]
    constructor
    · rintro ⟨env, read, good⟩
      obtain ⟨fields, rfl, carried⟩ := same.mp ⟨env, read, tagged env inscription good⟩
      exact ⟨fields, rfl, carried, (fromFields fields env read carried inscription).mp good⟩
    · rintro ⟨fields, rfl, carried, has⟩
      obtain ⟨env, read, -⟩ := same.mpr ⟨fields, rfl, carried⟩
      exact ⟨env, read, (fromFields fields env read carried inscription).mpr has⟩

end Derived

end KasGraph
