import KasGraph.Manifest
import KasGraph.MappingHost

set_option autoImplicit false

/-! From a manifest to the descriptor that the node loads: the build command writes it, and the
node reads it back. -/

namespace KasGraph

open Utf16 (encode decode encode_inj decode_eq_some_iff)

open JsValue (text)

/-! ## Writing -/

inductive JsError where
  | typeError
  deriving DecidableEq, Repr

namespace JsValue

/-- `value.name`, which throws for `null`. -/
def read (value : JsValue) (name : String) : Except JsError (Option JsValue) :=
  match value with
  | .null => .error .typeError
  | value => .ok (value.get name)

/-- `value?.name`. -/
def readOptional (value : Option JsValue) (name : String) : Option JsValue :=
  value.bind (·.get name)

/-- `value ?? fallback`. -/
def orElse (value : Option JsValue) (fallback : JsValue) : JsValue :=
  match value with
  | none | some .null => fallback
  | some value => value

/-- What `map` and `filter` go through; only an array has them. -/
def items : JsValue → Except JsError (List JsValue)
  | .array items => .ok items
  | _ => .error .typeError

mutual

/-- The value that the text written by `JSON.stringify` spells. -/
def stringified : JsValue → JsValue
  | .number (.finite value) => .number (.finite value)
  | .number _ => .null
  | .array items => .array (stringifiedItems items)
  | .object members => .object (stringifiedMembers members)
  | .null => .null
  | .bool value => .bool value
  | .string units => .string units

def stringifiedItems : List JsValue → List JsValue
  | [] => []
  | item :: rest => item.stringified :: stringifiedItems rest

def stringifiedMembers : List (List UInt16 × JsValue) → List (List UInt16 × JsValue)
  | [] => []
  | (key, value) :: rest => (key, value.stringified) :: stringifiedMembers rest

end

end JsValue

def buildPatterns (source : Option JsValue) : Except JsError (List JsValue) := do
  let ids ← (JsValue.orElse (JsValue.readOptional source "ids") (.array [])).items
  let patterns ← ids.mapM (·.read "pattern")
  return patterns.filterMap fun pattern => (pattern.bind JsValue.asString?).map JsValue.string

/-- A binding of the manifest, kept if both its names are strings. -/
def buildHandler (handler : JsValue) : Except JsError (Option JsValue) := do
  let event ← handler.read "event"
  let function ← handler.read "handler"
  match event, function with
  | some (.string event), some (.string function) =>
      return some (.ofMembers [("event", .string event), ("handler", .string function)])
  | _, _ => return none

def buildHandlers (mapping : Option JsValue) : Except JsError (List JsValue) := do
  let handlers ← (JsValue.orElse (JsValue.readOptional mapping "handlers") (.array [])).items
  let handlers ← handlers.mapM buildHandler
  return handlers.filterMap id

def buildDataSource (ds : JsValue) : Except JsError JsValue := do
  let name ← ds.read "name"
  let kind ← ds.read "kind"
  let source ← ds.read "source"
  let mapping ← ds.read "mapping"
  let patterns ← buildPatterns source
  let handlers ← buildHandlers mapping
  return .ofMembers [
    ("name", JsValue.orElse name (text "")),
    ("kind", JsValue.orElse kind (text "")),
    ("patterns", .array patterns),
    ("collection", JsValue.orElse (JsValue.readOptional source "collection") .null),
    ("addresses", JsValue.orElse (JsValue.readOptional source "addresses") (.array [])),
    ("handlers", .array handlers)]

def buildDescriptor (manifest : JsValue) (wasmName : String) : Except JsError JsValue := do
  let name ← manifest.read "name"
  let dataSources ← manifest.read "dataSources"
  let dataSources ← (JsValue.orElse dataSources (.array [])).items
  let dataSources ← dataSources.mapM buildDataSource
  return .ofMembers [
    ("name", JsValue.orElse name (text "")),
    ("wasm", text wasmName),
    ("dataSources", .array dataSources)]

/-! ## Reading -/

section Deserialize

variable {α : Type}

def readString : JsValue → Option String
  | .string units => decode units
  | _ => none

def readVec (element : JsValue → Option α) : JsValue → Option (List α)
  | .array items => items.mapM element
  | _ => none

def readOption (element : JsValue → Option α) : JsValue → Option (Option α)
  | .null => some none
  | value => (element value).map some

/-- A field with `#[serde(default)]`. -/
def readDefault (default : α) (element : JsValue → Option α) (value : Option JsValue) : Option α :=
  match value with
  | none => some default
  | some value => element value

end Deserialize

def DescriptorHandler.ofJson (value : JsValue) : Option DescriptorHandler := do
  let event ← (value.get "event").bind readString
  let handler ← (value.get "handler").bind readString
  return { event, handler }

def DescriptorDataSource.ofJson (value : JsValue) : Option DescriptorDataSource := do
  let name ← (value.get "name").bind readString
  let kind ← (value.get "kind").bind readString
  let patterns ← readDefault [] (readVec readString) (value.get "patterns")
  let collection ← readDefault none (readOption readString) (value.get "collection")
  let addresses ← readDefault [] (readVec readString) (value.get "addresses")
  let handlers ← readDefault [] (readVec DescriptorHandler.ofJson) (value.get "handlers")
  return { name, kind, patterns, collection, addresses, handlers }

/-- The descriptor spelled by a text of JSON, or nothing where a field has the wrong shape. -/
def BuildDescriptor.fromJson (value : JsValue) : Option BuildDescriptor := do
  let name ← (value.get "name").bind readString
  let wasm ← (value.get "wasm").bind readString
  let dataSources ← readDefault [] (readVec DescriptorDataSource.ofJson) (value.get "dataSources")
  return { name, wasm, dataSources }

/-! ## Lists read element by element -/

theorem bind_eq_ok_iff {α β : Type} {first : Except JsError α} {next : α → Except JsError β}
    {result : β} :
    first.bind next = .ok result ↔ ∃ value, first = .ok value ∧ next value = .ok result := by
  cases first with
  | error cause => simp [Except.bind]
  | ok value => simp [Except.bind]

section Elements

variable {α β : Type}

theorem mapM_eq_some_iff {read : α → Option β} {items : List α} {results : List β} :
    items.mapM read = some results ↔
      List.Forall₂ (fun item result => read item = some result) items results := by
  induction items generalizing results with
  | nil =>
      cases results with
      | nil => simp
      | cons result rest => simp
  | cons item items ih =>
      cases results with
      | nil => simp [Option.bind_eq_some_iff]
      | cons result rest => simp [Option.bind_eq_some_iff, ih]

theorem forall₂_congr_of_mem {first second : α → β → Prop} {items : List α} {results : List β}
    (same : ∀ item ∈ items, ∀ result, first item result ↔ second item result) :
    List.Forall₂ first items results ↔ List.Forall₂ second items results := by
  induction items generalizing results with
  | nil => cases results <;> simp
  | cons item items ih =>
      cases results with
      | nil => simp
      | cons result rest =>
          rw [List.forall₂_cons, List.forall₂_cons, same item List.mem_cons_self,
            ih fun other present => same other (List.mem_cons_of_mem item present)]

/-- Two lists are related through a third exactly when their elements are through others. -/
theorem exists_forall₂_iff {γ : Type} {first : α → γ → Prop} {second : γ → β → Prop}
    {items : List α} {results : List β} :
    (∃ between, List.Forall₂ first items between ∧ List.Forall₂ second between results) ↔
      List.Forall₂ (fun item result => ∃ middle, first item middle ∧ second middle result) items
        results := by
  induction items generalizing results with
  | nil => cases results <;> simp
  | cons item items ih =>
      cases results with
      | nil => simp
      | cons result rest =>
          rw [List.forall₂_cons, ← ih]
          constructor
          · intro through
            obtain ⟨between, before, after⟩ := through
            cases before with
            | cons head tail =>
                cases after with
                | cons last others => exact ⟨⟨_, head, last⟩, _, tail, others⟩
          · intro both
            obtain ⟨⟨middle, head, last⟩, between, tail, others⟩ := both
            exact ⟨middle :: between, .cons head tail, .cons last others⟩

theorem mapM_eq_ok_iff {build : α → Except JsError β} {items : List α} {results : List β} :
    items.mapM build = .ok results ↔
      List.Forall₂ (fun item result => build item = .ok result) items results := by
  induction items generalizing results with
  | nil =>
      cases results with
      | nil => simp [pure, Except.pure]
      | cons result rest => simp [pure, Except.pure]
  | cons item items ih =>
      rw [List.mapM_cons]
      cases built : build item with
      | error cause =>
          cases results with
          | nil => simp [bind, Except.bind]
          | cons result rest => simp [bind, Except.bind, built]
      | ok first =>
          cases others : items.mapM build with
          | error cause =>
              cases results with
              | nil => simp [bind, Except.bind]
              | cons result rest =>
                  have apart := @ih rest
                  rw [others] at apart
                  simp [bind, Except.bind, ← apart]
          | ok tail =>
              cases results with
              | nil => simp [bind, Except.bind, pure, Except.pure]
              | cons result rest =>
                  have same := @ih rest
                  rw [others] at same
                  simp [bind, Except.bind, pure, Except.pure, built, ← same]

end Elements

namespace JsValue

theorem stringifiedItems_eq (values : List JsValue) :
    stringifiedItems values = values.map stringified := by
  induction values with
  | nil => rfl
  | cons value rest ih => rw [stringifiedItems, ih, List.map_cons]

theorem stringified_array (values : List JsValue) :
    (array values).stringified = .array (values.map stringified) := by
  rw [stringified, stringifiedItems_eq]

theorem stringified_ofMembers (members : List (String × JsValue)) :
    (ofMembers members).stringified =
      ofMembers (members.map fun member => (member.1, member.2.stringified)) := by
  unfold ofMembers
  rw [stringified]
  congr 1
  induction members with
  | nil => rfl
  | cons member rest ih =>
      simp only [List.map_cons]
      rw [stringifiedMembers, ih]

theorem read_of_get {value found : JsValue} {name : String} (present : value.get name = some found)
    (other : String) : value.read other = .ok (value.get other) := by
  cases value with
  | null => nomatch present
  | _ => rfl

end JsValue

theorem readString_eq_some_iff {value : JsValue} {s : String} :
    readString value = some s ↔ value = text s := by
  cases value with
  | string units => simp [readString, decode_eq_some_iff, text]
  | _ => simp [readString, text]

theorem readString_stringified (value : JsValue) : readString value.stringified = readString value := by
  cases value with
  | number value => cases value <;> rfl
  | string units => rfl
  | null => rfl
  | bool value => rfl
  | array items => rfl
  | object members => rfl

theorem forall₂_text_iff {items : List JsValue} {texts : List String} :
    List.Forall₂ (fun item s => readString item = some s) items texts ↔ items = texts.map text := by
  simp only [readString_eq_some_iff]
  induction items generalizing texts with
  | nil => cases texts <;> simp
  | cons item items ih => cases texts <;> simp [ih]

/-- A list of strings is read from the array of just these texts. -/
theorem readVec_readString_iff {value : JsValue} {texts : List String} :
    readVec readString value.stringified = some texts ↔ value = .array (texts.map text) := by
  cases value with
  | array items =>
      rw [JsValue.stringified_array]
      simp only [readVec, List.mapM_map, JsValue.array.injEq]
      rw [← forall₂_text_iff, ← mapM_eq_some_iff]
      exact Iff.of_eq (congrArg (fun read => items.mapM read = some texts)
        (funext readString_stringified))
  | number value => cases value <;> simp [JsValue.stringified, readVec]
  | _ => simp [JsValue.stringified, readVec]

/-! ## What a descriptor says of a manifest -/

/-- A list that may be left out or null. -/
def ListOrNothing (value : Option JsValue) (items : List JsValue) : Prop :=
  ((value = none ∨ value = some .null) ∧ items = []) ∨ value = some (.array items)

/-- A string that may be left out, or written `null`. -/
def TextOrNothing (value : Option JsValue) (written : Option String) : Prop :=
  match written with
  | some s => value = some (text s)
  | none => value = none ∨ value = some .null ∨ value = some (.number .nan) ∨
      ∃ negative, value = some (.number (.infinite negative))

namespace JsValue

/-- A member of the `source` of a data source. -/
def selector (ds : JsValue) (name : String) : Option JsValue := readOptional (ds.get "source") name

def bindings (ds : JsValue) : Option JsValue := readOptional (ds.get "mapping") "handlers"

/-- The pattern that one of the `ids` asks for. -/
def pattern? (id : JsValue) : Option (List UInt16) := (id.get "pattern").bind asString?

end JsValue

structure DescribesHandler (handler : JsValue) (entry : DescriptorHandler) : Prop where
  event : handler.get "event" = some (text entry.event)
  handler : handler.get "handler" = some (text entry.handler)

structure DescribesSource (ds : JsValue) (entry : DescriptorDataSource) : Prop where
  name : ds.get "name" = some (text entry.name)
  kind : ds.get "kind" = some (text entry.kind)
  patterns : ∃ ids, ListOrNothing (ds.selector "ids") ids ∧ JsValue.null ∉ ids ∧
    ids.filterMap JsValue.pattern? = entry.patterns.map encode
  collection : TextOrNothing (ds.selector "collection") entry.collection
  addresses : ListOrNothing (ds.selector "addresses") (entry.addresses.map text)
  handlers : ∃ handlers, ds.bindings = some (.array handlers) ∧
    List.Forall₂ DescribesHandler handlers entry.handlers

structure Describes (manifest : JsValue) (descriptor : BuildDescriptor) : Prop where
  name : manifest.get "name" = some (text descriptor.name)
  dataSources : ∃ items, manifest.get "dataSources" = some (.array items) ∧
    List.Forall₂ DescribesSource items descriptor.dataSources

/-! ## One data source through both ends -/

theorem items_orElse_iff {value : Option JsValue} {items : List JsValue} :
    (JsValue.orElse value (.array [])).items = .ok items ↔ ListOrNothing value items := by
  unfold ListOrNothing
  cases value with
  | none =>
      simp only [JsValue.orElse, JsValue.items, Except.ok.injEq]
      simp [eq_comm]
  | some value =>
      cases value with
      | null =>
          simp only [JsValue.orElse, JsValue.items, Except.ok.injEq]
          simp [eq_comm]
      | array items => simp [JsValue.orElse, JsValue.items]
      | _ => simp [JsValue.orElse, JsValue.items]

theorem mapM_read_iff {ids : List JsValue} {patterns : List (Option JsValue)} :
    ids.mapM (·.read "pattern") = .ok patterns ↔
      JsValue.null ∉ ids ∧ patterns = ids.map (·.get "pattern") := by
  induction ids generalizing patterns with
  | nil => simp [pure, Except.pure, eq_comm]
  | cons id ids ih =>
      rw [mapM_eq_ok_iff, List.forall₂_cons_left_iff]
      simp only [← mapM_eq_ok_iff, ih]
      cases id with
      | null => simp [JsValue.read]
      | _ => simp [JsValue.read, eq_comm]

theorem buildPatterns_iff {source : Option JsValue} {patterns : List JsValue} :
    buildPatterns source = .ok patterns ↔
      ∃ ids, ListOrNothing (JsValue.readOptional source "ids") ids ∧ JsValue.null ∉ ids ∧
        patterns = (ids.filterMap JsValue.pattern?).map JsValue.string := by
  have kept : ∀ ids : List JsValue,
      ((ids.map (·.get "pattern")).filterMap fun pattern =>
        (pattern.bind JsValue.asString?).map JsValue.string) =
      (ids.filterMap JsValue.pattern?).map JsValue.string := by
    intro ids
    rw [List.filterMap_map, List.map_filterMap]
    rfl
  unfold buildPatterns
  refine bind_eq_ok_iff.trans ?_
  constructor
  · intro built
    obtain ⟨ids, found, built⟩ := built
    obtain ⟨patterns, read, built⟩ := bind_eq_ok_iff.mp built
    obtain ⟨clean, rfl⟩ := mapM_read_iff.mp read
    refine ⟨ids, items_orElse_iff.mp found, clean, ?_⟩
    rw [← kept]
    exact (Except.ok.inj built).symm
  · intro described
    obtain ⟨ids, found, clean, rfl⟩ := described
    refine ⟨ids, items_orElse_iff.mpr found, bind_eq_ok_iff.mpr ⟨_, mapM_read_iff.mpr ⟨clean, rfl⟩, ?_⟩⟩
    rw [← kept]
    rfl

/-- The binding that the descriptor gets for a valid one. -/
def handlerDoc (handler : JsValue) : JsValue :=
  .ofMembers [("event", JsValue.orElse (handler.get "event") .null),
    ("handler", JsValue.orElse (handler.get "handler") .null)]

theorem buildHandler_of_valid {handler : JsValue} (valid : ValidHandler handler) :
    buildHandler handler = .ok (some (handlerDoc handler)) := by
  obtain ⟨event, hasEvent⟩ := valid.event
  obtain ⟨function, hasFunction⟩ := valid.handler
  unfold buildHandler handlerDoc
  rw [JsValue.read_of_get hasEvent, JsValue.read_of_get hasEvent, hasEvent, hasFunction]
  rfl

theorem buildHandlers_of_valid {mapping : Option JsValue} {handlers : List JsValue}
    (found : JsValue.readOptional mapping "handlers" = some (.array handlers))
    (valid : ∀ handler ∈ handlers, ValidHandler handler) :
    buildHandlers mapping = .ok (handlers.map handlerDoc) := by
  have each : handlers.mapM buildHandler = .ok (handlers.map (some ∘ handlerDoc)) := by
    rw [mapM_eq_ok_iff, List.forall₂_map_right_iff, List.forall₂_same]
    exact fun handler present => buildHandler_of_valid (valid handler present)
  unfold buildHandlers
  rw [found]
  show (handlers.mapM buildHandler).bind _ = _
  rw [each]
  show Except.ok ((handlers.map (some ∘ handlerDoc)).filterMap id) = _
  rw [List.filterMap_map]
  simp

theorem DescriptorHandler.ofJson_eq_some_iff {value : JsValue} {entry : DescriptorHandler} :
    DescriptorHandler.ofJson value = some entry ↔
      (value.get "event").bind readString = some entry.event ∧
        (value.get "handler").bind readString = some entry.handler := by
  obtain ⟨event, handler⟩ := entry
  unfold DescriptorHandler.ofJson
  cases (value.get "event").bind readString with
  | none => simp
  | some found =>
      cases (value.get "handler").bind readString with
      | none => simp
      | some other => simp

theorem DescriptorDataSource.ofJson_eq_some_iff {value : JsValue} {entry : DescriptorDataSource} :
    DescriptorDataSource.ofJson value = some entry ↔
      (value.get "name").bind readString = some entry.name ∧
      (value.get "kind").bind readString = some entry.kind ∧
      readDefault [] (readVec readString) (value.get "patterns") = some entry.patterns ∧
      readDefault none (readOption readString) (value.get "collection") = some entry.collection ∧
      readDefault [] (readVec readString) (value.get "addresses") = some entry.addresses ∧
      readDefault [] (readVec DescriptorHandler.ofJson) (value.get "handlers") =
        some entry.handlers := by
  obtain ⟨name, kind, patterns, collection, addresses, handlers⟩ := entry
  unfold DescriptorDataSource.ofJson
  simp only [Option.bind_eq_bind, Option.bind_eq_some_iff, Option.pure_def, Option.some.injEq,
    DescriptorDataSource.mk.injEq]
  constructor
  · rintro ⟨_, found, _, sort, _, pats, _, coll, _, addrs, _, hands, rfl, rfl, rfl, rfl, rfl, rfl⟩
    exact ⟨found, sort, pats, coll, addrs, hands⟩
  · rintro ⟨found, sort, pats, coll, addrs, hands⟩
    exact ⟨_, found, _, sort, _, pats, _, coll, _, addrs, _, hands, rfl, rfl, rfl, rfl, rfl, rfl⟩

theorem BuildDescriptor.fromJson_eq_some_iff {value : JsValue} {descriptor : BuildDescriptor} :
    BuildDescriptor.fromJson value = some descriptor ↔
      (value.get "name").bind readString = some descriptor.name ∧
      (value.get "wasm").bind readString = some descriptor.wasm ∧
      readDefault [] (readVec DescriptorDataSource.ofJson) (value.get "dataSources") =
        some descriptor.dataSources := by
  obtain ⟨name, wasm, dataSources⟩ := descriptor
  unfold BuildDescriptor.fromJson
  simp only [Option.bind_eq_bind, Option.bind_eq_some_iff, Option.pure_def, Option.some.injEq,
    BuildDescriptor.mk.injEq]
  constructor
  · rintro ⟨_, found, _, module, _, sources, rfl, rfl, rfl⟩
    exact ⟨found, module, sources⟩
  · rintro ⟨found, module, sources⟩
    exact ⟨_, found, _, module, _, sources, rfl, rfl, rfl⟩

/-- A field that holds a string of the manifest reads as that string's text. -/
theorem readString_field_iff {value : Option JsValue} {units : List UInt16} {s : String}
    (found : value = some (.string units)) (fallback : JsValue) :
    readString (JsValue.orElse value fallback).stringified = some s ↔ value = some (text s) := by
  rw [found, readString_stringified, readString_eq_some_iff]
  simp [JsValue.orElse]

theorem ofJson_handlerDoc_iff {handler : JsValue} (valid : ValidHandler handler)
    {entry : DescriptorHandler} :
    DescriptorHandler.ofJson (handlerDoc handler).stringified = some entry ↔
      DescribesHandler handler entry := by
  obtain ⟨event, hasEvent⟩ := valid.event
  obtain ⟨function, hasFunction⟩ := valid.handler
  rw [DescriptorHandler.ofJson_eq_some_iff]
  unfold handlerDoc
  rw [JsValue.stringified_ofMembers]
  simp only [List.map_cons, List.map_nil, JsValue.get_ofMembers_cons, if_true, Option.bind_some,
    show ("event" = "handler") = False by simp, if_false]
  rw [readString_field_iff hasEvent, readString_field_iff hasFunction]
  exact ⟨fun both => ⟨both.1, both.2⟩, fun described => ⟨described.event, described.handler⟩⟩

/-- The object that the descriptor gets for a valid data source. -/
def dataSourceDoc (ds : JsValue) (patterns handlers : List JsValue) : JsValue :=
  .ofMembers [
    ("name", JsValue.orElse (ds.get "name") (text "")),
    ("kind", JsValue.orElse (ds.get "kind") (text "")),
    ("patterns", .array patterns),
    ("collection", JsValue.orElse (ds.selector "collection") .null),
    ("addresses", JsValue.orElse (ds.selector "addresses") (.array [])),
    ("handlers", .array handlers)]

theorem buildDataSource_of_valid {ds : JsValue} (valid : ValidDataSource ds)
    {handlers : List JsValue} (found : ds.bindings = some (.array handlers))
    (each : ∀ handler ∈ handlers, ValidHandler handler) {doc : JsValue} :
    buildDataSource ds = .ok doc ↔
      ∃ patterns, buildPatterns (ds.get "source") = .ok patterns ∧
        doc = dataSourceDoc ds patterns (handlers.map handlerDoc) := by
  obtain ⟨units, named⟩ := valid.name
  unfold buildDataSource
  rw [JsValue.read_of_get named, JsValue.read_of_get named, JsValue.read_of_get named,
    JsValue.read_of_get named]
  show (buildPatterns (ds.get "source")).bind _ = _ ↔ _
  rw [bind_eq_ok_iff]
  refine exists_congr fun patterns => and_congr_right fun _ => ?_
  have bound := buildHandlers_of_valid found each
  show (buildHandlers (ds.get "mapping")).bind _ = _ ↔ _
  rw [bound]
  show Except.ok (dataSourceDoc ds patterns (handlers.map handlerDoc)) = .ok doc ↔ _
  rw [Except.ok.injEq, eq_comm]

theorem readOption_eq_some_iff {value : JsValue} {written : Option String} :
    readOption readString value = some written ↔
      (value = .null ∧ written = none) ∨ ∃ s, value = text s ∧ written = some s := by
  cases value with
  | null => simp [readOption, text, eq_comm]
  | string units =>
      have spelled : ∀ s, JsValue.string units = text s ↔ decode units = some s := by
        simp [text, decode_eq_some_iff]
      simp only [readOption, readString, spelled, Option.map_eq_some_iff]
      simp [eq_comm]
  | _ => simp [readOption, readString, text]

theorem stringified_eq_text_iff {value : JsValue} {s : String} :
    value.stringified = text s ↔ value = text s := by
  rw [← readString_eq_some_iff, readString_stringified, readString_eq_some_iff]

/-- A number that is not finite is written `null`, and so taken for nothing. -/
theorem stringified_eq_null_iff {value : JsValue} :
    value.stringified = .null ↔ value = .null ∨ value = .number .nan ∨
      ∃ negative, value = .number (.infinite negative) := by
  cases value with
  | number value => cases value <;> simp [JsValue.stringified]
  | _ => simp [JsValue.stringified]

theorem collection_iff {value : Option JsValue} {written : Option String} :
    readOption readString (JsValue.orElse value .null).stringified = some written ↔
      TextOrNothing value written := by
  rw [readOption_eq_some_iff, stringified_eq_null_iff]
  simp only [stringified_eq_text_iff]
  unfold TextOrNothing
  cases value with
  | none => cases written <;> simp [JsValue.orElse, text]
  | some value =>
      cases value with
      | null => cases written <;> simp [JsValue.orElse, text]
      | number value => cases written <;> simp [JsValue.orElse, text]
      | string units => cases written <;> simp [JsValue.orElse, text]
      | _ => cases written <;> simp [JsValue.orElse, text]

theorem addresses_iff {value : Option JsValue} {texts : List String} :
    readVec readString (JsValue.orElse value (.array [])).stringified = some texts ↔
      ListOrNothing value (texts.map text) := by
  rw [readVec_readString_iff, ← items_orElse_iff]
  cases JsValue.orElse value (.array []) with
  | array items => simp [JsValue.items]
  | _ => simp [JsValue.items]

theorem patterns_iff {units : List (List UInt16)} {texts : List String} :
    readVec readString (JsValue.array (units.map JsValue.string)).stringified = some texts ↔
      units = texts.map encode := by
  have spelled : texts.map text = (texts.map encode).map JsValue.string := by
    rw [List.map_map]
    rfl
  rw [readVec_readString_iff, JsValue.array.injEq, spelled]
  exact (List.map_injective_iff.mpr fun _ _ same => JsValue.string.inj same).eq_iff

theorem handlers_iff {handlers : List JsValue} (each : ∀ handler ∈ handlers, ValidHandler handler)
    {entries : List DescriptorHandler} :
    readVec DescriptorHandler.ofJson (JsValue.array (handlers.map handlerDoc)).stringified =
        some entries ↔ List.Forall₂ DescribesHandler handlers entries := by
  rw [JsValue.stringified_array]
  simp only [readVec]
  rw [mapM_eq_some_iff, List.map_map, List.forall₂_map_left_iff]
  exact forall₂_congr_of_mem fun handler present entry => ofJson_handlerDoc_iff (each handler present)

/-- A valid data source goes through to just the entries that describe it. -/
theorem dataSource_iff {ds : JsValue} (valid : ValidDataSource ds) {entry : DescriptorDataSource} :
    (∃ doc, buildDataSource ds = .ok doc ∧
      DescriptorDataSource.ofJson doc.stringified = some entry) ↔ DescribesSource ds entry := by
  obtain ⟨members, handlers, mapping, found, each⟩ := valid.mapping
  obtain ⟨units, named⟩ := valid.name
  obtain ⟨kind, -, kinded⟩ := valid.kind
  have bound : ds.bindings = some (.array handlers) := by
    unfold JsValue.bindings JsValue.readOptional
    rw [mapping]
    exact found
  have fields : ∀ patterns,
      DescriptorDataSource.ofJson (dataSourceDoc ds patterns (handlers.map handlerDoc)).stringified =
          some entry ↔
        ds.get "name" = some (text entry.name) ∧ ds.get "kind" = some (text entry.kind) ∧
        readVec readString (JsValue.array patterns).stringified = some entry.patterns ∧
        TextOrNothing (ds.selector "collection") entry.collection ∧
        ListOrNothing (ds.selector "addresses") (entry.addresses.map text) ∧
        List.Forall₂ DescribesHandler handlers entry.handlers := by
    intro patterns
    rw [DescriptorDataSource.ofJson_eq_some_iff]
    unfold dataSourceDoc
    rw [JsValue.stringified_ofMembers]
    simp only [List.map_cons, List.map_nil, JsValue.get_ofMembers_cons]
    simp only [String.reduceEq, if_true, if_false, Option.bind_some, readDefault]
    rw [readString_field_iff named, readString_field_iff kinded, collection_iff, addresses_iff,
      handlers_iff each]
  constructor
  · intro through
    obtain ⟨doc, built, read⟩ := through
    obtain ⟨patterns, selected, rfl⟩ := (buildDataSource_of_valid valid bound each).mp built
    obtain ⟨ids, listed, clean, rfl⟩ := buildPatterns_iff.mp selected
    obtain ⟨name, kind, patterns, collection, addresses, handled⟩ := (fields _).mp read
    exact ⟨name, kind, ⟨ids, listed, clean, patterns_iff.mp patterns⟩, collection, addresses,
      ⟨handlers, bound, handled⟩⟩
  · intro described
    obtain ⟨ids, listed, clean, patterns⟩ := described.patterns
    obtain ⟨others, same, handled⟩ := described.handlers
    rw [bound] at same
    cases same
    refine ⟨_, (buildDataSource_of_valid valid bound each).mpr
      ⟨_, buildPatterns_iff.mpr ⟨ids, listed, clean, rfl⟩, rfl⟩, (fields _).mpr ?_⟩
    exact ⟨described.name, described.kind, patterns_iff.mpr patterns, described.collection,
      described.addresses, handled⟩

/-! ## The whole manifest -/

/-- A valid manifest goes through to just the descriptors that describe it. -/
theorem manifest_iff {manifest : JsValue} (valid : ValidManifest manifest) (wasmName : String)
    {descriptor : BuildDescriptor} :
    (∃ doc, buildDescriptor manifest wasmName = .ok doc ∧
      BuildDescriptor.fromJson doc.stringified = some descriptor) ↔
      Describes manifest descriptor ∧ descriptor.wasm = wasmName := by
  obtain ⟨units, named⟩ := valid.name
  obtain ⟨items, found, each⟩ := valid.dataSources
  have built : ∀ doc, buildDescriptor manifest wasmName = .ok doc ↔
      ∃ docs, List.Forall₂ (fun ds doc => buildDataSource ds = .ok doc) items docs ∧
        doc = .ofMembers [("name", JsValue.orElse (manifest.get "name") (text "")),
          ("wasm", text wasmName), ("dataSources", .array docs)] := by
    intro doc
    unfold buildDescriptor
    rw [JsValue.read_of_get named, JsValue.read_of_get named, found]
    show (items.mapM buildDataSource).bind _ = _ ↔ _
    rw [bind_eq_ok_iff]
    refine exists_congr fun docs => and_congr mapM_eq_ok_iff ?_
    show Except.ok _ = Except.ok doc ↔ _
    rw [Except.ok.injEq, eq_comm]
  have fields : ∀ docs,
      BuildDescriptor.fromJson (JsValue.ofMembers [
          ("name", JsValue.orElse (manifest.get "name") (text "")),
          ("wasm", text wasmName), ("dataSources", .array docs)]).stringified = some descriptor ↔
        manifest.get "name" = some (text descriptor.name) ∧ descriptor.wasm = wasmName ∧
        List.Forall₂ (fun doc entry => DescriptorDataSource.ofJson doc.stringified = some entry) docs
          descriptor.dataSources := by
    intro docs
    rw [BuildDescriptor.fromJson_eq_some_iff, JsValue.stringified_ofMembers]
    simp only [List.map_cons, List.map_nil, JsValue.get_ofMembers_cons]
    simp only [String.reduceEq, if_true, if_false, Option.bind_some, readDefault]
    rw [readString_field_iff named, readString_stringified, JsValue.stringified_array]
    simp only [readVec]
    rw [mapM_eq_some_iff, List.forall₂_map_left_iff]
    simp [text, readString, eq_comm]
  have through : List.Forall₂ (fun ds entry => ∃ doc, buildDataSource ds = .ok doc ∧
        DescriptorDataSource.ofJson doc.stringified = some entry) items descriptor.dataSources ↔
      List.Forall₂ DescribesSource items descriptor.dataSources :=
    forall₂_congr_of_mem fun ds present _ => dataSource_iff (each ds present)
  rw [← exists_forall₂_iff] at through
  constructor
  · intro passed
    obtain ⟨doc, wrote, read⟩ := passed
    obtain ⟨docs, each, rfl⟩ := (built doc).mp wrote
    obtain ⟨name, wasm, entries⟩ := (fields docs).mp read
    exact ⟨⟨name, items, found, through.mp ⟨docs, each, entries⟩⟩, wasm⟩
  · intro both
    obtain ⟨⟨name, others, same, described⟩, wasm⟩ := both
    rw [found] at same
    cases same
    obtain ⟨docs, wrote, entries⟩ := through.mpr described
    exact ⟨_, (built _).mpr ⟨docs, wrote, rfl⟩, (fields docs).mpr ⟨name, wasm, entries⟩⟩

/-! ## Which manifests go through -/

/-- The selectors of a data source have the shapes that the builder's own types give them, and
its strings are texts. -/
structure SelectorsFit (ds : JsValue) : Prop where
  name : ∃ s, ds.get "name" = some (text s)
  ids : ∃ ids, ListOrNothing (ds.selector "ids") ids ∧ JsValue.null ∉ ids ∧
    ∀ id ∈ ids, ∀ units, id.pattern? = some units → ∃ s, units = encode s
  collection : ∃ written, TextOrNothing (ds.selector "collection") written
  addresses : ∃ addresses, ListOrNothing (ds.selector "addresses") addresses ∧
    ∀ address ∈ addresses, ∃ s, address = text s
  handlers : ∀ handlers, ds.bindings = some (.array handlers) → ∀ handler ∈ handlers,
    (∃ s, handler.get "event" = some (text s)) ∧ ∃ s, handler.get "handler" = some (text s)

structure ManifestFits (manifest : JsValue) : Prop where
  name : ∃ s, manifest.get "name" = some (text s)
  dataSources : ∀ items, manifest.get "dataSources" = some (.array items) →
    ∀ ds ∈ items, SelectorsFit ds

theorem exists_map_eq_iff {α β : Type} {f : α → β} {items : List β} :
    (∃ sources : List α, items = sources.map f) ↔ ∀ item ∈ items, ∃ source, item = f source := by
  induction items with
  | nil => simp
  | cons item items ih =>
      rw [List.forall_mem_cons, ← ih]
      constructor
      · intro mapped
        obtain ⟨sources, same⟩ := mapped
        cases sources with
        | nil => nomatch same
        | cons source rest =>
            obtain ⟨rfl, rfl⟩ := List.cons.inj same
            exact ⟨⟨source, rfl⟩, rest, rfl⟩
      · intro both
        obtain ⟨⟨source, rfl⟩, rest, rfl⟩ := both
        exact ⟨source :: rest, rfl⟩

theorem exists_forall₂_right_iff {α β : Type} {relation : α → β → Prop} {items : List α} :
    (∃ results, List.Forall₂ relation items results) ↔ ∀ item ∈ items, ∃ result, relation item result := by
  induction items with
  | nil => simp
  | cons item items ih =>
      rw [List.forall_mem_cons, ← ih]
      constructor
      · intro related
        obtain ⟨results, related⟩ := related
        cases related with
        | cons head tail => exact ⟨⟨_, head⟩, _, tail⟩
      · intro both
        obtain ⟨⟨result, head⟩, results, tail⟩ := both
        exact ⟨result :: results, .cons head tail⟩

theorem describable_iff {ds : JsValue} (valid : ValidDataSource ds) :
    (∃ entry, DescribesSource ds entry) ↔ SelectorsFit ds := by
  obtain ⟨members, handlers, mapping, found, each⟩ := valid.mapping
  obtain ⟨kind, -, kinded⟩ := valid.kind
  have bound : ds.bindings = some (.array handlers) := by
    unfold JsValue.bindings JsValue.readOptional
    rw [mapping]
    exact found
  constructor
  · intro describable
    obtain ⟨entry, described⟩ := describable
    obtain ⟨ids, listed, clean, patterns⟩ := described.patterns
    obtain ⟨others, same, handled⟩ := described.handlers
    exact {
      name := ⟨_, described.name⟩
      ids := by
        refine ⟨ids, listed, clean, fun id present units selected => ?_⟩
        have kept : units ∈ ids.filterMap JsValue.pattern? :=
          List.mem_filterMap.mpr ⟨id, present, selected⟩
        rw [patterns] at kept
        obtain ⟨s, -, rfl⟩ := List.mem_map.mp kept
        exact ⟨s, rfl⟩
      collection := ⟨_, described.collection⟩
      addresses := by
        refine ⟨_, described.addresses, fun address present => ?_⟩
        obtain ⟨s, -, rfl⟩ := List.mem_map.mp present
        exact ⟨s, rfl⟩
      handlers := by
        intro listed has handler present
        rw [same] at has
        cases has
        obtain ⟨entry, described⟩ := exists_forall₂_right_iff.mp ⟨_, handled⟩ handler present
        exact ⟨⟨_, described.event⟩, ⟨_, described.handler⟩⟩ }
  · intro fit
    obtain ⟨name, named⟩ := fit.name
    obtain ⟨ids, listed, clean, texts⟩ := fit.ids
    obtain ⟨written, collection⟩ := fit.collection
    obtain ⟨addresses, placed, spelled⟩ := fit.addresses
    obtain ⟨lines, rfl⟩ := exists_map_eq_iff.mpr spelled
    have selected : ∀ units ∈ ids.filterMap JsValue.pattern?, ∃ s, units = encode s := by
      intro units present
      obtain ⟨id, within, found⟩ := List.mem_filterMap.mp present
      exact texts id within units found
    obtain ⟨patterns, same⟩ := exists_map_eq_iff.mpr selected
    have described : ∀ handler ∈ handlers, ∃ entry, DescribesHandler handler entry := by
      intro handler present
      obtain ⟨⟨event, hasEvent⟩, ⟨function, hasFunction⟩⟩ := fit.handlers handlers bound handler present
      exact ⟨⟨event, function⟩, hasEvent, hasFunction⟩
    obtain ⟨entries, handled⟩ := exists_forall₂_right_iff.mpr described
    exact ⟨⟨name, kind, patterns, written, lines, entries⟩, named, kinded, ⟨ids, listed, clean, same⟩,
      collection, placed, ⟨handlers, bound, handled⟩⟩

/-- Of the valid manifests just those that fit go through the build and the node. -/
theorem accepted_iff {manifest : JsValue} (clean : validateManifest manifest = [])
    (wasmName : String) :
    (∃ doc descriptor, buildDescriptor manifest wasmName = .ok doc ∧
      BuildDescriptor.fromJson doc.stringified = some descriptor) ↔ ManifestFits manifest := by
  have valid := validManifest_of_clean clean
  obtain ⟨items, found, each⟩ := valid.dataSources
  constructor
  · intro accepted
    obtain ⟨doc, descriptor, through⟩ := accepted
    obtain ⟨described, -⟩ := (manifest_iff valid wasmName).mp ⟨doc, through⟩
    obtain ⟨others, same, entries⟩ := described.dataSources
    refine ⟨⟨_, described.name⟩, fun listed has ds present => ?_⟩
    rw [found] at has same
    cases has
    cases same
    exact (describable_iff (each ds present)).mp (exists_forall₂_right_iff.mp ⟨_, entries⟩ ds present)
  · intro fit
    obtain ⟨name, named⟩ := fit.name
    have describable : ∀ ds ∈ items, ∃ entry, DescribesSource ds entry := fun ds present =>
      (describable_iff (each ds present)).mpr (fit.dataSources items found ds present)
    obtain ⟨entries, described⟩ := exists_forall₂_right_iff.mpr describable
    obtain ⟨doc, through⟩ := (manifest_iff valid wasmName).mpr
      ⟨(⟨named, items, found, described⟩ : Describes manifest ⟨name, wasmName, entries⟩), rfl⟩
    exact ⟨doc, _, through⟩

/-! ## Which handler fires -/

/-- The first item that gives anything gives this. -/
def FirstGives {α β : Type} (gives : α → β → Prop) (items : List α) (result : β) : Prop :=
  ∃ before item after, items = before ++ item :: after ∧ gives item result ∧
    ∀ other ∈ before, ∀ result, ¬ gives other result

theorem firstGives_cons_iff {α β : Type} {gives : α → β → Prop} {item : α} {items : List α}
    {result : β} :
    FirstGives gives (item :: items) result ↔
      gives item result ∨ (∀ result, ¬ gives item result) ∧ FirstGives gives items result := by
  constructor
  · intro first
    obtain ⟨before, found, after, split, given, silent⟩ := first
    cases before with
    | nil =>
        left
        rw [(List.cons.inj split).1]
        exact given
    | cons head before =>
        obtain ⟨rfl, rest⟩ := List.cons.inj split
        rw [List.forall_mem_cons] at silent
        exact Or.inr ⟨silent.1, before, found, after, rest, given, silent.2⟩
  · intro either
    cases either with
    | inl given => exact ⟨[], item, items, rfl, given, nofun⟩
    | inr later =>
        obtain ⟨none, before, found, after, rfl, given, silent⟩ := later
        exact ⟨item :: before, found, after, rfl, given, List.forall_mem_cons.mpr ⟨none, silent⟩⟩

theorem findSome?_iff_firstGives {α β γ : Type} {related : α → γ → Prop} {gives : α → β → Prop}
    {find : γ → Option β}
    (agree : ∀ item entry, related item entry → ∀ result, find entry = some result ↔ gives item result)
    {items : List α} {entries : List γ} (all : List.Forall₂ related items entries) {result : β} :
    entries.findSome? find = some result ↔ FirstGives gives items result := by
  induction all with
  | nil => simp [FirstGives]
  | @cons item entry items entries head _ ih =>
      rw [firstGives_cons_iff, ← ih, ← agree item entry head]
      simp only [← agree item entry head]
      cases found : find entry with
      | some first => simp [found]
      | none => simp [found]

def Selects (ds : JsValue) (detectorKind : String) : Prop :=
  ∃ ids, ds.selector "ids" = some (.array ids) ∧
    ∃ id ∈ ids, id.get "pattern" = some (text detectorKind)

def Binds (event : String) (binding : JsValue) (handler : String) : Prop :=
  binding.get "event" = some (text event) ∧ binding.get "handler" = some (text handler)

/-- The data source selects the pattern, and its first binding of the event is to the handler. -/
def Answers (detectorKind event : String) (ds : JsValue) (handler : String) : Prop :=
  Selects ds detectorKind ∧
    ∃ bindings, ds.bindings = some (.array bindings) ∧ FirstGives (Binds event) bindings handler

/-- The first data source of the manifest that answers does so with this handler. -/
def ManifestHandler (manifest : JsValue) (detectorKind event handler : String) : Prop :=
  ∃ items, manifest.get "dataSources" = some (.array items) ∧
    FirstGives (Answers detectorKind event) items handler

theorem pattern?_eq_some_iff {id : JsValue} {units : List UInt16} :
    id.pattern? = some units ↔ id.get "pattern" = some (.string units) := by
  unfold JsValue.pattern?
  cases id.get "pattern" with
  | none => simp
  | some value => cases value <;> simp [JsValue.asString?]

theorem DescribesSource.selects_iff {ds : JsValue} {entry : DescriptorDataSource}
    (described : DescribesSource ds entry) (detectorKind : String) :
    entry.patterns.any (· == detectorKind) = true ↔ Selects ds detectorKind := by
  obtain ⟨ids, listed, -, patterns⟩ := described.patterns
  have within : entry.patterns.any (· == detectorKind) = true ↔
      ∃ id ∈ ids, id.get "pattern" = some (text detectorKind) := by
    have mapped : detectorKind ∈ entry.patterns ↔
        encode detectorKind ∈ entry.patterns.map encode :=
      (List.mem_map_of_injective fun _ _ same => encode_inj.mp same).symm
    rw [List.any_beq', List.contains_iff_mem, mapped, ← patterns, List.mem_filterMap]
    simp only [pattern?_eq_some_iff]
    rfl
  rw [within]
  unfold Selects
  cases listed with
  | inl nothing =>
      obtain ⟨absent, rfl⟩ := nothing
      cases absent with
      | inl missing => simp [missing]
      | inr null => simp [null]
  | inr listed => simp [listed]

theorem find?_map_eq_findSome? {α β : Type} (keep : α → Bool) (take : α → β) (items : List α) :
    (items.find? keep).map take =
      items.findSome? fun item => if keep item then some (take item) else none := by
  induction items with
  | nil => rfl
  | cons item items ih =>
      rw [List.find?_cons, List.findSome?_cons]
      cases keep item with
      | true => rfl
      | false => exact ih

theorem DescribesHandler.binds_iff {binding : JsValue} {entry : DescriptorHandler}
    (described : DescribesHandler binding entry) (event handler : String) :
    (if entry.event == event then some entry.handler else none) = some handler ↔
      Binds event binding handler := by
  unfold Binds
  rw [described.event, described.handler]
  have spelled : ∀ s t : String, some (text s) = some (text t) ↔ s = t := by
    intro s t
    simp [text, encode_inj]
  rw [spelled, spelled]
  simp

theorem DescribesSource.answers_iff {ds : JsValue} {entry : DescriptorDataSource}
    (described : DescribesSource ds entry) (detectorKind event handler : String) :
    (if entry.patterns.any (· == detectorKind) then
        (entry.handlers.find? (·.event == event)).map (·.handler)
      else
        none) = some handler ↔ Answers detectorKind event ds handler := by
  obtain ⟨bindings, bound, handled⟩ := described.handlers
  have fires : (entry.handlers.find? (·.event == event)).map (·.handler) = some handler ↔
      FirstGives (Binds event) bindings handler := by
    rw [find?_map_eq_findSome?]
    exact findSome?_iff_firstGives (fun _ _ described => described.binds_iff event) handled
  unfold Answers
  rw [Option.ite_none_right_eq_some, described.selects_iff, fires, bound]
  simp

/-- The node finds the handler that the manifest gives first. -/
theorem Describes.resolveHandler_iff {manifest : JsValue} {descriptor : BuildDescriptor}
    (described : Describes manifest descriptor) (detectorKind event handler : String) :
    descriptor.resolveHandler detectorKind event = some handler ↔
      ManifestHandler manifest detectorKind event handler := by
  obtain ⟨items, found, entries⟩ := described.dataSources
  unfold BuildDescriptor.resolveHandler ManifestHandler
  rw [findSome?_iff_firstGives
    (fun _ _ described => described.answers_iff detectorKind event) entries, found]
  simp

/-- A manifest without an issue, whose selectors fit, becomes a descriptor that the node accepts,
and the node dispatches as the manifest says. -/
theorem manifest_pipeline {manifest : JsValue} (clean : validateManifest manifest = [])
    (fit : ManifestFits manifest) (wasmName : String) :
    ∃ doc descriptor, buildDescriptor manifest wasmName = .ok doc ∧
      BuildDescriptor.fromJson doc.stringified = some descriptor ∧
      Describes manifest descriptor ∧
      ∀ detectorKind event handler, descriptor.resolveHandler detectorKind event = some handler ↔
        ManifestHandler manifest detectorKind event handler := by
  obtain ⟨doc, descriptor, built, read⟩ := (accepted_iff clean wasmName).mpr fit
  have described :=
    ((manifest_iff (validManifest_of_clean clean) wasmName).mp ⟨doc, built, read⟩).1
  exact ⟨doc, descriptor, built, read, described, described.resolveHandler_iff⟩

/-- A manifest of one data source with this `source`. -/
def bondManifest (source : JsValue) : JsValue :=
  .ofMembers [
    ("specVersion", text "0.1.0"),
    ("name", text "kasbonds"),
    ("schema", .ofMembers [("file", text "./schema.graphql")]),
    ("dataSources", .array [.ofMembers [
      ("name", text "kasbonds-covenants"),
      ("network", text "kaspa-mainnet"),
      ("kind", text "covenant_id"),
      ("source", source),
      ("mapping", .ofMembers [
        ("kind", text "typescript"),
        ("file", text "./src/mapping.ts"),
        ("entities", .array [text "Bond"]),
        ("handlers", .array [.ofMembers [
          ("event", text "CovenantLocked"), ("handler", text "handleBondIssued")]])])]])]

def vaultSelector : JsValue :=
  .ofMembers [("ids", .array [.ofMembers [("pattern", text "OpenSilverVault")]])]

theorem bondManifest_fits : ManifestFits (bondManifest vaultSelector) where
  name := ⟨"kasbonds", rfl⟩
  dataSources := by
    intro items found ds present
    cases found
    cases List.mem_singleton.mp present
    exact {
      name := ⟨"kasbonds-covenants", rfl⟩
      ids := by
        refine ⟨[.ofMembers [("pattern", text "OpenSilverVault")]], Or.inr rfl, by simp [JsValue.ofMembers], ?_⟩
        intro id only units selected
        cases List.mem_singleton.mp only
        cases selected
        exact ⟨"OpenSilverVault", rfl⟩
      collection := ⟨none, Or.inl rfl⟩
      addresses := ⟨[], Or.inl ⟨Or.inl rfl, rfl⟩, nofun⟩
      handlers := by
        intro handlers bound handler within
        cases bound
        cases List.mem_singleton.mp within
        exact ⟨⟨"CovenantLocked", rfl⟩, ⟨"handleBondIssued", rfl⟩⟩ }

theorem manifest_pipeline_bonds :
    ∃ doc descriptor, buildDescriptor (bondManifest vaultSelector) "kasbonds.wasm" = .ok doc ∧
      BuildDescriptor.fromJson doc.stringified = some descriptor ∧
      Describes (bondManifest vaultSelector) descriptor ∧
      ∀ detectorKind event handler, descriptor.resolveHandler detectorKind event = some handler ↔
        ManifestHandler (bondManifest vaultSelector) detectorKind event handler :=
  manifest_pipeline rfl bondManifest_fits "kasbonds.wasm"

/-- The validator passes a `collection` that is a number, and the node refuses it. -/
theorem numeric_collection_refused :
    validateManifest (bondManifest (.ofMembers [("collection", .number (.finite 5))])) = [] ∧
      ¬ ∃ doc descriptor,
        buildDescriptor (bondManifest (.ofMembers [("collection", .number (.finite 5))]))
            "kasbonds.wasm" = .ok doc ∧
          BuildDescriptor.fromJson doc.stringified = some descriptor := by
  have clean : validateManifest (bondManifest (.ofMembers [("collection", .number (.finite 5))])) =
      [] := rfl
  refine ⟨clean, fun accepted => ?_⟩
  have fit := (accepted_iff clean "kasbonds.wasm").mp accepted
  obtain ⟨written, collection⟩ := (fit.dataSources _ rfl _ (List.mem_singleton_self _)).collection
  change TextOrNothing (some (.number (.finite 5))) written at collection
  cases written <;> simp [TextOrNothing, text] at collection

end KasGraph
