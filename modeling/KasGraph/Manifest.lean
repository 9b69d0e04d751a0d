import KasGraph.Utf16

set_option autoImplicit false

/-! The manifest of a subgraph as the tools parse it, and what the validator finds wrong with it. -/

namespace KasGraph

open Utf16 (encode decode encode_inj)

/-! ## Parsed values -/

inductive JsNumber where
  | finite (value : ℚ)
  | infinite (negative : Bool)
  | nan

/-- A parsed value. Strings and member names are units, and need not be texts. -/
inductive JsValue where
  | null
  | bool (value : Bool)
  | number (value : JsNumber)
  | string (units : List UInt16)
  | array (items : List JsValue)
  | object (members : List (List UInt16 × JsValue))

namespace JsValue

/-- The string of a literal in the source. -/
def text (s : String) : JsValue := .string (encode s)

/-- A member read from a value that is not nullish, `none` standing for `undefined`. -/
def get (value : JsValue) (name : String) : Option JsValue :=
  match value with
  | .object members => (members.find? (·.1 = encode name)).map (·.2)
  | _ => none

/-- An object with these members. -/
def ofMembers (members : List (String × JsValue)) : JsValue :=
  .object (members.map fun member => (encode member.1, member.2))

/-- `typeof value === 'string'`. -/
def asString? : JsValue → Option (List UInt16)
  | .string units => some units
  | _ => none

@[simp]
theorem get_ofMembers_nil (name : String) : (ofMembers []).get name = none := rfl

@[simp]
theorem get_ofMembers_cons (key name : String) (value : JsValue)
    (members : List (String × JsValue)) :
    (ofMembers ((key, value) :: members)).get name =
      if key = name then some value else (ofMembers members).get name := by
  unfold ofMembers get
  simp only [List.map_cons, List.find?_cons, encode_inj]
  by_cases same : key = name
  · simp [same]
  · simp [same]

end JsValue

open JsValue (text)

/-! ## Validation -/

structure ManifestIssue where
  path : String
  message : String
  deriving DecidableEq, Repr

def dataSourceKinds : List String := ["covenant_id", "krc20", "krc721", "address", "utxo"]

def subgraphNetworks : List String := ["kaspa-mainnet", "kaspa-testnet-12", "kaspa-devnet"]

def checkNonEmptyString (value : Option JsValue) (path : String) : List ManifestIssue :=
  match value with
  | some (.string (_ :: _)) => []
  | _ => [⟨path, "expected a non-empty string"⟩]

/-- `options.includes(value)` for options that are texts. -/
def includesText (options : List String) (value : Option JsValue) : Bool :=
  match value with
  | some (.string units) => options.any (encode · = units)
  | _ => false

/-- The issues of each item, at its index in the path. -/
def forEachIssue (items : List JsValue) (base : String)
    (check : JsValue → String → List ManifestIssue) : List ManifestIssue :=
  (items.mapIdx fun i item => check item s!"{base}[{i}]").flatten

def validateHandler (handler : JsValue) (path : String) : List ManifestIssue :=
  match handler with
  | .object _ =>
      checkNonEmptyString (handler.get "event") (path ++ ".event") ++
        checkNonEmptyString (handler.get "handler") (path ++ ".handler")
  | _ => [⟨path, "expected an object"⟩]

def validateEntities (entities : Option JsValue) (path : String) : List ManifestIssue :=
  match entities with
  | some (.array items) => forEachIssue items path fun entity => checkNonEmptyString (some entity)
  | _ => [⟨path, "expected an array of entity-type names"⟩]

def validateHandlers (handlers : Option JsValue) (path : String) : List ManifestIssue :=
  match handlers with
  | some (.array items) => forEachIssue items path validateHandler
  | _ => [⟨path, "expected an array of \x7b event, handler \x7d"⟩]

def validateMapping (mapping : Option JsValue) (base : String) : List ManifestIssue :=
  match mapping with
  | some (.object members) =>
      let mapping := JsValue.object members
      (if includesText ["typescript"] (mapping.get "kind") then
        []
      else
        [⟨base ++ ".kind", "expected the literal \"typescript\""⟩]) ++
      checkNonEmptyString (mapping.get "file") (base ++ ".file") ++
      validateEntities (mapping.get "entities") (base ++ ".entities") ++
      validateHandlers (mapping.get "handlers") (base ++ ".handlers")
  | _ => [⟨base, "expected an object"⟩]

def validateChoice (options : List String) (value : Option JsValue) (path : String) :
    List ManifestIssue :=
  if includesText options value then
    []
  else
    [⟨path, "expected one of " ++ ", ".intercalate options⟩]

def validateStartBlock (startBlock : Option JsValue) (path : String) : List ManifestIssue :=
  match startBlock with
  | none | some (.number _) => []
  | _ => [⟨path, "expected a number when present"⟩]

def isObject (value : Option JsValue) : Bool :=
  match value with
  | some (.object _) => true
  | _ => false

def validateDataSource (source : JsValue) (base : String) : List ManifestIssue :=
  match source with
  | .object _ =>
      checkNonEmptyString (source.get "name") (base ++ ".name") ++
      validateChoice subgraphNetworks (source.get "network") (base ++ ".network") ++
      validateChoice dataSourceKinds (source.get "kind") (base ++ ".kind") ++
      (if isObject (source.get "source") then [] else [⟨base ++ ".source", "expected an object"⟩]) ++
      validateStartBlock (source.get "startBlock") (base ++ ".startBlock") ++
      validateMapping (source.get "mapping") (base ++ ".mapping")
  | _ => [⟨base, "expected an object"⟩]

def validateSchema (schema : Option JsValue) : List ManifestIssue :=
  match schema with
  | some (.object members) => checkNonEmptyString ((JsValue.object members).get "file") "schema.file"
  | _ => [⟨"schema", "expected an object with a `file`"⟩]

def validateDataSources (dataSources : Option JsValue) : List ManifestIssue :=
  match dataSources with
  | some (.array []) =>
      [⟨"dataSources", "a manifest must declare at least one data source"⟩]
  | some (.array items) => forEachIssue items "dataSources" validateDataSource
  | _ => [⟨"dataSources", "expected a non-empty array"⟩]

/-- What is wrong with a parsed manifest. The contents of a `source` are not looked at. -/
def validateManifest (value : JsValue) : List ManifestIssue :=
  match value with
  | .object _ =>
      checkNonEmptyString (value.get "specVersion") "specVersion" ++
      checkNonEmptyString (value.get "name") "name" ++
      validateSchema (value.get "schema") ++
      validateDataSources (value.get "dataSources")
  | _ => [⟨"", "manifest must be an object"⟩]

/-! ## What is left when no issue is found -/

structure ValidHandler (handler : JsValue) : Prop where
  event : ∃ units, handler.get "event" = some (.string units)
  handler : ∃ units, handler.get "handler" = some (.string units)

structure ValidDataSource (dataSource : JsValue) : Prop where
  isObject : ∃ members, dataSource = .object members
  name : ∃ units, dataSource.get "name" = some (.string units)
  kind : ∃ kind ∈ dataSourceKinds, dataSource.get "kind" = some (text kind)
  source : ∃ members, dataSource.get "source" = some (.object members)
  mapping : ∃ members handlers, dataSource.get "mapping" = some (.object members) ∧
    (JsValue.object members).get "handlers" = some (.array handlers) ∧
    ∀ handler ∈ handlers, ValidHandler handler

structure ValidManifest (manifest : JsValue) : Prop where
  isObject : ∃ members, manifest = .object members
  name : ∃ units, manifest.get "name" = some (.string units)
  dataSources : ∃ items, manifest.get "dataSources" = some (.array items) ∧
    ∀ source ∈ items, ValidDataSource source

theorem string_of_checked {value : Option JsValue} {path : String}
    (clean : checkNonEmptyString value path = []) : ∃ units, value = some (.string units) := by
  unfold checkNonEmptyString at clean
  split at clean
  · rename_i first rest
    exact ⟨first :: rest, rfl⟩
  · nomatch clean

theorem text_of_choice {options : List String} {value : Option JsValue} {path : String}
    (clean : validateChoice options value path = []) :
    ∃ choice ∈ options, value = some (text choice) := by
  unfold validateChoice at clean
  split at clean
  · rename_i includes
    unfold includesText at includes
    split at includes
    · rename_i units
      obtain ⟨choice, offered, same⟩ := List.any_eq_true.mp includes
      refine ⟨choice, offered, ?_⟩
      rw [← of_decide_eq_true same]
      rfl
    · nomatch includes
  · nomatch clean

theorem forEach_clean {items : List JsValue} {base : String}
    {check : JsValue → String → List ManifestIssue} (clean : forEachIssue items base check = []) :
    ∀ item ∈ items, ∃ path, check item path = [] := by
  intro item present
  obtain ⟨i, within, rfl⟩ := List.getElem_of_mem present
  refine ⟨s!"{base}[{i}]", List.flatten_eq_nil_iff.mp clean _ ?_⟩
  exact List.mem_mapIdx.mpr ⟨i, within, rfl⟩

theorem validHandler_of_clean {handler : JsValue} {path : String}
    (clean : validateHandler handler path = []) : ValidHandler handler := by
  unfold validateHandler at clean
  split at clean
  · obtain ⟨event, function⟩ := List.append_eq_nil_iff.mp clean
    exact ⟨string_of_checked event, string_of_checked function⟩
  · nomatch clean

theorem validHandlers_of_clean {handlers : Option JsValue} {path : String}
    (clean : validateHandlers handlers path = []) :
    ∃ items, handlers = some (.array items) ∧ ∀ handler ∈ items, ValidHandler handler := by
  unfold validateHandlers at clean
  split at clean
  · rename_i items
    refine ⟨items, rfl, fun handler present => ?_⟩
    obtain ⟨path, checked⟩ := forEach_clean clean handler present
    exact validHandler_of_clean checked
  · nomatch clean

theorem validMapping_of_clean {mapping : Option JsValue} {base : String}
    (clean : validateMapping mapping base = []) :
    ∃ members handlers, mapping = some (.object members) ∧
      (JsValue.object members).get "handlers" = some (.array handlers) ∧
      ∀ handler ∈ handlers, ValidHandler handler := by
  unfold validateMapping at clean
  split at clean
  · rename_i members
    obtain ⟨-, handlers⟩ := List.append_eq_nil_iff.mp clean
    obtain ⟨items, found, valid⟩ := validHandlers_of_clean handlers
    exact ⟨members, items, rfl, found, valid⟩
  · nomatch clean

theorem object_of_isObject {value : Option JsValue} (object : isObject value = true) :
    ∃ members, value = some (.object members) := by
  unfold isObject at object
  split at object
  · exact ⟨_, rfl⟩
  · nomatch object

theorem validDataSource_of_clean {source : JsValue} {base : String}
    (clean : validateDataSource source base = []) : ValidDataSource source := by
  unfold validateDataSource at clean
  split at clean
  · rename_i members
    simp only [List.append_eq_nil_iff] at clean
    obtain ⟨⟨⟨⟨⟨name, -⟩, kind⟩, contents⟩, -⟩, mapping⟩ := clean
    have object : isObject ((JsValue.object members).get "source") = true := by
      by_contra missing
      rw [if_neg missing] at contents
      nomatch contents
    exact {
      isObject := ⟨_, rfl⟩
      name := string_of_checked name
      kind := text_of_choice kind
      source := object_of_isObject object
      mapping := validMapping_of_clean mapping }
  · nomatch clean

theorem validManifest_of_clean {manifest : JsValue} (clean : validateManifest manifest = []) :
    ValidManifest manifest := by
  unfold validateManifest at clean
  split at clean
  · simp only [List.append_eq_nil_iff] at clean
    obtain ⟨⟨⟨-, name⟩, -⟩, dataSources⟩ := clean
    refine ⟨⟨_, rfl⟩, string_of_checked name, ?_⟩
    unfold validateDataSources at dataSources
    split at dataSources
    · nomatch dataSources
    · rename_i items _ found
      refine ⟨items, found, fun source present => ?_⟩
      obtain ⟨path, checked⟩ := forEach_clean dataSources source present
      exact validDataSource_of_clean checked
    · nomatch dataSources
  · nomatch clean

end KasGraph
