import KasGraph.SubgraphSchema

set_option autoImplicit false

/-! Resolvers of relation fields: a direct reference holds the id of its target or the
target itself, and a derived one is read back from the targets. -/

namespace KasGraph

open Json (Value)

variable {δ : Type}

/-! ## Attaching -/

/-- What serves a field: the payload itself, the targets that refer back, or the target the
payload refers to. -/
inductive FieldResolver where
  | default
  | derived (targetType refField : String)
  | reference (targetType fieldName : String)
  deriving DecidableEq, Repr

/-- The fields of an object type, with those its extensions add. -/
def objectTypeFields (document : Document) (typeName : String) : Option (List FieldDefinition) :=
  let declared := document.findSome? fun
    | .objectType definition => if definition.name = typeName then some definition.fields else none
    | _ => none
  let added := document.filterMap fun
    | .objectTypeExtension definition =>
        if definition.name = typeName then some definition.fields else none
    | _ => none
  declared.map (· ++ added.flatten)

/-- The resolver of one field of an entity type. -/
def relationResolver (document : Document) (entityNames : List String) (field : FieldDefinition) :
    FieldResolver :=
  let targetType := field.type.namedType
  if (objectTypeFields document targetType).isNone || !entityNames.contains targetType then
    .default
  else
    match field.directives.find? (·.name == "derivedFrom") with
    | some derived =>
        match derived.arguments.find? (·.1 == "field") with
        | some (_, .string refField) => .derived targetType refField
        | _ => .default
    | none => .reference targetType field.name

def attachRelationResolvers (document : Document) (entityNames : List String)
    (typeName fieldName : String) : FieldResolver :=
  if entityNames.contains typeName then
    match (objectTypeFields document typeName).bind (·.find? (·.name == fieldName)) with
    | some field => relationResolver document entityNames field
    | none => .default
  else
    .default

/-! ## Resolving -/

/-- `String(value)` of a value that is neither null nor an object. -/
def jsString (numberText : Json.Number → String) : Value → String
  | .string text => text
  | .bool b => toString b
  | .number n => numberText n
  | _ => ""

/-- `typeof value === 'object'`, for a value that is not null. -/
def isJsObject : Value → Bool
  | .array _ => true
  | .object _ => true
  | _ => false

/-- The direct reference: an object is taken as inlined, anything else as an id. -/
def resolveReference (store : Store δ) (subgraph : SubgraphId) (numberText : Json.Number → String)
    (targetType fieldName : String) (source : Value) : Value :=
  match source.get? fieldName with
  | none => .null
  | some .null => .null
  | some stored =>
      if isJsObject stored then
        stored
      else
        (store.subgraphEntityById subgraph targetType (jsString numberText stored)).getD .null

/-! ## What a stored value refers to -/

/-- The latest version of an entity, as an object. -/
def latestEntity (store : Store δ) (subgraph : SubgraphId) (targetType id : String) : Value :=
  (((store.snapshotRows subgraph).find? fun row => row.entity = (targetType, id)).map
    mergeEntityPayload).getD .null

section Target

variable (latest : String → Value) (numberText : Json.Number → String)

mutual

/-- An id refers to the latest version of its entity, an object to itself, and a list element
by element. -/
def targetOf : Value → Value
  | .array items => .array (targetsOf items)
  | .object fields => .object fields
  | .null => .null
  | .string text => latest (jsString numberText (.string text))
  | .bool b => latest (jsString numberText (.bool b))
  | .number n => latest (jsString numberText (.number n))

def targetsOf : List Value → List Value
  | [] => []
  | item :: items => targetOf item :: targetsOf items

end

mutual

/-- A list that holds an id, at any depth of lists. -/
def listsId : Value → Bool
  | .array items => anyId items
  | _ => false

def anyId : List Value → Bool
  | [] => false
  | .string _ :: _ => true
  | .bool _ :: _ => true
  | .number _ :: _ => true
  | item :: items => listsId item || anyId items

end

end Target

theorem subgraphEntityById_eq_latestEntity (store : Store δ) (subgraph : SubgraphId)
    (targetType id : String) :
    (store.subgraphEntityById subgraph targetType id).getD .null =
      latestEntity store subgraph targetType id := by
  unfold latestEntity
  cases found : (store.snapshotRows subgraph).find? fun row => row.entity = (targetType, id) with
  | none =>
      have absent : store.subgraphEntityById subgraph targetType id = none :=
        subgraphEntityById_eq_none_iff.mpr fun row latest =>
          of_decide_eq_false (by simpa using List.find?_eq_none.mp found row latest)
      rw [absent]
      rfl
  | some row =>
      have latest := List.mem_of_find?_eq_some found
      have same : row.entity = (targetType, id) := by simpa using List.find?_some found
      obtain ⟨rfl, rfl⟩ := Prod.mk.inj same
      rw [subgraphEntityById_of_latest latest]
      rfl

/-- The latest version of an entity is an object, or there is none. -/
theorem latestEntity_shape (store : Store δ) (subgraph : SubgraphId) (targetType id : String) :
    latestEntity store subgraph targetType id = .null ∨
      ∃ fields, latestEntity store subgraph targetType id = .object fields := by
  unfold latestEntity
  cases (store.snapshotRows subgraph).find? fun row => row.entity = (targetType, id) with
  | none => exact Or.inl rfl
  | some row => exact Or.inr ⟨_, rfl⟩

section Target

variable {latest : String → Value} {numberText : Json.Number → String}

theorem latest_ne_scalar (shape : ∀ id, latest id = .null ∨ ∃ fields, latest id = .object fields)
    {id : String} {value : Value} (scalar : isJsObject value = false)
    (held : value ≠ .null) : latest id ≠ value := by
  rintro rfl
  rcases shape id with none | ⟨fields, object⟩
  · exact held none
  · rw [object] at scalar
    cases scalar

variable (shape : ∀ id, latest id = .null ∨ ∃ fields, latest id = .object fields)
include shape

mutual

/-- An object or a list is what it refers to exactly when it lists no id. -/
theorem targetOf_eq_self_iff : ∀ {value : Value}, isJsObject value = true ∨ value = .null →
    (targetOf latest numberText value = value ↔ listsId value = false)
  | .array items, _ => by
      rw [targetOf, listsId, Value.array.injEq]
      exact targetsOf_eq_self_iff
  | .object fields, _ => by simp [targetOf, listsId]
  | .null, _ => by simp [targetOf, listsId]
  | .string _, wrong => by simp [isJsObject] at wrong
  | .bool _, wrong => by simp [isJsObject] at wrong
  | .number _, wrong => by simp [isJsObject] at wrong

theorem targetsOf_eq_self_iff : ∀ {items : List Value},
    targetsOf latest numberText items = items ↔ anyId items = false
  | [] => by simp [targetsOf, anyId]
  | .string text :: items => by
      have apart := @latest_ne_scalar latest shape text (.string text) rfl nofun
      simp [targetsOf, targetOf, anyId, jsString, apart]
  | .bool b :: items => by
      have apart := @latest_ne_scalar latest shape (toString b) (.bool b) rfl nofun
      simp [targetsOf, targetOf, anyId, jsString, apart]
  | .number n :: items => by
      have apart := @latest_ne_scalar latest shape (numberText n) (.number n) rfl nofun
      simp [targetsOf, targetOf, anyId, jsString, apart]
  | .null :: items => by
      rw [targetsOf, anyId, List.cons.injEq, Bool.or_eq_false_iff, targetsOf_eq_self_iff,
        targetOf_eq_self_iff (Or.inr rfl)]
      all_goals exact nofun
  | .array inner :: items => by
      rw [targetsOf, anyId, List.cons.injEq, Bool.or_eq_false_iff, targetsOf_eq_self_iff,
        targetOf_eq_self_iff (Or.inl rfl)]
      all_goals exact nofun
  | .object fields :: items => by
      rw [targetsOf, anyId, List.cons.injEq, Bool.or_eq_false_iff, targetsOf_eq_self_iff,
        targetOf_eq_self_iff (Or.inl rfl)]
      all_goals exact nofun

end

end Target

/-- A relation field as it is resolved is what its stored value refers to, exactly when that
value lists no id. -/
theorem resolveReference_eq_iff (store : Store δ) (subgraph : SubgraphId)
    (numberText : Json.Number → String) (targetType fieldName : String)
    (source : List (String × Value)) :
    resolveReference store subgraph numberText targetType fieldName (.object source) =
        ((source.lookup fieldName).map
          (targetOf (latestEntity store subgraph targetType) numberText)).getD .null ↔
      ∀ stored, source.lookup fieldName = some stored → listsId stored = false := by
  have shape := latestEntity_shape store subgraph targetType
  unfold resolveReference
  rw [Value.get?_object]
  cases source.lookup fieldName with
  | none => simp
  | some stored =>
      have read := subgraphEntityById_eq_latestEntity store subgraph targetType
      have inlined := @targetOf_eq_self_iff _ numberText shape
      cases stored with
      | null => simp [targetOf, listsId]
      | bool b => simp [isJsObject, targetOf, listsId, read]
      | number n => simp [isJsObject, targetOf, listsId, read]
      | string text => simp [isJsObject, targetOf, listsId, read]
      | array items =>
          have self := @inlined (.array items) (Or.inl rfl)
          constructor
          · rintro same stored held
            rw [← Option.some.inj held]
            exact self.mp same.symm
          · intro none
            exact (self.mpr (none _ rfl)).symm
      | object fields =>
          have self := @inlined (.object fields) (Or.inl rfl)
          constructor
          · rintro same stored held
            rw [← Option.some.inj held]
            exact self.mp same.symm
          · intro none
            exact (self.mpr (none _ rfl)).symm

theorem entity_declared {document : Document} {name : String}
    (entity : name ∈ (subgraphEntities document).map (·.name)) :
    (objectTypeFields document name).isSome = true := by
  obtain ⟨e, member, rfl⟩ := List.mem_map.mp entity
  obtain ⟨definition, listed, emitted⟩ := List.mem_filterMap.mp member
  unfold objectTypeFields
  rw [Option.isSome_map, List.findSome?_isSome_iff]
  refine ⟨definition, listed, ?_⟩
  cases definition with
  | objectType definition =>
      obtain ⟨-, same⟩ := Option.ite_none_right_eq_some.mp emitted
      rw [← Option.some.inj same]
      simp
  | objectTypeExtension => cases emitted
  | directive => cases emitted
  | scalar => cases emitted
  | other => cases emitted

/-- Every relation field that is not derived, of whatever wrapping, gets the resolver of a
direct reference; and what it answers for a payload is what the stored value refers to exactly
when that value is not a list that holds an id. -/
theorem reference_resolves_iff (document : Document) (typeName fieldName : String)
    (fields : List FieldDefinition) (field : FieldDefinition)
    (entity : typeName ∈ (subgraphEntities document).map (·.name))
    (declared : objectTypeFields document typeName = some fields)
    (found : fields.find? (·.name == fieldName) = some field)
    (direct : field.directives.find? (·.name == "derivedFrom") = none)
    (relation : field.type.namedType ∈ (subgraphEntities document).map (·.name))
    (store : Store δ) (subgraph : SubgraphId) (numberText : Json.Number → String)
    (source : List (String × Value)) :
    attachRelationResolvers document ((subgraphEntities document).map (·.name)) typeName
        fieldName = .reference field.type.namedType fieldName ∧
    (resolveReference store subgraph numberText field.type.namedType fieldName (.object source) =
        ((source.lookup fieldName).map
          (targetOf (latestEntity store subgraph field.type.namedType) numberText)).getD .null ↔
      ∀ stored, source.lookup fieldName = some stored → listsId stored = false) := by
  refine ⟨?_, resolveReference_eq_iff ..⟩
  have named : field.name = fieldName := by simpa using List.find?_some found
  have known := entity_declared relation
  unfold attachRelationResolvers
  rw [if_pos (List.contains_iff_mem.mpr entity), declared, Option.bind_some, found]
  unfold relationResolver
  simp only [direct, named]
  rw [if_neg]
  rw [Bool.or_eq_true, not_or, Option.isNone_iff_eq_none, Bool.not_eq_true', Bool.not_eq_false]
  exact ⟨Option.isSome_iff_ne_none.mp known, List.contains_iff_mem.mpr relation⟩

/-! ### A bond with its holdings -/

/-- A bond whose holdings are a list. -/
def bondDocument : Document := [
  .objectType {
    name := "Bond"
    directives := [{ name := "entity", arguments := [] }]
    fields := [
      { name := "holdings", arguments := [], type := .list (.nonNull (.named "Holding")),
        directives := [] }] },
  entityDefinition "Holding"]

def holdingsField : FieldDefinition where
  name := "holdings"
  arguments := []
  type := .list (.nonNull (.named "Holding"))
  directives := []

theorem reference_resolves_iff_holdings :
    attachRelationResolvers bondDocument ((subgraphEntities bondDocument).map (·.name)) "Bond"
        "holdings" = .reference holdingsField.type.namedType "holdings" ∧
    (resolveReference movedHolding demoSubgraph (fun _ => "0") holdingsField.type.namedType
        "holdings" (.object [("holdings", .string "h")]) =
        (([("holdings", Value.string "h")].lookup "holdings").map
          (targetOf (latestEntity movedHolding demoSubgraph holdingsField.type.namedType)
            fun _ => "0")).getD .null ↔
      ∀ stored, [("holdings", Value.string "h")].lookup "holdings" = some stored →
        listsId stored = false) :=
  reference_resolves_iff bondDocument "Bond" "holdings" [holdingsField] holdingsField
    (by decide +kernel) (by decide +kernel) (by decide +kernel) (by decide +kernel)
    (by decide +kernel) movedHolding demoSubgraph (fun _ => "0") [("holdings", .string "h")]

theorem listed_id_unresolved :
    ¬ ∀ (store : Store Unit) (subgraph : SubgraphId) (numberText : Json.Number → String)
        (targetType fieldName : String) (source : List (String × Value)),
      resolveReference store subgraph numberText targetType fieldName (.object source) =
        ((source.lookup fieldName).map
          (targetOf (latestEntity store subgraph targetType) numberText)).getD .null := by
  intro always
  have resolved := always movedHolding demoSubgraph (fun _ => "0") "Holding" "holdings"
    [("holdings", .array [.string "h"])]
  have kept := (resolveReference_eq_iff ..).mp resolved (.array [.string "h"]) rfl
  cases kept

end KasGraph
