import KasGraph.EntityReads

set_option autoImplicit false

/-! The schema generated for a subgraph: the query fields of its entity types, and the
resolvers of the fields that relate one entity to another. -/

namespace KasGraph

open Json (Value)

variable {δ : Type}

/-! ## Schema documents -/

inductive TypeRef where
  | named (name : String)
  | list (item : TypeRef)
  | nonNull (of : TypeRef)
  deriving DecidableEq, Repr

/-- `getNamedType`. -/
def TypeRef.namedType : TypeRef → String
  | .named name => name
  | .list item => item.namedType
  | .nonNull inner => inner.namedType

/-- The value of a directive's argument; only strings are told apart. -/
inductive ArgumentValue where
  | string (text : String)
  | other
  deriving DecidableEq, Repr

structure Directive where
  name : String
  arguments : List (String × ArgumentValue)
  deriving DecidableEq, Repr

structure InputArgument where
  name : String
  type : TypeRef
  default : Option String
  deriving DecidableEq, Repr

structure FieldDefinition where
  name : String
  arguments : List InputArgument
  type : TypeRef
  directives : List Directive
  deriving DecidableEq, Repr

structure ObjectTypeDefinition where
  name : String
  directives : List Directive
  fields : List FieldDefinition
  deriving DecidableEq, Repr

inductive Definition where
  | objectType (definition : ObjectTypeDefinition)
  | objectTypeExtension (definition : ObjectTypeDefinition)
  | directive (name : String) (arguments : List InputArgument) (locations : List String)
  | scalar (name : String)
  | other
  deriving DecidableEq, Repr

abbrev Document := List Definition

/-! ## Entities and their query fields -/

structure SubgraphEntity where
  name : String
  queryName : String
  deriving DecidableEq, Repr

def lowerFirst (s : String) : String :=
  match s.toList with
  | [] => s
  | c :: rest => String.ofList (c.toLower :: rest)

/-- The object types that carry `@entity`, in declaration order. -/
def subgraphEntities (document : Document) : List SubgraphEntity :=
  document.filterMap fun
    | .objectType definition =>
        if definition.directives.any (·.name == "entity") then
          some { name := definition.name, queryName := lowerFirst definition.name }
        else
          none
    | _ => none

def queryFieldsOf (e : SubgraphEntity) : List FieldDefinition := [
  { name := e.queryName
    arguments := [{ name := "id", type := .nonNull (.named "ID"), default := none }]
    type := .named e.name
    directives := [] },
  { name := e.queryName ++ "s"
    arguments := [{ name := "first", type := .named "Int", default := some "100" }]
    type := .nonNull (.list (.nonNull (.named e.name)))
    directives := [] }]

def queryType (entities : List SubgraphEntity) : ObjectTypeDefinition where
  name := "Query"
  directives := []
  fields := entities.flatMap queryFieldsOf

def buildSubgraphSchemaSdl (document : Document) : Except String Document :=
  let entities := subgraphEntities document
  if entities.isEmpty then
    .error "subgraph schema declares no `@entity` types"
  else
    .ok ([
      .directive "entity" [] ["OBJECT"],
      .directive "derivedFrom"
        [{ name := "field", type := .nonNull (.named "String"), default := none }]
        ["FIELD_DEFINITION"],
      .scalar "BigInt",
      .scalar "JSON"] ++ document ++ [.objectType (queryType entities)])

/-- What a root field runs: the read of one entity, or of all of a type. -/
inductive RootResolver where
  | entityById (entityType : String)
  | entitiesOfType (entityType : String)
  deriving DecidableEq, Repr

def rootAssignments (e : SubgraphEntity) : List (String × RootResolver) :=
  [(e.queryName, .entityById e.name), (e.queryName ++ "s", .entitiesOfType e.name)]

/-- The root value of a query: a later assignment of a name replaces an earlier one. -/
def rootValue (entities : List SubgraphEntity) : OrderedMap String RootResolver :=
  OrderedMap.insertEach ∅ (entities.flatMap rootAssignments)

structure RootArguments where
  id : String
  first : Option Int
  deriving DecidableEq, Repr

inductive RootAnswer where
  | entity (payload : Option Value)
  | entities (payloads : List Value)
  deriving DecidableEq

def RootResolver.run (store : Store δ) (subgraph : SubgraphId) (args : RootArguments) :
    RootResolver → RootAnswer
  | .entityById entityType => .entity (store.subgraphEntityById subgraph entityType args.id)
  | .entitiesOfType entityType =>
      .entities (store.subgraphEntitiesOfType subgraph entityType args.first)

/-- A root field is answered by what the root value holds under its name. -/
def executeRootField (store : Store δ) (subgraph : SubgraphId) (entities : List SubgraphEntity)
    (field : String) (args : RootArguments) : Option RootAnswer :=
  (rootValue entities)[field]?.map (·.run store subgraph args)

/-! ### Distinct names -/

/-- The names generated for an entity type. -/
def queryNames (name : String) : List String := [lowerFirst name, lowerFirst name ++ "s"]

theorem queryType_names (entities : List SubgraphEntity)
    (lowered : ∀ e ∈ entities, e.queryName = lowerFirst e.name) :
    (queryType entities).fields.map (·.name) = (entities.map (·.name)).flatMap queryNames := by
  unfold queryType
  rw [List.map_flatMap, List.flatMap_map]
  refine List.flatMap_congr fun e member => ?_
  unfold queryFieldsOf queryNames
  rw [← lowered e member]
  rfl

theorem rootAssignments_keys (entities : List SubgraphEntity)
    (lowered : ∀ e ∈ entities, e.queryName = lowerFirst e.name) :
    (entities.flatMap rootAssignments).map Prod.fst =
      (entities.map (·.name)).flatMap queryNames := by
  rw [List.map_flatMap, List.flatMap_map]
  refine List.flatMap_congr fun e member => ?_
  unfold rootAssignments queryNames
  rw [← lowered e member]
  rfl

theorem lowered_subgraphEntities (document : Document) :
    ∀ e ∈ subgraphEntities document, e.queryName = lowerFirst e.name := by
  intro e member
  obtain ⟨definition, -, emitted⟩ := List.mem_filterMap.mp member
  cases definition with
  | objectType definition =>
      obtain ⟨-, same⟩ := Option.ite_none_right_eq_some.mp emitted
      rw [← Option.some.inj same]
  | objectTypeExtension => cases emitted
  | directive => cases emitted
  | scalar => cases emitted
  | other => cases emitted

theorem append_s_ne (s : String) : s ++ "s" ≠ s := by
  intro same
  have level := congrArg String.length same
  rw [String.length_append] at level
  have one : "s".length = 1 := rfl
  omega

theorem append_s_inj {s t : String} (same : s ++ "s" = t ++ "s") : s = t := by
  have chars := congrArg String.toList same
  rw [String.toList_append, String.toList_append] at chars
  exact String.toList_inj.mp (List.append_cancel_right chars)

/-- No two of the names agree after lowering, and none lowered is another's plural. -/
def NamesApart (names : List String) : Prop :=
  (∀ a ∈ names, ∀ b ∈ names, lowerFirst a = lowerFirst b → a = b) ∧
    ∀ a ∈ names, ∀ b ∈ names, lowerFirst a ++ "s" ≠ lowerFirst b

/-- The generated names are distinct exactly when the types' names are apart. -/
theorem queryNames_nodup_iff {names : List String} (distinct : names.Nodup) :
    (names.flatMap queryNames).Nodup ↔ NamesApart names := by
  have each : ∀ a b, List.Disjoint (queryNames a) (queryNames b) ↔
      lowerFirst a ≠ lowerFirst b ∧ lowerFirst a ++ "s" ≠ lowerFirst b ∧
        lowerFirst b ++ "s" ≠ lowerFirst a := by
    intro a b
    unfold queryNames
    constructor
    · intro apart
      refine ⟨fun same => ?_, fun same => ?_, fun same => ?_⟩
      · exact apart (List.mem_cons_self ..) (by simp [same])
      · exact apart (by simp) (show lowerFirst a ++ "s" ∈ _ by simp [same])
      · exact apart (show lowerFirst b ++ "s" ∈ _ by simp [same]) (by simp)
    · rintro ⟨singles, plural, other⟩ name left right
      simp only [List.mem_cons, List.not_mem_nil, or_false] at left right
      rcases left with rfl | rfl <;> rcases right with same | same
      · exact singles same
      · exact other same.symm
      · exact plural same
      · exact singles (append_s_inj same)
  have single : ∀ a, (queryNames a).Nodup := by
    intro a
    unfold queryNames
    simpa using (append_s_ne (lowerFirst a)).symm
  have symm : Std.Symm fun a b => List.Disjoint (queryNames a) (queryNames b) :=
    ⟨fun _ _ => List.Disjoint.symm⟩
  rw [List.nodup_flatMap]
  show ((∀ a ∈ names, (queryNames a).Nodup) ∧
    names.Pairwise fun a b => List.Disjoint (queryNames a) (queryNames b)) ↔ _
  rw [← List.pairwise_iff_coe_toFinset_pairwise distinct]
  constructor
  · rintro ⟨-, apart⟩
    have pairs : ∀ a ∈ names, ∀ b ∈ names, a ≠ b →
        List.Disjoint (queryNames a) (queryNames b) := fun a inA b inB =>
      apart (List.mem_toFinset.mpr inA) (List.mem_toFinset.mpr inB)
    refine ⟨fun a inA b inB same => ?_, fun a inA b inB same => ?_⟩
    · by_contra different
      exact ((each a b).mp (pairs a inA b inB different)).1 same
    · by_cases here : a = b
      · exact append_s_ne _ (here ▸ same)
      · exact ((each a b).mp (pairs a inA b inB here)).2.1 same
  · rintro ⟨singles, plurals⟩
    refine ⟨fun a _ => single a, fun a inA b inB different => ?_⟩
    have inA := List.mem_toFinset.mp inA
    have inB := List.mem_toFinset.mp inB
    exact (each a b).mpr ⟨fun same => different (singles a inA b inB same),
      plurals a inA b inB, plurals b inB a inA⟩

/-- Each root field reads its own entity type where the generated names are distinct. -/
theorem rootValue_of_nodup {entities : List SubgraphEntity}
    (distinct : ((entities.flatMap rootAssignments).map Prod.fst).Nodup) {e : SubgraphEntity}
    (member : e ∈ entities) :
    (rootValue entities)[e.queryName]? = some (.entityById e.name) ∧
      (rootValue entities)[e.queryName ++ "s"]? = some (.entitiesOfType e.name) := by
  have apart : (entities.flatMap rootAssignments).Pairwise fun a b => a.1 ≠ b.1 :=
    List.pairwise_map.mp distinct
  have assigned : ∀ entry ∈ rootAssignments e, entry ∈ entities.flatMap rootAssignments :=
    fun entry listed => List.mem_flatMap.mpr ⟨e, member, listed⟩
  exact ⟨OrderedMap.get_insertEach_of_mem ∅ apart (assigned _ (List.mem_cons_self ..)),
    OrderedMap.get_insertEach_of_mem ∅ apart
      (assigned _ (List.mem_cons_of_mem _ (List.mem_cons_self ..)))⟩

/-- The fields of an entity read its type, by id and as a list. -/
def ReadsOwnType (store : Store δ) (subgraph : SubgraphId) (entities : List SubgraphEntity)
    (e : SubgraphEntity) : Prop :=
  ∀ args,
    executeRootField store subgraph entities e.queryName args =
      some (.entity (store.subgraphEntityById subgraph e.name args.id)) ∧
    executeRootField store subgraph entities (e.queryName ++ "s") args =
      some (.entities (store.subgraphEntitiesOfType subgraph e.name args.first))

theorem readsOwnType_of_nodup {entities : List SubgraphEntity}
    (distinct : ((entities.flatMap rootAssignments).map Prod.fst).Nodup) {e : SubgraphEntity}
    (member : e ∈ entities) (store : Store δ) (subgraph : SubgraphId) :
    ReadsOwnType store subgraph entities e := by
  obtain ⟨single, plural⟩ := rootValue_of_nodup distinct member
  intro args
  unfold executeRootField
  rw [single, plural]
  exact ⟨rfl, rfl⟩

/-- The generated schema has two query fields for each entity type, of distinct names, and they
read that type, exactly when the names of the types are apart. -/
theorem query_fields_distinct_iff (document : Document)
    (declared : subgraphEntities document ≠ [])
    (distinct : ((subgraphEntities document).map (·.name)).Nodup)
    (store : Store δ) (subgraph : SubgraphId) :
    (∃ sdl, buildSubgraphSchemaSdl document = .ok sdl ∧
      .objectType (queryType (subgraphEntities document)) ∈ sdl ∧
      (queryType (subgraphEntities document)).fields =
        (subgraphEntities document).flatMap queryFieldsOf ∧
      ((queryType (subgraphEntities document)).fields.map (·.name)).Nodup ∧
      ∀ e ∈ subgraphEntities document,
        ReadsOwnType store subgraph (subgraphEntities document) e) ↔
    NamesApart ((subgraphEntities document).map (·.name)) := by
  have lowered := lowered_subgraphEntities document
  rw [queryType_names _ lowered, queryNames_nodup_iff distinct]
  constructor
  · rintro ⟨sdl, -, -, -, apart, -⟩
    exact apart
  · intro apart
    have built : (subgraphEntities document).isEmpty = false :=
      List.isEmpty_eq_false_iff.mpr declared
    refine ⟨_, by rw [buildSubgraphSchemaSdl, built, if_neg Bool.false_ne_true],
      List.mem_append_right _ (List.mem_singleton_self _), rfl, apart, fun e member => ?_⟩
    refine readsOwnType_of_nodup ?_ member store subgraph
    rw [rootAssignments_keys _ lowered]
    exact (queryNames_nodup_iff distinct).mpr apart

/-! ### A type named as another's plural -/

def entityDefinition (name : String) : Definition :=
  .objectType {
    name
    directives := [{ name := "entity", arguments := [] }]
    fields := [
      { name := "id", arguments := [], type := .nonNull (.named "ID"), directives := [] }] }

theorem query_fields_distinct_iff_bond :
    (∃ sdl, buildSubgraphSchemaSdl [entityDefinition "Bond"] = .ok sdl ∧
      .objectType (queryType (subgraphEntities [entityDefinition "Bond"])) ∈ sdl ∧
      (queryType (subgraphEntities [entityDefinition "Bond"])).fields =
        (subgraphEntities [entityDefinition "Bond"]).flatMap queryFieldsOf ∧
      ((queryType (subgraphEntities [entityDefinition "Bond"])).fields.map (·.name)).Nodup ∧
      ∀ e ∈ subgraphEntities [entityDefinition "Bond"],
        ReadsOwnType movedHolding demoSubgraph (subgraphEntities [entityDefinition "Bond"]) e) ↔
    NamesApart ((subgraphEntities [entityDefinition "Bond"]).map (·.name)) :=
  query_fields_distinct_iff [entityDefinition "Bond"] (by decide +kernel) (by decide +kernel)
    movedHolding demoSubgraph

theorem plural_type_clashes :
    ¬ ∀ document : Document, subgraphEntities document ≠ [] →
      ((subgraphEntities document).map (·.name)).Nodup →
      "Query" ∉ (subgraphEntities document).map (·.name) →
      ((queryType (subgraphEntities document)).fields.map (·.name)).Nodup := by
  intro always
  have clash := always [entityDefinition "Bond", entityDefinition "Bonds"] (by decide +kernel)
    (by decide +kernel) (by decide +kernel)
  revert clash
  decide +kernel

end KasGraph
