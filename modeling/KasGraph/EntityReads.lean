import KasGraph.BlockDispatch
import KasGraph.JsonCanonical

set_option autoImplicit false

/-! The gateway's reads of a subgraph's entity versions: by id, by type, and by the value
of a payload field. -/

namespace KasGraph

open Json (Value)

variable {δ : Type}

/-! ## The reads -/

def defaultFirst : Int := 50

def maxFirst : Int := 1000

def boundedFirst (n : Option Int) : Nat :=
  let v := n.getD defaultFirst
  if v ≤ 0 then defaultFirst.toNat else if v > maxFirst then maxFirst.toNat else v.toNat

/-- The fields a spread copies: an array's elements under their indices. -/
def spreadFields : Value → List (String × Value)
  | .object fields => fields
  | .array items => items.zipIdx.map fun (item, i) => (toString i, item)
  | _ => []

/-- The payload with the entity id under `id`, unless it has an `id` of its own. -/
def mergeEntityPayload (row : EntityVersionRecord) : Value :=
  .ofFields (("id", .string row.entityId) :: spreadFields row.payload)

/-- `DISTINCT ON (entity_id) … ORDER BY entity_id, block_daa_score DESC`, of the rows of one
type: the row of the highest score for each id. The key rules out ties. -/
def distinctOnEntityId (rows : List EntityVersionRecord) : List EntityVersionRecord :=
  rows.filter fun row =>
    !rows.any fun later =>
      later.entityId == row.entityId && decide (row.blockDaaScore < later.blockDaaScore)

/-- `payload->>field`. The database's text of a number, a boolean, an array or an object is
`render`. -/
def payloadText (render : Value → String) (payload : Value) (field : String) : Option String :=
  match payload.get? field with
  | none => none
  | some .null => none
  | some (.string text) => some text
  | some other => some (render other)

namespace Store

variable (store : Store δ) (subgraph : SubgraphId)

def subgraphEntityById (entityType id : String) : Option Value :=
  (store.entityVersions.selectLast fun row =>
    row.subgraph = subgraph && row.entityType == entityType && row.entityId == id).map
      mergeEntityPayload

def subgraphEntitiesOfType (entityType : String) (first : Option Int) : List Value :=
  ((distinctOnEntityId (store.entityVersions.select fun row =>
    row.subgraph = subgraph && row.entityType == entityType)).take (boundedFirst first)).map
      mergeEntityPayload

/-- The versions of a type, current or not, that have a value in a field. -/
def matchingVersions (render : Value → String) (entityType field value : String) :
    List EntityVersionRecord :=
  store.entityVersions.select fun row =>
    row.subgraph = subgraph && row.entityType == entityType &&
      payloadText render row.payload field == some value

def subgraphEntitiesWhere (render : Value → String) (entityType field value : String) :
    List Value :=
  (distinctOnEntityId (store.matchingVersions subgraph render entityType field value)).map
    mergeEntityPayload

/-- The latest versions of a type that have a value in a field. -/
def currentVersions (render : Value → String) (entityType field value : String) :
    List EntityVersionRecord :=
  (store.snapshotRows subgraph).filter fun row =>
    row.entityType == entityType && payloadText render row.payload field == some value

end Store

/-! ## Latest versions -/

theorem mem_distinctOnEntityId {rows : List EntityVersionRecord} {row : EntityVersionRecord} :
    row ∈ distinctOnEntityId rows ↔ row ∈ rows ∧ ∀ later ∈ rows, later.entityId = row.entityId →
      later.blockDaaScore ≤ row.blockDaaScore := by
  unfold distinctOnEntityId
  rw [List.mem_filter, Bool.not_eq_true', List.any_eq_false]
  refine and_congr_right fun _ => forall₂_congr fun later _ => ?_
  rw [Bool.and_eq_true, beq_iff_eq, decide_eq_true_iff, not_and]
  exact imp_congr_right fun _ => Int64.not_lt

/-- Among rows there is one of the highest score for the id of any of them. -/
theorem exists_distinctOnEntityId {rows : List EntityVersionRecord} {row : EntityVersionRecord}
    (member : row ∈ rows) : ∃ top ∈ distinctOnEntityId rows, top.entityId = row.entityId ∧
      row.blockDaaScore ≤ top.blockDaaScore := by
  obtain ⟨top, listed, highest⟩ := (rows.filter fun other => other.entityId == row.entityId
    ).toFinset.exists_max_image (·.blockDaaScore.toInt)
      ⟨row, List.mem_toFinset.mpr (List.mem_filter.mpr ⟨member, beq_self_eq_true _⟩)⟩
  obtain ⟨inRows, same⟩ := List.mem_filter.mp (List.mem_toFinset.mp listed)
  have bound : ∀ other ∈ rows, other.entityId = row.entityId →
      other.blockDaaScore ≤ top.blockDaaScore := by
    intro other present level
    rw [Int64.le_iff_toInt_le]
    exact highest other
      (List.mem_toFinset.mpr (List.mem_filter.mpr ⟨present, beq_iff_eq.mpr level⟩))
  refine ⟨top, mem_distinctOnEntityId.mpr ⟨inRows, fun later present level => ?_⟩,
    beq_iff_eq.mp same, bound row member rfl⟩
  exact bound later present (level.trans (beq_iff_eq.mp same))

theorem EntityVersionRecord.compare_key {a b : EntityVersionRecord}
    (subgraph : a.subgraph = b.subgraph) (same : a.entity = b.entity) :
    compare a.key b.key = compare a.blockDaaScore b.blockDaaScore := by
  obtain ⟨type, id⟩ := Prod.mk.inj same
  unfold EntityVersionRecord.key
  rw [subgraph, type, id, OrderedMap.compare_pair, OrderedMap.compare_pair,
    OrderedMap.compare_pair]

section Reads

variable {store : Store δ} {subgraph : SubgraphId}

/-- A read by id answers with the latest version. -/
theorem subgraphEntityById_of_latest {row : EntityVersionRecord}
    (latest : row ∈ store.snapshotRows subgraph) :
    store.subgraphEntityById subgraph row.entityType row.entityId =
      some (mergeEntityPayload row) := by
  obtain ⟨stands, own, highest⟩ := (mem_snapshotRows row).mp latest
  unfold Store.subgraphEntityById
  rw [Option.map_eq_some_iff]
  refine ⟨row, (Table.selectLast_eq_some_iff ..).mpr ⟨stands, by simp [own], ?_⟩, rfl⟩
  intro k other found chosen
  have keyed := Table.key_of_find found
  rw [← keyed] at found ⊢
  simp only [Bool.and_eq_true, decide_eq_true_iff, beq_iff_eq] at chosen
  obtain ⟨⟨mine, type⟩, id⟩ := chosen
  have entity : other.entity = row.entity := Prod.ext type id
  have level : other.subgraph = row.subgraph := mine.trans own.symm
  rcases lt_or_eq_of_le (Int64.not_lt.mp (highest other found mine entity)) with below | equal
  · left
    rw [EntityVersionRecord.compare_key level entity]
    exact Std.compare_eq_lt.mpr below
  · right
    exact ((show other.At subgraph row.blockDaaScore from ⟨mine, equal⟩).key_eq_iff
      ⟨own, rfl⟩).mpr entity

/-- A read by id finds nothing where the entity has no version. -/
theorem subgraphEntityById_eq_none_iff {entityType id : String} :
    store.subgraphEntityById subgraph entityType id = none ↔
      ∀ row ∈ store.snapshotRows subgraph, row.entity ≠ (entityType, id) := by
  constructor
  · rintro absent row latest same
    obtain ⟨rfl, rfl⟩ := Prod.mk.inj same
    rw [subgraphEntityById_of_latest latest] at absent
    cases absent
  · intro absent
    unfold Store.subgraphEntityById
    rw [Option.map_eq_none_iff, Option.eq_none_iff_forall_ne_some]
    intro row last
    obtain ⟨stands, chosen, greatest⟩ := (Table.selectLast_eq_some_iff ..).mp last
    simp only [Bool.and_eq_true, decide_eq_true_iff, beq_iff_eq] at chosen
    obtain ⟨⟨own, type⟩, same⟩ := chosen
    refine absent row ((mem_snapshotRows row).mpr ⟨stands, own, ?_⟩) (Prod.ext type same)
    intro later found mine entity above
    have picked := greatest later.key later found (by
      obtain ⟨types, ids⟩ := Prod.mk.inj entity
      simp [mine, types, ids, type, same])
    rw [EntityVersionRecord.compare_key (mine.trans own.symm) entity] at picked
    rcases picked with below | level
    · exact absurd (Std.compare_eq_lt.mp below) (not_lt.mpr above.le)
    · have scores := congrArg (fun key => key.2.2.2) level
      exact absurd (show later.blockDaaScore = row.blockDaaScore from scores) above.ne'

variable {render : Value → String} {entityType field value : String}

theorem mem_matchingVersions {row : EntityVersionRecord} :
    row ∈ store.matchingVersions subgraph render entityType field value ↔
      store.entityVersions.find? row.key = some row ∧ row.subgraph = subgraph ∧
        row.entityType = entityType ∧ payloadText render row.payload field = some value := by
  unfold Store.matchingVersions
  rw [Table.mem_select, Bool.and_eq_true, Bool.and_eq_true, decide_eq_true_iff, beq_iff_eq,
    beq_iff_eq, and_assoc]

theorem mem_currentVersions {row : EntityVersionRecord} :
    row ∈ store.currentVersions subgraph render entityType field value ↔
      row ∈ store.snapshotRows subgraph ∧ row.entityType = entityType ∧
        payloadText render row.payload field = some value := by
  unfold Store.currentVersions
  rw [List.mem_filter, Bool.and_eq_true, beq_iff_eq, beq_iff_eq]

/-- A current match is what the filtered read selects for its entity. -/
theorem current_selected {row : EntityVersionRecord}
    (current : row ∈ store.currentVersions subgraph render entityType field value) :
    row ∈ distinctOnEntityId (store.matchingVersions subgraph render entityType field value) := by
  obtain ⟨latest, type, held⟩ := mem_currentVersions.mp current
  obtain ⟨stands, own, highest⟩ := (mem_snapshotRows row).mp latest
  refine mem_distinctOnEntityId.mpr ⟨mem_matchingVersions.mpr ⟨stands, own, type, held⟩, ?_⟩
  intro later listed same
  obtain ⟨found, mine, types, -⟩ := mem_matchingVersions.mp listed
  exact Int64.not_lt.mp (highest later found mine (Prod.ext (types.trans type.symm) same))

theorem select_nodup (p : EntityVersionRecord → Bool) : (store.entityVersions.select p).Nodup :=
  (store.entityVersions.select_apart p).imp fun apart same => apart (congrArg _ same)

/-- The filtered read selects only latest versions exactly when no entity has a match that its
latest version lost. -/
theorem selected_perm_current_iff :
    (distinctOnEntityId (store.matchingVersions subgraph render entityType field value)).Perm
        (store.currentVersions subgraph render entityType field value) ↔
      ∀ row ∈ store.matchingVersions subgraph render entityType field value,
        ∃ latest ∈ store.currentVersions subgraph render entityType field value,
          latest.entityId = row.entityId := by
  constructor
  · intro perm row matched
    obtain ⟨top, selected, same, -⟩ := exists_distinctOnEntityId matched
    exact ⟨top, perm.mem_iff.mp selected, same⟩
  · intro kept
    refine (List.perm_ext_iff_of_nodup ((select_nodup _).filter _)
      (((select_nodup _).filter _).filter _)).mpr fun row => ⟨fun selected => ?_, current_selected⟩
    obtain ⟨matched, highest⟩ := mem_distinctOnEntityId.mp selected
    obtain ⟨latest, current, same⟩ := kept row matched
    obtain ⟨final, type, held⟩ := mem_currentVersions.mp current
    obtain ⟨stands, own, last⟩ := (mem_snapshotRows latest).mp final
    obtain ⟨found, mine, types, -⟩ := mem_matchingVersions.mp matched
    have entity : row.entity = latest.entity := Prod.ext (types.trans type.symm) same.symm
    have below := highest latest (mem_matchingVersions.mpr ⟨stands, own, type, held⟩) same
    have above := Int64.not_lt.mp (last row found mine entity)
    have level : latest.At subgraph row.blockDaaScore := ⟨own, le_antisymm below above⟩
    have keys : row.key = latest.key :=
      ((show row.At subgraph row.blockDaaScore from ⟨mine, rfl⟩).key_eq_iff level).mpr entity
    have whole : some row = some latest := by rw [← found, keys, stands]
    rw [Option.some.inj whole]
    exact current

end Reads

/-- A derived relation returns the current members, one payload for each entity whose latest
version has the value, exactly when no entity of the type has an earlier version with the value
while its latest has not. -/
theorem derived_relation_current_iff (store : Store δ) (subgraph : SubgraphId)
    (render : Value → String) (entityType field value : String) :
    (store.subgraphEntitiesWhere subgraph render entityType field value).Perm
        ((store.currentVersions subgraph render entityType field value).map mergeEntityPayload) ↔
      ∀ row ∈ store.matchingVersions subgraph render entityType field value,
        ∃ latest ∈ store.currentVersions subgraph render entityType field value,
          latest.entityId = row.entityId := by
  rw [← selected_perm_current_iff]
  unfold Store.subgraphEntitiesWhere
  constructor
  · -- Every current match is selected, so equal lengths leave no room for another.
    intro perm
    have level := perm.length_eq
    rw [List.length_map, List.length_map] at level
    have within : (store.currentVersions subgraph render entityType field value).Subperm
        (distinctOnEntityId (store.matchingVersions subgraph render entityType field value)) :=
      List.subperm_of_subset (((select_nodup _).filter _).filter _) fun row => current_selected
    exact (within.perm_of_length_le level.le).symm
  · exact fun perm => perm.map _

/-! ### A holding that moved on -/

def holdingAt (blockDaaScore : Int64) (bond : String) : EntityVersionRecord where
  subgraph := demoSubgraph
  entityType := "Holding"
  entityId := "h"
  blockDaaScore := blockDaaScore
  payload := .object [("bond", .string bond)]

/-- A store whose one holding was of the bond b and is of the bond c. -/
def movedHolding : Store Unit :=
  { Store.empty ∅ with
    entityVersions := (Table.empty.upsert (holdingAt 1 "b")).upsert (holdingAt 2 "c") }

theorem moved_holding_still_listed :
    ¬ ∀ (store : Store Unit) (subgraph : SubgraphId) (render : Value → String)
        (entityType field value : String),
      (store.subgraphEntitiesWhere subgraph render entityType field value).Perm
        ((store.currentVersions subgraph render entityType field value).map
          mergeEntityPayload) := by
  intro always
  have level := (always movedHolding demoSubgraph (fun _ => "") "Holding" "bond" "b").length_eq
  have listed : (movedHolding.subgraphEntitiesWhere demoSubgraph (fun _ => "") "Holding" "bond"
      "b").length = 1 := by decide +kernel
  have current : (movedHolding.currentVersions demoSubgraph (fun _ => "") "Holding" "bond"
      "b").length = 0 := by decide +kernel
  rw [List.length_map, listed, current] at level
  cases level

end KasGraph
