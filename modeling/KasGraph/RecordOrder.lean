import KasGraph.MappingHost
import KasGraph.SortedFrames

set_option autoImplicit false

/-! The order in which a block's records are collected. The encoding sorts them by type and
id; two records of one type and id keep the order they came in. -/

namespace KasGraph

open Json (FloatText)

section Entities

variable {floats : FloatText} {entities : List CanonicalEntity}

/-- Every order of collection gives the same bytes. -/
def OrderIrrelevant (floats : FloatText) (entities : List CanonicalEntity) : Prop :=
  ∀ collected : List CanonicalEntity, collected.Perm entities →
    canonicalBlockBytes floats collected = canonicalBlockBytes floats entities

def CanonicalEntity.SameKey (a b : CanonicalEntity) : Prop :=
  a.entityType = b.entityType ∧ a.entityId = b.entityId

/-- Entities of one type and id have one canonical state. -/
def OneStateEach (floats : FloatText) (entities : List CanonicalEntity) : Prop :=
  ∀ a ∈ entities, ∀ b ∈ entities, a.SameKey b →
    Json.canonicalJson floats a.state = Json.canonicalJson floats b.state

/-- The frames of entities of one type and id commute. -/
def FramesCommute (floats : FloatText) (entities : List CanonicalEntity) : Prop :=
  ∀ a ∈ entities, ∀ b ∈ entities, a.SameKey b →
    a.bytes floats ++ b.bytes floats = b.bytes floats ++ a.bytes floats

theorem CanonicalEntity.le_of_sameKey {a b : CanonicalEntity} (same : a.SameKey b) :
    a.le b = true := by
  unfold CanonicalEntity.le
  rw [same.1, same.2, Std.compare_self, Std.compare_self]
  rfl

theorem CanonicalEntity.sameKey_iff {a b : CanonicalEntity} :
    a.SameKey b ↔ a.le b = true ∧ b.le a = true :=
  ⟨fun same => ⟨le_of_sameKey same, le_of_sameKey ⟨same.1.symm, same.2.symm⟩⟩,
    fun order => key_of_le order.1 order.2⟩

theorem orderIrrelevant_iff_commute : OrderIrrelevant floats entities ↔
    FramesCommute floats entities := by
  have frames := SortedFrames.orderFree_iff (r := fun a b : CanonicalEntity => a.le b = true)
    (·.bytes floats) entities
  have bytes : OrderIrrelevant floats entities ↔
      SortedFrames.OrderFree (fun a b : CanonicalEntity => a.le b = true) (·.bytes floats)
        entities := by
    refine forall_congr' fun collected => forall_congr' fun perm => ?_
    unfold canonicalBlockBytes SortedFrames.written
    rw [perm.length_eq, List.append_cancel_left_eq]
  rw [bytes, frames]
  unfold FramesCommute SortedFrames.Commute
  simp only [CanonicalEntity.sameKey_iff, and_imp]

/-- Frames that fit their prefixes commute only when they are the same. -/
theorem framesCommute_iff_oneStateEach
    (fits : ∀ entity ∈ entities, (entity.encoded floats).Fits) :
    FramesCommute floats entities ↔ OneStateEach floats entities := by
  refine forall_congr' fun a => forall_congr' fun inA => forall_congr' fun b =>
    forall_congr' fun inB => forall_congr' fun same => ⟨fun commute => ?_, fun state => ?_⟩
  · have encoded := (EncodedEntity.frame_append_inj (fits a inA) (fits b inB) commute).1
    exact congrArg (fun e : EncodedEntity => e.2.2) encoded
  · have bytes : a.bytes floats = b.bytes floats := by
      unfold CanonicalEntity.bytes
      rw [same.1, same.2, state]
    rw [bytes]

end Entities

/-! ## Records -/

/-- The entity a record is encoded as. -/
def EntityVersionRecord.canonical (record : EntityVersionRecord) : CanonicalEntity where
  entityType := record.entityType
  entityId := record.entityId
  state := record.payload

/-- Entities collected in another order are the records collected in another order. -/
theorem exists_records_of_perm {records : List EntityVersionRecord}
    {collected : List CanonicalEntity} (perm : collected.Perm (records.map (·.canonical))) :
    ∃ reordered : List EntityVersionRecord, reordered.Perm records ∧
      collected = reordered.map (·.canonical) := by
  have paired : List.Forall₂ (fun (entity : CanonicalEntity) (record : EntityVersionRecord) =>
      entity = record.canonical) (records.map (·.canonical)) records := by
    rw [List.forall₂_map_left_iff]
    exact List.forall₂_same.mpr fun _ _ => rfl
  obtain ⟨reordered, matched, reorder⟩ := List.perm_comp_forall₂ perm paired
  refine ⟨reordered, reorder, ?_⟩
  rw [← List.forall₂_eq_eq_eq, List.forall₂_map_right_iff]
  exact matched

theorem orderIrrelevant_records {floats : FloatText} {records : List EntityVersionRecord} :
    (∀ reordered : List EntityVersionRecord, reordered.Perm records →
      canonicalBytesForEntities floats reordered = canonicalBytesForEntities floats records) ↔
      OrderIrrelevant floats (records.map (·.canonical)) := by
  constructor
  · intro same collected perm
    obtain ⟨reordered, reorder, rfl⟩ := exists_records_of_perm perm
    exact same reordered reorder
  · intro same reordered perm
    exact same (reordered.map (·.canonical)) (perm.map _)

/-- The order in which a block's records are collected is irrelevant to its bytes exactly
when the frames of records of one type and id commute: for frames that fit their length
prefixes, when such records have one canonical state. -/
theorem canonical_bytes_order_irrelevant (floats : FloatText)
    (records : List EntityVersionRecord) :
    ((∀ reordered : List EntityVersionRecord, reordered.Perm records →
        canonicalBytesForEntities floats reordered = canonicalBytesForEntities floats records) ↔
      FramesCommute floats (records.map (·.canonical))) ∧
    ((∀ entity ∈ records.map (·.canonical), (entity.encoded floats).Fits) →
      ((∀ reordered : List EntityVersionRecord, reordered.Perm records →
          canonicalBytesForEntities floats reordered = canonicalBytesForEntities floats records) ↔
        OneStateEach floats (records.map (·.canonical)))) := by
  rw [orderIrrelevant_records, orderIrrelevant_iff_commute]
  exact ⟨Iff.rfl, framesCommute_iff_oneStateEach⟩

theorem bonds_allowed : allowedSchemaName "bonds" = true := by decide +kernel

/-- A bond as one hit of a block leaves it. -/
def bondRecord (amount : String) : EntityVersionRecord where
  subgraph := ⟨"bonds", bonds_allowed⟩
  entityType := "Bond"
  entityId := "b1"
  blockDaaScore := 10
  payload := .object [("amount", .string amount)]

theorem rewritten_record_keeps_order :
    ¬ ∀ (floats : FloatText) (records reordered : List EntityVersionRecord),
      reordered.Perm records →
        canonicalBytesForEntities floats reordered = canonicalBytesForEntities floats records := by
  intro always
  have free := orderIrrelevant_records.mp
    (always (fun _ => "0") [bondRecord "10", bondRecord "20"])
  have fits : ∀ entity ∈ [bondRecord "10", bondRecord "20"].map (·.canonical),
      (entity.encoded fun _ => "0").Fits := by
    unfold EncodedEntity.Fits
    decide +kernel
  have states := (framesCommute_iff_oneStateEach fits).mp (orderIrrelevant_iff_commute.mp free)
  have one := states (bondRecord "10").canonical (by simp) (bondRecord "20").canonical (by simp)
    ⟨rfl, rfl⟩
  exact absurd one (by decide +kernel)

end KasGraph
