import KasGraph.JsonCanonical
import KasGraph.Poi

set_option autoImplicit false

/-! The canonical bytes of a block as an encoding of its entities: in any order, and of
each state up to the order of keys. -/

namespace KasGraph

open Json (FloatText Value)

/-- The same type and id, and the same state up to the order of keys. -/
def CanonicalEntity.Same (a b : CanonicalEntity) : Prop :=
  a.entityType = b.entityType ∧ a.entityId = b.entityId ∧ a.state.Same b.state

def SameEntries (first second : List CanonicalEntity) : Prop :=
  (∀ a ∈ first, ∃ b ∈ second, a.Same b) ∧ ∀ b ∈ second, ∃ a ∈ first, a.Same b

/-- Entities of distinct type and id, whose fields fit their length prefixes. -/
structure Encodable (floats : FloatText) (entities : List CanonicalEntity) : Prop where
  keysApart : (entities.map fun e => (e.entityType, e.entityId)).Nodup
  fits : ∀ entity ∈ entities, (entity.encoded floats).Fits
  /-- A map holds one value for a key. -/
  distinctKeys : ∀ entity ∈ entities, entity.state.DistinctKeys

/-- What the serializer prints of the entities: their canonical states. -/
def canonicalStates (entities : List CanonicalEntity) : Set Value :=
  {value | ∃ entity ∈ entities, value = Json.canonicalizeValue entity.state}

section Encoding

variable {floats : FloatText} {first second : List CanonicalEntity}

theorem Encodable.encoded_nodup (encodable : Encodable floats first) :
    (first.map (·.encoded floats)).Nodup := by
  have keys := encodable.keysApart
  rw [List.Nodup, List.pairwise_map] at keys ⊢
  refine keys.imp fun apart same => apart ?_
  simp only [CanonicalEntity.encoded, Prod.mk.injEq] at same
  exact Prod.ext same.1 same.2.1

/-- Where printing tells the canonical states apart, entities are encoded alike exactly when
they are the same. -/
theorem encoded_eq_iff_same (left : Encodable floats first) (right : Encodable floats second)
    (printing : Set.InjOn (Json.toVec floats) (canonicalStates (first ++ second)))
    {a b : CanonicalEntity} (inFirst : a ∈ first) (inSecond : b ∈ second) :
    a.encoded floats = b.encoded floats ↔ a.Same b := by
  have states : Json.canonicalJson floats a.state = Json.canonicalJson floats b.state ↔
      a.state.Same b.state := by
    rw [← Value.canonicalizeValue_eq_iff (left.distinctKeys a inFirst)
      (right.distinctKeys b inSecond)]
    exact printing.eq_iff ⟨a, List.mem_append_left _ inFirst, rfl⟩
      ⟨b, List.mem_append_right _ inSecond, rfl⟩
  unfold CanonicalEntity.encoded CanonicalEntity.Same
  rw [Prod.mk.injEq, Prod.mk.injEq, states]

theorem encoded_perm_iff_sameEntries (left : Encodable floats first)
    (right : Encodable floats second)
    (printing : Set.InjOn (Json.toVec floats) (canonicalStates (first ++ second))) :
    (first.map (·.encoded floats)).Perm (second.map (·.encoded floats)) ↔
      SameEntries first second := by
  rw [List.perm_ext_iff_of_nodup left.encoded_nodup right.encoded_nodup]
  constructor
  · intro members
    constructor
    · intro a inFirst
      obtain ⟨b, inSecond, same⟩ :=
        List.mem_map.mp ((members _).mp (List.mem_map_of_mem inFirst))
      exact ⟨b, inSecond, (encoded_eq_iff_same left right printing inFirst inSecond).mp same.symm⟩
    · intro b inSecond
      obtain ⟨a, inFirst, same⟩ :=
        List.mem_map.mp ((members _).mpr (List.mem_map_of_mem inSecond))
      exact ⟨a, inFirst, (encoded_eq_iff_same left right printing inFirst inSecond).mp same⟩
  · rintro ⟨forth, back⟩ encoded
    constructor
    · intro member
      obtain ⟨a, inFirst, rfl⟩ := List.mem_map.mp member
      obtain ⟨b, inSecond, same⟩ := forth a inFirst
      exact List.mem_map.mpr
        ⟨b, inSecond, ((encoded_eq_iff_same left right printing inFirst inSecond).mpr same).symm⟩
    · intro member
      obtain ⟨b, inSecond, rfl⟩ := List.mem_map.mp member
      obtain ⟨a, inFirst, same⟩ := back b inSecond
      exact List.mem_map.mpr
        ⟨a, inFirst, (encoded_eq_iff_same left right printing inFirst inSecond).mpr same⟩

end Encoding

/-- The bytes of two blocks are equal exactly when their entries are the same. The bytes of one
are no proper prefix of the other's, unless the 32-bit count does not tell their lengths apart. -/
theorem canonical_bytes_faithful (floats : FloatText) (first second : List CanonicalEntity)
    (left : Encodable floats first) (right : Encodable floats second)
    (printing : Set.InjOn (Json.toVec floats) (canonicalStates (first ++ second))) :
    (canonicalBlockBytes floats first = canonicalBlockBytes floats second ↔
      SameEntries first second) ∧
    ((first.length % 2 ^ 32 = second.length % 2 ^ 32 → first.length = second.length) →
      canonicalBlockBytes floats first <+: canonicalBlockBytes floats second →
        canonicalBlockBytes floats first = canonicalBlockBytes floats second) := by
  constructor
  · rw [← encoded_perm_iff_sameEntries left right printing, ← encodedBlock_eq_iff right.keysApart]
    constructor
    · exact canonicalBlockBytes_inj left.fits right.fits
    · intro same
      rw [canonicalBlockBytes_eq, canonicalBlockBytes_eq, same]
  · rintro counted ⟨rest, within⟩
    obtain ⟨counts, more, extended, left⟩ := encodedBlock_of_within left.fits right.fits within
    have level := congrArg List.length extended
    rw [List.length_append, encodedBlock_length, encodedBlock_length] at level
    have none : more = [] := List.length_eq_zero_iff.mp (by have := counted counts; omega)
    rw [none, List.flatMap_nil] at left
    rw [← within, left, List.append_nil]

/-! ### Two entities -/

def bondEntity : CanonicalEntity where
  entityType := "Bond"
  entityId := "b"
  state := .object [("a", .null), ("z", .bool true)]

/-- The same bond with its keys in another order. -/
def turnedBond : CanonicalEntity where
  entityType := "Bond"
  entityId := "b"
  state := .object [("z", .bool true), ("a", .null)]

theorem encodable_single {floats : FloatText} {entity : CanonicalEntity}
    (fits : (entity.encoded floats).Fits) (distinct : entity.state.DistinctKeys) :
    Encodable floats [entity] where
  keysApart := List.nodup_singleton _
  fits := by simpa using fits
  distinctKeys := by simpa using distinct

theorem canonical_bytes_faithful_turned :
    (canonicalBlockBytes (fun _ => "0") [bondEntity] =
        canonicalBlockBytes (fun _ => "0") [turnedBond] ↔
      SameEntries [bondEntity] [turnedBond]) ∧
    (([bondEntity].length % 2 ^ 32 = [turnedBond].length % 2 ^ 32 →
        [bondEntity].length = [turnedBond].length) →
      canonicalBlockBytes (fun _ => "0") [bondEntity] <+:
          canonicalBlockBytes (fun _ => "0") [turnedBond] →
        canonicalBlockBytes (fun _ => "0") [bondEntity] =
          canonicalBlockBytes (fun _ => "0") [turnedBond]) := by
  refine canonical_bytes_faithful (fun _ => "0") [bondEntity] [turnedBond]
    (encodable_single ?_ ?_) (encodable_single ?_ ?_) ?_
  · unfold EncodedEntity.Fits
    decide +kernel
  · simp [bondEntity, Value.DistinctKeys, Value.DistinctKeysFields]
  · unfold EncodedEntity.Fits
    decide +kernel
  · simp [turnedBond, Value.DistinctKeys, Value.DistinctKeysFields]
  · have one : ∀ value ∈ canonicalStates ([bondEntity] ++ [turnedBond]),
        value = Json.canonicalizeValue bondEntity.state := by
      rintro value ⟨entity, member, rfl⟩
      rcases List.mem_cons.mp member with rfl | later
      · rfl
      · rw [List.mem_singleton.mp later]
        decide +kernel
    intro a inA b inB _
    rw [one a inA, one b inB]

/-- As many entities as the count prefix has values. -/
def manyEntities : List CanonicalEntity :=
  (List.range (2 ^ 32)).map fun i => { entityType := "", entityId := toString i, state := .null }

theorem manyEntities_encodable : Encodable (fun _ => "0") manyEntities where
  keysApart := by
    unfold manyEntities
    rw [List.map_map]
    refine List.nodup_range.map fun i j same => ?_
    exact Nat.repr_inj.mp (Prod.mk.inj same).2
  fits := by
    intro entity member
    obtain ⟨i, within, rfl⟩ := List.mem_map.mp member
    have digits : (toString i).length ≤ 10 :=
      Nat.repr_length i 10 (by omega) (by have := List.mem_range.mp within; omega)
    have bytes := Json.toUTF8_toList_length_le (toString i)
    have small : (toString i).toUTF8.toList.length < 2 ^ 32 := by omega
    have rest : (Json.canonicalJson (fun _ => "0") .null).length < 2 ^ 32 := by decide +kernel
    have typed : "".toUTF8.toList.length < 2 ^ 32 := by decide +kernel
    exact ⟨typed, small, rest⟩
  distinctKeys := by
    intro entity member
    obtain ⟨i, -, rfl⟩ := List.mem_map.mp member
    trivial

/-- Their count is encoded as none, so that the empty block's bytes begin theirs. -/
theorem count_wraps :
    ¬ ∀ (floats : FloatText) (first second : List CanonicalEntity), Encodable floats first →
      Encodable floats second →
      Set.InjOn (Json.toVec floats) (canonicalStates (first ++ second)) →
      (canonicalBlockBytes floats first = canonicalBlockBytes floats second ↔
        SameEntries first second) ∧
      (canonicalBlockBytes floats first <+: canonicalBlockBytes floats second →
        canonicalBlockBytes floats first = canonicalBlockBytes floats second) := by
  intro always
  have empty : Encodable (fun _ => "0") [] := ⟨List.nodup_nil, nofun, nofun⟩
  have printing : Set.InjOn (Json.toVec fun _ => "0") (canonicalStates ([] ++ manyEntities)) := by
    have one : ∀ value ∈ canonicalStates ([] ++ manyEntities), value = .null := by
      rintro value ⟨entity, member, rfl⟩
      rw [List.nil_append, manyEntities] at member
      obtain ⟨i, -, rfl⟩ := List.mem_map.mp member
      rfl
    intro a inA b inB _
    rw [one a inA, one b inB]
  obtain ⟨alike, whole⟩ := always (fun _ => "0") [] manyEntities empty manyEntities_encodable
    printing
  have count : (encodedBlock (fun _ => "0") manyEntities).length = 2 ^ 32 := by
    rw [encodedBlock_length, manyEntities, List.length_map, List.length_range]
  have begins : canonicalBlockBytes (fun _ => "0") [] <+:
      canonicalBlockBytes (fun _ => "0") manyEntities := by
    rw [canonicalBlockBytes_eq, canonicalBlockBytes_eq, count]
    exact List.prefix_append ..
  obtain ⟨-, back⟩ := alike.mp (whole begins)
  have member : ⟨"", toString 0, .null⟩ ∈ manyEntities :=
    List.mem_map.mpr ⟨0, List.mem_range.mpr (by omega), rfl⟩
  obtain ⟨entity, none, -⟩ := back _ member
  cases none

end KasGraph
