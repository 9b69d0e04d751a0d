import KasGraph.OrderedMap
import KasGraph.Json

set_option autoImplicit false

/-! Proof of indexing: a keyed hash chained over the canonical bytes of each
block, and the replay that verifies a published chain. -/

namespace KasGraph

open Json (Value FloatText)

/-- The digest of a chain: its zero seed, and the 256-bit hash of a prior digest
followed by bytes. -/
structure PoiHasher (δ : Type) where
  seed : δ
  keyed : δ → List UInt8 → δ

inductive PoiError where
  | emptyEntityBytes
  | invalidHex
  deriving DecidableEq, Repr

structure CanonicalEntity where
  entityType : String
  entityId : String
  state : Value
  deriving DecidableEq

section Chain

variable {δ : Type} (hasher : PoiHasher δ)

def computePoi (priorPoi : δ) (canonicalEntityBytes : List UInt8) : Except PoiError δ :=
  if canonicalEntityBytes.isEmpty then
    .error .emptyEntityBytes
  else
    .ok (hasher.keyed priorPoi canonicalEntityBytes)

theorem computePoi_eq_ok_iff (prior digest : δ) (bytes : List UInt8) :
    computePoi hasher prior bytes = .ok digest ↔
      bytes ≠ [] ∧ hasher.keyed prior bytes = digest := by
  unfold computePoi
  cases bytes with
  | nil => simp
  | cons b bytes => simp

/-- A checkpoint as a verifier sees it. -/
structure PublishedCheckpoint (δ : Type) where
  canonicalEntityBytes : List UInt8
  expectedPoi : δ

inductive PoiVerification (δ : Type) where
  | valid (finalPoi : δ)
  | diverged (index : Nat) (expected recomputed : δ)
  deriving DecidableEq

def PoiVerification.diverges : PoiVerification δ → Bool
  | .valid _ => false
  | .diverged .. => true

variable [DecidableEq δ]

/-- The loop of the verifier, from checkpoint `index` and the digest before it. -/
def verifyPoiFrom (prior : δ) (index : Nat) :
    List (PublishedCheckpoint δ) → Except PoiError (PoiVerification δ)
  | [] => .ok (.valid prior)
  | cp :: rest => do
      let recomputed ← computePoi hasher prior cp.canonicalEntityBytes
      if recomputed ≠ cp.expectedPoi then
        return .diverged index cp.expectedPoi recomputed
      else
        verifyPoiFrom recomputed (index + 1) rest

def verifyPoiChain (checkpoints : List (PublishedCheckpoint δ)) :
    Except PoiError (PoiVerification δ) :=
  verifyPoiFrom hasher hasher.seed 0 checkpoints

end Chain

/-! ## Canonical bytes of a block -/

private def toLeBytes (n : UInt32) : List UInt8 :=
  [n.toUInt8, (n >>> 8).toUInt8, (n >>> 16).toUInt8, (n >>> 24).toUInt8]

/-- A field behind its 32-bit length. -/
def pushField (bytes : List UInt8) : List UInt8 :=
  toLeBytes (UInt32.ofNat bytes.length) ++ bytes

/-- The order in which a block's entities are encoded. -/
def CanonicalEntity.le (a b : CanonicalEntity) : Bool :=
  ((compare a.entityType b.entityType).then (compare a.entityId b.entityId)).isLE

def CanonicalEntity.bytes (floats : FloatText) (entity : CanonicalEntity) : List UInt8 :=
  pushField entity.entityType.toUTF8.toList ++ pushField entity.entityId.toUTF8.toList ++
    pushField (Json.canonicalJson floats entity.state)

/-- The entity count and the entities sorted by type and id. -/
def canonicalBlockBytes (floats : FloatText) (entities : List CanonicalEntity) : List UInt8 :=
  toLeBytes (UInt32.ofNat entities.length) ++
    (entities.insertionSort fun a b => a.le b).flatMap (·.bytes floats)

/-! ## What the bytes of a block say -/

/-- What is encoded of an entity: its type, its id and its canonical state. -/
abbrev EncodedEntity := String × String × List UInt8

def CanonicalEntity.encoded (floats : FloatText) (entity : CanonicalEntity) : EncodedEntity :=
  (entity.entityType, entity.entityId, Json.canonicalJson floats entity.state)

namespace EncodedEntity

def frame (encoded : EncodedEntity) : List UInt8 :=
  pushField encoded.1.toUTF8.toList ++ pushField encoded.2.1.toUTF8.toList ++
    pushField encoded.2.2

/-- No field is longer than its length can say. -/
def Fits (encoded : EncodedEntity) : Prop :=
  encoded.1.toUTF8.toList.length < 2 ^ 32 ∧ encoded.2.1.toUTF8.toList.length < 2 ^ 32 ∧
    encoded.2.2.length < 2 ^ 32

end EncodedEntity

/-- The encoded entities of a block, in the order of its bytes. -/
def encodedBlock (floats : FloatText) (entities : List CanonicalEntity) : List EncodedEntity :=
  (entities.insertionSort fun a b => a.le b).map (·.encoded floats)

theorem canonicalBlockBytes_eq (floats : FloatText) (entities : List CanonicalEntity) :
    canonicalBlockBytes floats entities =
      toLeBytes (UInt32.ofNat (encodedBlock floats entities).length) ++
        (encodedBlock floats entities).flatMap EncodedEntity.frame := by
  unfold canonicalBlockBytes encodedBlock
  rw [List.length_map, List.length_insertionSort, List.flatMap_map]
  rfl

private theorem toLeBytes_injective {a b : UInt32} (same : toLeBytes a = toLeBytes b) : a = b := by
  simp only [toLeBytes, List.cons.injEq, and_true] at same
  obtain ⟨first, second, third, fourth⟩ := same
  have h0 := congrArg UInt8.toNat first
  have h1 := congrArg UInt8.toNat second
  have h2 := congrArg UInt8.toNat third
  have h3 := congrArg UInt8.toNat fourth
  simp only [UInt32.toNat_toUInt8, UInt32.toNat_shiftRight, Nat.shiftRight_eq_div_pow] at h0 h1 h2 h3
  have ha := a.toNat_lt
  have hb := b.toNat_lt
  apply UInt32.toNat_inj.mp
  simp at h1 h2 h3
  omega

private theorem ofNat_injective {m n : Nat} (hm : m < 2 ^ 32) (hn : n < 2 ^ 32)
    (same : UInt32.ofNat m = UInt32.ofNat n) : m = n := by
  have counts := congrArg UInt32.toNat same
  rwa [UInt32.toNat_ofNat_of_lt' hm, UInt32.toNat_ofNat_of_lt' hn] at counts

/-- A field can be cut off the front again while its length fits. -/
theorem pushField_append_inj {a b x y : List UInt8} (ha : a.length < 2 ^ 32)
    (hb : b.length < 2 ^ 32) (same : pushField a ++ x = pushField b ++ y) : a = b ∧ x = y := by
  unfold pushField at same
  rw [List.append_assoc, List.append_assoc] at same
  obtain ⟨header, rest⟩ := List.append_inj same rfl
  have level := ofNat_injective ha hb (toLeBytes_injective header)
  exact List.append_inj rest level

namespace EncodedEntity

theorem frame_append_inj {a b : EncodedEntity} {x y : List UInt8} (ha : a.Fits) (hb : b.Fits)
    (same : a.frame ++ x = b.frame ++ y) : a = b ∧ x = y := by
  unfold frame at same
  rw [List.append_assoc, List.append_assoc, List.append_assoc, List.append_assoc] at same
  obtain ⟨types, afterType⟩ := pushField_append_inj ha.1 hb.1 same
  obtain ⟨ids, afterId⟩ := pushField_append_inj ha.2.1 hb.2.1 afterType
  obtain ⟨states, rest⟩ := pushField_append_inj ha.2.2 hb.2.2 afterId
  have types := Json.toUTF8_toList_injective types
  have ids := Json.toUTF8_toList_injective ids
  exact ⟨Prod.ext types (Prod.ext ids states), rest⟩

theorem frame_ne_nil (encoded : EncodedEntity) : encoded.frame ≠ [] := by
  simp [frame, pushField, toLeBytes]

/-- Frames are read off one by one: those of one list begin those of another only when the
list itself begins the other. -/
theorem flatMap_frame_within {as bs : List EncodedEntity} {rest : List UInt8}
    (ha : ∀ a ∈ as, a.Fits) (hb : ∀ b ∈ bs, b.Fits)
    (same : as.flatMap frame ++ rest = bs.flatMap frame) :
    ∃ more, bs = as ++ more ∧ rest = more.flatMap frame := by
  induction as generalizing bs with
  | nil => exact ⟨bs, rfl, same⟩
  | cons a as ih =>
      cases bs with
      | nil =>
          rw [List.flatMap_cons, List.flatMap_nil, List.append_assoc] at same
          exact absurd (List.append_eq_nil_iff.mp same).1 a.frame_ne_nil
      | cons b bs =>
          rw [List.flatMap_cons, List.flatMap_cons, List.append_assoc] at same
          obtain ⟨rfl, tails⟩ := frame_append_inj (ha a (List.mem_cons_self ..))
            (hb b (List.mem_cons_self ..)) same
          obtain ⟨more, rfl, left⟩ := ih
            (fun other member => ha other (List.mem_cons_of_mem _ member))
            (fun other member => hb other (List.mem_cons_of_mem _ member)) tails
          exact ⟨more, rfl, left⟩

end EncodedEntity

theorem encodedBlock_length (floats : FloatText) (entities : List CanonicalEntity) :
    (encodedBlock floats entities).length = entities.length := by
  rw [encodedBlock, List.length_map, List.length_insertionSort]

/-- While every field fits its prefix, the bytes of one block begin those of another only when
what it encodes begins what the other does, under the same count. -/
theorem encodedBlock_of_within {floats : FloatText} {first second : List CanonicalEntity}
    (firstFits : ∀ entity ∈ first, (entity.encoded floats).Fits)
    (secondFits : ∀ entity ∈ second, (entity.encoded floats).Fits) {rest : List UInt8}
    (within : canonicalBlockBytes floats first ++ rest = canonicalBlockBytes floats second) :
    first.length % 2 ^ 32 = second.length % 2 ^ 32 ∧
      ∃ more, encodedBlock floats second = encodedBlock floats first ++ more ∧
        rest = more.flatMap EncodedEntity.frame := by
  have fit : ∀ entities : List CanonicalEntity,
      (∀ entity ∈ entities, (entity.encoded floats).Fits) →
        ∀ encoded ∈ encodedBlock floats entities, encoded.Fits := by
    intro entities each encoded member
    obtain ⟨entity, sorted, rfl⟩ := List.mem_map.mp member
    exact each entity ((List.mem_insertionSort _).mp sorted)
  rw [canonicalBlockBytes_eq, canonicalBlockBytes_eq, List.append_assoc] at within
  obtain ⟨header, frames⟩ := List.append_inj within rfl
  have counts := congrArg UInt32.toNat (toLeBytes_injective header)
  rw [UInt32.toNat_ofNat', UInt32.toNat_ofNat', encodedBlock_length, encodedBlock_length] at counts
  exact ⟨counts, EncodedEntity.flatMap_frame_within (fit first firstFits) (fit second secondFits)
    frames⟩

/-- While every field fits its prefix, the bytes of a block determine what was encoded. -/
theorem canonicalBlockBytes_inj {floats : FloatText} {first second : List CanonicalEntity}
    (firstFits : ∀ entity ∈ first, (entity.encoded floats).Fits)
    (secondFits : ∀ entity ∈ second, (entity.encoded floats).Fits)
    (same : canonicalBlockBytes floats first = canonicalBlockBytes floats second) :
    encodedBlock floats first = encodedBlock floats second := by
  obtain ⟨-, more, extended, left⟩ := encodedBlock_of_within firstFits secondFits
    ((List.append_nil _).trans same)
  cases more with
  | nil => rw [extended, List.append_nil]
  | cons encoded rest =>
      rw [List.flatMap_cons] at left
      exact absurd (List.append_eq_nil_iff.mp left.symm).1 encoded.frame_ne_nil

namespace CanonicalEntity

/-- The order of the encoding, as a comparison. -/
private abbrev order : CanonicalEntity → CanonicalEntity → Ordering :=
  compareLex (compareOn (·.entityType)) (compareOn (·.entityId))

private theorem le_total (a b : CanonicalEntity) : a.le b = true ∨ b.le a = true := by
  have swapped : order a b = (order b a).swap := Std.OrientedCmp.eq_swap
  show (order a b).isLE = true ∨ (order b a).isLE = true
  rw [swapped]
  cases order b a <;> simp

private theorem le_trans {a b c : CanonicalEntity} (first : a.le b = true)
    (second : b.le c = true) : a.le c = true :=
  @Std.TransCmp.isLE_trans _ order _ a b c first second

instance : Std.Total fun a b : CanonicalEntity => a.le b := ⟨le_total⟩

instance : IsTrans CanonicalEntity fun a b => a.le b := ⟨fun _ _ _ => le_trans⟩

/-- Entities that come neither before nor after each other share their type and id. -/
theorem key_of_le {a b : CanonicalEntity} (before : a.le b = true) (after : b.le a = true) :
    a.entityType = b.entityType ∧ a.entityId = b.entityId := by
  have level : order a b = .eq := @Std.OrientedCmp.isLE_antisymm _ order _ a b before after
  unfold order compareLex at level
  rw [Ordering.then_eq_eq] at level
  exact ⟨Std.LawfulEqOrd.eq_of_compare level.1, Std.LawfulEqOrd.eq_of_compare level.2⟩

end CanonicalEntity

theorem encodedBlock_perm (floats : FloatText) (entities : List CanonicalEntity) :
    (encodedBlock floats entities).Perm (entities.map (·.encoded floats)) :=
  (List.perm_insertionSort _ entities).map _

/-- When no two entities of a block share their type and id, another block is encoded alike
exactly when it has the same entities, in any order. -/
theorem encodedBlock_eq_iff {floats : FloatText} {first second : List CanonicalEntity}
    (apart : (second.map fun e => (e.entityType, e.entityId)).Nodup) :
    encodedBlock floats first = encodedBlock floats second ↔
      (first.map (·.encoded floats)).Perm (second.map (·.encoded floats)) := by
  constructor
  · intro same
    have sorted := encodedBlock_perm floats first
    rw [same] at sorted
    exact sorted.symm.trans (encodedBlock_perm floats second)
  · intro perm
    have alike : (encodedBlock floats first).Perm (encodedBlock floats second) :=
      (encodedBlock_perm floats first).trans (perm.trans (encodedBlock_perm floats second).symm)
    have ordered : ∀ entities : List CanonicalEntity, (encodedBlock floats entities).Pairwise
        fun x y => ((compare x.1 y.1).then (compare x.2.1 y.2.1)).isLE = true := by
      intro entities
      unfold encodedBlock
      rw [List.pairwise_map]
      exact List.pairwise_insertionSort (fun a b : CanonicalEntity => a.le b) entities
    apply List.Perm.eq_of_pairwise _ (ordered first) (ordered second) alike
    intro x y inFirst inSecond before after
    have moved := (encodedBlock_perm floats second).mem_iff.mp (alike.mem_iff.mp inFirst)
    have held := (encodedBlock_perm floats second).mem_iff.mp inSecond
    obtain ⟨a, listed, rfl⟩ := List.mem_map.mp moved
    obtain ⟨b, also, rfl⟩ := List.mem_map.mp held
    obtain ⟨sameType, sameId⟩ := CanonicalEntity.key_of_le (a := a) (b := b) before after
    have same := List.inj_on_of_nodup_map apart listed also (Prod.ext sameType sameId)
    rw [same]

theorem canonicalBlockBytes_ne_nil (floats : FloatText) (entities : List CanonicalEntity) :
    canonicalBlockBytes floats entities ≠ [] := by
  simp [canonicalBlockBytes, toLeBytes]

end KasGraph
