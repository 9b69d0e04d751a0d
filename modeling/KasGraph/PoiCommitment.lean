import KasGraph.BlockEffect

set_option autoImplicit false

/-! What the digest of a block commits to. The bytes hashed encode the records the
hits dispatched; the rows stored at the block's score also come from its spends, and
hold one version of each entity. -/

namespace KasGraph

open EffectProgram

variable {δ : Type}

namespace EntityVersionRecord

def entity (record : EntityVersionRecord) : String × String :=
  (record.entityType, record.entityId)

def encoded (floats : Json.FloatText) (record : EntityVersionRecord) : EncodedEntity :=
  (record.entityType, record.entityId, Json.canonicalJson floats record.payload)

/-- A record of a subgraph's block. -/
def At (subgraph : SubgraphId) (daaScore : Int64) (record : EntityVersionRecord) : Prop :=
  record.subgraph = subgraph ∧ record.blockDaaScore = daaScore

theorem At.key_eq_iff {subgraph : SubgraphId} {daaScore : Int64} {a b : EntityVersionRecord}
    (first : a.At subgraph daaScore) (second : b.At subgraph daaScore) :
    a.key = b.key ↔ a.entity = b.entity := by
  unfold key entity
  rw [first.1, second.1, first.2, second.2]
  simp

theorem At.of_key {subgraph : SubgraphId} {daaScore : Int64} {a b : EntityVersionRecord}
    (placed : b.At subgraph daaScore) (same : a.key = b.key) : a.At subgraph daaScore := by
  simp only [key, Prod.mk.injEq] at same
  obtain ⟨schema, -, -, score⟩ := same
  exact ⟨(SubgraphId.eq_of_schemaName schema).trans placed.1, score.trans placed.2⟩

theorem entity_of_encoded {floats : Json.FloatText} {a b : EntityVersionRecord}
    (same : a.encoded floats = b.encoded floats) : a.entity = b.entity := by
  simp only [encoded, Prod.mk.injEq] at same
  exact Prod.ext same.1 same.2.1

/-- Records of distinct entities are encoded apart. -/
theorem encoded_nodup {floats : Json.FloatText} {records : List EntityVersionRecord}
    (apart : (records.map (·.entity)).Nodup) : (records.map (·.encoded floats)).Nodup := by
  rw [List.Nodup, List.pairwise_map] at apart ⊢
  exact apart.imp fun different same => different (entity_of_encoded same)

end EntityVersionRecord

/-- The entity versions of a subgraph at a score. -/
def entitiesAt (versions : Table EntityVersionRecord.key) (subgraph : SubgraphId)
    (daaScore : Int64) : List EntityVersionRecord :=
  versions.select fun row => row.subgraph = subgraph && row.blockDaaScore == daaScore

/-- The encoded entities of records, in the order of their bytes. -/
def encodedEntities (floats : Json.FloatText) (records : List EntityVersionRecord) :
    List EncodedEntity :=
  encodedBlock floats (records.map fun r =>
    { entityType := r.entityType, entityId := r.entityId, state := r.payload })

/-- Hashing records commits to stored rows: the bytes are theirs, entity by entity. -/
structure PoiCommits (floats : Json.FloatText) (hashed stored : List EntityVersionRecord) :
    Prop where
  bytes : canonicalBytesForEntities floats hashed = canonicalBytesForEntities floats stored
  entities : encodedEntities floats hashed = encodedEntities floats stored

/-- The records the hits of a block dispatch cover what stands at its score before it
and what its spends dispatch. -/
structure Covers (floats : Json.FloatText) (dispatched standing spent : List EntityVersionRecord) :
    Prop where
  once : (dispatched.map (·.entity)).Nodup
  all : ∀ row ∈ standing ++ spent, ∃ record ∈ dispatched, record.entity = row.entity
  /-- The last record the spends dispatch for an entity has the state the hits gave it. -/
  agrees : ∀ record ∈ dispatched, ∀ last,
    ((Table.empty : Table EntityVersionRecord.key).replay spent).find? record.key = some last →
      last.encoded floats = record.encoded floats

/-- A record fits the length prefixes of the encoding. -/
def EntityVersionRecord.Fits (floats : Json.FloatText) (record : EntityVersionRecord) : Prop :=
  (record.encoded floats).Fits

theorem encodedEntities_eq_iff {floats : Json.FloatText} {hashed stored : List EntityVersionRecord}
    (apart : (stored.map (·.entity)).Nodup) :
    encodedEntities floats hashed = encodedEntities floats stored ↔
      (hashed.map (·.encoded floats)).Perm (stored.map (·.encoded floats)) := by
  unfold encodedEntities
  rw [encodedBlock_eq_iff (by rw [List.map_map]; exact apart), List.map_map, List.map_map]
  rfl

theorem PoiCommits.of_entities {floats : Json.FloatText} {hashed stored : List EntityVersionRecord}
    (entities : encodedEntities floats hashed = encodedEntities floats stored) :
    PoiCommits floats hashed stored := by
  refine ⟨?_, entities⟩
  unfold encodedEntities at entities
  unfold canonicalBytesForEntities
  rw [canonicalBlockBytes_eq, canonicalBlockBytes_eq, entities]

/-- While every length fits its prefix, the bytes alone decide what they commit to. -/
theorem PoiCommits.of_bytes {floats : Json.FloatText} {hashed stored : List EntityVersionRecord}
    (hashedFits : ∀ record ∈ hashed, record.Fits floats)
    (storedFits : ∀ record ∈ stored, record.Fits floats)
    (bytes : canonicalBytesForEntities floats hashed = canonicalBytesForEntities floats stored) :
    PoiCommits floats hashed stored := by
  have each : ∀ records : List EntityVersionRecord, (∀ record ∈ records, record.Fits floats) →
      ∀ entity ∈ records.map fun r => CanonicalEntity.mk r.entityType r.entityId r.payload,
        (entity.encoded floats).Fits := by
    intro records fits entity member
    obtain ⟨record, listed, rfl⟩ := List.mem_map.mp member
    exact fits record listed
  exact ⟨bytes, canonicalBlockBytes_inj (each hashed hashedFits) (each stored storedFits) bytes⟩

section Rows

variable {floats : Json.FloatText} {subgraph : SubgraphId} {daaScore : Int64}
  {versions : Table EntityVersionRecord.key} {dispatched spent : List EntityVersionRecord}

theorem mem_entitiesAt (row : EntityVersionRecord) :
    row ∈ entitiesAt versions subgraph daaScore ↔
      versions.find? row.key = some row ∧ row.At subgraph daaScore := by
  unfold entitiesAt EntityVersionRecord.At
  rw [Table.mem_select]
  simp

/-- The rows at one score are of different entities. -/
theorem entitiesAt_apart :
    ((entitiesAt versions subgraph daaScore).map (·.entity)).Nodup := by
  rw [List.Nodup, List.pairwise_map]
  apply (versions.select_apart _).imp_of_mem
  intro a b first second apart same
  have firstAt := ((mem_entitiesAt a).mp first).2
  have secondAt := ((mem_entitiesAt b).mp second).2
  exact apart ((firstAt.key_eq_iff secondAt).mpr same)

variable (dispatchedAt : ∀ record ∈ dispatched, record.At subgraph daaScore)
include dispatchedAt

/-- What stands under the key of a dispatched record, once covered, is encoded like it. -/
theorem Covers.stands (versions : Table EntityVersionRecord.key)
    {standing : List EntityVersionRecord} (covers : Covers floats dispatched standing spent)
    {record : EntityVersionRecord} (member : record ∈ dispatched) :
    ∃ row, (versions.replay (dispatched ++ spent)).find? record.key = some row ∧
      row.encoded floats = record.encoded floats := by
  rw [Table.replay_append, Table.find_replay]
  cases last : ((Table.empty : Table EntityVersionRecord.key).replay spent).find? record.key with
  | some row => exact ⟨row, rfl, covers.agrees record member row last⟩
  | none =>
      have apart : dispatched.Pairwise fun a b => a.key ≠ b.key := by
        have distinct := List.pairwise_map.mp covers.once
        exact distinct.imp_of_mem fun first second different same =>
          different (((dispatchedAt _ first).key_eq_iff (dispatchedAt _ second)).mp same)
      exact ⟨record, Table.find_replay_of_mem versions apart member, rfl⟩

/-- A row at the score after a block is dispatched by its hits, or was there before, or is
dispatched by its spends. -/
theorem Covers.covers_row (covers : Covers floats dispatched
      (entitiesAt versions subgraph daaScore) spent) {row : EntityVersionRecord}
    (found : (versions.replay (dispatched ++ spent)).find? row.key = some row)
    (placed : row.At subgraph daaScore) : ∃ record ∈ dispatched, record.key = row.key := by
  have covered : ∀ other ∈ entitiesAt versions subgraph daaScore ++ spent,
      other.At subgraph daaScore → ∃ record ∈ dispatched, record.key = other.key := by
    intro other member otherAt
    obtain ⟨record, listed, same⟩ := covers.all other member
    exact ⟨record, listed, ((dispatchedAt record listed).key_eq_iff otherAt).mpr same⟩
  rcases Table.find_replay_eq_some found with logged | ⟨stood, -⟩
  · rcases List.mem_append.mp logged with hit | spend
    · exact ⟨row, hit, rfl⟩
    · exact covered row (List.mem_append_right _ spend) placed
  · exact covered row
      (List.mem_append_left _ ((mem_entitiesAt row).mpr ⟨stood, placed⟩)) placed

variable (spentAt : ∀ record ∈ spent, record.At subgraph daaScore)
include spentAt

/-- Hashing what the hits of a block dispatched commits to what is stored at its score
afterwards exactly when the dispatched records cover it. -/
theorem poiCommits_iff_covers :
    PoiCommits floats dispatched
        (entitiesAt (versions.replay (dispatched ++ spent)) subgraph daaScore) ↔
      Covers floats dispatched (entitiesAt versions subgraph daaScore) spent := by
  constructor
  · intro commits
    have perm := (encodedEntities_eq_iff entitiesAt_apart).mp commits.entities
    have once : (dispatched.map (·.entity)).Nodup := by
      have keys := perm.map fun encoded : EncodedEntity => (encoded.1, encoded.2.1)
      rw [List.map_map, List.map_map] at keys
      exact keys.nodup_iff.mpr entitiesAt_apart
    have encoded : ∀ row : EntityVersionRecord, row.At subgraph daaScore →
        (versions.replay (dispatched ++ spent)).find? row.key = some row →
          ∃ record ∈ dispatched, record.encoded floats = row.encoded floats := by
      intro row placed found
      have member := (mem_entitiesAt row).mpr ⟨found, placed⟩
      exact List.mem_map.mp (perm.mem_iff.mpr (List.mem_map_of_mem member))
    refine ⟨once, ?_, ?_⟩
    · intro row member
      have placed : row.At subgraph daaScore := by
        rcases List.mem_append.mp member with before | spend
        · exact ((mem_entitiesAt row).mp before).2
        · exact spentAt row spend
      have standing : ((versions.replay (dispatched ++ spent)).find? row.key).isSome = true := by
        rcases List.mem_append.mp member with before | spend
        · rw [Table.find_replay, ((mem_entitiesAt row).mp before).1]
          cases ((Table.empty : Table EntityVersionRecord.key).replay (dispatched ++ spent)).find?
            row.key <;> rfl
        · exact Table.find_replay_isSome versions (List.mem_append_right _ spend)
      obtain ⟨last, found⟩ := Option.isSome_iff_exists.mp standing
      have level : last.key = row.key := Table.key_of_find found
      have lastAt := placed.of_key level
      obtain ⟨record, listed, same⟩ := encoded last lastAt (level ▸ found)
      have sameKey := ((dispatchedAt record listed).key_eq_iff lastAt).mpr
        (EntityVersionRecord.entity_of_encoded same)
      exact ⟨record, listed,
        ((dispatchedAt record listed).key_eq_iff placed).mp (sameKey.trans level)⟩
    · intro record member last found
      have level : last.key = record.key := Table.key_of_find found
      have stands : (versions.replay (dispatched ++ spent)).find? last.key = some last := by
        rw [level, Table.replay_append, Table.find_replay, found, Option.some_or]
      have lastAt := (dispatchedAt record member).of_key level
      obtain ⟨other, listed, same⟩ := encoded last lastAt stands
      have sameEntity : other.entity = record.entity :=
        (EntityVersionRecord.entity_of_encoded same).trans
          ((lastAt.key_eq_iff (dispatchedAt record member)).mp level)
      rw [← same, List.inj_on_of_nodup_map once listed member sameEntity]
  · intro covers
    apply PoiCommits.of_entities
    rw [encodedEntities_eq_iff entitiesAt_apart,
      List.perm_ext_iff_of_nodup (EntityVersionRecord.encoded_nodup covers.once)
        (EntityVersionRecord.encoded_nodup entitiesAt_apart)]
    intro encoded
    constructor
    · intro member
      obtain ⟨record, listed, rfl⟩ := List.mem_map.mp member
      obtain ⟨row, found, same⟩ := covers.stands dispatchedAt versions listed
      have level : row.key = record.key := Table.key_of_find found
      have placed := (dispatchedAt record listed).of_key level
      rw [← same]
      exact List.mem_map_of_mem ((mem_entitiesAt row).mpr ⟨level ▸ found, placed⟩)
    · intro member
      obtain ⟨row, listed, rfl⟩ := List.mem_map.mp member
      obtain ⟨found, placed⟩ := (mem_entitiesAt row).mp listed
      obtain ⟨record, held, level⟩ := covers.covers_row dispatchedAt found placed
      obtain ⟨other, stood, same⟩ := covers.stands dispatchedAt versions held
      rw [level, found] at stood
      rw [Option.some.inj stood, same]
      exact List.mem_map_of_mem held

end Rows

section Block

variable (indexer : Indexer δ) (subgraph : SubgraphId) (loaded : LoadedMapping)
  (block : BootstrapBlock)

/-- The hits of a block dispatch all that its digest should commit to. -/
def Store.CoveredByHits (store : Store δ) : Prop :=
  Covers indexer.toolkit.floats (store.lockedRecords subgraph loaded block)
    (entitiesAt store.entityVersions subgraph block.daaScore)
    (store.recordsOfSpends indexer subgraph loaded block)

variable {indexer subgraph loaded block}

theorem lockedRecords_at (owned : loaded.subgraph = subgraph) (store : Store δ) :
    ∀ record ∈ store.lockedRecords subgraph loaded block, record.At subgraph block.daaScore := by
  intro record member
  have stamped := dispatchCommittedHits_stamped member
  rw [owned, Int64.toInt64_toUInt64] at stamped
  exact stamped

theorem recordsOfSpends_at (store : Store δ) :
    ∀ record ∈ store.recordsOfSpends indexer subgraph loaded block,
      record.At subgraph block.daaScore := by
  intro record member
  obtain ⟨spend, -, emitted⟩ := List.mem_flatMap.mp member
  exact spendRecords_stamped emitted

end Block

/-- A block with one detector hit, as it is committed. -/
def committedLock : CommittedBlockWrite where
  block := blockFromRpc htlcIndexer.toolkit (htlcBlock "a" 10 "t")

/-- An indexer of the native token, with the captured fingerprint. -/
def kcc20Indexer : Indexer (List (List UInt8)) where
  toolkit := { bareToolkit with registry := [⟨.kcc20Asset, .anchored kcc20AssetFingerprint⟩] }
  hasher := freeHasher
  stream := false

/-- A mapping that records every spend of the token. -/
def spendMapping : LoadedMapping where
  subgraph := demoSubgraph
  descriptor := ⟨"assets", "assets.wasm", [⟨"assets", "covenant_id", ["KCC20Asset"], none, [],
    [⟨eventCovenantSpent, "onSpent"⟩]⟩]⟩
  runtime := fun event _ => .ok ⟨[⟨"Spend", event.blockHash, event.payload⟩]⟩

theorem spendMapping_owned (loaded : LoadedMapping) (same : some spendMapping = some loaded) :
    loaded.subgraph = demoSubgraph := by
  cases same
  rfl

def kcc20Start : NodeState (List (List UInt8)) :=
  .fresh kcc20Indexer demoSubgraph (some spendMapping) spendMapping_owned none ∅

/-- A block that creates a receipt. -/
def receiptBlock : ChainNotification := .blockAdded { headerBlock "a" 10 true with
  outputs := [{ txHash := "t", outputIndex := 0, value := 1
                scriptPublicKey := kcc20AssetFingerprint.head ++ kcc20AssetFingerprint.tail }] }

/-- A block above it that burns the receipt. -/
def burnBlock : ChainNotification := .blockAdded { headerBlock "b" 11 true with
  inputs := [{ spendingTxHash := "u", previousTxHash := "t", previousOutputIndex := 0 }] }

end KasGraph
