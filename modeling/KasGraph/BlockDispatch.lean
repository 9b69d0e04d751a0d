import KasGraph.HandedEvents
import KasGraph.PoiCommitment

set_option autoImplicit false

/-! The handlers of a block. Its hits are dispatched on the entities left by the blocks
before it, its spends on those its hits left, and every write is upserted at one score. -/

namespace KasGraph

open EffectProgram

variable {δ : Type}

/-! ## Snapshots -/

section Snapshot

variable {store other : Store δ} {subgraph : SubgraphId}

theorem mem_snapshotRows (row : EntityVersionRecord) :
    row ∈ store.snapshotRows subgraph ↔
      store.entityVersions.find? row.key = some row ∧ row.subgraph = subgraph ∧
        ∀ later : EntityVersionRecord, store.entityVersions.find? later.key = some later →
          later.subgraph = subgraph → later.entity = row.entity →
            ¬ row.blockDaaScore < later.blockDaaScore := by
  unfold Store.snapshotRows
  rw [List.mem_filter, Table.mem_select, Bool.not_eq_true', ← Bool.not_eq_true,
    Table.any_eq_true_iff, decide_eq_true_iff, and_assoc]
  refine and_congr_right fun _ => and_congr_right fun _ => ?_
  constructor
  · intro highest later present own same above
    obtain ⟨type, id⟩ := Prod.mk.inj same
    exact highest ⟨later, present, by simp [own, type, id, above]⟩
  · rintro highest ⟨later, present, chosen⟩
    simp only [Bool.and_eq_true, decide_eq_true_iff, beq_iff_eq] at chosen
    obtain ⟨⟨⟨own, type⟩, id⟩, above⟩ := chosen
    exact highest later present own (Prod.ext type id) above

/-- Two rows of a snapshot are of different entities. -/
theorem snapshotRows_apart :
    (store.snapshotRows subgraph).Pairwise fun a b => a.entity ≠ b.entity := by
  have keys : (store.snapshotRows subgraph).Pairwise fun a b => a.key ≠ b.key :=
    (store.entityVersions.select_apart _).filter _
  refine keys.imp_of_mem fun {a b} first second apart same => apart ?_
  obtain ⟨firstFound, firstOwn, firstLast⟩ := (mem_snapshotRows a).mp first
  obtain ⟨secondFound, secondOwn, secondLast⟩ := (mem_snapshotRows b).mp second
  have level : a.blockDaaScore = b.blockDaaScore := by
    have below := firstLast b secondFound secondOwn same.symm
    have above := secondLast a firstFound firstOwn same
    exact le_antisymm (not_lt.mp above) (not_lt.mp below)
  have firstAt : a.At subgraph b.blockDaaScore := ⟨firstOwn, level⟩
  exact (firstAt.key_eq_iff ⟨secondOwn, rfl⟩).mpr same

/-- A snapshot holds the latest version of an entity. -/
theorem entitySnapshot_eq_some_iff (entity : String × String) (state : Json.Value) :
    (store.entitySnapshot subgraph)[entity]? = some state ↔
      ∃ row ∈ store.snapshotRows subgraph, row.entity = entity ∧ row.payload = state := by
  have apart : ((store.snapshotRows subgraph).map fun r =>
      ((r.entityType, r.entityId), r.payload)).Pairwise fun a b => a.1 ≠ b.1 :=
    List.pairwise_map.mpr snapshotRows_apart
  have found : ∀ row ∈ store.snapshotRows subgraph,
      (store.entitySnapshot subgraph)[row.entity]? = some row.payload := by
    intro row member
    exact OrderedMap.get_insertEach_of_mem ∅ apart
      (List.mem_map_of_mem (f := fun r : EntityVersionRecord =>
        ((r.entityType, r.entityId), r.payload)) member)
  constructor
  · intro present
    have listed : ∃ row ∈ store.snapshotRows subgraph, row.entity = entity := by
      by_contra missing
      have absent : (store.entitySnapshot subgraph)[entity]? = none := by
        refine (OrderedMap.get_insertEach_eq_none_iff ..).mpr
          ⟨Std.ExtTreeMap.getElem?_empty, fun held member => missing ?_⟩
        obtain ⟨row, rows, same⟩ := List.mem_map.mp member
        exact ⟨row, rows, congrArg Prod.fst same⟩
      exact absurd (absent.symm.trans present) nofun
    obtain ⟨row, rows, rfl⟩ := listed
    exact ⟨row, rows, rfl, Option.some.inj ((found row rows).symm.trans present)⟩
  · rintro ⟨row, rows, rfl, rfl⟩
    exact found row rows

/-- Stores with the same versions of an entity show the same state of it. -/
theorem entitySnapshot_congr {entity : String × String}
    (same : ∀ row : EntityVersionRecord, row.entity = entity →
      (store.entityVersions.find? row.key = some row ↔
        other.entityVersions.find? row.key = some row)) :
    (store.entitySnapshot subgraph)[entity]? = (other.entitySnapshot subgraph)[entity]? := by
  refine Option.ext fun state => ?_
  rw [entitySnapshot_eq_some_iff, entitySnapshot_eq_some_iff]
  have rows : ∀ row : EntityVersionRecord, row.entity = entity →
      (row ∈ store.snapshotRows subgraph ↔ row ∈ other.snapshotRows subgraph) := by
    intro row own
    rw [mem_snapshotRows, mem_snapshotRows, same row own]
    refine and_congr_right fun _ => and_congr_right fun _ => forall_congr' fun later => ?_
    constructor
    · intro highest present placed level
      exact highest ((same later (level.trans own)).mpr present) placed level
    · intro highest present placed level
      exact highest ((same later (level.trans own)).mp present) placed level
  constructor
  · rintro ⟨row, member, own, held⟩
    exact ⟨row, (rows row own).mp member, own, held⟩
  · rintro ⟨row, member, own, held⟩
    exact ⟨row, (rows row own).mpr member, own, held⟩

/-- Writes leave the other entities as they were. -/
theorem entitySnapshot_withEntities {records : List EntityVersionRecord} {entity : String × String}
    (untouched : ∀ record ∈ records, record.entity ≠ entity) :
    ((store.withEntities records).entitySnapshot subgraph)[entity]? =
      (store.entitySnapshot subgraph)[entity]? := by
  refine entitySnapshot_congr fun row own => ?_
  have apart : ∀ record ∈ records, record.key ≠ row.key := by
    intro record member same
    refine untouched record member (Eq.trans ?_ own)
    exact Prod.ext (congrArg (·.2.1) same) (congrArg (·.2.2.1) same)
  change (store.entityVersions.replay records).find? row.key = some row ↔ _
  rw [Table.find_replay_of_untouched _ apart]

end Snapshot

/-! ## Events -/

/-- The events a spend hands to the mapping. -/
def DetectedSpend.events (loaded : LoadedMapping) (block : BootstrapBlock)
    (spend : DetectedSpend) : List MappingEvent :=
  match spend.operation, spend.spent.covenantId with
  | some operation, some covenantId =>
      (loaded.descriptor.resolveHandler spend.spent.detectorKind eventCovenantSpent).toList.map
        (spendMappingEvent
          { covenantId, operation, spentValueSompi := toString spend.spent.valueSompi
            successorCovenantId := spend.successorCovenantId }
          spend.spent.lockedState block.daaScore.toUInt64 block.hash)
  | _, _ => []

/-- A spend's records are what the mapping answers to its events. -/
theorem DetectedSpend.records_eq {loaded : LoadedMapping} {subgraph : SubgraphId}
    (owned : loaded.subgraph = subgraph) (block : BootstrapBlock) (snapshot : EntitySnapshot)
    (spend : DetectedSpend) : spend.records loaded subgraph block snapshot =
      (spend.events loaded block).flatMap (loaded.answers block.daaScore snapshot) := by
  unfold DetectedSpend.records DetectedSpend.events spendRecords
  cases spend.operation with
  | none => rfl
  | some operation =>
      cases spend.spent.covenantId with
      | none => rfl
      | some covenantId =>
          cases resolved : loaded.descriptor.resolveHandler spend.spent.detectorKind
              eventCovenantSpent with
          | none => simp only [Option.toList_none, List.map_nil, List.flatMap_nil]
          | some handler =>
              simp only [Option.toList_some, List.map_cons, List.map_nil,
                List.flatMap_singleton, dispatchSpendHit, bind, Except.bind, pure, Except.pure,
                LoadedMapping.answers]
              split
              · rename_i records answered
                split at answered
                · cases answered
                · rename_i outcome ran
                  rw [← Except.ok.inj answered, ran, owned, Int64.toInt64_toUInt64]
              · rename_i cause failed
                split at failed
                · rename_i ran
                  rw [ran]
                · cases failed

section Block

variable (indexer : Indexer δ) (subgraph : SubgraphId) (loaded : LoadedMapping)
  (block : BootstrapBlock)

/-- The events of the hits of a block, in order. -/
def hitEvents : List MappingEvent := block.detectorHits.flatMap (lockedEvents (some loaded) block)

/-- The events of the spends of a block, in order. -/
def Store.spendEvents (store : Store δ) : List MappingEvent :=
  ((store.beforeSpends indexer subgraph loaded block).spends subgraph block).flatMap
    (·.events loaded block)

/-- What the handlers of events write when all of them read one snapshot. -/
def Store.afterBatch (store : Store δ) (events : List MappingEvent) : Store δ :=
  store.withEntities (events.flatMap (loaded.answers block.daaScore (store.entitySnapshot subgraph)))

/-- A handler reads the entities as they stand. -/
def Store.handle (store : Store δ) (event : MappingEvent) : Store δ :=
  store.withEntities (loaded.answers block.daaScore (store.entitySnapshot subgraph) event)

/-- No handler reads an entity that one before it writes. -/
def Independent (snapshot : EntitySnapshot) (events : List MappingEvent) : Prop :=
  ∃ reads : MappingEvent → Set (String × String),
    (∀ event ∈ events, ∀ other : EntitySnapshot, (∀ entity ∈ reads event,
      other[entity]? = snapshot[entity]?) → loaded.runtime event other = loaded.runtime event snapshot) ∧
    events.Pairwise fun earlier later =>
      ∀ record ∈ loaded.answers block.daaScore snapshot earlier, record.entity ∉ reads later

variable {subgraph} {loaded} {block}

theorem Independent.front {snapshot : EntitySnapshot} {events : List MappingEvent}
    {last : MappingEvent} (independent : Independent loaded block snapshot (events ++ [last])) :
    Independent loaded block snapshot events := by
  obtain ⟨reads, confined, apart⟩ := independent
  exact ⟨reads, fun event member => confined event (List.mem_append_left _ member),
    (List.pairwise_append.mp apart).1⟩

/-- The last handler answers as it would before the others. -/
theorem Independent.last {store : Store δ} {events : List MappingEvent} {last : MappingEvent}
    (independent : Independent loaded block (store.entitySnapshot subgraph) (events ++ [last])) :
    loaded.answers block.daaScore
        ((store.afterBatch subgraph loaded block events).entitySnapshot subgraph) last =
      loaded.answers block.daaScore (store.entitySnapshot subgraph) last := by
  obtain ⟨reads, confined, apart⟩ := independent
  have unwritten := (List.pairwise_append.mp apart).2.2
  have same := confined last (List.mem_append_right _ (List.mem_singleton_self last))
    ((store.afterBatch subgraph loaded block events).entitySnapshot subgraph) ?_
  · unfold LoadedMapping.answers
    rw [same]
  · intro entity read
    refine entitySnapshot_withEntities fun record member written => ?_
    obtain ⟨event, earlier, answered⟩ := List.mem_flatMap.mp member
    exact unwritten event earlier last (List.mem_singleton_self last) record answered
      (written ▸ read)

theorem Store.withEntities_append (store : Store δ) (first second : List EntityVersionRecord) :
    store.withEntities (first ++ second) = (store.withEntities first).withEntities second := by
  unfold Store.withEntities
  rw [Table.replay_append]

/-- Independent handlers write in one batch what they write one after the other. -/
theorem foldl_handle_eq {store : Store δ} {events : List MappingEvent}
    (independent : Independent loaded block (store.entitySnapshot subgraph) events) :
    events.foldl (Store.handle subgraph loaded block) store =
      store.afterBatch subgraph loaded block events := by
  induction events using List.reverseRecOn with
  | nil => rfl
  | append_singleton events last ih =>
      rw [List.foldl_append, ih independent.front]
      change (store.afterBatch subgraph loaded block events).withEntities _ = _
      rw [independent.last]
      unfold Store.afterBatch
      rw [List.flatMap_append, List.flatMap_singleton, Store.withEntities_append]

theorem lockedRecords_eq (store : Store δ) :
    store.lockedRecords subgraph loaded block =
      (hitEvents loaded block).flatMap
        (loaded.answers block.daaScore (store.entitySnapshot subgraph)) := by
  unfold Store.lockedRecords LoadedMapping.dispatchCommittedHits hitEvents
  rw [List.flatMap_assoc]
  exact List.flatMap_congr fun hit _ => dispatchCommittedHit_eq loaded block _ hit

theorem recordsOfSpends_eq (owned : loaded.subgraph = subgraph) (store : Store δ) :
    store.recordsOfSpends indexer subgraph loaded block =
      (store.spendEvents indexer subgraph loaded block).flatMap
        (loaded.answers block.daaScore
          ((store.afterBatch subgraph loaded block (hitEvents loaded block)).entitySnapshot
            subgraph)) := by
  have snapshot : (store.beforeSpends indexer subgraph loaded block).entitySnapshot subgraph =
      (store.afterBatch subgraph loaded block (hitEvents loaded block)).entitySnapshot subgraph := by
    unfold Store.afterBatch
    rw [← lockedRecords_eq]
    rfl
  unfold Store.recordsOfSpends Store.spentRecords Store.spendEvents
  rw [List.flatMap_assoc, snapshot]
  exact List.flatMap_congr fun spend _ => DetectedSpend.records_eq owned block _ spend

/-- The handlers of a block's hits all read the entities left by the blocks before it, those
of its spends the entities left by the hits; their writes are upserted in order. That is
what handling the events one after the other leaves, when no handler reads an entity which
one before it, of its kind, writes. -/
theorem block_dispatches_in_two_batches {indexer : Indexer δ} (owned : loaded.subgraph = subgraph)
    {before after : Backend δ} {dispatched : List EntityVersionRecord}
    (ran : run exec (persistCommittedRows indexer subgraph (some loaded) block) before =
      (.ok dispatched, after)) :
    let hits := hitEvents loaded block
    let spends := before.store.spendEvents indexer subgraph loaded block
    let between := before.store.afterBatch subgraph loaded block hits
    after.store.entityVersions = (between.afterBatch subgraph loaded block spends).entityVersions ∧
      (Independent loaded block (before.store.entitySnapshot subgraph) hits →
        Independent loaded block (between.entitySnapshot subgraph) spends →
        after.store.entityVersions =
          ((hits ++ spends).foldl (Store.handle subgraph loaded block)
            before.store).entityVersions) := by
  intro hits spends between
  have batches : after.store.entityVersions =
      (between.afterBatch subgraph loaded block spends).entityVersions := by
    have left := (Prod.mk.inj
      (persistCommittedRows_computes indexer subgraph block (some loaded) before _ after ran)).2
    have rows : before.store.entityRows indexer subgraph (some loaded) block =
        before.store.lockedRecords subgraph loaded block ++
          before.store.recordsOfSpends indexer subgraph loaded block := rfl
    rw [left, (Store.withBlock_tables indexer subgraph (some loaded) block before.store).2.2.2.1,
      rows, lockedRecords_eq, recordsOfSpends_eq indexer owned, Table.replay_append]
    rfl
  refine ⟨batches, fun hitsApart spendsApart => ?_⟩
  rw [batches, List.foldl_append, foldl_handle_eq hitsApart, foldl_handle_eq spendsApart]

end Block

/-! ## Two locks in one block -/

def twoLocksBlock : BootstrapBlock :=
  blockFromRpc htlcIndexer.toolkit
    { headerBlock "a" 10 true with outputs := [htlcOutput "t", htlcOutput "u"] }

def lockDescriptor : BuildDescriptor where
  name := "locks"
  wasm := "locks.wasm"
  dataSources := [{
    name := "locks"
    kind := "covenant_id"
    patterns := ["OpenSilverAtomicSwapHTLC"]
    collection := none
    addresses := []
    handlers := [⟨eventCovenantLocked, "onLocked"⟩] }]

/-- A mapping that records every lock, without a read. -/
def recordingMapping : LoadedMapping where
  subgraph := demoSubgraph
  descriptor := lockDescriptor
  runtime := fun event _ => .ok ⟨[⟨"Lock", event.blockHash, event.payload⟩]⟩

theorem recordingMapping_independent (snapshot : EntitySnapshot) (events : List MappingEvent) :
    Independent recordingMapping twoLocksBlock snapshot events :=
  ⟨fun _ => ∅, fun _ _ _ _ => rfl, List.pairwise_of_forall fun _ _ _ _ => Set.notMem_empty _⟩

theorem block_dispatches_in_two_batches_recording :
    ∃ dispatched after, run exec (persistCommittedRows htlcIndexer demoSubgraph
        (some recordingMapping) twoLocksBlock) htlcStart.backend = (.ok dispatched, after) ∧
      after.store.entityVersions =
        ((hitEvents recordingMapping twoLocksBlock ++
          htlcStart.store.spendEvents htlcIndexer demoSubgraph recordingMapping twoLocksBlock).foldl
            (Store.handle demoSubgraph recordingMapping twoLocksBlock)
            htlcStart.store).entityVersions := by
  have succeeds : ((run exec (persistCommittedRows htlcIndexer demoSubgraph (some recordingMapping)
      twoLocksBlock) htlcStart.backend).1.toOption).isSome = true := by decide +kernel
  rcases ran : run exec (persistCommittedRows htlcIndexer demoSubgraph (some recordingMapping)
      twoLocksBlock) htlcStart.backend with ⟨cause | dispatched, after⟩
  · rw [ran] at succeeds
    cases succeeds
  · have owned : recordingMapping.subgraph = demoSubgraph := rfl
    exact ⟨dispatched, after, rfl, (block_dispatches_in_two_batches owned ran).2
      (recordingMapping_independent _ _) (recordingMapping_independent _ _)⟩

/-- The locks that a snapshot counts. -/
def countedLocks (snapshot : EntitySnapshot) : UInt64 :=
  match snapshot[("Counter", "locks")]? with
  | some (.number (.posInt n)) => n
  | _ => 0

/-- A mapping that reads a counter and writes it back, one higher. -/
def countingMapping : LoadedMapping where
  subgraph := demoSubgraph
  descriptor := lockDescriptor
  runtime := fun _ snapshot =>
    .ok ⟨[⟨"Counter", "locks", .number (.posInt (countedLocks snapshot + 1))⟩]⟩

/-- Both handlers write the same count, and one of the two locks is lost. -/
theorem second_count_is_lost :
    ∃ dispatched after, run exec (persistCommittedRows htlcIndexer demoSubgraph
        (some countingMapping) twoLocksBlock) htlcStart.backend = (.ok dispatched, after) ∧
      after.store.entityVersions ≠
        ((hitEvents countingMapping twoLocksBlock ++
          htlcStart.store.spendEvents htlcIndexer demoSubgraph countingMapping twoLocksBlock).foldl
            (Store.handle demoSubgraph countingMapping twoLocksBlock)
            htlcStart.store).entityVersions := by
  have succeeds : ((run exec (persistCommittedRows htlcIndexer demoSubgraph (some countingMapping)
      twoLocksBlock) htlcStart.backend).1.toOption).isSome = true := by decide +kernel
  have apart : (run exec (persistCommittedRows htlcIndexer demoSubgraph (some countingMapping)
      twoLocksBlock) htlcStart.backend).2.store.entityVersions.find?
        ("demo", "Counter", "locks", 10) ≠
      ((hitEvents countingMapping twoLocksBlock ++
        htlcStart.store.spendEvents htlcIndexer demoSubgraph countingMapping twoLocksBlock).foldl
          (Store.handle demoSubgraph countingMapping twoLocksBlock)
          htlcStart.store).entityVersions.find? ("demo", "Counter", "locks", 10) := by
    decide +kernel
  rcases ran : run exec (persistCommittedRows htlcIndexer demoSubgraph (some countingMapping)
      twoLocksBlock) htlcStart.backend with ⟨cause | dispatched, after⟩
  · rw [ran] at succeeds
    cases succeeds
  · rw [ran] at apart
    exact ⟨dispatched, after, rfl, fun same => apart (by rw [same])⟩

end KasGraph
