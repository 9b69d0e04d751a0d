import KasGraph.BlockEffect
import KasGraph.NodeRun

set_option autoImplicit false

/-! The covenant id of a hit, as its consumers are handed it. The rows of a hit carry the
id it was assigned; its event on the stream and the event its handler runs on are built
from the hit itself, which has none. -/

namespace KasGraph

open EffectProgram
open Json (Value)

variable {δ : Type}

/-! ## The id a consumer sees -/

def StreamEvent.covenantId (event : StreamEvent) : Option String :=
  (event.payload.get? "covenant_id").bind Value.asStr?

def MappingEvent.covenantId (event : MappingEvent) : Option String :=
  (event.payload.get? "covenantId").bind Value.asStr?

/-- The covenant id an operation carries, for the operations that carry one. -/
def NodeOp.covenantIdOf : NodeOp δ → Option (Option String)
  | .insertDetectedPattern record => some record.covenantId
  | .publish event => some event.covenantId
  | .trackCovenantUtxo record => some record.covenantId
  | .upsertCovenantLineageHead head => some (some head.covenantId)
  | .insertCovenantLineageRow row => some (some row.covenantId)
  | _ => none

/-- The events a hit hands to the mapping. -/
def lockedEvents (mapping : Option LoadedMapping) (block : BootstrapBlock)
    (hit : DetectedPattern) : List MappingEvent :=
  match mapping with
  | none => []
  | some loaded =>
      (loaded.descriptor.resolveHandler hit.kind.debug eventCovenantLocked).toList.map
        (lockedMappingEvent hit block.daaScore.toUInt64 block.hash)

theorem lockedEvents_of_resolved {loaded : LoadedMapping} {hit : DetectedPattern} {handler : String}
    (resolved : loaded.descriptor.resolveHandler hit.kind.debug eventCovenantLocked = some handler)
    (block : BootstrapBlock) : lockedEvents (some loaded) block hit =
      [lockedMappingEvent hit block.daaScore.toUInt64 block.hash handler] := by
  simp only [lockedEvents, resolved, Option.toList_some, List.map_cons, List.map_nil]

theorem lockedEvents_of_unbound {loaded : LoadedMapping} {hit : DetectedPattern}
    (unbound : loaded.descriptor.resolveHandler hit.kind.debug eventCovenantLocked = none)
    (block : BootstrapBlock) : lockedEvents (some loaded) block hit = [] := by
  simp only [lockedEvents, unbound, Option.toList_none, List.map_nil]

/-- The records a mapping answers to an event: none when its handler fails. -/
def LoadedMapping.answers (loaded : LoadedMapping) (daaScore : Int64) (snapshot : EntitySnapshot)
    (event : MappingEvent) : List EntityVersionRecord :=
  match loaded.runtime event snapshot with
  | .ok outcome => entityVersionsOf outcome loaded.subgraph daaScore
  | .error _ => []

/-- A hit's records are what the mapping answers to its events. -/
theorem dispatchCommittedHit_eq (loaded : LoadedMapping) (block : BootstrapBlock)
    (snapshot : EntitySnapshot) (hit : DetectedPattern) :
    loaded.dispatchCommittedHit block.daaScore.toUInt64 block.hash snapshot hit =
      (lockedEvents (some loaded) block hit).flatMap (loaded.answers block.daaScore snapshot) := by
  unfold LoadedMapping.dispatchCommittedHit
  cases resolved : loaded.descriptor.resolveHandler hit.kind.debug eventCovenantLocked with
  | none => rw [lockedEvents_of_unbound resolved, List.flatMap_nil]
  | some handler =>
      rw [lockedEvents_of_resolved resolved, List.flatMap_singleton]
      simp only [dispatchLockedHit, bind, Except.bind, pure, Except.pure, LoadedMapping.answers]
      cases loaded.runtime (lockedMappingEvent hit block.daaScore.toUInt64 block.hash handler)
          snapshot with
      | ok outcome => rw [Int64.toInt64_toUInt64]
      | error cause => rfl

/-- A request carries the id, if it carries one. -/
def Carries (id : Option String) (request : Request δ) : Prop :=
  ∀ carried, request.op.covenantIdOf = some carried → carried = id

section Hit

variable (indexer : Indexer δ) (subgraph : SubgraphId) (mapping : Option LoadedMapping)
  (block : BootstrapBlock) (hit : DetectedPattern)

/-- Everything a hit is persisted, published and dispatched with carries one covenant id. -/
def OneCovenantId (backend : Backend δ) : Prop :=
  ∃ id : Option String,
    (∀ request ∈ trace exec (persistHit indexer subgraph mapping block hit) backend,
      Carries id request) ∧
    ∀ event ∈ lockedEvents mapping block hit, event.covenantId = id

/-- The hit came out of a detector. -/
structure DetectedPattern.Plain : Prop where
  unassigned : hit.covenantId = none
  unnamed : hit.payload.get? "covenantId" = none

variable {hit}

theorem DetectedPattern.Plain.hitEvent (plain : hit.Plain) :
    (hitEvent block hit).covenantId = none := by
  unfold StreamEvent.covenantId KasGraph.hitEvent
  rw [plain.unassigned, Value.get?_ofFields_of_absent]
  · rfl
  · simp only [Option.toList_none, List.map_nil, List.append_nil, List.map_append, List.map_cons]
    decide

theorem DetectedPattern.Plain.lockedEvents (plain : hit.Plain) {event : MappingEvent}
    (handed : event ∈ lockedEvents mapping block hit) : event.covenantId = none := by
  unfold KasGraph.lockedEvents at handed
  cases mapping with
  | none => cases handed
  | some loaded =>
      obtain ⟨handler, -, rfl⟩ := List.mem_map.mp handed
      have payload : lockedPayload hit = hit.payload := by
        unfold lockedPayload
        rw [plain.unassigned]
      change ((lockedPayload hit).get? "covenantId").bind Value.asStr? = none
      rw [payload, plain.unnamed]
      rfl

/-! ## What a hit is persisted with -/

theorem perform_silent {context : String} {op : NodeOp δ} {id : Option String}
    (silent : op.covenantIdOf = none) :
    Within (Carries id) (fun _ => True) (perform context op) :=
  ⟨fun _ present => absurd (silent.symm.trans present) nofun, fun _ => trivial⟩

theorem perform_carries {context : String} {op : NodeOp δ} {id carried : Option String}
    (present : op.covenantIdOf = some carried) (same : carried = id) :
    Within (Carries id) (fun _ => True) (perform context op) :=
  ⟨fun _ found => (Option.some.inj (present.symm.trans found)).symm.trans same,
    fun _ => trivial⟩

/-- Without a mapping everything carries the id of the hit: none. -/
theorem persistHit_unmapped_carries (plain : hit.Plain) :
    Within (Carries (δ := δ) none) (fun _ => True) (persistHit indexer subgraph none block hit) := by
  unfold persistHit publishHitToStream
  apply Within.bind (perform_carries rfl plain.unassigned)
  intro _ _
  split
  · exact perform_carries rfl (plain.hitEvent block)
  · exact Within.pure trivial

/-- The lookups of a classification carry no id. -/
theorem classifyLineage_carries (id : Option String) (blake2b : List UInt8 → List UInt8)
    (inputs : List IngestedTransactionInput) :
    Within (Carries (δ := δ) id) (fun _ => True) (classifyLineage blake2b subgraph hit inputs) := by
  unfold classifyLineage
  apply Within.bind (Within.findSomeM? fun input _ => ?_)
  · intro _ _
    exact Within.pure trivial
  · split
    · exact Within.pure trivial
    · apply Within.bind (perform_silent rfl)
      intro _ _
      exact Within.pure trivial

theorem persistLineage_carries (floats : Json.FloatText) (lineage : LineageClass)
    (daaScore : Int64) : Within (Carries (δ := δ) (some lineage.covenantId)) (fun _ => True)
      (persistLineage floats subgraph hit lineage daaScore) := by
  unfold persistLineage
  apply Within.bind (perform_silent rfl)
  intro recorded _
  split
  · exact Within.pure trivial
  · apply Within.bind (perform_silent rfl)
    intro _ _
    apply Within.bind (perform_carries rfl rfl)
    intro _ _
    exact perform_carries rfl rfl

theorem mem_trace_request (context : String) (op : NodeOp δ) (backend : Backend δ) :
    ⟨context, op⟩ ∈ trace exec (perform context op) backend := by
  rw [trace_request]
  exact List.mem_singleton_self _

section Mapped

variable {indexer} {subgraph} {block} {loaded : LoadedMapping} {backend after : Backend δ}

/-- With a mapping the pattern of a hit carries an id. -/
theorem persistHit_mapped_assigns
    (ran : run exec (persistHit indexer subgraph (some loaded) block hit) backend = (.ok (), after)) :
    ∃ id, ∃ request ∈ trace exec (persistHit indexer subgraph (some loaded) block hit) backend,
      request.op.covenantIdOf = some (some id) := by
  obtain ⟨lineage, middle, classified, -⟩ := (run_bind_ok_iff exec _ _ _ _ _).mp ran
  exact ⟨lineage.covenantId, _, mem_trace_bind_of_ok exec classified
    (mem_trace_bind exec (mem_trace_request _ _ _) _), rfl⟩

/-- With a stream the event of a hit is published as it stands. -/
theorem persistHit_mapped_publishes (streams : indexer.stream = true)
    (ran : run exec (persistHit indexer subgraph (some loaded) block hit) backend = (.ok (), after)) :
    ∃ request ∈ trace exec (persistHit indexer subgraph (some loaded) block hit) backend,
      request.op.covenantIdOf = some (hitEvent block hit).covenantId := by
  obtain ⟨lineage, middle, classified, -⟩ := (run_bind_ok_iff exec _ _ _ _ _).mp ran
  have published : publishHitToStream (δ := δ) indexer.stream block hit =
      perform "" (.publish (hitEvent block hit)) := if_pos streams
  refine ⟨⟨"", .publish (hitEvent block hit)⟩, mem_trace_bind_of_ok exec classified
    (mem_trace_bind_of_ok exec (run_request _ _ _) (mem_trace_bind exec ?_ _)), rfl⟩
  rw [published]
  exact mem_trace_request _ _ _

/-- Without a stream everything carries the id that the hit is assigned. -/
theorem persistHit_mapped_carries (quiet : indexer.stream = false)
    (ran : run exec (persistHit indexer subgraph (some loaded) block hit) backend = (.ok (), after)) :
    ∃ id, ∀ request ∈ trace exec (persistHit indexer subgraph (some loaded) block hit) backend,
      Carries (some id) request := by
  obtain ⟨lineage, middle, classified, -⟩ := (run_bind_ok_iff exec _ _ _ _ _).mp ran
  refine ⟨lineage.covenantId, fun request performed => ?_⟩
  unfold persistHit at performed
  rw [trace_bind_of_ok exec classified, List.mem_append] at performed
  rcases performed with lookup | rest
  · exact trace_within exec (classifyLineage_carries subgraph _ _ _) backend request lookup
  · refine trace_within exec (?_ : Within _ (fun _ => True) _) middle request rest
    apply Within.bind (perform_carries rfl rfl)
    intro _ _
    apply Within.bind (?_ : Within _ (fun _ => True) _)
    · intro _ _
      apply Within.bind (perform_carries rfl rfl)
      intro _ _
      exact persistLineage_carries subgraph _ lineage _
    · unfold publishHitToStream
      rw [quiet]
      exact Within.pure trivial

end Mapped

end Hit

/-- A hit of a delivered block is handed on with one covenant id exactly when no mapping is
loaded, or its event is neither published nor dispatched. -/
theorem one_covenant_id_iff {indexer : Indexer δ}
    (unnamed : ∀ entry ∈ indexer.toolkit.registry, "covenantId" ∉ entry.matcher.fields)
    {subgraph : SubgraphId} {mapping : Option LoadedMapping} {delivered : IngestedBlock}
    {hit : DetectedPattern}
    (detected : hit ∈ (blockFromRpc indexer.toolkit delivered).detectorHits)
    {backend after : Backend δ}
    (ran : run exec (persistHit indexer subgraph mapping (blockFromRpc indexer.toolkit delivered) hit)
      backend = (.ok (), after)) :
    OneCovenantId indexer subgraph mapping (blockFromRpc indexer.toolkit delivered) hit backend ↔
      ∀ loaded, mapping = some loaded → indexer.stream = false ∧
        loaded.descriptor.resolveHandler hit.kind.debug eventCovenantLocked = none := by
  obtain ⟨unassigned, absent⟩ := blockFromRpc_plain indexer.toolkit detected unnamed
  have plain : hit.Plain := ⟨unassigned, absent⟩
  cases mapping with
  | none =>
      refine iff_of_true ⟨none, ?_, fun event handed => absurd handed List.not_mem_nil⟩
        fun loaded same => absurd same (Option.some_ne_none loaded).symm
      exact trace_within exec (persistHit_unmapped_carries indexer subgraph _ plain) backend
  | some loaded =>
      constructor
      · rintro ⟨id, carried, handed⟩ other same
        obtain rfl := Option.some.inj same
        obtain ⟨own, row, performed, present⟩ := persistHit_mapped_assigns ran
        have assigned : some own = id := carried row performed _ present
        constructor
        · rw [← Bool.not_eq_true]
          intro streams
          obtain ⟨request, published, event⟩ := persistHit_mapped_publishes streams ran
          have bare := carried request published _ event
          rw [plain.hitEvent, ← assigned] at bare
          cases bare
        · by_contra bound
          obtain ⟨handler, resolved⟩ := Option.ne_none_iff_exists'.mp bound
          have events := lockedEvents_of_resolved resolved (blockFromRpc indexer.toolkit delivered)
          have event := events ▸ List.mem_singleton_self _
          have bare := handed _ event
          rw [plain.lockedEvents _ _ event, ← assigned] at bare
          cases bare
      · intro silent
        obtain ⟨quiet, unbound⟩ := silent loaded rfl
        obtain ⟨id, carried⟩ := persistHit_mapped_carries quiet ran
        refine ⟨some id, carried, fun event handed => ?_⟩
        rw [lockedEvents_of_unbound unbound] at handed
        cases handed

/-! ## One locked output -/

/-- A locked output, and its hit. -/
def lockedBlock : IngestedBlock := htlcBlock "a" 10 "t"

def lockedHit : DetectedPattern where
  kind := .openSilverAtomicSwapHTLC
  covenantId := none
  txHash := "t"
  outputIndex := 0
  payload := payloadToJson (extractWindows opensilverAtomicSwapHtlcFingerprint.bytes
    opensilverAtomicSwapHtlcFingerprint.maskedWindows)

/-- Nothing is published and no handler is bound. -/
theorem one_covenant_id_iff_silent :
    OneCovenantId htlcIndexer demoSubgraph (some silentMapping)
      (blockFromRpc htlcIndexer.toolkit lockedBlock) lockedHit htlcStart.backend := by
  have ran : run exec (persistHit htlcIndexer demoSubgraph (some silentMapping)
      (blockFromRpc htlcIndexer.toolkit lockedBlock) lockedHit) htlcStart.backend = (.ok (), _) :=
    Prod.ext (by decide +kernel) rfl
  refine (one_covenant_id_iff (by decide +kernel) (by decide +kernel) ran).mpr ?_
  intro loaded same
  obtain rfl := Option.some.inj same
  exact ⟨rfl, rfl⟩

/-- A mapping with a handler for the output. -/
def lockMapping : LoadedMapping where
  subgraph := demoSubgraph
  descriptor := ⟨"locks", "locks.wasm", [⟨"locks", "covenant_id", ["OpenSilverAtomicSwapHTLC"], none, [],
    [⟨eventCovenantLocked, "onLocked"⟩]⟩]⟩
  runtime := fun _ _ => .ok ⟨[]⟩

/-- The pattern is stored with an id, and the handler is handed an event without one. -/
theorem handler_sees_no_id :
    lockedHit ∈ (blockFromRpc htlcIndexer.toolkit lockedBlock).detectorHits ∧
      ¬ OneCovenantId htlcIndexer demoSubgraph (some lockMapping)
        (blockFromRpc htlcIndexer.toolkit lockedBlock) lockedHit htlcStart.backend := by
  refine ⟨by decide +kernel, ?_⟩
  rintro ⟨id, carried, handed⟩
  have stored : (trace exec (persistHit htlcIndexer demoSubgraph (some lockMapping)
      (blockFromRpc htlcIndexer.toolkit lockedBlock) lockedHit) htlcStart.backend).any
      (fun request => request.op.covenantIdOf.any Option.isSome) = true := by decide +kernel
  have bare : (lockedEvents (some lockMapping) (blockFromRpc htlcIndexer.toolkit lockedBlock)
      lockedHit).any (fun event => event.covenantId.isNone) = true := by decide +kernel
  obtain ⟨request, performed, present⟩ := List.any_eq_true.mp stored
  obtain ⟨own, found, isSome⟩ := (Option.any_eq_true _ _).mp present
  obtain ⟨event, dispatched, isNone⟩ := List.any_eq_true.mp bare
  rw [carried request performed own found, ← handed event dispatched] at isSome
  rw [Option.isNone_iff_eq_none.mp isNone] at isSome
  cases isSome

end KasGraph
