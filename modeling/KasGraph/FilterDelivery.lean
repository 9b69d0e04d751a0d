import KasGraph.StreamFilter
import KasGraph.StreamPublication
import KasGraph.HandedEvents
import KasGraph.DeliveredBlocks
import KasGraph.Fingerprints

set_option autoImplicit false

/-! Which subscribers receive a committed hit. Filters look at the top level of an event's
payload, where the publisher puts only the outpoint of the hit; what a detector found is one
level below, and the covenant id is assigned after the event is built from the hit. -/

namespace KasGraph

open EffectProgram
open Json (Value)

variable {δ : Type}

/-! ## Committed hits -/

/-- A hit of a delivered block that the node persisted, with a hub attached. -/
structure CommittedHit (indexer : Indexer δ) where
  subgraph : SubgraphId
  mapping : Option LoadedMapping
  block : BootstrapBlock
  hit : DetectedPattern
  backend : Backend δ
  after : Backend δ
  streams : indexer.stream = true
  delivered : block.Delivered indexer.toolkit
  detected : hit ∈ block.detectorHits
  ran : run exec (persistHit indexer subgraph mapping block hit) backend = (.ok (), after)

namespace CommittedHit

variable {indexer : Indexer δ}

/-- The event published for the hit. -/
def event (committed : CommittedHit indexer) : StreamEvent :=
  hitEvent committed.block committed.hit

/-- The covenant id of the hit: with a mapping, the one its lineage gives it. -/
def assigned (committed : CommittedHit indexer) : Option String :=
  match committed.mapping with
  | none => committed.hit.covenantId
  | some _ =>
      (run exec (classifyLineage indexer.toolkit.blake2b committed.subgraph committed.hit
        committed.block.inputs) committed.backend).1.toOption.map (·.covenantId)

/-- What a filter asks for, of the hit itself. -/
def satisfies (committed : CommittedHit indexer) : StreamFilter → Bool
  | .all => true
  | .covenantId id => committed.assigned == some id
  | .openSilverPattern pattern => committed.hit.kind.debug == pattern
  | .krc20Ticker ticker => payloadString committed.hit.payload "tick" == some ticker
  | .address addr =>
      addressFields.any fun key => payloadString committed.hit.payload key == some addr

def satisfiesAny (filters : List StreamFilter) (committed : CommittedHit indexer) : Bool :=
  filters.any committed.satisfies

theorem unassigned (committed : CommittedHit indexer) : committed.hit.covenantId = none := by
  obtain ⟨delivered, flag, block⟩ := committed.delivered
  have detected := committed.detected
  rw [block] at detected
  obtain ⟨output, -, found⟩ := List.mem_flatMap.mp detected
  obtain ⟨entry, -, emitted⟩ := List.mem_filterMap.mp found
  obtain ⟨payload, -, hit⟩ := Option.map_eq_some_iff.mp emitted
  rw [← hit]

/-- Persisting the hit publishes its event. -/
theorem publishes (committed : CommittedHit indexer) :
    committed.after.published = committed.backend.published ++ [committed.event] :=
  persistHit_publishes committed.streams committed.hit _ _ _ committed.ran

/-- The pattern of the hit is stored with the id it is assigned. -/
theorem stores_assigned (committed : CommittedHit indexer) :
    ∃ request ∈ trace exec (persistHit indexer committed.subgraph committed.mapping committed.block
        committed.hit) committed.backend,
      request.op = .insertDetectedPattern (detectedPatternOf committed.subgraph committed.block
        committed.hit committed.assigned) := by
  obtain ⟨subgraph, mapping, block, hit, backend, after, streams, delivered, detected, ran⟩ :=
    committed
  cases mapping with
  | none => exact ⟨_, mem_trace_bind exec (mem_trace_request _ _ _) _, rfl⟩
  | some loaded =>
      obtain ⟨lineage, middle, classified, -⟩ := (run_bind_ok_iff exec _ _ _ _ _).mp ran
      refine ⟨_, mem_trace_bind_of_ok exec classified
        (mem_trace_bind exec (mem_trace_request _ _ _) _), ?_⟩
      simp only [assigned, classified, Except.toOption, Option.map_some]

/-! ## What the event shows of the hit -/

/-- The payload of the event has no string but the transaction at its top level. -/
theorem event_payload_absent (committed : CommittedHit indexer) {key : String}
    (absent : key ∉ ["tx_hash", "output_index", "detector_payload"]) :
    payloadString committed.event.payload key = none := by
  unfold payloadString event hitEvent
  rw [committed.unassigned, Value.get?_ofFields_of_absent]
  · rfl
  · simpa only [Option.toList_none, List.map_nil, List.append_nil, List.map_append, List.map_cons,
      List.cons_append, List.nil_append] using absent

theorem string_event_absent (committed : CommittedHit indexer) {key : String}
    (absent : key ∉ ["tx_hash", "output_index", "detector_payload"]) (text : String) :
    (payloadString committed.event.payload key == some text) = false := by
  rw [committed.event_payload_absent absent]
  rfl

end CommittedHit

/-- The filters that look at no field of the payload. -/
def StreamFilter.isBroad : StreamFilter → Bool
  | .all | .openSilverPattern _ => true
  | .covenantId _ | .krc20Ticker _ | .address _ => false

namespace CommittedHit

variable {indexer : Indexer δ}

/-- The event of a hit matches the broad filters that the hit satisfies, and no others. -/
theorem eventMatches_event (committed : CommittedHit indexer) (filter : StreamFilter) :
    eventMatches committed.event filter = (filter.isBroad && committed.satisfies filter) := by
  cases filter with
  | all => rfl
  | openSilverPattern pattern => exact (Bool.true_and _).symm
  | covenantId id => exact committed.string_event_absent (by decide) id
  | krc20Ticker ticker => exact committed.string_event_absent (by decide) ticker
  | address addr =>
      refine List.any_eq_false.mpr fun key listed => Bool.not_eq_true _ ▸ ?_
      refine committed.string_event_absent ?_ addr
      revert key
      decide

theorem eventMatchesAny_event (filters : List StreamFilter) (committed : CommittedHit indexer) :
    eventMatchesAny filters committed.event =
      filters.any fun filter => filter.isBroad && committed.satisfies filter :=
  congrArg filters.any (funext committed.eventMatches_event)

/-- The event of a hit and the hit agree on a filter exactly when the hit does not satisfy it or
it is broad. -/
theorem agrees_iff (committed : CommittedHit indexer) (filter : StreamFilter) :
    (eventMatches committed.event filter = true ↔ committed.satisfies filter = true) ↔
      (committed.satisfies filter = true → filter.isBroad = true) := by
  rw [committed.eventMatches_event, Bool.and_eq_true]
  constructor
  · exact fun agree held => (agree.mpr held).1
  · exact fun broad => ⟨And.right, fun held => ⟨broad held, held⟩⟩

end CommittedHit

/-! ## What a subscriber receives of the hits -/

/-- A stronger test selects the same as a weaker one exactly when no item passes the weaker one
alone. -/
theorem map_filter_eq_iff {α β : Type} (image : α → β) {items : List α} {strong weak : α → Bool}
    (implies : ∀ item, strong item = true → weak item = true) :
    (items.filter strong).map image = (items.filter weak).map image ↔
      ∀ item ∈ items, weak item = true → strong item = true := by
  constructor
  · intro same item member held
    have length : (items.filter strong).length = (items.filter weak).length := by
      simpa only [List.length_map] using congrArg List.length same
    have equal := (List.monotone_filter_right items implies).eq_of_length length
    exact (List.mem_filter.mp (equal ▸ List.mem_filter.mpr ⟨member, held⟩)).2
  · intro agrees
    refine congrArg _ (List.filter_congr fun item member => ?_)
    exact Bool.eq_iff_iff.mpr ⟨implies item, agrees item member⟩

namespace StreamSubscriber

/-- The items published since the subscriber subscribed that it has looked at. -/
def lookedAt {α : Type} (subscriber : StreamSubscriber) (published : List α) : List α :=
  published.take (published.length - subscriber.subscription.rx.waiting.length)

variable {subscriber : StreamSubscriber} {published : List StreamEvent}

theorem Sound.received_eq (sound : subscriber.Sound published)
    (unlagged : subscriber.lagged = false) :
    subscriber.received = (subscriber.lookedAt (published.drop subscriber.since)).filter
      (eventMatchesAny subscriber.subscription.filters) := by
  obtain ⟨read, split, received⟩ := sound.delivers unlagged
  have looked : subscriber.lookedAt (published.drop subscriber.since) = read := by
    rw [lookedAt, split, List.length_append, Nat.add_sub_cancel, List.take_left]
  rw [looked, received]

theorem Sound.poll_received (sound : subscriber.Sound published)
    (unlagged : subscriber.lagged = false)
    (kept : subscriber.subscription.rx.waiting.length ≤ subscriber.subscription.rx.slots) :
    (poll^[subscriber.subscription.rx.waiting.length] subscriber).received =
      (published.drop subscriber.since).filter
        (eventMatchesAny subscriber.subscription.filters) := by
  obtain ⟨read, split, received⟩ := sound.delivers unlagged
  rw [(poll_drains _ subscriber rfl kept).1, received, split, List.filter_append]

end StreamSubscriber

section Delivery

variable {indexer : Indexer δ} (capacity : Nat) (steps : List HubStep)
  (subscriber : StreamSubscriber) (hits : List (CommittedHit indexer))

/-- A subscriber that was not told of a lag has received exactly the events that match one of its
filters, in order, of all published since it subscribed that it has looked at; if it is not behind,
polling hands it the rest. An event matches a filter as its hit does exactly when the hit does
not satisfy the filter or the filter is broad: so the subscriber has received the hits that
satisfy one of its filters exactly when each of them satisfies a broad one. -/
theorem stream_filters_deliver_iff
    (attached : subscriber ∈ ((StreamHub.new capacity).run steps).subscribers)
    (unlagged : subscriber.lagged = false)
    (published : ((StreamHub.new capacity).run steps).published.drop subscriber.since =
      hits.map (·.event)) :
    let filters := subscriber.subscription.filters
    (subscriber.received =
      ((subscriber.lookedAt hits).map (·.event)).filter (eventMatchesAny filters)) ∧
    (subscriber.subscription.rx.waiting.length ≤ subscriber.subscription.rx.slots →
      (StreamSubscriber.poll^[subscriber.subscription.rx.waiting.length] subscriber).received =
        (hits.map (·.event)).filter (eventMatchesAny filters)) ∧
    (∀ (committed : CommittedHit indexer) (filter : StreamFilter),
      (eventMatches committed.event filter = true ↔ committed.satisfies filter = true) ↔
        (committed.satisfies filter = true → filter.isBroad = true)) ∧
    (subscriber.received =
        ((subscriber.lookedAt hits).filter (CommittedHit.satisfiesAny filters)).map (·.event) ↔
      ∀ committed ∈ subscriber.lookedAt hits, CommittedHit.satisfiesAny filters committed = true →
        CommittedHit.satisfiesAny (filters.filter StreamFilter.isBroad) committed = true) := by
  have sound := StreamHub.run_sound capacity steps subscriber attached
  have received := sound.received_eq unlagged
  have looked : subscriber.lookedAt (hits.map (·.event)) =
      (subscriber.lookedAt hits).map (·.event) := by
    rw [StreamSubscriber.lookedAt, List.length_map, ← List.map_take]
    rfl
  rw [published, looked] at received
  refine ⟨received, fun kept => ?_, fun committed filter => committed.agrees_iff filter, ?_⟩
  · rw [sound.poll_received unlagged kept, published]
  · have broad : (eventMatchesAny subscriber.subscription.filters ∘
          fun committed : CommittedHit indexer => committed.event) =
        CommittedHit.satisfiesAny
          (subscriber.subscription.filters.filter StreamFilter.isBroad) := by
      funext committed
      rw [Function.comp_apply, CommittedHit.eventMatchesAny_event, CommittedHit.satisfiesAny,
        List.any_filter]
    rw [received, List.filter_map, broad]
    refine map_filter_eq_iff _ fun committed held => ?_
    obtain ⟨filter, listed, satisfied⟩ := List.any_eq_true.mp held
    exact List.any_eq_true.mpr ⟨filter, (List.mem_filter.mp listed).1, satisfied⟩

end Delivery

/-! ## One ownable covenant -/

/-- An indexer with a hub, for ownable covenants. -/
def ownableIndexer : Indexer (List (List UInt8)) where
  toolkit := { bareToolkit with
    registry := [⟨.openSilverOwnable, .exact opensilverOwnableFingerprint⟩] }
  hasher := freeHasher
  stream := true

/-- A finalized block that locks an ownable output. -/
def ownableBlock : IngestedBlock :=
  { headerBlock "a" 10 true with
    outputs := [{ txHash := "t", outputIndex := 0, value := 1
                  scriptPublicKey := opensilverOwnableFingerprint.bytes }] }

def ownableHit : DetectedPattern where
  kind := .openSilverOwnable
  covenantId := none
  txHash := "t"
  outputIndex := 0
  payload := payloadToJson (extractWindows opensilverOwnableFingerprint.bytes
    opensilverOwnableFingerprint.maskedWindows)

theorem ownableHit_detected :
    ownableHit ∈ (blockFromRpc ownableIndexer.toolkit ownableBlock).detectorHits := by
  decide +kernel

theorem ownableHit_persisted :
    run exec (persistHit ownableIndexer demoSubgraph (some silentMapping)
        (blockFromRpc ownableIndexer.toolkit ownableBlock) ownableHit) htlcStart.backend =
      (.ok (), (run exec (persistHit ownableIndexer demoSubgraph (some silentMapping)
        (blockFromRpc ownableIndexer.toolkit ownableBlock) ownableHit) htlcStart.backend).2) :=
  Prod.ext (by decide +kernel) rfl

/-- The output is locked under a mapping. -/
def ownableCommit : CommittedHit ownableIndexer where
  subgraph := demoSubgraph
  mapping := some silentMapping
  block := blockFromRpc ownableIndexer.toolkit ownableBlock
  hit := ownableHit
  backend := htlcStart.backend
  after := _
  streams := rfl
  delivered := blockFromRpc_delivered _ _
  detected := ownableHit_detected
  ran := ownableHit_persisted

/-- The key of the owner, in hex. -/
def ownerKey : String :=
  (payloadString ownableHit.payload "owner_pubkey").getD ""

/-- Someone subscribes to the owner's address, and reads when the hit has been published. -/
def ownerSteps : List HubStep :=
  [.subscribe [.address ownerKey], .publish ownableCommit.event, .start 0 .tryRecv, .advance 0]

def ownerSubscriber : StreamSubscriber where
  subscription := ⟨⟨8, [], true⟩, [.address ownerKey]⟩
  call := some .tryRecv
  since := 0
  received := []
  lagged := false

/-- The subscriber has looked at the event, and has not received the hit. -/
theorem stream_filters_deliver_iff_ownable :
    ownerSubscriber.received ≠ ((ownerSubscriber.lookedAt [ownableCommit]).filter
      (CommittedHit.satisfiesAny ownerSubscriber.subscription.filters)).map (·.event) := by
  intro received
  have broad := (stream_filters_deliver_iff 8 ownerSteps ownerSubscriber [ownableCommit]
    (by decide +kernel) rfl rfl).2.2.2.mp received ownableCommit (List.mem_singleton_self _)
      (by decide +kernel)
  cases broad

/-- The hit's payload names the owner, and its event does not match the owner's address. -/
theorem owner_address_unmatched :
    ¬ ∀ (committed : CommittedHit ownableIndexer) (filter : StreamFilter),
      eventMatches committed.event filter = true ↔ committed.satisfies filter = true := by
  intro agree
  have held : ownableCommit.satisfies (.address ownerKey) = true := by decide +kernel
  have matched := (agree ownableCommit (.address ownerKey)).mpr held
  rw [ownableCommit.eventMatches_event] at matched
  cases matched

end KasGraph
