import KasGraph.DeliveredBlocks
import KasGraph.PublishedChain

set_option autoImplicit false

/-! Two indexers of one chain. Without a mapping the digest of a block is taken over its
canonical bytes, and these say who served the block and what the node then said of it. -/

namespace KasGraph

open EffectProgram

variable {δ : Type}

/-! ## What the canonical bytes of a block say -/

/-- Two lists cut at the first occurrence of one element. -/
theorem append_cons_inj_of_first {α : Type} {a : α} {xs ys rest others : List α} (left : a ∉ xs)
    (right : a ∉ ys) (same : xs ++ a :: rest = ys ++ a :: others) : xs = ys ∧ rest = others := by
  rcases List.append_eq_append_iff.mp same with ⟨more, split, tails⟩ | ⟨more, split, tails⟩
  · cases more with
    | nil => simp_all
    | cons b more => simp_all
  · cases more with
    | nil => simp_all
    | cons b more => simp_all

/-- The part of the header that follows the block's score. -/
def reportText (block : IngestedBlock) : String :=
  toString block.blueScore ++ ("::finalized=" ++ (toString block.isFinalized ++
    ("::served_by=" ++ block.servedBy)))

theorem toString_uint64_digits (n : UInt64) : ':' ∉ (toString n).toList := by
  intro member
  have digit : ':' ∈ Nat.toDigits 10 n.toNat := by simpa [toString, Nat.repr] using member
  have isDigit := Nat.isDigit_of_mem_toDigits (by omega) (by omega) digit
  revert isDigit
  decide

theorem toString_uint64_injective {m n : UInt64} (same : toString m = toString n) : m = n := by
  apply UInt64.toNat_inj.mp
  exact Nat.repr_inj.mp same

theorem reportText_inj {block other : IngestedBlock} (same : reportText block = reportText other) :
    block.blueScore = other.blueScore ∧ block.isFinalized = other.isFinalized ∧
      block.servedBy = other.servedBy := by
  have listed := congrArg String.toList same
  unfold reportText at listed
  simp only [String.toList_append] at listed
  have colon : "::finalized=".toList = ':' :: ":finalized=".toList := rfl
  rw [colon, List.cons_append, List.cons_append] at listed
  obtain ⟨blue, rest⟩ := append_cons_inj_of_first (toString_uint64_digits _)
    (toString_uint64_digits _) listed
  have blue := toString_uint64_injective (String.toList_inj.mp blue)
  have flags := List.append_cancel_left rest
  cases left : block.isFinalized <;> cases right : other.isFinalized <;> rw [left, right] at flags
  · exact ⟨blue, rfl, String.toList_inj.mp (List.append_cancel_left (List.append_cancel_left flags))⟩
  · cases flags
  · cases flags
  · exact ⟨blue, rfl, String.toList_inj.mp (List.append_cancel_left (List.append_cancel_left flags))⟩

section Bytes

variable (toolkit : Toolkit)

theorem foldl_detectorRowText (rows : List DetectedPattern) (buffer : String) :
    rows.foldl (fun buffer row => buffer ++ detectorRowText toolkit row) buffer =
      buffer ++ rows.foldl (fun buffer row => buffer ++ detectorRowText toolkit row) "" := by
  induction rows generalizing buffer with
  | nil => simp
  | cons row rows ih =>
      rw [List.foldl_cons, List.foldl_cons, ih, ih ("" ++ detectorRowText toolkit row),
        String.empty_append, String.append_assoc]

/-- The canonical bytes are those of the hash, the score, the report and the sorted rows. -/
theorem canonicalBytesForBlock_eq (block : IngestedBlock) (hits : List DetectedPattern) :
    canonicalBytesForBlock toolkit block hits =
      (("hash=" ++ block.hash ++ "::daa=" ++ toString block.daaScore ++ "::blue=" ++
        reportText block) ++ (hits.insertionSort fun a b => a.le b).foldl
          (fun buffer row => buffer ++ detectorRowText toolkit row) "").toUTF8.toList := by
  apply (congrArg (fun text => text.toUTF8.toList) (foldl_detectorRowText toolkit _ _)).trans
  unfold reportText
  simp only [String.append_assoc]

/-- Blocks with one hash, one score and the same hits have the same canonical bytes exactly
when the node reported the same of them. -/
theorem canonicalBytesForBlock_eq_iff {block other : IngestedBlock} (hits : List DetectedPattern)
    (sameHash : block.hash = other.hash) (sameScore : block.daaScore = other.daaScore) :
    canonicalBytesForBlock toolkit block hits = canonicalBytesForBlock toolkit other hits ↔
      block.blueScore = other.blueScore ∧ block.isFinalized = other.isFinalized ∧
        block.servedBy = other.servedBy := by
  rw [canonicalBytesForBlock_eq, canonicalBytesForBlock_eq, sameHash, sameScore]
  constructor
  · intro same
    have texts := Json.toUTF8_toList_injective same
    rw [String.append_left_inj, String.append_right_inj] at texts
    exact reportText_inj texts
  · rintro ⟨blue, finalized, served⟩
    unfold reportText
    rw [blue, finalized, served]

end Bytes

/-! ## What two runs have in common -/

namespace BootstrapBlock

/-- The blocks are the same on the chain. -/
structure SameOnChain (block other : BootstrapBlock) : Prop where
  hash : block.hash = other.hash
  daaScore : block.daaScore = other.daaScore
  outputs : block.outputs = other.outputs
  inputs : block.inputs = other.inputs
  detectorHits : block.detectorHits = other.detectorHits

/-- The blocks were delivered with the same blue score, the same finality flag and by the
same endpoint. -/
def SameReport (toolkit : Toolkit) (block other : BootstrapBlock) : Prop :=
  ∃ delivered otherDelivered, block.DeliveredAs toolkit delivered ∧
    other.DeliveredAs toolkit otherDelivered ∧
    delivered.blueScore = otherDelivered.blueScore ∧
    delivered.isFinalized = otherDelivered.isFinalized ∧
    delivered.servedBy = otherDelivered.servedBy

/-- Blocks that are the same on the chain are hashed alike exactly when they were reported
alike. -/
theorem SameOnChain.bytes_eq_iff {toolkit : Toolkit} {block other : BootstrapBlock}
    (same : block.SameOnChain other) (known : block.Delivered toolkit)
    (otherKnown : other.Delivered toolkit) :
    block.canonicalEntityBytes = other.canonicalEntityBytes ↔ block.SameReport toolkit other := by
  -- Any two deliveries of the blocks have their hash, score and hits in common.
  have compared : ∀ delivered otherDelivered, block.DeliveredAs toolkit delivered →
      other.DeliveredAs toolkit otherDelivered →
        (block.canonicalEntityBytes = other.canonicalEntityBytes ↔
          delivered.blueScore = otherDelivered.blueScore ∧
            delivered.isFinalized = otherDelivered.isFinalized ∧
            delivered.servedBy = otherDelivered.servedBy) := by
    rintro delivered otherDelivered ⟨flag, rfl⟩ ⟨otherFlag, rfl⟩
    have hits : (blockFromRpc toolkit delivered).detectorHits =
        (blockFromRpc toolkit otherDelivered).detectorHits := same.detectorHits
    have score : delivered.daaScore = otherDelivered.daaScore :=
      congrArg Int64.toUInt64 same.daaScore
    have bytes := canonicalBytesForBlock_eq_iff toolkit
      (blockFromRpc toolkit otherDelivered).detectorHits same.hash score
    rw [← bytes, ← hits]
    show _ = canonicalBytesForBlock toolkit otherDelivered
      (blockFromRpc toolkit otherDelivered).detectorHits ↔ _
    rw [← hits]
    exact Iff.rfl
  constructor
  · intro bytes
    obtain ⟨delivered, form⟩ := known
    obtain ⟨otherDelivered, otherForm⟩ := otherKnown
    exact ⟨delivered, otherDelivered, form, otherForm,
      (compared delivered otherDelivered form otherForm).mp bytes⟩
  · rintro ⟨delivered, otherDelivered, form, otherForm, reported⟩
    exact (compared delivered otherDelivered form otherForm).mpr reported

end BootstrapBlock

/-! ## The chains of a run -/

/-- The digest of blocks chained one over the other. -/
def chainDigest (hasher : PoiHasher δ) (blocks : List BootstrapBlock) : δ :=
  blocks.foldl (fun prior block => hasher.keyed prior block.canonicalEntityBytes) hasher.seed

theorem chainDigest_concat (hasher : PoiHasher δ) (blocks : List BootstrapBlock)
    (block : BootstrapBlock) :
    chainDigest hasher (blocks ++ [block]) =
      hasher.keyed (chainDigest hasher blocks) block.canonicalEntityBytes :=
  List.foldl_append

/-- The blocks under each digest of a run, in the order in which they were committed: those
under the digest in memory, and those under the checkpoint written last at each score. -/
structure Chains where
  current : List BootstrapBlock
  covered : Int64 → List BootstrapBlock

namespace Chains

def start : Chains where
  current := []
  covered := fun _ => []

/-- A block is committed on top of the current chain. -/
def commit (chains : Chains) (block : BootstrapBlock) : Chains where
  current := chains.current ++ [block]
  covered := Function.update chains.covered block.daaScore (chains.current ++ [block])

/-- The digest is reloaded from a checkpoint, or from the seed. -/
def reanchor (chains : Chains) (latest : Option (PoiCheckpoint δ)) : Chains where
  current := (latest.map fun row => chains.covered row.blockDaaScore).getD []
  covered := chains.covered

end Chains

section Chained

variable (indexer : Indexer δ)

/-- The chains a notification leaves: an unwind reloads the digest, then each block is
committed in turn. -/
def NodeState.chainsAfter (state : NodeState δ) (notification : ChainNotification)
    (chains : Chains) : Chains :=
  (state.newlyCommitted indexer notification).foldl Chains.commit
    (if (state.transition indexer notification).committedUnwinds = [] then chains
    else chains.reanchor
      ((state.unwind indexer notification).2.store.latestPoiForSubgraph state.subgraph))

/-- A run with its chains. -/
inductive Chained (initial : NodeState δ) : Chains → NodeState δ → Prop where
  | refl : Chained initial .start initial
  | notify {chains : Chains} {state after : NodeState δ} (notification : ChainNotification)
      (earlier : Chained initial chains state)
      (success : state.notify indexer notification = some after) :
      Chained initial (state.chainsAfter indexer notification chains) after
  | restart {chains : Chains} {state : NodeState δ} (earlier : Chained initial chains state) :
      Chained initial (chains.reanchor (state.store.latestPoiForSubgraph state.subgraph))
        (state.restart indexer)

/-- The digests of a state, each with the blocks under it. -/
inductive NodeState.Publishes (state : NodeState δ) (chains : Chains) :
    List BootstrapBlock → δ → Prop where
  | current : state.Publishes chains chains.current state.ingestion.priorPoi
  | checkpoint (row : PoiCheckpoint δ) (stands : state.store.kasgraphPoi.find? row.key = some row)
      (own : row.subgraph = state.subgraph) :
      state.Publishes chains (chains.covered row.blockDaaScore) row.poiHash

end Chained

namespace Chains

/-- The chains account for the digest in memory and for the checkpoints. -/
structure Explains (indexer : Indexer δ) (subgraph : SubgraphId) (chains : Chains) (prior : δ)
    (poi : Table (PoiCheckpoint.key (δ := δ))) : Prop where
  current : prior = chainDigest indexer.hasher chains.current
  covered : ∀ row : PoiCheckpoint δ, poi.find? row.key = some row → row.subgraph = subgraph →
    row.poiHash = chainDigest indexer.hasher (chains.covered row.blockDaaScore)

section Steps

variable {indexer : Indexer δ} {subgraph : SubgraphId} {chains : Chains} {prior : δ}
  {poi : Table (PoiCheckpoint.key (δ := δ))}

theorem Explains.commit (explains : chains.Explains indexer subgraph prior poi)
    (entry : LedgerEntry δ) :
    (chains.commit entry.block).Explains indexer subgraph (entry.digest indexer none prior)
      (poi.upsert (entry.checkpoint indexer subgraph none prior)) := by
  have digest : entry.digest indexer none prior =
      chainDigest indexer.hasher (chains.current ++ [entry.block]) := by
    rw [chainDigest_concat, ← explains.current]
    rfl
  refine ⟨digest, fun row stands own => ?_⟩
  by_cases here : (entry.checkpoint indexer subgraph none prior).key = row.key
  · rw [← here, Table.find_upsert_self, Option.some.injEq] at stands
    rw [← stands]
    show entry.digest indexer none prior = chainDigest indexer.hasher
      (Function.update chains.covered entry.block.daaScore _ entry.block.daaScore)
    rw [Function.update_self]
    exact digest
  · rw [Table.find_upsert_of_ne _ _ here] at stands
    have apart : row.blockDaaScore ≠ entry.block.daaScore := by
      intro level
      apply here
      unfold PoiCheckpoint.key
      rw [own, level]
      rfl
    show row.poiHash = chainDigest indexer.hasher
      (Function.update chains.covered entry.block.daaScore _ row.blockDaaScore)
    rw [Function.update_of_ne apart]
    exact explains.covered row stands own

theorem Explains.commitEach (explains : chains.Explains indexer subgraph prior poi)
    (entries : List (LedgerEntry δ)) :
    ((entries.map (·.block)).foldl Chains.commit chains).Explains indexer subgraph
      (digestFrom indexer none prior entries)
      (poi.replay (checkpointsFrom indexer subgraph none prior entries)) := by
  induction entries generalizing chains prior poi with
  | nil => exact explains
  | cons entry entries ih => exact ih (explains.commit entry)

theorem Explains.reanchor (explains : chains.Explains indexer subgraph prior poi)
    {store : Store δ}
    (kept : ∀ row : PoiCheckpoint δ, store.kasgraphPoi.find? row.key = some row →
      row.subgraph = subgraph → poi.find? row.key = some row) :
    (chains.reanchor (store.latestPoiForSubgraph subgraph)).Explains indexer subgraph
      (anchorOf indexer subgraph store) store.kasgraphPoi := by
  refine ⟨?_, fun row stands own => explains.covered row (kept row stands own) own⟩
  unfold anchorOf
  cases latest : store.latestPoiForSubgraph subgraph with
  | none => rfl
  | some row =>
      obtain ⟨stands, own, -⟩ := (Table.selectLast_eq_some_iff _ _ _).mp latest
      have own : row.subgraph = subgraph := by simpa using own
      exact explains.covered row (kept row stands own) own

end Steps

/-- Every block under a digest satisfies a predicate. -/
structure Each (chains : Chains) (holds : BootstrapBlock → Prop) : Prop where
  current : ∀ block ∈ chains.current, holds block
  covered : ∀ (score : Int64), ∀ block ∈ chains.covered score, holds block

section Each

variable {chains : Chains} {holds : BootstrapBlock → Prop}

theorem Each.commit (each : chains.Each holds) {block : BootstrapBlock} (here : holds block) :
    (chains.commit block).Each holds := by
  have grown : ∀ other ∈ chains.current ++ [block], holds other := by
    intro other member
    rcases List.mem_append.mp member with before | last
    · exact each.current other before
    · rw [List.mem_singleton.mp last]
      exact here
  refine ⟨grown, fun score => ?_⟩
  show ∀ other ∈ Function.update chains.covered block.daaScore _ score, holds other
  by_cases level : score = block.daaScore
  · rw [level, Function.update_self]
    exact grown
  · rw [Function.update_of_ne level]
    exact each.covered score

theorem Each.commitEach (each : chains.Each holds) {blocks : List BootstrapBlock}
    (all : ∀ block ∈ blocks, holds block) : (blocks.foldl Chains.commit chains).Each holds := by
  induction blocks generalizing chains with
  | nil => exact each
  | cons block blocks ih =>
      exact ih (each.commit (all block (List.mem_cons_self ..))) fun other member =>
        all other (List.mem_cons_of_mem _ member)

theorem Each.reanchor (each : chains.Each holds) (latest : Option (PoiCheckpoint δ)) :
    (chains.reanchor latest).Each holds := by
  refine ⟨?_, each.covered⟩
  cases latest with
  | none => exact nofun
  | some row => exact each.covered row.blockDaaScore

end Each

end Chains

/-- Without a mapping the chains of a run account for its digests, over delivered blocks. -/
structure NodeState.Accounted (indexer : Indexer δ) (chains : Chains) (state : NodeState δ) :
    Prop where
  unmapped : state.mapping = none
  explains : chains.Explains indexer state.subgraph state.ingestion.priorPoi
    state.store.kasgraphPoi
  held : state.ingestion.HoldsDelivered indexer.toolkit
  delivered : chains.Each fun block => block.Delivered indexer.toolkit

namespace NodeState

variable {indexer : Indexer δ} {chains : Chains} {state after : NodeState δ}
  {notification : ChainNotification}

/-- The unwind of a notification reloads the digest, or leaves it alone. -/
theorem Notified.explains {memory : IngestionState δ} {anchor : δ} {anchored : Backend δ}
    (notified : Notified indexer state notification after memory anchor anchored)
    (explains : chains.Explains indexer state.subgraph state.ingestion.priorPoi
      state.store.kasgraphPoi) :
    (if (state.transition indexer notification).committedUnwinds = [] then chains
      else chains.reanchor ((state.unwind indexer notification).2.store.latestPoiForSubgraph
        state.subgraph)).Explains indexer state.subgraph anchor anchored.store.kasgraphPoi := by
  have unwound := notified.unwound
  rw [unwound]
  unfold unwind at unwound
  split
  · rename_i none
    rw [none, unwindCommitted_nil, Prod.mk.injEq, Except.ok.injEq] at unwound
    rw [← unwound.1, ← unwound.2]
    exact explains
  · rename_i some
    obtain ⟨left, anchoring⟩ := unwindCommitted_ok some unwound
    rw [anchoring]
    apply explains.reanchor
    intro row stands own
    rw [left, Store.find_unwound_poi _ _ _ _ _ own] at stands
    exact stands.1

theorem Accounted.notify (accounted : state.Accounted indexer chains)
    (success : state.notify indexer notification = some after) :
    after.Accounted indexer (state.chainsAfter indexer notification chains) := by
  obtain ⟨memory, anchor, anchored, notified⟩ := notify_notified success
  obtain ⟨sameSubgraph, sameMapping⟩ := notified.sameSubgraph
  obtain ⟨chained, final⟩ := notified.persisted.poi state.runtime.owned
  obtain ⟨held, committed⟩ := notified.delivered accounted.held
  have blocks : (state.newEntries indexer notification).map (·.block) =
      state.newlyCommitted indexer notification := notified.persisted.blocks
  constructor
  · exact sameMapping.trans accounted.unmapped
  · have explained := (notified.explains accounted.explains).commitEach
      (state.newEntries indexer notification)
    have unmapped : state.runtime.mapping = none := accounted.unmapped
    rw [unmapped] at chained final
    rw [blocks, ← final, ← chained] at explained
    rw [sameSubgraph]
    exact explained
  · exact held
  · apply Chains.Each.commitEach _ committed
    split
    · exact accounted.delivered
    · exact accounted.delivered.reanchor _

theorem Accounted.restart (accounted : state.Accounted indexer chains) :
    (state.restart indexer).Accounted indexer
      (chains.reanchor (state.store.latestPoiForSubgraph state.subgraph)) where
  unmapped := accounted.unmapped
  explains := accounted.explains.reanchor fun _ stands _ => stands
  held := withFinalityDepth_delivered _ _ _
  delivered := accounted.delivered.reanchor _

theorem Accounted.fresh (indexer : Indexer δ) (subgraph : SubgraphId)
    (finalityDepth : Option UInt64) (relations : Finset (String × String)) :
    (NodeState.fresh indexer subgraph none nofun finalityDepth relations).Accounted indexer
      .start where
  unmapped := rfl
  explains := by
    refine ⟨rfl, fun row stands own => ?_⟩
    simp [NodeState.fresh, boot, Store.empty, Store.ensureSubgraphSchema] at stands
  held := withFinalityDepth_delivered _ _ _
  delivered := ⟨nofun, nofun⟩

end NodeState

theorem Chained.accounted {indexer : Indexer δ} {initial state : NodeState δ} {chains : Chains}
    (run : Chained indexer initial chains state) (start : initial.Accounted indexer .start) :
    state.Accounted indexer chains := by
  induction run with
  | refl => exact start
  | notify notification earlier success ih => exact ih.notify success
  | restart earlier ih => exact ih.restart

/-- A published digest is that of the blocks under it, all of which were delivered. -/
theorem NodeState.Publishes.explained {indexer : Indexer δ} {state : NodeState δ}
    {chains : Chains} {blocks : List BootstrapBlock} {digest : δ}
    (published : state.Publishes chains blocks digest)
    (accounted : state.Accounted indexer chains) :
    digest = chainDigest indexer.hasher blocks ∧
      ∀ block ∈ blocks, block.Delivered indexer.toolkit := by
  cases published with
  | current => exact ⟨accounted.explains.current, accounted.delivered.current⟩
  | checkpoint row stands own =>
      exact ⟨accounted.explains.covered row stands own, accounted.delivered.covered _⟩

/-! ## Chains on a stack -/

namespace Chains

/-- The chains are the initial segments of a list of blocks, each under the digest of its
last block. -/
structure Follows (chains : Chains) (blocks : List BootstrapBlock) : Prop where
  current : chains.current = blocks
  covered : ∀ lower block, lower ++ [block] <+: blocks →
    chains.covered block.daaScore = lower ++ [block]

variable {chains : Chains} {blocks : List BootstrapBlock}

theorem Follows.commit (follows : chains.Follows blocks) {block : BootstrapBlock}
    (top : ∀ other ∈ blocks, other.daaScore < block.daaScore) :
    (chains.commit block).Follows (blocks ++ [block]) := by
  constructor
  · show chains.current ++ [block] = blocks ++ [block]
    rw [follows.current]
  · intro lower other segment
    show Function.update chains.covered block.daaScore (chains.current ++ [block])
      other.daaScore = _
    rcases List.prefix_concat_iff.mp segment with whole | below
    · obtain ⟨rest, last⟩ := List.append_inj' whole rfl
      rw [List.singleton_inj.mp last, Function.update_self, rest, follows.current]
    · have inside := below.subset (List.mem_append_right _ (List.mem_singleton_self other))
      rw [Function.update_of_ne (ne_of_lt (top other inside))]
      exact follows.covered lower other below

theorem Follows.commitEach (follows : chains.Follows blocks) {more : List BootstrapBlock}
    (ascending : (blocks ++ more).Pairwise fun a b => a.daaScore < b.daaScore) :
    (more.foldl Chains.commit chains).Follows (blocks ++ more) := by
  induction more generalizing chains blocks with
  | nil =>
      rw [List.append_nil]
      exact follows
  | cons block more ih =>
      have top : ∀ other ∈ blocks, other.daaScore < block.daaScore := fun other member =>
        (List.pairwise_append.mp ascending).2.2 other member block (List.mem_cons_self ..)
      have split : blocks ++ block :: more = blocks ++ [block] ++ more := by simp
      rw [split] at ascending ⊢
      exact ih (follows.commit top) ascending

/-- Reloading the digest of the top of a stack leaves the chain of that stack. -/
theorem Follows.reanchor {indexer : Indexer δ} {subgraph : SubgraphId}
    {mapping : Option LoadedMapping} {ledger : List (LedgerEntry δ)}
    (follows : chains.Follows blocks) (stays : ledger.map (·.block) <+: blocks) :
    (chains.reanchor (checkpointsFrom indexer subgraph mapping indexer.hasher.seed
      ledger).getLast?).Follows (ledger.map (·.block)) := by
  refine ⟨?_, fun lower block below => follows.covered lower block (below.trans stays)⟩
  rcases List.eq_nil_or_concat' ledger with rfl | ⟨lower, top, rfl⟩
  · rfl
  · rw [checkpointsFrom_append, List.getLast?_append]
    rw [List.map_append] at stays ⊢
    exact follows.covered _ top.block stays

end Chains

theorem NodeState.Stacked.follows {indexer : Indexer δ} {state after : NodeState δ}
    {notification : ChainNotification} {chains : Chains} (stacked : state.Stacked indexer)
    (onStack : state.Stacks indexer notification)
    (success : state.notify indexer notification = some after)
    (follows : chains.Follows (state.ledger.map (·.block))) :
    (state.chainsAfter indexer notification chains).Follows (after.ledger.map (·.block)) := by
  obtain ⟨memory, anchor, anchored, notified⟩ := notify_notified success
  have blocks : (state.newEntries indexer notification).map (·.block) =
      state.newlyCommitted indexer notification := notified.persisted.blocks
  have split := stacked.split onStack
  have kept : (state.survivors indexer notification).map (·.block) <+:
      state.ledger.map (·.block) := by
    rw [split]
    rw [List.map_append]
    exact List.prefix_append _ _
  have ordered : (state.survivors indexer notification).Pairwise fun a b =>
      a.block.daaScore < b.block.daaScore := stacked.ascending.filter _
  have ascending : ((state.survivors indexer notification).map (·.block) ++
      state.newlyCommitted indexer notification).Pairwise fun a b => a.daaScore < b.daaScore := by
    refine List.pairwise_append.mpr ⟨List.pairwise_map.mpr ordered, onStack.ascending, ?_⟩
    intro block member new committed
    obtain ⟨entry, stays, rfl⟩ := List.mem_map.mp member
    exact onStack.above entry stays new committed
  rw [notified.ledger, List.map_append, blocks]
  apply Chains.Follows.commitEach _ ascending
  split
  · rename_i none
    have whole : state.survivors indexer notification = state.ledger := by
      unfold survivors unwoundHashes
      rw [none]
      exact List.filter_eq_self.mpr fun _ _ => rfl
    rw [whole]
    exact follows
  · have standing : ∀ row : PoiCheckpoint δ, row.subgraph = state.subgraph →
        (anchored.store.kasgraphPoi.find? row.key = some row ↔
          row ∈ checkpointsFrom indexer state.subgraph state.mapping indexer.hasher.seed
            (state.survivors indexer notification)) := fun row own =>
      ((notified.anchored stacked.anchored).2 row own).trans (stacked.remains_iff onStack row own)
    rw [notified.unwound, latestPoi_stack ordered standing]
    exact follows.reanchor kept

/-- While the committed blocks are a stack, the chain under the digest in memory is that of
the committed blocks, and the chain under a checkpoint that of the blocks up to its own. -/
theorem chains_follow_stack (indexer : Indexer δ) (subgraph : SubgraphId)
    (mapping : Option LoadedMapping)
    (owned : ∀ loaded, mapping = some loaded → loaded.subgraph = subgraph)
    (finalityDepth : Option UInt64) (relations : Finset (String × String)) (state : NodeState δ)
    (run : Steps indexer (NodeState.Stacks indexer)
      (.fresh indexer subgraph mapping owned finalityDepth relations) state) :
    ∃ chains, Chained indexer (.fresh indexer subgraph mapping owned finalityDepth relations)
      chains state ∧ chains.Follows (state.ledger.map (·.block)) := by
  have both : state.Stacked indexer ∧ ∃ chains, Chained indexer
      (.fresh indexer subgraph mapping owned finalityDepth relations) chains state ∧
        chains.Follows (state.ledger.map (·.block)) := by
    induction run with
    | refl =>
        refine ⟨.fresh indexer subgraph mapping owned finalityDepth relations, .start, .refl, rfl, ?_⟩
        intro lower block segment
        simpa using List.eq_nil_of_prefix_nil segment
    | notify notification earlier admitted success ih =>
        obtain ⟨stacked, chains, chained, follows⟩ := ih
        exact ⟨stacked.notify admitted success, _, .notify notification chained success,
          stacked.follows admitted success follows⟩
    | @restart state earlier ih =>
        obtain ⟨stacked, chains, chained, follows⟩ := ih
        refine ⟨{ stacked with digest := stacked.anchored.symm.trans stacked.digest }, _,
          .restart chained, ?_⟩
        rw [latestPoi_stack stacked.ascending stacked.checkpoints]
        exact follows.reanchor (List.prefix_refl _)
  exact both.2

/-! ## Two runs -/

/-- What is hashed along a chain: each block's bytes under the digest before it. -/
def hashedAlong (hasher : PoiHasher δ) (blocks : List BootstrapBlock) : Set (δ × List UInt8) :=
  { input | ∃ before block, before ++ [block] <+: blocks ∧
    input = (chainDigest hasher before, block.canonicalEntityBytes) }

theorem hashedAlong_mono (hasher : PoiHasher δ) {blocks more : List BootstrapBlock}
    (longer : blocks <+: more) : hashedAlong hasher blocks ⊆ hashedAlong hasher more := by
  rintro input ⟨before, block, below, same⟩
  exact ⟨before, block, below.trans longer, same⟩

/-- No two inputs hashed along the chains have one hash. -/
def CollisionFree (hasher : PoiHasher δ) (blocks others : List BootstrapBlock) : Prop :=
  Set.InjOn (fun input => hasher.keyed input.1 input.2)
    (hashedAlong hasher blocks ∪ hashedAlong hasher others)

theorem chainDigest_congr (hasher : PoiHasher δ) {blocks others : List BootstrapBlock}
    (same : List.Forall₂ (fun a b => a.canonicalEntityBytes = b.canonicalEntityBytes)
      blocks others) : chainDigest hasher blocks = chainDigest hasher others := by
  unfold chainDigest
  generalize hasher.seed = prior
  induction same generalizing prior with
  | nil => rfl
  | cons head rest ih =>
      rw [List.foldl_cons, List.foldl_cons, head]
      exact ih _

/-- Without collisions one digest comes from one list of inputs. -/
theorem bytes_of_chainDigest (hasher : PoiHasher δ) {blocks others : List BootstrapBlock}
    (level : blocks.length = others.length) (free : CollisionFree hasher blocks others)
    (same : chainDigest hasher blocks = chainDigest hasher others) :
    List.Forall₂ (fun a b => a.canonicalEntityBytes = b.canonicalEntityBytes) blocks others := by
  induction blocks using List.reverseRecOn generalizing others with
  | nil =>
      rw [List.length_eq_zero_iff.mp level.symm]
      exact .nil
  | append_singleton blocks block ih =>
      rcases List.eq_nil_or_concat' others with rfl | ⟨others, other, rfl⟩
      · simp at level
      · rw [chainDigest_concat, chainDigest_concat] at same
        have inputs := free (Or.inl ⟨blocks, block, List.prefix_refl _, rfl⟩)
          (Or.inr ⟨others, other, List.prefix_refl _, rfl⟩) same
        obtain ⟨digests, bytes⟩ := Prod.mk.inj inputs
        have below : CollisionFree hasher blocks others :=
          free.mono (Set.union_subset_union (hashedAlong_mono hasher (List.prefix_append _ _))
            (hashedAlong_mono hasher (List.prefix_append _ _)))
        have shorter : blocks.length = others.length := by simpa using level
        exact List.rel_append (ih shorter below digests) (.cons bytes .nil)

/-- Two indexers without a mapping that committed the same chain publish one digest for it
when their nodes reported the same of every block, and, unless inputs collide, only then. -/
theorem honest_indexers_agree (toolkit : Toolkit) (hasher : PoiHasher δ)
    (stream otherStream : Bool) (subgraph : SubgraphId) (finalityDepth otherDepth : Option UInt64)
    (relations otherRelations : Finset (String × String)) (chains otherChains : Chains)
    (state otherState : NodeState δ)
    (run : Chained ⟨toolkit, hasher, stream⟩
      (.fresh ⟨toolkit, hasher, stream⟩ subgraph none nofun finalityDepth relations)
      chains state)
    (otherRun : Chained ⟨toolkit, hasher, otherStream⟩
      (.fresh ⟨toolkit, hasher, otherStream⟩ subgraph none nofun otherDepth otherRelations)
      otherChains otherState)
    (blocks others : List BootstrapBlock) (digest otherDigest : δ)
    (published : state.Publishes chains blocks digest)
    (otherPublished : otherState.Publishes otherChains others otherDigest)
    (sameChain : List.Forall₂ BootstrapBlock.SameOnChain blocks others) :
    (List.Forall₂ (BootstrapBlock.SameReport toolkit) blocks others → digest = otherDigest) ∧
      (CollisionFree hasher blocks others → digest = otherDigest →
        List.Forall₂ (BootstrapBlock.SameReport toolkit) blocks others) := by
  obtain ⟨explained, delivered⟩ := published.explained
    (run.accounted (.fresh _ subgraph finalityDepth relations))
  obtain ⟨otherExplained, otherDelivered⟩ := otherPublished.explained
    (otherRun.accounted (.fresh _ subgraph otherDepth otherRelations))
  have alike : List.Forall₂ (fun a b => a.canonicalEntityBytes = b.canonicalEntityBytes)
      blocks others ↔ List.Forall₂ (BootstrapBlock.SameReport toolkit) blocks others := by
    clear published otherPublished explained otherExplained
    induction sameChain with
    | nil => exact ⟨fun _ => .nil, fun _ => .nil⟩
    | cons head rest ih =>
        rw [List.forall₂_cons, List.forall₂_cons]
        have first := head.bytes_eq_iff (delivered _ (List.mem_cons_self ..))
          (otherDelivered _ (List.mem_cons_self ..))
        have later := ih (fun block member => delivered block (List.mem_cons_of_mem _ member))
          fun block member => otherDelivered block (List.mem_cons_of_mem _ member)
        exact and_congr first later
  rw [explained, otherExplained]
  constructor
  · intro reported
    exact chainDigest_congr hasher (alike.mpr reported)
  · intro free same
    exact alike.mp (bytes_of_chainDigest hasher sameChain.length_eq free same)

/-- The first block as another endpoint serves it. -/
def backupBlock : IngestedBlock := { headerBlock "a" 10 true with servedBy := "backup" }

def streamingIndexer : Indexer (List (List UInt8)) where
  toolkit := bareToolkit
  hasher := freeHasher
  stream := true

/-- A second indexer of the same subgraph, which finalizes by depth. -/
def streamingStart : NodeState (List (List UInt8)) :=
  .fresh streamingIndexer demoSubgraph none (NodeState.unmapped_owned demoSubgraph) (some 5) ∅

/-- The chain of one block committed on an empty store. -/
theorem chainsAfter_start {indexer : Indexer (List (List UInt8))}
    {initial : NodeState (List (List UInt8))} {notification : ChainNotification}
    {block : BootstrapBlock}
    (keeps : (initial.transition indexer notification).committedUnwinds = [])
    (commits : initial.newlyCommitted indexer notification = [block]) :
    (initial.chainsAfter indexer notification .start).current = [block] := by
  unfold NodeState.chainsAfter
  rw [if_pos keeps, commits]
  rfl

theorem firstBlock_chain :
    (bareStart.chainsAfter bareIndexer firstBlock .start).current =
      [blockFromRpc bareToolkit (headerBlock "a" 10 true)] :=
  chainsAfter_start (by decide +kernel) firstBlock_committed

theorem backupBlock_chain :
    (streamingStart.chainsAfter streamingIndexer (.blockAdded backupBlock) .start).current =
      [blockFromRpc bareToolkit backupBlock] :=
  chainsAfter_start (by decide +kernel) (by decide +kernel)

/-- Both indexers received the block from the same endpoint. -/
theorem honest_indexers_agree_primary :
    ∃ state otherState, bareStart.notify bareIndexer firstBlock = some state ∧
      streamingStart.notify streamingIndexer firstBlock = some otherState ∧
      state.ingestion.priorPoi = otherState.ingestion.priorPoi := by
  obtain ⟨state, success⟩ := firstBlock_succeeds
  obtain ⟨otherState, otherSuccess⟩ := Option.isSome_iff_exists.mp
    (by decide +kernel : (streamingStart.notify streamingIndexer firstBlock).isSome = true)
  refine ⟨state, otherState, success, otherSuccess, ?_⟩
  have otherChain : (streamingStart.chainsAfter streamingIndexer firstBlock .start).current =
      [blockFromRpc bareToolkit (headerBlock "a" 10 true)] :=
    chainsAfter_start (by decide +kernel) (by decide +kernel)
  have published : state.Publishes (bareStart.chainsAfter bareIndexer firstBlock .start) _ _ :=
    .current
  have otherPublished : otherState.Publishes
    (streamingStart.chainsAfter streamingIndexer firstBlock .start) _ _ := .current
  rw [firstBlock_chain] at published
  rw [otherChain] at otherPublished
  have agreed := honest_indexers_agree bareToolkit freeHasher false true demoSubgraph none (some 5)
    ∅ ∅ _ _ state otherState (.notify firstBlock .refl success)
    (.notify firstBlock .refl otherSuccess) _ _ _ _ published otherPublished
    (.cons ⟨rfl, rfl, rfl, rfl, rfl⟩ .nil)
  exact agreed.1 (.cons ⟨headerBlock "a" 10 true, headerBlock "a" 10 true, ⟨true, rfl⟩, ⟨true, rfl⟩,
    rfl, rfl, rfl⟩ .nil)

/-- The endpoint that served a block is hashed into its digest. -/
theorem endpoints_disagree :
    ∃ state otherState,
      Chained bareIndexer bareStart (bareStart.chainsAfter bareIndexer firstBlock .start) state ∧
      Chained streamingIndexer streamingStart
        (streamingStart.chainsAfter streamingIndexer (.blockAdded backupBlock) .start)
        otherState ∧
      List.Forall₂ BootstrapBlock.SameOnChain
        (bareStart.chainsAfter bareIndexer firstBlock .start).current
        (streamingStart.chainsAfter streamingIndexer (.blockAdded backupBlock) .start).current ∧
      state.ingestion.priorPoi ≠ otherState.ingestion.priorPoi := by
  have ran : ((bareStart.notify bareIndexer firstBlock).any fun state =>
      (streamingStart.notify streamingIndexer (.blockAdded backupBlock)).any fun otherState =>
        decide (state.ingestion.priorPoi ≠ otherState.ingestion.priorPoi)) = true := by
    decide +kernel
  obtain ⟨state, success, ran⟩ := (Option.any_eq_true _ _).mp ran
  obtain ⟨otherState, otherSuccess, apart⟩ := (Option.any_eq_true _ _).mp ran
  refine ⟨state, otherState, .notify firstBlock .refl success, .notify _ .refl otherSuccess, ?_,
    of_decide_eq_true apart⟩
  rw [firstBlock_chain, backupBlock_chain]
  exact .cons ⟨rfl, rfl, rfl, rfl, rfl⟩ .nil

end KasGraph
