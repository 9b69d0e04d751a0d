import KasGraph.BlockEffect

set_option autoImplicit false

/-! The tracked outputs over a run. Hits are assigned their ids one by one, each from the
outputs tracked before it, and an unwind forgets outputs; so what every assignment keeps
holds of every state a run reaches. -/

namespace KasGraph

open EffectProgram

variable {δ : Type}

/-- An output of a transaction. -/
abbrev Outpoint := String × UInt32

def DetectedPattern.outpoint (hit : DetectedPattern) : Outpoint := (hit.txHash, hit.outputIndex)

def IngestedTransactionInput.outpoint (input : IngestedTransactionInput) : Outpoint :=
  (input.previousTxHash, input.previousOutputIndex)

def CovenantUtxoRecord.outpoint (row : CovenantUtxoRecord) : Outpoint :=
  (row.txHash, row.outputIndex.toUInt32)

/-- The tracked outputs of all subgraphs. -/
abbrev Tracked := Table CovenantUtxoRecord.key

/-- The covenant id tracked for an outpoint. -/
def Tracked.idOf (utxos : Tracked) (subgraph : SubgraphId) (outpoint : Outpoint) : Option String :=
  (utxos.find? (subgraph.schemaName, outpoint.1, outpoint.2.toInt32)).bind (·.covenantId)

/-- The outpoint a hit takes its id from: that of the first input of its transaction which
consumes a tracked output with an id. -/
def predecessor (subgraph : SubgraphId) (utxos : Tracked) (hit : DetectedPattern)
    (inputs : List IngestedTransactionInput) : Option Outpoint :=
  (inputs.find? fun input => input.spendingTxHash == hit.txHash &&
    (utxos.idOf subgraph input.outpoint).isSome).map (·.outpoint)

/-- The id a hit is assigned is that of its predecessor, or a fresh one without a
predecessor. -/
theorem lineageOf_covenantId (blake2b : List UInt8 → List UInt8) (subgraph : SubgraphId)
    (utxos : Tracked) (hit : DetectedPattern) (inputs : List IngestedTransactionInput) :
    match predecessor subgraph utxos hit inputs with
    | none => lineageOf blake2b subgraph utxos hit inputs =
        .genesis (genesisCovenantId blake2b hit.txHash hit.outputIndex)
    | some outpoint => utxos.idOf subgraph outpoint =
        some (lineageOf blake2b subgraph utxos hit inputs).covenantId := by
  unfold predecessor lineageOf
  induction inputs with
  | nil => rfl
  | cons input rest ih =>
      have inherited : inheritedLineage subgraph utxos hit input =
          if input.spendingTxHash != hit.txHash then none else
            (utxos.idOf subgraph input.outpoint).map fun id =>
              .transition id (outpointText input.previousTxHash input.previousOutputIndex) := rfl
      rw [List.findSome?_cons, List.find?_cons, inherited]
      by_cases here : input.spendingTxHash = hit.txHash
      · cases tracked : utxos.idOf subgraph input.outpoint with
        | none =>
            simp only [here, bne_self_eq_false, Bool.false_eq_true, if_false, Option.map_none,
              Option.isSome_none, Bool.and_false]
            exact ih
        | some id =>
            simp only [here, bne_self_eq_false, Bool.false_eq_true, if_false, Option.map_some,
              Option.isSome_some, beq_self_eq_true, Bool.and_self]
            exact tracked
      · have other : (input.spendingTxHash == hit.txHash) = false := by simpa using here
        simp only [bne, other, Bool.not_false, if_true, Bool.false_and]
        exact ih

/-! ## One block -/

section Block

variable (blake2b : List UInt8 → List UInt8) (subgraph : SubgraphId) (block : BootstrapBlock)

/-- The tracked outputs once a hit is assigned its id. -/
def track (utxos : Tracked) (hit : DetectedPattern) : Tracked :=
  utxos.upsert (covenantUtxoOf subgraph block hit
    (some (lineageOf blake2b subgraph utxos hit block.inputs).covenantId))

/-- The tracked outputs once hits are assigned their ids in order. -/
def trackHits (utxos : Tracked) (hits : List DetectedPattern) : Tracked :=
  hits.foldl (track blake2b subgraph block) utxos

theorem replay_assignLineages (utxos : Tracked) (hits : List DetectedPattern) :
    utxos.replay ((assignLineages blake2b subgraph block utxos hits).map
      (LineageStep.utxo subgraph block)) = trackHits blake2b subgraph block utxos hits := by
  induction hits generalizing utxos with
  | nil => rfl
  | cons hit rest ih => exact ih _

/-- A condition on every hit of a block when it is assigned its id. -/
def EachHit (holds : Tracked → BootstrapBlock → DetectedPattern → Prop) :
    Tracked → List DetectedPattern → Prop
  | _, [] => True
  | utxos, hit :: rest => holds utxos block hit ∧ EachHit holds (track blake2b subgraph block utxos hit) rest

/-- A condition on every hit of blocks persisted one after the other. -/
def EachBlock (holds : Tracked → BootstrapBlock → DetectedPattern → Prop) :
    Tracked → List BootstrapBlock → Prop
  | _, [] => True
  | utxos, block :: rest => EachHit blake2b subgraph block holds utxos block.detectorHits ∧
      EachBlock holds (trackHits blake2b subgraph block utxos block.detectorHits) rest

instance EachHit.decidable (holds : Tracked → BootstrapBlock → DetectedPattern → Prop)
    [∀ utxos block hit, Decidable (holds utxos block hit)] :
    ∀ utxos hits, Decidable (EachHit blake2b subgraph block holds utxos hits)
  | _, [] => .isTrue trivial
  | utxos, hit :: rest =>
      have := EachHit.decidable holds (track blake2b subgraph block utxos hit) rest
      inferInstanceAs (Decidable (_ ∧ _))

instance EachBlock.decidable (holds : Tracked → BootstrapBlock → DetectedPattern → Prop)
    [∀ utxos block hit, Decidable (holds utxos block hit)] :
    ∀ utxos blocks, Decidable (EachBlock blake2b subgraph holds utxos blocks)
  | _, [] => .isTrue trivial
  | utxos, block :: rest =>
      have := EachBlock.decidable holds
        (trackHits blake2b subgraph block utxos block.detectorHits) rest
      inferInstanceAs (Decidable (_ ∧ _))

variable {blake2b} {subgraph} {block} {invariant : Tracked → Prop}
  {holds : Tracked → BootstrapBlock → DetectedPattern → Prop}

theorem trackHits_invariant
    (tracks : ∀ utxos hit, invariant utxos → holds utxos block hit →
      invariant (track blake2b subgraph block utxos hit))
    {utxos : Tracked} {hits : List DetectedPattern} (before : invariant utxos)
    (each : EachHit blake2b subgraph block holds utxos hits) :
    invariant (trackHits blake2b subgraph block utxos hits) := by
  induction hits generalizing utxos with
  | nil => exact before
  | cons hit rest ih => exact ih (tracks utxos hit before each.1) each.2

theorem EachHit.of_forall {hits : List DetectedPattern}
    (every : ∀ hit ∈ hits, ∀ utxos, holds utxos block hit) (utxos : Tracked) :
    EachHit blake2b subgraph block holds utxos hits := by
  induction hits generalizing utxos with
  | nil => trivial
  | cons hit rest ih =>
      exact ⟨every hit (List.mem_cons_self ..) utxos,
        ih (fun other later => every other (List.mem_cons_of_mem _ later)) _⟩

/-- A condition that every hit meets over any tracked outputs. -/
theorem EachBlock.of_forall {blocks : List BootstrapBlock}
    (every : ∀ block ∈ blocks, ∀ hit ∈ block.detectorHits, ∀ utxos, holds utxos block hit)
    (utxos : Tracked) : EachBlock blake2b subgraph holds utxos blocks := by
  induction blocks generalizing utxos with
  | nil => trivial
  | cons block rest ih =>
      exact ⟨EachHit.of_forall (every block (List.mem_cons_self ..)) utxos,
        ih (fun other later => every other (List.mem_cons_of_mem _ later)) _⟩

end Block

/-! ## Runs -/

namespace NodeState

variable (indexer : Indexer δ)

/-- The tracked outputs once a notification unwound its blocks. -/
def anchoredUtxos (state : NodeState δ) (notification : ChainNotification) : Tracked :=
  (state.unwind indexer notification).2.store.covenantUtxos

/-- A condition on every hit a notification commits, with a mapping. -/
def AssignsEach (holds : Tracked → BootstrapBlock → DetectedPattern → Prop) (state : NodeState δ)
    (notification : ChainNotification) : Prop :=
  state.mapping.isSome → EachBlock indexer.toolkit.blake2b state.subgraph holds
    (state.anchoredUtxos indexer notification) (state.newlyCommitted indexer notification)

instance AssignsEach.decidable (holds : Tracked → BootstrapBlock → DetectedPattern → Prop)
    [∀ utxos block hit, Decidable (holds utxos block hit)] (state : NodeState δ)
    (notification : ChainNotification) :
    Decidable (state.AssignsEach indexer holds notification) :=
  inferInstanceAs (Decidable (_ → _))

end NodeState

section Invariant

variable {indexer : Indexer δ} {subgraph : SubgraphId} {mapping : Option LoadedMapping}
  {invariant : Tracked → Prop} {holds : Tracked → BootstrapBlock → DetectedPattern → Prop}

/-- Blocks persisted one after the other keep what every assignment keeps. -/
theorem Persisted.tracked
    (tracks : ∀ utxos block hit, invariant utxos → holds utxos block hit →
      invariant (track indexer.toolkit.blake2b subgraph block utxos hit))
    {prior final : δ} {before after : Backend δ} {writes : List CommittedBlockWrite}
    {entries : List (LedgerEntry δ)}
    (persisted : Persisted indexer subgraph mapping prior before writes entries final after)
    (held : invariant before.store.covenantUtxos)
    (each : mapping.isSome → EachBlock indexer.toolkit.blake2b subgraph holds
      before.store.covenantUtxos (writes.map (·.block))) :
    invariant after.store.covenantUtxos := by
  induction persisted with
  | nil prior backend => exact held
  | @cons prior final before middle after write writes entries dispatched rows bytes rest ih =>
      have left := (Prod.mk.inj
        (persistCommittedRows_computes indexer subgraph write.block mapping before _ middle rows)).2
      have grown : middle.store.covenantUtxos =
          before.store.covenantUtxos.replay
            (before.store.utxoRows indexer subgraph mapping write.block) := by
        rw [left]
        exact (Store.withBlock_tables indexer subgraph mapping write.block before.store).2.2.2.2.1
      change invariant middle.store.covenantUtxos → (mapping.isSome → EachBlock _ _ holds
        middle.store.covenantUtxos _) → _ at ih
      rw [grown] at ih
      cases mapping with
      | none => exact ih held nofun
      | some loaded =>
          have now := each rfl
          unfold Store.utxoRows Store.lineageSteps at ih
          rw [replay_assignLineages] at ih
          exact ih (trackHits_invariant (fun utxos hit => tracks utxos write.block hit) held now.1)
            fun _ => now.2

/-- An unwind only forgets tracked outputs. -/
theorem NodeState.anchoredUtxos_eq {state : NodeState δ} {notification : ChainNotification}
    {anchor : δ} {anchored : Backend δ}
    (unwound : state.unwind indexer notification = (.ok anchor, anchored)) :
    ∃ forgets, anchored.store.covenantUtxos = state.store.covenantUtxos.deleteWhere forgets := by
  unfold NodeState.unwind at unwound
  by_cases none : (state.transition indexer notification).committedUnwinds = []
  · rw [none] at unwound
    cases unwound
    refine ⟨fun _ => false, (Table.deleteWhere_of_none _ _ fun _ _ _ => rfl).symm⟩
  · have left := (unwindCommitted_ok none unwound).1
    rw [left]
    unfold Store.unwound Store.unwoundDerived
    split
    · exact ⟨_, rfl⟩
    · exact ⟨fun _ => false, (Table.deleteWhere_of_none _ _ fun _ _ _ => rfl).symm⟩

/-- What every assignment and every forgetting keeps holds in every state reached. -/
theorem Steps.tracked {initial state : NodeState δ}
    (forgets : ∀ utxos chosen, invariant utxos → invariant (utxos.deleteWhere chosen))
    (tracks : ∀ utxos block hit, invariant utxos → holds utxos block hit →
      invariant (track indexer.toolkit.blake2b initial.subgraph block utxos hit))
    (steps : Steps indexer (NodeState.AssignsEach indexer holds) initial state)
    (start : invariant initial.store.covenantUtxos) :
    state.subgraph = initial.subgraph ∧ invariant state.store.covenantUtxos := by
  induction steps with
  | refl => exact ⟨rfl, start⟩
  | restart _ ih => exact ih
  | @notify state after notification _ admitted success ih =>
      obtain ⟨own, held⟩ := ih
      obtain ⟨memory, anchor, anchored, notified⟩ := NodeState.notify_notified success
      obtain ⟨chosen, forgotten⟩ := NodeState.anchoredUtxos_eq notified.unwound
      have sameSubgraph : after.subgraph = state.subgraph := congrArg (·.subgraph) notified.runtime
      refine ⟨sameSubgraph.trans own, notified.persisted.tracked (own ▸ tracks) ?_ ?_⟩
      · rw [forgotten]
        exact forgets _ chosen held
      · intro mapped
        have each := admitted mapped
        unfold NodeState.anchoredUtxos at each
        rw [notified.unwound] at each
        exact each

end Invariant

end KasGraph
