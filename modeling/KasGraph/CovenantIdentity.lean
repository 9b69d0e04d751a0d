import KasGraph.CovenantTracking

set_option autoImplicit false

/-! What a covenant id names. Every id in the tracked outputs is the fresh id of some
output; which output that is, and what it has in common with those that inherited its
id, depends on the predecessors found. -/

namespace KasGraph

variable {δ ε : Type}

/-- Every tracked output carries the id of an output that names it. -/
def Tracked.Named (blake2b : List UInt8 → List UInt8) (names : Outpoint → Outpoint → Prop)
    (utxos : Tracked) : Prop :=
  utxos.Each fun row => ∃ origin, names origin row.outpoint ∧
    row.covenantId = some (genesisCovenantId blake2b origin.1 origin.2)

/-- A hit without a predecessor names itself; one with a predecessor is named by what
names the predecessor. -/
def KeepsNames (names : Outpoint → Outpoint → Prop) (subgraph : SubgraphId) (utxos : Tracked)
    (block : BootstrapBlock) (hit : DetectedPattern) : Prop :=
  match predecessor subgraph utxos hit block.inputs with
  | none => names hit.outpoint hit.outpoint
  | some outpoint => ∀ origin, names origin outpoint → names origin hit.outpoint

theorem covenantUtxoOf_outpoint (subgraph : SubgraphId) (block : BootstrapBlock)
    (hit : DetectedPattern) (covenantId : Option String) :
    (covenantUtxoOf subgraph block hit covenantId).outpoint = hit.outpoint :=
  congrArg (hit.txHash, ·) (UInt32.toUInt32_toInt32 hit.outputIndex)

/-- An id is looked up on a row of its outpoint. -/
theorem Tracked.idOf_eq_some {utxos : Tracked} {subgraph : SubgraphId} {outpoint : Outpoint}
    {id : String} (tracked : utxos.idOf subgraph outpoint = some id) :
    ∃ key row, utxos.find? key = some row ∧ row.outpoint = outpoint ∧
      row.covenantId = some id := by
  obtain ⟨row, found, carried⟩ := Option.bind_eq_some_iff.mp tracked
  have keyed := Table.key_of_find found
  have hash : row.txHash = outpoint.1 := congrArg (·.2.1) keyed
  have index : row.outputIndex = outpoint.2.toInt32 := congrArg (·.2.2) keyed
  refine ⟨_, row, found, ?_, carried⟩
  unfold CovenantUtxoRecord.outpoint
  rw [hash, index, UInt32.toUInt32_toInt32]

/-- One assignment keeps every id named. -/
theorem Tracked.Named.track {blake2b : List UInt8 → List UInt8}
    {names : Outpoint → Outpoint → Prop} {utxos : Tracked} (named : Tracked.Named blake2b names utxos)
    {subgraph : SubgraphId} {block : BootstrapBlock} {hit : DetectedPattern}
    (keeps : KeepsNames names subgraph utxos block hit) :
    Tracked.Named blake2b names (track blake2b subgraph block utxos hit) := by
  refine Table.Each.upsert named ?_
  rw [covenantUtxoOf_outpoint]
  have assigned := lineageOf_covenantId blake2b subgraph utxos hit block.inputs
  unfold KeepsNames at keeps
  cases found : predecessor subgraph utxos hit block.inputs with
  | none =>
      rw [found] at assigned keeps
      refine ⟨hit.outpoint, keeps, ?_⟩
      simp only at assigned
      rw [assigned]
      rfl
  | some outpoint =>
      rw [found] at assigned keeps
      obtain ⟨key, row, present, same, carried⟩ := Tracked.idOf_eq_some assigned
      obtain ⟨origin, names, id⟩ := named key row present
      rw [same] at names
      exact ⟨origin, keeps origin names, carried.symm.trans id⟩

theorem Tracked.Named.deleteWhere {blake2b : List UInt8 → List UInt8}
    {names : Outpoint → Outpoint → Prop} {utxos : Tracked}
    (named : Tracked.Named blake2b names utxos) (chosen : CovenantUtxoRecord → Bool) :
    Tracked.Named blake2b names (utxos.deleteWhere chosen) := Table.Each.deleteWhere named chosen

/-! ## One id, one covenant -/

section Covenants

variable {κ : Type} (covenantOf : Outpoint → κ) (kindOf : κ → DetectorKind)

/-- The covenants of the chain: the first input of a hit's transaction that consumes a
tracked output belongs to the covenant of the hit, and the hit is of its kind. -/
structure StaysInCovenant (known : Set Outpoint) (subgraph : SubgraphId) (utxos : Tracked)
    (block : BootstrapBlock) (hit : DetectedPattern) : Prop where
  known : hit.outpoint ∈ known
  kind : hit.kind = kindOf (covenantOf hit.outpoint)
  inherits : ∀ outpoint, predecessor subgraph utxos hit block.inputs = some outpoint →
    covenantOf outpoint = covenantOf hit.outpoint

variable {covenantOf} {kindOf}

theorem StaysInCovenant.keepsNames {known : Set Outpoint} {subgraph : SubgraphId}
    {utxos : Tracked} {block : BootstrapBlock} {hit : DetectedPattern}
    (stays : StaysInCovenant covenantOf kindOf known subgraph utxos block hit) :
    KeepsNames (fun origin outpoint => origin ∈ known ∧ covenantOf origin = covenantOf outpoint)
      subgraph utxos block hit := by
  unfold KeepsNames
  split
  · exact ⟨stays.known, rfl⟩
  · rename_i outpoint found
    intro origin named
    exact ⟨named.1, named.2.trans (stays.inherits outpoint found)⟩

end Covenants

/-! ### Two outputs of one lineage, and of two covenants -/

/-- A block that locks an output and spends it into another of the same covenant. -/
def successionBlock : IngestedBlock :=
  { headerBlock "a" 10 true with
    outputs := [htlcOutput "t", htlcOutput "u"]
    inputs := [spendOf "u" "t"] }

theorem successionBlock_admitted (known : Set Outpoint) (inside : {("t", 0), ("u", 0)} ⊆ known) :
    htlcStart.AssignsEach htlcIndexer
      (StaysInCovenant (fun _ => ()) (fun _ => .openSilverAtomicSwapHTLC) known demoSubgraph)
      (.blockAdded successionBlock) := by
  intro mapped
  have hits : ∀ block ∈ htlcStart.newlyCommitted htlcIndexer (.blockAdded successionBlock),
      ∀ hit ∈ block.detectorHits, hit.kind = .openSilverAtomicSwapHTLC ∧
        (hit.outpoint = ("t", 0) ∨ hit.outpoint = ("u", 0)) := by decide +kernel
  refine EachBlock.of_forall (fun block member hit detected utxos => ?_) _
  obtain ⟨kind, place⟩ := hits block member hit detected
  exact ⟨inside place, kind, fun _ _ => rfl⟩

/-- An indexer of two kinds of covenants. -/
def pairIndexer : Indexer (List (List UInt8)) where
  toolkit := { bareToolkit with
    registry := [⟨.openSilverAtomicSwapHTLC, .exact opensilverAtomicSwapHtlcFingerprint⟩,
      ⟨.kcc20Asset, .anchored kcc20AssetFingerprint⟩] }
  hasher := freeHasher
  stream := false

def pairStart : NodeState (List (List UInt8)) :=
  .fresh pairIndexer demoSubgraph (some silentMapping) silentMapping_owned none ∅

/-- A block that spends the locked output and issues a token in the same transaction. -/
def issueBlock : IngestedBlock :=
  { headerBlock "b" 11 true with
    outputs := [{ txHash := "u", outputIndex := 0, value := 1
                  scriptPublicKey := kcc20AssetFingerprint.head ++ kcc20AssetFingerprint.tail }]
    inputs := [spendOf "u" "t"] }

/-- An output starts the lineage of another. -/
inductive Originates (parentOf : Outpoint → Option Outpoint) : Outpoint → Outpoint → Prop where
  | genesis {outpoint : Outpoint} (parentless : parentOf outpoint = none) :
      Originates parentOf outpoint outpoint
  | transition {origin parent outpoint : Outpoint} (found : parentOf outpoint = some parent)
      (earlier : Originates parentOf origin parent) : Originates parentOf origin outpoint

/-- A lineage has one start. -/
theorem Originates.unique {parentOf : Outpoint → Option Outpoint} {first second outpoint : Outpoint}
    (left : Originates parentOf first outpoint) (right : Originates parentOf second outpoint) :
    first = second := by
  induction left with
  | genesis parentless =>
      cases right with
      | genesis _ => rfl
      | transition found _ => exact nomatch parentless.symm.trans found
  | transition found _ ih =>
      cases right with
      | genesis parentless => exact nomatch parentless.symm.trans found
      | transition other earlier =>
          rw [found, Option.some.injEq] at other
          exact ih (other ▸ earlier)

/-- The predecessor found for a hit is its parent on the chain. -/
def FindsParent (parentOf : Outpoint → Option Outpoint) (subgraph : SubgraphId) (utxos : Tracked)
    (block : BootstrapBlock) (hit : DetectedPattern) : Prop :=
  predecessor subgraph utxos hit block.inputs = parentOf hit.outpoint

instance FindsParent.decidable (parentOf : Outpoint → Option Outpoint) (subgraph : SubgraphId)
    (utxos : Tracked) (block : BootstrapBlock) (hit : DetectedPattern) :
    Decidable (FindsParent parentOf subgraph utxos block hit) :=
  inferInstanceAs (Decidable (_ = _))

theorem FindsParent.keepsNames {parentOf : Outpoint → Option Outpoint} {subgraph : SubgraphId}
    {utxos : Tracked} {block : BootstrapBlock} {hit : DetectedPattern}
    (finds : FindsParent parentOf subgraph utxos block hit) :
    KeepsNames (Originates parentOf) subgraph utxos block hit := by
  unfold KeepsNames
  unfold FindsParent at finds
  cases found : predecessor subgraph utxos hit block.inputs with
  | none => exact .genesis (finds.symm.trans found)
  | some outpoint =>
      intro origin earlier
      exact .transition (finds.symm.trans found) earlier

/-- Ids in a run whose hits find their parents are those of the starts of the lineages. -/
theorem Steps.originates {parentOf : Outpoint → Option Outpoint} {indexer : Indexer δ}
    {subgraph : SubgraphId} {mapping : Option LoadedMapping}
    {owned : ∀ loaded, mapping = some loaded → loaded.subgraph = subgraph}
    {finalityDepth : Option UInt64} {relations : Finset (String × String)} {state : NodeState δ}
    (steps : Steps indexer (NodeState.AssignsEach indexer (FindsParent parentOf subgraph))
      (.fresh indexer subgraph mapping owned finalityDepth relations) state) :
    Tracked.Named indexer.toolkit.blake2b (Originates parentOf) state.store.covenantUtxos :=
  (steps.tracked
    (fun utxos chosen (named : Tracked.Named indexer.toolkit.blake2b (Originates parentOf) utxos) =>
      named.deleteWhere chosen)
    (fun _ _ _ named finds => named.track finds.keepsNames) (Table.each_empty _)).2

/-- Two runtimes that find the same parents assign every output the same covenant id. -/
theorem covenant_id_network_wide (parentOf : Outpoint → Option Outpoint)
    {early : Indexer δ} {late : Indexer ε} (sameHash : early.toolkit.blake2b = late.toolkit.blake2b)
    {subgraph other : SubgraphId} {mapping otherMapping : Option LoadedMapping}
    {owned : ∀ loaded, mapping = some loaded → loaded.subgraph = subgraph}
    {otherOwned : ∀ loaded, otherMapping = some loaded → loaded.subgraph = other}
    {finalityDepth otherDepth : Option UInt64} {relations otherRelations : Finset (String × String)}
    {first : NodeState δ} {second : NodeState ε}
    (steps : Steps early (NodeState.AssignsEach early (FindsParent parentOf subgraph))
      (.fresh early subgraph mapping owned finalityDepth relations) first)
    (otherSteps : Steps late (NodeState.AssignsEach late (FindsParent parentOf other))
      (.fresh late other otherMapping otherOwned otherDepth otherRelations) second)
    {row otherRow : CovenantUtxoRecord}
    (tracked : first.store.covenantUtxos.find? row.key = some row)
    (otherTracked : second.store.covenantUtxos.find? otherRow.key = some otherRow)
    (same : row.outpoint = otherRow.outpoint) : row.covenantId = otherRow.covenantId := by
  obtain ⟨origin, earlier, id⟩ := steps.originates _ row tracked
  obtain ⟨otherOrigin, otherEarlier, otherId⟩ := otherSteps.originates _ otherRow otherTracked
  have one : origin = otherOrigin := earlier.unique (same ▸ otherEarlier)
  rw [id, otherId, one, sameHash]

/-! ### A runtime that sees the parent, and one that misses it -/

/-- The parents of the outputs "t" and "u". -/
def successionParent (outpoint : Outpoint) : Option Outpoint :=
  if outpoint = ("u", 0) then some ("t", 0) else none

/-- A block with those outputs and one of another lineage. -/
def widerBlock : IngestedBlock :=
  { headerBlock "c" 20 true with
    outputs := [htlcOutput "v", htlcOutput "t", htlcOutput "u"]
    inputs := [spendOf "u" "t"] }

/-- A runtime of another subgraph. -/
def otherSubgraph : SubgraphId where
  schemaName := "other"
  valid := by decide +kernel

theorem otherMapping_owned (loaded : LoadedMapping)
    (same : some { silentMapping with subgraph := otherSubgraph } = some loaded) :
    loaded.subgraph = otherSubgraph := by
  cases same
  rfl

def otherStart : NodeState (List (List UInt8)) :=
  .fresh htlcIndexer otherSubgraph (some { silentMapping with subgraph := otherSubgraph })
    otherMapping_owned (some 5) ∅

/-- Both runtimes assign "u" the same id. -/
theorem covenant_id_network_wide_succession :
    ∃ early late, htlcStart.notify htlcIndexer (.blockAdded successionBlock) = some early ∧
      otherStart.notify htlcIndexer (.blockAdded widerBlock) = some late ∧
      ∃ row otherRow : CovenantUtxoRecord,
        early.store.covenantUtxos.find? ("demo", "u", 0) = some row ∧
        late.store.covenantUtxos.find? ("other", "u", 0) = some otherRow ∧
        row.covenantId = otherRow.covenantId := by
  have checked : (htlcStart.notify htlcIndexer (.blockAdded successionBlock)).any (fun early =>
      (early.store.covenantUtxos.find? ("demo", "u", 0)).any fun row =>
        (otherStart.notify htlcIndexer (.blockAdded widerBlock)).any fun late =>
          (late.store.covenantUtxos.find? ("other", "u", 0)).any fun otherRow =>
            decide (row.outpoint = otherRow.outpoint)) = true := by decide +kernel
  obtain ⟨early, success, checked⟩ := (Option.any_eq_true _ _).mp checked
  obtain ⟨row, tracked, checked⟩ := (Option.any_eq_true _ _).mp checked
  obtain ⟨late, otherSuccess, checked⟩ := (Option.any_eq_true _ _).mp checked
  obtain ⟨otherRow, otherTracked, same⟩ := (Option.any_eq_true _ _).mp checked
  have finds : htlcStart.AssignsEach htlcIndexer (FindsParent successionParent demoSubgraph)
      (.blockAdded successionBlock) := by decide +kernel
  have otherFinds : otherStart.AssignsEach htlcIndexer (FindsParent successionParent otherSubgraph)
      (.blockAdded widerBlock) := by decide +kernel
  have own := Table.key_of_find tracked
  have otherOwn := Table.key_of_find otherTracked
  exact ⟨early, late, success, otherSuccess, row, otherRow, tracked, otherTracked,
    covenant_id_network_wide successionParent rfl (.notify _ .refl finds success)
      (.notify _ .refl otherFinds otherSuccess) (own ▸ tracked) (otherOwn ▸ otherTracked)
      (of_decide_eq_true same)⟩

/-- A block above the first lock that spends it into another output. -/
def transitionBlock : IngestedBlock :=
  { headerBlock "b" 11 true with
    outputs := [htlcOutput "u"]
    inputs := [spendOf "u" "t"] }

/-- A runtime deployed after the parent was committed names its child by itself. -/
theorem late_runtime_disagrees :
    ∃ early late, Steps htlcIndexer (fun _ _ => True) htlcStart early ∧
      Steps htlcIndexer (fun _ _ => True) htlcStart late ∧
      ∃ row otherRow : CovenantUtxoRecord,
        early.store.covenantUtxos.find? row.key = some row ∧
        late.store.covenantUtxos.find? otherRow.key = some otherRow ∧
        row.outpoint = otherRow.outpoint ∧ row.covenantId ≠ otherRow.covenantId := by
  have checked : (htlcStart.notifyEach htlcIndexer [firstLock, .blockAdded transitionBlock]).any
      (fun early => (htlcStart.notifyEach htlcIndexer [.blockAdded transitionBlock]).any
        fun late => early.store.covenantUtxos.any fun row =>
          late.store.covenantUtxos.any fun otherRow =>
            decide (row.outpoint = otherRow.outpoint ∧ row.covenantId ≠ otherRow.covenantId)) =
      true := by decide +kernel
  obtain ⟨early, ran, checked⟩ := (Option.any_eq_true _ _).mp checked
  obtain ⟨late, otherRan, verdict⟩ := (Option.any_eq_true _ _).mp checked
  obtain ⟨row, tracked, paired⟩ := (Table.any_eq_true_iff ..).mp verdict
  obtain ⟨otherRow, otherTracked, differs⟩ := (Table.any_eq_true_iff ..).mp paired
  obtain ⟨same, ids⟩ := of_decide_eq_true differs
  exact ⟨early, late, Steps.refl.notifyEach _ ran, Steps.refl.notifyEach _ otherRan, row, otherRow,
    tracked, otherTracked, same, ids⟩

end KasGraph
