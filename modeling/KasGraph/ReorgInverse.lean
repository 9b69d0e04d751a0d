import KasGraph.InterruptedReorg
import KasGraph.SpendOperation
import KasGraph.UnwindFrame

set_option autoImplicit false

/-! Blocks that were committed and unwound again. The rows a mapping derived go by score,
and some of them are written under the key of an output or of a spend, which a lower block
may have written too: there the unwind does not bring the lower block's row back. -/

namespace KasGraph

open EffectProgram

variable {δ : Type}

/-! ## What committed blocks write -/

def outputKey (subgraph : SubgraphId) (hit : DetectedPattern) : String × String × Int32 :=
  (subgraph.schemaName, hit.txHash, hit.outputIndex.toInt32)

/-- The key of the output that an input consumes. -/
def consumedKey (subgraph : SubgraphId) (input : IngestedTransactionInput) :
    String × String × Int32 :=
  (subgraph.schemaName, input.previousTxHash, input.previousOutputIndex.toInt32)

def spendKey (subgraph : SubgraphId) (input : IngestedTransactionInput) :
    String × String × String × Int32 :=
  (subgraph.schemaName, input.spendingTxHash, input.previousTxHash,
    input.previousOutputIndex.toInt32)

/-- The keys of the outputs that blocks lock. -/
def outputKeys (subgraph : SubgraphId) (mapping : Option LoadedMapping)
    (blocks : List BootstrapBlock) : Set (String × String × Int32) :=
  { k | mapping.isSome ∧ ∃ block ∈ blocks, ∃ hit ∈ block.detectorHits, outputKey subgraph hit = k }

namespace LineageTables

/-- The heads of the subgraph's covenants, each of which has rows, are all the heads. -/
structure Paired (tables : LineageTables) (subgraph : SubgraphId) : Prop where
  opened : ∀ id, (tables.heads.find? id).isSome ↔ ∃ seq, (tables.rows.find? (id, seq)).isSome
  heads : tables.heads.Each fun head => head.subgraph = subgraph
  rows : tables.rows.Each fun row => row.subgraph = subgraph

/-- The heads there were keep their subgraph and genesis, and the others belong to a subgraph. -/
structure HeadsFollow (subgraph : SubgraphId) (before after : Table CovenantLineageHead.key) :
    Prop where
  kept : ∀ id head, before.find? id = some head → ∃ now, after.find? id = some now ∧
    now.subgraph = head.subgraph ∧ now.genesisTx = head.genesisTx
  opened : ∀ id now, after.find? id = some now → before.find? id = none → now.subgraph = subgraph

end LineageTables

/-- A row of a derived table that was written for one of the blocks. -/
def DerivedView.WrittenFor {ρ κ : Type} [Ord κ] [Std.TransOrd κ] [Std.LawfulEqOrd κ] {key : ρ → κ}
    (view : DerivedView δ key) (subgraph : SubgraphId) (mapping : Option LoadedMapping)
    (blocks : List BootstrapBlock) (row : ρ) : Prop :=
  mapping.isSome ∧ view.subgraphOf row = subgraph ∧
    ∃ block ∈ blocks, view.daaOf row = block.daaScore

/-- A store after blocks of a subgraph were persisted on another: what each table was written
over with. -/
structure Store.Grown (subgraph : SubgraphId) (mapping : Option LoadedMapping)
    (blocks : List BootstrapBlock) (before after : Store δ) : Prop where
  checkpoints : before.kasgraphPoi.Overwritten
    { k | ∃ block ∈ blocks, (subgraph.schemaName, block.daaScore) = k }
    (fun row => row.subgraph = subgraph ∧ ∃ block ∈ blocks, row.blockDaaScore = block.daaScore)
    after.kasgraphPoi
  committed : before.kasgraphCommittedBlock.Overwritten
    { k | ∃ block ∈ blocks, (subgraph.schemaName, block.hash) = k }
    (fun row => ∃ block ∈ blocks, row = committedRecordOf subgraph block)
    after.kasgraphCommittedBlock
  detected : ∃ keys, before.kasgraphDetectedPattern.Overwritten keys
      (fun row => row.subgraph = subgraph ∧ ∃ block ∈ blocks, row.blockHash = block.hash)
      after.kasgraphDetectedPattern ∧
    ∀ k ∈ keys, ∃ block ∈ blocks, k.2.1 = block.hash
  entities : ∃ keys, before.entityVersions.Overwritten keys
      ((entityDerived (δ := δ)).WrittenFor subgraph mapping blocks) after.entityVersions ∧
    ∀ k ∈ keys, ∃ block ∈ blocks, k.2.2.2 = block.daaScore
  utxos : before.covenantUtxos.Overwritten (outputKeys subgraph mapping blocks)
    ((utxoDerived (δ := δ)).WrittenFor subgraph mapping blocks) after.covenantUtxos
  /-- A spend is recorded of every input that consumes an output tracked already, and of no
  other than an input that consumes a tracked output. -/
  spends : ∃ keys, before.covenantSpends.Overwritten keys
      ((spendDerived (δ := δ)).WrittenFor subgraph mapping blocks) after.covenantSpends ∧
    (∀ k ∈ keys, (∃ block ∈ blocks, ∃ input ∈ block.inputs, spendKey subgraph input = k) ∧
      (after.covenantUtxos.find? (k.1, k.2.2)).isSome) ∧
    (mapping.isSome → ∀ block ∈ blocks, ∀ input ∈ block.inputs,
      (before.covenantUtxos.find? (consumedKey subgraph input)).isSome →
        spendKey subgraph input ∈ keys)
  lineageRows : ∃ keys, before.kasgraphCovenantLineageRow.Overwritten keys
      ((lineageDerived (δ := δ)).WrittenFor subgraph mapping blocks)
      after.kasgraphCovenantLineageRow ∧
    ∀ k ∈ keys, before.kasgraphCovenantLineageRow.find? k = none
  heads : LineageTables.HeadsFollow subgraph before.kasgraphCovenantLineageHead
    after.kasgraphCovenantLineageHead
  paired : before.lineage.Paired subgraph → after.lineage.Paired subgraph
  unmapped : mapping = none → after.lineage = before.lineage

/-! ## One block after another -/

theorem setOf_exists_mem_append {α β : Type} (xs ys : List α) (relates : α → β → Prop) :
    { k | ∃ a ∈ xs ++ ys, relates a k } =
      { k | ∃ a ∈ xs, relates a k } ∪ { k | ∃ a ∈ ys, relates a k } := by
  ext k
  simp [or_and_right, exists_or]

theorem outputKeys_append (subgraph : SubgraphId) (mapping : Option LoadedMapping)
    (blocks more : List BootstrapBlock) :
    outputKeys subgraph mapping (blocks ++ more) =
      outputKeys subgraph mapping blocks ∪ outputKeys subgraph mapping more := by
  ext k
  simp [outputKeys, or_and_right, exists_or, and_or_left]

theorem LineageTables.HeadsFollow.trans {subgraph : SubgraphId}
    {before middle after : Table CovenantLineageHead.key}
    (first : HeadsFollow subgraph before middle) (second : HeadsFollow subgraph middle after) :
    HeadsFollow subgraph before after := by
  constructor
  · intro id head found
    obtain ⟨now, stands, own, genesis⟩ := first.kept id head found
    obtain ⟨last, still, own', genesis'⟩ := second.kept id now stands
    exact ⟨last, still, own'.trans own, genesis'.trans genesis⟩
  · intro id last still absent
    cases stands : middle.find? id with
    | none => exact second.opened id last still stands
    | some now =>
        obtain ⟨kept, found, own, -⟩ := second.kept id now stands
        rw [still, Option.some.injEq] at found
        rw [found, own]
        exact first.opened id now stands absent

section Trans

variable {subgraph : SubgraphId} {mapping : Option LoadedMapping}
  {blocks more : List BootstrapBlock} {before middle after : Store δ}

theorem exists_mem_append_left {α : Type} {xs : List α} (ys : List α) {holds : α → Prop}
    (found : ∃ a ∈ xs, holds a) : ∃ a ∈ xs ++ ys, holds a := by
  obtain ⟨a, member, here⟩ := found
  exact ⟨a, List.mem_append_left _ member, here⟩

theorem exists_mem_append_right {α : Type} (xs : List α) {ys : List α} {holds : α → Prop}
    (found : ∃ a ∈ ys, holds a) : ∃ a ∈ xs ++ ys, holds a := by
  obtain ⟨a, member, here⟩ := found
  exact ⟨a, List.mem_append_right _ member, here⟩

theorem DerivedView.written_trans {ρ κ : Type} [Ord κ] [Std.TransOrd κ] [Std.LawfulEqOrd κ]
    {key : ρ → κ} (view : DerivedView δ key) {t u v : Table key} {keys others : Set κ}
    (first : t.Overwritten keys (view.WrittenFor subgraph mapping blocks) u)
    (second : u.Overwritten others (view.WrittenFor subgraph mapping more) v) :
    t.Overwritten (keys ∪ others) (view.WrittenFor subgraph mapping (blocks ++ more)) v :=
  (first.mono fun _ written => ⟨written.1, written.2.1, exists_mem_append_left _ written.2.2⟩).trans
    (second.mono fun _ written => ⟨written.1, written.2.1, exists_mem_append_right _ written.2.2⟩)

theorem Store.Grown.trans (first : before.Grown subgraph mapping blocks middle)
    (second : middle.Grown subgraph mapping more after) :
    before.Grown subgraph mapping (blocks ++ more) after := by
  constructor
  · rw [setOf_exists_mem_append]
    exact (first.checkpoints.mono fun _ row => ⟨row.1, exists_mem_append_left _ row.2⟩).trans
      (second.checkpoints.mono fun _ row => ⟨row.1, exists_mem_append_right _ row.2⟩)
  · rw [setOf_exists_mem_append]
    exact (first.committed.mono fun _ row => exists_mem_append_left _ row).trans
      (second.committed.mono fun _ row => exists_mem_append_right _ row)
  · obtain ⟨keys, written, level⟩ := first.detected
    obtain ⟨others, rewritten, level'⟩ := second.detected
    refine ⟨keys ∪ others, (written.mono fun _ row => ⟨row.1, exists_mem_append_left _ row.2⟩).trans
      (rewritten.mono fun _ row => ⟨row.1, exists_mem_append_right _ row.2⟩), ?_⟩
    rintro k (early | late)
    · exact exists_mem_append_left _ (level k early)
    · exact exists_mem_append_right _ (level' k late)
  · obtain ⟨keys, written, level⟩ := first.entities
    obtain ⟨others, rewritten, level'⟩ := second.entities
    refine ⟨keys ∪ others, DerivedView.written_trans _ written rewritten, ?_⟩
    rintro k (early | late)
    · exact exists_mem_append_left _ (level k early)
    · exact exists_mem_append_right _ (level' k late)
  · rw [outputKeys_append]
    exact DerivedView.written_trans _ first.utxos second.utxos
  · obtain ⟨keys, written, spent, recorded⟩ := first.spends
    obtain ⟨others, rewritten, spent', recorded'⟩ := second.spends
    refine ⟨keys ∪ others, DerivedView.written_trans _ written rewritten, ?_, ?_⟩
    · rintro k (early | late)
      · exact ⟨exists_mem_append_left _ (spent k early).1, second.utxos.isSome (spent k early).2⟩
      · exact ⟨exists_mem_append_right _ (spent' k late).1, (spent' k late).2⟩
    · intro mapped block member input consumed tracked
      rcases List.mem_append.mp member with early | late
      · exact Or.inl (recorded mapped block early input consumed tracked)
      · exact Or.inr (recorded' mapped block late input consumed (first.utxos.isSome tracked))
  · obtain ⟨keys, written, free⟩ := first.lineageRows
    obtain ⟨others, rewritten, free'⟩ := second.lineageRows
    refine ⟨keys ∪ others, DerivedView.written_trans _ written rewritten, ?_⟩
    rintro k (early | late)
    · exact free k early
    · rw [← Option.not_isSome_iff_eq_none]
      intro stands
      have still := written.isSome stands
      rw [free' k late] at still
      cases still
  · exact first.heads.trans second.heads
  · exact fun paired => second.paired (first.paired paired)
  · exact fun none => (second.unmapped none).trans (first.unmapped none)

end Trans

/-! ## What one block writes -/

section Block

variable {indexer : Indexer δ} {subgraph : SubgraphId} {mapping : Option LoadedMapping}
  {block : BootstrapBlock} {before middle : Backend δ} {dispatched : List EntityVersionRecord}

theorem assignLineages_hits (blake2b : List UInt8 → List UInt8)
    (utxos : Table CovenantUtxoRecord.key) (hits : List DetectedPattern) :
    (assignLineages blake2b subgraph block utxos hits).map Prod.fst = hits := by
  induction hits generalizing utxos with
  | nil => rfl
  | cons hit hits ih => exact congrArg (hit :: ·) (ih _)

theorem utxoRows_keys (store : Store δ) :
    { k | ∃ row ∈ store.utxoRows indexer subgraph mapping block, row.key = k } =
      outputKeys subgraph mapping [block] := by
  ext k
  cases mapping with
  | none => simp [Store.utxoRows, outputKeys]
  | some loaded =>
      have hits := @assignLineages_hits subgraph block indexer.toolkit.blake2b store.covenantUtxos
        block.detectorHits
      have member : ∀ hit, hit ∈ block.detectorHits ↔
          ∃ step ∈ store.lineageSteps indexer subgraph block, step.1 = hit := by
        intro hit
        rw [← List.mem_map, Store.lineageSteps, hits]
      constructor
      · rintro ⟨row, listed, rfl⟩
        obtain ⟨step, assigned, rfl⟩ := List.mem_map.mp listed
        exact ⟨rfl, block, List.mem_singleton_self _, step.1, (member _).mpr ⟨step, assigned, rfl⟩,
          rfl⟩
      · rintro ⟨-, other, here, hit, detected, rfl⟩
        rw [List.mem_singleton.mp here] at detected
        obtain ⟨step, assigned, rfl⟩ := (member hit).mp detected
        exact ⟨_, List.mem_map.mpr ⟨step, assigned, rfl⟩, rfl⟩

theorem mem_consumedBy {utxos : Table CovenantUtxoRecord.key}
    {inputs : List IngestedTransactionInput} {spendingTx : String}
    {pair : IngestedTransactionInput × CovenantUtxoRecord} :
    pair ∈ consumedBy subgraph utxos inputs spendingTx ↔
      pair.1 ∈ inputs ∧ pair.1.spendingTxHash = spendingTx ∧
        utxos.find? (consumedKey subgraph pair.1) = some pair.2 := by
  obtain ⟨input, spent⟩ := pair
  simp [consumedBy, consumedAt, consumedKey, List.mem_filterMap, and_assoc]

/-- The spends of a block are those of the inputs that consume a tracked output. -/
theorem mem_spendsIn {utxos : Table CovenantUtxoRecord.key}
    {inputs : List IngestedTransactionInput} (input : IngestedTransactionInput) :
    (∃ spend ∈ spendsIn subgraph utxos inputs, spend.input = input) ↔
      input ∈ inputs ∧ (utxos.find? (consumedKey subgraph input)).isSome := by
  constructor
  · rintro ⟨spend, detected, rfl⟩
    obtain ⟨listed, -, found⟩ := mem_consumedBy.mp (spendsIn_operation detected).1
    rw [found]
    exact ⟨listed, rfl⟩
  · rintro ⟨listed, tracked⟩
    obtain ⟨spent, found⟩ := Option.isSome_iff_exists.mp tracked
    have consumed : (input, spent) ∈ consumedBy subgraph utxos inputs input.spendingTxHash :=
      mem_consumedBy.mpr ⟨listed, rfl, found⟩
    rw [← consumedIn_get] at consumed
    cases grouped : (consumedIn subgraph utxos inputs)[input.spendingTxHash]? with
    | none => simp [grouped] at consumed
    | some pairs =>
        rw [grouped, Option.getD_some] at consumed
        refine ⟨_, List.mem_flatMap.mpr ⟨(input.spendingTxHash, pairs),
          (OrderedMap.mem_toList ..).mpr grouped, List.mem_map.mpr ⟨_, consumed, rfl⟩⟩, rfl⟩

theorem DerivedView.overwritten_of_rows {ρ κ : Type} [Ord κ] [Std.TransOrd κ] [Std.LawfulEqOrd κ]
    {key : ρ → κ} (view : DerivedView δ key)
    (owned : ∀ loaded, mapping = some loaded → loaded.subgraph = subgraph)
    (rows : run exec (persistCommittedRows indexer subgraph mapping block) before =
      (.ok dispatched, middle)) :
    (view.table before.store).Overwritten
      { k | ∃ row ∈ view.rows (trace exec
        (persistCommittedRows indexer subgraph mapping block) before), key row = k }
      (view.WrittenFor subgraph mapping [block]) (view.table middle.store) := by
  have confined : Within Request.Appends _
      (persistCommittedRows indexer subgraph mapping block) :=
    (persistCommittedRows_within indexer owned).mono
      (fun request stamped => Stamped.appends stamped) fun _ held => held
  rw [view.run_replay confined rows]
  apply Table.overwritten_replay
  intro row wrote
  obtain ⟨request, listed, found⟩ := List.mem_filterMap.mp wrote
  have stamped := trace_within exec (persistCommittedRows_within indexer owned) _ request listed
  obtain ⟨mapped, own, level⟩ := view.stamped _ _ _ _ _ stamped found
  exact ⟨mapped, own, block, List.mem_singleton_self _, level⟩

theorem utxos_of_rows
    (rows : run exec (persistCommittedRows indexer subgraph mapping block) before =
      (.ok dispatched, middle)) :
    before.store.covenantUtxos.Overwritten (outputKeys subgraph mapping [block])
      ((utxoDerived (δ := δ)).WrittenFor subgraph mapping [block]) middle.store.covenantUtxos := by
  have stored := (Prod.mk.inj (persistCommittedRows_computes indexer subgraph block mapping before
    _ middle rows)).2
  rw [stored, (Store.withBlock_tables indexer subgraph mapping block before.store).2.2.2.2.1,
    ← @utxoRows_keys _ indexer subgraph mapping block before.store]
  apply Table.overwritten_replay
  cases mapping with
  | none => exact nofun
  | some loaded =>
      intro row listed
      obtain ⟨step, -, rfl⟩ := List.mem_map.mp listed
      exact ⟨rfl, rfl, block, List.mem_singleton_self _, rfl⟩

/-- A spend is recorded of every input that consumes a tracked output. -/
theorem spends_of_rows
    (rows : run exec (persistCommittedRows indexer subgraph mapping block) before =
      (.ok dispatched, middle)) :
    ∃ keys, before.store.covenantSpends.Overwritten keys
        ((spendDerived (δ := δ)).WrittenFor subgraph mapping [block]) middle.store.covenantSpends ∧
      (∀ k ∈ keys, (∃ input ∈ block.inputs, spendKey subgraph input = k) ∧
        (middle.store.covenantUtxos.find? (k.1, k.2.2)).isSome) ∧
      (mapping.isSome → ∀ input ∈ block.inputs,
        (before.store.covenantUtxos.find? (consumedKey subgraph input)).isSome →
          spendKey subgraph input ∈ keys) := by
  have tracked := utxos_of_rows rows
  have stored := (Prod.mk.inj (persistCommittedRows_computes indexer subgraph block mapping before
    _ middle rows)).2
  have table := (Store.withBlock_tables indexer subgraph mapping block before.store).2.2.2.2.2.1
  rw [← stored] at table
  refine ⟨{ k | ∃ row ∈ before.store.spendRows indexer subgraph mapping block, row.key = k },
    ?_, ?_, ?_⟩
  · rw [table]
    apply Table.overwritten_replay
    cases mapping with
    | none => exact nofun
    | some loaded =>
        intro row listed
        obtain ⟨spend, -, rfl⟩ := List.mem_map.mp listed
        exact ⟨rfl, rfl, block, List.mem_singleton_self _, rfl⟩
  · rintro k ⟨row, listed, rfl⟩
    cases mapping with
    | none => cases listed
    | some loaded =>
        obtain ⟨spend, detected, rfl⟩ := List.mem_map.mp listed
        obtain ⟨consumed, standing⟩ := (mem_spendsIn spend.input).mp ⟨spend, detected, rfl⟩
        refine ⟨⟨spend.input, consumed, rfl⟩, ?_⟩
        rw [stored]
        exact standing
  · intro mapped input listed consumed
    cases mapping with
    | none => cases mapped
    | some loaded =>
        have standing : (middle.store.covenantUtxos.find? (consumedKey subgraph input)).isSome :=
          tracked.isSome consumed
        rw [stored] at standing
        obtain ⟨spend, detected, rfl⟩ := (mem_spendsIn input).mpr ⟨listed, standing⟩
        exact ⟨_, List.mem_map.mpr ⟨spend, detected, rfl⟩, rfl⟩

end Block

/-! ### The lineage -/

namespace LineageTables

theorem headsFollow_refl (subgraph : SubgraphId) (heads : Table CovenantLineageHead.key) :
    HeadsFollow subgraph heads heads where
  kept := fun _ head found => ⟨head, found, rfl, rfl⟩
  opened := by
    intro id now found absent
    rw [found] at absent
    cases absent

variable (floats : Json.FloatText) (subgraph : SubgraphId) (daaScore : Int64)

theorem headsFollow_record (tables : LineageTables) (step : LineageStep) :
    HeadsFollow subgraph tables.heads (tables.record floats subgraph daaScore step).heads := by
  unfold record
  split
  · exact headsFollow_refl subgraph tables.heads
  · show HeadsFollow subgraph tables.heads (tables.withStep step floats subgraph daaScore).heads
    constructor
    · intro id head found
      by_cases here : step.2.covenantId = id
      · subst here
        refine ⟨_, head_withStep .., ?_⟩
        simp [nextHead, found]
      · rw [head_withStep_of_ne _ _ _ _ _ here]
        exact ⟨head, found, rfl, rfl⟩
    · intro id now found absent
      by_cases here : step.2.covenantId = id
      · subst here
        rw [head_withStep, Option.some.injEq] at found
        rw [← found]
        simp [nextHead, absent]
      · rw [head_withStep_of_ne _ _ _ _ _ here, absent] at found
        cases found

theorem Paired.record {tables : LineageTables} (paired : tables.Paired subgraph)
    (step : LineageStep) : (tables.record floats subgraph daaScore step).Paired subgraph := by
  unfold LineageTables.record
  split
  · exact paired
  · show (tables.withStep step floats subgraph daaScore).Paired subgraph
    constructor
    · intro id
      by_cases here : step.2.covenantId = id
      · subst here
        rw [head_withStep]
        simp only [Option.isSome_some, true_iff]
        refine ⟨tables.next step.2.covenantId, ?_⟩
        rw [row_withStep]
        rfl
      · rw [head_withStep_of_ne _ _ _ _ _ here, paired.opened]
        have same : ∀ seq, (tables.withStep step floats subgraph daaScore).rows.find? (id, seq) =
            tables.rows.find? (id, seq) := fun seq =>
          row_withStep_of_ne _ _ _ _ _ fun other => here (congrArg Prod.fst other)
        simp only [same]
    · refine paired.heads.upsert ?_
      unfold nextHead
      split
      · rename_i head found
        exact paired.heads _ head found
      · rfl
    · exact paired.rows.upsert rfl

theorem headsFollow_foldl_record (tables : LineageTables) (steps : List LineageStep) :
    HeadsFollow subgraph tables.heads
      (steps.foldl (LineageTables.record floats subgraph daaScore) tables).heads := by
  induction steps generalizing tables with
  | nil => exact headsFollow_refl subgraph tables.heads
  | cons step steps ih =>
      exact (headsFollow_record floats subgraph daaScore tables step).trans (ih _)

theorem Paired.foldl_record {tables : LineageTables} (paired : tables.Paired subgraph)
    (steps : List LineageStep) :
    (steps.foldl (LineageTables.record floats subgraph daaScore) tables).Paired subgraph := by
  induction steps generalizing tables with
  | nil => exact paired
  | cons step steps ih => exact ih (paired.record floats subgraph daaScore step)

end LineageTables

/-! ## Blocks persisted one after the other -/

section Persisted

variable {indexer : Indexer δ} {subgraph : SubgraphId} {mapping : Option LoadedMapping}

/-- A committed block and its checkpoint. -/
theorem grown_of_rows {block : BootstrapBlock} {before middle : Backend δ}
    {dispatched : List EntityVersionRecord} {checkpoint : PoiCheckpoint δ}
    (owned : ∀ loaded, mapping = some loaded → loaded.subgraph = subgraph)
    (rows : run exec (persistCommittedRows indexer subgraph mapping block) before =
      (.ok dispatched, middle))
    (own : checkpoint.subgraph = subgraph) (level : checkpoint.blockDaaScore = block.daaScore) :
    before.store.Grown subgraph mapping [block] (middle.checkpoint checkpoint).store := by
  have stored := (Prod.mk.inj (persistCommittedRows_computes indexer subgraph block mapping before
    _ middle rows)).2
  obtain ⟨poi, committed, detected, -, -, -, lineage⟩ :=
    before.store.withBlock_tables indexer subgraph mapping block
  rw [← stored] at poi committed detected lineage
  have confined : Within Request.Appends _
      (persistCommittedRows indexer subgraph mapping block) :=
    (persistCommittedRows_within indexer owned).mono
      (fun request stamped => Stamped.appends stamped) fun _ held => held
  constructor
  · have keys : { k | ∃ other ∈ [block], (subgraph.schemaName, other.daaScore) = k } =
        { k | ∃ row ∈ [checkpoint], row.key = k } := by
      ext k
      simp [PoiCheckpoint.key, own, level]
    show before.store.kasgraphPoi.Overwritten _ _ (middle.store.kasgraphPoi.replay [checkpoint])
    rw [keys, poi]
    apply Table.overwritten_replay
    intro row listed
    rw [List.mem_singleton.mp listed]
    exact ⟨own, block, List.mem_singleton_self _, level⟩
  · have keys : { k | ∃ other ∈ [block], (subgraph.schemaName, other.hash) = k } =
        { k | ∃ row ∈ [committedRecordOf subgraph block], row.key = k } := by
      ext k
      simp [CommittedBlockRecord.key, committedRecordOf]
    show before.store.kasgraphCommittedBlock.Overwritten _ _ middle.store.kasgraphCommittedBlock
    rw [keys, committed]
    apply Table.overwritten_replay
    intro row listed
    exact ⟨block, List.mem_singleton_self _, List.mem_singleton.mp listed⟩
  · have stamped : ∀ row ∈ before.store.detectedRows indexer subgraph mapping block,
        row.subgraph = subgraph ∧ row.blockHash = block.hash := by
      intro row listed
      cases mapping with
      | none =>
          obtain ⟨hit, -, rfl⟩ := List.mem_map.mp listed
          exact ⟨rfl, rfl⟩
      | some loaded =>
          obtain ⟨step, -, rfl⟩ := List.mem_map.mp listed
          exact ⟨rfl, rfl⟩
    refine ⟨{ k | ∃ row ∈ before.store.detectedRows indexer subgraph mapping block, row.key = k },
      ?_, ?_⟩
    · show before.store.kasgraphDetectedPattern.Overwritten _ _ middle.store.kasgraphDetectedPattern
      rw [detected]
      apply Table.overwritten_replay
      intro row listed
      exact ⟨(stamped row listed).1, block, List.mem_singleton_self _, (stamped row listed).2⟩
    · rintro k ⟨row, listed, rfl⟩
      exact ⟨block, List.mem_singleton_self _, (stamped row listed).2⟩
  · have written := entityDerived.overwritten_of_rows owned rows
    refine ⟨_, written, ?_⟩
    intro k member
    obtain ⟨row, found, -, -, other, here, same⟩ := (written k).1 member
    refine ⟨other, here, ?_⟩
    rw [← same, ← Table.key_of_find found]
    rfl
  · show before.store.covenantUtxos.Overwritten _ _ middle.store.covenantUtxos
    exact utxos_of_rows rows
  · obtain ⟨keys, written, spent, recorded⟩ := spends_of_rows rows
    refine ⟨keys, written, fun k member => ?_, fun mapped other here input listed consumed => ?_⟩
    · obtain ⟨input, listed, same⟩ := (spent k member).1
      exact ⟨⟨block, List.mem_singleton_self _, input, listed, same⟩, (spent k member).2⟩
    · rw [List.mem_singleton.mp here] at listed
      exact recorded mapped input listed consumed
  · refine ⟨_, lineageDerived.overwritten_of_rows owned rows, ?_⟩
    rintro k ⟨row, wrote, rfl⟩
    exact (NodeState.lineage_fresh_of_run confined rows).2 row wrote
  · show LineageTables.HeadsFollow subgraph before.store.lineage.heads middle.store.lineage.heads
    rw [lineage]
    cases mapping with
    | none => exact LineageTables.headsFollow_refl subgraph _
    | some loaded => exact LineageTables.headsFollow_foldl_record ..
  · intro paired
    show middle.store.lineage.Paired subgraph
    rw [lineage]
    cases mapping with
    | none => exact paired
    | some loaded => exact paired.foldl_record ..
  · intro none
    show middle.store.lineage = before.store.lineage
    rw [lineage, none]
    rfl

theorem Store.grown_refl (store : Store δ) : store.Grown subgraph mapping [] store := by
  have unlocked : outputKeys subgraph mapping [] = ∅ := by
    ext k
    simp [outputKeys]
  constructor
  · simpa using Table.overwritten_refl _ _
  · simpa using Table.overwritten_refl _ _
  · exact ⟨∅, Table.overwritten_refl _ _, nofun⟩
  · exact ⟨∅, Table.overwritten_refl _ _, nofun⟩
  · rw [unlocked]
    exact Table.overwritten_refl _ _
  · exact ⟨∅, Table.overwritten_refl _ _, nofun, nofun⟩
  · exact ⟨∅, Table.overwritten_refl _ _, nofun⟩
  · exact LineageTables.headsFollow_refl subgraph _
  · exact id
  · exact fun _ => rfl

theorem Persisted.grown {prior final : δ} {before after : Backend δ}
    {writes : List CommittedBlockWrite} {entries : List (LedgerEntry δ)}
    (owned : ∀ loaded, mapping = some loaded → loaded.subgraph = subgraph)
    (persisted : Persisted indexer subgraph mapping prior before writes entries final after) :
    before.store.Grown subgraph mapping (writes.map (·.block)) after.store := by
  induction persisted with
  | nil prior backend => exact backend.store.grown_refl
  | cons dispatched rows bytes rest ih => exact (grown_of_rows owned rows rfl rfl).trans ih

theorem Persisted.of_nil {prior final : δ} {before after : Backend δ}
    {entries : List (LedgerEntry δ)}
    (persisted : Persisted indexer subgraph mapping prior before [] entries final after) :
    after = before ∧ final = prior := by
  cases persisted
  exact ⟨rfl, rfl⟩

end Persisted

/-! ## Runs that remove nothing -/

/-- The states reached by notifications that remove no committed block, with the blocks
committed on the way. -/
inductive Commits (indexer : Indexer δ) (initial : NodeState δ) :
    List BootstrapBlock → NodeState δ → Prop where
  | refl : Commits indexer initial [] initial
  | notify {blocks : List BootstrapBlock} {state after : NodeState δ}
      (notification : ChainNotification) (earlier : Commits indexer initial blocks state)
      (keeps : (state.transition indexer notification).committedUnwinds = [])
      (success : state.notify indexer notification = some after) :
      Commits indexer initial (blocks ++ state.newlyCommitted indexer notification) after

namespace Commits

variable {indexer : Indexer δ} {initial state : NodeState δ} {blocks : List BootstrapBlock}

/-- What a notification that removes nothing persists. -/
theorem persisted_of_notify {after : NodeState δ} {notification : ChainNotification}
    (keeps : (state.transition indexer notification).committedUnwinds = [])
    (success : state.notify indexer notification = some after) :
    Persisted indexer state.subgraph state.mapping state.ingestion.priorPoi state.backend
      (state.transition indexer notification).committedWrites
      (state.newEntries indexer notification) after.ingestion.priorPoi after.backend := by
  obtain ⟨memory, anchor, anchored, notified⟩ := NodeState.notify_notified success
  have unwound := notified.unwound
  unfold NodeState.unwind at unwound
  rw [keeps, unwindCommitted_nil, Prod.mk.injEq, Except.ok.injEq] at unwound
  obtain ⟨rfl, rfl⟩ := unwound
  exact notified.persisted

theorem sameSubgraph (run : Commits indexer initial blocks state) :
    state.subgraph = initial.subgraph ∧ state.mapping = initial.mapping := by
  induction run with
  | refl => exact ⟨rfl, rfl⟩
  | notify notification earlier keeps success ih =>
      obtain ⟨memory, anchor, anchored, notified⟩ := NodeState.notify_notified success
      exact ⟨notified.sameSubgraph.1.trans ih.1, notified.sameSubgraph.2.trans ih.2⟩

theorem grown (run : Commits indexer initial blocks state) :
    initial.store.Grown initial.subgraph initial.mapping blocks state.store := by
  induction run with
  | refl => exact initial.store.grown_refl
  | @notify blocks state after notification earlier keeps success ih =>
      have step := (persisted_of_notify keeps success).grown state.runtime.owned
      have subgraph : state.runtime.subgraph = initial.subgraph := earlier.sameSubgraph.1
      have mapping : state.runtime.mapping = initial.mapping := earlier.sameSubgraph.2
      rw [subgraph, mapping] at step
      exact ih.trans step

/-- Nothing is persisted while no block is committed. -/
theorem of_nil (run : Commits indexer initial blocks state) (none : blocks = []) :
    state.store = initial.store ∧ state.ingestion.priorPoi = initial.ingestion.priorPoi := by
  induction run with
  | refl => exact ⟨rfl, rfl⟩
  | @notify blocks state after notification earlier keeps success ih =>
      obtain ⟨before, idle⟩ := List.append_eq_nil_iff.mp none
      have persisted := persisted_of_notify keeps success
      rw [List.map_eq_nil_iff.mp idle] at persisted
      obtain ⟨backend, digest⟩ := persisted.of_nil
      obtain ⟨store, prior⟩ := ih before
      exact ⟨(congrArg Backend.store backend).trans store, digest.trans prior⟩

/-- Every block committed on the way stays in memory, with those there were. -/
theorem memory (run : Commits indexer initial blocks state)
    (consistent : initial.ingestion.Consistent) :
    state.ingestion.Consistent ∧ ∀ (score : Int64) (block : BootstrapBlock),
      state.ingestion.committed[score]? = some block ↔
        initial.ingestion.committed[score]? = some block ∨
          (block ∈ blocks ∧ block.daaScore = score) := by
  induction run with
  | refl => exact ⟨consistent, by simp⟩
  | @notify blocks state after notification earlier keeps success ih =>
      obtain ⟨memory, anchor, anchored, notified⟩ := NodeState.notify_notified success
      have conserved := applyNotification_conserved ih.1 notified.applied
      have settled := applyNotification_consistent ih.1 notified.applied
      have ingestion : after.ingestion = memory.reseedPriorPoi after.ingestion.priorPoi :=
        congrArg SubgraphRuntime.ingestion notified.runtime
      have all : (state.ingestion.committed.filter fun _ block =>
          block ∉ (state.transition indexer notification).committedUnwinds) =
            state.ingestion.committed :=
        OrderedMap.filter_of_all _ _ (by simp [keeps])
      have written := conserved.written
      have fresh := conserved.writtenFresh
      rw [all] at written fresh
      refine ⟨by rw [ingestion]; exact ⟨settled.committedKeyed, settled.probabilisticKeyed,
        settled.disjoint⟩, fun score block => ?_⟩
      have entries : (score, block) ∈ IngestionState.writeEntries
            (state.transition indexer notification).committedWrites ↔
          block ∈ state.newlyCommitted indexer notification ∧ block.daaScore = score := by
        unfold IngestionState.writeEntries NodeState.newlyCommitted
        simp only [List.mem_map, Prod.mk.injEq]
        constructor
        · rintro ⟨write, listed, rfl, rfl⟩
          exact ⟨⟨write, listed, rfl⟩, rfl⟩
        · rintro ⟨⟨write, listed, rfl⟩, rfl⟩
          exact ⟨write, listed, rfl, rfl⟩
      have held : after.ingestion.committed[score]? = some block ↔
          state.ingestion.committed[score]? = some block ∨
            (score, block) ∈ IngestionState.writeEntries
              (state.transition indexer notification).committedWrites := by
        rw [ingestion]
        show memory.committed[score]? = some block ↔ _
        rw [written]
        apply OrderedMap.get_insertEach_eq_some_iff
        · rw [IngestionState.writeEntries, List.pairwise_map]
          exact List.pairwise_map.mp conserved.writtenOnce
        · intro entry listed
          obtain ⟨write, member, rfl⟩ := List.mem_map.mp listed
          exact fresh write member
      rw [held, ih.2, entries, List.mem_append, or_and_right, or_assoc]

/-- A finalized block delivered at a free score while no block waits is committed alone. -/
theorem of_idle {after : NodeState δ} {delivered : IngestedBlock}
    (idle : state.ingestion.probabilistic = ∅)
    (free : state.ingestion.committed[delivered.daaScore.toInt64]? = none)
    (finalized : delivered.isFinalized = true)
    (success : state.notify indexer (.blockAdded delivered) = some after) :
    Commits indexer state [blockFromRpc indexer.toolkit delivered] after := by
  have applied : state.transition indexer (.blockAdded delivered) =
      { IngestionTransition.none with
        committedWrites := [⟨blockFromRpc indexer.toolkit delivered⟩] } :=
    IngestionState.applyBlock_idle idle free finalized
  have keeps : (state.transition indexer (.blockAdded delivered)).committedUnwinds = [] := by
    rw [applied]
    rfl
  have commits := Commits.notify (.blockAdded delivered) .refl keeps success
  rw [NodeState.newlyCommitted, applied] at commits
  exact commits

end Commits

/-! ## What the unwind restores -/

/-- The rows of a store were written for blocks of the subgraph, and every spend is of an
output that is tracked. -/
structure Store.Records (subgraph : SubgraphId) (blocks : List BootstrapBlock) (store : Store δ) :
    Prop where
  checkpoints : store.kasgraphPoi.Each fun row =>
    ∃ block ∈ blocks, row.blockDaaScore = block.daaScore
  committed : store.kasgraphCommittedBlock.Each fun row =>
    ∃ block ∈ blocks, row = committedRecordOf subgraph block
  detected : store.kasgraphDetectedPattern.Each fun row =>
    ∃ block ∈ blocks, row.blockHash = block.hash
  entities : store.entityVersions.Each fun row =>
    ∃ block ∈ blocks, row.blockDaaScore = block.daaScore
  utxos : store.covenantUtxos.Each fun row =>
    ∃ block ∈ blocks, row.blockDaaScore = block.daaScore
  spends : store.covenantSpends.Each fun row =>
    ∃ block ∈ blocks, row.blockDaaScore = block.daaScore
  lineageRows : store.kasgraphCovenantLineageRow.Each fun row =>
    ∃ block ∈ blocks, row.daaScore = block.daaScore
  tracked : ∀ k, (store.covenantSpends.find? k).isSome →
    (store.covenantUtxos.find? (k.1, k.2.2)).isSome
  paired : store.lineage.Paired subgraph

section Lineage

variable {subgraph : SubgraphId} {cutoff : Int64} {before after : Store δ}

theorem repointHead_congr {rows : Table CovenantLineageRow.key} {head now : CovenantLineageHead}
    (own : head.subgraph = subgraph) (own' : now.subgraph = subgraph)
    (covenant : now.covenantId = head.covenantId) (genesis : now.genesisTx = head.genesisTx)
    (stands : (Store.lastLineageRow rows subgraph head.covenantId).isSome) :
    Store.repointHead rows subgraph now = Store.repointHead rows subgraph head := by
  obtain ⟨row, last⟩ := Option.isSome_iff_exists.mp stands
  unfold Store.repointHead
  rw [if_pos own, if_pos own', covenant, last]
  cases head
  cases now
  simp_all

/-- The head of a covenant after the unwind: the head there was, repointed. -/
theorem find_restored_head (paired : before.lineage.Paired subgraph)
    (follows : LineageTables.HeadsFollow subgraph before.kasgraphCovenantLineageHead
      after.kasgraphCovenantLineageHead)
    (rows : after.keptLineageRows subgraph cutoff = before.kasgraphCovenantLineageRow)
    (id : String) :
    (after.unwoundFrom subgraph cutoff).kasgraphCovenantLineageHead.find? id =
      (before.kasgraphCovenantLineageHead.find? id).map
        (Store.repointHead before.kasgraphCovenantLineageRow subgraph) := by
  unfold Store.unwoundFrom Store.keptLineageHeads
  simp only [rows, Table.find_updateRows, Table.find_deleteWhere]
  cases found : before.kasgraphCovenantLineageHead.find? id with
  | some head =>
      obtain ⟨now, stands, own, genesis⟩ := follows.kept id head found
      have mine : head.subgraph = subgraph := paired.heads id head found
      have here : head.covenantId = id := Table.key_of_find found
      have covenant : now.covenantId = head.covenantId := (Table.key_of_find stands).trans here.symm
      have opened : (before.lineage.heads.find? id).isSome := by
        rw [show before.lineage.heads.find? id = some head from found]
        rfl
      obtain ⟨seq, present⟩ := (paired.opened id).mp opened
      obtain ⟨row, listed⟩ := Option.isSome_iff_exists.mp present
      have rowCovenant : row.covenantId = id := congrArg Prod.fst (Table.key_of_find listed)
      have rowMine : row.subgraph = subgraph := paired.rows _ row listed
      have any : before.kasgraphCovenantLineageRow.any
          (fun row => row.covenantId == now.covenantId) = true := by
        rw [Table.any_eq_true_iff]
        refine ⟨row, ?_, ?_⟩
        · rw [Table.key_of_find listed]
          exact listed
        · rw [covenant, here, rowCovenant, beq_self_eq_true]
      have last : (Store.lastLineageRow before.kasgraphCovenantLineageRow subgraph
          head.covenantId).isSome := by
        rw [← Option.ne_none_iff_isSome]
        intro none
        refine (Table.selectLast_eq_none_iff _ _).mp none _ row listed ?_
        simp [rowMine, rowCovenant, here]
      rw [stands, Option.filter_some, if_pos (by simp [any]), Option.map_some, Option.map_some,
        repointHead_congr mine (own.trans mine) covenant genesis last]
  | none =>
      cases stands : after.kasgraphCovenantLineageHead.find? id with
      | none => rfl
      | some now =>
          have mine := follows.opened id now stands found
          have here : now.covenantId = id := Table.key_of_find stands
          have unlisted : before.kasgraphCovenantLineageRow.any
              (fun row => row.covenantId == now.covenantId) = false := by
            rw [← Bool.not_eq_true, Table.any_eq_true_iff]
            rintro ⟨row, listed, same⟩
            have covenant : row.covenantId = id := (beq_iff_eq.mp same).trans here
            have opened := (paired.opened id).mpr
              ⟨row.seq, by rw [← covenant]; exact Option.isSome_of_eq_some listed⟩
            rw [show before.lineage.heads.find? id = none from found] at opened
            cases opened
          rw [Option.filter_some, if_neg (by simp [mine, unlisted])]

theorem heads_restored_iff (paired : before.lineage.Paired subgraph)
    (follows : LineageTables.HeadsFollow subgraph before.kasgraphCovenantLineageHead
      after.kasgraphCovenantLineageHead)
    (rows : after.keptLineageRows subgraph cutoff = before.kasgraphCovenantLineageRow) :
    before.kasgraphCovenantLineageHead =
        (after.unwoundFrom subgraph cutoff).kasgraphCovenantLineageHead ↔
      before.kasgraphCovenantLineageHead.Each fun head =>
        Store.repointHead before.kasgraphCovenantLineageRow subgraph head = head := by
  have restored := find_restored_head paired follows rows
  constructor
  · intro same id head found
    have here := restored id
    rw [← same, found, Option.map_some, Option.some.injEq] at here
    exact here.symm
  · intro fixed
    apply Table.ext_find
    intro id
    rw [restored]
    cases found : before.kasgraphCovenantLineageHead.find? id with
    | none => rfl
    | some head => rw [Option.map_some, fixed id head found]

end Lineage

/-- A derived table is restored exactly when nothing stood under the keys written since. -/
theorem DerivedView.restored_iff {ρ κ : Type} [Ord κ] [Std.TransOrd κ] [Std.LawfulEqOrd κ]
    {key : ρ → κ} (view : DerivedView δ key) {subgraph : SubgraphId}
    {mapping : Option LoadedMapping} {suffix : List BootstrapBlock} {before after : Store δ}
    {keys : Set κ} {cutoff : Int64}
    (written : (view.table before).Overwritten keys (view.WrittenFor subgraph mapping suffix)
      (view.table after))
    (below : (view.table before).Each fun row => view.daaOf row < cutoff)
    (above : ∀ block ∈ suffix, cutoff ≤ block.daaScore) :
    view.table before = view.table (after.unwoundFrom subgraph cutoff) ↔
      ∀ k ∈ keys, (view.table before).find? k = none := by
  rw [view.cut, eq_comm]
  refine (written.deleteWhere_eq_iff ?_).trans (and_iff_right ?_)
  · rintro row ⟨-, own, block, member, level⟩
    simp [own, level, above block member]
  · intro k row found
    simp [below k row found]

section Blocks

variable {subgraph : SubgraphId} {mapping : Option LoadedMapping}
  {stay suffix unwinds : List BootstrapBlock} {before after : Store δ}

/-- The committed rows that an unwind of the suffix finds are those of its blocks. -/
theorem mem_removed_iff (grown : before.Grown subgraph mapping suffix after)
    (members : ∀ block, block ∈ unwinds ↔ block ∈ suffix)
    (named : ∀ block ∈ suffix, ∀ other ∈ suffix, block.hash = other.hash → block = other)
    (row : CommittedBlockRecord) :
    row ∈ after.committedRowsFor subgraph (unwinds.map (·.hash)) ↔
      ∃ block ∈ suffix, row = committedRecordOf subgraph block := by
  have standing : ∀ block ∈ suffix, after.kasgraphCommittedBlock.find?
      (subgraph.schemaName, block.hash) = some (committedRecordOf subgraph block) := by
    intro block member
    obtain ⟨row, found, other, listed, rfl⟩ := (grown.committed _).1 ⟨block, member, rfl⟩
    have hash : other.hash = block.hash := congrArg Prod.snd (Table.key_of_find found)
    rw [named other listed block member hash] at found
    exact found
  rw [Store.mem_committedRowsFor]
  constructor
  · rintro ⟨found, own, listed⟩
    obtain ⟨block, unwound, hash⟩ := List.mem_map.mp listed
    have member := (members block).mp unwound
    have key : row.key = (subgraph.schemaName, block.hash) := by
      rw [CommittedBlockRecord.key, own, hash]
    rw [key, standing block member, Option.some.injEq] at found
    exact ⟨block, member, found.symm⟩
  · rintro ⟨block, member, rfl⟩
    exact ⟨standing block member, rfl, List.mem_map.mpr ⟨block, (members block).mpr member, rfl⟩⟩

/-- Rows that were written under a listed tag go with that list, where no earlier row has a tag
of it. -/
theorem restored_of_overwritten {ρ κ α : Type} [Ord κ] [Std.TransOrd κ] [Std.LawfulEqOrd κ]
    [DecidableEq α] {key : ρ → κ} {keys : Set κ} {wrote : ρ → Prop} {t after : Table key}
    (written : t.Overwritten keys wrote after) {subgraph : SubgraphId}
    {subgraphOf : ρ → SubgraphId} {tag : ρ → α} {listed : List α}
    (theirs : ∀ row, wrote row → subgraphOf row = subgraph ∧ tag row ∈ listed)
    (apart : t.Each fun row => tag row ∉ listed)
    (tagged : ∀ k ∈ keys, ∀ row, key row = k → tag row ∈ listed) :
    t = after.deleteWhere fun row => subgraphOf row = subgraph && listed.contains (tag row) := by
  refine ((written.deleteWhere_eq_iff ?_).mpr ⟨?_, ?_⟩).symm
  · intro row wrote
    obtain ⟨own, within⟩ := theirs row wrote
    simp [own, within]
  · intro k row found
    simp [apart k row found]
  · intro k member
    rw [Option.eq_none_iff_forall_ne_some]
    intro row found
    exact apart k row found (tagged k member row (Table.key_of_find found))

/-- The rows that go by the hash of a block are restored. -/
theorem blocks_restored (records : before.Records subgraph stay)
    (grown : before.Grown subgraph mapping suffix after)
    (members : ∀ block, block ∈ unwinds ↔ block ∈ suffix)
    (above : ∀ block ∈ stay, ∀ other ∈ suffix, block.daaScore < other.daaScore)
    (named : ∀ block ∈ stay ++ suffix, ∀ other ∈ stay ++ suffix,
      block.hash = other.hash → block = other) :
    before.kasgraphPoi = (after.withoutBlocks subgraph unwinds).kasgraphPoi ∧
      before.kasgraphCommittedBlock =
        (after.withoutBlocks subgraph unwinds).kasgraphCommittedBlock ∧
      before.kasgraphDetectedPattern =
        (after.withoutBlocks subgraph unwinds).kasgraphDetectedPattern := by
  have removed := mem_removed_iff grown members fun block member other listed =>
    named block (List.mem_append_right _ member) other (List.mem_append_right _ listed)
  have apart : ∀ block ∈ stay, ∀ other ∈ suffix, block.hash ≠ other.hash := by
    intro block member other listed same
    have equal := named block (List.mem_append_left _ member) other
      (List.mem_append_right _ listed) same
    have lower := above block member other listed
    rw [equal] at lower
    exact lt_irrefl _ lower
  have scores : ∀ score, score ∈ (after.committedRowsFor subgraph (unwinds.map (·.hash))).map
      (·.daaScore) ↔ ∃ block ∈ suffix, block.daaScore = score := by
    intro score
    simp only [List.mem_map, removed]
    constructor
    · rintro ⟨row, ⟨block, member, rfl⟩, rfl⟩
      exact ⟨block, member, rfl⟩
    · rintro ⟨block, member, rfl⟩
      exact ⟨_, ⟨block, member, rfl⟩, rfl⟩
  have hashes : ∀ hash, hash ∈ (after.committedRowsFor subgraph (unwinds.map (·.hash))).map
      (·.blockHash) ↔ ∃ block ∈ suffix, block.hash = hash := by
    intro hash
    simp only [List.mem_map, removed]
    constructor
    · rintro ⟨row, ⟨block, member, rfl⟩, rfl⟩
      exact ⟨block, member, rfl⟩
    · rintro ⟨block, member, rfl⟩
      exact ⟨_, ⟨block, member, rfl⟩, rfl⟩
  have unscored : before.kasgraphPoi.Each fun row => row.blockDaaScore ∉
      (after.committedRowsFor subgraph (unwinds.map (·.hash))).map (·.daaScore) := by
    intro k row found listed
    obtain ⟨other, within, same⟩ := (scores _).mp listed
    obtain ⟨block, member, level⟩ := records.checkpoints k row found
    have lower := above block member other within
    rw [same, level] at lower
    exact lt_irrefl _ lower
  have unlisted : before.kasgraphCommittedBlock.Each fun row => row.blockHash ∉
      (after.committedRowsFor subgraph (unwinds.map (·.hash))).map (·.blockHash) := by
    intro k row found listed
    obtain ⟨other, within, same⟩ := (hashes _).mp listed
    obtain ⟨block, member, rfl⟩ := records.committed k row found
    exact apart block member other within same.symm
  have undetected : before.kasgraphDetectedPattern.Each fun row => row.blockHash ∉
      (after.committedRowsFor subgraph (unwinds.map (·.hash))).map (·.blockHash) := by
    intro k row found listed
    obtain ⟨other, within, same⟩ := (hashes _).mp listed
    obtain ⟨block, member, hash⟩ := records.detected k row found
    exact apart block member other within (hash.symm.trans same.symm)
  obtain ⟨keys, detected, level⟩ := grown.detected
  refine ⟨restored_of_overwritten grown.checkpoints ?_ unscored ?_,
    restored_of_overwritten grown.committed ?_ unlisted ?_,
    restored_of_overwritten detected ?_ undetected ?_⟩
  · rintro row ⟨own, block, member, level⟩
    exact ⟨own, (scores _).mpr ⟨block, member, level.symm⟩⟩
  · rintro k ⟨block, member, rfl⟩ row here
    exact (scores _).mpr ⟨block, member, (congrArg Prod.snd here).symm⟩
  · rintro row ⟨block, member, rfl⟩
    exact ⟨rfl, (hashes _).mpr ⟨block, member, rfl⟩⟩
  · rintro k ⟨block, member, rfl⟩ row here
    exact (hashes _).mpr ⟨block, member, (congrArg Prod.snd here).symm⟩
  · rintro row ⟨own, block, member, hash⟩
    exact ⟨own, (hashes _).mpr ⟨block, member, hash.symm⟩⟩
  · intro k member row here
    obtain ⟨block, within, hash⟩ := level k member
    exact (hashes _).mpr ⟨block, within, hash.symm.trans (congrArg (fun k => k.2.1) here).symm⟩

/-- Without a mapping no row of a derived table is written. -/
theorem DerivedView.unwritten {ρ κ : Type} [Ord κ] [Std.TransOrd κ] [Std.LawfulEqOrd κ]
    {key : ρ → κ} (view : DerivedView δ key) {keys : Set κ}
    (written : (view.table before).Overwritten keys (view.WrittenFor subgraph none suffix)
      (view.table after)) : view.table before = view.table after := by
  apply Table.ext_find
  intro k
  refine ((written k).2 fun member => ?_).symm
  obtain ⟨row, -, mapped, -⟩ := (written k).1 member
  cases mapped

/-- What an unwind needs to restore what a mapping derived: every head is its last row's, and the
suffix locks no output and spends by no input that is recorded already. -/
structure Store.Untouched (store : Store δ) (subgraph : SubgraphId)
    (suffix : List BootstrapBlock) : Prop where
  heads : store.kasgraphCovenantLineageHead.Each fun head =>
    Store.repointHead store.kasgraphCovenantLineageRow subgraph head = head
  outputs : ∀ block ∈ suffix, ∀ hit ∈ block.detectorHits,
    store.covenantUtxos.find? (outputKey subgraph hit) = none
  inputs : ∀ block ∈ suffix, ∀ input ∈ block.inputs,
    store.covenantSpends.find? (spendKey subgraph input) = none

/-- What the mapping derived is restored exactly when the suffix touches none of it. -/
theorem derived_restored_iff {loaded : LoadedMapping} {cutoff : Int64}
    (records : before.Records subgraph stay)
    (grown : before.Grown subgraph (some loaded) suffix after)
    (below : ∀ block ∈ stay, block.daaScore < cutoff)
    (above : ∀ block ∈ suffix, cutoff ≤ block.daaScore) :
    (before.entityVersions = (after.unwoundFrom subgraph cutoff).entityVersions ∧
        before.covenantUtxos = (after.unwoundFrom subgraph cutoff).covenantUtxos ∧
        before.covenantSpends = (after.unwoundFrom subgraph cutoff).covenantSpends ∧
        before.lineage = (after.unwoundFrom subgraph cutoff).lineage) ↔
      before.Untouched subgraph suffix := by
  have lower : ∀ score, (∃ block ∈ stay, score = block.daaScore) → score < cutoff := by
    rintro score ⟨block, member, rfl⟩
    exact below block member
  obtain ⟨entityKeys, entities, entityLevel⟩ := grown.entities
  obtain ⟨spendKeys, spends, spent, recorded⟩ := grown.spends
  obtain ⟨rowKeys, rows, free⟩ := grown.lineageRows
  have entitiesRestored : before.entityVersions =
      (after.unwoundFrom subgraph cutoff).entityVersions := by
    refine (entityDerived.restored_iff entities (fun k row found =>
      lower _ (records.entities k row found)) above).mpr ?_
    intro k member
    obtain ⟨block, listed, level⟩ := entityLevel k member
    rw [Option.eq_none_iff_forall_ne_some]
    intro row found
    have score : row.blockDaaScore = block.daaScore :=
      (congrArg (fun k => k.2.2.2) (Table.key_of_find found)).trans level
    have under := lower _ (records.entities _ row found)
    rw [score] at under
    exact absurd (above block listed) (not_le.mpr under)
  have rowsRestored : before.kasgraphCovenantLineageRow =
      after.keptLineageRows subgraph cutoff :=
    (lineageDerived.restored_iff rows (fun k row found =>
      lower _ (records.lineageRows k row found)) above).mpr free
  have utxosRestored := utxoDerived.restored_iff grown.utxos (fun k row found =>
    lower _ (records.utxos k row found)) above
  have spendsRestored := spendDerived.restored_iff spends (fun k row found =>
    lower _ (records.spends k row found)) above
  have headsRestored := heads_restored_iff records.paired grown.heads rowsRestored.symm
  have lineageRestored : before.lineage = (after.unwoundFrom subgraph cutoff).lineage ↔
      before.kasgraphCovenantLineageHead =
        (after.unwoundFrom subgraph cutoff).kasgraphCovenantLineageHead := by
    show LineageTables.mk _ _ = LineageTables.mk _ _ ↔ _
    rw [LineageTables.mk.injEq]
    exact and_iff_left rowsRestored
  constructor
  · rintro ⟨-, utxos, spends, lineage⟩
    have unspent := spendsRestored.mp spends
    refine ⟨headsRestored.mp (lineageRestored.mp lineage), ?_, ?_⟩
    · intro block member hit listed
      exact utxosRestored.mp utxos _ ⟨rfl, block, member, hit, listed, rfl⟩
    · intro block member input listed
      by_contra stands
      have consumed := records.tracked _ (Option.ne_none_iff_isSome.mp stands)
      exact stands (unspent _ (recorded rfl block member input listed consumed))
  · intro untouched
    refine ⟨entitiesRestored, utxosRestored.mpr ?_, spendsRestored.mpr ?_,
      lineageRestored.mpr (headsRestored.mpr untouched.heads)⟩
    · rintro k ⟨-, block, member, hit, listed, rfl⟩
      exact untouched.outputs block member hit listed
    · intro k member
      obtain ⟨block, here, input, listed, rfl⟩ := (spent k member).1
      exact untouched.inputs block here input listed

/-- The unwind of a suffix restores the tables exactly when, under a mapping, the suffix touched
nothing that was derived before. -/
theorem Store.restored_iff (records : before.Records subgraph stay)
    (grown : before.Grown subgraph mapping suffix after)
    (members : ∀ block, block ∈ unwinds ↔ block ∈ suffix)
    (above : ∀ block ∈ stay, ∀ other ∈ suffix, block.daaScore < other.daaScore)
    (named : ∀ block ∈ stay ++ suffix, ∀ other ∈ stay ++ suffix,
      block.hash = other.hash → block = other) (some : suffix ≠ []) :
    before.SameTables (after.unwound subgraph mapping unwinds) ↔
      (mapping.isSome → before.Untouched subgraph suffix) := by
  have unwound : unwinds ≠ [] := by
    obtain ⟨block, member⟩ := List.exists_mem_of_ne_nil suffix some
    exact List.ne_nil_of_mem ((members block).mpr member)
  obtain ⟨cutoff, lowest⟩ := lowestDaa_isSome unwound
  obtain ⟨attained, least⟩ := List.min?_eq_some_iff.mp lowest
  obtain ⟨first, listed, score⟩ := List.mem_map.mp attained
  have below : ∀ block ∈ stay, block.daaScore < cutoff := by
    intro block member
    rw [← score]
    exact above block member first ((members first).mp listed)
  have atLeast : ∀ block ∈ suffix, cutoff ≤ block.daaScore := fun block member =>
    least _ (List.mem_map.mpr ⟨block, (members block).mpr member, rfl⟩)
  have blocks := blocks_restored records grown members above named
  have frame := (after.withoutBlocks subgraph unwinds).unwoundDerived_frame subgraph mapping unwinds
  have whole : after.unwound subgraph mapping unwinds =
      (after.withoutBlocks subgraph unwinds).unwoundDerived subgraph mapping unwinds := rfl
  rw [sameTables_iff, whole, frame.1, frame.2.1, frame.2.2, and_iff_right blocks]
  unfold Store.unwoundDerived
  cases mapping with
  | none =>
      obtain ⟨_, entities, -⟩ := grown.entities
      obtain ⟨_, spends, -⟩ := grown.spends
      refine iff_of_true ⟨entityDerived.unwritten entities, utxoDerived.unwritten grown.utxos,
        spendDerived.unwritten spends, (grown.unmapped rfl).symm⟩ nofun
  | some loaded =>
      simp only [lowest, Option.isSome_some, forall_const]
      -- The removal of the blocks leaves what the mapping derived.
      have derived := derived_restored_iff records grown below atLeast
      exact derived

end Blocks

/-! ## A suffix committed and removed again -/

/-- What blocks wrote to a store without rows. -/
theorem Store.Grown.records {subgraph : SubgraphId} {mapping : Option LoadedMapping}
    {blocks : List BootstrapBlock} {relations : Finset (String × String)} {store : Store δ}
    (grown : ((Store.empty relations).ensureSubgraphSchema subgraph).Grown subgraph mapping blocks
      store) : store.Records subgraph blocks where
  checkpoints := fun k row found => (grown.checkpoints.each_of_empty k row found).2
  committed := grown.committed.each_of_empty
  detected := by
    obtain ⟨keys, written, -⟩ := grown.detected
    exact fun k row found => (written.each_of_empty k row found).2
  entities := by
    obtain ⟨keys, written, -⟩ := grown.entities
    exact fun k row found => (written.each_of_empty k row found).2.2
  utxos := fun k row found => (grown.utxos.each_of_empty k row found).2.2
  spends := by
    obtain ⟨keys, written, -⟩ := grown.spends
    exact fun k row found => (written.each_of_empty k row found).2.2
  lineageRows := by
    obtain ⟨keys, written, -⟩ := grown.lineageRows
    exact fun k row found => (written.each_of_empty k row found).2.2
  tracked := by
    obtain ⟨keys, written, spent, -⟩ := grown.spends
    intro k stands
    by_cases member : k ∈ keys
    · exact (spent k member).2
    · rw [(written k).2 member] at stands
      cases stands
  paired := by
    apply grown.paired
    constructor
    · intro id
      simp [Store.lineage, Store.empty, Store.ensureSubgraphSchema]
    · exact Table.each_empty _
    · exact Table.each_empty _

namespace NodeState

variable {indexer : Indexer δ} {state : NodeState δ} {removed : List String}
  {added : List IngestedBlock}

theorem mem_transition_unwinds {block : BootstrapBlock} :
    block ∈ (state.transition indexer (.virtualChainChanged removed added)).committedUnwinds ↔
      ∃ score : Int64, state.ingestion.committed[score]? = some block ∧ block.hash ∈ removed := by
  unfold transition
  rw [IngestionState.applyNotification_virtualChainChanged]
  simp only [OrderedMap.mem_valuesWhere, List.contains_eq_mem, decide_eq_true_eq]

end NodeState

section Reorg

variable {indexer : Indexer δ} {subgraph : SubgraphId} {mapping : Option LoadedMapping}
  {owned : ∀ loaded, mapping = some loaded → loaded.subgraph = subgraph}
  {finalityDepth : Option UInt64} {relations : Finset (String × String)}
  {stay suffix : List BootstrapBlock} {before middle after : NodeState δ}

/-- A chain change that removes exactly the blocks of a suffix unwinds these. -/
theorem unwinds_suffix
    (first : Commits indexer (.fresh indexer subgraph mapping owned finalityDepth relations) stay
      before)
    (second : Commits indexer before suffix middle)
    (named : ∀ block ∈ stay ++ suffix, ∀ other ∈ stay ++ suffix,
      block.hash = other.hash → block = other)
    {removed : List String} (exactly : ∀ hash, hash ∈ removed ↔ hash ∈ suffix.map (·.hash))
    (block : BootstrapBlock) :
    block ∈ (middle.transition indexer (.virtualChainChanged removed [])).committedUnwinds ↔
      block ∈ suffix := by
  have start : (NodeState.fresh indexer subgraph mapping owned finalityDepth
      relations).ingestion.Consistent := by
    constructor <;> simp [NodeState.fresh, NodeState.boot, IngestionState.withFinalityDepth]
  obtain ⟨consistent, early⟩ := first.memory start
  obtain ⟨-, late⟩ := second.memory consistent
  rw [NodeState.mem_transition_unwinds]
  constructor
  · rintro ⟨score, held, listed⟩
    rcases (late score block).mp held with stood | ⟨member, -⟩
    · rcases (early score block).mp stood with vacant | ⟨member, -⟩
      · simp [NodeState.fresh, NodeState.boot, IngestionState.withFinalityDepth] at vacant
      · obtain ⟨other, here, same⟩ := List.mem_map.mp ((exactly _).mp listed)
        rw [named block (List.mem_append_left _ member) other (List.mem_append_right _ here)
          same.symm]
        exact here
    · exact member
  · intro member
    exact ⟨block.daaScore, (late _ block).mpr (Or.inr ⟨member, rfl⟩),
      (exactly _).mpr (List.mem_map_of_mem member)⟩

/-- Blocks at scores above all others are committed and removed again. The tables and the digest
are those before exactly when, if any block was committed, the digest before is that of the
latest checkpoint and, under a mapping, the blocks touched nothing that was derived before. -/
theorem reorg_restores_iff (indexer : Indexer δ) (subgraph : SubgraphId)
    (mapping : Option LoadedMapping)
    (owned : ∀ loaded, mapping = some loaded → loaded.subgraph = subgraph)
    (finalityDepth : Option UInt64) (relations : Finset (String × String))
    (stay suffix : List BootstrapBlock) (before middle after : NodeState δ)
    (first : Commits indexer (.fresh indexer subgraph mapping owned finalityDepth relations) stay
      before)
    (second : Commits indexer before suffix middle)
    (above : ∀ block ∈ stay, ∀ other ∈ suffix, block.daaScore < other.daaScore)
    (named : ∀ block ∈ stay ++ suffix, ∀ other ∈ stay ++ suffix,
      block.hash = other.hash → block = other)
    (removed : List String) (exactly : ∀ hash, hash ∈ removed ↔ hash ∈ suffix.map (·.hash))
    (success : middle.notify indexer (.virtualChainChanged removed []) = some after) :
    before.store.SameTables after.store ∧
        after.ingestion.priorPoi = before.ingestion.priorPoi ↔
      (suffix ≠ [] →
        before.ingestion.priorPoi = anchorOf indexer subgraph before.store ∧
        (mapping.isSome → before.store.Untouched subgraph suffix)) := by
  have members := unwinds_suffix first second named exactly
  have writeless : (middle.transition indexer
      (.virtualChainChanged removed [])).committedWrites = [] := NodeState.transition_writes
  by_cases none : suffix = []
  · have keeps : (middle.transition indexer
        (.virtualChainChanged removed [])).committedUnwinds = [] := by
      rw [List.eq_nil_iff_forall_not_mem]
      intro block member
      rw [members, none] at member
      cases member
    obtain ⟨store, prior⟩ := (second.notify _ keeps success).of_nil (by
      rw [none, NodeState.newlyCommitted, writeless]
      rfl)
    refine iff_of_true ⟨?_, prior⟩ fun some => absurd none some
    rw [store, Store.sameTables_iff]
    simp
  · have records : before.store.Records subgraph stay := Store.Grown.records first.grown
    obtain ⟨ownSubgraph, ownMapping⟩ := first.sameSubgraph
    obtain ⟨sameSubgraph, sameMapping⟩ := second.sameSubgraph
    change before.subgraph = subgraph at ownSubgraph
    change before.mapping = mapping at ownMapping
    have grown := second.grown
    rw [ownSubgraph, ownMapping] at grown
    have some : (middle.transition indexer
        (.virtualChainChanged removed [])).committedUnwinds ≠ [] := by
      obtain ⟨block, member⟩ := List.exists_mem_of_ne_nil suffix none
      exact List.ne_nil_of_mem ((members block).mpr member)
    obtain ⟨memory, anchor, anchored, -, unwound, written, -⟩ := NodeState.notify_run success
    rw [writeless, List.foldlM_nil, run_pure, Prod.mk.injEq, Except.ok.injEq] at written
    obtain ⟨left, anchors⟩ := unwindCommitted_ok some unwound
    rw [sameSubgraph, sameMapping, ownSubgraph, ownMapping] at left
    rw [sameSubgraph, ownSubgraph] at anchors
    have final : after.store = middle.store.unwound subgraph mapping
        (middle.transition indexer (.virtualChainChanged removed [])).committedUnwinds := by
      rw [← left, written.2]
    have restored := Store.restored_iff records grown members above named none
    rw [← final] at restored
    have checkpoints : after.store.kasgraphPoi = before.store.kasgraphPoi := by
      rw [final]
      exact ((Store.unwoundDerived_frame _ _ _ _).1).trans
        (blocks_restored records grown members above named).1.symm
    have anchorSame : after.ingestion.priorPoi = anchorOf indexer subgraph before.store := by
      rw [← written.1, anchors, ← anchorOf_congr checkpoints, written.2]
    rw [restored, anchorSame, imp_iff_right none, and_comm, eq_comm]

end Reorg

/-! ## Two locks -/

def removeSecond : ChainNotification := .virtualChainChanged ["b"] []

/-- The output of block "a" again, in block "b". -/
def sameLock : ChainNotification := .blockAdded (htlcBlock "b" 11 "t")

def lowerBlock : BootstrapBlock := blockFromRpc htlcIndexer.toolkit (htlcBlock "a" 10 "t")

/-- Block "b" with a locked output of a transaction. -/
def upperBlock (txHash : String) : BootstrapBlock :=
  blockFromRpc htlcIndexer.toolkit (htlcBlock "b" 11 txHash)

theorem lowerBlock_committed {before : NodeState (List (List UInt8))}
    (success : htlcStart.notify htlcIndexer firstLock = some before) :
    Commits htlcIndexer htlcStart [lowerBlock] before :=
  .of_idle rfl rfl rfl success

theorem lowerBlock_below (txHash : String) : ∀ block ∈ [lowerBlock],
    ∀ other ∈ [upperBlock txHash], block.daaScore < other.daaScore := by
  intro block member other listed
  rw [List.mem_singleton.mp member, List.mem_singleton.mp listed, lowerBlock, upperBlock,
    blockFromRpc_daaScore, blockFromRpc_daaScore]
  show (10 : UInt64).toInt64 < (11 : UInt64).toInt64
  decide

theorem lowerBlock_named (txHash : String) : ∀ block ∈ [lowerBlock] ++ [upperBlock txHash],
    ∀ other ∈ [lowerBlock] ++ [upperBlock txHash], block.hash = other.hash → block = other := by
  have lower : lowerBlock.hash = "a" := by simp [lowerBlock, htlcBlock, headerBlock]
  have upper : (upperBlock txHash).hash = "b" := by simp [upperBlock, htlcBlock, headerBlock]
  simp [lower, upper]

theorem reorg_restores_iff_two :
    ∃ before middle after, htlcStart.notify htlcIndexer firstLock = some before ∧
      before.notify htlcIndexer secondLock = some middle ∧
      middle.notify htlcIndexer removeSecond = some after ∧
      before.store.SameTables after.store ∧
      after.ingestion.priorPoi = before.ingestion.priorPoi := by
  have checked : (htlcStart.notify htlcIndexer firstLock).any (fun before =>
      before.ingestion.probabilistic.isEmpty &&
      (before.ingestion.committed[(11 : UInt64).toInt64]?).isNone &&
      decide (before.ingestion.priorPoi = anchorOf htlcIndexer demoSubgraph before.store) &&
      !before.store.kasgraphCovenantLineageHead.any (fun head =>
        Store.repointHead before.store.kasgraphCovenantLineageRow demoSubgraph head != head) &&
      (before.store.covenantUtxos.find? ("demo", "u", 0)).isNone &&
      (before.notify htlcIndexer secondLock).any fun middle =>
        (middle.notify htlcIndexer removeSecond).isSome) = true := by decide +kernel
  obtain ⟨before, first, facts⟩ := (Option.any_eq_true _ _).mp checked
  simp only [Bool.and_eq_true, decide_eq_true_eq, Bool.not_eq_true',
    Std.ExtTreeMap.isEmpty_iff, Option.isNone_iff_eq_none] at facts
  obtain ⟨⟨⟨⟨⟨idle, unused⟩, anchored⟩, fixed⟩, free⟩, rest⟩ := facts
  obtain ⟨middle, second, runs⟩ := (Option.any_eq_true _ _).mp rest
  obtain ⟨after, success⟩ := Option.isSome_iff_exists.mp runs
  refine ⟨before, middle, after, first, second, success, ?_⟩
  have commits : Commits htlcIndexer before [upperBlock "u"] middle :=
    .of_idle idle unused rfl second
  refine (reorg_restores_iff htlcIndexer demoSubgraph (some silentMapping) silentMapping_owned none
    ∅ [lowerBlock] [upperBlock "u"] before middle after (lowerBlock_committed first) commits
    (lowerBlock_below "u") (lowerBlock_named "u") ["b"]
    (by simp [upperBlock, htlcBlock, headerBlock]) success).mpr fun _ => ⟨anchored, fun _ => ?_⟩
  have locks : (upperBlock "u").detectorHits.map
      (outputKey demoSubgraph) = [("demo", "u", 0)] := by decide +kernel
  constructor
  · intro id head found
    by_contra moved
    have any : before.store.kasgraphCovenantLineageHead.any (fun head =>
        Store.repointHead before.store.kasgraphCovenantLineageRow demoSubgraph head != head) =
          true := by
      rw [Table.any_eq_true_iff]
      refine ⟨head, ?_, by simpa using moved⟩
      rw [Table.key_of_find found]
      exact found
    rw [fixed] at any
    cases any
  · intro block member hit listed
    rw [List.mem_singleton.mp member] at listed
    have own := List.mem_map_of_mem (f := outputKey demoSubgraph) listed
    rw [locks, List.mem_singleton] at own
    rw [own]
    exact free
  · intro block member
    rw [List.mem_singleton.mp member]
    exact nofun

/-- An output that a removed block locked again is forgotten, though a block that stays
locked it first. -/
theorem removed_lock_is_forgotten :
    ¬ ∀ (stay suffix : List BootstrapBlock)
        (before middle after : NodeState (List (List UInt8))) (removed : List String),
      Commits htlcIndexer htlcStart stay before → Commits htlcIndexer before suffix middle →
      (∀ block ∈ stay, ∀ other ∈ suffix, block.daaScore < other.daaScore) →
      (∀ block ∈ stay ++ suffix, ∀ other ∈ stay ++ suffix,
        block.hash = other.hash → block = other) →
      (∀ hash, hash ∈ removed ↔ hash ∈ suffix.map (·.hash)) →
      middle.notify htlcIndexer (.virtualChainChanged removed []) = some after →
      before.store.SameTables after.store ∧
        after.ingestion.priorPoi = before.ingestion.priorPoi := by
  have checked : (htlcStart.notify htlcIndexer firstLock).any (fun before =>
      before.ingestion.probabilistic.isEmpty &&
      (before.ingestion.committed[(11 : UInt64).toInt64]?).isNone &&
      (before.store.covenantUtxos.find? ("demo", "t", 0)).isSome &&
      (before.notify htlcIndexer sameLock).any fun middle =>
        (middle.notify htlcIndexer removeSecond).any fun after =>
          (after.store.covenantUtxos.find? ("demo", "t", 0)).isNone) = true := by decide +kernel
  obtain ⟨before, first, facts⟩ := (Option.any_eq_true _ _).mp checked
  simp only [Bool.and_eq_true, Std.ExtTreeMap.isEmpty_iff, Option.isNone_iff_eq_none] at facts
  obtain ⟨⟨⟨idle, unused⟩, stood⟩, rest⟩ := facts
  obtain ⟨middle, second, rest⟩ := (Option.any_eq_true _ _).mp rest
  obtain ⟨after, success, gone⟩ := (Option.any_eq_true _ _).mp rest
  have commits : Commits htlcIndexer before [upperBlock "t"] middle :=
    .of_idle idle unused rfl second
  intro claimed
  obtain ⟨same, -⟩ := claimed [lowerBlock] [upperBlock "t"] before middle after ["b"]
    (lowerBlock_committed first) commits (lowerBlock_below "t") (lowerBlock_named "t")
    (by simp [upperBlock, htlcBlock, headerBlock]) success
  rw [same.utxos, Option.isNone_iff_eq_none.mp gone] at stood
  cases stood

end KasGraph
