import KasGraph.PoiChain

set_option autoImplicit false

/-! The published chain. A verifier replays the checkpoints of a subgraph in score
order over the inputs of its committed blocks. The replay succeeds as long as the
committed blocks are a stack: blocks land above the ones that stay, and an unwind
takes the top. -/

namespace KasGraph

open EffectProgram

variable {δ : Type}

/-- The checkpoints of a subgraph, in score order. -/
def Store.checkpointsOf (store : Store δ) (subgraph : SubgraphId) : List (PoiCheckpoint δ) :=
  store.kasgraphPoi.select fun row => row.subgraph = subgraph

namespace NodeState

variable (indexer : Indexer δ)

/-- The POI input of the block committed at a score, the last one when there are
several. -/
def poiInputAt (state : NodeState δ) (daaScore : Int64) : Option (List UInt8) :=
  (state.ledger.reverse.find? fun entry => entry.block.daaScore == daaScore).map
    (·.poiInput indexer state.mapping)

/-- The checkpoints as a verifier receives them, unless one has no committed block. -/
def publishedCheckpoints (state : NodeState δ) : Option (List (PublishedCheckpoint δ)) :=
  (state.store.checkpointsOf state.subgraph).mapM fun row =>
    (state.poiInputAt indexer row.blockDaaScore).map fun input =>
      { canonicalEntityBytes := input, expectedPoi := row.poiHash }

/-- A notification that treats the committed blocks as a stack, hashes being
unique among them. -/
structure Stacks (state : NodeState δ) (notification : ChainNotification) : Prop where
  top : ∀ entry ∈ state.ledger, ∀ above ∈ state.ledger,
    entry.block.hash ∈ state.unwoundHashes indexer notification →
    entry.block.daaScore ≤ above.block.daaScore →
    above.block.hash ∈ state.unwoundHashes indexer notification
  above : ∀ entry ∈ state.survivors indexer notification,
    ∀ block ∈ state.newlyCommitted indexer notification, entry.block.daaScore < block.daaScore
  ascending : (state.newlyCommitted indexer notification).Pairwise fun a b =>
    a.daaScore < b.daaScore
  unique : ((state.survivors indexer notification).map (·.block.hash) ++
    (state.newlyCommitted indexer notification).map (·.hash)).Nodup

/-- The store holds the committed rows and the checkpoints of the ledger, and the
ledger is in score order. -/
structure Stacked (state : NodeState δ) : Prop where
  ascending : state.ledger.Pairwise fun a b => a.block.daaScore < b.block.daaScore
  unique : (state.ledger.map (·.block.hash)).Nodup
  committed : ∀ row : CommittedBlockRecord, row.subgraph = state.subgraph →
    (state.store.kasgraphCommittedBlock.find? row.key = some row ↔
      ∃ entry ∈ state.ledger, row = committedRecordOf state.subgraph entry.block)
  checkpoints : ∀ row : PoiCheckpoint δ, row.subgraph = state.subgraph →
    (state.store.kasgraphPoi.find? row.key = some row ↔
      row ∈ checkpointsFrom indexer state.subgraph state.mapping indexer.hasher.seed state.ledger)
  digest : state.ingestion.priorPoi =
    digestFrom indexer state.mapping indexer.hasher.seed state.ledger
  bytes : ∀ entry ∈ state.ledger, entry.poiInput indexer state.mapping ≠ []

end NodeState

/-! ## Stacks of blocks -/

/-- A list whose chosen elements are upward closed is its unchosen part followed by
its chosen one. -/
theorem filter_append_of_upper {α : Type} (chosen : α → Bool) (list : List α)
    (upper : list.Pairwise fun a b => chosen a = true → chosen b = true) :
    list = (list.filter fun a => !chosen a) ++ list.filter chosen := by
  induction list with
  | nil => rfl
  | cons first rest ih =>
      obtain ⟨spread, closed⟩ := List.pairwise_cons.mp upper
      cases picked : chosen first with
      | false =>
          rw [List.filter_cons_of_pos (by simp [picked]),
            List.filter_cons_of_neg (by simp [picked]), List.cons_append, ← ih closed]
      | true =>
          have all : ∀ b ∈ rest, chosen b = true := fun b member => spread b member picked
          have none : (rest.filter fun a => !chosen a) = [] := by
            rw [List.filter_eq_nil_iff]
            intro b member
            simp [all b member]
          rw [List.filter_cons_of_neg (by simp [picked]),
            List.filter_cons_of_pos (by simp [picked]), none, List.filter_eq_self.mpr all]
          rfl

section Stack

variable {indexer : Indexer δ} {subgraph : SubgraphId} {mapping : Option LoadedMapping}

/-- The latest checkpoint of a stack is that of its top. -/
theorem latestPoi_stack {store : Store δ} {ledger : List (LedgerEntry δ)}
    (ascending : ledger.Pairwise fun a b => a.block.daaScore < b.block.daaScore)
    (checkpoints : ∀ row : PoiCheckpoint δ, row.subgraph = subgraph →
      (store.kasgraphPoi.find? row.key = some row ↔
        row ∈ checkpointsFrom indexer subgraph mapping indexer.hasher.seed ledger)) :
    store.latestPoiForSubgraph subgraph =
      (checkpointsFrom indexer subgraph mapping indexer.hasher.seed ledger).getLast? := by
  rcases List.eq_nil_or_concat' ledger with rfl | ⟨lower, top, rfl⟩
  · apply latestPoi_eq_none
    intro row found own
    cases (checkpoints row own).mp found
  · rw [checkpointsFrom_append]
    show _ = (_ ++ [top.checkpoint indexer subgraph mapping
      (digestFrom indexer mapping indexer.hasher.seed lower)]).getLast?
    rw [List.getLast?_append, List.getLast?_singleton, Option.some_or]
    apply latestPoi_eq_some
    · rw [checkpoints _ rfl, checkpointsFrom_append]
      exact List.mem_append_right _ (List.mem_singleton_self _)
    · rfl
    · intro other found own
      obtain ⟨entry, member, score⟩ := checkpointsFrom_daa _ _ _ ((checkpoints other own).mp found)
      rw [← score]
      rcases List.mem_append.mp member with below | here
      · exact le_of_lt ((List.pairwise_append.mp ascending).2.2 entry below top
          (List.mem_singleton_self _))
      · rw [List.mem_singleton.mp here]
        exact le_rfl

/-- The digest of the highest checkpoint of a stack is the digest of the stack. -/
theorem anchorOf_stack {store : Store δ} {ledger : List (LedgerEntry δ)}
    (ascending : ledger.Pairwise fun a b => a.block.daaScore < b.block.daaScore)
    (checkpoints : ∀ row : PoiCheckpoint δ, row.subgraph = subgraph →
      (store.kasgraphPoi.find? row.key = some row ↔
        row ∈ checkpointsFrom indexer subgraph mapping indexer.hasher.seed ledger)) :
    anchorOf indexer subgraph store = digestFrom indexer mapping indexer.hasher.seed ledger := by
  unfold anchorOf
  rw [latestPoi_stack ascending checkpoints]
  rcases List.eq_nil_or_concat' ledger with rfl | ⟨lower, top, rfl⟩
  · rfl
  · rw [checkpointsFrom_append, digestFrom_append, List.getLast?_append]
    rfl

theorem checkpointsFrom_apart {prior : δ} {entries : List (LedgerEntry δ)}
    (ascending : entries.Pairwise fun a b => a.block.daaScore < b.block.daaScore) :
    (checkpointsFrom indexer subgraph mapping prior entries).Pairwise fun a b =>
      a.blockDaaScore < b.blockDaaScore := by
  have scores := checkpointsFrom_map indexer subgraph mapping prior entries
  have sorted : (entries.map (·.block.daaScore)).Pairwise (· < ·) :=
    List.pairwise_map.mpr ascending
  rw [← scores, List.pairwise_map] at sorted
  exact sorted

/-! ## The verifier on a stack -/

/-- Entries as a verifier receives them, chained from a digest. -/
def publishedFrom (indexer : Indexer δ) (mapping : Option LoadedMapping) (prior : δ) :
    List (LedgerEntry δ) → List (PublishedCheckpoint δ)
  | [] => []
  | entry :: entries =>
      { canonicalEntityBytes := entry.poiInput indexer mapping
        expectedPoi := entry.digest indexer mapping prior } ::
        publishedFrom indexer mapping (entry.digest indexer mapping prior) entries

theorem verifyPoiFrom_published [DecidableEq δ] (prior : δ) (index : Nat)
    (entries : List (LedgerEntry δ))
    (bytes : ∀ entry ∈ entries, entry.poiInput indexer mapping ≠ []) :
    verifyPoiFrom indexer.hasher prior index (publishedFrom indexer mapping prior entries) =
      .ok (.valid (digestFrom indexer mapping prior entries)) := by
  induction entries generalizing prior index with
  | nil => rfl
  | cons entry entries ih =>
      have computed : computePoi indexer.hasher prior (entry.poiInput indexer mapping) =
          .ok (entry.digest indexer mapping prior) :=
        (computePoi_eq_ok_iff _ _ _ _).mpr ⟨bytes entry (List.mem_cons_self ..), rfl⟩
      have rest := ih (entry.digest indexer mapping prior) (index + 1)
        fun other later => bytes other (List.mem_cons_of_mem _ later)
      simp only [publishedFrom, verifyPoiFrom, computed, bind, Except.bind]
      rw [if_neg (by simp)]
      exact rest

theorem mapM_checkpointsFrom (input : Int64 → Option (List UInt8)) (prior : δ)
    (entries : List (LedgerEntry δ))
    (looked : ∀ entry ∈ entries,
      input entry.block.daaScore = some (entry.poiInput indexer mapping)) :
    ((checkpointsFrom indexer subgraph mapping prior entries).mapM fun row =>
      (input row.blockDaaScore).map fun bytes =>
        ({ canonicalEntityBytes := bytes, expectedPoi := row.poiHash } :
          PublishedCheckpoint δ)) =
      some (publishedFrom indexer mapping prior entries) := by
  induction entries generalizing prior with
  | nil => rfl
  | cons entry entries ih =>
      have rest := ih (entry.digest indexer mapping prior)
        fun other later => looked other (List.mem_cons_of_mem _ later)
      have here := looked entry (List.mem_cons_self ..)
      rw [checkpointsFrom, List.mapM_cons, rest]
      simp only [LedgerEntry.checkpoint, here]
      rfl

end Stack

namespace NodeState

variable {indexer : Indexer δ}

/-- Every block of a ledger in score order is found at its score. -/
theorem Stacked.poiInputAt {state : NodeState δ} (stacked : state.Stacked indexer)
    {entry : LedgerEntry δ} (member : entry ∈ state.ledger) :
    state.poiInputAt indexer entry.block.daaScore = some (entry.poiInput indexer state.mapping) := by
  have apart : (state.ledger.map (·.block.daaScore)).Nodup :=
    (List.pairwise_map.mpr stacked.ascending).imp fun less => ne_of_lt less
  unfold NodeState.poiInputAt
  cases found : state.ledger.reverse.find? fun other =>
      other.block.daaScore == entry.block.daaScore with
  | none =>
      have missed := List.find?_eq_none.mp found entry (List.mem_reverse.mpr member)
      simp at missed
  | some other =>
      have score := List.find?_some found
      have listed := List.mem_reverse.mp (List.mem_of_find?_eq_some found)
      have same : other = entry :=
        List.inj_on_of_nodup_map apart listed member (by simpa using score)
      rw [same]
      rfl

/-- The checkpoints of a stack, in score order. -/
theorem Stacked.checkpointsOf {state : NodeState δ} (stacked : state.Stacked indexer) :
    state.store.checkpointsOf state.subgraph =
      checkpointsFrom indexer state.subgraph state.mapping indexer.hasher.seed state.ledger := by
  have listed : ∀ row, row ∈ state.store.checkpointsOf state.subgraph ↔
      row ∈ checkpointsFrom indexer state.subgraph state.mapping indexer.hasher.seed
        state.ledger := by
    intro row
    unfold Store.checkpointsOf
    rw [Table.mem_select]
    constructor
    · intro selected
      have own : row.subgraph = state.subgraph := by simpa using selected.2
      exact (stacked.checkpoints row own).mp selected.1
    · intro member
      have own := checkpointsFrom_own _ _ _ _ _ row member
      exact ⟨(stacked.checkpoints row own).mpr member, by simpa using own⟩
  have sorted : (state.store.checkpointsOf state.subgraph).Pairwise fun a b =>
      a.blockDaaScore < b.blockDaaScore := by
    have keys := OrderedMap.valuesWhere_pairwise state.store.kasgraphPoi.rows
      (fun _ row => row.subgraph = state.subgraph) PoiCheckpoint.key
      state.store.kasgraphPoi.keyed
    apply keys.imp_of_mem
    intro a b first second less
    have ownA := checkpointsFrom_own _ _ _ _ _ a ((listed a).mp first)
    have ownB := checkpointsFrom_own _ _ _ _ _ b ((listed b).mp second)
    rw [PoiCheckpoint.compare_key (ownA.trans ownB.symm)] at less
    exact Std.compare_eq_lt.mp less
  have chained : (checkpointsFrom indexer state.subgraph state.mapping indexer.hasher.seed
      state.ledger).Pairwise fun a b => a.blockDaaScore < b.blockDaaScore :=
    checkpointsFrom_apart stacked.ascending
  have same := (List.perm_ext_iff_of_nodup (sorted.imp fun less => fun eq => by
    rw [eq] at less
    exact lt_irrefl _ less) (chained.imp fun less => fun eq => by
    rw [eq] at less
    exact lt_irrefl _ less)).mpr listed
  apply same.eq_of_pairwise _ sorted chained
  intro a b _ _ less more
  exact absurd less (not_lt_of_gt more)

/-- The checkpoints of a stack verify against the inputs of its blocks. -/
theorem Stacked.verifies [DecidableEq δ] {state : NodeState δ}
    (stacked : state.Stacked indexer) :
    ∃ published, state.publishedCheckpoints indexer = some published ∧
      verifyPoiChain indexer.hasher published = .ok (.valid state.ingestion.priorPoi) := by
  refine ⟨publishedFrom indexer state.mapping indexer.hasher.seed state.ledger, ?_, ?_⟩
  · unfold publishedCheckpoints
    rw [stacked.checkpointsOf]
    exact mapM_checkpointsFrom _ _ _ fun entry member => stacked.poiInputAt member
  · rw [stacked.digest]
    exact verifyPoiFrom_published _ _ _ stacked.bytes

/-! ## Notifications on a stack -/

theorem Stacked.anchored {state : NodeState δ} (stacked : state.Stacked indexer) :
    state.Anchored indexer := by
  have anchoring := anchorOf_stack stacked.ascending stacked.checkpoints
  unfold Anchored
  rw [stacked.digest, anchoring]

section Unwinding

variable {state : NodeState δ} {notification : ChainNotification}

/-- An unwind splits the stack: the blocks that stay, and the unwound ones on top. -/
theorem Stacked.split (stacked : state.Stacked indexer)
    (onStack : state.Stacks indexer notification) :
    state.ledger = state.survivors indexer notification ++ state.ledger.filter fun entry =>
      (state.unwoundHashes indexer notification).contains entry.block.hash := by
  apply filter_append_of_upper
  apply stacked.ascending.imp_of_mem
  intro entry above first second less removed
  have gone := onStack.top entry first above second (by simpa using removed) (le_of_lt less)
  simpa using gone

theorem mem_survivors {entry : LedgerEntry δ} :
    entry ∈ state.survivors indexer notification ↔
      entry ∈ state.ledger ∧ entry.block.hash ∉ state.unwoundHashes indexer notification := by
  unfold survivors
  rw [List.mem_filter]
  simp

/-- The scores of the committed rows an unwind finds are those of the unwound blocks. -/
theorem Stacked.removedScores (stacked : state.Stacked indexer) (score : Int64) :
    score ∈ (state.store.committedRowsFor state.subgraph
        (state.unwoundHashes indexer notification)).map (·.daaScore) ↔
      ∃ entry ∈ state.ledger, entry.block.hash ∈ state.unwoundHashes indexer notification ∧
        entry.block.daaScore = score := by
  rw [List.mem_map]
  constructor
  · rintro ⟨row, member, rfl⟩
    obtain ⟨found, own, removed⟩ := (state.store.mem_committedRowsFor _ _ _).mp member
    obtain ⟨entry, listed, rfl⟩ := (stacked.committed row own).mp found
    exact ⟨entry, listed, removed, rfl⟩
  · rintro ⟨entry, listed, removed, rfl⟩
    have found := (stacked.committed (committedRecordOf state.subgraph entry.block) rfl).mpr
      ⟨entry, listed, rfl⟩
    exact ⟨_, (state.store.mem_committedRowsFor _ _ _).mpr ⟨found, rfl, removed⟩, rfl⟩

/-- The checkpoints that remain are those of the blocks that stay. -/
theorem Stacked.remains_iff (stacked : state.Stacked indexer)
    (onStack : state.Stacks indexer notification) (row : PoiCheckpoint δ)
    (own : row.subgraph = state.subgraph) :
    state.Remains indexer notification row ↔
      row ∈ checkpointsFrom indexer state.subgraph state.mapping indexer.hasher.seed
        (state.survivors indexer notification) := by
  have apart : (state.ledger.map (·.block.daaScore)).Nodup :=
    (List.pairwise_map.mpr stacked.ascending).imp fun less => ne_of_lt less
  have chain := congrArg (checkpointsFrom indexer state.subgraph state.mapping indexer.hasher.seed)
    (stacked.split onStack)
  rw [checkpointsFrom_append] at chain
  unfold Remains
  rw [stacked.checkpoints row own, stacked.removedScores, chain, List.mem_append]
  constructor
  · rintro ⟨stays | gone, -, kept⟩
    · exact stays
    · obtain ⟨entry, member, score⟩ := checkpointsFrom_daa _ _ _ gone
      obtain ⟨listed, removed⟩ := List.mem_filter.mp member
      exact absurd ⟨entry, listed, by simpa using removed, score⟩ kept
  · intro stays
    refine ⟨Or.inl stays, own, ?_⟩
    rintro ⟨other, listed, removed, score⟩
    obtain ⟨entry, member, score'⟩ := checkpointsFrom_daa _ _ _ stays
    obtain ⟨present, kept⟩ := mem_survivors.mp member
    have same : other = entry :=
      List.inj_on_of_nodup_map apart listed present (score.trans score'.symm)
    rw [same] at removed
    exact kept removed

/-- The committed rows after the unwind are those of the blocks that stay. -/
theorem Stacked.committed_unwound {after : NodeState δ} {memory : IngestionState δ} {anchor : δ}
    {anchored : Backend δ} (stacked : state.Stacked indexer)
    (notified : Notified indexer state notification after memory anchor anchored)
    (row : CommittedBlockRecord) (own : row.subgraph = state.subgraph) :
    anchored.store.kasgraphCommittedBlock.find? row.key = some row ↔
      ∃ entry ∈ state.survivors indexer notification,
        row = committedRecordOf state.subgraph entry.block := by
  have kept : anchored.store.kasgraphCommittedBlock.find? row.key = some row ↔
      state.store.kasgraphCommittedBlock.find? row.key = some row ∧
        row.blockHash ∉ state.unwoundHashes indexer notification := by
    have unwound := notified.unwound
    unfold unwind at unwound
    unfold unwoundHashes
    by_cases some : (state.transition indexer notification).committedUnwinds = []
    · rw [some, unwindCommitted_nil, Prod.mk.injEq] at unwound
      rw [some, ← unwound.2]
      simp
    · rw [(unwindCommitted_ok some unwound).1]
      exact Store.find_unwound_committed _ _ _ _ _ own
  rw [kept, stacked.committed row own]
  constructor
  · rintro ⟨⟨entry, listed, rfl⟩, stays⟩
    exact ⟨entry, mem_survivors.mpr ⟨listed, stays⟩, rfl⟩
  · rintro ⟨entry, member, rfl⟩
    obtain ⟨listed, stays⟩ := mem_survivors.mp member
    exact ⟨⟨entry, listed, rfl⟩, stays⟩

end Unwinding

/-- A notification that treats the blocks as a stack keeps the stack. -/
theorem Stacked.notify {state after : NodeState δ} {notification : ChainNotification}
    (stacked : state.Stacked indexer) (onStack : state.Stacks indexer notification)
    (success : state.notify indexer notification = some after) : after.Stacked indexer := by
  obtain ⟨memory, anchor, anchored, notified⟩ := notify_notified success
  obtain ⟨sameSubgraph, sameMapping⟩ := notified.sameSubgraph
  obtain ⟨anchoring, remaining⟩ := notified.anchored stacked.anchored
  obtain ⟨chained, final⟩ := notified.persisted.poi state.runtime.owned
  have recorded := notified.persisted.committed state.runtime.owned
  have blocks : (state.newEntries indexer notification).map (·.block) =
      state.newlyCommitted indexer notification := notified.persisted.blocks
  have ordered : (state.survivors indexer notification).Pairwise fun a b =>
      a.block.daaScore < b.block.daaScore := stacked.ascending.filter _
  have standing : ∀ row : PoiCheckpoint δ, row.subgraph = state.subgraph →
      (anchored.store.kasgraphPoi.find? row.key = some row ↔
        row ∈ checkpointsFrom indexer state.subgraph state.mapping indexer.hasher.seed
          (state.survivors indexer notification)) := fun row own =>
    (remaining row own).trans (stacked.remains_iff onStack row own)
  have digest : anchor = digestFrom indexer state.mapping indexer.hasher.seed
      (state.survivors indexer notification) :=
    anchoring.trans (anchorOf_stack ordered standing)
  have ascending : (state.newEntries indexer notification).Pairwise fun a b =>
      a.block.daaScore < b.block.daaScore := by
    have scores := onStack.ascending
    rw [← blocks, List.pairwise_map] at scores
    exact scores
  have above : ∀ entry ∈ state.survivors indexer notification,
      ∀ new ∈ state.newEntries indexer notification,
        entry.block.daaScore < new.block.daaScore := by
    intro entry stays new member
    apply onStack.above entry stays
    rw [← blocks]
    exact List.mem_map_of_mem member
  have unique := onStack.unique
  rw [← blocks, List.map_map] at unique
  constructor
  · rw [notified.ledger]
    exact List.pairwise_append.mpr ⟨ordered, ascending, above⟩
  · rw [notified.ledger, List.map_append]
    exact unique
  · intro row own
    rw [sameSubgraph] at own ⊢
    have apart : ((state.newEntries indexer notification).map fun entry =>
        committedRecordOf state.subgraph entry.block).Pairwise fun a b => a.key ≠ b.key := by
      have hashes := (List.nodup_append.mp unique).2.1
      rw [List.Nodup, List.pairwise_map] at hashes
      rw [List.pairwise_map]
      exact hashes.imp fun differ same => differ (congrArg Prod.snd same)
    have absent : ∀ row ∈ (state.newEntries indexer notification).map fun entry =>
        committedRecordOf state.subgraph entry.block,
        anchored.store.kasgraphCommittedBlock.find? row.key = none := by
      intro row member
      obtain ⟨new, listed, rfl⟩ := List.mem_map.mp member
      cases found : anchored.store.kasgraphCommittedBlock.find?
          (committedRecordOf state.subgraph new.block).key with
      | none => rfl
      | some old =>
          have keyed := Table.key_of_find found
          have hash : old.blockHash = new.block.hash := congrArg Prod.snd keyed
          have mine : old.subgraph = state.subgraph :=
            SubgraphId.eq_of_schemaName (congrArg Prod.fst keyed)
          rw [← keyed] at found
          obtain ⟨entry, stays, rfl⟩ := (stacked.committed_unwound notified old mine).mp found
          have differ := (List.nodup_append.mp unique).2.2 _
            (List.mem_map_of_mem stays) _ (List.mem_map_of_mem listed)
          exact absurd hash differ
    rw [notified.ledger, recorded, Table.find_replay_fresh _ apart absent,
      stacked.committed_unwound notified row own, List.mem_map]
    constructor
    · rintro (⟨entry, stays, rfl⟩ | ⟨new, member, rfl⟩)
      · exact ⟨entry, List.mem_append_left _ stays, rfl⟩
      · exact ⟨new, List.mem_append_right _ member, rfl⟩
    · rintro ⟨entry, member, rfl⟩
      rcases List.mem_append.mp member with stays | new
      · exact Or.inl ⟨entry, stays, rfl⟩
      · exact Or.inr ⟨entry, new, rfl⟩
  · intro row own
    rw [sameSubgraph] at own ⊢
    have apart : (checkpointsFrom indexer state.subgraph state.mapping anchor
        (state.newEntries indexer notification)).Pairwise fun a b => a.key ≠ b.key :=
      (checkpointsFrom_apart ascending).imp fun less same => by
        have level : _ = _ := congrArg Prod.snd same
        exact absurd level (ne_of_lt less)
    have absent : ∀ row ∈ checkpointsFrom indexer state.subgraph state.mapping anchor
        (state.newEntries indexer notification),
        anchored.store.kasgraphPoi.find? row.key = none := by
      intro row member
      cases found : anchored.store.kasgraphPoi.find? row.key with
      | none => rfl
      | some old =>
          have keyed := Table.key_of_find found
          have level : old.blockDaaScore = row.blockDaaScore := congrArg Prod.snd keyed
          have mine : old.subgraph = state.subgraph :=
            (SubgraphId.eq_of_schemaName (congrArg Prod.fst keyed)).trans
              (checkpointsFrom_own _ _ _ _ _ row member)
          rw [← keyed] at found
          obtain ⟨entry, stays, score⟩ := checkpointsFrom_daa _ _ _ ((standing old mine).mp found)
          obtain ⟨new, listed, score'⟩ := checkpointsFrom_daa _ _ _ member
          have less := above entry stays new listed
          rw [score, score', level] at less
          exact absurd less (lt_irrefl _)
    rw [sameMapping, notified.ledger, chained, checkpointsFrom_append, ← digest,
      Table.find_replay_fresh _ apart absent, List.mem_append, standing row own]
  · rw [final, notified.ledger, digest, sameMapping, digestFrom_append]
  · rw [notified.ledger, sameMapping]
    intro entry member
    rcases List.mem_append.mp member with stays | new
    · exact stacked.bytes entry (mem_survivors.mp stays).1
    · exact notified.persisted.bytes entry new

theorem Stacked.fresh (indexer : Indexer δ) (subgraph : SubgraphId)
    (mapping : Option LoadedMapping)
    (owned : ∀ loaded, mapping = some loaded → loaded.subgraph = subgraph)
    (finalityDepth : Option UInt64) (relations : Finset (String × String)) :
    (NodeState.fresh indexer subgraph mapping owned finalityDepth relations).Stacked indexer where
  ascending := .nil
  unique := List.nodup_nil
  committed := by
    intro row own
    simp [NodeState.fresh, boot, Store.empty, Store.ensureSubgraphSchema]
  checkpoints := by
    intro row own
    simp [NodeState.fresh, boot, Store.empty, Store.ensureSubgraphSchema, checkpointsFrom]
  digest := by
    have anchoring : anchorOf indexer subgraph
        ((Store.empty relations).ensureSubgraphSchema subgraph) = indexer.hasher.seed := rfl
    exact anchoring
  bytes := nofun

end NodeState

theorem firstBlock_onStack : bareStart.Stacks bareIndexer firstBlock where
  top := nofun
  above := nofun
  ascending := by
    rw [firstBlock_committed]
    exact List.pairwise_singleton _ _
  unique := by
    rw [firstBlock_committed]
    exact List.nodup_singleton _

end KasGraph
