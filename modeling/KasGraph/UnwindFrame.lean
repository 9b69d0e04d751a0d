import KasGraph.PublishedChain

set_option autoImplicit false

/-! The frame of an unwind. The rows a mapping derived are removed by score, from the
lowest unwound block upward: what the blocks that stay wrote stands as long as all of
them lie below it and none of their rows was taken over by an unwound block. -/

namespace KasGraph

open EffectProgram

variable {δ : Type}

/-- Filtering the parts of a list by a test that is constant on each part. -/
theorem filter_flatMap_of_constant {α β : Type} {parts : α → List β} {keep : α → Bool}
    {test : β → Bool} {list : List α}
    (constant : ∀ a ∈ list, ∀ b ∈ parts a, test b = keep a) :
    (list.flatMap parts).filter test = (list.filter keep).flatMap parts := by
  induction list with
  | nil => rfl
  | cons first rest ih =>
      have later := ih fun a member => constant a (List.mem_cons_of_mem _ member)
      have here := constant first (List.mem_cons_self ..)
      rw [List.flatMap_cons, List.filter_append, later]
      cases kept : keep first with
      | true =>
          have all : (parts first).filter test = parts first :=
            List.filter_eq_self.mpr fun b member => (here b member).trans kept
          rw [all, List.filter_cons_of_pos kept, List.flatMap_cons]
      | false =>
          have none : (parts first).filter test = [] :=
            List.filter_eq_nil_iff.mpr fun b member => by simp [here b member, kept]
          rw [none, List.filter_cons_of_neg (by simp [kept]), List.nil_append]

theorem lowestDaa_isSome {blocks : List BootstrapBlock} (some : blocks ≠ []) :
    ∃ cutoff, lowestDaa blocks = .some cutoff := by
  cases lowest : lowestDaa blocks with
  | some cutoff => exact ⟨cutoff, rfl⟩
  | none =>
      unfold lowestDaa at lowest
      rw [List.min?_eq_none_iff, List.map_eq_nil_iff] at lowest
      exact absurd lowest some

section Rows

variable {ρ κ : Type} [Ord κ] [Std.TransOrd κ] [Std.LawfulEqOrd κ] {key : ρ → κ}

/-- The rows that the blocks of a ledger wrote in a table, in commit order. -/
def TableView.written (view : TableView δ key) (ledger : List (LedgerEntry δ)) : List ρ :=
  ledger.flatMap fun entry => view.rows entry.requests

theorem TableView.written_append (view : TableView δ key) (first second : List (LedgerEntry δ)) :
    view.written (first ++ second) = view.written first ++ view.written second :=
  List.flatMap_append

/-- The table holds the rows of the still-committed blocks, and no others. -/
def DerivedView.HoldsLedger (view : DerivedView δ key) (state : NodeState δ) : Prop :=
  view.table state.store = Table.empty.replay (view.written state.ledger)

end Rows

/-- The block of an entry left a row in some derived table. -/
def LedgerEntry.Derives (entry : LedgerEntry δ) : Prop :=
  entityView.rows entry.requests ≠ [] ∨ utxoView.rows entry.requests ≠ [] ∨
    spendView.rows entry.requests ≠ [] ∨ lineageView.rows entry.requests ≠ []

namespace NodeState

variable (indexer : Indexer δ)

/-- The lowest score a notification unwinds. -/
def cutoff (state : NodeState δ) (notification : ChainNotification) : Option Int64 :=
  lowestDaa (state.transition indexer notification).committedUnwinds

/-- A notification that, with a mapping, unwinds exactly the deriving blocks at or
above a score, and takes over no row of an output or a spend that a lower block
wrote. -/
structure UnwindsAbove (state : NodeState δ) (notification : ChainNotification) : Prop where
  cut : ∀ cutoff, state.cutoff indexer notification = some cutoff → ∀ entry ∈ state.ledger,
    entry.Derives →
    (entry.block.hash ∈ state.unwoundHashes indexer notification ↔
      cutoff ≤ entry.block.daaScore)
  utxos : ∀ cutoff, state.cutoff indexer notification = some cutoff →
    ∀ row ∈ utxoView.written (state.survivors indexer notification), ∀ standing,
      state.store.covenantUtxos.find? row.key = some standing → standing.blockDaaScore < cutoff
  spends : ∀ cutoff, state.cutoff indexer notification = some cutoff →
    ∀ row ∈ spendView.written (state.survivors indexer notification), ∀ standing,
      state.store.covenantSpends.find? row.key = some standing → standing.blockDaaScore < cutoff

/-- Every derived table holds the rows of the still-committed blocks. -/
structure Framed (state : NodeState δ) : Prop where
  stamped : ∀ entry ∈ state.ledger, ∀ request ∈ entry.requests,
    Stamped state.subgraph state.mapping entry.block request
  entityVersions : entityDerived.HoldsLedger state
  covenantUtxos : utxoDerived.HoldsLedger state
  covenantSpends : spendDerived.HoldsLedger state
  lineageRows : lineageDerived.HoldsLedger state
  lineageApart : (lineageView.written state.ledger).Pairwise fun a b => a.key ≠ b.key

variable {indexer}

section View

variable {ρ κ : Type} [Ord κ] [Std.TransOrd κ] [Std.LawfulEqOrd κ] {key : ρ → κ}
  (view : DerivedView δ key) {state after : NodeState δ} {notification : ChainNotification}
  {memory : IngestionState δ} {anchor : δ} {anchored : Backend δ}

/-- A row of a ledger carries the subgraph and the score of its block. -/
theorem written_stamped {ledger : List (LedgerEntry δ)}
    (stamped : ∀ entry ∈ ledger, ∀ request ∈ entry.requests,
      Stamped state.subgraph state.mapping entry.block request)
    {entry : LedgerEntry δ} (member : entry ∈ ledger) {row : ρ}
    (wrote : row ∈ view.rows entry.requests) :
    state.mapping.isSome ∧ view.subgraphOf row = state.subgraph ∧
      view.daaOf row = entry.block.daaScore := by
  obtain ⟨request, listed, found⟩ := List.mem_filterMap.mp wrote
  exact view.stamped _ _ _ _ _ (stamped entry member request listed) found

/-- The unwind leaves the rows of the blocks that stay. -/
theorem Notified.unwinds_view
    (notified : Notified indexer state notification after memory anchor anchored)
    (stamped : ∀ entry ∈ state.ledger, ∀ request ∈ entry.requests,
      Stamped state.subgraph state.mapping entry.block request)
    (holds : view.HoldsLedger state)
    (cut : ∀ cutoff, state.cutoff indexer notification = some cutoff → ∀ entry ∈ state.ledger,
      view.rows entry.requests ≠ [] →
      (entry.block.hash ∈ state.unwoundHashes indexer notification ↔
        cutoff ≤ entry.block.daaScore))
    (standing : ∀ cutoff, state.cutoff indexer notification = some cutoff →
      ∀ row ∈ view.written (state.survivors indexer notification), ∀ last,
        (view.table state.store).find? (key row) = some last → view.daaOf last < cutoff) :
    view.table anchored.store =
      Table.empty.replay (view.written (state.survivors indexer notification)) := by
  have unwound := notified.unwound
  unfold unwind at unwound
  by_cases none : (state.transition indexer notification).committedUnwinds = []
  · rw [none, unwindCommitted_nil, Prod.mk.injEq] at unwound
    have all : state.survivors indexer notification = state.ledger := by
      unfold survivors unwoundHashes
      rw [none, List.filter_eq_self]
      intro entry _
      rfl
    rw [all, ← unwound.2]
    exact holds
  · rw [(unwindCommitted_ok none unwound).1]
    obtain ⟨cutoff, lowest⟩ := lowestDaa_isSome none
    unfold Store.unwound Store.unwoundDerived
    cases loaded : state.mapping with
    | none =>
        have empty : ∀ ledger, (∀ entry ∈ ledger, entry ∈ state.ledger) →
            view.written ledger = [] := by
          intro ledger listed
          rw [TableView.written, List.flatMap_eq_nil_iff]
          intro entry member
          rw [List.eq_nil_iff_forall_not_mem]
          intro row wrote
          have mapped := (written_stamped view stamped (listed entry member) wrote).1
          rw [loaded] at mapped
          cases mapped
        have nothing := empty state.ledger fun _ member => member
        have stays := empty (state.survivors indexer notification) fun entry member =>
          (mem_survivors.mp member).1
        unfold DerivedView.HoldsLedger at holds
        rw [nothing] at holds
        simp only [view.kept, stays, holds]
    | some mapping =>
        simp only [lowest]
        rw [view.cut, view.kept, holds, Table.deleteWhere_replay]
        · congr 1
          unfold TableView.written survivors
          apply filter_flatMap_of_constant
          intro entry member row wrote
          obtain ⟨-, own, level⟩ := written_stamped view stamped member wrote
          have exact := cut cutoff lowest entry member (List.ne_nil_of_mem wrote)
          rw [own, level]
          simp [exact]
        · intro row member stays last found
          obtain ⟨entry, listed, wrote⟩ := List.mem_flatMap.mp member
          obtain ⟨-, own, level⟩ := written_stamped view stamped listed wrote
          have exact := cut cutoff lowest entry listed (List.ne_nil_of_mem wrote)
          have survives : entry ∈ state.survivors indexer notification := by
            rw [mem_survivors]
            refine ⟨listed, fun removed => ?_⟩
            rw [own, level] at stays
            simp [exact.mp removed] at stays
          rw [← holds] at found
          have below := standing cutoff lowest row
            (List.mem_flatMap.mpr ⟨entry, survives, wrote⟩) last found
          simp [below]

/-- The rows of a notification's blocks are appended to those of the blocks that stay. -/
theorem Notified.holdsLedger
    (notified : Notified indexer state notification after memory anchor anchored)
    (unwound : view.table anchored.store =
      Table.empty.replay (view.written (state.survivors indexer notification))) :
    view.HoldsLedger after := by
  have appended := notified.persisted.table state.runtime.owned view.toTableView view.apart
  unfold DerivedView.HoldsLedger
  rw [notified.ledger, TableView.written_append, Table.replay_append, ← unwound]
  exact appended

/-- A row of a block that stays lies below the cutoff. -/
theorem survivor_below
    (stamped : ∀ entry ∈ state.ledger, ∀ request ∈ entry.requests,
      Stamped state.subgraph state.mapping entry.block request) {cutoff : Int64}
    (cut : ∀ entry ∈ state.ledger, view.rows entry.requests ≠ [] →
      (entry.block.hash ∈ state.unwoundHashes indexer notification ↔
        cutoff ≤ entry.block.daaScore))
    {row : ρ} (member : row ∈ view.written (state.survivors indexer notification)) :
    view.daaOf row < cutoff := by
  obtain ⟨entry, survives, wrote⟩ := List.mem_flatMap.mp member
  obtain ⟨listed, stays⟩ := mem_survivors.mp survives
  obtain ⟨-, -, level⟩ := written_stamped view stamped listed wrote
  have exact := cut entry listed (List.ne_nil_of_mem wrote)
  rw [level]
  exact not_le.mp fun above => stays (exact.mpr above)

end View

/-- A run inserts lineage rows under keys that are free. -/
theorem lineage_fresh_of_run {α : Type} {post : α → Prop} {program : NodeProgram δ α}
    (confined : Within Request.Appends post program) {before after : Backend δ} {value : α}
    (success : run exec program before = (.ok value, after)) :
    (lineageView.rows (trace exec program before)).Pairwise (fun a b => a.key ≠ b.key) ∧
      ∀ row ∈ lineageView.rows (trace exec program before),
        before.store.kasgraphCovenantLineageRow.find? row.key = none := by
  apply run_trace_induction exec confined (fun before requests _ =>
    (lineageView.rows requests).Pairwise (fun a b => a.key ≠ b.key) ∧
      ∀ row ∈ lineageView.rows requests,
        before.store.kasgraphCovenantLineageRow.find? row.key = none) _ _ success
  · intro before
    exact ⟨.nil, nofun⟩
  · intro request appends before reply middle requests after performed rest
    obtain ⟨answered, stored⟩ := exec_ok performed
    have table : middle.store.kasgraphCovenantLineageRow =
        before.store.kasgraphCovenantLineageRow.replay (lineageView.row request.op).toList := by
      rw [stored, NodeOp.onStore_ok answered]
      exact lineageView.upserts request.op before.store appends
    obtain ⟨apart, absent⟩ := rest
    obtain ⟨context, op⟩ := request
    cases inserted : lineageView.row op with
    | none =>
        have same : lineageView.rows (⟨context, op⟩ :: requests) = lineageView.rows requests :=
          List.filterMap_cons_none inserted
        rw [inserted, Option.toList_none, Table.replay_nil] at table
        rw [same, ← table]
        exact ⟨apart, absent⟩
    | some row =>
        have split : lineageView.rows (⟨context, op⟩ :: requests) =
            row :: lineageView.rows requests := List.filterMap_cons_some inserted
        rw [inserted] at table
        have grown : middle.store.kasgraphCovenantLineageRow =
            before.store.kasgraphCovenantLineageRow.upsert row := table
        have free := NodeOp.insertLineage_free inserted answered
        rw [split]
        constructor
        · rw [List.pairwise_cons]
          refine ⟨fun other member same => ?_, apart⟩
          have gone := absent other member
          rw [grown, ← same, Table.find_upsert_self] at gone
          cases gone
        · intro other member
          rcases List.mem_cons.mp member with rfl | later
          · exact free
          · have gone := absent other later
            rw [grown] at gone
            by_cases same : row.key = other.key
            · rw [← same, Table.find_upsert_self] at gone
              cases gone
            · rw [Table.find_upsert_of_ne _ _ same] at gone
              exact gone

theorem Persisted.lineage_fresh {subgraph : SubgraphId} {mapping : Option LoadedMapping}
    {prior final : δ} {before after : Backend δ} {writes : List CommittedBlockWrite}
    {entries : List (LedgerEntry δ)}
    (owned : ∀ loaded, mapping = some loaded → loaded.subgraph = subgraph)
    (persisted : Persisted indexer subgraph mapping prior before writes entries final after) :
    (lineageView.written entries).Pairwise (fun a b => a.key ≠ b.key) ∧
      ∀ row ∈ lineageView.written entries,
        before.store.kasgraphCovenantLineageRow.find? row.key = none := by
  induction persisted with
  | nil => exact ⟨.nil, nofun⟩
  | @cons prior final before middle after write writes entries dispatched rows bytes rest ih =>
      have confined : Within Request.Appends _
          (persistCommittedRows indexer subgraph mapping write.block) :=
        (persistCommittedRows_within indexer owned).mono
          (fun request stamped => Stamped.appends stamped) fun _ held => held
      obtain ⟨firstApart, firstAbsent⟩ := lineage_fresh_of_run confined rows
      obtain ⟨restApart, restAbsent⟩ := ih
      have grown := lineageView.run_replay confined rows
      have beyond : ∀ row ∈ lineageView.written entries,
          (∀ first ∈ lineageView.rows (trace exec
            (persistCommittedRows indexer subgraph mapping write.block) before),
            first.key ≠ row.key) := by
        intro row later first member same
        have gone : middle.store.kasgraphCovenantLineageRow.find? row.key = none :=
          restAbsent row later
        have here := Table.find_replay_isSome before.store.kasgraphCovenantLineageRow member
        rw [same] at here
        have stands : (middle.store.kasgraphCovenantLineageRow.find? row.key).isSome = true := by
          rw [show middle.store.kasgraphCovenantLineageRow = _ from grown]
          exact here
        rw [gone] at stands
        cases stands
      have split : lineageView.written (entryOf indexer subgraph mapping before write.block
          dispatched :: entries) = lineageView.rows (trace exec
            (persistCommittedRows indexer subgraph mapping write.block) before) ++
              lineageView.written entries := rfl
      rw [split]
      constructor
      · exact List.pairwise_append.mpr ⟨firstApart, restApart, fun first member row later =>
          beyond row later first member⟩
      · intro row member
        rcases List.mem_append.mp member with first | later
        · exact firstAbsent row first
        · have gone : middle.store.kasgraphCovenantLineageRow.find? row.key = none :=
            restAbsent row later
          rw [show middle.store.kasgraphCovenantLineageRow = _ from grown] at gone
          exact (Table.find_replay_of_untouched _ (beyond row later)).symm.trans gone

theorem Framed.notify {state after : NodeState δ} {notification : ChainNotification}
    (framed : state.Framed) (above : state.UnwindsAbove indexer notification)
    (success : state.notify indexer notification = some after) : after.Framed := by
  obtain ⟨memory, anchor, anchored, notified⟩ := notify_notified success
  obtain ⟨sameSubgraph, sameMapping⟩ := notified.sameSubgraph
  have entities := notified.unwinds_view entityDerived framed.stamped framed.entityVersions
    (fun cutoff lowest entry member wrote => above.cut cutoff lowest entry member (Or.inl wrote))
    (fun cutoff lowest row member last found => by
      have below := survivor_below entityDerived framed.stamped
        (fun entry listed wrote => above.cut cutoff lowest entry listed (Or.inl wrote)) member
      -- The key of an entity version holds the score.
      have level : last.blockDaaScore = row.blockDaaScore :=
        congrArg (fun k => k.2.2.2) (Table.key_of_find found)
      show last.blockDaaScore < cutoff
      rw [level]
      exact below)
  have utxos := notified.unwinds_view utxoDerived framed.stamped framed.covenantUtxos
    (fun cutoff lowest entry member wrote =>
      above.cut cutoff lowest entry member (Or.inr (Or.inl wrote))) above.utxos
  have spends := notified.unwinds_view spendDerived framed.stamped framed.covenantSpends
    (fun cutoff lowest entry member wrote =>
      above.cut cutoff lowest entry member (Or.inr (Or.inr (Or.inl wrote)))) above.spends
  have lineage := notified.unwinds_view lineageDerived framed.stamped framed.lineageRows
    (fun cutoff lowest entry member wrote =>
      above.cut cutoff lowest entry member (Or.inr (Or.inr (Or.inr wrote))))
    (fun cutoff lowest row member last found => by
      have below := survivor_below lineageDerived framed.stamped
        (fun entry listed wrote =>
          above.cut cutoff lowest entry listed (Or.inr (Or.inr (Or.inr wrote)))) member
      have logged : row ∈ lineageView.written state.ledger := by
        obtain ⟨entry, survives, wrote⟩ := List.mem_flatMap.mp member
        exact List.mem_flatMap.mpr ⟨entry, (mem_survivors.mp survives).1, wrote⟩
      have stands := Table.find_replay_of_mem Table.empty framed.lineageApart logged
      have holds : state.store.kasgraphCovenantLineageRow =
          Table.empty.replay (lineageView.written state.ledger) := framed.lineageRows
      rw [← holds] at stands
      have same : last = row := Option.some.inj (found.symm.trans stands)
      rw [same]
      exact below)
  obtain ⟨newApart, newAbsent⟩ := Persisted.lineage_fresh state.runtime.owned notified.persisted
  constructor
  · rw [notified.ledger, sameSubgraph, sameMapping]
    intro entry member
    rcases List.mem_append.mp member with stays | new
    · exact framed.stamped entry (mem_survivors.mp stays).1
    · exact notified.persisted.stamped state.runtime.owned entry new
  · exact notified.holdsLedger entityDerived entities
  · exact notified.holdsLedger utxoDerived utxos
  · exact notified.holdsLedger spendDerived spends
  · exact notified.holdsLedger lineageDerived lineage
  · rw [notified.ledger, TableView.written_append, List.pairwise_append]
    refine ⟨?_, newApart, fun row stays new added same => ?_⟩
    · have sublist : (lineageView.written (state.survivors indexer notification)).Sublist
          (lineageView.written state.ledger) :=
        (List.filter_sublist (l := state.ledger)).flatMap _
      exact framed.lineageApart.sublist sublist
    · have gone := newAbsent new added
      have holds : anchored.store.kasgraphCovenantLineageRow =
          Table.empty.replay (lineageView.written (state.survivors indexer notification)) := lineage
      rw [holds, ← same] at gone
      have stands := Table.find_replay_isSome (Table.empty : Table CovenantLineageRow.key) stays
      rw [gone] at stands
      cases stands

theorem Framed.fresh (indexer : Indexer δ) (subgraph : SubgraphId)
    (mapping : Option LoadedMapping)
    (owned : ∀ loaded, mapping = some loaded → loaded.subgraph = subgraph)
    (finalityDepth : Option UInt64) (relations : Finset (String × String)) :
    (NodeState.fresh indexer subgraph mapping owned finalityDepth relations).Framed where
  stamped := nofun
  entityVersions := rfl
  covenantUtxos := rfl
  covenantSpends := rfl
  lineageRows := rfl
  lineageApart := .nil

end NodeState

theorem firstLock_unwindsAbove : htlcStart.UnwindsAbove htlcIndexer firstLock := by
  have none : htlcStart.cutoff htlcIndexer firstLock = .none := by decide +kernel
  constructor
  · intro cutoff lowest
    rw [none] at lowest
    cases lowest
  · intro cutoff lowest
    rw [none] at lowest
    cases lowest
  · intro cutoff lowest
    rw [none] at lowest
    cases lowest

end KasGraph
