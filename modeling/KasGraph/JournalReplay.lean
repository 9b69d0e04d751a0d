import KasGraph.Krc20Supply
import KasGraph.LegacyRecords

set_option autoImplicit false

/-! Journal replay. A stream of legacy operations is applied one by one, and each
accepted operation is recorded with the next number of its tick. After an unwind the
surviving rows, read in replay order, rebuild the ledger of the operations below the
cutoff. -/

namespace KasGraph

/-- A family of legacy operations: how its ledger applies an inscription, the row that
records an operation, and the way back from a row. -/
structure LegacyFamily (L ι ρ : Type) {ε : Type} (valid : ε → ι → Prop) where
  new : L
  apply : L → ι → String → Except Overflow (ApplyOutcome × L)
  tick : ι → String
  row : SubgraphId → Int64 → LegacyOp ε ι valid → ρ
  fromRecord : ρ → Except LegacyReconstructError ι
  sender : ρ → String

inductive JournalFailure where
  | overflow (reason : Overflow)
  | store (reason : StoreError)
  deriving DecidableEq

/-- What an operation performs: its inscription, by its sender. -/
def LegacyOp.performed {ε ι : Type} {valid : ε → ι → Prop} (op : LegacyOp ε ι valid) :
    ι × String := (op.inscription, op.sender)

/-- DAA scores do not decrease. -/
def InDaaOrder {ε ι : Type} {valid : ε → ι → Prop} (ops : List (LegacyOp ε ι valid)) : Prop :=
  ops.Pairwise fun a b => a.acceptingDaaScore ≤ b.acceptingDaaScore

/-- The operations below a cutoff. -/
def below {ε ι : Type} {valid : ε → ι → Prop} (cutoff : Int64) (ops : List (LegacyOp ε ι valid)) :
    List (LegacyOp ε ι valid) :=
  ops.filter fun op => op.acceptingDaaScore < cutoff

namespace LegacyFamily

variable {L ι ρ ε σ : Type} {valid : ε → ι → Prop} [LegacyOpRow ρ]

section Definitions

variable (family : LegacyFamily L ι ρ valid)

/-- Handle one operation: one of a transaction that has a row does nothing, an accepted one
is recorded with the next number of its tick. -/
def handle (subgraph : SubgraphId) (state : L × LegacyJournal ρ) (op : LegacyOp ε ι valid) :
    Except JournalFailure (L × LegacyJournal ρ) :=
  if state.2.opExists op.txHash then
    .ok state
  else
    match family.apply state.1 op.inscription op.sender with
    | .error overflow => .error (.overflow overflow)
    | .ok (.rejected _, after) => .ok (after, state.2)
    | .ok (.accepted, after) =>
        match state.2.nextSeq (family.tick op.inscription) with
        | .error reason => .error (.store reason)
        | .ok seq =>
            match state.2.record (family.row subgraph seq op) with
            | .error reason => .error (.store reason)
            | .ok journal => .ok (after, journal)

/-- Handle a stream from an empty ledger and an empty journal. -/
def handleEach (subgraph : SubgraphId) (ops : List (LegacyOp ε ι valid)) :
    Except JournalFailure (L × LegacyJournal ρ) :=
  ops.foldlM (family.handle subgraph) (family.new, [])

/-- Apply operations in order to a new ledger, whatever their outcomes. -/
def replay (ops : List (ι × String)) : Except Overflow L :=
  ops.foldlM (fun ledger (inscription, sender) => do
    let (_, after) ← family.apply ledger inscription sender
    return after) family.new

/-- Every operation is accepted, one after the other. -/
def AllAccepted (ledger : L) : List (ι × String) → Prop
  | [] => True
  | (inscription, sender) :: rest => ∃ after,
      family.apply ledger inscription sender = .ok (.accepted, after) ∧ AllAccepted after rest

/-- What a row performs. -/
def read (record : ρ) : Except LegacyReconstructError (ι × String) := do
  return (← family.fromRecord record, family.sender record)

/-- What a row performs, where it can be read. -/
def readBack (record : ρ) : Option (ι × String) := (family.read record).toOption

/-- The rows that a stream left and an unwind spared, in replay order. -/
def survivors (subgraph : SubgraphId) (cutoff : Int64) (journal : LegacyJournal ρ) : List ρ :=
  (journal.unwind subgraph cutoff).2.fetchOrdered subgraph

/-- What a journal restores after an unwind. The operations below the cutoff, handled in
their order, leave a ledger; where no two operations share a transaction it is the ledger of
applying them all. The surviving rows are read back as operations that are all accepted
again, and replaying them rebuilds that ledger. -/
structure Restored (replayFromRecords : List ρ → Except LegacyReconstructError (Except Overflow L))
    (subgraph : SubgraphId) (ops : List (LegacyOp ε ι valid)) (cutoff : Int64)
    (before : L × LegacyJournal ρ) (journal : LegacyJournal ρ) : Prop where
  handled : family.handleEach subgraph (below cutoff ops) = .ok before
  applied : (ops.map LegacyOp.txHash).Nodup →
    family.replay ((below cutoff ops).map LegacyOp.performed) = .ok before.1
  accepted : ∃ replayed, (survivors subgraph cutoff journal).mapM family.read = .ok replayed ∧
    family.AllAccepted family.new replayed
  rebuilt : replayFromRecords (survivors subgraph cutoff journal) = .ok (.ok before.1)

end Definitions

/-! ## Ledgers of independent ticks -/

/-- A family whose ledgers are cells under their ticks. -/
structure Cellular (family : LegacyFamily L ι ρ valid) (σ : Type) where
  rules : CellRules String σ (ι × String)
  cells : L → OrderedMap String σ
  Sound : L → Prop
  key : ∀ op, rules.key op = family.tick op.1
  cells_new : cells family.new = ∅
  sound_new : Sound family.new
  cells_inj : ∀ a b, cells a = cells b → a = b
  applies : ∀ ledger, Sound ledger → ∀ inscription sender, ∃ outcome after,
    family.apply ledger inscription sender = .ok (outcome, after) ∧ Sound after ∧
      cells after = rules.apply (cells ledger) (inscription, sender) ∧
      (outcome = .accepted ↔ rules.accepts (cells ledger) (inscription, sender) = true)
  row_subgraph : ∀ subgraph seq op, LegacyOpRow.subgraph (family.row subgraph seq op) = subgraph
  row_tick : ∀ subgraph seq op,
    LegacyOpRow.tick (family.row subgraph seq op) = family.tick op.inscription
  row_seq : ∀ subgraph seq op, LegacyOpRow.seq (family.row subgraph seq op) = seq
  row_daa : ∀ subgraph seq op,
    LegacyOpRow.acceptingDaaScore (family.row subgraph seq op) = op.acceptingDaaScore
  row_tx : ∀ subgraph seq op, LegacyOpRow.txHash (family.row subgraph seq op) = op.txHash
  reads : ∀ subgraph seq op, family.read (family.row subgraph seq op) = .ok op.performed

namespace Cellular

variable {family : LegacyFamily L ι ρ valid} (laws : family.Cellular σ)

/-- Replaying operations runs their cells. -/
theorem replay_from {ledger : L} (sound : laws.Sound ledger) (ops : List (ι × String)) :
    ∃ after, ops.foldlM (fun ledger (inscription, sender) => do
        let (_, after) ← family.apply ledger inscription sender
        return after) ledger = .ok after ∧
      laws.cells after = laws.rules.run (laws.cells ledger) ops := by
  induction ops generalizing ledger with
  | nil => exact ⟨ledger, rfl, rfl⟩
  | cons op rest ih =>
      obtain ⟨inscription, sender⟩ := op
      obtain ⟨outcome, next, stepped, soundNext, cells, -⟩ :=
        laws.applies ledger sound inscription sender
      obtain ⟨after, ran, reached⟩ := ih soundNext
      refine ⟨after, ?_, ?_⟩
      · simp only [List.foldlM_cons, stepped]
        exact ran
      · rw [reached, cells]
        rfl

theorem allAccepted {ledger : L} (sound : laws.Sound ledger) {ops : List (ι × String)}
    (all : laws.rules.accepted (laws.cells ledger) ops = ops) : family.AllAccepted ledger ops := by
  induction ops generalizing ledger with
  | nil => trivial
  | cons op rest ih =>
      obtain ⟨inscription, sender⟩ := op
      obtain ⟨taken, others⟩ := laws.rules.accepts_of_accepted_eq all
      obtain ⟨outcome, next, stepped, soundNext, cells, outcomeIff⟩ :=
        laws.applies ledger sound inscription sender
      rw [← cells] at others
      rw [outcomeIff.mpr taken] at stepped
      exact ⟨next, stepped, ih soundNext others⟩

/-! ## Handling a stream -/

/-- What holds after the operations handled so far: the ledger is their run, and the
journal holds the accepted ones in order. -/
structure Handled (subgraph : SubgraphId) (handled : List (LegacyOp ε ι valid))
    (state : L × LegacyJournal ρ) : Prop where
  sound : laws.Sound state.1
  cells : laws.cells state.1 = laws.rules.run ∅ (handled.map LegacyOp.performed)
  numbered : state.2.Numbered
  taken : ∃ taken : List (Int64 × LegacyOp ε ι valid),
    state.2 = taken.map (fun entry => family.row subgraph entry.1 entry.2) ∧
      (taken.map Prod.snd).map LegacyOp.performed =
        laws.rules.accepted ∅ (handled.map LegacyOp.performed) ∧
      (taken.map Prod.snd).Sublist handled

theorem handled_new (subgraph : SubgraphId) : laws.Handled subgraph [] (family.new, []) where
  sound := laws.sound_new
  cells := laws.cells_new
  numbered := .nil
  taken := ⟨[], rfl, rfl, List.Sublist.refl _⟩

/-- Handling one operation of a transaction without a row. -/
structure Stepped (subgraph : SubgraphId) (handled : List (LegacyOp ε ι valid))
    (state : L × LegacyJournal ρ) (op : LegacyOp ε ι valid) (next : L × LegacyJournal ρ) :
    Prop where
  fresh : state.2.opExists op.txHash = false
  handled : laws.Handled subgraph (handled ++ [op]) next
  grown : ∃ rows, next.2 = state.2 ++ rows ∧ ∀ row ∈ rows, ∃ seq, row = family.row subgraph seq op

variable {laws} {subgraph : SubgraphId}

theorem Handled.reject {handled : List (LegacyOp ε ι valid)} {state : L × LegacyJournal ρ}
    (now : laws.Handled subgraph handled state) {op : LegacyOp ε ι valid} {after : L}
    (sound : laws.Sound after)
    (cells : laws.cells after = laws.rules.apply (laws.cells state.1) op.performed)
    (rejected : laws.rules.accepts (laws.cells state.1) op.performed = false) :
    laws.Handled subgraph (handled ++ [op]) (after, state.2) := by
  obtain ⟨taken, rows, accepted, sublist⟩ := now.taken
  refine ⟨sound, ?_, now.numbered, taken, rows, ?_, sublist.trans (List.sublist_append_left _ _)⟩
  · rw [cells, now.cells, List.map_append, laws.rules.run_append]
    rfl
  · rw [List.map_append, laws.rules.accepted_append, ← accepted, ← now.cells]
    simp [CellRules.accepted, rejected]

theorem Handled.accept {handled : List (LegacyOp ε ι valid)} {state : L × LegacyJournal ρ}
    (now : laws.Handled subgraph handled state) {op : LegacyOp ε ι valid} {after : L} {seq : Int64}
    (sound : laws.Sound after)
    (cells : laws.cells after = laws.rules.apply (laws.cells state.1) op.performed)
    (accepted : laws.rules.accepts (laws.cells state.1) op.performed = true)
    (next : seq.toInt = (state.2.ofTick (family.tick op.inscription)).length) :
    laws.Handled subgraph (handled ++ [op]) (after, state.2 ++ [family.row subgraph seq op]) := by
  obtain ⟨taken, rows, before, sublist⟩ := now.taken
  refine ⟨sound, ?_, now.numbered.concat ?_, taken ++ [(seq, op)], ?_, ?_, ?_⟩
  · rw [cells, now.cells, List.map_append, laws.rules.run_append]
    rfl
  · rw [laws.row_seq, laws.row_tick]
    exact next
  · rw [rows, List.map_append]
    rfl
  · rw [List.map_append, List.map_append, List.map_append, laws.rules.accepted_append, before,
      ← now.cells]
    simp [CellRules.accepted, accepted]
  · rw [List.map_append]
    exact sublist.append (List.Sublist.refl _)

/-- One operation of the stream: nothing happens where its transaction has a row. -/
theorem Handled.step {handled : List (LegacyOp ε ι valid)} {state next : L × LegacyJournal ρ}
    (now : laws.Handled subgraph handled state) {op : LegacyOp ε ι valid}
    (ran : family.handle subgraph state op = .ok next) :
    (state.2.opExists op.txHash = true ∧ next = state) ∨
      laws.Stepped subgraph handled state op next := by
  unfold handle at ran
  by_cases known : state.2.opExists op.txHash = true
  · rw [if_pos known] at ran
    cases ran
    exact Or.inl ⟨known, rfl⟩
  · refine Or.inr ?_
    rw [if_neg known] at ran
    have fresh : state.2.opExists op.txHash = false := by simpa using known
    obtain ⟨outcome, after, stepped, sound, cells, outcomeIff⟩ :=
      laws.applies state.1 now.sound op.inscription op.sender
    rw [stepped] at ran
    cases outcome with
    | rejected reason =>
        cases ran
        have rejected : laws.rules.accepts (laws.cells state.1) op.performed = false :=
          Bool.eq_false_iff.mpr fun taken => nomatch outcomeIff.mpr taken
        exact ⟨fresh, now.reject sound cells rejected, [], by simp, nofun⟩
    | accepted =>
        cases allocated : state.2.nextSeq (family.tick op.inscription) with
        | error reason =>
            simp only [allocated] at ran
            cases ran
        | ok seq =>
            have counted := now.numbered.nextSeq_eq allocated
            have recorded := now.numbered.record_eq (family.row subgraph seq op)
              (by rw [laws.row_tx]; exact fresh) (by rw [laws.row_seq, laws.row_tick]; exact counted)
            simp only [allocated, recorded] at ran
            cases ran
            refine ⟨fresh, now.accept sound cells (outcomeIff.mp rfl) counted, _, rfl, ?_⟩
            intro row member
            exact ⟨seq, List.mem_singleton.mp member⟩

/-- A journal with room takes one more operation. -/
theorem Handled.handle_ok {handled : List (LegacyOp ε ι valid)} {state : L × LegacyJournal ρ}
    (now : laws.Handled subgraph handled state) (op : LegacyOp ε ι valid)
    (room : handled.length < 2 ^ 63) : ∃ next, family.handle subgraph state op = .ok next := by
  have rowsBound : state.2.length ≤ handled.length := by
    obtain ⟨taken, rows, -, sublist⟩ := now.taken
    have shorter := sublist.length_le
    rw [rows, List.length_map]
    rwa [List.length_map] at shorter
  unfold handle
  by_cases known : state.2.opExists op.txHash = true
  · rw [if_pos known]
    exact ⟨state, rfl⟩
  · rw [if_neg known]
    obtain ⟨outcome, after, stepped, -, -, -⟩ :=
      laws.applies state.1 now.sound op.inscription op.sender
    rw [stepped]
    cases outcome with
    | rejected reason => exact ⟨_, rfl⟩
    | accepted =>
        have inTick := LegacyJournal.ofTick_length_le state.2 (family.tick op.inscription)
        obtain ⟨seq, allocated⟩ :=
          now.numbered.nextSeq_ok (family.tick op.inscription) (by omega)
        have counted := now.numbered.nextSeq_eq allocated
        have recorded := now.numbered.record_eq (family.row subgraph seq op)
          (by rw [laws.row_tx]; simpa using known) (by rw [laws.row_seq, laws.row_tick]; exact counted)
        simp only [allocated, recorded]
        exact ⟨_, rfl⟩

/-- The transactions of the rows are transactions of handled operations. -/
theorem Handled.of_exists {handled : List (LegacyOp ε ι valid)} {state : L × LegacyJournal ρ}
    (now : laws.Handled subgraph handled state) {hash : String}
    (known : state.2.opExists hash = true) : hash ∈ handled.map LegacyOp.txHash := by
  obtain ⟨taken, rows, -, sublist⟩ := now.taken
  unfold LegacyJournal.opExists at known
  rw [rows, List.any_map, List.any_eq_true] at known
  obtain ⟨entry, member, same⟩ := known
  have inHandled := sublist.subset (List.mem_map_of_mem (f := Prod.snd) member)
  simp only [Function.comp_apply, laws.row_tx, beq_iff_eq] at same
  exact same ▸ List.mem_map_of_mem inHandled

/-- A stream, from a state that handled others. -/
theorem Handled.run {handled : List (LegacyOp ε ι valid)} {state final : L × LegacyJournal ρ}
    (now : laws.Handled subgraph handled state) {ops : List (LegacyOp ε ι valid)}
    (ran : ops.foldlM (family.handle subgraph) state = .ok final) :
    ∃ more, laws.Handled subgraph (handled ++ more) final ∧ more.Sublist ops ∧
      (((handled ++ ops).map LegacyOp.txHash).Nodup → more = ops) ∧
      ∃ rows, final.2 = state.2 ++ rows ∧
        ∀ row ∈ rows, ∃ op ∈ ops, ∃ seq, row = family.row subgraph seq op := by
  induction ops generalizing handled state with
  | nil =>
      cases ran
      exact ⟨[], by simpa using now, List.Sublist.refl _, fun _ => rfl, [], by simp, nofun⟩
  | cons op rest ih =>
      rw [List.foldlM_cons] at ran
      cases handledOp : family.handle subgraph state op with
      | error failure =>
          rw [handledOp] at ran
          cases ran
      | ok next =>
          rw [handledOp] at ran
          rcases now.step handledOp with ⟨known, rfl⟩ | step
          · obtain ⟨more, later, sublist, -, rows, grown, recorded⟩ := ih now ran
            refine ⟨more, later, sublist.cons op, fun distinct => ?_, rows, grown, ?_⟩
            · rw [List.map_append, List.nodup_append] at distinct
              exact absurd rfl (distinct.2.2 _ (now.of_exists known) _ (by simp))
            · intro row member
              obtain ⟨other, inRest, seq, same⟩ := recorded row member
              exact ⟨other, List.mem_cons_of_mem _ inRest, seq, same⟩
          · obtain ⟨more, later, sublist, every, rows, grown, recorded⟩ := ih step.handled ran
            obtain ⟨first, firstGrown, firstRecorded⟩ := step.grown
            refine ⟨op :: more, by simpa using later, sublist.cons_cons op, fun distinct => ?_,
              first ++ rows, by rw [grown, firstGrown, List.append_assoc], ?_⟩
            · rw [every (by simpa using distinct)]
            · intro row member
              rcases List.mem_append.mp member with inFirst | inRows
              · obtain ⟨seq, same⟩ := firstRecorded row inFirst
                exact ⟨op, List.mem_cons_self, seq, same⟩
              · obtain ⟨other, inRest, seq, same⟩ := recorded row inRows
                exact ⟨other, List.mem_cons_of_mem _ inRest, seq, same⟩

/-- A stream shorter than the range of the numbers is recorded. -/
theorem Handled.run_ok {handled : List (LegacyOp ε ι valid)} {state : L × LegacyJournal ρ}
    (now : laws.Handled subgraph handled state) {ops : List (LegacyOp ε ι valid)}
    (room : handled.length + ops.length < 2 ^ 63) :
    ∃ final, ops.foldlM (family.handle subgraph) state = .ok final := by
  induction ops generalizing handled state with
  | nil => exact ⟨state, rfl⟩
  | cons op rest ih =>
      rw [List.length_cons] at room
      obtain ⟨next, handledOp⟩ := now.handle_ok op (by omega)
      rw [List.foldlM_cons, handledOp]
      rcases now.step handledOp with ⟨-, rfl⟩ | step
      · exact ih now (by omega)
      · refine ih step.handled ?_
        rw [List.length_append, List.length_singleton]
        omega

/-! ## The cutoff -/

omit [LegacyOpRow ρ] in
/-- The operations below a cutoff come first. -/
theorem below_append {ops : List (LegacyOp ε ι valid)} (ordered : InDaaOrder ops)
    (cutoff : Int64) :
    ops = below cutoff ops ++ ops.filter fun op => cutoff ≤ op.acceptingDaaScore := by
  unfold InDaaOrder at ordered
  induction ops with
  | nil => rfl
  | cons op rest ih =>
      obtain ⟨first, later⟩ := List.pairwise_cons.mp ordered
      unfold below at ih ⊢
      by_cases here : op.acceptingDaaScore < cutoff
      · rw [List.filter_cons_of_pos (by simpa using here),
          List.filter_cons_of_neg (by simpa using here), List.cons_append, ← ih later]
      · have above : ∀ other ∈ rest, cutoff ≤ other.acceptingDaaScore := fun other member =>
          (not_lt.mp here).trans (first other member)
        have none : (rest.filter fun op => decide (op.acceptingDaaScore < cutoff)) = [] := by
          rw [List.filter_eq_nil_iff]
          intro other member
          simpa using above other member
        have all : (rest.filter fun op => decide (cutoff ≤ op.acceptingDaaScore)) = rest := by
          rw [List.filter_eq_self]
          intro other member
          simpa using above other member
        rw [List.filter_cons_of_neg (by simpa using here),
          List.filter_cons_of_pos (by simpa using not_lt.mp here), none, all]
        rfl

/-- Every row of a handled stream records one of its operations. -/
theorem Handled.rows_of {handled : List (LegacyOp ε ι valid)} {state : L × LegacyJournal ρ}
    (now : laws.Handled subgraph handled state) {row : ρ} (member : row ∈ state.2) :
    ∃ op ∈ handled, ∃ seq, row = family.row subgraph seq op := by
  obtain ⟨taken, rows, -, sublist⟩ := now.taken
  rw [rows, List.mem_map] at member
  obtain ⟨⟨seq, op⟩, inTaken, rfl⟩ := member
  exact ⟨op, sublist.subset (List.mem_map_of_mem (f := Prod.snd) inTaken), seq, rfl⟩

theorem Handled.ordered {handled : List (LegacyOp ε ι valid)} {state : L × LegacyJournal ρ}
    (now : laws.Handled subgraph handled state) (ordered : InDaaOrder handled) :
    state.2.Pairwise fun a b =>
      LegacyOpRow.acceptingDaaScore a ≤ LegacyOpRow.acceptingDaaScore b := by
  obtain ⟨taken, rows, -, sublist⟩ := now.taken
  rw [rows, List.pairwise_map]
  simp only [laws.row_daa]
  have inOrder : InDaaOrder (taken.map Prod.snd) := List.Pairwise.sublist sublist ordered
  unfold InDaaOrder at inOrder
  rwa [List.pairwise_map] at inOrder

/-- What a row of the family performs. -/
theorem readBack_row (laws : family.Cellular σ) (seq : Int64)
    (op : LegacyOp ε ι valid) :
    family.readBack (family.row subgraph seq op) = some op.performed := by
  unfold readBack
  rw [laws.reads]
  rfl

/-- Rows of the family are all read back. -/
theorem mapM_read {rows : List ρ} (laws : family.Cellular σ)
    (recorded : ∀ row ∈ rows, ∃ seq op, row = family.row subgraph seq op) :
    rows.mapM family.read = .ok (rows.filterMap family.readBack) := by
  induction rows with
  | nil => rfl
  | cons row rest ih =>
      obtain ⟨seq, op, rfl⟩ := recorded row List.mem_cons_self
      have others := ih fun other member => recorded other (List.mem_cons_of_mem _ member)
      rw [List.mapM_cons, laws.reads, others, List.filterMap_cons_some (laws.readBack_row seq op)]
      rfl

/-- The operations read back under a tick are those of the rows of the tick. -/
theorem under_readBack {rows : List ρ} (laws : family.Cellular σ)
    (recorded : ∀ row ∈ rows, ∃ seq op, row = family.row subgraph seq op) (name : String) :
    laws.rules.under (rows.filterMap family.readBack) name =
      (LegacyJournal.ofTick rows name).filterMap family.readBack := by
  induction rows with
  | nil => rfl
  | cons row rest ih =>
      obtain ⟨seq, op, rfl⟩ := recorded row List.mem_cons_self
      have others := ih fun other member => recorded other (List.mem_cons_of_mem _ member)
      unfold CellRules.under LegacyJournal.ofTick at others ⊢
      have key : laws.rules.key op.performed = family.tick op.inscription := laws.key _
      rw [List.filterMap_cons_some (laws.readBack_row seq op), List.filter_cons, List.filter_cons,
        key, laws.row_tick, others]
      by_cases here : family.tick op.inscription = name
      · rw [if_pos (by simpa using here), if_pos (by simpa using here),
          List.filterMap_cons_some (laws.readBack_row seq op)]
      · rw [if_neg (by simpa using here), if_neg (by simpa using here)]

/-- The journal of a handled stream holds what its run accepted. -/
theorem Handled.readBack_eq {handled : List (LegacyOp ε ι valid)} {state : L × LegacyJournal ρ}
    (now : laws.Handled subgraph handled state) :
    state.2.filterMap family.readBack =
      laws.rules.accepted ∅ (handled.map LegacyOp.performed) := by
  obtain ⟨taken, rows, accepted, -⟩ := now.taken
  rw [rows, ← accepted, List.filterMap_map, List.map_map]
  have each : (family.readBack ∘ fun entry : Int64 × LegacyOp ε ι valid =>
      family.row subgraph entry.1 entry.2) = some ∘ (LegacyOp.performed ∘ Prod.snd) := by
    funext entry
    exact laws.readBack_row entry.1 entry.2
  rw [each, List.filterMap_eq_map]

/-- An unwind spares the rows below the cutoff, read in replay order. -/
theorem survivors_append {first second : LegacyJournal ρ} {cutoff : Int64}
    (spared : ∀ row ∈ first, LegacyOpRow.subgraph row = subgraph ∧
      LegacyOpRow.acceptingDaaScore row < cutoff)
    (deleted : ∀ row ∈ second, LegacyOpRow.subgraph row = subgraph ∧
      cutoff ≤ LegacyOpRow.acceptingDaaScore row) :
    survivors subgraph cutoff (first ++ second) =
      first.insertionSort fun a b => (LegacyJournal.replayOrder a b).isLE := by
  have kept : (LegacyJournal.unwind (first ++ second) subgraph cutoff).2 = first := by
    change (first ++ second).filter (fun row => !decide (LegacyOpRow.subgraph row = subgraph ∧
      cutoff ≤ LegacyOpRow.acceptingDaaScore row)) = first
    rw [List.filter_append, List.filter_eq_self.mpr, List.filter_eq_nil_iff.mpr, List.append_nil]
    · intro row member
      simpa using deleted row member
    · intro row member
      have kept := (spared row member).2
      simpa using Or.inr kept
  unfold survivors LegacyJournal.fetchOrdered
  rw [kept, List.filter_eq_self.mpr]
  intro row member
  exact decide_eq_true (spared row member).1

/-- The surviving rows are read back as operations that are accepted again and rebuild the
ledger of the operations below the cutoff. -/
theorem Handled.rebuilds {handled : List (LegacyOp ε ι valid)} {before : L × LegacyJournal ρ}
    (now : laws.Handled subgraph handled before) (ordered : InDaaOrder handled) :
    ∃ replayed, (before.2.insertionSort fun a b => (LegacyJournal.replayOrder a b).isLE).mapM
        family.read = .ok replayed ∧
      family.AllAccepted family.new replayed ∧ family.replay replayed = .ok before.1 := by
  have recorded : ∀ row ∈ before.2.insertionSort fun a b => (LegacyJournal.replayOrder a b).isLE,
      ∃ seq op, row = family.row subgraph seq op := by
    intro row member
    obtain ⟨op, -, seq, same⟩ := now.rows_of ((List.mem_insertionSort _).mp member)
    exact ⟨seq, op, same⟩
  have unsorted : ∀ row ∈ before.2, ∃ seq op, row = family.row subgraph seq op := fun row member =>
    recorded row ((List.mem_insertionSort _).mpr member)
  -- Within each tick the sorted rows are the journal's own.
  obtain ⟨again, same⟩ := laws.rules.replay_accepted ∅ (handled.map LegacyOp.performed)
    ((before.2.insertionSort fun a b => (LegacyJournal.replayOrder a b).isLE).filterMap
      family.readBack) fun name => by
    rw [under_readBack laws recorded,
      LegacyJournal.ofTick_insertionSort now.numbered (now.ordered ordered),
      ← under_readBack laws unsorted, now.readBack_eq]
  refine ⟨_, mapM_read laws recorded, ?_, ?_⟩
  · exact laws.allAccepted laws.sound_new (by rw [laws.cells_new, again])
  · obtain ⟨after, ran, cells⟩ := laws.replay_from laws.sound_new
      ((before.2.insertionSort fun a b => (LegacyJournal.replayOrder a b).isLE).filterMap
        family.readBack)
    rw [laws.cells_new, same, ← now.cells] at cells
    rw [← laws.cells_inj _ _ cells]
    exact ran

/-- A stream that was recorded restores the ledger of its operations below any cutoff. -/
theorem restored (laws : family.Cellular σ)
    {replayFromRecords : List ρ → Except LegacyReconstructError (Except Overflow L)}
    (rebuild : ∀ records replayed, records.mapM family.read = .ok replayed →
      replayFromRecords records = .ok (family.replay replayed))
    {ops : List (LegacyOp ε ι valid)} (ordered : InDaaOrder ops) {state : L × LegacyJournal ρ}
    (ran : family.handleEach subgraph ops = .ok state) (cutoff : Int64) :
    ∃ before, family.Restored replayFromRecords subgraph ops cutoff before state.2 := by
  unfold handleEach at ran
  rw [below_append ordered cutoff, List.foldlM_append] at ran
  cases first : (below cutoff ops).foldlM (family.handle subgraph) (family.new, []) with
  | error failure =>
      rw [first] at ran
      cases ran
  | ok before =>
      rw [first] at ran
      obtain ⟨handled, now, sublist, every, -⟩ := (laws.handled_new subgraph).run first
      obtain ⟨more, -, -, -, rows, grown, recorded⟩ := now.run ran
      rw [List.nil_append] at now every
      have handledOrdered : InDaaOrder handled :=
        List.Pairwise.sublist (sublist.trans List.filter_sublist) ordered
      obtain ⟨replayed, readBack, again, rebuilt⟩ := now.rebuilds handledOrdered
      have surviving : survivors subgraph cutoff state.2 =
          before.2.insertionSort fun a b => (LegacyJournal.replayOrder a b).isLE := by
        rw [grown]
        apply survivors_append
        · intro row member
          obtain ⟨op, inHandled, seq, rfl⟩ := now.rows_of member
          have small := (List.mem_filter.mp (sublist.subset inHandled)).2
          exact ⟨laws.row_subgraph .., by rw [laws.row_daa]; exact of_decide_eq_true small⟩
        · intro row member
          obtain ⟨op, inRest, seq, rfl⟩ := recorded row member
          have large := (List.mem_filter.mp inRest).2
          exact ⟨laws.row_subgraph .., by rw [laws.row_daa]; exact of_decide_eq_true large⟩
      refine ⟨before, first, fun distinct => ?_, ⟨replayed, ?_, again⟩, ?_⟩
      · have all := every (distinct.sublist (List.filter_sublist.map _))
        obtain ⟨after, applied, cells⟩ :=
          laws.replay_from laws.sound_new ((below cutoff ops).map LegacyOp.performed)
        rw [laws.cells_new, ← all, ← now.cells] at cells
        rw [← laws.cells_inj _ _ cells]
        exact applied
      · rw [surviving]
        exact readBack
      · rw [surviving, rebuild _ _ readBack, rebuilt]

end Cellular

end LegacyFamily

end KasGraph
