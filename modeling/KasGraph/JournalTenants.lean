import KasGraph.LegacyReplay

set_option autoImplicit false

/-! Subgraphs that share the legacy journals. Each reads and deletes its own rows only, but
a row is admitted by the rows of all: an operation that another subgraph recorded is not
recorded again. -/

namespace KasGraph

open LegacyOpRow

/-- A call of a subgraph on a journal. -/
inductive JournalCall (ρ : Type) where
  | record (row : ρ)
  | unwind (owner : SubgraphId) (fromDaa : Int64)
  | fetchOrdered (owner : SubgraphId)

namespace JournalCall

variable {ρ : Type} [LegacyOpRow ρ]

def caller : JournalCall ρ → SubgraphId
  | .record row => subgraph row
  | .unwind owner _ => owner
  | .fetchOrdered owner => owner

end JournalCall

namespace LegacyJournal

variable {ρ : Type} [LegacyOpRow ρ]

/-- The journal after a call. A call that fails leaves it. -/
def perform (journal : LegacyJournal ρ) : JournalCall ρ → LegacyJournal ρ
  | .record row =>
      match journal.record row with
      | .ok after => after
      | .error _ => journal
  | .unwind owner fromDaa => (journal.unwind owner fromDaa).2
  | .fetchOrdered _ => journal

/-- The rows of a subgraph. -/
def ownedBy (journal : LegacyJournal ρ) (owner : SubgraphId) : LegacyJournal ρ :=
  journal.filter fun row => subgraph row = owner

/-- Two rows of one transaction, or under one primary key. -/
def Collides (row other : ρ) : Prop :=
  txHash other = txHash row ∨
    tick other = tick row ∧ acceptingBlockHash other = acceptingBlockHash row ∧
      seq other = seq row

/-- A row is inserted when its number is not negative and it collides with no row. -/
def Admits (journal : LegacyJournal ρ) (row : ρ) : Prop :=
  ¬ seq row < 0 ∧ ∀ other ∈ journal, ¬ Collides row other

/-- A call that is a record of a row that the subgraph's own rows admit meets no colliding
row of another subgraph. -/
def Undisturbed (journal : LegacyJournal ρ) (owner : SubgraphId) : JournalCall ρ → Prop
  | .record row => subgraph row = owner → (journal.ownedBy owner).Admits row →
      ∀ other ∈ journal, subgraph other ≠ owner → ¬ Collides row other
  | _ => True

theorem ownedBy_append (first second : LegacyJournal ρ) (owner : SubgraphId) :
    ownedBy (first ++ second) owner = ownedBy first owner ++ ownedBy second owner :=
  List.filter_append ..

theorem mem_ownedBy {journal : LegacyJournal ρ} {owner : SubgraphId} {row : ρ} :
    row ∈ journal.ownedBy owner ↔ row ∈ journal ∧ subgraph row = owner := by
  simp [ownedBy]

/-- A row is appended where it is admitted; elsewhere the journal stays. -/
theorem perform_record (journal : LegacyJournal ρ) (row : ρ) :
    (journal.Admits row ∧ journal.perform (.record row) = journal ++ [row]) ∨
      ¬ journal.Admits row ∧ journal.perform (.record row) = journal := by
  simp only [perform]
  unfold record
  by_cases negative : seq row < 0
  · exact Or.inr ⟨fun admits => admits.1 negative, by rw [if_pos negative]⟩
  · rw [if_neg negative]
    by_cases recorded : journal.opExists (txHash row) = true
    · refine Or.inr ⟨fun admits => ?_, by rw [if_pos recorded]⟩
      obtain ⟨other, member, same⟩ := List.any_eq_true.mp recorded
      exact admits.2 other member (Or.inl (by simpa using same))
    · by_cases keyed : (journal.any fun other => tick other == tick row &&
          acceptingBlockHash other == acceptingBlockHash row && seq other == seq row) = true
      · refine Or.inr ⟨fun admits => ?_, by rw [if_neg recorded, if_pos keyed]⟩
        obtain ⟨other, member, same⟩ := List.any_eq_true.mp keyed
        simp only [Bool.and_eq_true, beq_iff_eq] at same
        exact admits.2 other member (Or.inr ⟨same.1.1, same.1.2, same.2⟩)
      · refine Or.inl ⟨⟨negative, fun other member collides => ?_⟩,
          by rw [if_neg recorded, if_neg keyed]⟩
        rcases collides with same | ⟨ticks, blocks, seqs⟩
        · apply recorded
          exact List.any_eq_true.mpr ⟨other, member, by simp [same]⟩
        · apply keyed
          exact List.any_eq_true.mpr ⟨other, member, by simp [ticks, blocks, seqs]⟩

/-- The calls of another subgraph leave the rows of the owner. -/
theorem ownedBy_perform_other (journal : LegacyJournal ρ) {owner : SubgraphId}
    {call : JournalCall ρ} (other : call.caller ≠ owner) :
    (journal.perform call).ownedBy owner = journal.ownedBy owner := by
  cases call with
  | record row =>
      have foreign : ownedBy [row] owner = [] := by
        simp only [ownedBy, List.filter_singleton]
        have apart : subgraph row ≠ owner := other
        simp [apart]
      rcases journal.perform_record row with ⟨-, after⟩ | ⟨-, after⟩
      · rw [after, ownedBy_append, foreign, List.append_nil]
      · rw [after]
  | unwind deleter fromDaa =>
      show (journal.filter _).filter _ = journal.filter _
      rw [List.filter_filter]
      apply List.filter_congr
      intro row _
      by_cases own : subgraph row = owner
      · have apart : owner ≠ deleter := fun same => other same.symm
        simp [own, apart]
      · simp [own]
  | fetchOrdered reader => rfl

theorem fetchOrdered_ownedBy (journal : LegacyJournal ρ) (owner : SubgraphId) :
    (journal.ownedBy owner).fetchOrdered owner = journal.fetchOrdered owner := by
  unfold fetchOrdered ownedBy
  rw [List.filter_filter]
  simp

theorem ownedBy_ownedBy (journal : LegacyJournal ρ) (owner : SubgraphId) :
    (journal.ownedBy owner).ownedBy owner = journal.ownedBy owner := by
  unfold ownedBy
  rw [List.filter_filter]
  simp

theorem fetchOrdered_length (journal : LegacyJournal ρ) (owner : SubgraphId) :
    (journal.fetchOrdered owner).length = (journal.ownedBy owner).length :=
  List.length_insertionSort ..

/-- An undisturbed call of the owner acts on the owner's rows as it would on them alone; a
disturbed one leaves a row fewer to fetch. -/
theorem ownedBy_perform_own (journal : LegacyJournal ρ) {owner : SubgraphId}
    {call : JournalCall ρ} (own : call.caller = owner) :
    (journal.Undisturbed owner call ∧
        (journal.perform call).ownedBy owner = (journal.ownedBy owner).perform call) ∨
      ¬ journal.Undisturbed owner call ∧
        ((journal.perform call).fetchOrdered owner).length <
          (((journal.ownedBy owner).perform call).fetchOrdered owner).length := by
  cases call with
  | record row =>
      have mine : subgraph row = owner := own
      have kept : ownedBy [row] owner = [row] := by simp [ownedBy, mine]
      have fewer : journal.Admits row → (journal.ownedBy owner).Admits row :=
        fun admits => ⟨admits.1, fun other member => admits.2 other (mem_ownedBy.mp member).1⟩
      rcases (journal.ownedBy owner).perform_record row with ⟨alone, after⟩ | ⟨refused, after⟩
      · rw [after]
        rcases journal.perform_record row with ⟨admits, shared⟩ | ⟨blocked, shared⟩
        · rw [shared, ownedBy_append, kept]
          exact Or.inl ⟨fun _ _ other member _ => admits.2 other member, rfl⟩
        · refine Or.inr ⟨fun undisturbed => ?_, ?_⟩
          · apply blocked
            refine ⟨alone.1, fun other member => ?_⟩
            by_cases here : subgraph other = owner
            · exact alone.2 other (mem_ownedBy.mpr ⟨member, here⟩)
            · exact undisturbed mine alone other member here
          · rw [fetchOrdered_length, fetchOrdered_length, shared, ownedBy_append, kept,
              ownedBy_ownedBy, List.length_append, List.length_singleton]
            omega
      · have blocked : ¬ journal.Admits row := fun admits => refused (fewer admits)
        rcases journal.perform_record row with ⟨admits, -⟩ | ⟨-, shared⟩
        · exact absurd admits blocked
        · rw [after, shared]
          exact Or.inl ⟨fun _ alone => absurd alone refused, rfl⟩
  | unwind deleter fromDaa =>
      refine Or.inl ⟨trivial, ?_⟩
      show (journal.filter _).filter _ = (journal.filter _).filter _
      rw [List.filter_filter, List.filter_filter]
      congr 1
      funext row
      rw [Bool.and_comm]
  | fetchOrdered reader => exact Or.inl ⟨trivial, rfl⟩

end LegacyJournal

/-! ## Both journals -/

/-- The journals of both families. -/
structure LegacyJournals where
  krc20 : LegacyJournal Krc20LegacyOpRecord
  krc721 : LegacyJournal Krc721LegacyOpRecord

/-- A call on the journal of one of the families. -/
inductive LegacyCall where
  | krc20 (call : JournalCall Krc20LegacyOpRecord)
  | krc721 (call : JournalCall Krc721LegacyOpRecord)

def LegacyCall.caller : LegacyCall → SubgraphId
  | .krc20 call => call.caller
  | .krc721 call => call.caller

namespace LegacyJournals

def empty : LegacyJournals := ⟨[], []⟩

def perform (journals : LegacyJournals) : LegacyCall → LegacyJournals
  | .krc20 call => { journals with krc20 := journals.krc20.perform call }
  | .krc721 call => { journals with krc721 := journals.krc721.perform call }

def performEach (journals : LegacyJournals) (calls : List LegacyCall) : LegacyJournals :=
  calls.foldl perform journals

/-- The calls of one subgraph, without those of the others. -/
def callsOf (owner : SubgraphId) (calls : List LegacyCall) : List LegacyCall :=
  calls.filter fun call => call.caller = owner

def ownedBy (journals : LegacyJournals) (owner : SubgraphId) : LegacyJournals where
  krc20 := journals.krc20.ownedBy owner
  krc721 := journals.krc721.ownedBy owner

def Undisturbed (journals : LegacyJournals) (owner : SubgraphId) : LegacyCall → Prop
  | .krc20 call => journals.krc20.Undisturbed owner call
  | .krc721 call => journals.krc721.Undisturbed owner call

/-- The operations fetched for a subgraph, and the ledgers replayed from them. -/
structure SameFor (owner : SubgraphId) (shared alone : LegacyJournals) : Prop where
  krc20 : shared.krc20.fetchOrdered owner = alone.krc20.fetchOrdered owner
  krc721 : shared.krc721.fetchOrdered owner = alone.krc721.fetchOrdered owner
  krc20Ledger : replayKrc20FromRecords (shared.krc20.fetchOrdered owner) =
    replayKrc20FromRecords (alone.krc20.fetchOrdered owner)
  krc721Ledger : replayKrc721FromRecords (shared.krc721.fetchOrdered owner) =
    replayKrc721FromRecords (alone.krc721.fetchOrdered owner)

theorem SameFor.of_ownedBy {owner : SubgraphId} {shared : LegacyJournals} :
    SameFor owner shared (shared.ownedBy owner) := by
  have krc20 := shared.krc20.fetchOrdered_ownedBy owner
  have krc721 := shared.krc721.fetchOrdered_ownedBy owner
  exact ⟨krc20.symm, krc721.symm, congrArg _ krc20.symm, congrArg _ krc721.symm⟩

theorem performEach_concat (journals : LegacyJournals) (calls : List LegacyCall)
    (call : LegacyCall) :
    journals.performEach (calls ++ [call]) = (journals.performEach calls).perform call := by
  simp [performEach]

theorem ownedBy_perform_other (journals : LegacyJournals) {owner : SubgraphId} {call : LegacyCall}
    (other : call.caller ≠ owner) :
    (journals.perform call).ownedBy owner = journals.ownedBy owner := by
  cases call with
  | krc20 call =>
      have kept := journals.krc20.ownedBy_perform_other other
      simp [perform, ownedBy, kept]
  | krc721 call =>
      have kept := journals.krc721.ownedBy_perform_other other
      simp [perform, ownedBy, kept]

/-- An undisturbed call of the owner leaves its rows as it would alone; after a disturbed one
other operations are fetched. -/
theorem ownedBy_perform_own (journals : LegacyJournals) {owner : SubgraphId} {call : LegacyCall}
    (own : call.caller = owner) :
    (journals.Undisturbed owner call ∧
        (journals.perform call).ownedBy owner = (journals.ownedBy owner).perform call) ∨
      ¬ journals.Undisturbed owner call ∧
        ¬ SameFor owner (journals.perform call) ((journals.ownedBy owner).perform call) := by
  cases call with
  | krc20 call =>
      rcases journals.krc20.ownedBy_perform_own own with ⟨undisturbed, same⟩ | ⟨disturbed, fewer⟩
      · exact Or.inl ⟨undisturbed, by simp [perform, ownedBy, same]⟩
      · refine Or.inr ⟨disturbed, fun same => ?_⟩
        exact absurd (congrArg List.length same.krc20) (Nat.ne_of_lt fewer)
  | krc721 call =>
      rcases journals.krc721.ownedBy_perform_own own with ⟨undisturbed, same⟩ | ⟨disturbed, fewer⟩
      · exact Or.inl ⟨undisturbed, by simp [perform, ownedBy, same]⟩
      · refine Or.inr ⟨disturbed, fun same => ?_⟩
        exact absurd (congrArg List.length same.krc721) (Nat.ne_of_lt fewer)

/-! ## Runs -/

theorem callsOf_concat (owner : SubgraphId) (calls : List LegacyCall) (call : LegacyCall) :
    callsOf owner (calls ++ [call]) =
      callsOf owner calls ++ if call.caller = owner then [call] else [] := by
  unfold callsOf
  rw [List.filter_append, List.filter_singleton]
  by_cases own : call.caller = owner
  · simp [own]
  · simp [own]

/-- While no call of the owner was disturbed, its rows are those of its calls alone. -/
theorem ownedBy_performEach {owner : SubgraphId} {calls : List LegacyCall}
    (undisturbed : ∀ before call after, calls = before ++ call :: after → call.caller = owner →
      (empty.performEach before).Undisturbed owner call) :
    (empty.performEach calls).ownedBy owner = empty.performEach (callsOf owner calls) := by
  induction calls using List.reverseRecOn with
  | nil => rfl
  | append_singleton calls call ih =>
      have earlier := ih fun before other after split => undisturbed before other (after ++ [call])
        (by rw [split, List.append_assoc, List.cons_append])
      rw [performEach_concat, callsOf_concat]
      by_cases own : call.caller = owner
      · rw [if_pos own, performEach_concat, ← earlier]
        rcases (empty.performEach calls).ownedBy_perform_own own with ⟨-, same⟩ | ⟨disturbed, -⟩
        · exact same
        · exact absurd (undisturbed calls call [] rfl own) disturbed
      · rw [if_neg own, List.append_nil, ownedBy_perform_other _ own]
        exact earlier

end LegacyJournals

/-- At every point of a run a subgraph is fetched, and replays, what it would be without the
calls of the others, exactly when none of its calls was disturbed by the rows of another. -/
theorem tenants_isolated_iff (owner : SubgraphId) (calls : List LegacyCall) :
    (∀ done rest, calls = done ++ rest → LegacyJournals.SameFor owner
      (LegacyJournals.empty.performEach done)
      (LegacyJournals.empty.performEach (LegacyJournals.callsOf owner done))) ↔
    ∀ before call after, calls = before ++ call :: after → call.caller = owner →
      (LegacyJournals.empty.performEach before).Undisturbed owner call := by
  constructor
  · intro isolated
    induction calls using List.reverseRecOn with
    | nil =>
        intro before call after split
        exact absurd split (by simp)
    | append_singleton calls last ih =>
        have earlier := ih fun done rest split => isolated done (rest ++ [last])
          (by rw [split, List.append_assoc])
        intro before call after split own
        cases after using List.reverseRecOn with
        | nil =>
            obtain ⟨rfl, rfl⟩ := List.append_inj' split rfl |>.imp_right List.singleton_inj.mp
            have same := isolated (calls ++ [last]) [] (List.append_nil _).symm
            rw [LegacyJournals.performEach_concat, LegacyJournals.callsOf_concat, if_pos own,
              LegacyJournals.performEach_concat, ← LegacyJournals.ownedBy_performEach earlier] at same
            rcases LegacyJournals.ownedBy_perform_own _ own with ⟨undisturbed, -⟩ | ⟨-, differs⟩
            · exact undisturbed
            · exact absurd same differs
        | append_singleton after final =>
            rw [← List.cons_append, ← List.append_assoc] at split
            obtain ⟨shorter, -⟩ := List.append_inj' split rfl
            exact earlier before call after shorter own
  · intro undisturbed done rest split
    have same := @LegacyJournals.ownedBy_performEach owner done fun before call after within =>
      undisturbed before call (after ++ rest) (by rw [split, within, List.append_assoc,
        List.cons_append])
    rw [← same]
    exact .of_ownedBy

/-- The same operation, recorded by two subgraphs that index one chain. -/
def sharedDeploy (owner : SubgraphId) : LegacyCall :=
  .krc20 (.record {
    subgraph := owner
    tick := "kas"
    tickRaw := "KAS"
    acceptingBlockHash := "block-10"
    seq := 0
    acceptingDaaScore := 10
    txHash := "tx-deploy"
    op := "deploy"
    sender := "kaspa:alice"
    recipient := none
    amount := none
    maxSupply := some "9"
    mintLimit := some "9" })

/-- The second of two subgraphs that record one operation is fetched nothing. -/
theorem shared_operation_is_dropped :
    ¬ ∀ owner calls, LegacyJournals.SameFor owner (LegacyJournals.empty.performEach calls)
      (LegacyJournals.empty.performEach (LegacyJournals.callsOf owner calls)) := by
  intro isolated
  have same := isolated ⟨"second", by decide +kernel⟩
    [sharedDeploy ⟨"first", by decide +kernel⟩, sharedDeploy ⟨"second", by decide +kernel⟩]
  have lengths := congrArg List.length same.krc20
  revert lengths
  decide +kernel

end KasGraph
