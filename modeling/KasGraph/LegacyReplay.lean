import KasGraph.JournalReplay

set_option autoImplicit false

/-! Both legacy ledgers keep one independent state under each tick, so their journals
restore them after a reorg. -/

namespace KasGraph

/-! ## KRC-20 -/

/-- The state an action leaves, unless it is rejected. -/
def settledToken : Except Overflow (Except String TokenState) → Option TokenState
  | .ok (.ok after) => some after
  | _ => none

/-- KRC-20 operations as rules for the state of one tick. -/
def krc20Rules : CellRules String TokenState (Krc20Inscription × String) where
  key op := op.1.tick
  act op cell := match op.1.op with
    | .deploy max lim => match cell with
        | some _ => none
        | none => some { max, lim, minted := 0, balances := ∅ }
    | .mint amt => cell.bind fun token => settledToken (TokenState.applyMint op.2 amt token)
    | .transfer amt recipient =>
        cell.bind fun token => settledToken (TokenState.applyTransfer op.2 recipient amt token)
    | .burn amt => cell.bind fun token => settledToken (TokenState.applyBurn op.2 amt token)

def krc20Family : LegacyFamily Krc20Ledger Krc20Inscription Krc20LegacyOpRecord
    fun envelope inscription => Krc20.parseEnvelope envelope = .valid inscription where
  new := .new
  apply := Krc20Ledger.apply
  tick := Krc20Inscription.tick
  row := Krc20LegacyOp.row
  fromRecord := krc20InscriptionFromRecord
  sender := Krc20LegacyOpRecord.sender

/-- How an operation ends, read off the rule for the state of its tick. -/
def EndsAs {κ σ : Type} [Ord κ] [Std.TransOrd κ] (cells after : OrderedMap κ σ) (key : κ)
    (outcome : ApplyOutcome) : Option σ → Prop
  | some cell => outcome = .accepted ∧ after = cells.insert key cell
  | none => (∃ reason, outcome = .rejected reason) ∧ after = cells

theorem EndsAs.applies {σ ο : Type} (rules : CellRules String σ ο)
    {cells after : OrderedMap String σ} (op : ο) {outcome : ApplyOutcome}
    (ends : EndsAs cells after (rules.key op) outcome (rules.act op cells[rules.key op]?)) :
    after = rules.apply cells op ∧ (outcome = .accepted ↔ rules.accepts cells op = true) := by
  unfold CellRules.apply CellRules.accepts
  cases acted : rules.act op cells[rules.key op]? with
  | some cell =>
      rw [acted] at ends
      exact ⟨ends.2, iff_of_true ends.1 rfl⟩
  | none =>
      rw [acted] at ends
      obtain ⟨⟨reason, rfl⟩, same⟩ := ends
      exact ⟨same, iff_of_false nofun nofun⟩

theorem Krc20Ledger.onToken_ends {ledger : Krc20Ledger} {tick undeployed : String}
    {action : TokenAction} {outcome : ApplyOutcome} {after : Krc20Ledger}
    (ran : ledger.onToken tick undeployed action = .ok (outcome, after)) :
    EndsAs ledger.tokens after.tokens tick outcome
      (ledger.tokens[tick]?.bind fun token => settledToken (action token)) := by
  unfold onToken at ran
  cases found : ledger.tokens[tick]? with
  | none =>
      rw [found] at ran
      cases ran
      exact ⟨⟨_, rfl⟩, rfl⟩
  | some token =>
      rw [found] at ran
      change EndsAs _ _ _ _ (settledToken (action token))
      cases acted : action token with
      | error overflow =>
          simp only [acted] at ran
          cases ran
      | ok result =>
          simp only [acted] at ran
          cases result with
          | error reason =>
              cases ran
              exact ⟨⟨_, rfl⟩, rfl⟩
          | ok later =>
              cases ran
              exact ⟨rfl, rfl⟩

/-- The ledger applies an operation as the rule of its tick says. -/
theorem Krc20Ledger.apply_ends {ledger after : Krc20Ledger} {inscription : Krc20Inscription}
    {sender : String} {outcome : ApplyOutcome}
    (ran : ledger.apply inscription sender = .ok (outcome, after)) :
    EndsAs ledger.tokens after.tokens inscription.tick outcome
      (krc20Rules.act (inscription, sender) ledger.tokens[inscription.tick]?) := by
  obtain ⟨tick, tickRaw, op⟩ := inscription
  cases op with
  | deploy max lim =>
      change Except.ok (ledger.applyDeploy tick max lim) = _ at ran
      unfold applyDeploy at ran
      unfold krc20Rules
      cases found : ledger.tokens[tick]? with
      | some token =>
          rw [found] at ran
          cases ran
          exact ⟨⟨_, rfl⟩, rfl⟩
      | none =>
          rw [found] at ran
          cases ran
          exact ⟨rfl, rfl⟩
  | mint amt => exact onToken_ends ran
  | transfer amt recipient => exact onToken_ends ran
  | burn amt => exact onToken_ends ran

def krc20Cells : krc20Family.Cellular TokenState where
  rules := krc20Rules
  cells := Krc20Ledger.tokens
  Sound := Krc20Ledger.Conserved
  key _ := rfl
  cells_new := rfl
  sound_new := Krc20Ledger.new_conserved
  cells_inj := by
    rintro ⟨tokens⟩ ⟨others⟩ same
    exact congrArg Krc20Ledger.mk same
  applies := by
    intro ledger conserved inscription sender
    obtain ⟨outcome, after, ran, step⟩ := Krc20Ledger.apply_sound conserved inscription sender
    exact ⟨outcome, after, ran, step.conserved,
      EndsAs.applies krc20Rules (inscription, sender) (Krc20Ledger.apply_ends ran)⟩
  row_subgraph _ _ _ := rfl
  row_tick _ _ _ := rfl
  row_seq _ _ _ := rfl
  row_daa _ _ _ := rfl
  row_tx _ _ _ := rfl
  reads subgraph seq op := by
    change (krc20InscriptionFromRecord (Krc20LegacyOp.row subgraph seq op) >>= _) = _
    rw [krc20InscriptionFromRecord_row]
    rfl

theorem krc20_rebuild (records : List Krc20LegacyOpRecord)
    (replayed : List (Krc20Inscription × String))
    (readBack : records.mapM krc20Family.read = .ok replayed) :
    replayKrc20FromRecords records = .ok (krc20Family.replay replayed) := by
  unfold replayKrc20FromRecords
  change (records.mapM krc20Family.read >>= _) = _
  rw [readBack]
  rfl

/-! ## KRC-721 -/

/-- KRC-721 operations as rules for the state of one tick. -/
def krc721Rules : CellRules String CollectionState (Krc721Inscription × String) where
  key op := op.1.tick
  act op cell := match op.1.op with
    | .deploy max => match cell with
        | some _ => none
        | none => some { max, owners := ∅, minted := ∅ }
    | .mint id _ => cell.bind fun collection =>
        (CollectionState.applyMint op.2 id collection).toOption
    | .transfer id recipient => cell.bind fun collection =>
        (CollectionState.applyTransfer op.2 recipient id collection).toOption
    | .burn id => cell.bind fun collection =>
        (CollectionState.applyBurn op.2 id collection).toOption

def krc721Family : LegacyFamily Krc721Ledger Krc721Inscription Krc721LegacyOpRecord
    fun envelope inscription => Krc721.parseEnvelope envelope = .valid inscription where
  new := .new
  apply ledger inscription sender := .ok (ledger.apply inscription sender)
  tick := Krc721Inscription.tick
  row := Krc721LegacyOp.row
  fromRecord := krc721InscriptionFromRecord
  sender := Krc721LegacyOpRecord.sender

theorem Krc721Ledger.onCollection_ends (ledger : Krc721Ledger) (tick undeployed : String)
    (action : CollectionAction) :
    EndsAs ledger.collections (ledger.onCollection tick undeployed action).2.collections tick
      (ledger.onCollection tick undeployed action).1
      (ledger.collections[tick]?.bind fun collection => (action collection).toOption) := by
  unfold onCollection
  cases found : ledger.collections[tick]? with
  | none => exact ⟨⟨_, rfl⟩, rfl⟩
  | some collection =>
      change EndsAs _ _ _ _ (action collection).toOption
      cases acted : action collection with
      | error reason =>
          simp only [acted]
          exact ⟨⟨_, rfl⟩, rfl⟩
      | ok later =>
          simp only [acted]
          exact ⟨rfl, rfl⟩

/-- The ledger applies an operation as the rule of its tick says. -/
theorem Krc721Ledger.apply_ends (ledger : Krc721Ledger) (inscription : Krc721Inscription)
    (sender : String) :
    EndsAs ledger.collections (ledger.apply inscription sender).2.collections inscription.tick
      (ledger.apply inscription sender).1
      (krc721Rules.act (inscription, sender) ledger.collections[inscription.tick]?) := by
  obtain ⟨tick, tickRaw, op⟩ := inscription
  cases op with
  | deploy max =>
      change EndsAs _ (ledger.applyDeploy tick max).2.collections _ (ledger.applyDeploy tick max).1 _
      unfold applyDeploy krc721Rules
      cases found : ledger.collections[tick]? with
      | some collection => exact ⟨⟨_, rfl⟩, rfl⟩
      | none => exact ⟨rfl, rfl⟩
  | mint id uri => exact onCollection_ends ..
  | transfer id recipient => exact onCollection_ends ..
  | burn id => exact onCollection_ends ..

def krc721Cells : krc721Family.Cellular CollectionState where
  rules := krc721Rules
  cells := Krc721Ledger.collections
  Sound _ := True
  key _ := rfl
  cells_new := rfl
  sound_new := trivial
  cells_inj := by
    rintro ⟨collections⟩ ⟨others⟩ same
    exact congrArg Krc721Ledger.mk same
  applies := by
    intro ledger _ inscription sender
    exact ⟨_, _, rfl, trivial, EndsAs.applies krc721Rules (inscription, sender)
      (ledger.apply_ends inscription sender)⟩
  row_subgraph _ _ _ := rfl
  row_tick _ _ _ := rfl
  row_seq _ _ _ := rfl
  row_daa _ _ _ := rfl
  row_tx _ _ _ := rfl
  reads subgraph seq op := by
    change (krc721InscriptionFromRecord (Krc721LegacyOp.row subgraph seq op) >>= _) = _
    rw [krc721InscriptionFromRecord_row]
    rfl

/-- KRC-721 rows rebuild a ledger without arithmetic that could fail. -/
def replayKrc721Ledger (records : List Krc721LegacyOpRecord) :
    Except LegacyReconstructError (Except Overflow Krc721Ledger) :=
  (replayKrc721FromRecords records).map .ok

/-- Replaying KRC-721 operations does not fail. -/
theorem krc721_replay (ledger : Krc721Ledger) (ops : List (Krc721Inscription × String)) :
    ops.foldlM (fun ledger (inscription, sender) => do
        let (_, after) ← krc721Family.apply ledger inscription sender
        return after) ledger = .ok (ledger.applyEach ops) := by
  induction ops generalizing ledger with
  | nil => rfl
  | cons op rest ih => exact ih (ledger.apply op.1 op.2).2

theorem krc721_rebuild (records : List Krc721LegacyOpRecord)
    (replayed : List (Krc721Inscription × String))
    (readBack : records.mapM krc721Family.read = .ok replayed) :
    replayKrc721Ledger records = .ok (krc721Family.replay replayed) := by
  unfold replayKrc721Ledger replayKrc721FromRecords
  change (records.mapM krc721Family.read >>= _).map _ = _
  rw [readBack]
  exact congrArg Except.ok (krc721_replay .new replayed).symm

/-! ## Restoring a ledger -/

/-- After any stream of legacy operations in DAA order, the journal rows that an unwind
spares restore the ledger of the operations below the cutoff, for both families. -/
theorem journal_restores_surviving_ops (subgraph : SubgraphId) (cutoff : Int64) :
    (∀ ops : List Krc20LegacyOp, InDaaOrder ops →
      (ops.length < 2 ^ 63 → ∃ state, krc20Family.handleEach subgraph ops = .ok state) ∧
      ∀ state, krc20Family.handleEach subgraph ops = .ok state →
        ∃ before, krc20Family.Restored replayKrc20FromRecords subgraph ops cutoff before state.2) ∧
    ∀ ops : List Krc721LegacyOp, InDaaOrder ops →
      (ops.length < 2 ^ 63 → ∃ state, krc721Family.handleEach subgraph ops = .ok state) ∧
      ∀ state, krc721Family.handleEach subgraph ops = .ok state →
        ∃ before, krc721Family.Restored replayKrc721Ledger subgraph ops cutoff before state.2 := by
  constructor
  · intro ops ordered
    refine ⟨fun room => ?_, fun state ran => ?_⟩
    · exact (krc20Cells.handled_new subgraph).run_ok (by simpa using room)
    · exact krc20Cells.restored krc20_rebuild ordered ran cutoff
  · intro ops ordered
    refine ⟨fun room => ?_, fun state ran => ?_⟩
    · exact (krc721Cells.handled_new subgraph).run_ok (by simpa using room)
    · exact krc721Cells.restored krc721_rebuild ordered ran cutoff

/-! ## A tick and a collection -/

def krc20Subgraph : SubgraphId := ⟨"krc20_mainnet_v1", by decide⟩

/-- The deploy of a tick, and a mint two DAA scores later. -/
def kasOps : List Krc20LegacyOp :=
  [{ envelope := ⟨some "krc-20", some "deploy", some "KAS", some "9", some "9", none, none⟩
     inscription := ⟨"kas", "KAS", .deploy 9 9⟩
     parsed := by decide +kernel
     sender := "kaspa:alice"
     txHash := "tx-deploy"
     acceptingBlockHash := "block-10"
     acceptingDaaScore := 10 },
   { envelope := ⟨some "krc-20", some "mint", some "KAS", none, none, some "5", none⟩
     inscription := ⟨"kas", "KAS", .mint 5⟩
     parsed := by decide +kernel
     sender := "kaspa:alice"
     txHash := "tx-mint"
     acceptingBlockHash := "block-12"
     acceptingDaaScore := 12 }]

/-- The deploy of a collection, and a mint two DAA scores later. -/
def punkOps : List Krc721LegacyOp :=
  [{ envelope := ⟨some "krc-721", some "deploy", some "PUNK", some "9", none, none, none⟩
     inscription := ⟨"punk", "PUNK", .deploy 9⟩
     parsed := by decide +kernel
     sender := "kaspa:alice"
     txHash := "tx-deploy"
     acceptingBlockHash := "block-10"
     acceptingDaaScore := 10 },
   { envelope := ⟨some "krc-721", some "mint", some "PUNK", none, some "3", some "ipfs://3", none⟩
     inscription := ⟨"punk", "PUNK", .mint 3 "ipfs://3"⟩
     parsed := by decide +kernel
     sender := "kaspa:alice"
     txHash := "tx-mint"
     acceptingBlockHash := "block-12"
     acceptingDaaScore := 12 }]

theorem journal_restores_deploys :
    (∃ state before, krc20Family.handleEach krc20Subgraph kasOps = .ok state ∧
      krc20Family.Restored replayKrc20FromRecords krc20Subgraph kasOps 12 before state.2) ∧
    ∃ state before, krc721Family.handleEach krc20Subgraph punkOps = .ok state ∧
      krc721Family.Restored replayKrc721Ledger krc20Subgraph punkOps 12 before state.2 := by
  have kasOrder : InDaaOrder kasOps := by
    unfold InDaaOrder kasOps
    decide
  have punkOrder : InDaaOrder punkOps := by
    unfold InDaaOrder punkOps
    decide
  obtain ⟨kasRecorded, kasRestored⟩ := (journal_restores_surviving_ops krc20Subgraph 12).1 kasOps kasOrder
  obtain ⟨punkRecorded, punkRestored⟩ :=
    (journal_restores_surviving_ops krc20Subgraph 12).2 punkOps punkOrder
  obtain ⟨kas, kasRan⟩ := kasRecorded (by decide)
  obtain ⟨punk, punkRan⟩ := punkRecorded (by decide)
  obtain ⟨kasBefore, kasHolds⟩ := kasRestored kas kasRan
  obtain ⟨punkBefore, punkHolds⟩ := punkRestored punk punkRan
  exact ⟨⟨kas, kasBefore, kasRan, kasHolds⟩, punk, punkBefore, punkRan, punkHolds⟩

end KasGraph
