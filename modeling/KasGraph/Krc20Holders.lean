import KasGraph.Krc20Supply

set_option autoImplicit false

/-! The holders a legacy KRC-20 ledger lists. A debit drops the entry it empties, so no
entry has value zero, except where an operation credits nothing to an address that has
no entry. -/

namespace KasGraph

open MachineInt

/-- No entry has value zero. -/
def Balances.Pruned (balances : Balances) : Prop :=
  ∀ address : String, balances[address]? ≠ some 0

def Krc20Ledger.Pruned (ledger : Krc20Ledger) : Prop :=
  ∀ tick token, ledger.token tick = some token → token.balances.Pruned

/-- An operation that credits nothing to an address without an entry. -/
def Krc20Ledger.CreditsNothing (ledger : Krc20Ledger) (inscription : Krc20Inscription)
    (sender : String) : Prop :=
  ∃ token, ledger.token inscription.tick = some token ∧
    ((inscription.op = .mint 0 ∧ token.balances[sender]? = none) ∨
      ∃ recipient, inscription.op = .transfer 0 recipient ∧ token.balances[recipient]? = none)

/-- The operations of the payloads that hold one, with their senders. -/
def krc20Ops (fromSlice : List UInt8 → Option Krc20.RawEnvelope)
    (payloads : List (List UInt8 × String)) : List (Krc20Inscription × String) :=
  payloads.filterMap fun (payload, sender) =>
    match parseKrc20Inscription fromSlice payload with
    | .valid inscription => some (inscription, sender)
    | _ => none

/-! ## Debits and credits -/

namespace Balances

theorem of_eq_zero_iff {balances : Balances} (pruned : balances.Pruned) (address : String) :
    balances.of address = 0 ↔ balances[address]? = none := by
  unfold of
  cases present : balances[address]? with
  | none => exact iff_of_true rfl rfl
  | some balance =>
      refine iff_of_false ?_ nofun
      intro zero
      change balance = 0 at zero
      rw [zero] at present
      exact pruned address present

theorem pruned_insert_iff {balances : Balances} (pruned : balances.Pruned) (address : String)
    (balance : UInt64) : Pruned (balances.insert address balance) ↔ balance ≠ 0 := by
  constructor
  · intro after zero
    subst zero
    exact after address (OrderedMap.get_insert_self ..)
  · intro nonzero other
    by_cases here : address = other
    · rw [← here, OrderedMap.get_insert_self]
      simpa using nonzero
    · rw [OrderedMap.get_insert_of_ne _ _ here]
      exact pruned other

theorem Pruned.erase {balances : Balances} (pruned : balances.Pruned) (address : String) :
    Pruned (balances.erase address) := by
  intro other
  by_cases here : address = other
  · rw [← here, OrderedMap.get_erase_self]
    nofun
  · rw [OrderedMap.get_erase_of_ne _ here]
    exact pruned other

end Balances

theorem debit_pruned {balances after : Balances} (pruned : balances.Pruned) {address : String}
    {amt : UInt64} (debited : debit balances address amt = .ok after) : after.Pruned := by
  unfold debit at debited
  cases present : balances[address]? with
  | none =>
      rw [present] at debited
      cases debited
      exact pruned
  | some balance =>
      rw [present] at debited
      cases taken : subU64 balance amt with
      | error overflow =>
          simp only [taken] at debited
          cases debited
      | ok left =>
          simp only [taken] at debited
          cases debited
          by_cases gone : left = 0
          · rw [if_pos gone]
            exact pruned.erase address
          · rw [if_neg gone]
            exact (Balances.pruned_insert_iff pruned address left).mpr gone

/-- Nothing is debited where nothing is asked. -/
theorem debit_zero {balances : Balances} (pruned : balances.Pruned) (address : String) :
    debit balances address 0 = .ok balances := by
  unfold debit
  cases present : balances[address]? with
  | none => rfl
  | some balance =>
      have same : subU64 balance 0 = .ok balance := (subU64_eq_ok_iff _ _ _).mpr rfl
      have nonzero : balance ≠ 0 := by
        rintro rfl
        exact pruned address present
      simp only [same]
      change Except.ok (if balance = 0 then _ else _) = _
      rw [if_neg nonzero]
      refine congrArg Except.ok (OrderedMap.ext_get fun other => ?_)
      by_cases here : address = other
      · rw [← here, OrderedMap.get_insert_self, present]
      · rw [OrderedMap.get_insert_of_ne _ _ here]

/-- A credit leaves an entry of value zero where it credits nothing to an address that has
no entry. -/
theorem credit_pruned_iff {balances after : Balances} (pruned : balances.Pruned)
    {address : String} {amt : UInt64} (credited : credit balances address amt = .ok after) :
    after.Pruned ↔ ¬ (amt = 0 ∧ balances[address]? = none) := by
  unfold credit at credited
  change addU64 (balances.of address) amt >>= _ = _ at credited
  cases added : addU64 (balances.of address) amt with
  | error overflow =>
      simp only [added] at credited
      cases credited
  | ok sum =>
      simp only [added] at credited
      cases credited
      have value := (addU64_eq_ok_iff _ _ _).mp added
      rw [Balances.pruned_insert_iff pruned, ← Balances.of_eq_zero_iff pruned, Ne,
        ← UInt64.toNat_inj, ← UInt64.toNat_inj, ← UInt64.toNat_inj]
      have : (0 : UInt64).toNat = 0 := rfl
      omega

/-! ## Operations -/

namespace TokenState

/-- How an action on a token with pruned balances ends: a rejected one credits nothing, an
accepted one leaves pruned balances unless it does. -/
def Prunes (action : TokenAction) (token : TokenState) (creditsNothing : Prop) : Prop :=
  ∀ result, action token = .ok result → match result with
    | .error _ => ¬ creditsNothing
    | .ok after => after.balances.Pruned ↔ ¬ creditsNothing

theorem applyMint_prunes {token : TokenState} (backed : token.Backed)
    (pruned : token.balances.Pruned) (sender : String) (amt : UInt64) :
    Prunes (applyMint sender amt) token (amt = 0 ∧ token.balances[sender]? = none) := by
  intro result acted
  have capped := backed.capped
  have zero : (0 : UInt64).toNat = 0 := rfl
  unfold applyMint at acted
  by_cases above : amt > token.lim
  · rw [if_pos above] at acted
    cases acted
    rintro ⟨rfl, -⟩
    have := UInt64.lt_iff_toNat_lt.mp above
    omega
  · rw [if_neg above] at acted
    cases added : checkedAdd token.minted amt with
    | none =>
        simp only [added] at acted
        cases acted
        rintro ⟨rfl, -⟩
        have fits := (checkedAdd_eq_some_iff token.minted 0 token.minted).mpr (by omega)
        exact nomatch added.symm.trans fits
    | some total =>
        have sum := (checkedAdd_eq_some_iff _ _ _).mp added
        simp only [added] at acted
        by_cases under : total ≤ token.max
        · rw [if_pos under] at acted
          cases credited : credit token.balances sender amt with
          | error overflow =>
              simp only [credited] at acted
              cases acted
          | ok balances =>
              simp only [credited] at acted
              cases acted
              exact credit_pruned_iff pruned credited
        · rw [if_neg under] at acted
          cases acted
          rintro ⟨rfl, -⟩
          exact under (UInt64.le_iff_toNat_le.mpr (by omega))

theorem applyTransfer_prunes {token : TokenState} (pruned : token.balances.Pruned)
    (sender recipient : String) (amt : UInt64) :
    Prunes (applyTransfer sender recipient amt) token
      (amt = 0 ∧ token.balances[recipient]? = none) := by
  intro result acted
  unfold applyTransfer at acted
  change (if token.balances.of sender < amt then _ else _) = _ at acted
  by_cases short : token.balances.of sender < amt
  · rw [if_pos short] at acted
    cases acted
    rintro ⟨rfl, -⟩
    exact absurd (UInt64.lt_iff_toNat_lt.mp short) (Nat.not_lt_zero _)
  · rw [if_neg short] at acted
    cases taken : debit token.balances sender amt with
    | error overflow =>
        simp only [taken] at acted
        cases acted
    | ok debited =>
        cases credited : credit debited recipient amt with
        | error overflow =>
            simp only [taken, credited, bind, Except.bind] at acted
            cases acted
        | ok balances =>
            simp only [taken, credited, bind, Except.bind] at acted
            cases acted
            change balances.Pruned ↔ _
            rw [credit_pruned_iff (debit_pruned pruned taken) credited]
            by_cases nothing : amt = 0
            · subst nothing
              rw [debit_zero pruned] at taken
              cases taken
              exact Iff.rfl
            · exact iff_of_true (fun both => nothing both.1) fun both => nothing both.1

theorem applyBurn_prunes {token : TokenState} (pruned : token.balances.Pruned) (sender : String)
    (amt : UInt64) : Prunes (applyBurn sender amt) token False := by
  intro result acted
  unfold applyBurn at acted
  change (if token.balances.of sender < amt then _ else _) = _ at acted
  by_cases short : token.balances.of sender < amt
  · rw [if_pos short] at acted
    cases acted
    exact not_false
  · rw [if_neg short] at acted
    cases taken : debit token.balances sender amt with
    | error overflow =>
        simp only [taken] at acted
        cases acted
    | ok balances =>
        simp only [taken] at acted
        cases acted
        exact iff_of_true (debit_pruned pruned taken) not_false

end TokenState

namespace Krc20Ledger

theorem pruned_insert_iff {ledger : Krc20Ledger} (pruned : ledger.Pruned) (tick : String)
    (token : TokenState) :
    Pruned ⟨ledger.tokens.insert tick token⟩ ↔ token.balances.Pruned := by
  constructor
  · intro after
    exact after tick token (token_insert_self ..)
  · intro here other found present
    by_cases same : tick = other
    · subst same
      rw [token_insert_self] at present
      cases present
      exact here
    · rw [token_insert_of_ne _ _ same] at present
      exact pruned other found present

theorem onToken_pruned_iff {ledger after : Krc20Ledger} (pruned : ledger.Pruned)
    {tick undeployed : String} {action : TokenAction} {creditsNothing : TokenState → Prop}
    (prunes : ∀ token, ledger.token tick = some token →
      TokenState.Prunes action token (creditsNothing token)) {outcome : ApplyOutcome}
    (ran : ledger.onToken tick undeployed action = .ok (outcome, after)) :
    after.Pruned ↔ ¬ ∃ token, ledger.token tick = some token ∧ creditsNothing token := by
  unfold onToken at ran
  cases found : ledger.tokens[tick]? with
  | none =>
      rw [found] at ran
      cases ran
      refine iff_of_true pruned ?_
      rintro ⟨token, present, -⟩
      exact nomatch found.symm.trans present
  | some token =>
      have only : (∃ other, ledger.token tick = some other ∧ creditsNothing other) ↔
          creditsNothing token := by
        constructor
        · rintro ⟨other, present, holds⟩
          cases found.symm.trans present
          exact holds
        · intro holds
          exact ⟨token, found, holds⟩
      rw [only]
      rw [found] at ran
      cases acted : action token with
      | error overflow =>
          simp only [acted] at ran
          cases ran
      | ok result =>
          have ends := prunes token found result acted
          simp only [acted] at ran
          cases result with
          | error reason =>
              cases ran
              exact iff_of_true pruned ends
          | ok later =>
              cases ran
              exact (pruned_insert_iff pruned tick later).trans ends

/-- One operation leaves a pruned ledger pruned unless it credits nothing to an address
without an entry. -/
theorem apply_pruned_iff {ledger after : Krc20Ledger} (conserved : ledger.Conserved)
    (pruned : ledger.Pruned) {inscription : Krc20Inscription} {sender : String}
    {outcome : ApplyOutcome}
    (ran : ledger.apply inscription sender = .ok (outcome, after)) :
    after.Pruned ↔ ¬ ledger.CreditsNothing inscription sender := by
  obtain ⟨tick, tickRaw, op⟩ := inscription
  unfold CreditsNothing
  cases op with
  | deploy max lim =>
      have never : ¬ ∃ token, ledger.token tick = some token ∧
          ((Krc20Op.deploy max lim = .mint 0 ∧ token.balances[sender]? = none) ∨
            ∃ recipient, Krc20Op.deploy max lim = .transfer 0 recipient ∧
              token.balances[recipient]? = none) := by
        rintro ⟨token, -, ⟨impossible, -⟩ | ⟨recipient, impossible, -⟩⟩
        all_goals cases impossible
      refine iff_of_true ?_ never
      change Except.ok (ledger.applyDeploy tick max lim) = _ at ran
      unfold applyDeploy at ran
      cases found : ledger.tokens[tick]? with
      | some token =>
          rw [found] at ran
          cases ran
          exact pruned
      | none =>
          rw [found] at ran
          cases ran
          refine (pruned_insert_iff pruned tick _).mpr fun address => ?_
          rw [Std.ExtTreeMap.getElem?_empty]
          nofun
  | mint amt =>
      have step := onToken_pruned_iff pruned (fun token found =>
        TokenState.applyMint_prunes (conserved tick token found) (pruned tick token found)
          sender amt) ran
      simpa using step
  | transfer amt recipient =>
      have step := onToken_pruned_iff pruned (fun token found =>
        TokenState.applyTransfer_prunes (pruned tick token found) sender recipient amt) ran
      simpa using step
  | burn amt =>
      have step := onToken_pruned_iff pruned (fun token found =>
        TokenState.applyBurn_prunes (pruned tick token found) sender amt) ran
      simpa using step

end Krc20Ledger

/-! ## Runs -/

variable (fromSlice : List UInt8 → Option Krc20.RawEnvelope)

theorem krc20Ops_append (first second : List (List UInt8 × String)) :
    krc20Ops fromSlice (first ++ second) = krc20Ops fromSlice first ++ krc20Ops fromSlice second :=
  List.filterMap_append

theorem replay_snoc (done : List (Krc20Inscription × String)) {ledger : Krc20Ledger}
    (ran : Krc20Ledger.replay done = .ok ledger) (inscription : Krc20Inscription)
    (sender : String) : Krc20Ledger.replay (done ++ [(inscription, sender)]) =
      (ledger.apply inscription sender).map Prod.snd := by
  unfold Krc20Ledger.replay at ran ⊢
  rw [Krc20Ledger.applyEach_append, ran]
  change ledger.applyEach [(inscription, sender)] = _
  unfold Krc20Ledger.applyEach
  cases performed : ledger.apply inscription sender with
  | error overflow => simp [performed, Except.map]
  | ok result => simp [performed, Except.map]

/-- One more payload of a run whose ledger is pruned. -/
theorem pruned_snoc_iff (done : List (List UInt8 × String)) {ledger : Krc20Ledger}
    (ran : Krc20Ledger.replay (krc20Ops fromSlice done) = .ok ledger) (pruned : ledger.Pruned)
    (payload : List UInt8) (sender : String) :
    (∃ after, Krc20Ledger.replay (krc20Ops fromSlice (done ++ [(payload, sender)])) = .ok after ∧
      after.Pruned) ↔
    ∀ inscription, parseKrc20Inscription fromSlice payload = .valid inscription →
      ¬ ledger.CreditsNothing inscription sender := by
  rw [krc20Ops_append]
  cases parsed : parseKrc20Inscription fromSlice payload with
  | notKrc20 =>
      have nothing : krc20Ops fromSlice [(payload, sender)] = [] := by simp [krc20Ops, parsed]
      rw [nothing, List.append_nil]
      exact iff_of_true ⟨ledger, ran, pruned⟩ nofun
  | malformed reason =>
      have nothing : krc20Ops fromSlice [(payload, sender)] = [] := by simp [krc20Ops, parsed]
      rw [nothing, List.append_nil]
      exact iff_of_true ⟨ledger, ran, pruned⟩ nofun
  | valid inscription =>
      have one : krc20Ops fromSlice [(payload, sender)] = [(inscription, sender)] := by
        simp [krc20Ops, parsed]
      rw [one, replay_snoc _ ran]
      obtain ⟨reached, same, conserved, step, -⟩ := krc20_conservation (krc20Ops fromSlice done)
      cases ran.symm.trans same
      obtain ⟨outcome, after, stepped, -⟩ := step inscription sender
      have next := Krc20Ledger.apply_pruned_iff conserved pruned stepped
      rw [stepped]
      constructor
      · rintro ⟨found, ended, prunedAfter⟩ other valid
        cases ended
        cases valid
        exact next.mp prunedAfter
      · intro every
        exact ⟨after, rfl, next.mpr (every inscription rfl)⟩

/-- The ledgers of a run from payload to payload are all pruned exactly when none of its
operations credits nothing to an address without an entry. -/
theorem pruned_iff_credits_something (payloads : List (List UInt8 × String)) :
    (∀ done, done <+: payloads →
      ∃ ledger, Krc20Ledger.replay (krc20Ops fromSlice done) = .ok ledger ∧ ledger.Pruned) ↔
    ∀ done payload sender inscription, done ++ [(payload, sender)] <+: payloads →
      parseKrc20Inscription fromSlice payload = .valid inscription →
      ∃ ledger, Krc20Ledger.replay (krc20Ops fromSlice done) = .ok ledger ∧
        ¬ ledger.CreditsNothing inscription sender := by
  constructor
  · intro every done payload sender inscription before valid
    obtain ⟨ledger, ran, pruned⟩ := every done ((List.prefix_append _ _).trans before)
    have step := (pruned_snoc_iff fromSlice done ran pruned payload sender).mp (every _ before)
    exact ⟨ledger, ran, step inscription valid⟩
  · intro every done
    induction done using List.reverseRecOn with
    | nil =>
        intro _
        refine ⟨Krc20Ledger.new, rfl, fun tick token present => ?_⟩
        exact nomatch present.symm.trans Std.ExtTreeMap.getElem?_empty
    | append_singleton done last ih =>
        intro before
        obtain ⟨payload, sender⟩ := last
        obtain ⟨ledger, ran, pruned⟩ := ih ((List.prefix_append _ _).trans before)
        refine (pruned_snoc_iff fromSlice done ran pruned payload sender).mpr ?_
        intro inscription valid
        obtain ⟨same, ran', credits⟩ := every done payload sender inscription before valid
        cases ran.symm.trans ran'
        exact credits

/-! ## A mint of nothing -/

def deployPayload : List UInt8 :=
  "\x7b\"p\":\"krc-20\",\"op\":\"deploy\",\"tick\":\"KAS\",\"max\":\"9\",\"lim\":\"9\"\x7d".toUTF8.toList

def emptyMintPayload : List UInt8 :=
  "\x7b\"p\":\"krc-20\",\"op\":\"mint\",\"tick\":\"KAS\",\"amt\":\"0\"\x7d".toUTF8.toList

/-- The envelopes of the two payloads. -/
def readEnvelopes (payload : List UInt8) : Option Krc20.RawEnvelope :=
  if payload = deployPayload then
    some ⟨some "krc-20", some "deploy", some "KAS", some "9", some "9", none, none⟩
  else if payload = emptyMintPayload then
    some ⟨some "krc-20", some "mint", some "KAS", none, none, some "0", none⟩
  else
    none

/-- A mint of zero leaves its sender an entry of value zero. -/
theorem empty_mint_leaves_an_entry :
    ∃ ledger token, Krc20Ledger.replay (krc20Ops readEnvelopes
        [(deployPayload, "kaspa:alice"), (emptyMintPayload, "kaspa:alice")]) = .ok ledger ∧
      ledger.token "kas" = some token ∧ token.balances["kaspa:alice"]? = some 0 := by
  have read : krc20Ops readEnvelopes
      [(deployPayload, "kaspa:alice"), (emptyMintPayload, "kaspa:alice")] =
        [(⟨"kas", "KAS", .deploy 9 9⟩, "kaspa:alice"), (⟨"kas", "KAS", .mint 0⟩, "kaspa:alice")] := by
    decide +kernel
  have entry : ((Krc20Ledger.replay
      [(⟨"kas", "KAS", .deploy 9 9⟩, "kaspa:alice"),
        (⟨"kas", "KAS", .mint 0⟩, "kaspa:alice")]).toOption.bind fun ledger =>
          (ledger.token "kas").bind fun token => token.balances["kaspa:alice"]?) = some 0 := by
    decide +kernel
  rw [read]
  generalize Krc20Ledger.replay _ = ran at entry ⊢
  cases ran with
  | error overflow => cases entry
  | ok ledger =>
      change (ledger.token "kas").bind _ = some 0 at entry
      obtain ⟨token, deployed, held⟩ := Option.bind_eq_some_iff.mp entry
      exact ⟨ledger, token, rfl, deployed, held⟩

end KasGraph
