import KasGraph.LegacyReplay

set_option autoImplicit false

/-! The legacy operations as they run: in place on the stored state of a tick, which keeps
every write made before an operation answers. They agree with the operations that answer a
new state, and one that is rejected has written nothing. -/

namespace KasGraph

open MachineInt

/-- A program on a state that it changes in place. An overflow aborts it. -/
abbrev InPlace (σ α : Type) := StateT σ (Except Overflow) α

/-! ## KRC-20 -/

namespace Balances

/-- `*balance -= amt`, and remove the entry when it reaches zero. -/
def debitInPlace (address : String) (amt : UInt64) : InPlace Balances Unit := do
  match (← get)[address]? with
  | none => return ()
  | some balance =>
      let left ← subU64 balance amt
      modify fun balances => balances.insert address left
      if left = 0 then
        modify fun balances => balances.erase address

/-- `entry(address).or_insert(0)`, and `+= amt` on the entry. -/
def creditInPlace (address : String) (amt : UInt64) : InPlace Balances Unit := do
  let entry := ((← get)[address]?).getD 0
  modify fun balances => balances.insert address entry
  let sum ← addU64 entry amt
  modify fun balances => balances.insert address sum

end Balances

namespace TokenState

/-- Run a program on the balances of a token. -/
def onBalances (program : InPlace Balances Unit) : InPlace TokenState Unit := do
  let token ← get
  let (_, balances) ← program.run token.balances
  set { token with balances }

def mintInPlace (sender : String) (amt : UInt64) : InPlace TokenState ApplyOutcome := do
  let token ← get
  if amt > token.lim then
    return .rejected "mint exceeds per-mint limit"
  else
    match checkedAdd token.minted amt with
    | some total =>
        if total ≤ token.max then do
          modify fun token => { token with minted := total }
          onBalances (Balances.creditInPlace sender amt)
          return .accepted
        else
          return .rejected "mint exceeds total supply cap"
    | none => return .rejected "mint exceeds total supply cap"

def transferInPlace (sender recipient : String) (amt : UInt64) :
    InPlace TokenState ApplyOutcome := do
  let senderBalance := ((← get).balances[sender]?).getD 0
  if senderBalance < amt then
    return .rejected "transfer exceeds sender balance"
  else do
    onBalances (Balances.debitInPlace sender amt)
    onBalances (Balances.creditInPlace recipient amt)
    return .accepted

def burnInPlace (sender : String) (amt : UInt64) : InPlace TokenState ApplyOutcome := do
  let senderBalance := ((← get).balances[sender]?).getD 0
  if senderBalance < amt then
    return .rejected "burn exceeds sender balance"
  else do
    onBalances (Balances.debitInPlace sender amt)
    modify fun token => { token with minted := saturatingSubU64 token.minted amt }
    return .accepted

end TokenState

namespace Krc20Ledger

def deployInPlace (tick : String) (max lim : UInt64) : InPlace Krc20Ledger ApplyOutcome := do
  match (← get).tokens[tick]? with
  | some _ => return .rejected "tick already deployed"
  | none =>
      modify fun ledger =>
        ⟨ledger.tokens.insert tick { max, lim, minted := 0, balances := ∅ }⟩
      return .accepted

/-- Run a program on the stored token of a tick. What it wrote stays, whatever it answers. -/
def withToken (tick undeployed : String) (program : InPlace TokenState ApplyOutcome) :
    InPlace Krc20Ledger ApplyOutcome := do
  match (← get).tokens[tick]? with
  | none => return .rejected undeployed
  | some token =>
      let (outcome, written) ← program.run token
      modify fun ledger => ⟨ledger.tokens.insert tick written⟩
      return outcome

def applyInPlace (inscription : Krc20Inscription) (sender : String) :
    InPlace Krc20Ledger ApplyOutcome :=
  match inscription.op with
  | .deploy max lim => deployInPlace inscription.tick max lim
  | .mint amt =>
      withToken inscription.tick "mint for undeployed tick" (TokenState.mintInPlace sender amt)
  | .transfer amt recipient =>
      withToken inscription.tick "transfer for undeployed tick"
        (TokenState.transferInPlace sender recipient amt)
  | .burn amt =>
      withToken inscription.tick "burn for undeployed tick" (TokenState.burnInPlace sender amt)

end Krc20Ledger

/-! ## KRC-721 -/

namespace CollectionState

def mintInPlace (sender : String) (id : UInt64) : InPlace CollectionState ApplyOutcome := do
  let collection ← get
  if id ≥ collection.max then
    return .rejected "token id outside collection size"
  else if collection.minted.contains id then
    return .rejected "token id already minted"
  else do
    modify fun collection => { collection with minted := collection.minted.insert id }
    modify fun collection => { collection with owners := collection.owners.insert id sender }
    return .accepted

def transferInPlace (sender recipient : String) (id : UInt64) :
    InPlace CollectionState ApplyOutcome := do
  if (← get).owners[id]? = some sender then do
    modify fun collection => { collection with owners := collection.owners.insert id recipient }
    return .accepted
  else
    return .rejected "transfer of a token the sender does not own"

def burnInPlace (sender : String) (id : UInt64) : InPlace CollectionState ApplyOutcome := do
  if (← get).owners[id]? = some sender then do
    modify fun collection => { collection with owners := collection.owners.erase id }
    return .accepted
  else
    return .rejected "burn of a token the sender does not own"

end CollectionState

namespace Krc721Ledger

def deployInPlace (tick : String) (max : UInt64) : InPlace Krc721Ledger ApplyOutcome := do
  match (← get).collections[tick]? with
  | some _ => return .rejected "collection already deployed"
  | none =>
      modify fun ledger => ⟨ledger.collections.insert tick { max, owners := ∅, minted := ∅ }⟩
      return .accepted

/-- Run a program on the stored collection of a tick. What it wrote stays, whatever it
answers. -/
def withCollection (tick undeployed : String) (program : InPlace CollectionState ApplyOutcome) :
    InPlace Krc721Ledger ApplyOutcome := do
  match (← get).collections[tick]? with
  | none => return .rejected undeployed
  | some collection =>
      let (outcome, written) ← program.run collection
      modify fun ledger => ⟨ledger.collections.insert tick written⟩
      return outcome

def applyInPlace (inscription : Krc721Inscription) (sender : String) :
    InPlace Krc721Ledger ApplyOutcome :=
  match inscription.op with
  | .deploy max => deployInPlace inscription.tick max
  | .mint id _ =>
      withCollection inscription.tick "mint for undeployed collection"
        (CollectionState.mintInPlace sender id)
  | .transfer id recipient =>
      withCollection inscription.tick "transfer for undeployed collection"
        (CollectionState.transferInPlace sender recipient id)
  | .burn id =>
      withCollection inscription.tick "burn for undeployed collection"
        (CollectionState.burnInPlace sender id)

end Krc721Ledger

/-! ## In place and by a new state -/

@[simp] theorem ok_bind {ε α β : Type} (a : α) (next : α → Except ε β) :
    (Except.ok a >>= next) = next a := rfl

@[simp] theorem error_bind {ε α β : Type} (cause : ε) (next : α → Except ε β) :
    (Except.error cause >>= next) = Except.error cause := rfl

@[simp] theorem pure_eq_ok {ε α : Type} (a : α) : (pure a : Except ε α) = .ok a := rfl

theorem OrderedMap.erase_insert {κ ν : Type} [Ord κ] [Std.TransOrd κ] [Std.LawfulEqOrd κ]
    (m : OrderedMap κ ν) (k : κ) (v : ν) : (m.insert k v).erase k = m.erase k := by
  refine OrderedMap.ext_get fun a => ?_
  by_cases here : k = a
  · subst here
    rw [OrderedMap.get_erase_self, OrderedMap.get_erase_self]
  · rw [OrderedMap.get_erase_of_ne _ here, OrderedMap.get_insert_of_ne _ _ here,
      OrderedMap.get_erase_of_ne _ here]

theorem OrderedMap.insert_insert {κ ν : Type} [Ord κ] [Std.TransOrd κ] [Std.LawfulEqOrd κ]
    (m : OrderedMap κ ν) (k : κ) (v w : ν) : (m.insert k v).insert k w = m.insert k w := by
  refine OrderedMap.ext_get fun a => ?_
  by_cases here : k = a
  · subst here
    rw [OrderedMap.get_insert_self, OrderedMap.get_insert_self]
  · rw [OrderedMap.get_insert_of_ne _ _ here, OrderedMap.get_insert_of_ne _ _ here,
      OrderedMap.get_insert_of_ne _ _ here]

theorem OrderedMap.insert_of_get {κ ν : Type} [Ord κ] [Std.TransOrd κ] [Std.LawfulEqOrd κ]
    {m : OrderedMap κ ν} {k : κ} {v : ν} (present : m[k]? = some v) : m.insert k v = m := by
  refine OrderedMap.ext_get fun a => ?_
  by_cases here : k = a
  · subst here
    rw [OrderedMap.get_insert_self, present]
  · rw [OrderedMap.get_insert_of_ne _ _ here]

namespace Balances

theorem debitInPlace_run (address : String) (amt : UInt64) (balances : Balances) :
    (debitInPlace address amt).run balances = (debit balances address amt).map ((), ·) := by
  cases found : balances[address]? with
  | none => simp [debitInPlace, debit, found, Except.map]
  | some balance =>
      cases subtracted : subU64 balance amt with
      | error overflow => simp [debitInPlace, debit, found, subtracted, Except.map]
      | ok left =>
          by_cases zero : left = 0
          · simp [debitInPlace, debit, found, subtracted, zero, Except.map, OrderedMap.erase_insert]
          · simp [debitInPlace, debit, found, subtracted, zero, Except.map]

theorem creditInPlace_run (address : String) (amt : UInt64) (balances : Balances) :
    (creditInPlace address amt).run balances = (credit balances address amt).map ((), ·) := by
  cases added : addU64 (balances[address]?.getD 0) amt with
  | error overflow => simp [creditInPlace, credit, added, Except.map]
  | ok sum => simp [creditInPlace, credit, added, Except.map, OrderedMap.insert_insert]

end Balances

/-- The answer of an action that answers a new state: a rejected one keeps the old state. -/
def answer {σ : Type} (state : σ) : Except String σ → ApplyOutcome × σ
  | .error reason => (.rejected reason, state)
  | .ok after => (.accepted, after)

namespace TokenState

theorem onBalances_run {program : InPlace Balances Unit} (token : TokenState)
    {result : Except Overflow Balances}
    (ran : program.run token.balances = result.map ((), ·)) :
    (onBalances program).run token =
      result.map fun balances => ((), { token with balances }) := by
  cases result with
  | error overflow => simp [onBalances, ran, Except.map]
  | ok balances => simp [onBalances, ran, Except.map]

theorem mintInPlace_run (sender : String) (amt : UInt64) (token : TokenState) :
    (mintInPlace sender amt).run token = (applyMint sender amt token).map (answer token) := by
  by_cases limited : amt > token.lim
  · simp [mintInPlace, applyMint, limited, Except.map, answer]
  · cases added : checkedAdd token.minted amt with
    | none => simp [mintInPlace, applyMint, limited, added, Except.map, answer]
    | some total =>
        by_cases fits : total ≤ token.max
        · have credited := onBalances_run { token with minted := total }
            (Balances.creditInPlace_run sender amt token.balances)
          cases ran : credit token.balances sender amt with
          | error overflow =>
              rw [ran] at credited
              simp [mintInPlace, applyMint, limited, added, fits, ran, credited, Except.map]
          | ok balances =>
              rw [ran] at credited
              simp [mintInPlace, applyMint, limited, added, fits, ran, credited, Except.map, answer]
        · simp [mintInPlace, applyMint, limited, added, fits, Except.map, answer]

theorem transferInPlace_run (sender recipient : String) (amt : UInt64) (token : TokenState) :
    (transferInPlace sender recipient amt).run token =
      (applyTransfer sender recipient amt token).map (answer token) := by
  by_cases short : token.balances[sender]?.getD 0 < amt
  · simp [transferInPlace, applyTransfer, short, Except.map, answer]
  · have debited := onBalances_run token (Balances.debitInPlace_run sender amt token.balances)
    cases ran : debit token.balances sender amt with
    | error overflow =>
        rw [ran] at debited
        simp [transferInPlace, applyTransfer, short, ran, debited, Except.map]
    | ok balances =>
        rw [ran] at debited
        have credited := onBalances_run { token with balances }
          (Balances.creditInPlace_run recipient amt balances)
        cases again : credit balances recipient amt with
        | error overflow =>
            rw [again] at credited
            simp [transferInPlace, applyTransfer, short, ran, debited, again, credited, Except.map]
        | ok after =>
            rw [again] at credited
            simp [transferInPlace, applyTransfer, short, ran, debited, again, credited, Except.map,
              answer]

theorem burnInPlace_run (sender : String) (amt : UInt64) (token : TokenState) :
    (burnInPlace sender amt).run token = (applyBurn sender amt token).map (answer token) := by
  by_cases short : token.balances[sender]?.getD 0 < amt
  · simp [burnInPlace, applyBurn, short, Except.map, answer]
  · have debited := onBalances_run token (Balances.debitInPlace_run sender amt token.balances)
    cases ran : debit token.balances sender amt with
    | error overflow =>
        rw [ran] at debited
        simp [burnInPlace, applyBurn, short, ran, debited, Except.map]
    | ok balances =>
        rw [ran] at debited
        simp [burnInPlace, applyBurn, short, ran, debited, Except.map, answer]

end TokenState

namespace Krc20Ledger

theorem withToken_run (ledger : Krc20Ledger) (tick undeployed : String)
    {program : InPlace TokenState ApplyOutcome} {action : TokenAction}
    (agrees : ∀ token, program.run token = (action token).map (answer token)) :
    (withToken tick undeployed program).run ledger = ledger.onToken tick undeployed action := by
  cases found : ledger.tokens[tick]? with
  | none => simp [withToken, onToken, found]
  | some token =>
      cases acted : action token with
      | error overflow => simp [withToken, onToken, found, agrees, acted, Except.map]
      | ok result =>
          cases result with
          | error reason =>
              -- The stored token is written back as it was.
              simp [withToken, onToken, found, agrees, acted, Except.map, answer,
                OrderedMap.insert_of_get found]
          | ok after => simp [withToken, onToken, found, agrees, acted, Except.map, answer]

theorem applyInPlace_run (ledger : Krc20Ledger) (inscription : Krc20Inscription)
    (sender : String) :
    (applyInPlace inscription sender).run ledger = ledger.apply inscription sender := by
  unfold applyInPlace apply
  cases inscription.op with
  | deploy max lim =>
      cases found : ledger.tokens[inscription.tick]? with
      | none => simp [deployInPlace, applyDeploy, found]
      | some token => simp [deployInPlace, applyDeploy, found]
  | mint amt => exact withToken_run ledger _ _ (TokenState.mintInPlace_run sender amt)
  | transfer amt recipient =>
      exact withToken_run ledger _ _ (TokenState.transferInPlace_run sender recipient amt)
  | burn amt => exact withToken_run ledger _ _ (TokenState.burnInPlace_run sender amt)

end Krc20Ledger

namespace CollectionState

theorem mintInPlace_run (sender : String) (id : UInt64) (collection : CollectionState) :
    (mintInPlace sender id).run collection =
      .ok (answer collection (applyMint sender id collection)) := by
  by_cases outside : id ≥ collection.max
  · simp [mintInPlace, applyMint, outside, answer]
  · by_cases taken : id ∈ collection.minted
    · simp [mintInPlace, applyMint, outside, taken, answer]
    · simp [mintInPlace, applyMint, outside, taken, answer]

theorem transferInPlace_run (sender recipient : String) (id : UInt64)
    (collection : CollectionState) :
    (transferInPlace sender recipient id).run collection =
      .ok (answer collection (applyTransfer sender recipient id collection)) := by
  by_cases owned : collection.owners[id]? = some sender
  · simp [transferInPlace, applyTransfer, owned, answer]
  · simp [transferInPlace, applyTransfer, owned, answer]

theorem burnInPlace_run (sender : String) (id : UInt64) (collection : CollectionState) :
    (burnInPlace sender id).run collection =
      .ok (answer collection (applyBurn sender id collection)) := by
  by_cases owned : collection.owners[id]? = some sender
  · simp [burnInPlace, applyBurn, owned, answer]
  · simp [burnInPlace, applyBurn, owned, answer]

end CollectionState

namespace Krc721Ledger

theorem withCollection_run (ledger : Krc721Ledger) (tick undeployed : String)
    {program : InPlace CollectionState ApplyOutcome} {action : CollectionAction}
    (agrees : ∀ collection, program.run collection = .ok (answer collection (action collection))) :
    (withCollection tick undeployed program).run ledger =
      .ok (ledger.onCollection tick undeployed action) := by
  cases found : ledger.collections[tick]? with
  | none => simp [withCollection, onCollection, found]
  | some collection =>
      cases acted : action collection with
      | error reason =>
          simp [withCollection, onCollection, found, agrees, acted, answer,
            OrderedMap.insert_of_get found]
      | ok after => simp [withCollection, onCollection, found, agrees, acted, answer]

theorem applyInPlace_run (ledger : Krc721Ledger) (inscription : Krc721Inscription)
    (sender : String) :
    (applyInPlace inscription sender).run ledger = .ok (ledger.apply inscription sender) := by
  unfold applyInPlace apply
  cases inscription.op with
  | deploy max =>
      cases found : ledger.collections[inscription.tick]? with
      | none => simp [deployInPlace, applyDeploy, found]
      | some collection => simp [deployInPlace, applyDeploy, found]
  | mint id uri => exact withCollection_run ledger _ _ (CollectionState.mintInPlace_run sender id)
  | transfer id recipient =>
      exact withCollection_run ledger _ _ (CollectionState.transferInPlace_run sender recipient id)
  | burn id => exact withCollection_run ledger _ _ (CollectionState.burnInPlace_run sender id)

end Krc721Ledger

/-! ## Streams of operations -/

section Streams

variable {L ι : Type}

/-- Run every operation of a stream; answer the accepted ones. -/
def keepAccepted (apply : ι → String → InPlace L ApplyOutcome) :
    List (ι × String) → InPlace L (List (ι × String))
  | [] => return []
  | (inscription, sender) :: rest => do
      let outcome ← apply inscription sender
      let later ← keepAccepted apply rest
      return if outcome = .accepted then (inscription, sender) :: later else later

/-- An operation answers, and when it is rejected it leaves the ledger as it was. -/
def Neutral (apply : ι → String → InPlace L ApplyOutcome) (ledger : L) : Prop :=
  ∀ inscription sender, ∃ outcome after,
    (apply inscription sender).run ledger = .ok (outcome, after) ∧
      ∀ reason, outcome = .rejected reason → after = ledger

/-- Running the accepted operations alone reaches the same ledger, and accepts them all. -/
theorem keepAccepted_again {apply : ι → String → InPlace L ApplyOutcome} {Sound : L → Prop}
    (neutral : ∀ ledger, Sound ledger → Neutral apply ledger)
    (keeps : ∀ ledger, Sound ledger → ∀ inscription sender outcome after,
      (apply inscription sender).run ledger = .ok (outcome, after) → Sound after)
    {ledger : L} (sound : Sound ledger) (ops : List (ι × String)) :
    ∃ kept after, (keepAccepted apply ops).run ledger = .ok (kept, after) ∧ Sound after ∧
      (keepAccepted apply kept).run ledger = .ok (kept, after) := by
  induction ops generalizing ledger with
  | nil => exact ⟨[], ledger, rfl, sound, rfl⟩
  | cons op rest ih =>
      obtain ⟨inscription, sender⟩ := op
      obtain ⟨outcome, next, stepped, same⟩ := neutral ledger sound inscription sender
      obtain ⟨kept, after, ran, soundAfter, again⟩ :=
        ih (keeps ledger sound inscription sender outcome next stepped)
      cases outcome with
      | accepted =>
          refine ⟨(inscription, sender) :: kept, after, ?_, soundAfter, ?_⟩
          · simp [keepAccepted, stepped, ran]
          · simp [keepAccepted, stepped, again]
      | rejected reason =>
          refine ⟨kept, after, ?_, soundAfter, ?_⟩
          · simp [keepAccepted, stepped, ran]
          · rw [← same reason rfl]
            exact again

/-- The ledger that is left is the one the whole stream leaves. -/
theorem keepAccepted_foldlM {apply : ι → String → InPlace L ApplyOutcome}
    {ops kept : List (ι × String)} {ledger after : L} (ran : (keepAccepted apply ops).run ledger = .ok (kept, after)) :
    ops.foldlM (fun ledger (inscription, sender) => do
      let (_, after) ← (apply inscription sender).run ledger
      return after) ledger = .ok after := by
  induction ops generalizing ledger kept with
  | nil =>
      cases ran
      rfl
  | cons op rest ih =>
      obtain ⟨inscription, sender⟩ := op
      cases stepped : (apply inscription sender).run ledger with
      | error overflow => simp [keepAccepted, stepped] at ran
      | ok answered =>
          cases later : (keepAccepted apply rest).run answered.2 with
          | error overflow => simp [keepAccepted, stepped, later] at ran
          | ok left =>
              simp only [keepAccepted, StateT.run_bind, stepped, later, ok_bind, StateT.run_pure,
                pure_eq_ok, Except.ok.injEq, Prod.mk.injEq] at ran
              rw [← ran.2] at ih ⊢
              have rest := ih later
              simp only [List.foldlM_cons, stepped, ok_bind, pure_eq_ok]
              exact rest

end Streams

namespace Krc20Ledger

theorem replay_of_keepAccepted {ops kept : List (Krc20Inscription × String)} {ledger : Krc20Ledger}
    (ran : (keepAccepted applyInPlace ops).run .new = .ok (kept, ledger)) :
    replay ops = .ok ledger := by
  have folded := keepAccepted_foldlM ran
  simp only [applyInPlace_run] at folded
  exact folded

theorem Conserved.neutral {ledger : Krc20Ledger} (conserved : ledger.Conserved) :
    Neutral applyInPlace ledger := by
  intro inscription sender
  obtain ⟨outcome, after, ran, step⟩ := apply_sound conserved inscription sender
  exact ⟨outcome, after, (applyInPlace_run ..).trans ran, step.unchanged⟩

theorem Conserved.keeps {ledger : Krc20Ledger} (conserved : ledger.Conserved)
    (inscription : Krc20Inscription) (sender : String) (outcome : ApplyOutcome)
    (after : Krc20Ledger)
    (ran : (applyInPlace inscription sender).run ledger = .ok (outcome, after)) :
    after.Conserved := by
  obtain ⟨answered, next, stepped, step⟩ := apply_sound conserved inscription sender
  rw [applyInPlace_run, stepped] at ran
  cases ran
  exact step.conserved

end Krc20Ledger

namespace Krc721Ledger

theorem replay_of_keepAccepted {ops kept : List (Krc721Inscription × String)}
    {ledger : Krc721Ledger}
    (ran : (keepAccepted applyInPlace ops).run .new = .ok (kept, ledger)) : replay ops = ledger := by
  have folded := keepAccepted_foldlM ran
  simp only [applyInPlace_run] at folded
  exact Except.ok.inj ((krc721_replay .new ops).symm.trans folded)

theorem onCollection_unchanged (ledger : Krc721Ledger) (tick undeployed reason : String)
    (action : CollectionAction)
    (rejected : (ledger.onCollection tick undeployed action).1 = .rejected reason) :
    (ledger.onCollection tick undeployed action).2 = ledger := by
  unfold onCollection at rejected ⊢
  cases found : ledger.collections[tick]? with
  | none => rfl
  | some collection =>
      cases acted : action collection with
      | error cause => simp only [acted]
      | ok after => simp [found, acted] at rejected

theorem applyDeploy_unchanged (ledger : Krc721Ledger) (tick reason : String) (max : UInt64)
    (rejected : (ledger.applyDeploy tick max).1 = .rejected reason) :
    (ledger.applyDeploy tick max).2 = ledger := by
  unfold applyDeploy at rejected ⊢
  cases found : ledger.collections[tick]? with
  | none => simp [found] at rejected
  | some collection => rfl

theorem neutral (ledger : Krc721Ledger) : Neutral applyInPlace ledger := by
  intro inscription sender
  refine ⟨_, _, applyInPlace_run ledger inscription sender, fun reason rejected => ?_⟩
  obtain ⟨tick, tickRaw, op⟩ := inscription
  cases op with
  | deploy max => exact ledger.applyDeploy_unchanged tick reason max rejected
  | mint id uri => exact ledger.onCollection_unchanged tick _ reason _ rejected
  | transfer id recipient => exact ledger.onCollection_unchanged tick _ reason _ rejected
  | burn id => exact ledger.onCollection_unchanged tick _ reason _ rejected

end Krc721Ledger

/-- On every ledger that a stream of operations reaches, an operation that is rejected
leaves the ledger as it was; and the accepted operations of the stream, run alone, are all
accepted again, and replaying them rebuilds that ledger. -/
theorem rejections_are_neutral :
    (∀ ops, ∃ kept ledger,
      (keepAccepted Krc20Ledger.applyInPlace ops).run .new = .ok (kept, ledger) ∧
        Neutral Krc20Ledger.applyInPlace ledger ∧
        (keepAccepted Krc20Ledger.applyInPlace kept).run .new = .ok (kept, ledger) ∧
        Krc20Ledger.replay ops = .ok ledger ∧ Krc20Ledger.replay kept = .ok ledger) ∧
    ∀ ops, ∃ kept ledger,
      (keepAccepted Krc721Ledger.applyInPlace ops).run .new = .ok (kept, ledger) ∧
        Neutral Krc721Ledger.applyInPlace ledger ∧
        (keepAccepted Krc721Ledger.applyInPlace kept).run .new = .ok (kept, ledger) ∧
        Krc721Ledger.replay ops = ledger ∧ Krc721Ledger.replay kept = ledger := by
  constructor
  · intro ops
    obtain ⟨kept, ledger, ran, conserved, again⟩ := keepAccepted_again
      (fun _ sound => Krc20Ledger.Conserved.neutral sound)
      (fun _ sound => Krc20Ledger.Conserved.keeps sound) Krc20Ledger.new_conserved ops
    exact ⟨kept, ledger, ran, conserved.neutral, again, Krc20Ledger.replay_of_keepAccepted ran,
      Krc20Ledger.replay_of_keepAccepted again⟩
  · intro ops
    obtain ⟨kept, ledger, ran, -, again⟩ := @keepAccepted_again _ _ Krc721Ledger.applyInPlace
      (fun _ => True) (fun ledger _ => ledger.neutral) (fun _ _ _ _ _ _ _ => trivial)
      .new trivial ops
    exact ⟨kept, ledger, ran, ledger.neutral, again, Krc721Ledger.replay_of_keepAccepted ran,
      Krc721Ledger.replay_of_keepAccepted again⟩

end KasGraph
