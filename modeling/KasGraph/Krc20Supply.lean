import KasGraph.Krc20Ledger

set_option autoImplicit false

/-! What the holders of a legacy KRC-20 tick own. Their balances add up to the minted
supply through every operation, so no credit can overflow. -/

namespace KasGraph

open MachineInt

/-- The exact sum of all balances. -/
def Balances.held (balances : Balances) : Nat := OrderedMap.total balances UInt64.toNat

/-- What an address holds in a map of balances. -/
def Balances.of (balances : Balances) (address : String) : UInt64 := balances[address]?.getD 0

/-- The holders own the minted supply, which the cap bounds. -/
structure TokenState.Backed (token : TokenState) : Prop where
  held : token.balances.held = token.minted.toNat
  capped : token.minted.toNat ≤ token.max.toNat

def Krc20Ledger.Conserved (ledger : Krc20Ledger) : Prop :=
  ∀ tick token, ledger.token tick = some token → token.Backed

/-! ## Debits and credits -/

theorem addU64_eq_ok_iff (a b c : UInt64) : addU64 a b = .ok c ↔ a.toNat + b.toNat = c.toNat := by
  rw [← checkedAdd_eq_some_iff]
  unfold addU64
  cases checkedAdd a b <;> simp

theorem subU64_eq_ok_iff (a b c : UInt64) : subU64 a b = .ok c ↔ a.toNat = c.toNat + b.toNat := by
  rw [← checkedSub_eq_some_iff]
  unfold subU64
  cases checkedSub a b <;> simp

/-- An addition that fits in 64 bits. -/
theorem addU64_of_lt {a b : UInt64} (fits : a.toNat + b.toNat < 2 ^ 64) :
    ∃ c, addU64 a b = .ok c ∧ c.toNat = a.toNat + b.toNat := by
  have value : (UInt64.ofNat (a.toNat + b.toNat)).toNat = a.toNat + b.toNat := by
    rw [UInt64.toNat_ofNat']
    exact Nat.mod_eq_of_lt fits
  exact ⟨_, (addU64_eq_ok_iff _ _ _).mpr value.symm, value⟩

/-- A subtraction from enough. -/
theorem subU64_of_le {a b : UInt64} (enough : b.toNat ≤ a.toNat) :
    ∃ c, subU64 a b = .ok c ∧ c.toNat + b.toNat = a.toNat := by
  have value : (a - b).toNat + b.toNat = a.toNat := by
    rw [UInt64.toNat_sub_of_le _ _ (UInt64.le_iff_toNat_le.mpr enough)]
    omega
  exact ⟨_, (subU64_eq_ok_iff _ _ _).mpr value.symm, value⟩

namespace Balances

theorem of_le_held (balances : Balances) (address : String) :
    (balances.of address).toNat ≤ balances.held := by
  unfold of
  cases present : balances[address]? with
  | none => exact Nat.zero_le _
  | some balance => exact OrderedMap.le_total _ present

/-- What the other addresses hold. -/
theorem held_eq (balances : Balances) (address : String) :
    balances.held = (balances.of address).toNat + held (balances.erase address) := by
  unfold of held
  cases present : balances[address]? with
  | none =>
      rw [OrderedMap.erase_of_absent present]
      exact (Nat.zero_add _).symm
  | some balance => exact OrderedMap.total_of_get _ present

theorem held_insert (balances : Balances) (address : String) (balance : UInt64) :
    held (balances.insert address balance) = balance.toNat + held (balances.erase address) :=
  OrderedMap.total_insert ..

end Balances

/-- A debit of no more than the balance takes its amount from the sum. -/
theorem debit_of_le {balances : Balances} {address : String} {amt : UInt64}
    (enough : amt.toNat ≤ (balances.of address).toNat) :
    ∃ after, debit balances address amt = .ok after ∧
      after.held + amt.toNat = balances.held := by
  have whole := balances.held_eq address
  unfold debit
  cases present : balances[address]? with
  | none =>
      have nothing : balances.of address = 0 := by
        unfold Balances.of
        rw [present]
        rfl
      rw [nothing] at enough
      refine ⟨balances, rfl, ?_⟩
      have : (0 : UInt64).toNat = 0 := rfl
      omega
  | some balance =>
      have here : balances.of address = balance := by
        unfold Balances.of
        rw [present]
        rfl
      rw [here] at enough whole
      obtain ⟨left, taken, difference⟩ := subU64_of_le enough
      simp only [taken]
      refine ⟨_, rfl, ?_⟩
      by_cases gone : left = 0
      · rw [if_pos gone]
        have : left.toNat = 0 := congrArg UInt64.toNat gone
        omega
      · rw [if_neg gone, Balances.held_insert]
        omega

/-- A credit adds its amount to a sum that leaves room for it. -/
theorem credit_of_lt (balances : Balances) (address : String) (amt : UInt64)
    (room : balances.held + amt.toNat < 2 ^ 64) :
    ∃ after, credit balances address amt = .ok after ∧
      after.held = balances.held + amt.toNat := by
  have whole := balances.held_eq address
  have small := balances.of_le_held address
  obtain ⟨sum, added, value⟩ := addU64_of_lt (a := balances.of address) (b := amt) (by omega)
  refine ⟨balances.insert address sum, ?_, ?_⟩
  · unfold credit
    change (addU64 (balances.of address) amt >>= _) = _
    rw [added]
    rfl
  · rw [Balances.held_insert]
    omega

/-! ## Operations on one token -/

/-- A token that an operation leaves: backed, under the cap and the limit it had. -/
structure TokenState.Continued (token after : TokenState) : Prop where
  backed : after.Backed
  max : after.max = token.max
  lim : after.lim = token.lim

namespace TokenState

/-- A mint that is accepted is within the limit. -/
theorem applyMint_sound {token : TokenState} (backed : token.Backed) (sender : String)
    (amt : UInt64) : ∃ result, applyMint sender amt token = .ok result ∧
      ∀ after, result = .ok after → token.Continued after ∧ amt ≤ token.lim := by
  have held := backed.held
  have small := token.max.toNat_lt
  unfold applyMint
  by_cases above : amt > token.lim
  · rw [if_pos above]
    exact ⟨_, rfl, nofun⟩
  · rw [if_neg above]
    cases added : checkedAdd token.minted amt with
    | none => exact ⟨_, rfl, nofun⟩
    | some total =>
        have sum := (checkedAdd_eq_some_iff _ _ _).mp added
        by_cases under : total ≤ token.max
        · have capped := UInt64.le_iff_toNat_le.mp under
          obtain ⟨balances, credited, grown⟩ :=
            credit_of_lt token.balances sender amt (by omega)
          simp only [if_pos under, credited]
          refine ⟨_, rfl, ?_⟩
          intro after same
          cases same
          have backedAfter : balances.held = total.toNat := by omega
          exact ⟨⟨⟨backedAfter, capped⟩, rfl, rfl⟩, UInt64.not_lt.mp above⟩
        · simp only [if_neg under]
          exact ⟨_, rfl, nofun⟩

/-- A transfer moves its amount, also from an address to itself. One that is accepted is
within the balance. -/
theorem applyTransfer_sound {token : TokenState} (backed : token.Backed)
    (sender recipient : String) (amt : UInt64) :
    ∃ result, applyTransfer sender recipient amt token = .ok result ∧
      ∀ after, result = .ok after → token.Continued after ∧ amt ≤ token.balances.of sender := by
  have held := backed.held
  have small := token.minted.toNat_lt
  unfold applyTransfer
  change ∃ result, (if token.balances.of sender < amt then _ else _) = _ ∧ _
  by_cases short : token.balances.of sender < amt
  · rw [if_pos short]
    exact ⟨_, rfl, nofun⟩
  · have enough := UInt64.le_iff_toNat_le.mp (UInt64.not_lt.mp short)
    obtain ⟨debited, taken, less⟩ := debit_of_le enough
    obtain ⟨balances, credited, more⟩ :=
      credit_of_lt debited recipient amt (by omega)
    simp only [if_neg short, taken, credited, bind, Except.bind]
    refine ⟨_, rfl, ?_⟩
    intro after same
    cases same
    have backedAfter : balances.held = token.minted.toNat := by omega
    exact ⟨⟨⟨backedAfter, backed.capped⟩, rfl, rfl⟩, UInt64.not_lt.mp short⟩

/-- A burn that is accepted takes no more than was minted. -/
theorem applyBurn_sound {token : TokenState} (backed : token.Backed) (sender : String)
    (amt : UInt64) : ∃ result, applyBurn sender amt token = .ok result ∧
      ∀ after, result = .ok after → token.Continued after ∧ amt ≤ token.minted := by
  have held := backed.held
  have capped := backed.capped
  have own := token.balances.of_le_held sender
  unfold applyBurn
  change ∃ result, (if token.balances.of sender < amt then _ else _) = _ ∧ _
  by_cases short : token.balances.of sender < amt
  · rw [if_pos short]
    exact ⟨_, rfl, nofun⟩
  · have enough := UInt64.le_iff_toNat_le.mp (UInt64.not_lt.mp short)
    obtain ⟨balances, taken, less⟩ := debit_of_le enough
    have exactly := toNat_saturatingSubU64 (a := token.minted) (b := amt) (by omega)
    simp only [if_neg short, taken]
    refine ⟨_, rfl, ?_⟩
    intro after same
    cases same
    have backedAfter : balances.held = (saturatingSubU64 token.minted amt).toNat := by omega
    have cappedAfter : (saturatingSubU64 token.minted amt).toNat ≤ token.max.toNat := by omega
    exact ⟨⟨⟨backedAfter, cappedAfter⟩, rfl, rfl⟩, UInt64.le_iff_toNat_le.mpr (by omega)⟩

end TokenState

/-! ## Operations on the ledger -/

namespace Krc20Ledger

/-- The caps and the limits of the deployed ticks are what they were. -/
def Fixed (ledger after : Krc20Ledger) : Prop :=
  ∀ tick token, ledger.token tick = some token →
    ∃ later, after.token tick = some later ∧ later.max = token.max ∧ later.lim = token.lim

/-- What an operation does to a ledger, whatever its outcome. -/
structure Preserved (ledger : Krc20Ledger) (outcome : ApplyOutcome) (after : Krc20Ledger) :
    Prop where
  conserved : after.Conserved
  fixed : ledger.Fixed after
  unchanged : ∀ reason, outcome = .rejected reason → after = ledger

/-- What an operation does to a ledger, by its kind. -/
structure SoundStep (ledger : Krc20Ledger) (inscription : Krc20Inscription)
    (outcome : ApplyOutcome) (after : Krc20Ledger) : Prop extends
    ledger.Preserved outcome after where
  deployed : ∀ max lim, inscription.op = .deploy max lim → outcome = .accepted →
    after.token inscription.tick = some { max, lim, minted := 0, balances := ∅ }
  limited : ∀ amt, inscription.op = .mint amt → outcome = .accepted →
    ∃ token, ledger.token inscription.tick = some token ∧ amt ≤ token.lim
  unsaturated : ∀ amt, inscription.op = .burn amt → outcome = .accepted →
    ∃ token, ledger.token inscription.tick = some token ∧ amt ≤ token.minted

theorem Fixed.refl (ledger : Krc20Ledger) : ledger.Fixed ledger :=
  fun _ token present => ⟨token, present, rfl, rfl⟩

theorem Fixed.trans {first second third : Krc20Ledger} (before : first.Fixed second)
    (next : second.Fixed third) : first.Fixed third := by
  intro tick token present
  obtain ⟨later, found, max, lim⟩ := before tick token present
  obtain ⟨last, reached, max', lim'⟩ := next tick later found
  exact ⟨last, reached, max'.trans max, lim'.trans lim⟩

theorem token_insert_self (ledger : Krc20Ledger) (tick : String) (token : TokenState) :
    Krc20Ledger.token ⟨ledger.tokens.insert tick token⟩ tick = some token :=
  OrderedMap.get_insert_self ..

theorem token_insert_of_ne (ledger : Krc20Ledger) {tick other : String} (token : TokenState)
    (apart : tick ≠ other) :
    Krc20Ledger.token ⟨ledger.tokens.insert tick token⟩ other = ledger.token other :=
  OrderedMap.get_insert_of_ne _ _ apart

theorem Conserved.insert {ledger : Krc20Ledger} (conserved : ledger.Conserved) (tick : String)
    {token : TokenState} (backed : token.Backed) :
    Conserved ⟨ledger.tokens.insert tick token⟩ := by
  intro other found present
  by_cases here : tick = other
  · subst here
    rw [token_insert_self] at present
    cases present
    exact backed
  · rw [token_insert_of_ne _ _ here] at present
    exact conserved other found present

/-- Replacing the token of a tick by one that continues it fixes every cap and limit. -/
theorem fixed_insert {ledger : Krc20Ledger} {tick : String} {token later : TokenState}
    (found : ledger.token tick = some token) (continued : token.Continued later) :
    ledger.Fixed ⟨ledger.tokens.insert tick later⟩ := by
  intro other before present
  by_cases here : tick = other
  · subst here
    rw [found] at present
    cases present
    exact ⟨later, token_insert_self .., continued.max, continued.lim⟩
  · exact ⟨before, (token_insert_of_ne _ _ here).trans present, rfl, rfl⟩

theorem Conserved.rejected {ledger : Krc20Ledger} (conserved : ledger.Conserved) (reason : String) :
    ledger.Preserved (.rejected reason) ledger :=
  ⟨conserved, .refl ledger, fun _ _ => rfl⟩

/-- An action that is sound on the token of a tick preserves the ledger; where it is
accepted, the token was deployed and met what the action asks of it. -/
theorem onToken_sound {ledger : Krc20Ledger} (conserved : ledger.Conserved) (tick undeployed : String)
    {action : TokenAction} {within : TokenState → Prop}
    (sound : ∀ token, token.Backed → ∃ result, action token = .ok result ∧
      ∀ after, result = .ok after → token.Continued after ∧ within token) :
    ∃ outcome after, ledger.onToken tick undeployed action = .ok (outcome, after) ∧
      ledger.Preserved outcome after ∧
      (outcome = .accepted → ∃ token, ledger.token tick = some token ∧ within token) := by
  unfold onToken
  cases found : ledger.tokens[tick]? with
  | none => exact ⟨_, _, rfl, conserved.rejected _, nofun⟩
  | some token =>
      obtain ⟨result, acted, holds⟩ := sound token (conserved tick token found)
      simp only [acted]
      cases result with
      | error reason => exact ⟨_, _, rfl, conserved.rejected _, nofun⟩
      | ok later =>
          obtain ⟨continued, met⟩ := holds later rfl
          have preserved : ledger.Preserved .accepted ⟨ledger.tokens.insert tick later⟩ :=
            ⟨conserved.insert tick continued.backed, fixed_insert found continued, nofun⟩
          exact ⟨_, _, rfl, preserved, fun _ => ⟨token, found, met⟩⟩

/-- A deploy registers its tick unless an earlier one did. -/
theorem applyDeploy_sound {ledger : Krc20Ledger} (conserved : ledger.Conserved) (tick : String)
    (max lim : UInt64) : ∃ outcome after, ledger.applyDeploy tick max lim = (outcome, after) ∧
      ledger.Preserved outcome after ∧
      (outcome = .accepted →
        after.token tick = some { max, lim, minted := 0, balances := ∅ }) := by
  unfold applyDeploy
  cases found : ledger.tokens[tick]? with
  | some token => exact ⟨_, _, rfl, conserved.rejected _, nofun⟩
  | none =>
      have empty : TokenState.Backed { max, lim, minted := 0, balances := ∅ } :=
        ⟨OrderedMap.total_empty _, Nat.zero_le _⟩
      have fixed : ledger.Fixed
          ⟨ledger.tokens.insert tick { max, lim, minted := 0, balances := ∅ }⟩ := by
        intro other token present
        have apart : tick ≠ other := by
          rintro rfl
          exact nomatch found.symm.trans present
        exact ⟨token, (token_insert_of_ne _ _ apart).trans present, rfl, rfl⟩
      exact ⟨_, _, rfl, ⟨conserved.insert tick empty, fixed, nofun⟩,
        fun _ => token_insert_self ..⟩

/-- One operation. -/
theorem apply_sound {ledger : Krc20Ledger} (conserved : ledger.Conserved)
    (inscription : Krc20Inscription) (sender : String) :
    ∃ outcome after, ledger.apply inscription sender = .ok (outcome, after) ∧
      ledger.SoundStep inscription outcome after := by
  obtain ⟨tick, tickRaw, op⟩ := inscription
  cases op with
  | deploy max lim =>
      obtain ⟨outcome, after, ran, preserved, registered⟩ :=
        applyDeploy_sound conserved tick max lim
      refine ⟨outcome, after, congrArg Except.ok ran, preserved, ?_, nofun, nofun⟩
      intro max' lim' same taken
      cases same
      exact registered taken
  | mint amt =>
      obtain ⟨outcome, after, ran, preserved, within⟩ :=
        onToken_sound conserved tick "mint for undeployed tick" fun token backed =>
          TokenState.applyMint_sound backed sender amt
      refine ⟨outcome, after, ran, preserved, nofun, ?_, nofun⟩
      intro amt' same taken
      cases same
      exact within taken
  | transfer amt recipient =>
      obtain ⟨outcome, after, ran, preserved, -⟩ :=
        onToken_sound conserved tick "transfer for undeployed tick" fun token backed =>
          TokenState.applyTransfer_sound backed sender recipient amt
      exact ⟨outcome, after, ran, preserved, nofun, nofun, nofun⟩
  | burn amt =>
      obtain ⟨outcome, after, ran, preserved, within⟩ :=
        onToken_sound conserved tick "burn for undeployed tick" fun token backed =>
          TokenState.applyBurn_sound backed sender amt
      refine ⟨outcome, after, ran, preserved, nofun, nofun, ?_⟩
      intro amt' same taken
      cases same
      exact within taken

/-- A run of operations from a conserved ledger fits, and conserves. -/
theorem applyEach_sound {ledger : Krc20Ledger} (conserved : ledger.Conserved)
    (ops : List (Krc20Inscription × String)) :
    ∃ after, ledger.applyEach ops = .ok after ∧ after.Conserved ∧ ledger.Fixed after := by
  induction ops generalizing ledger with
  | nil => exact ⟨ledger, rfl, conserved, .refl ledger⟩
  | cons op rest ih =>
      obtain ⟨inscription, sender⟩ := op
      obtain ⟨outcome, next, stepped, step⟩ := apply_sound conserved inscription sender
      obtain ⟨after, ran, conservedAfter, fixed⟩ := ih step.conserved
      refine ⟨after, ?_, conservedAfter, step.fixed.trans fixed⟩
      unfold applyEach at ran ⊢
      simp only [List.foldlM_cons, stepped]
      exact ran

theorem applyEach_append (ledger : Krc20Ledger) (first second : List (Krc20Inscription × String)) :
    ledger.applyEach (first ++ second) =
      ledger.applyEach first >>= fun after => after.applyEach second :=
  List.foldlM_append

theorem new_conserved : new.Conserved := by
  intro tick token present
  exact nomatch present.symm.trans Std.ExtTreeMap.getElem?_empty

end Krc20Ledger

/-- Through every sequence of operations no `u64` amount overflows; the holders of every
tick own exactly what was minted, under its cap; and one more operation keeps to the
deployed limits. -/
theorem krc20_conservation (ops : List (Krc20Inscription × String)) :
    ∃ ledger, Krc20Ledger.replay ops = .ok ledger ∧ ledger.Conserved ∧
      (∀ inscription sender, ∃ outcome after,
        ledger.apply inscription sender = .ok (outcome, after) ∧
          ledger.SoundStep inscription outcome after) ∧
      ∀ later, ∃ after, Krc20Ledger.replay (ops ++ later) = .ok after ∧ ledger.Fixed after := by
  obtain ⟨ledger, ran, conserved, -⟩ := Krc20Ledger.applyEach_sound Krc20Ledger.new_conserved ops
  refine ⟨ledger, ran, conserved, fun inscription sender => ?_, fun later => ?_⟩
  · exact Krc20Ledger.apply_sound conserved inscription sender
  · obtain ⟨after, further, -, fixed⟩ := Krc20Ledger.applyEach_sound conserved later
    refine ⟨after, ?_, fixed⟩
    unfold Krc20Ledger.replay
    rw [Krc20Ledger.applyEach_append, ran]
    exact further

end KasGraph
