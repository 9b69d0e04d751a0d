import KasGraph.CellLedger
import KasGraph.LegacyInscription
import KasGraph.MachineInt

set_option autoImplicit false

/-! The legacy KRC-20 ledger. Accepted operations move amounts between the holders of
a tick; a rejected one leaves the ledger alone. Amounts are `u64`, and an addition or a
subtraction that does not fit is an error of its own. -/

namespace KasGraph

open MachineInt

/-- An arithmetic operation that does not fit in 64 bits. -/
inductive Overflow where
  | attemptToAdd
  | attemptToSubtract
  deriving DecidableEq, Repr

/-- `a + b` on `u64`. -/
def addU64 (a b : UInt64) : Except Overflow UInt64 :=
  match checkedAdd a b with
  | some sum => .ok sum
  | none => .error .attemptToAdd

/-- `a - b` on `u64`. -/
def subU64 (a b : UInt64) : Except Overflow UInt64 :=
  match checkedSub a b with
  | some difference => .ok difference
  | none => .error .attemptToSubtract

/-- Whether an operation was accepted, or why it was rejected. -/
inductive ApplyOutcome where
  | accepted
  | rejected (reason : String)
  deriving DecidableEq, Repr

abbrev Balances := OrderedMap String UInt64

/-- The state of one deployed tick. -/
structure TokenState where
  max : UInt64
  lim : UInt64
  minted : UInt64
  balances : Balances

structure Krc20Ledger where
  tokens : OrderedMap String TokenState

/-- Subtract from a balance and drop the entry when it reaches zero. -/
def debit (balances : Balances) (address : String) (amt : UInt64) : Except Overflow Balances :=
  match balances[address]? with
  | none => .ok balances
  | some balance => do
      let left ← subU64 balance amt
      return if left = 0 then balances.erase address else balances.insert address left

/-- `*balances.entry(address).or_insert(0) += amt`. -/
def credit (balances : Balances) (address : String) (amt : UInt64) : Except Overflow Balances := do
  let sum ← addU64 (balances[address]?.getD 0) amt
  return balances.insert address sum

/-- What an operation does to one token: it is rejected for a reason, or it leaves a state. -/
abbrev TokenAction := TokenState → Except Overflow (Except String TokenState)

namespace TokenState

def applyMint (sender : String) (amt : UInt64) : TokenAction := fun token =>
  if amt > token.lim then
    return .error "mint exceeds per-mint limit"
  else
    match checkedAdd token.minted amt with
    | some total =>
        if total ≤ token.max then do
          let balances ← credit token.balances sender amt
          return .ok { token with minted := total, balances }
        else
          return .error "mint exceeds total supply cap"
    | none => return .error "mint exceeds total supply cap"

def applyTransfer (sender recipient : String) (amt : UInt64) : TokenAction := fun token =>
  let senderBalance := token.balances[sender]?.getD 0
  if senderBalance < amt then
    return .error "transfer exceeds sender balance"
  else do
    let debited ← debit token.balances sender amt
    let balances ← credit debited recipient amt
    return .ok { token with balances }

def applyBurn (sender : String) (amt : UInt64) : TokenAction := fun token =>
  let senderBalance := token.balances[sender]?.getD 0
  if senderBalance < amt then
    return .error "burn exceeds sender balance"
  else do
    let balances ← debit token.balances sender amt
    return .ok { token with balances, minted := saturatingSubU64 token.minted amt }

end TokenState

namespace Krc20Ledger

def new : Krc20Ledger := ⟨∅⟩

def token (ledger : Krc20Ledger) (tick : String) : Option TokenState := ledger.tokens[tick]?

def balanceOf (ledger : Krc20Ledger) (tick address : String) : UInt64 :=
  ((ledger.token tick).bind fun token => token.balances[address]?).getD 0

def applyDeploy (ledger : Krc20Ledger) (tick : String) (max lim : UInt64) :
    ApplyOutcome × Krc20Ledger :=
  match ledger.tokens[tick]? with
  | some _ => (.rejected "tick already deployed", ledger)
  | none =>
      (.accepted, ⟨ledger.tokens.insert tick { max, lim, minted := 0, balances := ∅ }⟩)

/-- Act on the token of a tick, which must be deployed. -/
def onToken (ledger : Krc20Ledger) (tick undeployed : String) (action : TokenAction) :
    Except Overflow (ApplyOutcome × Krc20Ledger) :=
  match ledger.tokens[tick]? with
  | none => return (.rejected undeployed, ledger)
  | some token => do
      match ← action token with
      | .error reason => return (.rejected reason, ledger)
      | .ok after => return (.accepted, ⟨ledger.tokens.insert tick after⟩)

/-- Apply one inscription as its sender performed it. -/
def apply (ledger : Krc20Ledger) (inscription : Krc20Inscription) (sender : String) :
    Except Overflow (ApplyOutcome × Krc20Ledger) :=
  match inscription.op with
  | .deploy max lim => return ledger.applyDeploy inscription.tick max lim
  | .mint amt =>
      ledger.onToken inscription.tick "mint for undeployed tick" (TokenState.applyMint sender amt)
  | .transfer amt recipient =>
      ledger.onToken inscription.tick "transfer for undeployed tick"
        (TokenState.applyTransfer sender recipient amt)
  | .burn amt =>
      ledger.onToken inscription.tick "burn for undeployed tick" (TokenState.applyBurn sender amt)

/-- Apply operations in order, whatever their outcomes. -/
def applyEach (ledger : Krc20Ledger) (ops : List (Krc20Inscription × String)) :
    Except Overflow Krc20Ledger :=
  ops.foldlM (fun ledger (inscription, sender) => do
    let (_, after) ← ledger.apply inscription sender
    return after) ledger

/-- Rebuild a ledger from a stream of operations. -/
def replay (ops : List (Krc20Inscription × String)) : Except Overflow Krc20Ledger :=
  new.applyEach ops

end Krc20Ledger

end KasGraph
