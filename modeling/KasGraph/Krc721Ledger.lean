import KasGraph.Krc20Ledger

set_option autoImplicit false

/-! The legacy KRC-721 ledger: who owns each token of a collection. An id that was ever
minted stays consumed, also when its token is burned. -/

namespace KasGraph

/-- The state of one deployed collection. -/
structure CollectionState where
  max : UInt64
  owners : OrderedMap UInt64 String
  minted : Std.ExtTreeSet UInt64 compare

structure Krc721Ledger where
  collections : OrderedMap String CollectionState

/-- What an operation does to one collection: it is rejected for a reason, or it leaves a
state. -/
abbrev CollectionAction := CollectionState → Except String CollectionState

namespace CollectionState

def applyMint (sender : String) (id : UInt64) : CollectionAction := fun collection =>
  if id ≥ collection.max then
    .error "token id outside collection size"
  else if collection.minted.contains id then
    .error "token id already minted"
  else
    .ok { collection with
      minted := collection.minted.insert id
      owners := collection.owners.insert id sender }

def applyTransfer (sender recipient : String) (id : UInt64) : CollectionAction :=
  fun collection =>
    if collection.owners[id]? = some sender then
      .ok { collection with owners := collection.owners.insert id recipient }
    else
      .error "transfer of a token the sender does not own"

def applyBurn (sender : String) (id : UInt64) : CollectionAction := fun collection =>
  if collection.owners[id]? = some sender then
    -- The id stays in `minted`, so it can never be minted again.
    .ok { collection with owners := collection.owners.erase id }
  else
    .error "burn of a token the sender does not own"

end CollectionState

namespace Krc721Ledger

def new : Krc721Ledger := ⟨∅⟩

def collection (ledger : Krc721Ledger) (tick : String) : Option CollectionState :=
  ledger.collections[tick]?

def ownerOf (ledger : Krc721Ledger) (tick : String) (id : UInt64) : Option String :=
  (ledger.collection tick).bind fun collection => collection.owners[id]?

def applyDeploy (ledger : Krc721Ledger) (tick : String) (max : UInt64) :
    ApplyOutcome × Krc721Ledger :=
  match ledger.collections[tick]? with
  | some _ => (.rejected "collection already deployed", ledger)
  | none => (.accepted, ⟨ledger.collections.insert tick { max, owners := ∅, minted := ∅ }⟩)

/-- Act on the collection of a tick, which must be deployed. -/
def onCollection (ledger : Krc721Ledger) (tick undeployed : String) (action : CollectionAction) :
    ApplyOutcome × Krc721Ledger :=
  match ledger.collections[tick]? with
  | none => (.rejected undeployed, ledger)
  | some collection =>
      match action collection with
      | .error reason => (.rejected reason, ledger)
      | .ok after => (.accepted, ⟨ledger.collections.insert tick after⟩)

/-- Apply one inscription as its sender performed it. -/
def apply (ledger : Krc721Ledger) (inscription : Krc721Inscription) (sender : String) :
    ApplyOutcome × Krc721Ledger :=
  match inscription.op with
  | .deploy max => ledger.applyDeploy inscription.tick max
  | .mint id _ =>
      ledger.onCollection inscription.tick "mint for undeployed collection"
        (CollectionState.applyMint sender id)
  | .transfer id recipient =>
      ledger.onCollection inscription.tick "transfer for undeployed collection"
        (CollectionState.applyTransfer sender recipient id)
  | .burn id =>
      ledger.onCollection inscription.tick "burn for undeployed collection"
        (CollectionState.applyBurn sender id)

/-- Apply operations in order, whatever their outcomes. -/
def applyEach (ledger : Krc721Ledger) (ops : List (Krc721Inscription × String)) : Krc721Ledger :=
  ops.foldl (fun ledger (inscription, sender) => (ledger.apply inscription sender).2) ledger

/-- Rebuild a ledger from a stream of operations. -/
def replay (ops : List (Krc721Inscription × String)) : Krc721Ledger := new.applyEach ops

end Krc721Ledger

end KasGraph
