import KasGraph.Krc721Ledger

set_option autoImplicit false

/-! Uniqueness of legacy KRC-721 tokens. What is owned was minted below the cap of its
collection; what was minted stays minted; and a minted token without an owner, which is one
that was burned, has none ever after. -/

namespace KasGraph

namespace CollectionState

/-- The owned tokens were minted, below the cap. -/
structure Registered (collection : CollectionState) : Prop where
  minted : ∀ id, (collection.owners[id]?).isSome → id ∈ collection.minted
  bounded : ∀ id ∈ collection.minted, id < collection.max

/-- What operations keep of a collection: its cap, what was minted, and that a minted token
without an owner has none. -/
structure Continues (collection later : CollectionState) : Prop where
  max : later.max = collection.max
  minted : ∀ id ∈ collection.minted, id ∈ later.minted
  unowned : ∀ id ∈ collection.minted, collection.owners[id]? = none → later.owners[id]? = none

theorem Continues.refl (collection : CollectionState) : collection.Continues collection :=
  ⟨rfl, fun _ member => member, fun _ _ none => none⟩

theorem Continues.trans {first second third : CollectionState} (before : first.Continues second)
    (next : second.Continues third) : first.Continues third where
  max := next.max.trans before.max
  minted id member := next.minted id (before.minted id member)
  unowned id member none :=
    next.unowned id (before.minted id member) (before.unowned id member none)

/-! ## One operation -/

section Actions

variable {collection after : CollectionState} {sender recipient : String} {id : UInt64}

theorem applyMint_ok (taken : applyMint sender id collection = .ok after) :
    id < collection.max ∧ id ∉ collection.minted ∧
      after = { collection with
        minted := collection.minted.insert id
        owners := collection.owners.insert id sender } := by
  unfold applyMint at taken
  by_cases outside : id ≥ collection.max
  · simp [outside] at taken
  · by_cases minted : id ∈ collection.minted
    · simp [outside, minted] at taken
    · simp only [outside, minted, Std.ExtTreeSet.contains_iff_mem, if_false, Except.ok.injEq]
        at taken
      exact ⟨UInt64.not_le.mp outside, minted, taken.symm⟩

theorem applyTransfer_ok (taken : applyTransfer sender recipient id collection = .ok after) :
    collection.owners[id]? = some sender ∧
      after = { collection with owners := collection.owners.insert id recipient } := by
  unfold applyTransfer at taken
  by_cases owned : collection.owners[id]? = some sender
  · simp only [owned, if_true, Except.ok.injEq] at taken
    exact ⟨owned, taken.symm⟩
  · simp [owned] at taken

theorem applyBurn_ok (taken : applyBurn sender id collection = .ok after) :
    collection.owners[id]? = some sender ∧
      after = { collection with owners := collection.owners.erase id } := by
  unfold applyBurn at taken
  by_cases owned : collection.owners[id]? = some sender
  · simp only [owned, if_true, Except.ok.injEq] at taken
    exact ⟨owned, taken.symm⟩
  · simp [owned] at taken

/-- An action that keeps collections registered and continues them. -/
def Orderly (action : CollectionAction) : Prop :=
  ∀ collection after, action collection = .ok after → collection.Registered →
    after.Registered ∧ collection.Continues after

theorem applyMint_orderly (sender : String) (id : UInt64) : Orderly (applyMint sender id) := by
  intro collection after taken registered
  obtain ⟨inside, fresh, rfl⟩ := applyMint_ok taken
  refine ⟨⟨fun other owned => ?_, fun other member => ?_⟩, rfl, fun other member => ?_,
    fun other member none => ?_⟩
  · rw [Std.ExtTreeSet.mem_insert, Std.compare_eq_iff_eq]
    by_cases here : id = other
    · exact Or.inl here
    · rw [OrderedMap.get_insert_of_ne _ _ here] at owned
      exact Or.inr (registered.minted other owned)
  · rw [Std.ExtTreeSet.mem_insert, Std.compare_eq_iff_eq] at member
    rcases member with rfl | earlier
    · exact inside
    · exact registered.bounded other earlier
  · rw [Std.ExtTreeSet.mem_insert]
    exact Or.inr member
  · have apart : id ≠ other := by
      rintro rfl
      exact fresh member
    rw [OrderedMap.get_insert_of_ne _ _ apart]
    exact none

theorem applyTransfer_orderly (sender recipient : String) (id : UInt64) :
    Orderly (applyTransfer sender recipient id) := by
  intro collection after taken registered
  obtain ⟨owned, rfl⟩ := applyTransfer_ok taken
  refine ⟨⟨fun other stands => ?_, registered.bounded⟩, rfl, fun _ member => member,
    fun other _ none => ?_⟩
  · by_cases here : id = other
    · subst here
      exact registered.minted id (by simp [owned])
    · rw [OrderedMap.get_insert_of_ne _ _ here] at stands
      exact registered.minted other stands
  · have apart : id ≠ other := by
      rintro rfl
      simp [owned] at none
    rw [OrderedMap.get_insert_of_ne _ _ apart]
    exact none

theorem applyBurn_orderly (sender : String) (id : UInt64) : Orderly (applyBurn sender id) := by
  intro collection after taken registered
  obtain ⟨-, rfl⟩ := applyBurn_ok taken
  refine ⟨⟨fun other stands => ?_, registered.bounded⟩, rfl, fun _ member => member,
    fun other _ none => ?_⟩
  · by_cases here : id = other
    · subst here
      simp at stands
    · rw [OrderedMap.get_erase_of_ne _ here] at stands
      exact registered.minted other stands
  · by_cases here : id = other
    · subst here
      exact OrderedMap.get_erase_self ..
    · rw [OrderedMap.get_erase_of_ne _ here]
      exact none

end Actions

end CollectionState

namespace Krc721Ledger

open CollectionState (Orderly)

/-- Every deployed collection is registered. -/
def Registered (ledger : Krc721Ledger) : Prop :=
  ∀ tick collection, ledger.collection tick = some collection → collection.Registered

/-- Every deployed collection is continued. -/
def Continues (ledger later : Krc721Ledger) : Prop :=
  ∀ tick collection, ledger.collection tick = some collection →
    ∃ after, later.collection tick = some after ∧ collection.Continues after

/-- A cap is the one there was, or that of a deploy among the operations. -/
def CappedBy (ledger : Krc721Ledger) (ops : List (Krc721Inscription × String))
    (later : Krc721Ledger) : Prop :=
  ∀ tick collection, later.collection tick = some collection →
    (∃ earlier, ledger.collection tick = some earlier ∧ earlier.max = collection.max) ∨
      ∃ op ∈ ops, op.1.tick = tick ∧ op.1.op = .deploy collection.max

theorem Continues.refl (ledger : Krc721Ledger) : ledger.Continues ledger :=
  fun _ collection present => ⟨collection, present, .refl collection⟩

theorem Continues.trans {first second third : Krc721Ledger} (before : first.Continues second)
    (next : second.Continues third) : first.Continues third := by
  intro tick collection present
  obtain ⟨middle, between, earlier⟩ := before tick collection present
  obtain ⟨after, found, later⟩ := next tick middle between
  exact ⟨after, found, earlier.trans later⟩

/-- What one operation does to the collections. -/
structure OrderlyStep (ledger : Krc721Ledger) (op : Krc721Inscription × String)
    (after : Krc721Ledger) : Prop where
  registered : after.Registered
  continues : ledger.Continues after
  capped : ledger.CappedBy [op] after

section Step

variable {ledger : Krc721Ledger} (registered : ledger.Registered)
include registered

theorem orderly_self (op : Krc721Inscription × String) : ledger.OrderlyStep op ledger where
  registered := registered
  continues := .refl ledger
  capped := fun _ collection present => Or.inl ⟨collection, present, rfl⟩

theorem onCollection_orderly (op : Krc721Inscription × String) (tick undeployed : String)
    {action : CollectionAction} (orderly : Orderly action) :
    ledger.OrderlyStep op (ledger.onCollection tick undeployed action).2 := by
  unfold onCollection
  cases found : ledger.collections[tick]? with
  | none => exact orderly_self registered op
  | some collection =>
      cases acted : action collection with
      | error reason =>
          simp only [acted]
          exact orderly_self registered op
      | ok after =>
          simp only [acted]
          obtain ⟨still, continues⟩ := orderly collection after acted (registered tick _ found)
          refine ⟨fun other state present => ?_, fun other state present => ?_,
            fun other state present => Or.inl ?_⟩
          · by_cases here : tick = other
            · subst here
              cases (OrderedMap.get_insert_self ..).symm.trans present
              exact still
            · exact registered other state ((OrderedMap.get_insert_of_ne _ _ here).symm.trans present)
          · by_cases here : tick = other
            · subst here
              cases found.symm.trans present
              exact ⟨after, OrderedMap.get_insert_self .., continues⟩
            · exact ⟨state, (OrderedMap.get_insert_of_ne _ _ here).trans present, .refl state⟩
          · by_cases here : tick = other
            · subst here
              cases (OrderedMap.get_insert_self ..).symm.trans present
              exact ⟨collection, found, continues.max.symm⟩
            · exact ⟨state, (OrderedMap.get_insert_of_ne _ _ here).symm.trans present, rfl⟩

theorem applyDeploy_orderly (inscription : Krc721Inscription) (sender : String) (max : UInt64)
    (deploys : inscription.op = .deploy max) :
    ledger.OrderlyStep (inscription, sender) (ledger.applyDeploy inscription.tick max).2 := by
  unfold applyDeploy
  cases found : ledger.collections[inscription.tick]? with
  | some collection => exact orderly_self registered _
  | none =>
      refine ⟨fun other state present => ?_, fun other state present => ?_,
        fun other state present => ?_⟩
      · by_cases here : inscription.tick = other
        · subst here
          cases (OrderedMap.get_insert_self ..).symm.trans present
          constructor
          · simp
          · simp
        · exact registered other state ((OrderedMap.get_insert_of_ne _ _ here).symm.trans present)
      · by_cases here : inscription.tick = other
        · subst here
          cases found.symm.trans present
        · exact ⟨state, (OrderedMap.get_insert_of_ne _ _ here).trans present, .refl state⟩
      · by_cases here : inscription.tick = other
        · subst here
          cases (OrderedMap.get_insert_self ..).symm.trans present
          exact Or.inr ⟨_, List.mem_singleton_self _, rfl, deploys⟩
        · exact Or.inl ⟨state, (OrderedMap.get_insert_of_ne _ _ here).symm.trans present, rfl⟩

theorem apply_orderly (inscription : Krc721Inscription) (sender : String) :
    ledger.OrderlyStep (inscription, sender) (ledger.apply inscription sender).2 := by
  unfold apply
  cases performed : inscription.op with
  | deploy max => exact applyDeploy_orderly registered inscription sender max performed
  | mint id uri =>
      exact onCollection_orderly registered _ _ _ (CollectionState.applyMint_orderly sender id)
  | transfer id recipient =>
      exact onCollection_orderly registered _ _ _
        (CollectionState.applyTransfer_orderly sender recipient id)
  | burn id =>
      exact onCollection_orderly registered _ _ _ (CollectionState.applyBurn_orderly sender id)

/-! ## Runs -/

theorem applyEach_orderly (ops : List (Krc721Inscription × String)) :
    (ledger.applyEach ops).Registered ∧ ledger.Continues (ledger.applyEach ops) ∧
      ledger.CappedBy ops (ledger.applyEach ops) := by
  induction ops generalizing ledger with
  | nil => exact ⟨registered, .refl ledger, fun _ state present => Or.inl ⟨state, present, rfl⟩⟩
  | cons op rest ih =>
      obtain ⟨inscription, sender⟩ := op
      have step := apply_orderly registered inscription sender
      obtain ⟨still, continues, capped⟩ := ih step.registered
      refine ⟨still, step.continues.trans continues, fun tick collection present => ?_⟩
      rcases capped tick collection present with ⟨middle, between, same⟩ | ⟨op, member, deployed⟩
      · rcases step.capped tick middle between with ⟨earlier, stood, alike⟩ | ⟨op, member, here, max⟩
        · exact Or.inl ⟨earlier, stood, alike.trans same⟩
        · rw [List.mem_singleton] at member
          subst member
          rw [same] at max
          exact Or.inr ⟨_, List.mem_cons_self .., here, max⟩
      · exact Or.inr ⟨op, List.mem_cons_of_mem _ member, deployed⟩

end Step

theorem replay_append (first second : List (Krc721Inscription × String)) :
    replay (first ++ second) = (replay first).applyEach second :=
  List.foldl_append

theorem new_registered : new.Registered := by
  intro tick collection present
  exact nomatch present.symm.trans Std.ExtTreeMap.getElem?_empty

/-- A burned token was minted and has no owner. -/
theorem apply_burn {ledger : Krc721Ledger} (registered : ledger.Registered)
    {inscription : Krc721Inscription} {sender : String} {id : UInt64}
    (burns : inscription.op = .burn id)
    (accepted : (ledger.apply inscription sender).1 = .accepted) :
    ∃ collection, (ledger.apply inscription sender).2.collection inscription.tick =
        some collection ∧ id ∈ collection.minted ∧ collection.owners[id]? = none := by
  unfold apply at accepted ⊢
  simp only [burns] at accepted ⊢
  unfold onCollection at accepted ⊢
  cases found : ledger.collections[inscription.tick]? with
  | none => simp [found] at accepted
  | some collection =>
      cases acted : CollectionState.applyBurn sender id collection with
      | error reason => simp [found, acted] at accepted
      | ok after =>
          obtain ⟨owned, left⟩ := CollectionState.applyBurn_ok acted
          simp only [acted]
          refine ⟨after, OrderedMap.get_insert_self .., ?_, ?_⟩
          · rw [left]
            exact (registered inscription.tick collection found).minted id (by simp [owned])
          · rw [left]
            exact OrderedMap.get_erase_self ..

end Krc721Ledger

/-- What holds of a collection that a stream of operations reached, at that point and at
every later one. -/
structure UniqueTokens (ops : List (Krc721Inscription × String)) (tick : String)
    (collection : CollectionState) : Prop where
  minted : ∀ id, (collection.owners[id]?).isSome → id ∈ collection.minted
  bounded : ∀ id ∈ collection.minted, id < collection.max
  deployed : ∃ op ∈ ops, op.1.tick = tick ∧ op.1.op = .deploy collection.max
  owner : ∀ id, (collection.owners[id]?).isSome →
    ∃! owner, (Krc721Ledger.replay ops).ownerOf tick id = some owner
  grows : ∀ more, ∃ later, (Krc721Ledger.replay (ops ++ more)).collection tick = some later ∧
    later.max = collection.max ∧ ∀ id ∈ collection.minted, id ∈ later.minted

/-- Through every stream of operations owned tokens are minted ones, below the deployed cap,
with one owner each; what was minted stays minted; and a token whose burn was accepted is
owned at no later point. -/
theorem krc721_uniqueness (ops : List (Krc721Inscription × String)) :
    (∀ tick collection, (Krc721Ledger.replay ops).collection tick = some collection →
      UniqueTokens ops tick collection) ∧
    ∀ (inscription : Krc721Inscription) (sender : String) (id : UInt64),
      inscription.op = .burn id →
      ((Krc721Ledger.replay ops).apply inscription sender).1 = .accepted →
      ∀ more, (Krc721Ledger.replay (ops ++ (inscription, sender) :: more)).ownerOf
        inscription.tick id = none := by
  obtain ⟨registered, -, capped⟩ : (Krc721Ledger.replay ops).Registered ∧
      Krc721Ledger.new.Continues (Krc721Ledger.replay ops) ∧
      Krc721Ledger.new.CappedBy ops (Krc721Ledger.replay ops) :=
    Krc721Ledger.applyEach_orderly Krc721Ledger.new_registered ops
  constructor
  · intro tick collection present
    obtain ⟨minted, bounded⟩ := registered tick collection present
    refine ⟨minted, bounded, ?_, fun id owned => ?_, fun more => ?_⟩
    · rcases capped tick collection present with ⟨earlier, stood, -⟩ | deployed
      · exact nomatch stood.symm.trans Std.ExtTreeMap.getElem?_empty
      · exact deployed
    · obtain ⟨owner, found⟩ := Option.isSome_iff_exists.mp owned
      have owns : (Krc721Ledger.replay ops).ownerOf tick id = some owner := by
        unfold Krc721Ledger.ownerOf
        rw [present, Option.bind_some, found]
      exact ⟨owner, owns, fun other also => Option.some.inj (also.symm.trans owns)⟩
    · rw [Krc721Ledger.replay_append]
      obtain ⟨-, continues, -⟩ := Krc721Ledger.applyEach_orderly registered more
      obtain ⟨later, found, kept⟩ := continues tick collection present
      exact ⟨later, found, kept.max, kept.minted⟩
  · intro inscription sender id burns accepted more
    have burned := Krc721Ledger.apply_orderly registered inscription sender
    obtain ⟨collection, present, minted, unowned⟩ :=
      Krc721Ledger.apply_burn registered burns accepted
    obtain ⟨-, continues, -⟩ := Krc721Ledger.applyEach_orderly burned.registered more
    obtain ⟨later, found, kept⟩ := continues _ collection present
    rw [Krc721Ledger.replay_append]
    show ((((Krc721Ledger.replay ops).apply inscription sender).2.applyEach more).collection
      inscription.tick).bind _ = none
    rw [found, Option.bind_some]
    exact kept.unowned id minted unowned

/-- A collection of which token 3 was minted. -/
def mintedPunk : List (Krc721Inscription × String) :=
  [(⟨"punk", "PUNK", .deploy 9⟩, "kaspa:alice"),
   (⟨"punk", "PUNK", .mint 3 "ipfs://3"⟩, "kaspa:alice")]

theorem krc721_uniqueness_burned :
    ((Krc721Ledger.replay mintedPunk).apply ⟨"punk", "PUNK", .burn 3⟩ "kaspa:alice").1 =
        .accepted ∧
      ∀ more, (Krc721Ledger.replay (mintedPunk ++
        (⟨"punk", "PUNK", .burn 3⟩, "kaspa:alice") :: more)).ownerOf "punk" 3 = none := by
  have accepted : ((Krc721Ledger.replay mintedPunk).apply ⟨"punk", "PUNK", .burn 3⟩
      "kaspa:alice").1 = .accepted := by decide +kernel
  exact ⟨accepted, (krc721_uniqueness mintedPunk).2 ⟨"punk", "PUNK", .burn 3⟩ "kaspa:alice" 3 rfl
    accepted⟩

end KasGraph
