import KasGraph.ArrivalOrder
import KasGraph.IngestionFinality
import KasGraph.WireNotifications

set_option autoImplicit false

/-! Runs of notifications from the wire: when one aborts the indexer, and when the scores it
stores by keep the order they had as unsigned numbers. -/

namespace KasGraph

open Json (FloatText Value)

variable {δ : Type}

/-- The bounds of a recovery, if it is one, are in order as signed numbers. -/
def ChainNotification.BoundsOrdered : ChainNotification → Prop
  | .recoveryRequired fromDaaScore toDaaScore _ => fromDaaScore.toInt64 ≤ toDaaScore.toInt64
  | _ => True

/-- A notification that the reader of the wire accepts. -/
def ChainNotification.Accepted (notification : ChainNotification) : Prop :=
  ∃ (floats : FloatText) (value : Value) (servedBy : String),
    parseChainNotification floats value servedBy = .ok notification

namespace IngestionState

/-- Apply notifications in order, up to the first that aborts. -/
def applyNotifications (toolkit : Toolkit) (state : IngestionState δ)
    (notifications : List ChainNotification) : Except Panic (IngestionState δ) :=
  notifications.foldlM (fun state notification => do
    let (_, after) ← state.applyNotification toolkit notification
    return after) state

/-- The states of an indexer, with the notifications it has applied. -/
inductive Run (toolkit : Toolkit) : List ChainNotification → IngestionState δ → Prop where
  | start (prior : δ) (finalityDepth : Option UInt64) :
      Run toolkit [] (withFinalityDepth prior finalityDepth)
  | notify {seen : List ChainNotification} {state after : IngestionState δ}
      {transition : IngestionTransition} (notification : ChainNotification)
      (earlier : Run toolkit seen state)
      (returned : state.applyNotification toolkit notification = .ok (transition, after)) :
      Run toolkit (notification :: seen) after
  | reseed {seen : List ChainNotification} {state : IngestionState δ} (prior : δ)
      (earlier : Run toolkit seen state) : Run toolkit seen (state.reseedPriorPoi prior)

/-- The keys of the two maps compare as the scores they were made from. -/
def KeepsOrder (state : IngestionState δ) : Prop :=
  ∀ first second : Int64, (state.holding first).isSome = true →
    (state.holding second).isSome = true → (first < second ↔ first.toUInt64 < second.toUInt64)

/-- All keys are negative, or none is. -/
def OneSided (state : IngestionState δ) : Prop :=
  (∀ key : Int64, (state.holding key).isSome = true → key < 0) ∨
    ∀ key : Int64, (state.holding key).isSome = true → 0 ≤ key

variable {toolkit : Toolkit}

theorem reachable_iff_run {state : IngestionState δ} :
    Reachable toolkit state ↔ ∃ seen, Run toolkit seen state := by
  constructor
  · intro reachable
    induction reachable with
    | start prior finalityDepth => exact ⟨[], .start prior finalityDepth⟩
    | notify notification earlier returned ih =>
        obtain ⟨seen, run⟩ := ih
        exact ⟨notification :: seen, .notify notification run returned⟩
    | reseed prior earlier ih =>
        obtain ⟨seen, run⟩ := ih
        exact ⟨seen, .reseed prior run⟩
  · rintro ⟨seen, run⟩
    induction run with
    | start prior finalityDepth => exact .start prior finalityDepth
    | notify notification earlier returned ih => exact .notify notification ih returned
    | reseed prior earlier ih => exact .reseed prior ih

/-! ## Aborts -/

theorem removeProbabilisticInRange_isOk (state : IngestionState δ) (fromDaa toDaa : Int64) :
    (state.removeProbabilisticInRange fromDaa toDaa).isOk = true ↔ fromDaa ≤ toDaa := by
  unfold removeProbabilisticInRange
  split
  · rename_i reversed
    exact iff_of_false Bool.false_ne_true (Int64.not_le.mpr reversed)
  · rename_i ordered
    exact iff_of_true rfl (Int64.not_lt.mp ordered)

/-- A notification aborts when it asks for a range that ends before it starts. -/
theorem applyNotification_isOk (state : IngestionState δ) (notification : ChainNotification) :
    (state.applyNotification toolkit notification).isOk = true ↔ notification.BoundsOrdered := by
  cases notification with
  | blockAdded block => exact iff_of_true rfl trivial
  | virtualChainChanged removed added => exact iff_of_true rfl trivial
  | recoveryRequired fromDaaScore toDaaScore reason =>
      rw [ChainNotification.BoundsOrdered, ← removeProbabilisticInRange_isOk state,
        applyNotification]
      cases state.removeProbabilisticInRange fromDaaScore.toInt64 toDaaScore.toInt64 <;> rfl

theorem applyNotifications_cons (state : IngestionState δ) (notification : ChainNotification)
    (rest : List ChainNotification) :
    state.applyNotifications toolkit (notification :: rest) =
      state.applyNotification toolkit notification >>= fun returned =>
        returned.2.applyNotifications toolkit rest := by
  rw [applyNotifications, List.foldlM_cons]
  cases state.applyNotification toolkit notification <;> rfl

/-- A run returns when each of its notifications does. -/
theorem applyNotifications_isOk (state : IngestionState δ)
    (notifications : List ChainNotification) :
    (state.applyNotifications toolkit notifications).isOk = true ↔
      ∀ notification ∈ notifications, notification.BoundsOrdered := by
  induction notifications generalizing state with
  | nil => exact iff_of_true rfl fun _ none => absurd none List.not_mem_nil
  | cons notification rest ih =>
      rw [List.forall_mem_cons, ← applyNotification_isOk state, applyNotifications_cons]
      cases state.applyNotification toolkit notification with
      | error panic => exact iff_of_false Bool.false_ne_true fun both => Bool.false_ne_true both.1
      | ok returned => exact (ih returned.2).trans (and_iff_right rfl).symm

/-! ## The order of the keys -/

/-- Two numbers compare alike, signed and unsigned, when their signs agree. -/
theorem lt_iff_toUInt64_lt {first second : Int64} (sameSign : first < 0 ↔ second < 0) :
    first < second ↔ first.toUInt64 < second.toUInt64 := by
  rw [Int64.lt_iff_toInt_lt, Int64.lt_iff_toInt_lt, Int64.toInt_zero] at sameSign
  rw [Int64.lt_iff_toInt_lt, UInt64.lt_iff_toNat_lt]
  by_cases negative : first.toInt < 0
  · have firstCast := MachineInt.toNat_toUInt64_of_neg first negative
    have secondCast := MachineInt.toNat_toUInt64_of_neg second (sameSign.mp negative)
    omega
  · have firstCast := MachineInt.toNat_toUInt64_of_nonneg first (Int.not_lt.mp negative)
    have secondCast := MachineInt.toNat_toUInt64_of_nonneg second
      (Int.not_lt.mp (mt sameSign.mpr negative))
    omega

theorem toUInt64_lt_of_signs {first second : Int64} (nonneg : 0 ≤ first) (neg : second < 0) :
    first.toUInt64 < second.toUInt64 := by
  rw [Int64.le_iff_toInt_le, Int64.toInt_zero] at nonneg
  rw [Int64.lt_iff_toInt_lt, Int64.toInt_zero] at neg
  have firstCast := MachineInt.toNat_toUInt64_of_nonneg first nonneg
  have secondCast := MachineInt.toNat_toUInt64_of_neg second neg
  have firstBound := first.toInt_lt
  have secondBound := second.le_toInt
  rw [UInt64.lt_iff_toNat_lt]
  omega

theorem keepsOrder_iff (state : IngestionState δ) : state.KeepsOrder ↔ state.OneSided := by
  constructor
  · intro keeps
    by_contra mixed
    simp only [OneSided, not_or, not_forall, exists_prop, Int64.not_lt, Int64.not_le] at mixed
    obtain ⟨⟨high, highHeld, nonneg⟩, low, lowHeld, neg⟩ := mixed
    have less : low < high := Int64.lt_of_lt_of_le neg nonneg
    exact absurd ((keeps low high lowHeld highHeld).mp less)
      (UInt64.not_lt.mpr (UInt64.le_of_lt (toUInt64_lt_of_signs nonneg neg)))
  · rintro (negative | nonnegative) first second firstHeld secondHeld
    · exact lt_iff_toUInt64_lt (iff_of_true (negative _ firstHeld) (negative _ secondHeld))
    · exact lt_iff_toUInt64_lt (iff_of_false (Int64.not_lt.mpr (nonnegative _ firstHeld))
        (Int64.not_lt.mpr (nonnegative _ secondHeld)))

/-- What is held after a block was held before, unless it is the block's score. -/
theorem applyBlock_held {state : IngestionState δ} (consistent : state.Consistent)
    {block : BootstrapBlock} {score : Int64}
    (held : ((state.applyBlock block).2.holding score).isSome = true) :
    block.daaScore = score ∨ (state.holding score).isSome = true := by
  by_contra neither
  obtain ⟨other, absent⟩ := not_or.mp neither
  cases free : state.committed[block.daaScore]? with
  | some kept =>
      rw [applyBlock_of_committed free] at held
      exact absent held
  | none =>
      rw [Option.not_isSome_iff_eq_none] at absent
      rw [applyBlock_holding_none consistent free absent other] at held
      exact Bool.false_ne_true held

theorem applyBlocks_held {state : IngestionState δ} (consistent : state.Consistent)
    {blocks : List BootstrapBlock} {score : Int64}
    (held : ((state.applyBlocks blocks).2.holding score).isSome = true) :
    (∃ block ∈ blocks, block.daaScore = score) ∨ (state.holding score).isSome = true := by
  induction blocks generalizing state with
  | nil => exact .inr held
  | cons block rest ih =>
      rw [applyBlocks_cons] at held
      cases ih (applyBlock_consistent consistent block) held with
      | inl later =>
          obtain ⟨other, member, same⟩ := later
          exact .inl ⟨other, List.mem_cons_of_mem _ member, same⟩
      | inr middle =>
          exact (applyBlock_held consistent middle).imp_left
            fun same => ⟨block, List.mem_cons_self, same⟩

/-- A filtered map holds nothing new. -/
theorem held_of_filter {state : IngestionState δ} {p q : Int64 → BootstrapBlock → Bool}
    {score : Int64}
    (held : ((holding { state with
      committed := state.committed.filter p
      probabilistic := state.probabilistic.filter q }) score).isSome = true) :
    (state.holding score).isSome = true := by
  unfold holding at held ⊢
  rw [OrderedMap.get_filter, OrderedMap.get_filter, Option.isSome_or, Bool.or_eq_true] at held
  rw [Option.isSome_or, Bool.or_eq_true]
  exact held.imp (Option.isSome_of_isSome_filter _ _) (Option.isSome_of_isSome_filter _ _)

/-- Every key held after a notification was held before or is the score of a block it brings. -/
theorem applyNotification_held {state after : IngestionState δ}
    {transition : IngestionTransition} {notification : ChainNotification}
    (consistent : state.Consistent)
    (returned : state.applyNotification toolkit notification = .ok (transition, after))
    {score : Int64} (held : (after.holding score).isSome = true) :
    (∃ block ∈ notification.blocks, block.daaScore.toInt64 = score) ∨
      (state.holding score).isSome = true := by
  cases notification with
  | blockAdded block =>
      obtain ⟨-, rfl⟩ := Prod.mk.inj (Except.ok.inj returned)
      exact (applyBlock_held consistent held).imp_left
        fun same => ⟨block, List.mem_singleton_self block, same⟩
  | virtualChainChanged removed added =>
      rw [applyNotification_virtualChainChanged] at returned
      obtain ⟨-, rfl⟩ := Prod.mk.inj (Except.ok.inj returned)
      refine (applyBlocks_held (drained_consistent consistent _ _) held).imp ?_ held_of_filter
      rintro ⟨block, member, same⟩
      obtain ⟨source, listed, rfl⟩ := List.mem_map.mp member
      exact ⟨source, listed, same⟩
  | recoveryRequired fromDaa toDaa reason =>
      obtain ⟨-, rfl⟩ := applyNotification_recoveryRequired returned
      have kept := OrderedMap.filter_of_all state.committed (fun _ _ => true) fun _ _ _ => rfl
      rw [← kept] at held
      exact .inr (held_of_filter held)

/-- Every key of a run is the score of a block that one of its notifications brought. -/
theorem run_held {seen : List ChainNotification} {state : IngestionState δ}
    (run : Run toolkit seen state) {score : Int64}
    (held : (state.holding score).isSome = true) :
    ∃ notification ∈ seen, ∃ block ∈ notification.blocks, block.daaScore.toInt64 = score := by
  induction run with
  | start prior finalityDepth =>
      rw [start_holding] at held
      exact absurd held Bool.false_ne_true
  | notify notification earlier returned ih =>
      have consistent := reachable_consistent (reachable_iff_run.mpr ⟨_, earlier⟩)
      cases applyNotification_held consistent returned held with
      | inl brought => exact ⟨notification, List.mem_cons_self, brought⟩
      | inr before =>
          obtain ⟨other, member, brought⟩ := ih before
          exact ⟨other, List.mem_cons_of_mem _ member, brought⟩
  | reseed prior earlier ih => exact ih held

/-- All blocks of the notifications have scores below `2 ^ 63`, or none has. -/
def OneSidedScores (notifications : List ChainNotification) : Prop :=
  ∃ high : Bool, ∀ notification ∈ notifications, ∀ block ∈ notification.blocks,
    decide (2 ^ 63 ≤ block.daaScore.toNat) = high

theorem toInt64_neg_iff (score : UInt64) : score.toInt64 < 0 ↔ 2 ^ 63 ≤ score.toNat := by
  have bound := score.toInt64.le_toInt
  have limit := score.toInt64.toInt_lt
  rw [Int64.lt_iff_toInt_lt, Int64.toInt_zero]
  by_cases negative : score.toInt64.toInt < 0
  · have cast := MachineInt.toNat_toUInt64_of_neg _ negative
    rw [UInt64.toUInt64_toInt64] at cast
    omega
  · have cast := MachineInt.toNat_toUInt64_of_nonneg _ (Int.not_lt.mp negative)
    rw [UInt64.toUInt64_toInt64] at cast
    omega

theorem run_oneSided {seen : List ChainNotification} {state : IngestionState δ}
    (run : Run toolkit seen state) (scores : OneSidedScores seen) : state.OneSided := by
  obtain ⟨high, side⟩ := scores
  have signs : ∀ key : Int64, (state.holding key).isSome = true → (key < 0 ↔ high = true) := by
    intro key held
    obtain ⟨notification, member, block, brought, rfl⟩ := run_held run held
    rw [toInt64_neg_iff, ← side notification member block brought, decide_eq_true_iff]
  cases high with
  | true => exact .inl fun key held => (signs key held).mpr rfl
  | false =>
      exact .inr fun key held => Int64.not_lt.mp fun negative =>
        Bool.false_ne_true ((signs key held).mp negative)

/-- The message of a recovery. -/
def recoveryValue (fromDaaScore toDaaScore : UInt64) (reason : String) : Value :=
  .object [("fromDaaScore", .number (.posInt fromDaaScore)), ("kind", .string "RecoveryRequired"),
    ("reason", .string reason), ("toDaaScore", .number (.posInt toDaaScore))]

/-- The reader of the wire takes the bounds of a recovery as they are. -/
theorem recovery_accepted (fromDaaScore toDaaScore : UInt64) (reason : String) :
    (ChainNotification.recoveryRequired fromDaaScore toDaaScore reason).Accepted :=
  ⟨fun _ => "0", recoveryValue fromDaaScore toDaaScore reason, "node", rfl⟩

end IngestionState

end KasGraph
