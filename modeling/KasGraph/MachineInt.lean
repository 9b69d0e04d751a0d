import Mathlib

set_option autoImplicit false

/-! Fixed-width integers: the order of `Int64` as a linear order, the checked and
saturating operations, and the reinterpreting casts. -/

namespace MachineInt

instance lawfulOrderMaxUInt64 : Std.LawfulOrderMax UInt64 where
  max_eq_or a b := by
    change (if a ≤ b then b else a) = a ∨ (if a ≤ b then b else a) = b
    split <;> simp
  max_le_iff a b c := by
    change (if a ≤ b then b else a) ≤ c ↔ _
    simp only [UInt64.le_iff_toNat_le]
    split <;> omega

instance linearOrderInt64 : LinearOrder Int64 where
  le_refl := Int64.le_refl
  le_trans _ _ _ := Int64.le_trans
  le_antisymm _ _ := Int64.le_antisymm
  le_total := Int64.le_total
  lt_iff_le_not_ge a b := by
    rw [Int64.lt_iff_toInt_lt, Int64.le_iff_toInt_le, Int64.le_iff_toInt_le]
    omega
  toDecidableLE := inferInstance
  toDecidableEq := inferInstance
  toDecidableLT := inferInstance
  compare := compare
  compare_eq_compareOfLessAndEq _ _ := rfl

/-- `a.saturating_sub(b)` on `i64`. -/
def saturatingSub (a b : Int64) : Int64 := Int64.ofIntClamp (a.toInt - b.toInt)

/-- `i64::try_from(x).ok()` for a `u64`. -/
def tryInt64 (x : UInt64) : Option Int64 :=
  if x.toNat < 2 ^ 63 then some x.toInt64 else none

/-- `a.checked_add(b)` on `u64`. -/
def checkedAdd (a b : UInt64) : Option UInt64 :=
  if a.toNat + b.toNat < 2 ^ 64 then some (a + b) else none

/-- `a.checked_sub(b)` on `u64`. -/
def checkedSub (a b : UInt64) : Option UInt64 :=
  if b.toNat ≤ a.toNat then some (a - b) else none

/-- `a.saturating_sub(b)` on `u64`. -/
def saturatingSubU64 (a b : UInt64) : UInt64 := (checkedSub a b).getD 0

/-- `a.saturating_add(b)` on `u64`. -/
def saturatingAddU64 (a b : UInt64) : UInt64 := (checkedAdd a b).getD (.ofNat (2 ^ 64 - 1))

/-- `x + 1` on `Int64`, where it does not leave the type. -/
def checkedSucc (x : Int64) : Option Int64 :=
  if x.toInt + 1 < 2 ^ 63 then some (x + 1) else none

theorem toInt_toInt64 (x : UInt64) : x.toInt64.toInt = (x.toNat : Int).bmod (2 ^ 64) := by
  change x.toInt64.toBitVec.toInt = _
  rw [UInt64.toBitVec_toInt64, BitVec.toInt_eq_toNat_bmod]
  rfl

/-- The cast to `i64` keeps a value that fits. -/
theorem toInt_toInt64_of_lt (x : UInt64) (small : x.toNat < 2 ^ 63) :
    x.toInt64.toInt = x.toNat := by
  rw [toInt_toInt64, Int.bmod_eq_of_le (by omega) (by omega)]

theorem toNat_toUInt64_of_nonneg (x : Int64) (nonneg : 0 ≤ x.toInt) :
    (x.toUInt64.toNat : Int) = x.toInt := by
  have back : x.toUInt64.toInt64 = x := Int64.toInt64_toUInt64 x
  have wrapped := toInt_toInt64 x.toUInt64
  have bound := x.toUInt64.toNat_lt
  rw [back] at wrapped
  rw [wrapped] at nonneg ⊢
  rcases lt_or_ge x.toUInt64.toNat (2 ^ 63) with small | large
  · rw [Int.bmod_eq_of_le (by omega) (by omega)]
  · have upper := Int.emod_eq_of_lt (a := x.toUInt64.toNat) (b := 2 ^ 64) (by omega) (by omega)
    rw [Int.bmod_eq_emod, if_pos (by omega)] at nonneg
    omega

theorem toNat_toUInt64_of_neg (x : Int64) (negative : x.toInt < 0) :
    (x.toUInt64.toNat : Int) = x.toInt + (2 ^ 64 : Int) := by
  have cond := BitVec.toInt_eq_toNat_cond x.toBitVec
  change x.toInt = _ at cond
  change (x.toBitVec.toNat : Int) = x.toInt + (2 ^ 64 : Int)
  split at cond <;> omega

theorem tryInt64_eq_some_iff (x : UInt64) (y : Int64) :
    tryInt64 x = some y ↔ x.toNat < 2 ^ 63 ∧ x.toInt64 = y := by
  unfold tryInt64
  split
  · rename_i small
    exact ⟨fun same => ⟨small, Option.some.inj same⟩, fun fits => congrArg some fits.2⟩
  · rename_i large
    exact ⟨nofun, fun fits => absurd fits.1 large⟩

theorem saturatingSub_toInt (a b : Int64) :
    (saturatingSub a b).toInt = max (-2 ^ 63) (min (2 ^ 63 - 1) (a.toInt - b.toInt)) := by
  unfold saturatingSub Int64.ofIntClamp
  have least : Int64.minValue.toInt = -2 ^ 63 := rfl
  have greatest : Int64.maxValue.toInt = 2 ^ 63 - 1 := rfl
  split
  · split
    · rw [Int64.toInt_ofIntLE]
      omega
    · omega
  · omega

theorem checkedSucc_eq_some_iff (x y : Int64) :
    checkedSucc x = some y ↔ x.toInt + 1 = y.toInt := by
  have least := x.le_toInt
  have most := y.toInt_lt
  unfold checkedSucc
  split
  · rename_i fits
    have sum : (x + 1).toInt = x.toInt + 1 := by
      rw [Int64.toInt_add]
      exact Int.bmod_eq_of_le (by change -2 ^ 63 ≤ x.toInt + 1; omega) (by
        change x.toInt + 1 < 2 ^ 63
        exact fits)
    rw [Option.some.injEq, ← Int64.toInt_inj, sum]
  · rename_i large
    constructor
    · intro impossible
      cases impossible
    · intro same
      omega

/-! ## Unsigned sums and differences -/

theorem checkedAdd_eq_some_iff (a b c : UInt64) :
    checkedAdd a b = some c ↔ a.toNat + b.toNat = c.toNat := by
  have bound := c.toNat_lt
  unfold checkedAdd
  split
  · rename_i fits
    have sum : (a + b).toNat = a.toNat + b.toNat := by
      rw [UInt64.toNat_add]
      omega
    rw [Option.some.injEq, ← UInt64.toNat_inj, sum]
  · rename_i large
    constructor
    · intro impossible
      cases impossible
    · intro same
      omega

theorem checkedSub_eq_some_iff (a b c : UInt64) :
    checkedSub a b = some c ↔ a.toNat = c.toNat + b.toNat := by
  unfold checkedSub
  split
  · rename_i enough
    have difference : (a - b).toNat = a.toNat - b.toNat := UInt64.toNat_sub_of_le a b enough
    rw [Option.some.injEq, ← UInt64.toNat_inj, difference]
    omega
  · rename_i short
    constructor
    · intro impossible
      cases impossible
    · intro same
      omega

/-- A difference that does not go below zero does not saturate. -/
theorem toNat_saturatingSubU64 {a b : UInt64} (enough : b.toNat ≤ a.toNat) :
    (saturatingSubU64 a b).toNat + b.toNat = a.toNat := by
  have difference : checkedSub a b = some (a - b) := if_pos enough
  unfold saturatingSubU64
  rw [difference, Option.getD_some]
  exact ((checkedSub_eq_some_iff _ _ _).mp difference).symm

theorem toNat_saturatingAddU64 {a b : UInt64} (fits : a.toNat + b.toNat < 2 ^ 64) :
    (saturatingAddU64 a b).toNat = a.toNat + b.toNat := by
  have total : checkedAdd a b = some (a + b) := if_pos fits
  unfold saturatingAddU64
  rw [total, Option.getD_some]
  exact ((checkedAdd_eq_some_iff _ _ _).mp total).symm

end MachineInt
