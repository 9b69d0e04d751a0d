import Mathlib

set_option autoImplicit false

/-! Counting by window. Items come in with a key and a window; of each key one keeps the latest
window and how many items in a row had it. -/

namespace WindowCounter

variable {κ ω : Type} [DecidableEq κ] [DecidableEq ω]

/-- The windows of a key, latest first. -/
def windows (history : List (κ × ω)) (key : κ) : List ω :=
  ((history.filter fun item => item.1 = key).map Prod.snd).reverse

/-- How many of the latest items of a key are of one window. -/
def stretch (history : List (κ × ω)) (key : κ) (window : ω) : Nat :=
  ((windows history key).takeWhile fun other => other = window).length

/-- The latest window of a key, with how many items in a row had it. -/
def latest (history : List (κ × ω)) (key : κ) : Option (ω × Nat) :=
  (windows history key).head?.map fun window => (window, stretch history key window)

section Snoc

variable (history : List (κ × ω)) {key other : κ} (window : ω)

omit [DecidableEq ω] in
theorem windows_snoc_self :
    windows (history ++ [(key, window)]) key = window :: windows history key := by
  simp [windows]

omit [DecidableEq ω] in
theorem windows_snoc_of_ne (apart : other ≠ key) :
    windows (history ++ [(other, window)]) key = windows history key := by
  simp [windows, apart]

theorem stretch_snoc_self :
    stretch (history ++ [(key, window)]) key window = stretch history key window + 1 := by
  simp [stretch, windows_snoc_self]

theorem stretch_of_head {found : ω} (head : (windows history key).head? = some found)
    (apart : found ≠ window) : stretch history key window = 0 := by
  unfold stretch
  cases listed : windows history key with
  | nil => rfl
  | cons first rest =>
      rw [listed] at head
      cases head
      simp [apart]

theorem stretch_of_none (empty : (windows history key).head? = none) :
    stretch history key window = 0 := by
  unfold stretch
  rw [List.head?_eq_none_iff.mp empty]
  rfl

theorem latest_snoc_self : latest (history ++ [(key, window)]) key =
    some (window, stretch history key window + 1) := by
  simp [latest, windows_snoc_self, stretch]

theorem latest_snoc_of_ne (apart : other ≠ key) :
    latest (history ++ [(other, window)]) key = latest history key := by
  simp [latest, windows_snoc_of_ne history window apart, stretch]

end Snoc

/-- In a list that does not rise above its first items, these are all of their value. -/
theorem length_takeWhile_eq_count [LinearOrder ω] {listed : List ω} {window : ω}
    (falling : listed.Pairwise (· ≥ ·)) (below : ∀ found ∈ listed, found ≤ window) :
    (listed.takeWhile fun found => found = window).length =
      listed.countP fun found => found = window := by
  induction listed with
  | nil => rfl
  | cons first rest ih =>
      obtain ⟨top, falling⟩ := List.pairwise_cons.mp falling
      obtain ⟨under, below⟩ := List.forall_mem_cons.mp below
      by_cases same : first = window
      · have later := ih falling below
        simp [same, later]
      · have none : rest.countP (fun found => found = window) = 0 := by
          rw [List.countP_eq_zero]
          intro found member
          have lower := lt_of_le_of_lt (top found member) (lt_of_le_of_ne under same)
          simpa using lower.ne
        simp [same, none]

/-- While windows do not run back, the stretch of a window holds all its items. -/
theorem stretch_eq_count [LinearOrder ω] {history : List (κ × ω)} {key : κ} {window : ω}
    (forward : (history.map Prod.snd).Pairwise (· ≤ ·))
    (present : ∀ item ∈ history, item.2 ≤ window) :
    stretch history key window = history.countP fun item => item.2 = window && item.1 = key := by
  unfold stretch windows
  rw [length_takeWhile_eq_count]
  · rw [List.countP_reverse, List.countP_map, List.countP_filter]
    rfl
  · rw [List.pairwise_reverse]
    exact forward.sublist (List.filter_sublist.map Prod.snd)
  · intro found member
    rw [List.mem_reverse, List.mem_map] at member
    obtain ⟨item, kept, rfl⟩ := member
    exact present item (List.mem_filter.mp kept).1

end WindowCounter
