import Mathlib

set_option autoImplicit false

/-! Maps kept in key order: look-ups after each update, draining the entries a
test selects, and the last selected entry. -/

/-- A map whose entries are listed in the order of their keys. -/
abbrev OrderedMap (κ ν : Type) [Ord κ] := Std.ExtTreeMap κ ν compare

namespace OrderedMap

instance {α β : Type} [Ord α] [Ord β] : Ord (α × β) := lexOrd

/-- Pairs with one first component compare by the second. -/
theorem compare_pair {α β : Type} [Ord α] [Ord β] [Std.ReflOrd α] (a : α) (b c : β) :
    compare (a, b) (a, c) = compare b c := by
  change (compare a a).then (compare b c) = compare b c
  rw [Std.ReflOrd.compare_self]
  rfl

variable {κ ν : Type} [Ord κ] [Std.TransOrd κ] [Std.LawfulEqOrd κ]

theorem ext_get {m other : OrderedMap κ ν} (same : ∀ k : κ, m[k]? = other[k]?) : m = other :=
  Std.ExtTreeMap.ext_getElem? fun k => same k

theorem get_insert_self (m : OrderedMap κ ν) (k : κ) (v : ν) : (m.insert k v)[k]? = some v := by
  simp

theorem get_insert_of_ne (m : OrderedMap κ ν) {k a : κ} (v : ν) (apart : k ≠ a) :
    (m.insert k v)[a]? = m[a]? := by
  simp [Std.ExtTreeMap.getElem?_insert, apart]

theorem get_erase_self (m : OrderedMap κ ν) (k : κ) : (m.erase k)[k]? = none := by
  simp

theorem get_erase_of_ne (m : OrderedMap κ ν) {k a : κ} (apart : k ≠ a) :
    (m.erase k)[a]? = m[a]? := by
  simp [Std.ExtTreeMap.getElem?_erase, apart]

theorem get_filter (m : OrderedMap κ ν) (p : κ → ν → Bool) (k : κ) :
    (m.filter p)[k]? = m[k]?.filter (p k) :=
  Std.ExtTreeMap.getElem?_filter'

theorem get_filter_eq_some (m : OrderedMap κ ν) (p : κ → ν → Bool) (k : κ) (v : ν) :
    (m.filter p)[k]? = some v ↔ m[k]? = some v ∧ p k v := by
  rw [get_filter, Option.filter_eq_some_iff]

theorem filter_of_all (m : OrderedMap κ ν) (p : κ → ν → Bool)
    (every : ∀ k v, m[k]? = some v → p k v) : m.filter p = m := by
  refine ext_get fun k => ?_
  rw [get_filter]
  cases present : m[k]? with
  | none => rfl
  | some v => rw [Option.filter_some, if_pos (every k v present)]

theorem mem_toList (m : OrderedMap κ ν) (k : κ) (v : ν) :
    (k, v) ∈ m.toList ↔ m[k]? = some v :=
  Std.ExtTreeMap.mem_toList_iff_getElem?_eq_some

/-! ## The selected entries -/

/-- The entries `p` selects, in key order. -/
def entriesWhere (m : OrderedMap κ ν) (p : κ → ν → Bool) : List (κ × ν) :=
  m.toList.filter fun entry => p entry.1 entry.2

def keysWhere (m : OrderedMap κ ν) (p : κ → ν → Bool) : List κ :=
  (entriesWhere m p).map Prod.fst

def valuesWhere (m : OrderedMap κ ν) (p : κ → ν → Bool) : List ν :=
  (entriesWhere m p).map Prod.snd

/-- The selected entry with the greatest key. -/
def lastWhere (m : OrderedMap κ ν) (p : κ → ν → Bool) : Option (κ × ν) :=
  (entriesWhere m p).getLast?

theorem mem_entriesWhere (m : OrderedMap κ ν) (p : κ → ν → Bool) (k : κ) (v : ν) :
    (k, v) ∈ entriesWhere m p ↔ m[k]? = some v ∧ p k v := by
  rw [entriesWhere, List.mem_filter, mem_toList]

theorem mem_keysWhere (m : OrderedMap κ ν) (p : κ → ν → Bool) (k : κ) :
    k ∈ keysWhere m p ↔ ∃ v, m[k]? = some v ∧ p k v := by
  simp [keysWhere, mem_entriesWhere]

theorem mem_valuesWhere (m : OrderedMap κ ν) (p : κ → ν → Bool) (v : ν) :
    v ∈ valuesWhere m p ↔ ∃ k, m[k]? = some v ∧ p k v := by
  simp [valuesWhere, mem_entriesWhere]

/-- Maps that hold the same selected entries select the same. -/
theorem entriesWhere_congr {m other : OrderedMap κ ν} {p : κ → ν → Bool}
    (same : ∀ k : κ, m[k]?.filter (p k) = other[k]?.filter (p k)) :
    entriesWhere m p = entriesWhere other p := by
  have filtered : m.filter p = other.filter p := ext_get fun k => by
    rw [get_filter, get_filter, same]
  have listed := congrArg Std.ExtTreeMap.toList filtered
  rw [Std.ExtTreeMap.toList_filter, Std.ExtTreeMap.toList_filter] at listed
  exact listed

omit [Std.LawfulEqOrd κ] in
theorem entriesWhere_pairwise (m : OrderedMap κ ν) (p : κ → ν → Bool) :
    (entriesWhere m p).Pairwise fun a b => compare a.1 b.1 = .lt :=
  Std.ExtTreeMap.ordered_keys_toList.filter _

omit [Std.LawfulEqOrd κ] in
private theorem entriesWhere_apart (m : OrderedMap κ ν) (p : κ → ν → Bool) :
    (entriesWhere m p).Pairwise fun a b => a.1 ≠ b.1 :=
  (entriesWhere_pairwise m p).imp fun less same => by
    rw [same, Std.ReflOrd.compare_self] at less
    cases less

/-- The only selected entry. -/
theorem valuesWhere_eq_singleton {m : OrderedMap κ ν} {p : κ → ν → Bool} {k : κ} {v : ν}
    (present : m[k]? = some v) (selected : p k v)
    (only : ∀ (other : κ) (w : ν), m[other]? = some w → other = k) : valuesWhere m p = [v] := by
  have member := (mem_entriesWhere m p k v).mpr ⟨present, selected⟩
  have same : ∀ entry ∈ entriesWhere m p, entry = (k, v) := by
    intro entry listed
    have found := ((mem_entriesWhere m p entry.1 entry.2).mp listed).1
    have here := only entry.1 entry.2 found
    rw [here, present] at found
    exact Prod.ext here (Option.some.inj found).symm
  have apart := entriesWhere_apart m p
  cases entries : entriesWhere m p with
  | nil =>
      rw [entries] at member
      cases member
  | cons first rest =>
      rw [entries] at same apart
      have head := same first (List.mem_cons_self ..)
      cases rest with
      | nil => rw [valuesWhere, entries, head]; rfl
      | cons second others =>
          have next := same second (List.mem_cons_of_mem _ (List.mem_cons_self ..))
          have clash := (List.pairwise_cons.mp apart).1 second (List.mem_cons_self ..)
          rw [head, next] at clash
          exact absurd rfl clash

/-- When every value knows its key, the selected values come in key order. -/
theorem valuesWhere_pairwise (m : OrderedMap κ ν) (p : κ → ν → Bool) (key : ν → κ)
    (keyed : ∀ k v, m[k]? = some v → key v = k) :
    (valuesWhere m p).Pairwise fun a b => compare (key a) (key b) = .lt := by
  rw [valuesWhere, List.pairwise_map]
  refine (entriesWhere_pairwise m p).imp_of_mem ?_
  rintro ⟨a, v⟩ ⟨b, w⟩ first second less
  rw [keyed a v ((mem_entriesWhere m p a v).mp first).1,
    keyed b w ((mem_entriesWhere m p b w).mp second).1]
  exact less

/-! ## Draining -/

/-- Remove the given keys one after the other, collecting the values found. -/
def removeEach (m : OrderedMap κ ν) : List κ → List ν × OrderedMap κ ν
  | [] => ([], m)
  | k :: rest =>
      match m[k]? with
      | some v =>
          let (removed, left) := removeEach (m.erase k) rest
          (v :: removed, left)
      | none => removeEach m rest

private theorem removeEach_of_entries (entries : List (κ × ν)) (m : OrderedMap κ ν)
    (present : ∀ entry ∈ entries, m[entry.1]? = some entry.2)
    (apart : entries.Pairwise fun a b => a.1 ≠ b.1) :
    (removeEach m (entries.map Prod.fst)).1 = entries.map Prod.snd ∧
      ∀ k : κ, (k ∈ entries.map Prod.fst →
          (removeEach m (entries.map Prod.fst)).2[k]? = none) ∧
        (k ∉ entries.map Prod.fst →
          (removeEach m (entries.map Prod.fst)).2[k]? = m[k]?) := by
  induction entries generalizing m with
  | nil => exact ⟨rfl, fun k => ⟨nofun, fun _ => rfl⟩⟩
  | cons entry entries ih =>
      obtain ⟨first, rest⟩ := List.pairwise_cons.mp apart
      have found := present entry (List.mem_cons_self ..)
      obtain ⟨values, left⟩ := ih (m.erase entry.1)
        (fun other member => by
          rw [get_erase_of_ne m (first other member)]
          exact present other (List.mem_cons_of_mem _ member)) rest
      simp only [List.map_cons, removeEach, found]
      refine ⟨congrArg (entry.2 :: ·) values, fun k => ⟨fun member => ?_, fun absent => ?_⟩⟩
      · by_cases later : k ∈ entries.map Prod.fst
        · exact (left k).1 later
        · rcases List.mem_cons.mp member with rfl | member
          · exact ((left _).2 later).trans (get_erase_self m _)
          · exact absurd member later
      · obtain ⟨other, later⟩ := not_or.mp (mt List.mem_cons.mpr absent)
        exact ((left k).2 later).trans (get_erase_of_ne m (Ne.symm other))

/-- Draining the selected keys yields the selected values and leaves the other
entries. -/
theorem removeEach_keysWhere (m : OrderedMap κ ν) (p : κ → ν → Bool) :
    removeEach m (keysWhere m p) = (valuesWhere m p, m.filter fun k v => !p k v) := by
  obtain ⟨values, left⟩ := removeEach_of_entries (entriesWhere m p) m
    (fun entry member => ((mem_entriesWhere m p _ _).mp member).1) (entriesWhere_apart m p)
  refine Prod.ext values (ext_get fun k => ?_)
  rw [get_filter]
  by_cases drained : k ∈ keysWhere m p
  · obtain ⟨v, present, selected⟩ := (mem_keysWhere m p k).mp drained
    refine ((left k).1 drained).trans ?_
    rw [present, Option.filter_some, if_neg (by simp [selected])]
  · refine ((left k).2 drained).trans ?_
    cases present : m[k]? with
    | none => rfl
    | some v =>
        have kept : ¬ p k v := fun selected =>
          drained ((mem_keysWhere m p k).mpr ⟨v, present, selected⟩)
        rw [Option.filter_some, if_pos (by simp [kept])]

/-- Insert entries one after the other. -/
def insertEach (m : OrderedMap κ ν) (entries : List (κ × ν)) : OrderedMap κ ν :=
  entries.foldl (fun grown entry => grown.insert entry.1 entry.2) m

theorem get_insertEach_of_absent (m : OrderedMap κ ν) {entries : List (κ × ν)} {k : κ}
    (absent : ∀ v, (k, v) ∉ entries) : (insertEach m entries)[k]? = m[k]? := by
  induction entries generalizing m with
  | nil => rfl
  | cons entry entries ih =>
      refine (ih (m.insert entry.1 entry.2)
        fun v later => absent v (List.mem_cons_of_mem _ later)).trans ?_
      refine get_insert_of_ne _ _ fun here => absent entry.2 ?_
      rw [← here]
      exact List.mem_cons_self ..

/-- What a key holds after insertions depends on what it held before. -/
theorem get_insertEach_congr {m other : OrderedMap κ ν} (entries : List (κ × ν)) {k : κ}
    (same : m[k]? = other[k]?) : (insertEach m entries)[k]? = (insertEach other entries)[k]? := by
  induction entries generalizing m other with
  | nil => exact same
  | cons entry entries ih =>
      apply ih
      by_cases here : entry.1 = k
      · rw [← here, get_insert_self, get_insert_self]
      · rw [get_insert_of_ne _ _ here, get_insert_of_ne _ _ here, same]

theorem get_insertEach_of_mem (m : OrderedMap κ ν) {entries : List (κ × ν)}
    (apart : entries.Pairwise fun a b => a.1 ≠ b.1) {k : κ} {v : ν} (member : (k, v) ∈ entries) :
    (insertEach m entries)[k]? = some v := by
  induction entries generalizing m with
  | nil => cases member
  | cons entry entries ih =>
      obtain ⟨first, rest⟩ := List.pairwise_cons.mp apart
      rcases List.mem_cons.mp member with rfl | later
      · refine (get_insertEach_of_absent (m.insert k v)
          fun w later => first (k, w) later rfl).trans ?_
        exact get_insert_self ..
      · exact ih (m.insert entry.1 entry.2) rest later

/-- What stands after entries were inserted at free keys. -/
theorem get_insertEach_eq_some_iff (m : OrderedMap κ ν) {entries : List (κ × ν)}
    (apart : entries.Pairwise fun a b => a.1 ≠ b.1)
    (free : ∀ entry ∈ entries, m[entry.1]? = none) (k : κ) (v : ν) :
    (insertEach m entries)[k]? = some v ↔ m[k]? = some v ∨ (k, v) ∈ entries := by
  by_cases touched : ∃ w, (k, w) ∈ entries
  · obtain ⟨w, member⟩ := touched
    have vacant : m[k]? = none := free (k, w) member
    have last := get_insertEach_of_mem m apart member
    rw [vacant, last]
    constructor
    · intro same
      rw [← Option.some.inj same]
      exact Or.inr member
    · rintro (impossible | other)
      · cases impossible
      · rw [← last, get_insertEach_of_mem m apart other]
  · have absent : ∀ w, (k, w) ∉ entries := fun w member => touched ⟨w, member⟩
    rw [get_insertEach_of_absent m absent]
    simp [absent]

omit [Std.LawfulEqOrd κ] in
theorem insertEach_append (m : OrderedMap κ ν) (first second : List (κ × ν)) :
    insertEach m (first ++ second) = insertEach (insertEach m first) second :=
  List.foldl_append

theorem get_insertEach_eq_none_iff (m : OrderedMap κ ν) (entries : List (κ × ν)) (k : κ) :
    (insertEach m entries)[k]? = none ↔ m[k]? = none ∧ ∀ v, (k, v) ∉ entries := by
  induction entries generalizing m with
  | nil => exact ⟨fun none => ⟨none, nofun⟩, And.left⟩
  | cons entry entries ih =>
      refine (ih (m.insert entry.1 entry.2)).trans ?_
      by_cases here : entry.1 = k
      · rw [← here, get_insert_self]
        refine ⟨nofun, fun none => absurd ?_ (none.2 entry.2)⟩
        exact List.mem_cons_self ..
      · rw [get_insert_of_ne _ _ here]
        refine and_congr_right fun _ => forall_congr' fun v => ?_
        rw [List.mem_cons, not_or]
        exact ⟨fun later => ⟨fun same => here (same ▸ rfl), later⟩, And.right⟩

/-- Inserting the selected entries of one map into another overrides it there. -/
theorem get_insertEach_entriesWhere (source target : OrderedMap κ ν) (p : κ → ν → Bool)
    (k : κ) : (insertEach target (entriesWhere source p))[k]? =
      (source[k]?.filter (p k)).or target[k]? := by
  cases selected : source[k]?.filter (p k) with
  | some v =>
      exact get_insertEach_of_mem target (entriesWhere_apart source p)
        ((mem_entriesWhere source p k v).mpr (Option.filter_eq_some_iff.mp selected))
  | none =>
      refine get_insertEach_of_absent target fun v member => ?_
      have chosen := (mem_entriesWhere source p k v).mp member
      rw [chosen.1, Option.filter_some, if_pos chosen.2] at selected
      cases selected

/-- Move the given keys one after the other into a second map, collecting the
values moved. -/
def moveEach (source target : OrderedMap κ ν) :
    List κ → List ν × OrderedMap κ ν × OrderedMap κ ν
  | [] => ([], source, target)
  | k :: rest =>
      match source[k]? with
      | some v =>
          let (moved, left, grown) := moveEach (source.erase k) (target.insert k v) rest
          (v :: moved, left, grown)
      | none => moveEach source target rest

omit [Std.LawfulEqOrd κ] in
private theorem moveEach_source (keys : List κ) (source target : OrderedMap κ ν) :
    (moveEach source target keys).1 = (removeEach source keys).1 ∧
      (moveEach source target keys).2.1 = (removeEach source keys).2 := by
  induction keys generalizing source target with
  | nil => exact ⟨rfl, rfl⟩
  | cons k keys ih =>
      simp only [moveEach, removeEach]
      cases source[k]? with
      | none => exact ih source target
      | some v =>
          obtain ⟨values, left⟩ := ih (source.erase k) (target.insert k v)
          exact ⟨congrArg (v :: ·) values, left⟩

private theorem moveEach_target (entries : List (κ × ν)) (source target : OrderedMap κ ν)
    (present : ∀ entry ∈ entries, source[entry.1]? = some entry.2)
    (apart : entries.Pairwise fun a b => a.1 ≠ b.1) :
    (moveEach source target (entries.map Prod.fst)).2.2 = insertEach target entries := by
  induction entries generalizing source target with
  | nil => rfl
  | cons entry entries ih =>
      obtain ⟨first, rest⟩ := List.pairwise_cons.mp apart
      simp only [List.map_cons, moveEach, present entry (List.mem_cons_self ..)]
      refine ih (source.erase entry.1) (target.insert entry.1 entry.2)
        (fun other member => ?_) rest
      rw [get_erase_of_ne source (first other member)]
      exact present other (List.mem_cons_of_mem _ member)

/-- Moving the selected keys yields the selected values, leaves the other
entries, and inserts the selected entries into the target. -/
theorem moveEach_keysWhere (source target : OrderedMap κ ν) (p : κ → ν → Bool) :
    moveEach source target (keysWhere source p) =
      (valuesWhere source p, source.filter (fun k v => !p k v),
        insertEach target (entriesWhere source p)) := by
  obtain ⟨values, left⟩ := moveEach_source (keysWhere source p) source target
  rw [removeEach_keysWhere] at values left
  have grown := moveEach_target (entriesWhere source p) source target
    (fun entry member => ((mem_entriesWhere source p _ _).mp member).1)
    (entriesWhere_apart source p)
  exact Prod.ext values (Prod.ext left grown)

/-! ## Sums over a map -/

/-- The sum of what the values weigh. -/
def total (m : OrderedMap κ ν) (weight : ν → Nat) : Nat :=
  (m.toList.map fun entry => weight entry.2).sum

omit [Std.LawfulEqOrd κ] in
private theorem toList_nodup (m : OrderedMap κ ν) : m.toList.Nodup :=
  Std.ExtTreeMap.ordered_keys_toList.imp fun less same => by
    rw [same, Std.ReflOrd.compare_self] at less
    cases less

/-- An entry and the entries without it. -/
theorem toList_perm_erase {m : OrderedMap κ ν} {k : κ} {v : ν} (present : m[k]? = some v) :
    m.toList.Perm ((k, v) :: (m.erase k).toList) := by
  have absent : (k, v) ∉ (m.erase k).toList := by
    rw [mem_toList, get_erase_self]
    exact nofun
  refine (List.perm_ext_iff_of_nodup (toList_nodup m)
    (List.nodup_cons.mpr ⟨absent, toList_nodup _⟩)).mpr fun entry => ?_
  obtain ⟨a, w⟩ := entry
  rw [List.mem_cons, mem_toList, mem_toList, Prod.mk.injEq]
  by_cases here : k = a
  · subst here
    rw [get_erase_self, present, Option.some.injEq]
    exact ⟨fun same => Or.inl ⟨rfl, same.symm⟩, fun found => by
      rcases found with ⟨-, same⟩ | impossible
      · exact same.symm
      · cases impossible⟩
  · rw [get_erase_of_ne m here]
    exact ⟨Or.inr, fun found => found.resolve_left fun same => here same.1.symm⟩

omit [Std.LawfulEqOrd κ] in
@[simp] theorem total_empty (weight : ν → Nat) : total (∅ : OrderedMap κ ν) weight = 0 := rfl

theorem total_of_get {m : OrderedMap κ ν} {k : κ} {v : ν} (weight : ν → Nat)
    (present : m[k]? = some v) : total m weight = weight v + total (m.erase k) weight := by
  unfold total
  rw [((toList_perm_erase present).map _).sum_eq]
  rfl

theorem erase_of_absent {m : OrderedMap κ ν} {k : κ} (absent : m[k]? = none) : m.erase k = m := by
  refine ext_get fun a => ?_
  by_cases here : k = a
  · rw [← here, get_erase_self, absent]
  · exact get_erase_of_ne m here

theorem total_insert (m : OrderedMap κ ν) (k : κ) (v : ν) (weight : ν → Nat) :
    total (m.insert k v) weight = weight v + total (m.erase k) weight := by
  have dropped : (m.insert k v).erase k = m.erase k := by
    refine ext_get fun a => ?_
    by_cases here : k = a
    · rw [← here, get_erase_self, get_erase_self]
    · rw [get_erase_of_ne _ here, get_erase_of_ne _ here, get_insert_of_ne _ _ here]
  rw [total_of_get weight (get_insert_self m k v), dropped]

/-- No value weighs more than all. -/
theorem le_total {m : OrderedMap κ ν} {k : κ} {v : ν} (weight : ν → Nat)
    (present : m[k]? = some v) : weight v ≤ total m weight := by
  rw [total_of_get weight present]
  omega

/-! ## The last selected entry -/

theorem lastWhere_eq_none_iff (m : OrderedMap κ ν) (p : κ → ν → Bool) :
    lastWhere m p = none ↔ ∀ k v, m[k]? = some v → ¬ p k v := by
  rw [lastWhere, List.getLast?_eq_none_iff, List.eq_nil_iff_forall_not_mem]
  constructor
  · intro none k v present chosen
    exact none (k, v) ((mem_entriesWhere m p k v).mpr ⟨present, chosen⟩)
  · rintro none ⟨k, v⟩ member
    obtain ⟨present, chosen⟩ := (mem_entriesWhere m p k v).mp member
    exact none k v present chosen

theorem lastWhere_eq_some_iff (m : OrderedMap κ ν) (p : κ → ν → Bool) (k : κ) (v : ν) :
    lastWhere m p = some (k, v) ↔ m[k]? = some v ∧ p k v ∧
      ∀ k' v', m[k']? = some v' → p k' v' → compare k' k = .lt ∨ k' = k := by
  have ordered := entriesWhere_pairwise m p
  constructor
  · intro last
    obtain ⟨earlier, split⟩ := List.getLast?_eq_some_iff.mp last
    have member : (k, v) ∈ entriesWhere m p := by
      rw [split]
      simp
    obtain ⟨present, chosen⟩ := (mem_entriesWhere m p k v).mp member
    refine ⟨present, chosen, fun k' v' found picked => ?_⟩
    have other := (mem_entriesWhere m p k' v').mpr ⟨found, picked⟩
    rw [split] at other ordered
    rcases List.mem_append.mp other with before | final
    · exact Or.inl ((List.pairwise_append.mp ordered).2.2 _ before _ (List.mem_singleton_self _))
    · exact Or.inr (congrArg Prod.fst (List.mem_singleton.mp final))
  · rintro ⟨present, chosen, greatest⟩
    have member := (mem_entriesWhere m p k v).mpr ⟨present, chosen⟩
    rw [lastWhere]
    cases final : (entriesWhere m p).getLast? with
    | none =>
        rw [List.getLast?_eq_none_iff] at final
        rw [final] at member
        cases member
    | some entry =>
        obtain ⟨earlier, split⟩ := List.getLast?_eq_some_iff.mp final
        have kept : entry ∈ entriesWhere m p := by
          rw [split]
          simp
        rw [split] at member ordered
        rcases List.mem_append.mp member with before | here
        · have less := (List.pairwise_append.mp ordered).2.2 _ before _
            (List.mem_singleton_self _)
          obtain ⟨found, picked⟩ := (mem_entriesWhere m p _ _).mp kept
          rcases greatest entry.1 entry.2 found picked with more | same
          · have contra := Std.TransCmp.lt_trans less more
            rw [Std.ReflOrd.compare_self] at contra
            cases contra
          · rw [same, Std.ReflOrd.compare_self] at less
            cases less
        · rw [List.mem_singleton.mp here]

end OrderedMap
