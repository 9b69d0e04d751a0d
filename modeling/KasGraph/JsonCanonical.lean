import KasGraph.Json

set_option autoImplicit false

/-! The canonical form of a JSON value is a normal form: two values have the same one
exactly when they differ only in the order of the keys of their objects. -/

namespace KasGraph.Json

namespace Value

theorem get?_object (fields : List (String × Value)) (name : String) :
    (Value.object fields).get? name = fields.lookup name := rfl

/-! ## Fields in key order -/

/-- The keys of the fields increase. -/
def KeyOrdered (fields : List (String × Value)) : Prop :=
  fields.Pairwise fun a b => compare a.1 b.1 = .lt

theorem mem_insertField {key : String} {value : Value} {fields : List (String × Value)}
    {field : String × Value} (member : field ∈ insertField key value fields) :
    field = (key, value) ∨ field ∈ fields := by
  induction fields with
  | nil => exact Or.inl (List.mem_singleton.mp member)
  | cons head rest ih =>
      obtain ⟨other, held⟩ := head
      unfold insertField at member
      cases placed : compare key other with
      | lt =>
          rw [placed] at member
          exact List.mem_cons.mp member
      | eq =>
          rw [placed] at member
          rcases List.mem_cons.mp member with here | later
          · exact Or.inl here
          · exact Or.inr (List.mem_cons_of_mem _ later)
      | gt =>
          rw [placed] at member
          rcases List.mem_cons.mp member with here | later
          · exact Or.inr (here ▸ List.mem_cons_self ..)
          · exact (ih later).imp_right (List.mem_cons_of_mem _)

theorem KeyOrdered.insertField {fields : List (String × Value)} (ordered : KeyOrdered fields)
    (key : String) (value : Value) : KeyOrdered (insertField key value fields) := by
  induction fields with
  | nil => exact List.pairwise_singleton ..
  | cons head rest ih =>
      obtain ⟨other, held⟩ := head
      obtain ⟨first, later⟩ := List.pairwise_cons.mp ordered
      unfold Value.insertField
      cases placed : compare key other with
      | lt =>
          refine List.pairwise_cons.mpr ⟨fun field member => ?_, ordered⟩
          rcases List.mem_cons.mp member with rfl | inRest
          · exact placed
          · exact Std.TransCmp.lt_trans placed (first field inRest)
      | eq =>
          have same : key = other := Std.LawfulEqOrd.eq_of_compare placed
          subst same
          exact List.pairwise_cons.mpr ⟨first, later⟩
      | gt =>
          refine List.pairwise_cons.mpr ⟨fun field member => ?_, ih later⟩
          rcases mem_insertField member with rfl | inRest
          · exact Std.OrientedCmp.lt_of_gt placed
          · exact first field inRest

theorem keyOrdered_ofFields (fields : List (String × Value)) :
    KeyOrdered (fields.foldl (fun sorted field => Value.insertField field.1 field.2 sorted) []) := by
  have each : ∀ sorted : List (String × Value), KeyOrdered sorted →
      KeyOrdered (fields.foldl (fun sorted field =>
        Value.insertField field.1 field.2 sorted) sorted) := by
    induction fields with
    | nil => exact fun _ ordered => ordered
    | cons field rest ih =>
        intro sorted ordered
        exact ih _ (ordered.insertField field.1 field.2)
  exact each [] List.Pairwise.nil

theorem lookup_none_of_before {key : String} {fields : List (String × Value)}
    (before : ∀ field ∈ fields, compare key field.1 = .lt) : fields.lookup key = none := by
  refine List.lookup_eq_none_iff.mpr fun field member => ?_
  rw [bne_iff_ne]
  rintro rfl
  exact nomatch (Std.ReflOrd.compare_self (a := field.1)).symm.trans (before field member)

/-- Fields in key order are determined by what they say of each key. -/
theorem KeyOrdered.ext {first second : List (String × Value)} (left : KeyOrdered first)
    (right : KeyOrdered second) (same : ∀ key, first.lookup key = second.lookup key) :
    first = second := by
  induction first generalizing second with
  | nil =>
      cases second with
      | nil => rfl
      | cons field rest =>
          have found := same field.1
          rw [List.lookup_nil, List.lookup_cons_self] at found
          cases found
  | cons a as ih =>
      obtain ⟨beforeA, orderedA⟩ := List.pairwise_cons.mp left
      cases second with
      | nil =>
          have found := same a.1
          rw [List.lookup_nil, List.lookup_cons_self] at found
          cases found
      | cons b bs =>
          obtain ⟨beforeB, orderedB⟩ := List.pairwise_cons.mp right
          have keys : a.1 = b.1 := by
            cases placed : compare a.1 b.1 with
            | eq => exact Std.LawfulEqOrd.eq_of_compare placed
            | lt =>
                have missing : (b :: bs).lookup a.1 = none := by
                  apply lookup_none_of_before
                  intro field member
                  rcases List.mem_cons.mp member with rfl | later
                  · exact placed
                  · exact Std.TransCmp.lt_trans placed (beforeB field later)
                rw [← same, List.lookup_cons_self] at missing
                cases missing
            | gt =>
                have flipped : compare b.1 a.1 = .lt := Std.OrientedCmp.lt_of_gt placed
                have missing : (a :: as).lookup b.1 = none := by
                  apply lookup_none_of_before
                  intro field member
                  rcases List.mem_cons.mp member with rfl | later
                  · exact flipped
                  · exact Std.TransCmp.lt_trans flipped (beforeA field later)
                rw [same, List.lookup_cons_self] at missing
                cases missing
          have values : a.2 = b.2 := by
            have found := same a.1
            rw [List.lookup_cons_self, keys, List.lookup_cons_self] at found
            exact Option.some.inj found
          have rest : as = bs := by
            apply ih orderedA orderedB
            intro key
            by_cases here : key = a.1
            · rw [here, lookup_none_of_before beforeA, keys, lookup_none_of_before beforeB]
            · have found := same key
              rw [List.lookup_cons, List.lookup_cons, beq_false_of_ne here,
                beq_false_of_ne (keys ▸ here)] at found
              exact found
          rw [Prod.ext keys values, rest]

/-- An object built from fields of distinct keys has each of them. -/
theorem get?_ofFields_of_distinct {fields : List (String × Value)}
    (distinct : (fields.map Prod.fst).Nodup) (key : String) :
    (ofFields fields).get? key = fields.lookup key := by
  cases found : fields.lookup key with
  | none =>
      apply get?_ofFields_of_absent
      intro member
      obtain ⟨field, listed, rfl⟩ := List.mem_map.mp member
      have missed := List.lookup_eq_none_iff.mp found field listed
      simp at missed
  | some value =>
      obtain ⟨before, after, rfl, -⟩ := List.lookup_eq_some_iff.mp found
      apply get?_ofFields_of_last
      intro member
      rw [List.map_append, List.map_cons] at distinct
      exact (List.nodup_cons.mp (List.nodup_append.mp distinct).2.1).1 member

/-- Objects of distinct keys are built alike exactly when each has the other's fields. -/
theorem ofFields_eq_iff {first second : List (String × Value)}
    (left : (first.map Prod.fst).Nodup) (right : (second.map Prod.fst).Nodup) :
    ofFields first = ofFields second ↔ ∀ key, first.lookup key = second.lookup key := by
  constructor
  · intro same key
    rw [← get?_ofFields_of_distinct left, same, get?_ofFields_of_distinct right]
  · intro same
    refine congrArg Value.object ((keyOrdered_ofFields first).ext (keyOrdered_ofFields second) ?_)
    intro key
    have read := get?_ofFields_of_distinct left key
    rw [same, ← get?_ofFields_of_distinct right key] at read
    exact read

/-! ## Values up to the order of keys -/

mutual

/-- No object repeats a key, at any depth. -/
def DistinctKeys : Value → Prop
  | .array items => DistinctKeysItems items
  | .object fields => (fields.map Prod.fst).Nodup ∧ DistinctKeysFields fields
  | _ => True

def DistinctKeysItems : List Value → Prop
  | [] => True
  | item :: items => DistinctKeys item ∧ DistinctKeysItems items

def DistinctKeysFields : List (String × Value) → Prop
  | [] => True
  | (_, value) :: fields => DistinctKeys value ∧ DistinctKeysFields fields

end

mutual

/-- The same value, up to the order of the keys of objects at every depth. -/
def Same : Value → Value → Prop
  | .array items, .array others => SameItems items others
  | .object fields, .object others =>
      SameFields fields others ∧ ∀ key ∈ others.map Prod.fst, key ∈ fields.map Prod.fst
  | .null, .null => True
  | .bool a, .bool b => a = b
  | .number a, .number b => a = b
  | .string a, .string b => a = b
  | _, _ => False

def SameItems : List Value → List Value → Prop
  | [], [] => True
  | item :: items, other :: others => Same item other ∧ SameItems items others
  | _, _ => False

/-- Each of the first fields is among the others, with the same value. -/
def SameFields : List (String × Value) → List (String × Value) → Prop
  | [], _ => True
  | (key, value) :: fields, others =>
      (∃ other, others.lookup key = some other ∧ Same value other) ∧ SameFields fields others

end

theorem distinctKeys_of_mem {fields : List (String × Value)} (distinct : DistinctKeysFields fields)
    {key : String} {value : Value} (member : (key, value) ∈ fields) : value.DistinctKeys := by
  induction fields with
  | nil => cases member
  | cons field rest ih =>
      obtain ⟨here, later⟩ := distinct
      rcases List.mem_cons.mp member with rfl | inRest
      · exact here
      · exact ih later inRest

theorem mem_of_lookup {fields : List (String × Value)} {key : String} {value : Value}
    (found : fields.lookup key = some value) : (key, value) ∈ fields := by
  obtain ⟨before, after, rfl, -⟩ := List.lookup_eq_some_iff.mp found
  exact List.mem_append_right _ (List.mem_cons_self ..)

theorem lookup_eq_some_iff_mem {fields : List (String × Value)}
    (distinct : (fields.map Prod.fst).Nodup) {key : String} {value : Value} :
    fields.lookup key = some value ↔ (key, value) ∈ fields := by
  refine ⟨mem_of_lookup, fun member => ?_⟩
  cases found : fields.lookup key with
  | none =>
      have missed := List.lookup_eq_none_iff.mp found (key, value) member
      simp at missed
  | some other =>
      have pair := List.inj_on_of_nodup_map distinct (mem_of_lookup found) member rfl
      rw [(Prod.mk.inj pair).2]

theorem canonicalizeFields_eq_map (fields : List (String × Value)) :
    canonicalizeFields fields = fields.map fun field => (field.1, canonicalizeValue field.2) := by
  induction fields with
  | nil => rfl
  | cons field rest ih =>
      obtain ⟨key, value⟩ := field
      rw [canonicalizeFields, ih, List.map_cons]

theorem keys_canonicalizeFields (fields : List (String × Value)) :
    (canonicalizeFields fields).map Prod.fst = fields.map Prod.fst := by
  rw [canonicalizeFields_eq_map, List.map_map]
  rfl

theorem lookup_canonicalizeFields (fields : List (String × Value)) (key : String) :
    (canonicalizeFields fields).lookup key = (fields.lookup key).map canonicalizeValue := by
  induction fields with
  | nil => rfl
  | cons field rest ih =>
      obtain ⟨other, value⟩ := field
      rw [canonicalizeFields, List.lookup_cons, List.lookup_cons, ih]
      cases key == other <;> rfl

/-- Two lists of fields say the same of every key when the first says what the second does
of its own keys, and the second has no others. -/
theorem lookup_eq_iff {first second : List (String × Value)}
    (distinct : (first.map Prod.fst).Nodup) :
    (∀ key, first.lookup key = second.lookup key) ↔
      (∀ field ∈ first, second.lookup field.1 = some field.2) ∧
        ∀ key ∈ second.map Prod.fst, key ∈ first.map Prod.fst := by
  constructor
  · intro same
    constructor
    · intro field member
      rw [← same]
      exact (lookup_eq_some_iff_mem distinct).mpr member
    · intro key member
      obtain ⟨field, listed, rfl⟩ := List.mem_map.mp member
      cases found : second.lookup field.1 with
      | none =>
          have missed := List.lookup_eq_none_iff.mp found field listed
          simp at missed
      | some value =>
          rw [← same] at found
          exact List.mem_map.mpr ⟨_, mem_of_lookup found, rfl⟩
  · rintro ⟨each, within⟩ key
    cases found : first.lookup key with
    | some value => exact (each (key, value) (mem_of_lookup found)).symm
    | none =>
        cases held : second.lookup key with
        | none => rfl
        | some value =>
            have listed := within key (List.mem_map.mpr ⟨_, mem_of_lookup held, rfl⟩)
            obtain ⟨field, member, rfl⟩ := List.mem_map.mp listed
            have missed := List.lookup_eq_none_iff.mp found field member
            simp at missed

mutual

/-- The canonical form is a normal form for values up to the order of keys. -/
theorem canonicalizeValue_eq_iff : ∀ {a b : Value}, a.DistinctKeys → b.DistinctKeys →
    (canonicalizeValue a = canonicalizeValue b ↔ a.Same b)
  | .array items, .array others, left, right => by
      rw [canonicalizeValue, canonicalizeValue, Value.array.injEq, Same]
      exact canonicalizeItems_eq_iff left right
  | .object fields, .object others, left, right => by
      rw [canonicalizeValue, canonicalizeValue, Same, ofFields_eq_iff
          (by rw [keys_canonicalizeFields]; exact left.1)
          (by rw [keys_canonicalizeFields]; exact right.1),
        lookup_eq_iff (by rw [keys_canonicalizeFields]; exact left.1), keys_canonicalizeFields,
        keys_canonicalizeFields]
      exact and_congr (canonicalizeFields_within_iff left.2 right.2) Iff.rfl
  | .null, .null, _, _ => by simp [canonicalizeValue, Same]
  | .bool _, .bool _, _, _ => by simp [canonicalizeValue, Same]
  | .number _, .number _, _, _ => by simp [canonicalizeValue, Same]
  | .string _, .string _, _, _ => by simp [canonicalizeValue, Same]
  | .null, .bool _, _, _ | .null, .number _, _, _ | .null, .string _, _, _ | .null, .array _, _, _
  | .null, .object _, _, _ | .bool _, .null, _, _ | .bool _, .number _, _, _
  | .bool _, .string _, _, _ | .bool _, .array _, _, _ | .bool _, .object _, _, _
  | .number _, .null, _, _ | .number _, .bool _, _, _ | .number _, .string _, _, _
  | .number _, .array _, _, _ | .number _, .object _, _, _ | .string _, .null, _, _
  | .string _, .bool _, _, _ | .string _, .number _, _, _ | .string _, .array _, _, _
  | .string _, .object _, _, _ | .array _, .null, _, _ | .array _, .bool _, _, _
  | .array _, .number _, _, _ | .array _, .string _, _, _ | .array _, .object _, _, _
  | .object _, .null, _, _ | .object _, .bool _, _, _ | .object _, .number _, _, _
  | .object _, .string _, _, _ | .object _, .array _, _, _ => by
      simp [canonicalizeValue, Same, ofFields]

theorem canonicalizeItems_eq_iff : ∀ {items others : List Value}, DistinctKeysItems items →
    DistinctKeysItems others →
    (canonicalizeItems items = canonicalizeItems others ↔ SameItems items others)
  | [], [], _, _ => by simp [canonicalizeItems, SameItems]
  | [], _ :: _, _, _ => by simp [canonicalizeItems, SameItems]
  | _ :: _, [], _, _ => by simp [canonicalizeItems, SameItems]
  | item :: items, other :: others, left, right => by
      rw [canonicalizeItems, canonicalizeItems, List.cons.injEq, SameItems,
        canonicalizeValue_eq_iff left.1 right.1, canonicalizeItems_eq_iff left.2 right.2]

theorem canonicalizeFields_within_iff : ∀ {fields others : List (String × Value)},
    DistinctKeysFields fields → DistinctKeysFields others →
    ((∀ field ∈ canonicalizeFields fields,
      (canonicalizeFields others).lookup field.1 = some field.2) ↔ SameFields fields others)
  | [], others, _, _ => by simp [canonicalizeFields, SameFields]
  | (key, value) :: fields, others, left, right => by
      rw [canonicalizeFields, List.forall_mem_cons, SameFields,
        canonicalizeFields_within_iff left.2 right, lookup_canonicalizeFields,
        Option.map_eq_some_iff]
      refine and_congr (exists_congr fun other => and_congr_right fun found => ?_) Iff.rfl
      rw [eq_comm]
      exact canonicalizeValue_eq_iff left.1 (distinctKeys_of_mem right (mem_of_lookup found))

end

end Value

end KasGraph.Json
