import KasGraph.Detectors

set_option autoImplicit false

/-! Matching and extraction by a valid fingerprint: what a match says of the bytes of a
script, and that the bytes under the windows are all that it leaves open. -/

namespace KasGraph

/-! ## Validation -/

inductive FingerprintError where
  | windowOutOfBounds (field : String) (offset len scriptLen : Nat)
  | windowsOverlap (a b : String)
  | tooFewSamples (count : Nat)
  | anchorsOverlap (headLen tailLen minLen : Nat)
  deriving DecidableEq, Repr

/-- `offset + len` in the machine's word, unless it overflows. -/
def MaskedWindow.stop? (w : MaskedWindow) : Option Nat :=
  if w.offset + w.len < 2 ^ 64 then some (w.offset + w.len) else none

/-- Every window ends within the script; nothing where an addition overflows. -/
def checkBounds (scriptLen : Nat) : List MaskedWindow → Option (Except FingerprintError Unit)
  | [] => some (.ok ())
  | w :: rest => do
      let stop ← w.stop?
      if stop > scriptLen then
        return .error (.windowOutOfBounds w.field w.offset w.len scriptLen)
      else
        checkBounds scriptLen rest

def MaskedWindow.overlaps (a b : MaskedWindow) : Bool :=
  decide (a.offset < b.offset + b.len ∧ b.offset < a.offset + a.len)

/-- No window overlaps a later one. -/
def checkOverlaps : List MaskedWindow → Except FingerprintError Unit
  | [] => .ok ()
  | a :: rest =>
      match rest.find? (a.overlaps ·) with
      | some b => .error (.windowsOverlap a.field b.field)
      | none => checkOverlaps rest

/-- Both checks, in the order they are made. -/
def validateWindows (windows : List MaskedWindow) (scriptLen : Nat) :
    Option (Except FingerprintError Unit) := do
  let bounds ← checkBounds scriptLen windows
  return bounds.bind fun _ => checkOverlaps windows

def Fingerprint.validate (f : Fingerprint) : Option (Except FingerprintError Unit) :=
  validateWindows f.maskedWindows f.bytes.length

def AnchoredFingerprint.validate (f : AnchoredFingerprint) :
    Option (Except FingerprintError Unit) :=
  validateWindows f.headMaskedWindows f.head.length

/-- Windows that lie within a script and do not overlap. -/
structure ValidWindows (windows : List MaskedWindow) (scriptLen : Nat) : Prop where
  representable : ∀ w ∈ windows, w.offset + w.len < 2 ^ 64
  within : ∀ w ∈ windows, w.offset + w.len ≤ scriptLen
  apart : windows.Pairwise fun a b => a.overlaps b = false

theorem checkBounds_cons {w : MaskedWindow} (small : w.offset + w.len < 2 ^ 64)
    (rest : List MaskedWindow) (scriptLen : Nat) :
    checkBounds scriptLen (w :: rest) = if w.offset + w.len > scriptLen then
      some (.error (.windowOutOfBounds w.field w.offset w.len scriptLen))
      else checkBounds scriptLen rest := by
  have read : w.stop? = some (w.offset + w.len) := if_pos small
  rw [checkBounds, read]
  rfl

theorem checkBounds_ok_iff {windows : List MaskedWindow} {scriptLen : Nat} :
    checkBounds scriptLen windows = some (.ok ()) ↔
      ∀ w ∈ windows, w.offset + w.len < 2 ^ 64 ∧ w.offset + w.len ≤ scriptLen := by
  induction windows with
  | nil => exact ⟨fun _ w member => absurd member List.not_mem_nil, fun _ => rfl⟩
  | cons w rest ih =>
      rw [List.forall_mem_cons, ← ih]
      by_cases small : w.offset + w.len < 2 ^ 64
      · rw [checkBounds_cons small]
        by_cases fits : w.offset + w.len ≤ scriptLen
        · rw [if_neg (Nat.not_lt.mpr fits)]
          exact ⟨fun rest => ⟨⟨small, fits⟩, rest⟩, And.right⟩
        · rw [if_pos (Nat.not_le.mp fits), Option.some.injEq]
          simp only [reduceCtorEq, fits, and_false, false_and]
      · have overflow : w.stop? = none := if_neg small
        rw [checkBounds, overflow]
        simp only [small, Option.bind_eq_bind, Option.bind_none, reduceCtorEq, false_and]

/-- Windows whose ends are representable overflow nowhere. -/
theorem checkBounds_ne_none {windows : List MaskedWindow} {scriptLen : Nat}
    (small : ∀ w ∈ windows, w.offset + w.len < 2 ^ 64) : checkBounds scriptLen windows ≠ none := by
  induction windows with
  | nil => exact Option.some_ne_none _
  | cons w rest ih =>
      have later := ih fun other member => small other (List.mem_cons_of_mem _ member)
      rw [checkBounds_cons (small w (List.mem_cons_self ..))]
      by_cases past : w.offset + w.len > scriptLen
      · rw [if_pos past]
        exact Option.some_ne_none _
      · rw [if_neg past]
        exact later

theorem checkOverlaps_ok_iff {windows : List MaskedWindow} :
    checkOverlaps windows = .ok () ↔ windows.Pairwise fun a b => a.overlaps b = false := by
  induction windows with
  | nil => exact ⟨fun _ => List.Pairwise.nil, fun _ => rfl⟩
  | cons a rest ih =>
      rw [List.pairwise_cons, ← ih, checkOverlaps]
      cases found : rest.find? (a.overlaps ·) with
      | some b =>
          have overlap := List.find?_some found
          have member := List.mem_of_find?_eq_some found
          simp only [reduceCtorEq, false_iff, not_and]
          intro apart
          exact absurd overlap (by rw [apart b member]; exact Bool.false_ne_true)
      | none =>
          have apart : ∀ b ∈ rest, a.overlaps b = false := by
            simpa using List.find?_eq_none.mp found
          exact ⟨fun rest => ⟨apart, rest⟩, And.right⟩

theorem validateWindows_ne_none {windows : List MaskedWindow} {scriptLen : Nat}
    (small : ∀ w ∈ windows, w.offset + w.len < 2 ^ 64) :
    validateWindows windows scriptLen ≠ none := by
  unfold validateWindows
  cases bounds : checkBounds scriptLen windows with
  | none => exact absurd bounds (checkBounds_ne_none small)
  | some result => exact Option.some_ne_none _

theorem validateWindows_ok_iff {windows : List MaskedWindow} {scriptLen : Nat} :
    validateWindows windows scriptLen = some (.ok ()) ↔ ValidWindows windows scriptLen := by
  have both : validateWindows windows scriptLen = some (.ok ()) ↔
      checkBounds scriptLen windows = some (.ok ()) ∧ checkOverlaps windows = .ok () := by
    unfold validateWindows
    cases checkBounds scriptLen windows with
    | none => simp
    | some bounds =>
        cases bounds with
        | error e => simp [Except.bind]
        | ok u => simp [Except.bind]
  rw [both, checkBounds_ok_iff, checkOverlaps_ok_iff]
  constructor
  · rintro ⟨bounds, apart⟩
    exact ⟨fun w member => (bounds w member).1, fun w member => (bounds w member).2, apart⟩
  · intro valid
    exact ⟨fun w member => ⟨valid.representable w member, valid.within w member⟩, valid.apart⟩

/-! ## Matching -/

/-- Two scripts have the same bytes outside the windows. -/
def SameOutside (windows : List MaskedWindow) (expected script : List UInt8) : Prop :=
  ∀ i < expected.length, (∀ w ∈ windows, w.covers i = false) → script[i]? = expected[i]?

theorem any_covers_eq_false {windows : List MaskedWindow} {i : Nat} :
    windows.any (·.covers i) = false ↔ ∀ w ∈ windows, w.covers i = false := by
  rw [List.any_eq_false]
  exact forall_congr' fun w => forall_congr' fun _ => Bool.not_eq_true _ ▸ Iff.rfl

theorem Fingerprint.isMatch_iff (f : Fingerprint) (script : List UInt8) :
    f.isMatch script = true ↔
      script.length = f.bytes.length ∧ SameOutside f.maskedWindows f.bytes script := by
  unfold Fingerprint.isMatch
  rw [Bool.and_eq_true, beq_iff_eq]
  refine and_congr_right fun level => ?_
  refine (zip_all_iff (fun e a => beq_iff_eq.trans eq_comm) level.ge).trans ?_
  exact forall_congr' fun i => forall_congr' fun _ => imp_congr_left any_covers_eq_false

/-- A match is the head up to its windows, then anything, then the tail. -/
theorem AnchoredFingerprint.isMatch_iff (f : AnchoredFingerprint) (script : List UInt8) :
    f.isMatch script = true ↔
      ∃ front middle, script = front ++ middle ++ f.tail ∧ front.length = f.head.length ∧
        SameOutside f.headMaskedWindows f.head front := by
  unfold AnchoredFingerprint.isMatch
  rw [Bool.and_eq_true, Bool.and_eq_true, decide_eq_true_eq, beq_iff_eq]
  constructor
  · rintro ⟨⟨fits, each⟩, ends⟩
    have level : f.head.length ≤ script.length := by omega
    have same := (@zip_all_iff _ _ f.inHeadMask _ (fun e a => beq_iff_eq) level).mp each
    refine ⟨script.take f.head.length,
      (script.drop f.head.length).take (script.length - f.tail.length - f.head.length), ?_, ?_, ?_⟩
    · have rest : (script.drop f.head.length).drop
          (script.length - f.tail.length - f.head.length) = f.tail := by
        have start : f.head.length + (script.length - f.tail.length - f.head.length) =
            script.length - f.tail.length := by omega
        rw [List.drop_drop, start]
        exact ends
      nth_rewrite 1 [← List.take_append_drop f.head.length script]
      nth_rewrite 1 [← List.take_append_drop (script.length - f.tail.length - f.head.length)
        (script.drop f.head.length)]
      rw [rest, List.append_assoc]
    · rw [List.length_take]
      omega
    · intro i within kept
      rw [List.getElem?_take_of_lt within]
      exact same i within (any_covers_eq_false.mpr kept)
  · rintro ⟨front, middle, rfl, level, same⟩
    have total : (front ++ middle ++ f.tail).length =
        f.head.length + middle.length + f.tail.length := by
      rw [List.length_append, List.length_append, level]
    refine ⟨⟨by omega, ?_⟩, ?_⟩
    · refine (@zip_all_iff _ _ f.inHeadMask _ (fun e a => beq_iff_eq) (by omega)).mpr ?_
      intro i within kept
      rw [List.append_assoc, List.getElem?_append_left (by omega)]
      exact same i within (any_covers_eq_false.mp kept)
    · have start : (front ++ middle ++ f.tail).length - f.tail.length =
          (front ++ middle).length := by
        rw [List.length_append, Nat.add_sub_cancel]
      rw [start, List.drop_left]

/-! ## Extraction -/

/-- The bytes under a window. -/
def MaskedWindow.slice (w : MaskedWindow) (script : List UInt8) : List UInt8 :=
  (script.drop w.offset).take w.len

theorem MaskedWindow.length_slice {w : MaskedWindow} {script : List UInt8}
    (within : w.offset + w.len ≤ script.length) : (w.slice script).length = w.len := by
  rw [slice, List.length_take, List.length_drop]
  omega

theorem MaskedWindow.getElem?_slice {w : MaskedWindow} {script : List UInt8} {i : Nat}
    (inside : i < w.len) : (w.slice script)[i]? = script[w.offset + i]? := by
  rw [slice, List.getElem?_take_of_lt inside, List.getElem?_drop]

/-- With one window for each field, the fields are exactly the bytes under their windows. -/
theorem get_extractWindows {windows : List MaskedWindow}
    (labels : (windows.map (·.field)).Nodup) (script : List UInt8) (name : String)
    (bytes : List UInt8) :
    (extractWindows script windows)[name]? = some bytes ↔
      ∃ w ∈ windows, w.field = name ∧ bytes = w.slice script := by
  have apart : (windows.map fun w => (w.field, w.slice script)).Pairwise
      fun a b => a.1 ≠ b.1 := by
    rw [List.pairwise_map]
    exact List.pairwise_map.mp labels
  rw [extractWindows_eq]
  refine (OrderedMap.get_insertEach_eq_some_iff ∅ apart
    (fun _ _ => Std.ExtTreeMap.getElem?_empty) name bytes).trans ?_
  rw [Std.ExtTreeMap.getElem?_empty, List.mem_map]
  simp only [reduceCtorEq, false_or, Prod.mk.injEq, eq_comm]

/-- A window's bytes are all that extraction reads. -/
theorem extractWindows_congr {windows : List MaskedWindow} {script other : List UInt8}
    (same : ∀ w ∈ windows, w.slice script = w.slice other) :
    extractWindows script windows = extractWindows other windows := by
  rw [extractWindows_eq, extractWindows_eq]
  congr 1
  exact List.map_congr_left fun w member => congrArg (Prod.mk w.field) (same w member)

/-! ## Writing the fields back -/

/-- Put bytes in the place of those from an offset on. -/
def overwrite (bytes : List UInt8) (offset : Nat) (value : List UInt8) : List UInt8 :=
  bytes.take offset ++ value ++ bytes.drop (offset + value.length)

/-- Write the extracted fields over their windows. -/
def writeBack (canonical : List UInt8) (windows : List MaskedWindow)
    (fields : OrderedMap String (List UInt8)) : List UInt8 :=
  windows.foldl (fun bytes w => fields[w.field]?.elim bytes (overwrite bytes w.offset)) canonical

theorem length_overwrite {bytes value : List UInt8} {offset : Nat}
    (fits : offset + value.length ≤ bytes.length) :
    (overwrite bytes offset value).length = bytes.length := by
  rw [overwrite, List.length_append, List.length_append, List.length_take, List.length_drop]
  omega

theorem getElem?_overwrite_inside {bytes value : List UInt8} {offset i : Nat}
    (fits : offset + value.length ≤ bytes.length) (lower : offset ≤ i)
    (upper : i < offset + value.length) :
    (overwrite bytes offset value)[i]? = value[i - offset]? := by
  have front : (bytes.take offset).length = offset := by
    rw [List.length_take]
    omega
  rw [overwrite, List.append_assoc, List.getElem?_append_right (by omega), front,
    List.getElem?_append_left (by omega)]

theorem getElem?_overwrite_outside {bytes value : List UInt8} {offset i : Nat}
    (fits : offset + value.length ≤ bytes.length)
    (outside : i < offset ∨ offset + value.length ≤ i) :
    (overwrite bytes offset value)[i]? = bytes[i]? := by
  have front : (bytes.take offset).length = offset := by
    rw [List.length_take]
    omega
  rw [overwrite, List.append_assoc]
  rcases outside with before | after
  · rw [List.getElem?_append_left (by omega), List.getElem?_take_of_lt before]
  · rw [List.getElem?_append_right (by omega), front, List.getElem?_append_right (by omega),
      List.getElem?_drop]
    congr 1
    omega

theorem covers_iff {w : MaskedWindow} {i : Nat} :
    w.covers i = true ↔ w.offset ≤ i ∧ i < w.offset + w.len := decide_eq_true_iff

/-- One window written back: its bytes are the script's, the others stand. -/
theorem getElem?_restore {bytes script : List UInt8} {w : MaskedWindow}
    (level : bytes.length = script.length) (within : w.offset + w.len ≤ script.length) (i : Nat) :
    (overwrite bytes w.offset (w.slice script))[i]? =
      if w.covers i then script[i]? else bytes[i]? := by
  have size := MaskedWindow.length_slice within
  have fits : w.offset + (w.slice script).length ≤ bytes.length := by omega
  by_cases covered : w.covers i = true
  · obtain ⟨lower, upper⟩ := covers_iff.mp covered
    rw [if_pos covered, getElem?_overwrite_inside fits lower (by omega),
      MaskedWindow.getElem?_slice (by omega)]
    congr 1
    omega
  · have outside : i < w.offset ∨ w.offset + (w.slice script).length ≤ i := by
      by_contra inside
      exact covered (covers_iff.mpr ⟨by omega, by omega⟩)
    rw [if_neg covered, getElem?_overwrite_outside fits outside]

/-- Every window written back: the bytes under the windows are the script's. -/
theorem getElem?_restoreEach {windows : List MaskedWindow} {script : List UInt8}
    {fields : OrderedMap String (List UInt8)} {bytes : List UInt8}
    (level : bytes.length = script.length)
    (within : ∀ w ∈ windows, w.offset + w.len ≤ script.length)
    (read : ∀ w ∈ windows, fields[w.field]? = some (w.slice script)) :
    (writeBack bytes windows fields).length = script.length ∧
      ∀ i : Nat, (writeBack bytes windows fields)[i]? =
        if windows.any (·.covers i) then script[i]? else bytes[i]? := by
  induction windows generalizing bytes with
  | nil => exact ⟨level, fun i => rfl⟩
  | cons w rest ih =>
      have first := within w (List.mem_cons_self ..)
      have size := MaskedWindow.length_slice first
      have step : writeBack bytes (w :: rest) fields =
          writeBack (overwrite bytes w.offset (w.slice script)) rest fields := by
        rw [writeBack, List.foldl_cons, read w (List.mem_cons_self ..)]
        rfl
      have kept : (overwrite bytes w.offset (w.slice script)).length = script.length := by
        rw [length_overwrite (by omega), level]
      obtain ⟨total, each⟩ := ih kept
        (fun other member => within other (List.mem_cons_of_mem _ member))
        (fun other member => read other (List.mem_cons_of_mem _ member))
      rw [step]
      refine ⟨total, fun i => ?_⟩
      rw [each i, getElem?_restore level first i, List.any_cons]
      cases w.covers i with
      | true => simp only [↓reduceIte, ite_self, Bool.true_or]
      | false => simp only [Bool.false_eq_true, ↓reduceIte, Bool.false_or]

/-! ## Exactness -/

/-- What a match gives: windows inside the script, and a field for each with its bytes. -/
structure ExtractedFrom (windows : List MaskedWindow) (script : List UInt8)
    (fields : OrderedMap String (List UInt8)) : Prop where
  inBounds : ∀ w ∈ windows, w.offset + w.len ≤ script.length
  exact : ∀ name bytes, fields[name]? = some bytes ↔
    ∃ w ∈ windows, w.field = name ∧ bytes = w.slice script

theorem ExtractedFrom.read {windows : List MaskedWindow} {script : List UInt8}
    {fields : OrderedMap String (List UInt8)} (extracted : ExtractedFrom windows script fields) :
    ∀ w ∈ windows, fields[w.field]? = some (w.slice script) :=
  fun w member => (extracted.exact w.field (w.slice script)).mpr ⟨w, member, rfl, rfl⟩

/-- Written back into canonical bytes that agree outside the windows, the fields restore
the script. -/
theorem ExtractedFrom.writeBack {windows : List MaskedWindow} {canonical script : List UInt8}
    {fields : OrderedMap String (List UInt8)} (extracted : ExtractedFrom windows script fields)
    (level : script.length = canonical.length) (same : SameOutside windows canonical script) :
    writeBack canonical windows fields = script := by
  obtain ⟨total, each⟩ := getElem?_restoreEach level.symm extracted.inBounds extracted.read
  refine List.ext_getElem? fun i => ?_
  rw [each i]
  cases covered : windows.any (·.covers i) with
  | true => rfl
  | false =>
      by_cases within : i < canonical.length
      · exact (same i within (any_covers_eq_false.mp covered)).symm
      · rw [List.getElem?_eq_none (by omega), List.getElem?_eq_none (by omega)]
        rfl

theorem slice_append {w : MaskedWindow} {front rest : List UInt8}
    (within : w.offset + w.len ≤ front.length) : w.slice (front ++ rest) = w.slice front := by
  refine List.ext_getElem? fun i => ?_
  by_cases inside : i < w.len
  · rw [MaskedWindow.getElem?_slice inside, MaskedWindow.getElem?_slice inside,
      List.getElem?_append_left (by omega)]
  · have level := MaskedWindow.length_slice within
    have also : (w.slice (front ++ rest)).length = w.len :=
      MaskedWindow.length_slice (by rw [List.length_append]; omega)
    rw [List.getElem?_eq_none (by omega), List.getElem?_eq_none (by omega)]

theorem Fingerprint.extracts {f : Fingerprint} {script : List UInt8}
    {fields : OrderedMap String (List UInt8)} (valid : f.validate = some (.ok ()))
    (labels : (f.maskedWindows.map (·.field)).Nodup)
    (extracted : f.matchAndExtract script = some fields) :
    ExtractedFrom f.maskedWindows script fields ∧
      writeBack f.bytes f.maskedWindows fields = script := by
  obtain ⟨matched, read⟩ := Option.ite_none_right_eq_some.mp extracted
  cases read
  obtain ⟨level, same⟩ := (f.isMatch_iff script).mp matched
  have windows := validateWindows_ok_iff.mp valid
  have exact : ExtractedFrom f.maskedWindows script (extractWindows script f.maskedWindows) :=
    ⟨fun w member => (windows.within w member).trans level.ge, get_extractWindows labels script⟩
  exact ⟨exact, exact.writeBack level same⟩

theorem AnchoredFingerprint.level_of_isMatch {f : AnchoredFingerprint} {script : List UInt8}
    (matched : f.isMatch script = true) : f.head.length ≤ script.length := by
  obtain ⟨front, middle, rfl, level, -⟩ := (f.isMatch_iff script).mp matched
  rw [List.length_append, List.length_append]
  omega

/-- The head of a matching script agrees with the canonical one outside the windows. -/
theorem AnchoredFingerprint.sameOutside_of_isMatch {f : AnchoredFingerprint}
    {script : List UInt8} (matched : f.isMatch script = true) :
    SameOutside f.headMaskedWindows f.head (script.take f.head.length) := by
  obtain ⟨front, middle, rfl, level, same⟩ := (f.isMatch_iff script).mp matched
  rw [← level, List.append_assoc, List.take_left]
  exact same

/-- Windows of the head are read from the head. -/
theorem AnchoredFingerprint.extractWindows_take {f : AnchoredFingerprint} {script : List UInt8}
    (valid : f.validate = some (.ok ())) (matched : f.isMatch script = true) :
    extractWindows script f.headMaskedWindows =
      extractWindows (script.take f.head.length) f.headMaskedWindows := by
  have windows := validateWindows_ok_iff.mp valid
  refine extractWindows_congr fun w member => ?_
  have within : w.offset + w.len ≤ (script.take f.head.length).length := by
    rw [List.length_take]
    exact (windows.within w member).trans (le_min le_rfl (level_of_isMatch matched))
  rw [← slice_append within, List.take_append_drop]

theorem AnchoredFingerprint.extracts {f : AnchoredFingerprint} {script : List UInt8}
    {fields : OrderedMap String (List UInt8)} (valid : f.validate = some (.ok ()))
    (labels : (f.headMaskedWindows.map (·.field)).Nodup)
    (extracted : f.matchAndExtract script = some fields) :
    ExtractedFrom f.headMaskedWindows (script.take f.head.length) fields ∧
      writeBack f.head f.headMaskedWindows fields = script.take f.head.length := by
  obtain ⟨matched, read⟩ := Option.ite_none_right_eq_some.mp extracted
  cases read
  have windows := validateWindows_ok_iff.mp valid
  have level : (script.take f.head.length).length = f.head.length := by
    rw [List.length_take, min_eq_left (level_of_isMatch matched)]
  have exact : ExtractedFrom f.headMaskedWindows (script.take f.head.length)
      (extractWindows script f.headMaskedWindows) := by
    rw [extractWindows_take valid matched]
    exact ⟨fun w member => (windows.within w member).trans level.ge, get_extractWindows labels _⟩
  exact ⟨exact, exact.writeBack level (sameOutside_of_isMatch matched)⟩

/-- A valid fingerprint matches exactly the scripts of its length and bytes, the windows
left open, and extracts exactly those. A valid anchored one matches exactly its head, the
windows left open, before any middle and its tail, and extracts from the head alone. -/
theorem fingerprint_matching_exact :
    (∀ f : Fingerprint, f.validate = some (.ok ()) → (f.maskedWindows.map (·.field)).Nodup →
      ∀ script : List UInt8,
        (f.isMatch script = true ↔
          script.length = f.bytes.length ∧ SameOutside f.maskedWindows f.bytes script) ∧
        (f.matchAndExtract script = none ↔ f.isMatch script = false) ∧
        ∀ fields, f.matchAndExtract script = some fields →
          ExtractedFrom f.maskedWindows script fields ∧
            writeBack f.bytes f.maskedWindows fields = script) ∧
    (∀ f : AnchoredFingerprint, f.validate = some (.ok ()) → ∀ script : List UInt8,
        (f.isMatch script = true ↔
          ∃ front middle, script = front ++ middle ++ f.tail ∧
            front.length = f.head.length ∧ SameOutside f.headMaskedWindows f.head front) ∧
        (f.matchAndExtract script = none ↔ f.isMatch script = false) ∧
        ∀ fields, f.matchAndExtract script = some fields →
          f.head.length ≤ script.length ∧
          (∀ w ∈ f.headMaskedWindows, w.offset + w.len ≤ f.head.length) ∧
          (∀ other, f.isMatch other = true →
            other.take f.head.length = script.take f.head.length →
              f.matchAndExtract other = some fields) ∧
          ((f.headMaskedWindows.map (·.field)).Nodup →
            ExtractedFrom f.headMaskedWindows (script.take f.head.length) fields ∧
              writeBack f.head f.headMaskedWindows fields = script.take f.head.length)) := by
  refine ⟨fun f valid labels script => ⟨f.isMatch_iff script, ?_, ?_⟩,
    fun f valid script => ⟨f.isMatch_iff script, ?_, ?_⟩⟩
  · rw [Fingerprint.matchAndExtract, ite_eq_right_iff, ← Bool.not_eq_true]
    exact imp_congr_right fun _ => iff_of_false (Option.some_ne_none _) id
  · exact fun fields extracted => Fingerprint.extracts valid labels extracted
  · rw [AnchoredFingerprint.matchAndExtract, ite_eq_right_iff, ← Bool.not_eq_true]
    exact imp_congr_right fun _ => iff_of_false (Option.some_ne_none _) id
  · intro fields extracted
    obtain ⟨matched, read⟩ := Option.ite_none_right_eq_some.mp extracted
    refine ⟨AnchoredFingerprint.level_of_isMatch matched,
      (validateWindows_ok_iff.mp valid).within, fun other also heads => ?_,
      fun labels => AnchoredFingerprint.extracts valid labels extracted⟩
    refine Option.ite_none_right_eq_some.mpr ⟨also, ?_⟩
    rw [← read, AnchoredFingerprint.extractWindows_take valid also, heads,
      AnchoredFingerprint.extractWindows_take valid matched]

end KasGraph
