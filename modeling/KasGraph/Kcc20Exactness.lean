import KasGraph.EventTypes
import KasGraph.FingerprintMatching
import KasGraph.Kcc20Operation

set_option autoImplicit false

/-! From the script of a receipt to the operation of a spend: the state read back from a
payload is the one in the script, and a spend is classified by exact sums and by the sets
of bound controllers. -/

namespace KasGraph

open Json (Value)

/-! ## The state in a script -/

theorem payloadToJson_get {payload : OrderedMap String (List UInt8)} {name : String}
    {bytes : List UInt8} (held : payload[name]? = some bytes) :
    (payloadToJson payload).get? name = some (.string (hexEncode bytes)) := by
  cases found : (payloadToJson payload).get? name with
  | none =>
      have absent := List.lookup_eq_none_iff.mp found (name, .string (hexEncode bytes))
        (mem_payloadToJson.mpr ⟨bytes, held, rfl⟩)
      exact absurd absent (by rw [bne_self_eq_false]; exact Bool.false_ne_true)
  | some value =>
      obtain ⟨other, also, same⟩ := mem_payloadToJson.mp (Value.mem_of_lookup found)
      cases held.symm.trans also
      exact congrArg some same

theorem kcc20_labels : (kcc20AssetFingerprint.headMaskedWindows.map (·.field)).Nodup := by
  decide

theorem kcc20_head_length : kcc20AssetFingerprint.head.length = 64 := by
  decide

theorem kcc20_field {script : List UInt8} {fields : OrderedMap String (List UInt8)}
    (extracted : kcc20AssetFingerprint.matchAndExtract script = some fields) {w : MaskedWindow}
    (listed : w ∈ kcc20AssetFingerprint.headMaskedWindows) :
    (payloadToJson fields).get? w.field = some (.string (hexEncode (w.slice script))) := by
  obtain ⟨-, read⟩ := Option.ite_none_right_eq_some.mp extracted
  cases read
  exact payloadToJson_get ((get_extractWindows kcc20_labels script w.field (w.slice script)).mpr
    ⟨w, listed, rfl, rfl⟩)

theorem slice_one {w : MaskedWindow} {script : List UInt8} {b : UInt8} (single : w.len = 1)
    (held : script[w.offset]? = some b) : w.slice script = [b] := by
  refine List.ext_getElem? fun i => ?_
  cases i with
  | zero => rw [MaskedWindow.getElem?_slice (by omega), Nat.add_zero, held, List.getElem?_cons_zero]
  | succ i =>
      have short : (w.slice script).length ≤ 1 := by
        rw [MaskedWindow.slice, List.length_take, single]
        exact Nat.min_le_left ..
      rw [List.getElem?_eq_none (by omega), List.getElem?_cons_succ, List.getElem?_nil]

/-- The receipt a matching script holds. -/
def scriptReceipt (script : List UInt8) (identifierType minter : UInt8) : Kcc20ReceiptState where
  ownerIdentifier := hexEncode ((script.drop 2).take 32)
  identifierType := identifierType
  amount := leValue ((script.drop 37).take 8)
  isMinter := minter != 0

theorem fromPayload_of_script {script : List UInt8} {fields : OrderedMap String (List UInt8)}
    (extracted : kcc20AssetFingerprint.matchAndExtract script = some fields)
    {identifierType minter : UInt8} (typed : script[35]? = some identifierType)
    (flagged : script[46]? = some minter) :
    Kcc20ReceiptState.fromPayload (payloadToJson fields) =
      .ok (scriptReceipt script identifierType minter) := by
  have owner := kcc20_field extracted (w := { field := "owner_identifier", offset := 2, len := 32 })
    (by decide)
  have identifier := kcc20_field extracted
    (w := { field := "identifier_type", offset := 35, len := 1 }) (by decide)
  have amount := kcc20_field extracted (w := { field := "amount", offset := 37, len := 8 })
    (by decide)
  have flag := kcc20_field extracted (w := { field := "is_minter", offset := 46, len := 1 })
    (by decide)
  rw [slice_one rfl typed] at identifier
  rw [slice_one rfl flagged] at flag
  have short :
      (MaskedWindow.slice { field := "amount", offset := 37, len := 8 } script).length ≤ 8 := by
    rw [MaskedWindow.slice, List.length_take]
    exact Nat.min_le_left ..
  have ownerRead : hexStr (payloadToJson fields) "owner_identifier" =
      .ok (hexEncode ((script.drop 2).take 32)) := by
    simp only [hexStr]
    rw [owner]
    rfl
  simp only [Kcc20ReceiptState.fromPayload, ownerRead, hexByte_of_hex identifier,
    hexLeU64_of_hex amount short, hexByte_of_hex flag, bind, Except.bind]
  rfl

/-! ## Sums and bindings -/

/-- A receipt read from some payload. -/
def Kcc20ReceiptState.Decoded (r : Kcc20ReceiptState) : Prop :=
  ∃ payload, Kcc20ReceiptState.fromPayload payload = .ok r

/-- The summed amount, without bound. -/
def exactSum (receipts : List Kcc20ReceiptState) : Nat := (receipts.map (·.amount)).sum

/-- The controllers that minter receipts are bound to. -/
def boundControllers (receipts : List Kcc20ReceiptState) : Set String :=
  {owner | ∃ r ∈ receipts, r.isMinter = true ∧ r.identifierType = identifierCovenantId ∧
    r.ownerIdentifier = owner}

theorem exactSum_le {receipts : List Kcc20ReceiptState}
    (small : ∀ r ∈ receipts, r.amount < 2 ^ 64) :
    exactSum receipts ≤ receipts.length * (2 ^ 64 - 1) := by
  refine (List.sum_le_card_nsmul _ (2 ^ 64 - 1) fun amount member => ?_).trans_eq ?_
  · obtain ⟨r, listed, rfl⟩ := List.mem_map.mp member
    exact Nat.le_sub_one_of_lt (small r listed)
  · rw [List.length_map, smul_eq_mul]

/-- The fold saturates only where the exact sum does not fit. -/
theorem foldl_sumAmounts (receipts : List Kcc20ReceiptState) (acc : Nat)
    (room : acc + exactSum receipts ≤ 2 ^ 128 - 1) :
    receipts.foldl (fun acc r => min (acc + r.amount) (2 ^ 128 - 1)) acc =
      acc + exactSum receipts := by
  induction receipts generalizing acc with
  | nil => rfl
  | cons r rest ih =>
      have split : exactSum (r :: rest) = r.amount + exactSum rest := List.sum_cons
      rw [split] at room ⊢
      rw [List.foldl_cons, min_eq_left (by omega), ih _ (by omega), Nat.add_assoc]

theorem sumAmounts_eq {receipts : List Kcc20ReceiptState}
    (small : ∀ r ∈ receipts, r.amount < 2 ^ 64) (few : receipts.length < 2 ^ 64) :
    sumAmounts receipts = exactSum receipts := by
  have bound : exactSum receipts ≤ 2 ^ 128 - 1 := by
    calc exactSum receipts
        ≤ receipts.length * (2 ^ 64 - 1) := exactSum_le small
      _ ≤ (2 ^ 64 - 1) * (2 ^ 64 - 1) := Nat.mul_le_mul_right _ (by omega)
      _ ≤ 2 ^ 128 - 1 := by norm_num
  rw [sumAmounts, foldl_sumAmounts receipts 0 (by omega), Nat.zero_add]

theorem coe_controllerBindings (receipts : List Kcc20ReceiptState) :
    (controllerBindings receipts : Set String) = boundControllers receipts := by
  ext owner
  simp only [controllerBindings, List.coe_toFinset, List.mem_map, List.mem_filter,
    Kcc20ReceiptState.isControllerBinding, Bool.and_eq_true, beq_iff_eq, Set.mem_ofPred_eq,
    boundControllers, and_assoc]

/-! ## Classification -/

/-- What the operation of a spend says of the exact sums and the bound controllers. -/
structure ClassifiedExactly (prev next : List Kcc20ReceiptState) (op : Kcc20Operation) :
    Prop where
  mint : op = .mint ↔ exactSum prev < exactSum next
  burn : op = .burn ↔ exactSum next < exactSum prev
  rotate : op = .rotateController ↔
    exactSum prev = exactSum next ∧ boundControllers prev ≠ boundControllers next
  transfer : op = .transfer ↔
    exactSum prev = exactSum next ∧ boundControllers prev = boundControllers next

theorem classifiedExactly {prev next : List Kcc20ReceiptState}
    (before : sumAmounts prev = exactSum prev) (after : sumAmounts next = exactSum next) :
    ClassifiedExactly prev next (classifyKcc20Operation prev next) := by
  have bindings : controllerBindings prev = controllerBindings next ↔
      boundControllers prev = boundControllers next := by
    rw [← Finset.coe_inj, coe_controllerBindings, coe_controllerBindings]
  unfold classifyKcc20Operation
  rw [before, after]
  rcases lt_trichotomy (exactSum prev) (exactSum next) with risen | level | fallen
  · rw [Nat.compare_eq_gt.mpr risen]
    constructor <;> simp only [reduceCtorEq, true_iff, false_iff] <;> omega
  · rw [level, Nat.compare_eq_eq.mpr rfl]
    by_cases same : boundControllers prev = boundControllers next
    · simp only [bindings.mpr same, ne_eq, not_true_eq_false, ↓reduceIte]
      constructor <;> simp [level, same]
    · have rebound : controllerBindings prev ≠ controllerBindings next := mt bindings.mp same
      simp only [rebound, ne_eq, not_false_eq_true, ↓reduceIte]
      constructor <;> simp [level, same]
  · rw [Nat.compare_eq_lt.mpr fallen]
    constructor <;> simp only [reduceCtorEq, true_iff, false_iff] <;> omega

theorem classify_perm {prev next reorderedPrev reorderedNext : List Kcc20ReceiptState}
    (before : sumAmounts prev = exactSum prev) (after : sumAmounts next = exactSum next)
    (alsoBefore : sumAmounts reorderedPrev = exactSum reorderedPrev)
    (alsoAfter : sumAmounts reorderedNext = exactSum reorderedNext)
    (left : reorderedPrev.Perm prev) (right : reorderedNext.Perm next) :
    classifyKcc20Operation reorderedPrev reorderedNext = classifyKcc20Operation prev next := by
  have sumPrev : exactSum reorderedPrev = exactSum prev := (left.map _).sum_eq
  have sumNext : exactSum reorderedNext = exactSum next := (right.map _).sum_eq
  have boundPrev : controllerBindings reorderedPrev = controllerBindings prev :=
    List.toFinset_eq_of_perm _ _ ((left.filter _).map _)
  have boundNext : controllerBindings reorderedNext = controllerBindings next :=
    List.toFinset_eq_of_perm _ _ ((right.filter _).map _)
  unfold classifyKcc20Operation
  rw [alsoBefore, alsoAfter, sumPrev, sumNext, boundPrev, boundNext, before, after]

/-- A matching script is read back as the receipt it holds, and spends of receipts so read
are classified by their exact sums and bound controllers, in any order of the receipts. -/
theorem kcc20_pipeline_exact :
    (∀ script : List UInt8, kcc20AssetFingerprint.isMatch script = true →
      ∃ fields identifierType minter,
        kcc20AssetFingerprint.matchAndExtract script = some fields ∧
        script[35]? = some identifierType ∧ script[46]? = some minter ∧
        Kcc20ReceiptState.fromPayload (payloadToJson fields) =
          .ok (scriptReceipt script identifierType minter)) ∧
    (∀ prev next : List Kcc20ReceiptState, (∀ r ∈ prev, r.Decoded) → (∀ r ∈ next, r.Decoded) →
      prev.length < 2 ^ 64 → next.length < 2 ^ 64 →
        ClassifiedExactly prev next (classifyKcc20Operation prev next) ∧
        ∀ reorderedPrev reorderedNext : List Kcc20ReceiptState, reorderedPrev.Perm prev →
          reorderedNext.Perm next →
            classifyKcc20Operation reorderedPrev reorderedNext =
              classifyKcc20Operation prev next) := by
  constructor
  · intro script matched
    have level := AnchoredFingerprint.level_of_isMatch matched
    rw [kcc20_head_length] at level
    have typed : script[35]? = some script[35] := List.getElem?_eq_getElem (by omega)
    have flagged : script[46]? = some script[46] := List.getElem?_eq_getElem (by omega)
    have extracted : kcc20AssetFingerprint.matchAndExtract script =
        some (extractWindows script kcc20AssetFingerprint.headMaskedWindows) := if_pos matched
    exact ⟨_, script[35], script[46], extracted, typed, flagged,
      fromPayload_of_script extracted typed flagged⟩
  · intro prev next decodedPrev decodedNext fewPrev fewNext
    have exact : ∀ receipts : List Kcc20ReceiptState, (∀ r ∈ receipts, r.Decoded) →
        receipts.length < 2 ^ 64 → sumAmounts receipts = exactSum receipts := by
      intro receipts decoded few
      refine sumAmounts_eq (fun r member => ?_) few
      obtain ⟨payload, read⟩ := decoded r member
      exact Kcc20ReceiptState.amount_lt read
    have before := exact prev decodedPrev fewPrev
    have after := exact next decodedNext fewNext
    refine ⟨classifiedExactly before after, fun reorderedPrev reorderedNext left right => ?_⟩
    have alsoBefore := exact reorderedPrev
      (fun r member => decodedPrev r (left.mem_iff.mp member)) (left.length_eq ▸ fewPrev)
    have alsoAfter := exact reorderedNext
      (fun r member => decodedNext r (right.mem_iff.mp member)) (right.length_eq ▸ fewNext)
    exact classify_perm before after alsoBefore alsoAfter left right

end KasGraph
