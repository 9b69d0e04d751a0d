import KasGraph.OrderedMap
import KasGraph.Json

set_option autoImplicit false

/-! Detectors. A detector matches the script of an output against a fingerprint
with masked windows and extracts the bytes under its windows. -/

namespace KasGraph

open Json (Value)

/-! ## Hex -/

private def hexChar (n : Nat) : Char :=
  if n < 10 then Char.ofNat (48 + n) else Char.ofNat (87 + n)

/-- `hex::encode`. -/
def hexEncode (bytes : List UInt8) : String :=
  String.ofList (bytes.flatMap fun b => [hexChar (b.toNat / 16), hexChar (b.toNat % 16)])

private theorem hexChar_inj {m n : Nat} (low : m < 16) (other : n < 16)
    (same : hexChar m = hexChar n) : m = n := by
  have distinct : ∀ a b : Fin 16, hexChar a = hexChar b → a = b := by decide
  exact congrArg Fin.val (distinct ⟨m, low⟩ ⟨n, other⟩ same)

theorem hexEncode_injective {first second : List UInt8}
    (same : hexEncode first = hexEncode second) : first = second := by
  have digits := String.ofList_inj.mp same
  clear same
  induction first generalizing second with
  | nil =>
      cases second with
      | nil => rfl
      | cons b rest => cases digits
  | cons a left ih =>
      cases second with
      | nil => cases digits
      | cons b right =>
          simp only [List.flatMap_cons, List.cons_append, List.nil_append, List.cons.injEq] at digits
          obtain ⟨high, low, rest⟩ := digits
          have below := a.toNat_lt
          have bound := b.toNat_lt
          have upper := hexChar_inj (by omega) (by omega) high
          have lower := hexChar_inj (by omega) (by omega) low
          have whole : a = b := UInt8.toNat_inj.mp (by omega)
          rw [whole, ih rest]

private def hexValue (c : Char) : Option Nat :=
  if '0' ≤ c ∧ c ≤ '9' then some (c.toNat - 48)
  else if 'a' ≤ c ∧ c ≤ 'f' then some (c.toNat - 87)
  else if 'A' ≤ c ∧ c ≤ 'F' then some (c.toNat - 55)
  else none

private def hexPairs : List Char → Option (List UInt8)
  | [] => some []
  | [_] => none
  | high :: low :: rest => do
      let h ← hexValue high
      let l ← hexValue low
      let bytes ← hexPairs rest
      return UInt8.ofNat (16 * h + l) :: bytes

/-- `hex::decode`. -/
def hexDecode (s : String) : Option (List UInt8) := hexPairs s.toList

private theorem hexValue_hexChar (n : Fin 16) : hexValue (hexChar n) = some n.val := by
  revert n
  decide

theorem hexDecode_hexEncode (bytes : List UInt8) : hexDecode (hexEncode bytes) = some bytes := by
  rw [hexDecode, hexEncode, String.toList_ofList]
  induction bytes with
  | nil => rfl
  | cons b rest ih =>
      have below := b.toNat_lt
      have high := hexValue_hexChar ⟨b.toNat / 16, by omega⟩
      have low := hexValue_hexChar ⟨b.toNat % 16, by omega⟩
      have whole : UInt8.ofNat (16 * (b.toNat / 16) + b.toNat % 16) = b := by
        rw [Nat.div_add_mod, UInt8.ofNat_toNat]
      rw [List.flatMap_cons, List.cons_append, List.cons_append, List.nil_append, hexPairs, high,
        low, ih]
      exact congrArg (fun first => some (first :: rest)) whole

/-! ## Fingerprints -/

structure MaskedWindow where
  field : String
  offset : Nat
  len : Nat
  deriving DecidableEq, Repr

def MaskedWindow.covers (w : MaskedWindow) (byteIndex : Nat) : Bool :=
  decide (byteIndex ≥ w.offset ∧ byteIndex < w.offset + w.len)

/-- The bytes under each window, by field. -/
def extractWindows (script : List UInt8) (windows : List MaskedWindow) :
    OrderedMap String (List UInt8) :=
  windows.foldl (fun out w => out.insert w.field ((script.drop w.offset).take w.len)) ∅

theorem extractWindows_eq (script : List UInt8) (windows : List MaskedWindow) :
    extractWindows script windows = OrderedMap.insertEach ∅
      (windows.map fun w => (w.field, (script.drop w.offset).take w.len)) := by
  rw [extractWindows, OrderedMap.insertEach, List.foldl_map]

/-- Two scripts agree at each position of the first that is not skipped. -/
theorem zip_all_iff {expected script : List UInt8} {skipped : Nat → Bool}
    {agrees : UInt8 → UInt8 → Bool} (equal : ∀ e a, agrees e a = true ↔ a = e)
    (level : expected.length ≤ script.length) :
    ((expected.zip script).zipIdx.all fun x => skipped x.2 || agrees x.1.1 x.1.2) = true ↔
      ∀ i < expected.length, skipped i = false → script[i]? = expected[i]? := by
  rw [List.all_eq_true]
  constructor
  · intro each i within kept
    have held := List.getElem?_eq_getElem within
    have read : script[i]? = some script[i] := List.getElem?_eq_getElem (by omega)
    have paired : (expected.zip script)[i]? = some (expected[i], script[i]) :=
      List.getElem?_zip_eq_some.mpr ⟨held, read⟩
    have checked := each ((expected[i], script[i]), i)
      (List.mem_zipIdx_iff_getElem?.mpr paired)
    simp only [kept, Bool.false_or] at checked
    rw [held, read, (equal _ _).mp checked]
  · rintro same ⟨⟨e, a⟩, i⟩ member
    obtain ⟨held, read⟩ := List.getElem?_zip_eq_some.mp (List.mem_zipIdx_iff_getElem?.mp member)
    have within : i < expected.length := (List.getElem?_eq_some_iff.mp held).1
    by_cases kept : skipped i = true
    · simp only [kept, Bool.true_or]
    · have equalBytes := same i within (by simpa using kept)
      rw [held, read] at equalBytes
      simp only [(equal e a).mpr (Option.some.inj equalBytes), Bool.or_true]

structure Fingerprint where
  bytes : List UInt8
  maskedWindows : List MaskedWindow

namespace Fingerprint

def inMask (f : Fingerprint) (byteIndex : Nat) : Bool :=
  f.maskedWindows.any (·.covers byteIndex)

/-- Same length, and the same byte at every position outside the masks. -/
def isMatch (f : Fingerprint) (script : List UInt8) : Bool :=
  script.length == f.bytes.length &&
    (f.bytes.zip script).zipIdx.all fun ((expected, actual), i) =>
      f.inMask i || expected == actual

def matchAndExtract (f : Fingerprint) (script : List UInt8) :
    Option (OrderedMap String (List UInt8)) :=
  if f.isMatch script then some (extractWindows script f.maskedWindows) else none

end Fingerprint

structure AnchoredFingerprint where
  head : List UInt8
  headMaskedWindows : List MaskedWindow
  tail : List UInt8

namespace AnchoredFingerprint

def inHeadMask (f : AnchoredFingerprint) (byteIndex : Nat) : Bool :=
  f.headMaskedWindows.any (·.covers byteIndex)

/-- The script starts with the head, outside the masks, and ends with the tail. -/
def isMatch (f : AnchoredFingerprint) (script : List UInt8) : Bool :=
  decide (f.head.length + f.tail.length ≤ script.length) &&
    ((f.head.zip script).zipIdx.all fun ((expected, actual), i) =>
      f.inHeadMask i || actual == expected) &&
    script.drop (script.length - f.tail.length) == f.tail

def matchAndExtract (f : AnchoredFingerprint) (script : List UInt8) :
    Option (OrderedMap String (List UInt8)) :=
  if f.isMatch script then some (extractWindows script f.headMaskedWindows) else none

end AnchoredFingerprint

inductive PatternMatcher where
  | exact (f : Fingerprint)
  | anchored (f : AnchoredFingerprint)

def PatternMatcher.matchAndExtract (m : PatternMatcher) (script : List UInt8) :
    Option (OrderedMap String (List UInt8)) :=
  match m with
  | .exact f => f.matchAndExtract script
  | .anchored f => f.matchAndExtract script

/-- The fields a matcher extracts. -/
def PatternMatcher.fields : PatternMatcher → List String
  | .exact f => f.maskedWindows.map (·.field)
  | .anchored f => f.headMaskedWindows.map (·.field)

theorem isSome_extractWindows {script : List UInt8} {windows : List MaskedWindow} {name : String} :
    (extractWindows script windows)[name]?.isSome = true ↔ name ∈ windows.map (·.field) := by
  rw [extractWindows_eq, Option.isSome_iff_ne_none, Ne, OrderedMap.get_insertEach_eq_none_iff]
  constructor
  · intro present
    by_contra absent
    refine present ⟨Std.ExtTreeMap.getElem?_empty, fun bytes member => absent ?_⟩
    obtain ⟨window, listed, same⟩ := List.mem_map.mp member
    exact List.mem_map.mpr ⟨window, listed, (Prod.mk.inj same).1⟩
  · rintro member ⟨-, absent⟩
    obtain ⟨window, listed, rfl⟩ := List.mem_map.mp member
    exact absent _ (List.mem_map.mpr ⟨window, listed, rfl⟩)

theorem extractWindows_of_absent {script : List UInt8} {windows : List MaskedWindow}
    {name : String} (absent : name ∉ windows.map (·.field)) :
    (extractWindows script windows)[name]? = none :=
  Option.not_isSome_iff_eq_none.mp (mt isSome_extractWindows.mp absent)

theorem PatternMatcher.matchAndExtract_of_absent {m : PatternMatcher} {script : List UInt8}
    {payload : OrderedMap String (List UInt8)} (extracted : m.matchAndExtract script = some payload)
    {name : String} (absent : name ∉ m.fields) : payload[name]? = none := by
  cases m with
  | exact f =>
      rw [← Option.some.inj (Option.ite_none_right_eq_some.mp extracted).2]
      exact extractWindows_of_absent absent
  | anchored f =>
      rw [← Option.some.inj (Option.ite_none_right_eq_some.mp extracted).2]
      exact extractWindows_of_absent absent

/-! ## Detector kinds -/

inductive DetectorKind where
  | openSilverOwnable
  | openSilverMultisig
  | openSilverTimeLock
  | openSilverVault
  | openSilverEscrowBilateral
  | openSilverEscrowMilestone
  | openSilverStreamingPayment
  | openSilverVesting
  | openSilverDeadMansSwitch
  | openSilverSocialRecovery
  | openSilverAtomicSwapHTLC
  | openSilverFreelancePayroll
  | kcc20Asset
  | kcc20OwnableController
  | kcc20PausableController
  | kcc20CappedController
  | kcc20VestingController
  | zkVerifiedComputation
  | zkPrivateAssetTransfer
  | zkVerifiedOracle
  | zkVerifiedOracleV2
  | zkProofStitchedMultiPattern
  | krc721Collection
  | krc721Nft
  | kasBondsBond
  deriving DecidableEq, Repr

/-- `format!("{:?}", kind)`. -/
def DetectorKind.debug : DetectorKind → String
  | .openSilverOwnable => "OpenSilverOwnable"
  | .openSilverMultisig => "OpenSilverMultisig"
  | .openSilverTimeLock => "OpenSilverTimeLock"
  | .openSilverVault => "OpenSilverVault"
  | .openSilverEscrowBilateral => "OpenSilverEscrowBilateral"
  | .openSilverEscrowMilestone => "OpenSilverEscrowMilestone"
  | .openSilverStreamingPayment => "OpenSilverStreamingPayment"
  | .openSilverVesting => "OpenSilverVesting"
  | .openSilverDeadMansSwitch => "OpenSilverDeadMansSwitch"
  | .openSilverSocialRecovery => "OpenSilverSocialRecovery"
  | .openSilverAtomicSwapHTLC => "OpenSilverAtomicSwapHTLC"
  | .openSilverFreelancePayroll => "OpenSilverFreelancePayroll"
  | .kcc20Asset => "KCC20Asset"
  | .kcc20OwnableController => "KCC20OwnableController"
  | .kcc20PausableController => "KCC20PausableController"
  | .kcc20CappedController => "KCC20CappedController"
  | .kcc20VestingController => "KCC20VestingController"
  | .zkVerifiedComputation => "ZkVerifiedComputation"
  | .zkPrivateAssetTransfer => "ZkPrivateAssetTransfer"
  | .zkVerifiedOracle => "ZkVerifiedOracle"
  | .zkVerifiedOracleV2 => "ZkVerifiedOracleV2"
  | .zkProofStitchedMultiPattern => "ZkProofStitchedMultiPattern"
  | .krc721Collection => "Krc721Collection"
  | .krc721Nft => "Krc721Nft"
  | .kasBondsBond => "KasBondsBond"

structure DetectedPattern where
  kind : DetectorKind
  covenantId : Option String
  txHash : String
  outputIndex : UInt32
  payload : Value
  deriving DecidableEq

structure DetectorEntry where
  kind : DetectorKind
  matcher : PatternMatcher

/-- The extracted fields as an object of hex strings. -/
def payloadToJson (payload : OrderedMap String (List UInt8)) : Value :=
  .object (payload.toList.map fun (field, bytes) => (field, .string (hexEncode bytes)))

/-- Run every registered detector on one output. -/
def detectInOutput (registry : List DetectorEntry) (redeemScriptBytes : List UInt8)
    (txHash : String) (outputIndex : UInt32) : List DetectedPattern :=
  registry.filterMap fun entry =>
    (entry.matcher.matchAndExtract redeemScriptBytes).map fun payload =>
      { kind := entry.kind, covenantId := none, txHash, outputIndex,
        payload := payloadToJson payload }

theorem payloadToJson_of_absent {payload : OrderedMap String (List UInt8)} {name : String}
    (absent : payload[name]? = none) : (payloadToJson payload).get? name = none := by
  refine List.lookup_eq_none_iff.mpr fun field listed => ?_
  obtain ⟨⟨key, bytes⟩, member, rfl⟩ := List.mem_map.mp listed
  rw [bne_iff_ne]
  rintro rfl
  rw [OrderedMap.mem_toList] at member
  exact nomatch absent.symm.trans member

/-- A detected hit has no covenant id yet, and no field that its registry does not name. -/
theorem detectInOutput_plain {registry : List DetectorEntry} {script : List UInt8}
    {txHash : String} {outputIndex : UInt32} {hit : DetectedPattern}
    (detected : hit ∈ detectInOutput registry script txHash outputIndex) {name : String}
    (unnamed : ∀ entry ∈ registry, name ∉ entry.matcher.fields) :
    hit.covenantId = none ∧ hit.payload.get? name = none := by
  obtain ⟨entry, registered, emitted⟩ := List.mem_filterMap.mp detected
  obtain ⟨payload, extracted, rfl⟩ := Option.map_eq_some_iff.mp emitted
  exact ⟨rfl, payloadToJson_of_absent
    (PatternMatcher.matchAndExtract_of_absent extracted (unnamed entry registered))⟩

/-! ## Covenant ids -/

def covenantIdDomain : List UInt8 := "kasgraph.covenant_id.v1".toUTF8.toList

private def toBeBytes (n : UInt32) : List UInt8 :=
  [(n >>> 24).toUInt8, (n >>> 16).toUInt8, (n >>> 8).toUInt8, n.toUInt8]

/-- The id of a covenant opened by an output; `blake2b` is the 256-bit hash. -/
def genesisCovenantId (blake2b : List UInt8 → List UInt8) (genesisTx : String)
    (genesisOutput : UInt32) : String :=
  hexEncode (blake2b (covenantIdDomain ++ genesisTx.toUTF8.toList ++ toBeBytes genesisOutput))

private theorem toBeBytes_inj {m n : UInt32} (same : toBeBytes m = toBeBytes n) : m = n := by
  simp only [toBeBytes, List.cons.injEq, ← UInt8.toNat_inj, UInt32.toNat_toUInt8,
    UInt32.toNat_shiftRight, Nat.shiftRight_eq_div_pow] at same
  have below := m.toNat_lt
  have bound := n.toNat_lt
  rw [show UInt32.toNat 24 % 32 = 24 from rfl, show UInt32.toNat 16 % 32 = 16 from rfl,
    show UInt32.toNat 8 % 32 = 8 from rfl] at same
  exact UInt32.toNat_inj.mp (by omega)

/-- The bytes hashed for the id of an output. -/
def genesisBytes (outpoint : String × UInt32) : List UInt8 :=
  covenantIdDomain ++ outpoint.1.toUTF8.toList ++ toBeBytes outpoint.2

theorem genesisBytes_injective : Function.Injective genesisBytes := by
  intro first second same
  unfold genesisBytes at same
  obtain ⟨named, numbered⟩ := List.append_inj' same rfl
  have texts := Json.toUTF8_toList_injective (List.append_cancel_left named)
  exact Prod.ext texts (toBeBytes_inj numbered)

/-- Outputs that the hash tells apart are named apart. -/
theorem genesisCovenantId_inj {blake2b : List UInt8 → List UInt8}
    {known : Set (String × UInt32)} (collisionFree : Set.InjOn blake2b (genesisBytes '' known))
    {first second : String × UInt32} (left : first ∈ known) (right : second ∈ known)
    (same : genesisCovenantId blake2b first.1 first.2 =
      genesisCovenantId blake2b second.1 second.2) : first = second := by
  have hashed : blake2b (genesisBytes first) = blake2b (genesisBytes second) :=
    hexEncode_injective same
  exact genesisBytes_injective (collisionFree (Set.mem_image_of_mem _ left)
    (Set.mem_image_of_mem _ right) hashed)

/-! ## Captured fingerprints -/

def opensilverAtomicSwapHtlcFingerprint : Fingerprint where
  bytes :=
    [0x6b, 0x20] ++ List.replicate 32 0x01 ++ [0x20] ++ List.replicate 32 0x02 ++ [0x20] ++
      List.replicate 32 0x03 ++ [0x08, 0x04, 0x00, 0x00, 0x00, 0x00, 0x00, 0x00, 0x00,
      0x6c, 0x76, 0x00, 0x9c, 0x63, 0x75, 0x53, 0x79, 0x52, 0x79, 0x58, 0x79, 0x76, 0x53, 0x79,
      0x87, 0x69, 0x58, 0x79, 0x78, 0xac, 0x69, 0x57, 0x79, 0xaa, 0x52, 0x79, 0x87, 0x69, 0x00,
      0xc2, 0xb9, 0xbe, 0x02, 0xe8, 0x03, 0x94, 0x9c, 0x69, 0x00, 0xc3, 0x53, 0x79, 0x03, 0x00,
      0x00, 0x20, 0x7c, 0x7e, 0x01, 0xac, 0x7e, 0x87, 0x69, 0x00, 0x7a, 0x75, 0x00, 0x7a, 0x75,
      0x00, 0x7a, 0x75, 0x75, 0x75, 0x75, 0x75, 0x75, 0x75, 0x75, 0x51, 0x67, 0x76, 0x51, 0x9c,
      0x63, 0x75, 0x52, 0x79, 0x78, 0x76, 0xb0, 0x57, 0x79, 0x76, 0x53, 0x79, 0x87, 0x69, 0x57,
      0x79, 0x78, 0xac, 0x69, 0x00, 0xc2, 0xb9, 0xbe, 0x02, 0xe8, 0x03, 0x94, 0x9c, 0x69, 0x00,
      0xc3, 0x53, 0x79, 0x03, 0x00, 0x00, 0x20, 0x7c, 0x7e, 0x01, 0xac, 0x7e, 0x87, 0x69, 0x00,
      0x7a, 0x75, 0x00, 0x7a, 0x75, 0x00, 0x7a, 0x75, 0x75, 0x75, 0x75, 0x75, 0x75, 0x75, 0x51,
      0x67, 0x75, 0x00, 0x69, 0x68, 0x68]
  maskedWindows := [
    { field := "recipient_pubkey", offset := 2, len := 32 },
    { field := "refunder_pubkey", offset := 35, len := 32 },
    { field := "secret_hash", offset := 68, len := 32 },
    { field := "timeout", offset := 101, len := 8 }]

def kcc20AssetFingerprint : AnchoredFingerprint where
  head :=
    [0x6b, 0x20] ++ List.replicate 32 0x01 ++ [0x01, 0x00, 0x08, 0xe8, 0x03, 0x00, 0x00, 0x00,
      0x00, 0x00, 0x00, 0x01, 0x00, 0x6c, 0x76, 0x00, 0x9c, 0x63, 0x75, 0xb9, 0xcf, 0x76, 0x00,
      0xd1, 0xb9, 0x9c, 0x69, 0x76, 0xd0, 0x76]
  headMaskedWindows := [
    { field := "owner_identifier", offset := 2, len := 32 },
    { field := "identifier_type", offset := 35, len := 1 },
    { field := "amount", offset := 37, len := 8 },
    { field := "is_minter", offset := 46, len := 1 }]
  tail :=
    [0x94, 0x01, 0x2f, 0x93, 0x7c, 0xbc, 0x7e, 0xaa, 0x02, 0x00, 0x00, 0x01, 0xaa, 0x7e, 0x01,
      0x20, 0x7e, 0x7c, 0x7e, 0x01, 0x87, 0x7e, 0x78, 0xc3, 0x87, 0x69, 0x78, 0x51, 0x93, 0x53,
      0x7a, 0x75, 0x77, 0x77, 0x68] ++ (List.replicate 28 [0x00, 0x7a, 0x75]).flatten ++
      [0x75, 0x75, 0x75, 0x75, 0x75, 0x75, 0x75, 0x75, 0x75, 0x75, 0x51, 0x67, 0x76, 0x51, 0x9c,
      0x63, 0x75, 0xb9, 0xcf, 0x00, 0xd1, 0xb9, 0x9e, 0x69, 0x75, 0x75, 0x75, 0x75, 0x51, 0x67,
      0x75, 0x00, 0x69, 0x68, 0x68]

end KasGraph
