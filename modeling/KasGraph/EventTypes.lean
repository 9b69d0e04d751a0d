import KasGraph.Registry
import KasGraph.MappingHost
import KasGraph.JsonCanonical

set_option autoImplicit false

/-! The state interfaces generated for the registered patterns, and the payloads of the
events delivered for them. -/

namespace KasGraph

open Json (Value)

/-! ## Generated interfaces -/

structure DetectorFieldSchema where
  name : String
  byteLen : Nat
  deriving DecidableEq, Repr

structure DetectorSchema where
  kind : String
  fields : List DetectorFieldSchema
  deriving DecidableEq, Repr

/-- The generated mirror of the registry. -/
def detectorSchemaTable : List DetectorSchema := [
  { kind := "OpenSilverOwnable"
    fields := [
      { name := "owner_pubkey", byteLen := 32 },
      { name := "has_pending", byteLen := 1 },
      { name := "pending_owner_pubkey", byteLen := 32 }] },
  { kind := "OpenSilverMultisig"
    fields := [
      { name := "threshold", byteLen := 8 },
      { name := "signer_pubkey_1", byteLen := 32 },
      { name := "signer_pubkey_2", byteLen := 32 },
      { name := "signer_pubkey_3", byteLen := 32 }] },
  { kind := "OpenSilverTimeLock"
    fields := [
      { name := "owner_pubkey", byteLen := 32 },
      { name := "beneficiary_pubkey", byteLen := 32 },
      { name := "unlock_time", byteLen := 8 },
      { name := "soft_cancel", byteLen := 1 }] },
  { kind := "OpenSilverVault"
    fields := [
      { name := "owner_pubkey", byteLen := 32 },
      { name := "has_pending", byteLen := 1 },
      { name := "pending_owner_pubkey", byteLen := 32 },
      { name := "threshold", byteLen := 8 },
      { name := "signer_pubkey_1", byteLen := 32 },
      { name := "signer_pubkey_2", byteLen := 32 },
      { name := "signer_pubkey_3", byteLen := 32 },
      { name := "unlock_time", byteLen := 8 },
      { name := "beneficiary_pubkey", byteLen := 32 }] },
  { kind := "OpenSilverEscrowBilateral"
    fields := [
      { name := "buyer_pubkey", byteLen := 32 },
      { name := "seller_pubkey", byteLen := 32 },
      { name := "arbiter_hash", byteLen := 32 },
      { name := "timeout", byteLen := 8 }] },
  { kind := "OpenSilverEscrowMilestone"
    fields := [
      { name := "buyer_pubkey", byteLen := 32 },
      { name := "seller_pubkey", byteLen := 32 },
      { name := "arbiter_hash", byteLen := 32 },
      { name := "total_milestones", byteLen := 8 },
      { name := "completed_milestones", byteLen := 8 },
      { name := "timeout", byteLen := 8 }] },
  { kind := "OpenSilverStreamingPayment"
    fields := [
      { name := "sender_pubkey", byteLen := 32 },
      { name := "recipient_pubkey", byteLen := 32 },
      { name := "rate_per_claim", byteLen := 8 },
      { name := "total_allowance", byteLen := 8 },
      { name := "remaining_allowance", byteLen := 8 },
      { name := "period", byteLen := 8 },
      { name := "next_release_time", byteLen := 8 }] },
  { kind := "OpenSilverVesting"
    fields := [
      { name := "beneficiary_pubkey", byteLen := 32 },
      { name := "admin_pubkey", byteLen := 32 },
      { name := "total_allocation", byteLen := 8 },
      { name := "claimed_amount", byteLen := 8 },
      { name := "cliff_time", byteLen := 8 },
      { name := "period", byteLen := 8 },
      { name := "release_per_period", byteLen := 8 },
      { name := "revocable", byteLen := 1 }] },
  { kind := "OpenSilverDeadMansSwitch"
    fields := [
      { name := "owner_pubkey", byteLen := 32 },
      { name := "fallback_pubkey", byteLen := 32 },
      { name := "timeout_age", byteLen := 8 },
      { name := "last_ping_age", byteLen := 8 }] },
  { kind := "OpenSilverSocialRecovery"
    fields := [
      { name := "owner_pubkey", byteLen := 32 },
      { name := "has_pending_owner", byteLen := 1 },
      { name := "pending_owner_pubkey", byteLen := 32 },
      { name := "guardian_threshold", byteLen := 8 },
      { name := "guardian_pubkey_1", byteLen := 32 },
      { name := "guardian_pubkey_2", byteLen := 32 },
      { name := "guardian_pubkey_3", byteLen := 32 },
      { name := "activation_time", byteLen := 8 },
      { name := "recovery_delay", byteLen := 8 }] },
  { kind := "OpenSilverAtomicSwapHTLC"
    fields := [
      { name := "recipient_pubkey", byteLen := 32 },
      { name := "refunder_pubkey", byteLen := 32 },
      { name := "secret_hash", byteLen := 32 },
      { name := "timeout", byteLen := 8 }] },
  { kind := "OpenSilverFreelancePayroll"
    fields := [
      { name := "client_pubkey", byteLen := 32 },
      { name := "worker_pubkey", byteLen := 32 },
      { name := "arbiter_hash", byteLen := 32 },
      { name := "timeout", byteLen := 8 }] },
  { kind := "KCC20Asset"
    fields := [
      { name := "owner_identifier", byteLen := 32 },
      { name := "identifier_type", byteLen := 1 },
      { name := "amount", byteLen := 8 },
      { name := "is_minter", byteLen := 1 }] },
  { kind := "KCC20OwnableController"
    fields := [
      { name := "admin_pubkey", byteLen := 32 },
      { name := "has_pending_admin", byteLen := 1 },
      { name := "pending_admin_pubkey", byteLen := 32 },
      { name := "kcc20_covenant_id", byteLen := 32 },
      { name := "initialized", byteLen := 1 }] },
  { kind := "KCC20PausableController"
    fields := [
      { name := "kcc20_covenant_id", byteLen := 32 },
      { name := "paused", byteLen := 1 },
      { name := "initialized", byteLen := 1 }] },
  { kind := "KCC20CappedController"
    fields := [
      { name := "kcc20_covenant_id", byteLen := 32 },
      { name := "total_cap", byteLen := 8 },
      { name := "remaining_allowance", byteLen := 8 },
      { name := "initialized", byteLen := 1 }] },
  { kind := "KCC20VestingController"
    fields := [
      { name := "total_allocation", byteLen := 8 },
      { name := "minted_amount", byteLen := 8 },
      { name := "cliff_time", byteLen := 8 },
      { name := "period", byteLen := 8 },
      { name := "release_per_period", byteLen := 8 },
      { name := "kcc20_covenant_id", byteLen := 32 },
      { name := "initialized", byteLen := 1 }] }]

/-- The table as a map: the last entry of a kind stands. -/
def detectorSchemaByKind (kind : String) : Option DetectorSchema :=
  detectorSchemaTable.reverse.find? (·.kind == kind)

/-- The types the members of a state interface have. -/
inductive MemberType where
  | string
  | literal (text : String)
  deriving DecidableEq, Repr

structure InterfaceMember where
  name : String
  optional : Bool
  type : MemberType
  deriving DecidableEq, Repr

/-- The members of the interface of a kind: its discriminator, the covenant id when there is
one, and the windows as hex. -/
def renderStateInterface (kind : String) : Option (List InterfaceMember) :=
  (detectorSchemaByKind kind).map fun schema =>
    { name := "detectorKind", optional := false, type := .literal kind } ::
      { name := "covenantId", optional := true, type := .string } ::
        schema.fields.map fun f => { name := f.name, optional := false, type := .string }

/-! ## What an interface says of a value -/

def MemberType.Has : MemberType → Value → Prop
  | .string, value => ∃ text, value = .string text
  | .literal text, value => value = .string text

/-- An object has every required member, each member it has is of its type, and it has no
field beyond the members. -/
structure Conforms (members : List InterfaceMember) (payload : Value) : Prop where
  typed : ∀ member ∈ members, ∀ value, payload.get? member.name = some value →
    member.type.Has value
  required : ∀ member ∈ members, member.optional = false → (payload.get? member.name).isSome
  closed : ∃ fields, payload = .object fields ∧
    ∀ field ∈ fields, ∃ member ∈ members, member.name = field.1

/-- The members besides the discriminator. -/
def undiscriminated (members : List InterfaceMember) : List InterfaceMember :=
  members.filter (·.name != "detectorKind")

/-! ## Payloads of hits -/

/-- What a matcher extracts has exactly its fields. -/
theorem PatternMatcher.isSome_of_extracted {m : PatternMatcher} {script : List UInt8}
    {payload : OrderedMap String (List UInt8)} (extracted : m.matchAndExtract script = some payload)
    {name : String} : payload[name]?.isSome = true ↔ name ∈ m.fields := by
  cases m with
  | exact f =>
      rw [← Option.some.inj (Option.ite_none_right_eq_some.mp extracted).2]
      exact isSome_extractWindows
  | anchored f =>
      rw [← Option.some.inj (Option.ite_none_right_eq_some.mp extracted).2]
      exact isSome_extractWindows

theorem mem_payloadToJson {payload : OrderedMap String (List UInt8)} {field : String × Value} :
    field ∈ payload.toList.map (fun (name, bytes) => (name, Value.string (hexEncode bytes))) ↔
      ∃ bytes, payload[field.1]? = some bytes ∧ field.2 = .string (hexEncode bytes) := by
  rw [List.mem_map]
  constructor
  · rintro ⟨⟨name, bytes⟩, member, rfl⟩
    exact ⟨bytes, (OrderedMap.mem_toList ..).mp member, rfl⟩
  · rintro ⟨bytes, present, same⟩
    exact ⟨(field.1, bytes), (OrderedMap.mem_toList ..).mpr present, Prod.ext rfl same.symm⟩

/-- An extracted payload holds hex texts under the fields of its pattern, and no others. -/
structure Extracted (names : List String) (payload : Value) : Prop where
  object : ∃ fields, payload = .object fields ∧ ∀ field ∈ fields, field.1 ∈ names
  texts : ∀ name value, payload.get? name = some value → ∃ text, value = .string text
  present : ∀ name ∈ names, (payload.get? name).isSome

theorem extracted_payloadToJson {m : PatternMatcher} {script : List UInt8}
    {payload : OrderedMap String (List UInt8)}
    (extracted : m.matchAndExtract script = some payload) :
    Extracted m.fields (payloadToJson payload) where
  object := by
    refine ⟨_, rfl, fun field member => ?_⟩
    obtain ⟨bytes, held, -⟩ := mem_payloadToJson.mp member
    exact (PatternMatcher.isSome_of_extracted extracted).mp (by rw [held]; rfl)
  texts := by
    intro name value found
    obtain ⟨bytes, -, same⟩ := mem_payloadToJson.mp (Value.mem_of_lookup found)
    exact ⟨_, same⟩
  present := by
    intro name member
    obtain ⟨bytes, held⟩ := Option.isSome_iff_exists.mp
      ((PatternMatcher.isSome_of_extracted extracted).mpr member)
    rw [Option.isSome_iff_ne_none]
    intro none
    have listed : (name, Value.string (hexEncode bytes)) ∈
        payload.toList.map fun (name, bytes) => (name, Value.string (hexEncode bytes)) :=
      mem_payloadToJson.mpr ⟨bytes, held, rfl⟩
    have missed := List.lookup_eq_none_iff.mp none _ listed
    simp at missed

/-- The payload handed on for a hit, once the covenant id it may carry is known. -/
theorem lockedPayload_of_extracted {names : List String} {hit : DetectedPattern}
    (extracted : Extracted names hit.payload)
    (covenantId : Option String) :
    Extracted (covenantId.elim names fun _ => "covenantId" :: names)
      (lockedPayload { hit with covenantId }) := by
  obtain ⟨fields, same, within⟩ := extracted.object
  cases covenantId with
  | none => exact extracted
  | some id =>
      unfold lockedPayload
      simp only [same, Option.elim_some]
      have texts := extracted.texts
      have present := extracted.present
      rw [same] at texts present
      refine ⟨⟨_, rfl, fun field member => ?_⟩, fun name value found => ?_, fun name member => ?_⟩
      · rcases Value.mem_insertField member with rfl | old
        · exact List.mem_cons_self ..
        · exact List.mem_cons_of_mem _ (within field old)
      · by_cases here : name = "covenantId"
        · subst here
          rw [Value.get?_object, Value.lookup_insertField_self, Option.some.injEq] at found
          exact ⟨id, found.symm⟩
        · rw [Value.get?_object, Value.lookup_insertField_of_ne (Ne.symm here)] at found
          exact texts name value found
      · rw [Value.get?_object]
        by_cases here : name = "covenantId"
        · subst here
          rw [Value.lookup_insertField_self]
          rfl
        · rw [Value.lookup_insertField_of_ne (Ne.symm here)]
          exact present name ((List.mem_cons.mp member).resolve_left here)

/-! ## Interfaces of the registered kinds -/

/-- The table mirrors the windows of the registered patterns. -/
theorem detectorSchema_mirrors : ∀ entry ∈ buildRegistry,
    (detectorSchemaByKind entry.kind.debug).map (fun schema => schema.fields.map (·.name)) =
      some entry.matcher.fields ∧ "detectorKind" ∉ entry.matcher.fields := by
  decide +kernel

/-- A payload with the fields of a pattern, and perhaps a covenant id, is of the generated
interface but for the discriminator. -/
theorem conforms_undiscriminated {schema : DetectorSchema} {payload : Value} {kind : String}
    {covenantId : Option String} (apart : "detectorKind" ∉ schema.fields.map (·.name))
    (extracted : Extracted (covenantId.elim (schema.fields.map (·.name))
      fun _ => "covenantId" :: schema.fields.map (·.name)) payload)
    {members : List InterfaceMember} (found : detectorSchemaByKind kind = some schema)
    (rendered : renderStateInterface kind = some members) :
    Conforms (undiscriminated members) payload ∧ ¬ Conforms members payload := by
  rw [renderStateInterface, found, Option.map_some, Option.some.injEq] at rendered
  have shape : undiscriminated members =
      { name := "covenantId", optional := true, type := .string } ::
        schema.fields.map fun f => { name := f.name, optional := false, type := .string } := by
    rw [← rendered, undiscriminated, List.filter_cons_of_neg (by simp),
      List.filter_cons_of_pos (by decide), List.filter_eq_self.mpr]
    intro member listed
    obtain ⟨f, declared, rfl⟩ := List.mem_map.mp listed
    rw [bne_iff_ne]
    exact fun same => apart (List.mem_map.mpr ⟨f, declared, same⟩)
  constructor
  · rw [shape]
    refine ⟨fun member listed value found => ?_, fun member listed required => ?_, ?_⟩
    · obtain ⟨text, same⟩ := extracted.texts _ _ found
      rcases List.mem_cons.mp listed with rfl | window
      · exact ⟨text, same⟩
      · obtain ⟨f, -, rfl⟩ := List.mem_map.mp window
        exact ⟨text, same⟩
    · rcases List.mem_cons.mp listed with rfl | window
      · cases required
      · obtain ⟨f, declared, rfl⟩ := List.mem_map.mp window
        have named : f.name ∈ schema.fields.map (·.name) := List.mem_map_of_mem declared
        apply extracted.present
        cases covenantId with
        | none => exact named
        | some id => exact List.mem_cons_of_mem _ named
    · obtain ⟨fields, same, within⟩ := extracted.object
      refine ⟨fields, same, fun field member => ?_⟩
      have named : field.1 = "covenantId" ∨ field.1 ∈ schema.fields.map (·.name) := by
        have listed := within field member
        cases covenantId with
        | none => exact Or.inr listed
        | some id => exact List.mem_cons.mp listed
      rcases named with here | declared
      · exact ⟨_, List.mem_cons_self .., here.symm⟩
      · obtain ⟨f, listed, same⟩ := List.mem_map.mp declared
        exact ⟨_, List.mem_cons_of_mem _ (List.mem_map.mpr ⟨f, listed, rfl⟩), same⟩
  · intro conforms
    have asked : ({ name := "detectorKind", optional := false, type := .literal kind } :
        InterfaceMember) ∈ members := by
      rw [← rendered]
      exact List.mem_cons_self ..
    have held := conforms.required _ asked rfl
    obtain ⟨fields, same, within⟩ := extracted.object
    obtain ⟨value, found⟩ := Option.isSome_iff_exists.mp held
    rw [same, Value.get?_object] at found
    have listed := within _ (Value.mem_of_lookup found)
    cases covenantId with
    | none => exact apart listed
    | some id =>
        have other : "detectorKind" ≠ "covenantId" := by decide
        exact apart ((List.mem_cons.mp listed).resolve_left other)

/-- The one hit of a registered pattern, and the interface of its kind. -/
theorem registered_hit {entry : DetectorEntry} (registered : entry ∈ buildRegistry)
    {script : List UInt8} (matched : entry.matcher.isMatch script = true) (txHash : String)
    (outputIndex : UInt32) :
    ∃ hit members, detectInOutput buildRegistry script txHash outputIndex = [hit] ∧
      hit.kind = entry.kind ∧ renderStateInterface entry.kind.debug = some members ∧
      ∀ covenantId, Conforms (undiscriminated members) (lockedPayload { hit with covenantId }) ∧
        ¬ Conforms members (lockedPayload { hit with covenantId }) := by
  obtain ⟨payload, extracted⟩ := Option.isSome_iff_exists.mp
    ((entry.matcher.matchAndExtract_isSome script).trans matched)
  have detected : (⟨entry.kind, none, txHash, outputIndex, payloadToJson payload⟩ :
      DetectedPattern) ∈ detectInOutput buildRegistry script txHash outputIndex :=
    List.mem_filterMap.mpr ⟨entry, registered, by rw [extracted]; rfl⟩
  obtain ⟨mirrored, apart⟩ := detectorSchema_mirrors entry registered
  obtain ⟨schema, found, names⟩ := Option.map_eq_some_iff.mp mirrored
  have rendered : ∃ members, renderStateInterface entry.kind.debug = some members := by
    rw [renderStateInterface, found]
    exact ⟨_, rfl⟩
  obtain ⟨members, rendered⟩ := rendered
  rw [← names] at apart
  have typed : ∀ covenantId, Extracted
      (covenantId.elim (schema.fields.map (·.name)) fun _ =>
        "covenantId" :: schema.fields.map (·.name))
      (lockedPayload ⟨entry.kind, covenantId, txHash, outputIndex, payloadToJson payload⟩) := by
    intro covenantId
    rw [names]
    exact @lockedPayload_of_extracted _
      ⟨entry.kind, none, txHash, outputIndex, payloadToJson payload⟩
      (extracted_payloadToJson extracted) covenantId
  refine ⟨⟨entry.kind, none, txHash, outputIndex, payloadToJson payload⟩, members, ?_, rfl,
    rendered, fun covenantId =>
      conforms_undiscriminated apart (typed covenantId) found rendered⟩
  have single := detectInOutput_length_le_one script txHash outputIndex
  match hits : detectInOutput buildRegistry script txHash outputIndex with
  | [] =>
      rw [hits] at detected
      cases detected
  | [hit] =>
      rw [hits] at detected
      rw [List.mem_singleton.mp detected]
  | _ :: _ :: _ =>
      rw [hits, List.length_cons, List.length_cons] at single
      omega

/-- The payload delivered for a registered pattern is of the interface generated for its kind
but for the discriminator, which it never carries: it is never of the interface itself. -/
theorem locked_payload_lacks_discriminator (entry : DetectorEntry)
    (registered : entry ∈ buildRegistry) (script : List UInt8)
    (matched : entry.matcher.isMatch script = true) (txHash : String) (outputIndex : UInt32)
    (covenantId : Option String) (blockDaaScore : UInt64) (blockHash handler : String) :
    ∃ hit members, detectInOutput buildRegistry script txHash outputIndex = [hit] ∧
      hit.kind = entry.kind ∧ renderStateInterface entry.kind.debug = some members ∧
      let event := lockedMappingEvent { hit with covenantId } blockDaaScore blockHash handler
      Conforms (undiscriminated members) event.payload ∧ ¬ Conforms members event.payload := by
  obtain ⟨hit, members, detected, kind, rendered, typed⟩ :=
    registered_hit registered matched txHash outputIndex
  exact ⟨hit, members, detected, kind, rendered, typed covenantId⟩

/-- An ownable covenant. -/
def ownableEntry : DetectorEntry := ⟨.openSilverOwnable, .exact opensilverOwnableFingerprint⟩

theorem locked_payload_lacks_discriminator_ownable :
    ∃ hit members, detectInOutput buildRegistry opensilverOwnableFingerprint.bytes "t" 0 = [hit] ∧
      hit.kind = ownableEntry.kind ∧
      renderStateInterface ownableEntry.kind.debug = some members ∧
      let event := lockedMappingEvent { hit with covenantId := some "c" } 10 "a" "handle"
      Conforms (undiscriminated members) event.payload ∧ ¬ Conforms members event.payload :=
  locked_payload_lacks_discriminator ownableEntry (List.mem_cons_self ..)
    opensilverOwnableFingerprint.bytes (by decide +kernel) "t" 0 (some "c") 10 "a" "handle"

theorem ownable_payload_untyped :
    ¬ ∀ entry ∈ buildRegistry, ∀ script, entry.matcher.isMatch script = true →
      ∀ (txHash : String) (outputIndex : UInt32) (covenantId : Option String)
        (blockDaaScore : UInt64) (blockHash handler : String),
      ∀ hit ∈ detectInOutput buildRegistry script txHash outputIndex, ∀ members,
        renderStateInterface entry.kind.debug = some members →
        Conforms members (lockedMappingEvent { hit with covenantId } blockDaaScore blockHash
          handler).payload := by
  intro always
  have registered : ownableEntry ∈ buildRegistry := List.mem_cons_self ..
  have matched : ownableEntry.matcher.isMatch opensilverOwnableFingerprint.bytes = true := by
    decide +kernel
  obtain ⟨hit, members, detected, -, rendered, typed⟩ := registered_hit registered matched "t" 0
  refine (typed (some "c")).2 (always ownableEntry registered _ matched "t" 0 (some "c") 10 "a"
    "handle" hit ?_ members rendered)
  rw [detected]
  exact List.mem_cons_self ..

end KasGraph
