import KasGraph.GuestDispatch
import KasGraph.SdkLowering

set_option autoImplicit false

/-! A built mapping does what its handlers mean. The heap of the guest only grows, so a block stays
where the host or the guest has put it; from there each helper does what its operation means, and
a dispatch does what the handler means on the decoded event. -/

namespace KasGraph

open EffectProgram
open Json (Value)
open LossyText (fromUtf8Lossy fromUtf8Lossy_toUTF8)

variable {γ α β : Type}

/-! ## The heap -/

namespace AscRuntime

/-- What is allocated lies inside the memory. -/
def Formed (asc : AscRuntime γ) (inst : Instance γ) : Prop :=
  asc.top inst.globals ≤ inst.memory.size

/-- The host saw nothing, and what was allocated is still there. -/
structure Grows (asc : AscRuntime γ) (before after : Instance γ) : Prop where
  host : after.host = before.host
  heap : asc.top before.globals ≤ asc.top after.globals
  formed : asc.Formed after
  kept : ∀ address, address < asc.top before.globals →
    after.memory.byteAt address = before.memory.byteAt address

/-- Code that works on the heap: it answers with a result of a kind, or it stops and the host saw
nothing. -/
def Works (asc : AscRuntime γ) (inst : Instance γ) (post : α → Instance γ → Prop) :
    Except Trap α × Instance γ → Prop
  | (.ok value, after) => asc.Grows inst after ∧ post value after
  | (.error _, after) => after.host = inst.host

/-- A block of the heap, as a pointer and a length name it. -/
structure Holds (asc : AscRuntime γ) (inst : Instance γ) (ptr len : Int32) (bytes : List UInt8) :
    Prop where
  length : len = Int32.ofNat bytes.length
  placed : 0 < ptr.toUInt32.toNat
  below : ptr.toUInt32.toNat + bytes.length ≤ asc.top inst.globals
  read : inst.memory.read ptr.toUInt32.toNat bytes.length = some bytes

variable {asc : AscRuntime γ} {first middle last inst after : Instance γ}

theorem Grows.refl (formed : asc.Formed inst) : asc.Grows inst inst where
  host := rfl
  heap := le_rfl
  formed
  kept := fun _ _ => rfl

theorem Grows.trans (start : asc.Grows first middle) (rest : asc.Grows middle last) :
    asc.Grows first last where
  host := rest.host.trans start.host
  heap := start.heap.trans rest.heap
  formed := rest.formed
  kept := by
    intro address low
    have still := start.heap
    rw [rest.kept address (by omega), start.kept address low]

theorem Works.done {post : α → Instance γ → Prop} {value : α} (formed : asc.Formed inst)
    (holds : post value inst) : asc.Works inst post (.ok value, inst) :=
  ⟨Grows.refl formed, holds⟩

theorem Works.of_grows {post : α → Instance γ → Prop} {outcome : Except Trap α × Instance γ}
    (grown : asc.Grows inst middle) (works : asc.Works middle post outcome) :
    asc.Works inst post outcome := by
  rcases outcome with ⟨trap | value, after⟩
  · exact Eq.trans works grown.host
  · exact ⟨grown.trans works.1, works.2⟩

theorem Works.bind {exec : Semantics (guestSignature γ) Trap (Instance γ)} {program : Guest γ α}
    {rest : α → Guest γ β} {post : α → Instance γ → Prop} {post' : β → Instance γ → Prop}
    {now : Instance γ} (start : asc.Works inst post (run exec program now))
    (next : ∀ value middle, asc.Grows inst middle → post value middle →
      asc.Works inst post' (run exec (rest value) middle)) :
    asc.Works inst post' (run exec (program >>= rest) now) := by
  rw [run_bind]
  rcases ran : run exec program now with ⟨trap | value, middle⟩
  · rw [ran] at start
    exact start
  · rw [ran] at start
    exact next value middle start.1 start.2

theorem Works.mono {post post' : α → Instance γ → Prop} {outcome : Except Trap α × Instance γ}
    (works : asc.Works inst post outcome)
    (weaker : ∀ value after, post value after → post' value after) :
    asc.Works inst post' outcome := by
  rcases outcome with ⟨trap | value, after⟩
  · exact works
  · exact ⟨works.1, weaker value after works.2⟩

/-- A block of the heap stays while the heap grows. -/
theorem Holds.grows {ptr len : Int32} {bytes : List UInt8} (formed : asc.Formed first)
    (holds : asc.Holds first ptr len bytes) (grown : asc.Grows first last) :
    asc.Holds last ptr len bytes where
  length := holds.length
  placed := holds.placed
  below := holds.below.trans grown.heap
  read := by
    have below := holds.below
    have larger := grown.heap
    have inside := grown.formed
    unfold Formed at formed inside
    rw [← holds.read]
    apply LinearMemory.read_congr (by omega) (by omega)
    intro address _ high
    exact grown.kept address (by omega)

/-- A write of a whole block into the last allocation. -/
theorem grows_write {memory : LinearMemory} {start : Nat} {bytes : List UInt8}
    (grown : asc.Grows first last) (fresh : asc.top first.globals ≤ start)
    (wrote : last.memory.write start bytes = some memory) :
    asc.Grows first { last with memory } where
  host := grown.host
  heap := grown.heap
  formed := by
    have inside := grown.formed
    unfold Formed at inside ⊢
    simpa only [LinearMemory.size_write wrote] using inside
  kept := by
    intro address low
    change memory.byteAt address = _
    rw [LinearMemory.byteAt_write_outside wrote (Or.inl (by omega)), grown.kept address low]

end AscRuntime

/-! ## What the host reads of a block -/

theorem toUsize_nonneg {value : Int32} {message : String} (positive : ¬ value.toInt < 0) :
    toUsize value message = .ok value.toUInt32.toNat := by
  unfold toUsize
  rw [if_neg positive]
  congr 1
  have unsigned : value.toUInt32.toNat = value.toBitVec.toNat := rfl
  have signed : value.toInt = value.toBitVec.toInt := rfl
  rw [unsigned, signed]
  rw [signed] at positive
  rw [BitVec.toInt_eq_toNat_cond] at positive ⊢
  split
  · simp
  · rename_i large
    rw [if_neg large] at positive
    have bound := value.toBitVec.isLt
    omega

theorem toNat_ofNat_length {n : Nat} (small : n < 2 ^ 32) :
    (Int32.ofNat n).toUInt32.toNat = n := by
  have unsigned : (Int32.ofNat n).toUInt32.toNat = (Int32.ofNat n).toBitVec.toNat := rfl
  rw [unsigned, Int32.toBitVec_ofNat', BitVec.toNat_ofNat, Nat.mod_eq_of_lt small]

variable {module : GuestModule γ} {asc : AscRuntime γ} {inst : Instance γ}

theorem AscRuntime.Holds.small {ptr len : Int32} {bytes : List UInt8} (formed : asc.Formed inst)
    (holds : asc.Holds inst ptr len bytes) : bytes.length < 2 ^ 32 := by
  have below := holds.below
  have placed := holds.placed
  have bounded := inst.memory.bounded
  unfold AscRuntime.Formed LinearMemory.size LinearMemory.pageSize at formed
  omega

/-- The host reads a block of the heap as it is, or refuses the pointer. -/
theorem readGuestBytes_holds {ptr len : Int32} {bytes : List UInt8}
    (exported : module.exportsMemory = true) (formed : asc.Formed inst)
    (holds : asc.Holds inst ptr len bytes) :
    readGuestBytes module inst ptr len = .ok bytes ∨
      ∃ trap, readGuestBytes module inst ptr len = .error trap := by
  unfold readGuestBytes
  simp only [exported]
  by_cases low : ptr.toInt < 0
  · right
    exact ⟨_, by simp only [toUsize, low]; rfl⟩
  · by_cases short : len.toInt < 0
    · right
      rw [toUsize_nonneg low]
      exact ⟨_, by simp only [toUsize, short]; rfl⟩
    · left
      rw [toUsize_nonneg low, toUsize_nonneg short, holds.length,
        toNat_ofNat_length (holds.small formed)]
      have read := holds.read
      simp only [bind, Except.bind, pure, Except.pure]
      rw [read]
      rfl

/-! ## The laws of the linked runtime -/

namespace CompiledMapping

variable {lib : GuestJson}

/-- The allocator hands out fresh blocks, the code of the mapping works on its own heap, and the
decoder of strings reads what the encoder writes. -/
structure Sound (mapping : CompiledMapping γ lib) (json : HostJson) : Prop where
  decodes : ∀ text : String, mapping.asc.decodeUtf8 text.toUTF8.toList = text
  allocates : ∀ depth size (inst : Instance γ), mapping.asc.Formed inst →
    mapping.asc.Works inst
      (fun ptr after => 0 < ptr.toNat ∧ mapping.asc.top inst.globals ≤ ptr.toNat ∧
        ptr.toNat + size ≤ mapping.asc.top after.globals)
      (run (guestExec json mapping.module depth) (mapping.asc.alloc size) inst)
  decodeWorks : ∀ depth (inst : Instance γ), mapping.asc.Formed inst →
    mapping.asc.Works inst (fun _ _ => True)
      (run (guestExec json mapping.module depth) mapping.decodeWork inst)
  works : ∀ depth op (inst : Instance γ), mapping.asc.Formed inst →
    mapping.asc.Works inst (fun _ _ => True)
      (run (guestExec json mapping.module depth) (mapping.work op) inst)
  starts : ∀ depth (inst : Instance γ), inst.memory = mapping.memory →
    inst.globals = mapping.globals → ∀ after,
      run (guestExec json mapping.module depth) mapping.start inst = (.ok (), after) →
      after.host = inst.host ∧ mapping.asc.Formed after

variable {mapping : CompiledMapping γ lib} {json : HostJson} {depth : Nat} {inst : Instance γ}

theorem exportsMemory_module : mapping.module.exportsMemory = true := rfl

theorem exports_alloc :
    mapping.module.exports "kasgraph_alloc" = some (.alloc mapping.asc.kasgraphAlloc) := rfl

theorem reenterAlloc_module
    (execute : (α : Type) → Guest γ α → Instance γ → Except Trap α × Instance γ) (len : Int32) :
    reenterAlloc mapping.module execute inst len =
      execute Int32 (mapping.asc.kasgraphAlloc len) inst := rfl

theorem run_store (start : Nat) (block : List UInt8) :
    run (guestExec json mapping.module depth) (Guest.perform (.store start block)) inst =
      match inst.memory.write start block with
      | some memory => (.ok (), { inst with memory })
      | none => (.error (.message "out of bounds memory access"), inst) := by
  refine (run_perform _ _ _).trans ?_
  cases depth <;> rfl

theorem run_load (start length : Nat) :
    run (guestExec json mapping.module depth) (Guest.perform (.load start length)) inst =
      match inst.memory.read start length with
      | some block => (.ok block, inst)
      | none => (.error (.message "out of bounds memory access"), inst) := by
  refine (run_perform _ _ _).trans ?_
  cases depth <;> rfl

/-- A block that was just allocated and written. -/
theorem holds_written {after : Instance γ} {memory : LinearMemory} {ptr : UInt32}
    {bytes : List UInt8} (placed : 0 < ptr.toNat)
    (below : ptr.toNat + bytes.length ≤ mapping.asc.top after.globals)
    (wrote : after.memory.write ptr.toNat bytes = some memory) :
    mapping.asc.Holds { after with memory } ptr.toInt32 (Int32.ofNat bytes.length) bytes where
  length := rfl
  placed := by simpa only [UInt32.toUInt32_toInt32] using placed
  below := by simpa only [UInt32.toUInt32_toInt32] using below
  read := by simpa only [UInt32.toUInt32_toInt32] using LinearMemory.read_write_self wrote

theorem encode_works (sound : mapping.Sound json) (formed : mapping.asc.Formed inst)
    (text : String) :
    mapping.asc.Works inst
      (fun block after => mapping.asc.Holds after block.1 block.2 text.toUTF8.toList)
      (run (guestExec json mapping.module depth) (mapping.asc.encode text) inst) := by
  apply AscRuntime.Works.bind (sound.allocates depth text.toUTF8.toList.length inst formed)
  intro ptr middle grown allocated
  obtain ⟨placed, fresh, below⟩ := allocated
  have stored : mapping.asc.Works inst
      (fun _ after => mapping.asc.Holds after ptr.toInt32 (Int32.ofNat text.toUTF8.toList.length)
        text.toUTF8.toList)
      (run (guestExec json mapping.module depth)
        (Guest.perform (.store ptr.toNat text.toUTF8.toList)) middle) := by
    rw [run_store]
    cases wrote : middle.memory.write ptr.toNat text.toUTF8.toList with
    | none => exact grown.host
    | some memory =>
        exact ⟨AscRuntime.grows_write grown fresh wrote, holds_written placed below wrote⟩
  apply AscRuntime.Works.bind stored
  intro _ after grown' holds
  exact ⟨grown', holds⟩

theorem run_decodeUnsafe (sound : mapping.Sound json) (formed : mapping.asc.Formed inst)
    {ptr len : Int32} {text : String} (holds : mapping.asc.Holds inst ptr len text.toUTF8.toList) :
    run (guestExec json mapping.module depth) (mapping.asc.decodeUnsafe ptr len) inst =
      (.ok text, inst) := by
  have whole : len.toUInt32.toNat = text.toUTF8.toList.length := by
    rw [holds.length, toNat_ofNat_length (holds.small formed)]
  have loaded : run (guestExec json mapping.module depth)
      (Guest.perform (.load ptr.toUInt32.toNat len.toUInt32.toNat)) inst =
        (.ok text.toUTF8.toList, inst) := by
    rw [run_load, whole, holds.read]
  refine (run_bind_of_ok _ loaded _).trans ?_
  rw [sound.decodes]
  rfl

/-! ## What each helper does -/

/-- The host between two operations of a handler. -/
def hostOf (json : HostJson) (entities : EntitySnapshot) (state : SdkState) : HostState where
  logs := state.logs
  entityOps := state.entityOps
  entities := entities.map fun _ value => Json.toVec json.floats value
  decodeError := none

def Related (mapping : CompiledMapping γ lib) (json : HostJson) (entities : EntitySnapshot)
    (state : SdkState) (inst : Instance γ) : Prop :=
  inst.host = hostOf json entities state ∧ mapping.asc.Formed inst

/-- The machine stopped and no write was refused. -/
def Excused (_ : Trap) (inst : Instance γ) : Prop := inst.host.decodeError = none

/-- A write that was refused is the reason the handler stops for. -/
def Stands (stop : HandlerStop) (_ : Trap) (inst : Instance γ) : Prop :=
  ∀ message, inst.host.decodeError = some message →
    ∃ e, stop = .malformed e ∧ message = malformedWrite e

variable {entities : EntitySnapshot} {state : SdkState}

theorem Related.grows {after : Instance γ} (related : mapping.Related json entities state inst)
    (grown : mapping.asc.Grows inst after) : mapping.Related json entities state after :=
  ⟨grown.host.trans related.1, grown.formed⟩

/-- Code that works on the heap comes before code that does what is meant. -/
theorem simulates_bind {ρ : Type} {exec : Semantics (guestSignature γ) Trap (Instance γ)}
    {program : Guest γ α} {rest : α → Guest γ ρ} {post : α → Instance γ → Prop}
    {meant : Except HandlerStop ρ × SdkState}
    (related : mapping.Related json entities state inst)
    (start : mapping.asc.Works inst post (run exec program inst))
    (next : ∀ value middle, mapping.asc.Grows inst middle → post value middle →
      Simulates (mapping.Related json entities) Stands Excused meant (run exec (rest value) middle)) :
    Simulates (mapping.Related json entities) Stands Excused meant
      (run exec (program >>= rest) inst) := by
  rw [run_bind]
  rcases ran : run exec program inst with ⟨trap | value, middle⟩
  · rw [ran] at start
    left
    change middle.host.decodeError = none
    rw [start, related.1]
    rfl
  · rw [ran] at start
    exact next value middle start.1 start.2

theorem log_simulates (sound : mapping.Sound json)
    (related : mapping.Related json entities state inst) (level : Int32) (message : String) :
    Simulates (mapping.Related json entities) Stands Excused
      (sdkMeaning lib json entities (.log level message) state)
      (run (guestExec json mapping.module depth) (mapping.hostLog level message) inst) := by
  apply simulates_bind related (encode_works sound related.2 message)
  intro block middle grown holds
  have here := related.grows grown
  have logged : run (guestExec json mapping.module depth)
      (Guest.perform (.log level block.1 block.2)) middle =
        KasGraph.hostLog mapping.module middle level block.1 block.2 := by
    refine (run_perform _ _ _).trans ?_
    cases depth <;> rfl
  change Simulates _ _ _ _ (run _ (Guest.perform (.log level block.1 block.2)) middle)
  rw [logged]
  unfold KasGraph.hostLog
  rcases readGuestBytes_holds exportsMemory_module here.2 holds with read | ⟨trap, refused⟩
  · rw [read]
    simp only [fromUtf8Lossy_toUTF8]
    refine ⟨{ state with logs := state.logs ++ [{ level, message }] }, rfl, ?_, here.2⟩
    simp only [here.1, hostOf]
  · rw [refused]
    left
    change middle.host.decodeError = none
    rw [here.1]
    rfl

theorem storeSet_simulates (sound : mapping.Sound json)
    (related : mapping.Related json entities state inst) (entity id : String) (data : lib.Obj) :
    Simulates (mapping.Related json entities) Stands Excused
      (sdkMeaning lib json entities (.set entity id data) state)
      (run (guestExec json mapping.module depth) (mapping.storeSet entity id data) inst) := by
  apply simulates_bind related (encode_works sound related.2 (lib.writeText entity id data))
  intro block middle grown holds
  have here := related.grows grown
  have stored : run (guestExec json mapping.module depth)
      (Guest.perform (.storeSet block.1 block.2)) middle =
        hostStoreSet json mapping.module middle block.1 block.2 := by
    refine (run_perform _ _ _).trans ?_
    cases depth <;> rfl
  change Simulates _ _ _ _ (run _ (Guest.perform (.storeSet block.1 block.2)) middle)
  rw [stored]
  unfold hostStoreSet sdkMeaning
  rcases readGuestBytes_holds exportsMemory_module here.2 holds with read | ⟨trap, refused⟩
  · rw [read]
    simp only
    cases decoded : json.entityOp (lib.writeText entity id data).toUTF8.toList with
    | ok op =>
        refine ⟨{ state with entityOps := state.entityOps ++ [op] }, rfl, ?_, here.2⟩
        simp only [here.1, hostOf]
    | error e =>
        right
        refine ⟨.malformed e, state, rfl, ?_⟩
        intro message same
        exact ⟨e, rfl, (Option.some.inj same).symm⟩
  · rw [refused]
    left
    change middle.host.decodeError = none
    rw [here.1]
    rfl

/-- What a lookup answers: zero on a miss, else where the text of the value lies. -/
def Answers (mapping : CompiledMapping γ lib) (json : HostJson) (found : Option Value)
    (packed : Int64) (after : Instance γ) : Prop :=
  match found with
  | none => packed = 0
  | some value => ∃ ptr len, packed = packPointer ptr len ∧
      mapping.asc.Holds after ptr len (json.text value).toUTF8.toList

/-- The block that the export of the allocator hands out. -/
structure Allotted (mapping : CompiledMapping γ lib) (before : Instance γ) (size : Nat)
    (ptr : Int32) (after : Instance γ) : Prop where
  placed : 0 < ptr.toUInt32.toNat
  fresh : mapping.asc.top before.globals ≤ ptr.toUInt32.toNat
  below : ptr.toUInt32.toNat + size ≤ mapping.asc.top after.globals

theorem kasgraphAlloc_works (sound : mapping.Sound json) (formed : mapping.asc.Formed inst)
    (depth : Nat) (len : Int32) :
    mapping.asc.Works inst (mapping.Allotted inst len.toUInt32.toNat)
      (run (guestExec json mapping.module depth) (mapping.asc.kasgraphAlloc len) inst) := by
  apply AscRuntime.Works.bind (sound.allocates depth len.toUInt32.toNat inst formed)
  intro ptr middle grown allocated
  obtain ⟨placed, fresh, below⟩ := allocated
  refine ⟨grown, ?_, ?_, ?_⟩
  · simpa only [UInt32.toUInt32_toInt32] using placed
  · simpa only [UInt32.toUInt32_toInt32] using fresh
  · simpa only [UInt32.toUInt32_toInt32] using below

theorem i32Length_some {bytes : List UInt8} {len : Int32} (fits : i32Length bytes = some len) :
    len = Int32.ofNat bytes.length ∧ len.toUInt32.toNat = bytes.length := by
  unfold i32Length at fits
  split at fits
  · have whole := (Option.some.inj fits).symm
    refine ⟨whole, ?_⟩
    rw [whole, toNat_ofNat_length (by omega)]
  · cases fits

/-- Bytes that the host writes into the block it was handed. -/
theorem handed_over {middle : Instance γ} {bytes : List UInt8} {ptr len : Int32}
    {memory : LinearMemory} (fits : i32Length bytes = some len)
    (grown : mapping.asc.Grows inst middle)
    (allotted : mapping.Allotted inst len.toUInt32.toNat ptr middle)
    (wrote : writeGuestBytes middle.memory ptr bytes = some memory) :
    mapping.asc.Grows inst { middle with memory } ∧
      mapping.asc.Holds { middle with memory } ptr len bytes := by
  obtain ⟨whole, size⟩ := i32Length_some fits
  unfold writeGuestBytes at wrote
  split at wrote
  · cases wrote
  · rename_i positive
    have start : ptr.toInt.toNat = ptr.toUInt32.toNat := by
      have read := @toUsize_nonneg ptr "" positive
      unfold toUsize at read
      rw [if_neg positive] at read
      exact Except.ok.inj read
    rw [start] at wrote
    refine ⟨AscRuntime.grows_write grown allotted.fresh wrote, ?_⟩
    exact {
      length := whole
      placed := allotted.placed
      below := by
        have below := allotted.below
        rw [size] at below
        exact below
      read := LinearMemory.read_write_self wrote }

/-- The host re-enters the allocator for a hit and writes into the fresh block. -/
theorem handBuffer_works (sound : mapping.Sound json) (formed : mapping.asc.Formed inst)
    (value : Value) :
    mapping.asc.Works inst (mapping.Answers json (some value))
      (handBuffer mapping.module
        (fun _ program inst => run (guestExec json mapping.module depth) program inst) inst
        (json.text value).toUTF8.toList) := by
  unfold handBuffer
  cases fits : i32Length (json.text value).toUTF8.toList with
  | none => exact rfl
  | some len =>
      have allocated := kasgraphAlloc_works sound formed depth len
      simp only [reenterAlloc_module]
      rcases ran : run (guestExec json mapping.module depth) (mapping.asc.kasgraphAlloc len) inst
        with ⟨trap | ptr, middle⟩
      · rw [ran] at allocated
        exact allocated
      · rw [ran] at allocated
        obtain ⟨grown, allotted⟩ := allocated
        simp only [exportsMemory_module, Bool.not_true, Bool.false_eq_true, if_false]
        cases wrote : writeGuestBytes middle.memory ptr (json.text value).toUTF8.toList with
        | none => exact grown.host
        | some memory =>
            obtain ⟨grown', holds⟩ := handed_over fits grown allotted wrote
            exact ⟨grown', ptr, len, rfl, holds⟩

theorem storeGet_works (sound : mapping.Sound json)
    (related : mapping.Related json entities state inst) {entity id : String}
    {entityPtr entityLen idPtr idLen : Int32}
    (entityHolds : mapping.asc.Holds inst entityPtr entityLen entity.toUTF8.toList)
    (idHolds : mapping.asc.Holds inst idPtr idLen id.toUTF8.toList) :
    mapping.asc.Works inst (mapping.Answers json entities[(entity, id)]?)
      (run (guestExec json mapping.module depth)
        (Guest.perform (.storeGet entityPtr entityLen idPtr idLen)) inst) := by
  have looked : ∃ execute, run (guestExec json mapping.module depth)
      (Guest.perform (.storeGet entityPtr entityLen idPtr idLen)) inst =
        hostStoreGet mapping.module execute inst entityPtr entityLen idPtr idLen ∧
      ∀ value, mapping.asc.Works inst (mapping.Answers json (some value))
        (handBuffer mapping.module execute inst (json.text value).toUTF8.toList) := by
    cases depth with
    | zero =>
        refine ⟨_, run_perform _ _ _, ?_⟩
        intro value
        unfold handBuffer
        split
        · exact rfl
        · exact rfl
    | succ depth =>
        refine ⟨_, run_perform _ _ _, ?_⟩
        intro value
        exact handBuffer_works sound related.2 value
  obtain ⟨execute, performed, hands⟩ := looked
  rw [performed]
  unfold hostStoreGet readKey readGuestString
  rcases readGuestBytes_holds exportsMemory_module related.2 entityHolds with
    readEntity | ⟨trap, refused⟩
  · rcases readGuestBytes_holds exportsMemory_module related.2 idHolds with
      readId | ⟨trap, refused⟩
    · rw [readEntity, readId]
      simp only [Functor.map, Except.map, bind, Except.bind, pure, Except.pure,
        fromUtf8Lossy_toUTF8]
      have found : inst.host.entities[(entity, id)]? =
          (entities[(entity, id)]?).map (Json.toVec json.floats) := by
        rw [related.1]
        exact Std.ExtTreeMap.getElem?_map
      rw [found]
      cases entities[(entity, id)]? with
      | none => exact ⟨AscRuntime.Grows.refl related.2, rfl⟩
      | some value => exact hands value
    · rw [readEntity, refused]
      exact rfl
  · rw [refused]
    exact rfl

theorem storeGet_simulates (sound : mapping.Sound json)
    (related : mapping.Related json entities state inst) (entity id : String) :
    Simulates (mapping.Related json entities) Stands Excused
      (sdkMeaning lib json entities (.get entity id) state)
      (run (guestExec json mapping.module depth) (mapping.storeGet entity id) inst) := by
  apply simulates_bind related (encode_works sound related.2 entity)
  intro entityBlock middle grown entityHolds
  have here := related.grows grown
  apply simulates_bind here (encode_works sound here.2 id)
  intro idBlock last grown' idHolds
  have there := here.grows grown'
  apply simulates_bind there
    (storeGet_works sound there (entityHolds.grows here.2 grown') idHolds)
  intro packed final grown'' answers
  have end' := there.grows grown''
  unfold sdkMeaning
  cases found : entities[(entity, id)]? with
  | none =>
      rw [found] at answers
      have zero : packed = 0 := answers
      simp only [zero, if_true]
      exact ⟨state, by simp only [found], end'⟩
  | some value =>
      rw [found] at answers
      obtain ⟨ptr, len, rfl, holds⟩ := answers
      have placed : ptr ≠ 0 := by
        intro zero
        have positive := holds.placed
        rw [zero] at positive
        exact absurd positive (by decide)
      simp only [packPointer_ne_zero len placed, if_false, unpackPtr_packPointer,
        unpackLen_packPointer]
      rw [run_bind_of_ok _ (run_decodeUnsafe sound end'.2 holds)]
      unfold parseObj
      cases parsed : lib.parse (json.text value) with
      | none =>
          left
          change final.host.decodeError = none
          rw [end'.1]
          rfl
      | some obj => exact ⟨state, by simp only [found, parsed], end'⟩

/-- A lowered operation does what the operation means. -/
theorem lower_simulates (sound : mapping.Sound json) (op : SdkOp lib.Obj)
    (related : mapping.Related json entities state inst) :
    Simulates (mapping.Related json entities) Stands Excused
      (sdkMeaning lib json entities op state)
      (run (guestExec json mapping.module depth) (mapping.lower op) inst) := by
  apply simulates_bind related (sound.works depth op inst related.2)
  intro _ middle grown _
  have here := related.grows grown
  cases op with
  | log level message => exact log_simulates sound here level message
  | get entity id => exact storeGet_simulates sound here entity id
  | set entity id data => exact storeSet_simulates sound here entity id data

/-! ## Dispatch -/

theorem lowerHandler_simulates (sound : mapping.Sound json) (depth : Nat)
    (handler : Handler lib.Obj) (event : MappingEvent) {ptr len : Int32}
    (related : mapping.Related json entities ⟨[], []⟩ inst)
    (holds : mapping.asc.Holds inst ptr len (json.text (eventDocument event)).toUTF8.toList) :
    Simulates (mapping.Related json entities) Stands Excused
      (handlerMeaning lib json entities handler event)
      (run (guestExec json mapping.module depth) (mapping.lowerHandler handler ptr len) inst) := by
  unfold lowerHandler decodeEvent handlerMeaning
  simp only [bind_assoc]
  apply simulates_bind related (sound.decodeWorks depth inst related.2)
  intro _ middle grown _
  have here := related.grows grown
  rw [run_bind_of_ok _ (run_decodeUnsafe sound here.2 (holds.grows related.2 grown))]
  unfold parseObj
  cases lib.parse (json.text (eventDocument event)) with
  | none =>
      left
      change middle.host.decodeError = none
      rw [here.1]
      rfl
  | some root =>
      apply interpret_simulates
      · intro op state below held
        exact lower_simulates sound op held
      · intro stop state below held message refused
        rw [held.1] at refused
        cases refused
      · exact here

/-- The runtime of a built mapping. -/
def runtime (mapping : CompiledMapping γ lib) (json : HostJson) (fuelLimit stackDepth : Nat) :
    GuestRuntime γ where
  module := mapping.module
  json
  fuelLimit
  stackDepth

variable {fuelLimit stackDepth : Nat}

theorem executed (program : Guest γ α) :
    (mapping.runtime json fuelLimit stackDepth).execute program inst =
      run (guestExec json mapping.module stackDepth) program inst := rfl

theorem instantiate_related (sound : mapping.Sound json)
    (ready : (mapping.runtime json fuelLimit stackDepth).instantiate
      (hostOf json entities ⟨[], []⟩) = .ok inst) :
    mapping.Related json entities ⟨[], []⟩ inst := by
  unfold GuestRuntime.instantiate at ready
  split at ready
  · cases ready
  · rcases ran : (mapping.runtime json fuelLimit stackDepth).execute
        (mapping.runtime json fuelLimit stackDepth).module.start
        ⟨(mapping.runtime json fuelLimit stackDepth).module.memory,
          (mapping.runtime json fuelLimit stackDepth).module.globals,
          (mapping.runtime json fuelLimit stackDepth).fuelLimit, hostOf json entities ⟨[], []⟩⟩
      with ⟨trap | answer, after⟩
    · rw [ran] at ready
      cases ready
    · rw [ran] at ready
      rw [← Except.ok.inj ready]
      exact sound.starts stackDepth _ rfl rfl after ran

theorem placeEvent_holds (sound : mapping.Sound json)
    (related : mapping.Related json entities state inst) {handler : String} {bytes : List UInt8}
    {ptr len : Int32} {after : Instance γ}
    (placed : (mapping.runtime json fuelLimit stackDepth).placeEvent handler
      mapping.asc.kasgraphAlloc bytes inst = .ok (ptr, len, after)) :
    mapping.Related json entities state after ∧ mapping.asc.Holds after ptr len bytes := by
  unfold GuestRuntime.placeEvent at placed
  cases fits : i32Length bytes with
  | none =>
      rw [fits] at placed
      cases placed
  | some length =>
      rw [fits] at placed
      have allocated := kasgraphAlloc_works sound related.2 stackDepth length
      simp only [executed] at placed
      rcases ran : run (guestExec json mapping.module stackDepth) (mapping.asc.kasgraphAlloc length)
        inst with ⟨trap | start, middle⟩
      · rw [ran] at placed
        cases placed
      · rw [ran] at placed allocated
        obtain ⟨grown, allotted⟩ := allocated
        simp only at placed
        cases wrote : writeGuestBytes middle.memory start bytes with
        | none =>
            rw [wrote] at placed
            cases placed
        | some memory =>
            rw [wrote] at placed
            cases placed
            obtain ⟨grown', holds⟩ := handed_over fits grown allotted wrote
            exact ⟨related.grows grown', holds⟩

theorem requiredExports_module {handler : String} {items}
    (exported : (mapping.runtime json fuelLimit stackDepth).requiredExports handler = .ok items) :
    ∃ body, mapping.handlers.lookup handler = some body ∧
      items = (mapping.asc.kasgraphAlloc, mapping.lowerHandler body) := by
  unfold GuestRuntime.requiredExports at exported
  simp only [runtime, exportsMemory_module, Bool.not_true, Bool.false_eq_true, if_false,
    exports_alloc] at exported
  simp only [module, exports] at exported
  split at exported
  · rename_i found
    split at found
    · cases found
    · split at found
      · cases found
      · cases body : mapping.handlers.lookup handler with
        | none =>
            rw [body] at found
            cases found
        | some body' =>
            rw [body] at found
            cases found
            exact ⟨body', rfl, (Except.ok.inj exported).symm⟩
  · cases exported

/-- A call that is ready runs the lowered handler on the event. -/
theorem prepare_related (sound : mapping.Sound json) {event : MappingEvent}
    {call : GuestRuntime.HandlerCall γ}
    (ready : (mapping.runtime json fuelLimit stackDepth).prepare event
      (hostOf json entities ⟨[], []⟩) = .ok call) :
    ∃ handler, mapping.handlers.lookup event.handler = some handler ∧
      call.body = mapping.lowerHandler handler ∧
      mapping.Related json entities ⟨[], []⟩ call.inst ∧
      mapping.asc.Holds call.inst call.ptr call.len
        (json.text (eventDocument event)).toUTF8.toList := by
  unfold GuestRuntime.prepare at ready
  cases started : (mapping.runtime json fuelLimit stackDepth).instantiate
    (hostOf json entities ⟨[], []⟩) with
  | error cause =>
      rw [started] at ready
      cases ready
  | ok inst =>
      rw [started] at ready
      cases exported : (mapping.runtime json fuelLimit stackDepth).requiredExports event.handler with
      | error cause =>
          rw [exported] at ready
          cases ready
      | ok items =>
          rw [exported] at ready
          obtain ⟨handler, found, rfl⟩ := requiredExports_module exported
          have related := instantiate_related sound started
          change ((mapping.runtime json fuelLimit stackDepth).placeEvent event.handler
            mapping.asc.kasgraphAlloc
            ((mapping.runtime json fuelLimit stackDepth).eventInput event) inst >>= _) = _ at ready
          cases placed : (mapping.runtime json fuelLimit stackDepth).placeEvent event.handler
            mapping.asc.kasgraphAlloc
            ((mapping.runtime json fuelLimit stackDepth).eventInput event) inst with
          | error cause =>
              rw [placed] at ready
              cases ready
          | ok place =>
              rw [placed] at ready
              cases ready
              obtain ⟨related', holds⟩ := placeEvent_holds sound related placed
              exact ⟨handler, found, rfl, related', holds⟩

/-- A call that is made does what the handler means, or it stops. -/
theorem callHandler_means (sound : mapping.Sound json) (fuelLimit stackDepth : Nat)
    {event : MappingEvent}
    {call : GuestRuntime.HandlerCall γ} {handler : Handler lib.Obj}
    (body : call.body = mapping.lowerHandler handler)
    (related : mapping.Related json entities ⟨[], []⟩ call.inst)
    (holds : mapping.asc.Holds call.inst call.ptr call.len
      (json.text (eventDocument event)).toUTF8.toList) :
    match (mapping.runtime json fuelLimit stackDepth).callHandler event.handler call with
    | .ok report => handlerMeaning lib json entities handler event =
        (.ok (), ⟨report.logs, report.entityOps⟩)
    | .error cause => ∀ message, cause = .decodePayload message →
        ∃ e state, handlerMeaning lib json entities handler event =
          (.error (.malformed e), state) ∧ message = malformedWrite e := by
  have simulated := lowerHandler_simulates sound stackDepth handler event related holds
  unfold GuestRuntime.callHandler
  rw [body, executed]
  rcases ran : run (guestExec json mapping.module stackDepth)
    (mapping.lowerHandler handler call.ptr call.len) call.inst with ⟨trap | answer, after⟩
  all_goals rw [ran] at simulated
  · rcases simulated with excused | ⟨stop, state, meant, stands⟩
    · have none : after.host.decodeError = none := excused
      simp only [none]
      intro message same
      cases trap <;> cases same
    · cases refused : after.host.decodeError with
      | none =>
          simp only [refused]
          intro message same
          cases trap <;> cases same
      | some text =>
          simp only [refused]
          intro message same
          obtain ⟨e, rfl, shape⟩ := stands text refused
          cases same
          exact ⟨e, state, meant, shape⟩
  · obtain ⟨state, meant, related'⟩ := simulated
    simp only
    rw [meant, related'.1]
    rfl

/-- A dispatch that succeeds answers what the handler means. -/
theorem dispatch_ok_means (sound : mapping.Sound json) {event : MappingEvent}
    {report : DispatchReport}
    (dispatched : (mapping.runtime json fuelLimit stackDepth).dispatchWithEntities event entities =
      .ok report) :
    ∃ handler, mapping.handlers.lookup event.handler = some handler ∧
      handlerMeaning lib json entities handler event =
        (.ok (), ⟨report.logs, report.entityOps⟩) := by
  change (mapping.runtime json fuelLimit stackDepth).prepare event
      (hostOf json entities ⟨[], []⟩) >>=
        (mapping.runtime json fuelLimit stackDepth).callHandler event.handler = _ at dispatched
  cases ready : (mapping.runtime json fuelLimit stackDepth).prepare event
    (hostOf json entities ⟨[], []⟩) with
  | error cause =>
      rw [ready] at dispatched
      cases dispatched
  | ok call =>
      rw [ready] at dispatched
      obtain ⟨handler, found, body, related, holds⟩ := prepare_related sound ready
      have means := callHandler_means sound fuelLimit stackDepth body related holds
      have called : (mapping.runtime json fuelLimit stackDepth).callHandler event.handler call =
        .ok report := dispatched
      rw [called] at means
      exact ⟨handler, found, means⟩

/-- A dispatch of a built mapping answers what the handler means on the event and the committed
entities; a payload is refused only for a write that the handler means and the host cannot read. -/
theorem dispatch_means_handler (mapping : CompiledMapping γ lib) (json : HostJson)
    (fuelLimit stackDepth : Nat) (sound : mapping.Sound json) (event : MappingEvent)
    (entities : EntitySnapshot) :
    match (mapping.runtime json fuelLimit stackDepth).dispatchWithEntities event entities with
    | .ok report => ∃ handler, mapping.handlers.lookup event.handler = some handler ∧
        handlerMeaning lib json entities handler event =
          (.ok (), ⟨report.logs, report.entityOps⟩)
    | .error cause => ∀ message, cause = .decodePayload message →
        ∃ handler e state, mapping.handlers.lookup event.handler = some handler ∧
          handlerMeaning lib json entities handler event = (.error (.malformed e), state) ∧
          message = malformedWrite e := by
  cases dispatched : (mapping.runtime json fuelLimit stackDepth).dispatchWithEntities event
    entities with
  | ok report => exact dispatch_ok_means sound dispatched
  | error cause =>
      intro message same
      change (mapping.runtime json fuelLimit stackDepth).prepare event
          (hostOf json entities ⟨[], []⟩) >>=
            (mapping.runtime json fuelLimit stackDepth).callHandler event.handler = _ at dispatched
      cases ready : (mapping.runtime json fuelLimit stackDepth).prepare event
        (hostOf json entities ⟨[], []⟩) with
      | error stopped =>
          rw [ready] at dispatched
          cases dispatched
          exact absurd same (GuestRuntime.prepare_error ready message)
      | ok call =>
          rw [ready] at dispatched
          obtain ⟨handler, found, body, related, holds⟩ := prepare_related sound ready
          have means := callHandler_means sound fuelLimit stackDepth body related holds
          have called : (mapping.runtime json fuelLimit stackDepth).callHandler event.handler call =
            .error cause := dispatched
          rw [called] at means
          obtain ⟨e, state, meant, shape⟩ := means message same
          exact ⟨handler, e, state, found, meant, shape⟩

/-! ## A built mapping -/

/-- The bump allocator of the compiler, short of growing the memory. -/
def stubAlloc (size : Nat) : Guest Nat UInt32 := do
  let offset ← Guest.perform .globalGet
  let pages ← Guest.perform .memorySize
  let after := offset + 4 + ((size + 19) / 16 * 16 - 4)
  if after ≤ pages * LinearMemory.pageSize then
    Guest.perform (.globalSet after)
    return UInt32.ofNat (offset + 4)
  else
    .fail abortTrap

theorem run_stubAlloc (json : HostJson) (module : GuestModule Nat) (depth size : Nat)
    (inst : Instance Nat) :
    run (guestExec json module depth) (stubAlloc size) inst =
      if inst.globals + 4 + ((size + 19) / 16 * 16 - 4) ≤ inst.memory.size then
        (.ok (UInt32.ofNat (inst.globals + 4)),
          { inst with globals := inst.globals + 4 + ((size + 19) / 16 * 16 - 4) })
      else
        (.error abortTrap, inst) := by
  have opened : run (guestExec json module depth) (stubAlloc size) inst =
      run (guestExec json module depth)
        (if inst.globals + 4 + ((size + 19) / 16 * 16 - 4) ≤
            inst.memory.pages * LinearMemory.pageSize then do
          Guest.perform (.globalSet (inst.globals + 4 + ((size + 19) / 16 * 16 - 4)))
          return UInt32.ofNat (inst.globals + 4)
        else .fail abortTrap) inst := by
    cases depth <;> rfl
  rw [opened]
  unfold LinearMemory.size
  split
  · cases depth <;> rfl
  · rfl

def stubRuntime : AscRuntime Nat where
  top := id
  alloc := stubAlloc
  decodeUtf8 := fromUtf8Lossy

theorem stubAlloc_works (json : HostJson) (module : GuestModule Nat) (depth size : Nat)
    (inst : Instance Nat) :
    stubRuntime.Works inst
      (fun ptr after => 0 < ptr.toNat ∧ stubRuntime.top inst.globals ≤ ptr.toNat ∧
        ptr.toNat + size ≤ stubRuntime.top after.globals)
      (run (guestExec json module depth) (stubRuntime.alloc size) inst) := by
  change stubRuntime.Works _ _ (run _ (stubAlloc size) inst)
  rw [run_stubAlloc]
  split
  · rename_i inside
    have bounded := inst.memory.bounded
    have room : inst.memory.size ≤ 65536 * 65536 := by
      unfold LinearMemory.size LinearMemory.pageSize
      omega
    have small : inst.globals + 4 < 2 ^ 32 := by omega
    have ptr : (UInt32.ofNat (inst.globals + 4)).toNat = inst.globals + 4 :=
      UInt32.toNat_ofNat_of_lt' small
    constructor
    · constructor
      · rfl
      · change inst.globals ≤ inst.globals + 4 + _
        omega
      · exact inside
      · intro address _
        rfl
    · change 0 < (UInt32.ofNat (inst.globals + 4)).toNat ∧
        inst.globals ≤ (UInt32.ofNat (inst.globals + 4)).toNat ∧
        (UInt32.ofNat (inst.globals + 4)).toNat + size ≤
          inst.globals + 4 + ((size + 19) / 16 * 16 - 4)
      omega
  · rfl

/-- Insert or replace a field of an object that keeps the order of insertion. -/
def putField (obj : Value) (key : String) (value : Value) : Value :=
  match obj with
  | .object fields =>
      if fields.any fun field => field.1 == key then
        .object (fields.map fun field => if field.1 == key then (key, value) else field)
      else
        .object (fields ++ [(key, value)])
  | other => other

/-- A JSON library that reads the texts of some documents. -/
def documentJson (documents : List Value) : GuestJson where
  Obj := Value
  parse text := documents.find? fun document => document.text (fun _ => "0.0") = text
  stringify := Value.text fun _ => "0.0"
  empty := .object []
  setString obj key value := putField obj key (.string value)
  setInteger obj key value := putField obj key
    (.number (if value < 0 then .negInt value else .posInt value.toUInt64))
  setBool obj key value := putField obj key (.bool value)
  setObj obj key value := putField obj key value
  getString obj key := (obj.get? key).bind Value.asStr?
  getInteger obj key := (obj.get? key).bind fun
    | .number (.posInt n) => some n.toInt64
    | .number (.negInt n) => some n
    | _ => none
  getBool obj key := (obj.get? key).bind fun
    | .bool b => some b
    | _ => none
  getObj obj key := (obj.get? key).bind fun
    | .object fields => some (.object fields)
    | _ => none

def documentHost (documents : List Value) : HostJson where
  floats _ := "0.0"
  entityOp bytes := match documents.find? fun document =>
      Json.toVec (fun _ => "0.0") document = bytes with
    | some document => match document.get? "entity", document.get? "id", document.get? "data" with
        | some (.string entity), some (.string id), some data => .ok ⟨entity, id, data⟩
        | _, _, _ => .error "missing field"
    | none => .error "expected value"

def spawn : MappingEvent := ⟨7, "aa", .null, "onSpawn"⟩

def owned : Value := .object [("owner", .string "kim")]

def tokenWrite : Value :=
  .object [("entity", .string "Token"), ("id", .string "aa"),
    ("data", .object [("holder", .string "kim")])]

/-- A mapping that records a token for the owner of its configuration. -/
def tokenMapping : CompiledMapping Nat (documentJson [eventDocument spawn, owned]) where
  asc := stubRuntime
  imports := hostFunctions
  memory := ⟨1, LinearMemory.one_bounded, fun _ => 0⟩
  globals := 1024
  start := .done ()
  decodeWork := .done ()
  work _ := .done ()
  handlers := [("onSpawn", fun event => do
    let config ← MappingProgram.get "Config" "main"
    let holder := (documentJson [eventDocument spawn, owned]).objStr config "owner"
    MappingProgram.set "Token" event.blockHash (.object [("holder", .string holder)])
    MappingProgram.log logInfo ("token of " ++ holder))]

theorem tokenMapping_sound : tokenMapping.Sound (documentHost [tokenWrite]) where
  decodes := fromUtf8Lossy_toUTF8
  allocates depth size inst _ := stubAlloc_works _ _ depth size inst
  decodeWorks _ inst formed := AscRuntime.Works.done formed trivial
  works _ _ inst formed := AscRuntime.Works.done formed trivial
  starts depth inst memory globals after ran := by
    cases ran
    refine ⟨rfl, ?_⟩
    change inst.globals ≤ inst.memory.size
    rw [memory, globals]
    decide

theorem tokenMapping_records_token :
    ∃ handler, tokenMapping.handlers.lookup "onSpawn" = some handler ∧
      handlerMeaning (documentJson [eventDocument spawn, owned]) (documentHost [tokenWrite])
        (.ofList [(("Config", "main"), owned)]) handler spawn =
          (.ok (), ⟨[⟨1, "token of kim"⟩],
            [⟨"Token", "aa", .object [("holder", .string "kim")]⟩]⟩) := by
  have means := dispatch_means_handler tokenMapping (documentHost [tokenWrite]) 100000 8
    tokenMapping_sound spawn (.ofList [(("Config", "main"), owned)])
  have dispatched : ((tokenMapping.runtime (documentHost [tokenWrite]) 100000 8).dispatchWithEntities
      spawn (.ofList [(("Config", "main"), owned)])) =
        .ok ⟨[⟨1, "token of kim"⟩], [⟨"Token", "aa", .object [("holder", .string "kim")]⟩], 0⟩ := by
    decide +kernel
  rw [dispatched] at means
  exact means

end CompiledMapping

end KasGraph
