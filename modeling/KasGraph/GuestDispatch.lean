import KasGraph.GuestRuntime
import KasGraph.Interference

set_option autoImplicit false

/-! What a dispatch depends on and what it reports, for any guest whatever. It depends on the
snapshot through the keys it looks up; it reports every write it was handed, in order, or the
error of the one that could not be read. -/

namespace KasGraph

open EffectProgram
open Json (Value)

variable {γ ω : Type}

/-! ## What guest code asks of the host -/

section Notes

variable (json : HostJson) (module : GuestModule γ)

/-- The note of an operation itself, and those made while the guest allocates for a hit. -/
def noteWith (own : GuestOp γ → Instance γ → List ω)
    (nested : Guest γ Int32 → Instance γ → List ω) (op : GuestOp γ) (inst : Instance γ) : List ω :=
  own op inst ++ match op with
    | .storeGet entityPtr entityLen idPtr idLen =>
        match readKey module inst entityPtr entityLen idPtr idLen with
        | .error _ => []
        | .ok key =>
            match inst.host.entities[key]?.bind i32Length, module.exports "kasgraph_alloc" with
            | some len, some (.alloc body) => nested (body len) inst
            | _, _ => []
    | _ => []

def hostNote (own : GuestOp γ → Instance γ → List ω) : Nat → GuestOp γ → Instance γ → List ω
  | 0 => noteWith module own fun _ _ => []
  | depth + 1 =>
      noteWith module own (runLog (guestExec json module depth) (hostNote own depth))

/-- The key an operation looks up. -/
def keyOf (op : GuestOp γ) (inst : Instance γ) : List (String × String) :=
  match op with
  | .storeGet entityPtr entityLen idPtr idLen =>
      (readKey module inst entityPtr entityLen idPtr idLen).toOption.toList
  | _ => []

/-- The block of bytes an operation hands over as an entity write. -/
def blockOf (op : GuestOp γ) (inst : Instance γ) : List (List UInt8) :=
  match op with
  | .storeSet ptr len => (readGuestBytes module inst ptr len).toOption.toList
  | _ => []

end Notes

namespace GuestRuntime

variable (runtime : GuestRuntime γ) (own : GuestOp γ → Instance γ → List ω)

def notes {α : Type} (program : Guest γ α) (inst : Instance γ) : List ω :=
  runLog (guestExec runtime.json runtime.module runtime.stackDepth)
    (hostNote runtime.json runtime.module own runtime.stackDepth) program inst

/-- What is noted before the handler is called: of the start function and of the allocator. -/
def earlyNotes (event : MappingEvent) (host : HostState) : List ω :=
  runtime.notes own runtime.module.start
      ⟨runtime.module.memory, runtime.module.globals, runtime.fuelLimit, host⟩ ++
    match runtime.instantiate host, runtime.requiredExports event.handler,
        i32Length (runtime.eventInput event) with
    | .ok inst, .ok (alloc, _), some len => runtime.notes own (alloc len) inst
    | _, _, _ => []

/-- What is noted of the handler. -/
def handlerNotes (event : MappingEvent) (host : HostState) : List ω :=
  match runtime.prepare event host with
  | .ok call => runtime.notes own (call.body call.ptr call.len) call.inst
  | .error _ => []

/-- The keys a dispatch looks up. -/
def lookedUp (event : MappingEvent) (host : HostState) : List (String × String) :=
  runtime.earlyNotes (keyOf runtime.module) event host ++
    runtime.handlerNotes (keyOf runtime.module) event host

end GuestRuntime

/-! ## Reading another snapshot -/

/-- The same instance, reading another snapshot. -/
def Instance.reading (inst : Instance γ) (entities : OrderedMap (String × String) (List UInt8)) :
    Instance γ :=
  { inst with host := { inst.host with entities } }

/-- Two instances that differ in the snapshot they read. -/
def Reading (first second : OrderedMap (String × String) (List UInt8)) (left right : Instance γ) :
    Prop :=
  left.host.entities = first ∧ right = left.reading second

section Reading

variable {json : HostJson} {module : GuestModule γ}
  {first second : OrderedMap (String × String) (List UInt8)}

/-- Nested runs agree when the keys they look up do. -/
def NestedAgree (first second : OrderedMap (String × String) (List UInt8))
    (execute : (α : Type) → Guest γ α → Instance γ → Except Trap α × Instance γ)
    (nested : Guest γ Int32 → Instance γ → List (String × String)) : Prop :=
  ∀ program left right, Reading first second left right →
    (∀ key ∈ nested program left, first[key]? = second[key]?) →
    (execute Int32 program left).1 = (execute Int32 program right).1 ∧
      Reading first second (execute Int32 program left).2 (execute Int32 program right).2

variable {execute : (α : Type) → Guest γ α → Instance γ → Except Trap α × Instance γ}
  {nested : Guest γ Int32 → Instance γ → List (String × String)} {left right : Instance γ}

theorem handBuffer_reading (same : Reading first second left right) {bytes : List UInt8}
    (reenter : ∀ len body, i32Length bytes = some len →
      module.exports "kasgraph_alloc" = some (.alloc body) →
      (execute Int32 (body len) left).1 = (execute Int32 (body len) right).1 ∧
        Reading first second (execute Int32 (body len) left).2 (execute Int32 (body len) right).2) :
    (handBuffer module execute left bytes).1 = (handBuffer module execute right bytes).1 ∧
      Reading first second (handBuffer module execute left bytes).2
        (handBuffer module execute right bytes).2 := by
  unfold handBuffer
  cases fits : i32Length bytes with
  | none => exact ⟨rfl, same⟩
  | some len =>
      unfold reenterAlloc
      cases exported : module.exports "kasgraph_alloc" with
      | none => exact ⟨rfl, same⟩
      | some item =>
          cases item with
          | memory => exact ⟨rfl, same⟩
          | handler body => exact ⟨rfl, same⟩
          | function => exact ⟨rfl, same⟩
          | other => exact ⟨rfl, same⟩
          | alloc body =>
              obtain ⟨answers, after⟩ := reenter len body fits exported
              rcases ranLeft : execute Int32 (body len) left with ⟨answer, leftAfter⟩
              rcases ranRight : execute Int32 (body len) right with ⟨answer', rightAfter⟩
              rw [ranLeft, ranRight] at answers after
              have equal : answer = answer' := answers
              obtain ⟨here, moved⟩ : Reading first second leftAfter rightAfter := after
              subst equal moved
              have memory : (leftAfter.reading second).memory = leftAfter.memory := rfl
              simp only [ranLeft, ranRight]
              cases answer with
              | error trap => exact ⟨rfl, here, rfl⟩
              | ok ptr =>
                  simp only [memory]
                  by_cases hidden : (!module.exportsMemory) = true
                  · simp only [if_pos hidden]
                    exact ⟨trivial, here, rfl⟩
                  · simp only [if_neg hidden]
                    cases writeGuestBytes leftAfter.memory ptr bytes <;> exact ⟨rfl, here, rfl⟩

theorem hostStoreGet_reading (agree : NestedAgree first second execute nested)
    (same : Reading first second left right) (entityPtr entityLen idPtr idLen : Int32)
    (noted : ∀ key ∈ noteWith module (keyOf module) nested
      (.storeGet entityPtr entityLen idPtr idLen) left, first[key]? = second[key]?) :
    (hostStoreGet module execute left entityPtr entityLen idPtr idLen).1 =
        (hostStoreGet module execute right entityPtr entityLen idPtr idLen).1 ∧
      Reading first second (hostStoreGet module execute left entityPtr entityLen idPtr idLen).2
        (hostStoreGet module execute right entityPtr entityLen idPtr idLen).2 := by
  have keys : readKey module right entityPtr entityLen idPtr idLen =
      readKey module left entityPtr entityLen idPtr idLen := by
    rw [same.2]
    rfl
  have snapshot : right.host.entities = second := by rw [same.2]; rfl
  unfold noteWith keyOf at noted
  unfold hostStoreGet
  rw [keys]
  cases named : readKey module left entityPtr entityLen idPtr idLen with
  | error trap => exact ⟨rfl, same⟩
  | ok key =>
      simp only [named, same.1] at noted
      have here := noted key (List.mem_append_left _ (List.mem_singleton_self key))
      simp only [same.1, snapshot, ← here]
      cases found : first[key]? with
      | none => exact ⟨rfl, same⟩
      | some bytes =>
          apply handBuffer_reading same
          intro len body fits exported
          apply agree (body len) left right same
          intro other member
          apply noted
          rw [found, Option.bind_some, fits, exported]
          exact List.mem_append_right _ member

theorem guestStep_reading (agree : NestedAgree first second execute nested) (op : GuestOp γ)
    (same : Reading first second left right)
    (noted : ∀ key ∈ noteWith module (keyOf module) nested op left,
      first[key]? = second[key]?) :
    (guestStep json module execute op left).1 = (guestStep json module execute op right).1 ∧
      Reading first second (guestStep json module execute op left).2
        (guestStep json module execute op right).2 := by
  cases op with
  | storeGet entityPtr entityLen idPtr idLen =>
      exact hostStoreGet_reading agree same entityPtr entityLen idPtr idLen noted
  | burn amount =>
      obtain ⟨here, rfl⟩ := same
      have fuel : (left.reading second).fuel = left.fuel := rfl
      simp only [guestStep, fuel]
      by_cases short : left.fuel < amount
      · simp only [if_pos short]
        exact ⟨trivial, here, rfl⟩
      · simp only [if_neg short]
        exact ⟨trivial, here, rfl⟩
  | load start length =>
      obtain ⟨here, rfl⟩ := same
      have memory : (left.reading second).memory = left.memory := rfl
      simp only [guestStep, memory]
      cases left.memory.read start length <;> exact ⟨rfl, here, rfl⟩
  | store start block =>
      obtain ⟨here, rfl⟩ := same
      have memory : (left.reading second).memory = left.memory := rfl
      simp only [guestStep, memory]
      cases left.memory.write start block <;> exact ⟨rfl, here, rfl⟩
  | memorySize =>
      obtain ⟨here, rfl⟩ := same
      exact ⟨rfl, here, rfl⟩
  | memoryGrow pages =>
      obtain ⟨here, rfl⟩ := same
      have memory : (left.reading second).memory = left.memory := rfl
      simp only [guestStep, memory]
      cases left.memory.grow pages <;> exact ⟨rfl, here, rfl⟩
  | globalGet =>
      obtain ⟨here, rfl⟩ := same
      exact ⟨rfl, here, rfl⟩
  | globalSet globals =>
      obtain ⟨here, rfl⟩ := same
      exact ⟨rfl, here, rfl⟩
  | log level ptr len =>
      obtain ⟨here, rfl⟩ := same
      have bytes : readGuestBytes module (left.reading second) ptr len =
          readGuestBytes module left ptr len := rfl
      simp only [guestStep, hostLog, bytes]
      cases readGuestBytes module left ptr len <;> exact ⟨rfl, here, rfl⟩
  | storeSet ptr len =>
      obtain ⟨here, rfl⟩ := same
      have bytes : readGuestBytes module (left.reading second) ptr len =
          readGuestBytes module left ptr len := rfl
      simp only [guestStep, hostStoreSet, bytes]
      cases readGuestBytes module left ptr len with
      | error trap => exact ⟨rfl, here, rfl⟩
      | ok block =>
          simp only
          cases json.entityOp block <;> exact ⟨rfl, here, rfl⟩

/-- By induction on the room for nested calls. -/
theorem guestExec_reading (depth : Nat) (op : GuestOp γ) (left right : Instance γ)
    (same : Reading first second left right)
    (noted : ∀ key ∈ hostNote json module (keyOf module) depth op left,
      first[key]? = second[key]?) :
    (guestExec json module depth op left).1 = (guestExec json module depth op right).1 ∧
      Reading first second (guestExec json module depth op left).2
        (guestExec json module depth op right).2 := by
  induction depth generalizing op left right with
  | zero =>
      apply guestStep_reading _ op same noted
      intro program before other alike _
      exact ⟨rfl, alike⟩
  | succ depth ih =>
      apply guestStep_reading _ op same noted
      intro program before other alike nested
      exact run_agree_of_log ih program alike nested

end Reading

namespace GuestRuntime

variable {runtime : GuestRuntime γ} {first second : OrderedMap (String × String) (List UInt8)}

/-- Guest code runs the same on another snapshot that agrees on the keys it looks up. -/
theorem execute_reading {α : Type} {program : Guest γ α} {inst : Instance γ}
    (here : inst.host.entities = first)
    (noted : ∀ key ∈ runtime.notes (keyOf runtime.module) program inst, first[key]? = second[key]?) :
    runtime.execute program (inst.reading second) =
        ((runtime.execute program inst).1, (runtime.execute program inst).2.reading second) ∧
      (runtime.execute program inst).2.host.entities = first := by
  have start : Reading first second inst (inst.reading second) := ⟨here, rfl⟩
  obtain ⟨answers, kept, moved⟩ := run_agree_of_log (guestExec_reading runtime.stackDepth) program
    start noted
  exact ⟨Prod.ext answers.symm moved, kept⟩

theorem instantiate_reading {host : HostState} (here : host.entities = first)
    (noted : ∀ key ∈ runtime.notes (keyOf runtime.module) runtime.module.start
      ⟨runtime.module.memory, runtime.module.globals, runtime.fuelLimit, host⟩,
        first[key]? = second[key]?) :
    runtime.instantiate { host with entities := second } =
        (·.reading second) <$> runtime.instantiate host ∧
      ∀ inst, runtime.instantiate host = .ok inst → inst.host.entities = first := by
  unfold instantiate
  cases runtime.module.imports.find? fun wanted => !hostFunctions.contains wanted with
  | some wanted => exact ⟨rfl, fun inst ok => by cases ok⟩
  | none =>
      obtain ⟨ran, kept⟩ := execute_reading here noted
      simp only [Instance.reading] at ran
      simp only [ran]
      rcases started : runtime.execute runtime.module.start ⟨runtime.module.memory,
        runtime.module.globals, runtime.fuelLimit, host⟩ with ⟨trap | answer, after⟩
      · exact ⟨rfl, fun inst ok => by cases ok⟩
      · rw [started] at kept
        refine ⟨rfl, fun inst ok => ?_⟩
        rw [← Except.ok.inj ok]
        exact kept

theorem placeEvent_reading (handler : String) {alloc : Int32 → Guest γ Int32} {input : List UInt8}
    {inst : Instance γ} (here : inst.host.entities = first)
    (noted : ∀ len, i32Length input = some len →
      ∀ key ∈ runtime.notes (keyOf runtime.module) (alloc len) inst, first[key]? = second[key]?) :
    runtime.placeEvent handler alloc input (inst.reading second) =
        (fun placed => (placed.1, placed.2.1, placed.2.2.reading second)) <$>
          runtime.placeEvent handler alloc input inst ∧
      ∀ placed, runtime.placeEvent handler alloc input inst = .ok placed →
        placed.2.2.host.entities = first := by
  unfold placeEvent
  cases fits : i32Length input with
  | none => exact ⟨rfl, fun placed ok => by cases ok⟩
  | some len =>
      obtain ⟨ran, kept⟩ := execute_reading here (noted len fits)
      simp only [ran]
      rcases allocated : runtime.execute (alloc len) inst with ⟨trap | ptr, after⟩
      · exact ⟨rfl, fun placed ok => by cases ok⟩
      · rw [allocated] at kept
        have memory : (after.reading second).memory = after.memory := rfl
        simp only [memory]
        cases writeGuestBytes after.memory ptr input with
        | none => exact ⟨rfl, fun placed ok => by cases ok⟩
        | some written =>
            refine ⟨rfl, fun placed ok => ?_⟩
            rw [← Except.ok.inj ok]
            exact kept

/-- An event that was placed has a length. -/
theorem placeEvent_fits {handler : String} {alloc : Int32 → Guest γ Int32} {input : List UInt8}
    {inst : Instance γ} {placed : Int32 × Int32 × Instance γ}
    (ok : runtime.placeEvent handler alloc input inst = .ok placed) :
    ∃ len, i32Length input = some len := by
  unfold placeEvent at ok
  cases fits : i32Length input with
  | none =>
      rw [fits] at ok
      cases ok
  | some len => exact ⟨len, rfl⟩

/-- Preparing the call gives the same call on the other snapshot. -/
theorem prepare_reading {event : MappingEvent} {host : HostState} (here : host.entities = first)
    (noted : ∀ key ∈ runtime.earlyNotes (keyOf runtime.module) event host,
      first[key]? = second[key]?) :
    runtime.prepare event { host with entities := second } =
        (fun call => { call with inst := call.inst.reading second }) <$> runtime.prepare event host ∧
      ∀ call, runtime.prepare event host = .ok call → call.inst.host.entities = first := by
  unfold earlyNotes at noted
  simp only [List.mem_append] at noted
  obtain ⟨started, starts⟩ := instantiate_reading here fun key member => noted key (Or.inl member)
  unfold prepare
  rw [started]
  cases ready : runtime.instantiate host with
  | error cause => exact ⟨rfl, fun call ok => by cases ok⟩
  | ok inst =>
      cases exported : runtime.requiredExports event.handler with
      | error cause => exact ⟨rfl, fun call ok => by cases ok⟩
      | ok items =>
          have nested : ∀ len, i32Length (runtime.eventInput event) = some len →
              ∀ key ∈ runtime.notes (keyOf runtime.module) (items.1 len) inst,
                first[key]? = second[key]? := by
            intro len fits key member
            apply noted
            simp only [ready, exported, fits]
            exact Or.inr member
          obtain ⟨placing, places⟩ := placeEvent_reading event.handler (starts inst ready) nested
          change (runtime.placeEvent event.handler items.1 (runtime.eventInput event)
            (inst.reading second) >>= _) = _ <$> (runtime.placeEvent event.handler items.1
              (runtime.eventInput event) inst >>= _) ∧ ∀ call, (runtime.placeEvent event.handler
                items.1 (runtime.eventInput event) inst >>= _) = .ok call → _
          rw [placing]
          cases placed : runtime.placeEvent event.handler items.1 (runtime.eventInput event) inst with
          | error cause => exact ⟨rfl, fun call ok => by cases ok⟩
          | ok place =>
              refine ⟨rfl, fun call ok => ?_⟩
              rw [← Except.ok.inj ok]
              exact places place placed

theorem callHandler_reading {handler : String} {call : HandlerCall γ}
    (here : call.inst.host.entities = first)
    (noted : ∀ key ∈ runtime.notes (keyOf runtime.module) (call.body call.ptr call.len) call.inst,
      first[key]? = second[key]?) :
    runtime.callHandler handler { call with inst := call.inst.reading second } =
      runtime.callHandler handler call := by
  obtain ⟨ran, -⟩ := execute_reading here noted
  unfold callHandler
  rw [ran]
  rcases runtime.execute (call.body call.ptr call.len) call.inst with ⟨trap | answer, after⟩ <;> rfl

/-- The outcome of a dispatch depends on the snapshot through the keys that the guest looks up. -/
theorem dispatch_reads_lookups (runtime : GuestRuntime γ) (event : MappingEvent)
    (entities others : EntitySnapshot)
    (same : ∀ key ∈ runtime.lookedUp event (HostState.fresh (runtime.serialized entities)),
      entities[key]? = others[key]?) :
    runtime.dispatchWithEntities event others = runtime.dispatchWithEntities event entities := by
  have reads : ∀ (snapshot : EntitySnapshot) (key : String × String),
      (runtime.serialized snapshot)[key]? =
        (snapshot[key]?).map (Json.toVec runtime.json.floats) :=
    fun snapshot key => Std.ExtTreeMap.getElem?_map
  have agree : ∀ key ∈ runtime.lookedUp event (HostState.fresh (runtime.serialized entities)),
      (runtime.serialized entities)[key]? = (runtime.serialized others)[key]? := by
    intro key member
    rw [reads, reads, same key member]
  have here : (HostState.fresh (runtime.serialized entities)).entities =
    runtime.serialized entities := rfl
  obtain ⟨prepared, prepares⟩ := prepare_reading here fun key member =>
    agree key (List.mem_append_left _ member)
  change (runtime.prepare event { HostState.fresh (runtime.serialized entities) with
    entities := runtime.serialized others } >>= runtime.callHandler event.handler) =
      (runtime.prepare event (HostState.fresh (runtime.serialized entities)) >>=
        runtime.callHandler event.handler)
  rw [prepared]
  cases ready : runtime.prepare event (HostState.fresh (runtime.serialized entities)) with
  | error cause => rfl
  | ok call =>
      apply callHandler_reading (prepares call ready)
      intro key member
      apply agree key (List.mem_append_right _ _)
      unfold handlerNotes
      rw [ready]
      exact member

/-- A mapping whose handler looks up one token and stops. -/
def tokenReader : GuestRuntime Unit where
  module := {
    imports := hostFunctions
    memory := ⟨1, LinearMemory.one_bounded, fun address =>
      if address = 0 then 84 else if address = 1 then 116 else 49⟩
    globals := ()
    start := .done ()
    exports := fun
      | "memory" => some .memory
      | "kasgraph_alloc" => some (.alloc fun _ => .done 1024)
      | "onSpawn" => some (.handler fun _ _ => do
          let _ ← Guest.perform (.storeGet 0 1 1 2)
          return ())
      | _ => none }
  json := ⟨fun _ => "0.0", fun _ => .error "unread"⟩
  fuelLimit := 1000
  stackDepth := 8

theorem tokenReader_reads_token :
    tokenReader.dispatchWithEntities ⟨1, "aa", .null, "onSpawn"⟩
        (.ofList [(("T", "t1"), Value.null), (("T", "t2"), Value.null)]) =
      tokenReader.dispatchWithEntities ⟨1, "aa", .null, "onSpawn"⟩
        (.ofList [(("T", "t1"), Value.null)]) :=
  tokenReader.dispatch_reads_lookups ⟨1, "aa", .null, "onSpawn"⟩
    (.ofList [(("T", "t1"), Value.null)])
    (.ofList [(("T", "t1"), Value.null), (("T", "t2"), Value.null)]) (by decide +kernel)

end GuestRuntime

/-! ## Entity writes -/

section Writes

variable {json : HostJson} {module : GuestModule γ}

/-- Every block was read as an entity write, and the host holds the writes in order. -/
def Collected (json : HostJson) (before : HostState) (blocks : List (List UInt8))
    (after : HostState) : Prop :=
  after.decodeError = before.decodeError ∧ ∃ ops : List EntityOp,
    blocks.map json.entityOp = ops.map Except.ok ∧ after.entityOps = before.entityOps ++ ops

/-- The last block could not be read, and the host holds the error. -/
def Refused (json : HostJson) (blocks : List (List UInt8)) (after : HostState) : Prop :=
  ∃ good bad e, blocks = good ++ [bad] ∧ (∀ block ∈ good, ∃ op, json.entityOp block = .ok op) ∧
    json.entityOp bad = .error e ∧ after.decodeError = some (malformedWrite e)

/-- The host accounts for the blocks it was handed: it collected all, or the run failed at one
that it refused. -/
def Accounted {α : Type} (json : HostJson) (before : HostState) (blocks : List (List UInt8))
    (result : Except Trap α × Instance γ) : Prop :=
  Collected json before blocks result.2.host ∨
    result.1.isOk = false ∧ Refused json blocks result.2.host

theorem Collected.refl (host : HostState) : Collected json host [] host :=
  ⟨rfl, [], rfl, (List.append_nil _).symm⟩

theorem Collected.each {before after : HostState} {blocks : List (List UInt8)}
    (collected : Collected json before blocks after) :
    ∀ block ∈ blocks, ∃ op, json.entityOp block = .ok op := by
  obtain ⟨-, ops, read, -⟩ := collected
  intro block member
  have listed : json.entityOp block ∈ blocks.map json.entityOp := List.mem_map_of_mem member
  rw [read] at listed
  obtain ⟨op, -, same⟩ := List.mem_map.mp listed
  exact ⟨op, same.symm⟩

theorem Collected.trans {before middle after : HostState} {first second : List (List UInt8)}
    (earlier : Collected json before first middle) (later : Collected json middle second after) :
    Collected json before (first ++ second) after := by
  obtain ⟨kept, ops, read, held⟩ := earlier
  obtain ⟨kept', ops', read', held'⟩ := later
  refine ⟨kept'.trans kept, ops ++ ops', ?_, ?_⟩
  · rw [List.map_append, List.map_append, read, read']
  · rw [held', held, List.append_assoc]

theorem Refused.after {before middle after : HostState} {first second : List (List UInt8)}
    (earlier : Collected json before first middle) (later : Refused json second after) :
    Refused json (first ++ second) after := by
  obtain ⟨good, bad, e, blocks, read, refused, kept⟩ := later
  refine ⟨first ++ good, bad, e, by rw [blocks, List.append_assoc], ?_, refused, kept⟩
  intro block member
  rcases List.mem_append.mp member with before' | after'
  · exact earlier.each block before'
  · exact read block after'

/-- What accounts for every operation accounts for a run. -/
theorem run_accounted {exec : Semantics (guestSignature γ) Trap (Instance γ)}
    {note : GuestOp γ → Instance γ → List (List UInt8)}
    (each : ∀ op inst, Accounted json inst.host (note op inst) (exec op inst))
    {α : Type} (program : Guest γ α) (inst : Instance γ) :
    Accounted json inst.host (runLog exec note program inst) (run exec program inst) := by
  induction program generalizing inst with
  | done value => exact Or.inl (Collected.refl inst.host)
  | fail reason => exact Or.inl (Collected.refl inst.host)
  | call op next ih =>
      have once := each op inst
      simp only [runLog, run]
      rcases performed : exec op inst with ⟨trap | reply, after⟩
      · rw [performed] at once
        simp only [List.append_nil]
        exact once
      · rw [performed] at once
        rcases once with collected | ⟨failed, -⟩
        · rcases ih reply after with rest | ⟨failed, refused⟩
          · exact Or.inl (collected.trans rest)
          · exact Or.inr ⟨failed, refused.after collected⟩
        · cases failed

variable {execute : (α : Type) → Guest γ α → Instance γ → Except Trap α × Instance γ}
  {nested : Guest γ Int32 → Instance γ → List (List UInt8)}

theorem handBuffer_accounted (inst : Instance γ) {bytes : List UInt8}
    (reenter : ∀ len body, i32Length bytes = some len →
      module.exports "kasgraph_alloc" = some (.alloc body) →
      Accounted json inst.host (nested (body len) inst) (execute Int32 (body len) inst)) :
    Accounted json inst.host
      (match i32Length bytes, module.exports "kasgraph_alloc" with
        | some len, some (.alloc body) => nested (body len) inst
        | _, _ => []) (handBuffer module execute inst bytes) := by
  unfold handBuffer
  cases fits : i32Length bytes with
  | none => exact Or.inl (Collected.refl inst.host)
  | some len =>
      unfold reenterAlloc
      cases exported : module.exports "kasgraph_alloc" with
      | none => exact Or.inl (Collected.refl inst.host)
      | some item =>
          cases item with
          | memory => exact Or.inl (Collected.refl inst.host)
          | handler body => exact Or.inl (Collected.refl inst.host)
          | function => exact Or.inl (Collected.refl inst.host)
          | other => exact Or.inl (Collected.refl inst.host)
          | alloc body =>
              have inner := reenter len body fits exported
              simp only
              rcases ran : execute Int32 (body len) inst with ⟨trap | ptr, after⟩
              · rw [ran] at inner
                rcases inner with collected | ⟨-, refused⟩
                · exact Or.inl collected
                · exact Or.inr ⟨rfl, refused⟩
              · rw [ran] at inner
                rcases inner with collected | ⟨failed, -⟩
                · apply Or.inl
                  simp only
                  split
                  · exact collected
                  · cases writeGuestBytes after.memory ptr bytes <;> exact collected
                · cases failed

theorem guestStep_accounted
    (reenter : ∀ program inst,
      Accounted json inst.host (nested program inst) (execute Int32 program inst))
    (op : GuestOp γ) (inst : Instance γ) :
    Accounted json inst.host (noteWith module (blockOf module) nested op inst)
      (guestStep json module execute op inst) := by
  have refl : Collected json inst.host [] inst.host := Collected.refl _
  cases op with
  | burn amount =>
      apply Or.inl
      simp only [guestStep]
      split <;> exact refl
  | load start length =>
      apply Or.inl
      simp only [guestStep]
      split <;> exact refl
  | store start block =>
      apply Or.inl
      simp only [guestStep]
      split <;> exact refl
  | memorySize => exact Or.inl refl
  | memoryGrow pages =>
      apply Or.inl
      simp only [guestStep]
      split <;> exact refl
  | globalGet => exact Or.inl refl
  | globalSet globals => exact Or.inl refl
  | log level ptr len =>
      apply Or.inl
      simp only [guestStep, hostLog]
      split <;> exact refl
  | storeSet ptr len =>
      simp only [noteWith, blockOf, List.append_nil, guestStep, hostStoreSet]
      cases readGuestBytes module inst ptr len with
      | error trap => exact Or.inl refl
      | ok block =>
          simp only
          cases read : json.entityOp block with
          | ok op => exact Or.inl ⟨rfl, [op], by simp [Except.toOption, read], rfl⟩
          | error e =>
              refine Or.inr ⟨rfl, [], block, e, rfl, ?_, read, rfl⟩
              intro other member
              cases member
  | storeGet entityPtr entityLen idPtr idLen =>
      simp only [noteWith, blockOf, List.nil_append, guestStep, hostStoreGet]
      cases readKey module inst entityPtr entityLen idPtr idLen with
      | error trap => exact Or.inl refl
      | ok key =>
          simp only
          cases inst.host.entities[key]? with
          | none => exact Or.inl refl
          | some bytes => exact handBuffer_accounted inst fun len body _ _ => reenter (body len) inst

theorem guestExec_accounted (depth : Nat) (op : GuestOp γ) (inst : Instance γ) :
    Accounted json inst.host (hostNote json module (blockOf module) depth op inst)
      (guestExec json module depth op inst) := by
  induction depth generalizing op inst with
  | zero => exact guestStep_accounted (fun _ inst => Or.inl (Collected.refl inst.host)) op inst
  | succ depth ih => exact guestStep_accounted (run_accounted ih) op inst

end Writes

namespace GuestRuntime

variable {runtime : GuestRuntime γ}

theorem execute_accounted (runtime : GuestRuntime γ) {α : Type} (program : Guest γ α) (inst : Instance γ) :
    Accounted runtime.json inst.host (runtime.notes (blockOf runtime.module) program inst)
      (runtime.execute program inst) :=
  run_accounted (guestExec_accounted runtime.stackDepth) program inst

theorem instantiate_collected {host : HostState} {inst : Instance γ}
    (ok : runtime.instantiate host = .ok inst) :
    Collected runtime.json host (runtime.notes (blockOf runtime.module) runtime.module.start
      ⟨runtime.module.memory, runtime.module.globals, runtime.fuelLimit, host⟩) inst.host := by
  have accounted := execute_accounted runtime runtime.module.start
    ⟨runtime.module.memory, runtime.module.globals, runtime.fuelLimit, host⟩
  unfold instantiate at ok
  split at ok
  · cases ok
  · split at ok
    · rename_i after ran
      rw [ran] at accounted
      rw [← Except.ok.inj ok]
      rcases accounted with collected | ⟨failed, -⟩
      · exact collected
      · cases failed
    · cases ok

theorem placeEvent_collected {handler : String} {alloc : Int32 → Guest γ Int32}
    {input : List UInt8} {inst : Instance γ} {placed : Int32 × Int32 × Instance γ}
    (ok : runtime.placeEvent handler alloc input inst = .ok placed) :
    ∃ len, i32Length input = some len ∧ Collected runtime.json inst.host
      (runtime.notes (blockOf runtime.module) (alloc len) inst) placed.2.2.host := by
  unfold placeEvent at ok
  cases fits : i32Length input with
  | none =>
      rw [fits] at ok
      cases ok
  | some len =>
      have accounted := execute_accounted runtime (alloc len) inst
      simp only [fits] at ok
      split at ok
      · cases ok
      · rename_i ptr after ran
        rw [ran] at accounted
        refine ⟨len, rfl, ?_⟩
        rcases accounted with collected | ⟨failed, -⟩
        · split at ok
          · cases ok
          · rw [← Except.ok.inj ok]
            exact collected
        · cases failed

theorem prepare_collected {event : MappingEvent} {host : HostState} {call : HandlerCall γ}
    (ok : runtime.prepare event host = .ok call) :
    Collected runtime.json host (runtime.earlyNotes (blockOf runtime.module) event host)
      call.inst.host := by
  unfold prepare at ok
  unfold earlyNotes
  cases ready : runtime.instantiate host with
  | error cause =>
      rw [ready] at ok
      cases ok
  | ok inst =>
      cases exported : runtime.requiredExports event.handler with
      | error cause =>
          rw [ready, exported] at ok
          cases ok
      | ok items =>
          rw [ready, exported] at ok
          cases placed : runtime.placeEvent event.handler items.1 (runtime.eventInput event) inst with
          | error cause =>
              have stopped : (runtime.placeEvent event.handler items.1 (runtime.eventInput event)
                inst >>= _) = .ok call := ok
              rw [placed] at stopped
              cases stopped
          | ok place =>
              have continued : (runtime.placeEvent event.handler items.1 (runtime.eventInput event)
                inst >>= _) = .ok call := ok
              rw [placed] at continued
              rw [← Except.ok.inj continued]
              obtain ⟨len, fits, collected⟩ := placeEvent_collected placed
              rw [fits]
              exact (instantiate_collected ready).trans collected

theorem requiredExports_error {handler : String} {cause : MappingError}
    (failed : runtime.requiredExports handler = .error cause) (message : String) :
    cause ≠ .decodePayload message := by
  unfold requiredExports at failed
  split at failed
  · cases failed
    intro clash
    cases clash
  · split at failed
    · split at failed
      · cases failed
      · cases failed
        intro clash
        cases clash
    · cases failed
      intro clash
      cases clash

theorem placeEvent_error {handler : String} {alloc : Int32 → Guest γ Int32} {input : List UInt8}
    {inst : Instance γ} {cause : MappingError}
    (failed : runtime.placeEvent handler alloc input inst = .error cause) (message : String) :
    cause ≠ .decodePayload message := by
  unfold placeEvent at failed
  split at failed
  · cases failed
    intro clash
    cases clash
  · split at failed
    · rename_i trap after ran
      cases failed
      intro clash
      cases trap <;> cases clash
    · split at failed
      · cases failed
        intro clash
        cases clash
      · cases failed

/-- Before the handler is called no write is reported as malformed. -/
theorem prepare_error {event : MappingEvent} {host : HostState} {cause : MappingError}
    (failed : runtime.prepare event host = .error cause) (message : String) :
    cause ≠ .decodePayload message := by
  have engine : ∀ host inst, runtime.instantiate host = .error inst →
      inst ≠ .decodePayload message := by
    intro host cause stopped
    unfold instantiate at stopped
    split at stopped
    · cases stopped
      intro clash
      cases clash
    · split at stopped
      · cases stopped
      · cases stopped
        intro clash
        cases clash
  unfold prepare at failed
  cases ready : runtime.instantiate host with
  | error stopped =>
      rw [ready] at failed
      cases failed
      exact engine host cause ready
  | ok inst =>
      rw [ready] at failed
      cases exported : runtime.requiredExports event.handler with
      | error stopped =>
          rw [exported] at failed
          cases failed
          exact requiredExports_error exported message
      | ok items =>
          rw [exported] at failed
          cases placed : runtime.placeEvent event.handler items.1 (runtime.eventInput event) inst with
          | ok place =>
              have continued : (runtime.placeEvent event.handler items.1 (runtime.eventInput event)
                inst >>= _) = .error cause := failed
              rw [placed] at continued
              cases continued
          | error stopped =>
              have same : (runtime.placeEvent event.handler items.1 (runtime.eventInput event)
                inst >>= _) = .error cause := failed
              rw [placed] at same
              cases same
              exact placeEvent_error placed message

/-- The report of a handler that was called, when no write was refused before. -/
theorem callHandler_reports (runtime : GuestRuntime γ) (handler : String) {call : HandlerCall γ}
    (clean : call.inst.host.decodeError = none) :
    match runtime.callHandler handler call with
    | .ok report => ∃ ops : List EntityOp,
        (runtime.notes (blockOf runtime.module) (call.body call.ptr call.len) call.inst).map
          runtime.json.entityOp = ops.map Except.ok ∧
        report.entityOps = call.inst.host.entityOps ++ ops
    | .error cause => ∀ message, cause = .decodePayload message ↔
        ∃ block ∈ runtime.notes (blockOf runtime.module) (call.body call.ptr call.len) call.inst,
          ∃ e, runtime.json.entityOp block = .error e ∧ message = malformedWrite e := by
  have accounted := execute_accounted runtime (call.body call.ptr call.len) call.inst
  unfold callHandler
  rcases ran : runtime.execute (call.body call.ptr call.len) call.inst with ⟨trap | answer, after⟩
  · rw [ran] at accounted
    simp only
    rcases accounted with collected | ⟨-, good, bad, e, blocks, read, refused, kept⟩
    · have none : after.host.decodeError = none := collected.1.trans clean
      rw [none]
      simp only
      intro message
      constructor
      · intro same
        cases trap <;> cases same
      · rintro ⟨block, member, e, error, -⟩
        obtain ⟨op, fine⟩ := collected.each block member
        rw [error] at fine
        cases fine
    · simp only at kept
      rw [kept]
      simp only [MappingError.decodePayload.injEq]
      intro message
      constructor
      · rintro rfl
        exact ⟨bad, by rw [blocks]; simp, e, refused, rfl⟩
      · rintro ⟨block, member, e', error, rfl⟩
        rw [blocks] at member
        rcases List.mem_append.mp member with before | last
        · obtain ⟨op, fine⟩ := read block before
          rw [error] at fine
          cases fine
        · rw [List.mem_singleton.mp last, refused] at error
          rw [Except.error.inj error]
  · rw [ran] at accounted
    rcases accounted with collected | ⟨failed, -⟩
    · obtain ⟨-, ops, read, held⟩ := collected
      exact ⟨ops, read, held⟩
    · cases failed

/-- A dispatch reports every entity write it was handed, in order, or else fails; and it fails
for a malformed write exactly when the handler handed one over, with the error of that write. -/
theorem dispatch_reports_writes (runtime : GuestRuntime γ) (event : MappingEvent)
    (entities : EntitySnapshot) :
    match runtime.dispatchWithEntities event entities with
    | .ok report =>
        (runtime.earlyNotes (blockOf runtime.module) event
            (HostState.fresh (runtime.serialized entities)) ++
          runtime.handlerNotes (blockOf runtime.module) event
            (HostState.fresh (runtime.serialized entities))).map runtime.json.entityOp =
          report.entityOps.map .ok
    | .error cause => ∀ message, cause = .decodePayload message ↔
        ∃ block ∈ runtime.handlerNotes (blockOf runtime.module) event
            (HostState.fresh (runtime.serialized entities)),
          ∃ e, runtime.json.entityOp block = .error e ∧ message = malformedWrite e := by
  unfold dispatchWithEntities dispatchInner handlerNotes
  cases ready : runtime.prepare event (HostState.fresh (runtime.serialized entities)) with
  | error cause =>
      intro message
      have other := prepare_error ready message
      simp [other]
  | ok call =>
      obtain ⟨clean, ops, read, held⟩ := prepare_collected ready
      have reports := callHandler_reports runtime event.handler clean
      change match runtime.callHandler event.handler call with
        | .ok report => _
        | .error cause => _
      cases called : runtime.callHandler event.handler call with
      | error cause =>
          rw [called] at reports
          exact reports
      | ok report =>
          rw [called] at reports
          obtain ⟨others, read', held'⟩ := reports
          have total : report.entityOps = ops ++ others := by rw [held', held]; rfl
          have whole : (runtime.earlyNotes (blockOf runtime.module) event
              (HostState.fresh (runtime.serialized entities)) ++
              runtime.notes (blockOf runtime.module) (call.body call.ptr call.len) call.inst).map
                runtime.json.entityOp = report.entityOps.map .ok := by
            rw [List.map_append, read, read', total, List.map_append]
          exact whole

end GuestRuntime

end KasGraph
