import KasGraph.MaterializeFrame

set_option autoImplicit false

/-! When a materialization leaves the directory of its subgraph. There is a disk on which it does
exactly when the wasm can be a file outside, or replaces the manifest and spells one that names a
file outside; otherwise deployments leave each other alone, in any order. -/

namespace KasGraph

open EffectProgram FileSystem
open Json (Value)

section Escapes

variable {codec : MappingCodec} {cwd : Location} {base : Path} {deployment : SubgraphDeployment}
  {wasmName : String} {wasmBytes : List UInt8}

/-! ## Where a deployment escapes -/

section Calm

variable {machine : Machine} (calm : machine.faults = []) (at_cwd : machine.cwd = cwd)
  (dirs : ∀ place ∈ needs cwd base deployment wasmName, machine.disk.IsDir place)
  (named : wasmField deployment.manifestJson = some wasmName)
  (carried : deployment.wasmBytes = some wasmBytes)
include calm at_cwd dirs named carried

/-- Where every directory is there and nothing is in the way, the manifest and the wasm are
written. -/
theorem materialize_of_calm (manifest : ¬ machine.disk.IsDir (manifestPlace cwd base deployment))
    (wasm : ¬ machine.disk.IsDir (wasmPlace cwd base deployment wasmName)) :
    ∃ third, run onDisk (materializeSubgraphDir codec deployment base) machine =
        run onDisk (writeFile (schemaPath (subgraphDir base deployment.subgraph))
          deployment.schemaSdl.toUTF8.toList >>= fun _ =>
            pure (subgraphDir base deployment.subgraph)) third ∧
      third.faults = [] ∧
      Keeps machine third [manifestPlace cwd base deployment,
        wasmPlace cwd base deployment wasmName] ∧
      third.disk.file? (wasmPlace cwd base deployment wasmName) = some wasmBytes ∧
      ∀ other, third.disk.IsDir other ↔ machine.disk.IsDir other := by
  have first : ∀ place ∈ passes machine.cwd (manifestPath (subgraphDir base deployment.subgraph)),
      machine.disk.IsDir place := by
    rw [at_cwd]
    exact fun place listed => dirs place (List.mem_append_left _ listed)
  rw [materializeSubgraphDir_eq named carried, run_createDirAll_bind,
    Machine.createDirAll_of_calm calm
      (fun place listed => first place ((mem_passes_manifestPath _ _ _).mpr (.inl listed)))
      (first _ ((mem_passes_manifestPath _ _ _).mpr (.inr rfl))), if_pos rfl]
  obtain ⟨second, wrote, calm₂, keeps₂, -, same₂⟩ := Machine.write_of_calm calm
    (Disk.find_eq_some_iff.mpr ⟨first, at_cwd ▸ rfl⟩) manifest
    (codec.toVecPretty deployment.manifestJson)
  rw [run_writeFile_bind, wrote, if_pos rfl]
  have at_second := keeps₂.cwd.trans at_cwd
  obtain ⟨third, wrote, calm₃, keeps₃, held, same₃⟩ := Machine.write_of_calm calm₂
    (Disk.find_eq_some_iff.mpr ⟨fun place listed => (same₂ place).mpr
      (dirs place (List.mem_append_right _ (at_second ▸ listed))), at_second ▸ rfl⟩)
    (fun dir => wasm ((same₂ _).mp dir)) wasmBytes
  rw [run_writeFile_bind, wrote, if_pos rfl]
  exact ⟨third, rfl, calm₃, keeps₂.trans keeps₃, held,
    fun other => (same₃ other).trans (same₂ other)⟩

/-- And the schema, when nothing is in its way either. -/
theorem materialized_of_calm (manifest : ¬ machine.disk.IsDir (manifestPlace cwd base deployment))
    (wasm : ¬ machine.disk.IsDir (wasmPlace cwd base deployment wasmName))
    (schema : ¬ machine.disk.IsDir (schemaPlace cwd base deployment)) :
    ∃ last, run onDisk (materializeSubgraphDir codec deployment base) machine =
        (.ok (subgraphDir base deployment.subgraph), last) ∧
      last.faults = [] ∧
      Keeps machine last [manifestPlace cwd base deployment,
        wasmPlace cwd base deployment wasmName, schemaPlace cwd base deployment] ∧
      (wasmPlace cwd base deployment wasmName = manifestPlace cwd base deployment →
        last.disk.file? (manifestPlace cwd base deployment) = some wasmBytes) ∧
      ∀ other, last.disk.IsDir other ↔ machine.disk.IsDir other := by
  obtain ⟨third, ran, calm₃, keeps, held, same⟩ := @materialize_of_calm codec cwd base deployment
    wasmName wasmBytes machine calm at_cwd dirs named carried manifest wasm
  have at_third : third.cwd = cwd := keeps.cwd.trans at_cwd
  obtain ⟨last, wrote, calm₄, final, -, same₄⟩ := Machine.write_of_calm calm₃
    (Disk.find_eq_some_iff.mpr ⟨fun place listed => (same place).mpr (dirs place
      (List.mem_append_left _ (passes_schemaPath cwd _ (at_third ▸ listed)))), at_third ▸ rfl⟩)
    (fun dir => schema ((same _).mp dir)) deployment.schemaSdl.toUTF8.toList
  rw [run_writeFile_bind, wrote, if_pos rfl] at ran
  refine ⟨last, ran, calm₄, keeps.trans final, fun replaced => ?_,
    fun other => (same₄ other).trans (same other)⟩
  rw [final.files _ (fun listed => manifestPlace_ne_schemaPlace (List.mem_singleton.mp listed)),
    ← replaced, held]

end Calm

/-- The descriptor that the manifest spells is loaded. -/
theorem descriptorLoad_of_calm {dir : Path} {machine : Machine} (calm : machine.faults = [])
    (dirs : ∀ place ∈ passes machine.cwd (manifestPath dir), machine.disk.IsDir place)
    {json : List UInt8}
    (held : machine.disk.file? (locate machine.cwd (manifestPath dir)) = some json)
    {descriptor : BuildDescriptor} (spelled : codec.descriptorOf json = some descriptor) :
    run onDisk (BuildDescriptor.load codec dir) machine =
      (.ok descriptor, machine.touch (locate machine.cwd (manifestPath dir))) := by
  have leads := Disk.find_eq_some_iff.mpr ⟨dirs, rfl⟩
  unfold BuildDescriptor.load
  simp only
  rw [run_bind_of_ok onDisk (run_exist (manifestPath dir) machine),
    Machine.exist_of_calm calm leads held, if_pos rfl,
    run_bind_of_ok onDisk (run_read (manifestPath dir) machine),
    Machine.read_of_calm calm leads held]
  simp only
  rw [spelled]
  rfl

theorem load_of_calm {subgraph : SubgraphId} {dir : Path} {machine : Machine}
    (calm : machine.faults = [])
    (dirs : ∀ place ∈ passes machine.cwd (manifestPath dir), machine.disk.IsDir place)
    {json : List UInt8}
    (held : machine.disk.file? (locate machine.cwd (manifestPath dir)) = some json)
    {descriptor : BuildDescriptor} (spelled : codec.descriptorOf json = some descriptor)
    (passed : ∀ place ∈ passes machine.cwd (wasmPath dir descriptor.wasm), machine.disk.IsDir place)
    {contents : List UInt8}
    (file : machine.disk.file? (locate machine.cwd (wasmPath dir descriptor.wasm)) =
      some contents) :
    locate machine.cwd (wasmPath dir descriptor.wasm) ∈
      (run onDisk (LoadedMapping.load codec subgraph dir) machine).2.touched := by
  have read := @Machine.read_of_calm (machine.touch (locate machine.cwd (manifestPath dir)))
    (wasmPath dir descriptor.wasm) _ _ calm (Disk.find_eq_some_iff.mpr ⟨passed, rfl⟩) file
  unfold LoadedMapping.load
  rw [run_bind_of_ok onDisk (descriptorLoad_of_calm calm dirs held spelled)]
  simp only
  rw [run_bind_of_ok onDisk (run_read _ _), compileMapping_silent, read]
  exact List.mem_append_right _ (List.mem_singleton_self _)

theorem loadMaterialized_eq (carried : deployment.wasmBytes = some wasmBytes) :
    loadMaterialized codec deployment base = (do
      let dir ← materializeSubgraphDir codec deployment base
      let loaded ← LoadedMapping.load codec deployment.subgraph dir
      return some loaded) := by
  unfold loadMaterialized
  rw [carried]

/-- A file outside is touched, on some disk. -/
def TouchesOutside (codec : MappingCodec) (cwd : Location) (base : Path)
    (deployment : SubgraphDeployment) : Prop :=
  ∃ machine : Machine, machine.cwd = cwd ∧ machine.touched = [] ∧
    ∃ place ∈ (run onDisk (loadMaterialized codec deployment base) machine).2.touched,
      ¬ ownDir cwd base deployment.subgraph <:+ place

theorem WritesOutside.touches (leaves : WritesOutside cwd base deployment wasmName)
    (named : wasmField deployment.manifestJson = some wasmName)
    (carried : deployment.wasmBytes = some wasmBytes) :
    TouchesOutside codec cwd base deployment := by
  obtain ⟨outside, compatible⟩ := leaves
  obtain ⟨disk, dirs, files, -⟩ := @Compatible.exists_disk _ _ cwd
    (wasmPath (subgraphDir base deployment.subgraph) wasmName) compatible
    fun place listed => List.mem_append_right _ listed
  refine ⟨⟨disk, cwd, [], []⟩, rfl, rfl, wasmPlace cwd base deployment wasmName, ?_, outside⟩
  obtain ⟨third, ran, -, keeps, -, -⟩ := @materialize_of_calm codec cwd base deployment wasmName
    wasmBytes ⟨disk, cwd, [], []⟩ rfl rfl dirs named carried
    (files _ (List.mem_cons_of_mem _ List.mem_cons_self)) (files _ List.mem_cons_self)
  rw [loadMaterialized_eq carried]
  apply touched_bind
  rw [ran]
  obtain ⟨new, grows⟩ := run_keeps (writeFile (schemaPath (subgraphDir base deployment.subgraph))
    deployment.schemaSdl.toUTF8.toList >>= fun _ =>
      (pure (subgraphDir base deployment.subgraph) : FileProgram Path)) third
  rw [grows.touched, keeps.touched]
  exact List.mem_append_left _ (List.mem_append_right _
    (List.mem_cons_of_mem _ List.mem_cons_self))

theorem ReadsOutside.touches
    (leaves : ReadsOutside codec cwd base deployment wasmName wasmBytes)
    (named : wasmField deployment.manifestJson = some wasmName)
    (carried : deployment.wasmBytes = some wasmBytes) :
    TouchesOutside codec cwd base deployment := by
  obtain ⟨replaced, descriptor, spelled, outside, compatible⟩ := leaves
  obtain ⟨disk, dirs, files, there⟩ := @Compatible.exists_disk _ _ cwd
    (wasmPath (subgraphDir base deployment.subgraph) descriptor.wasm) compatible
    fun place listed => List.mem_append_right _ listed
  refine ⟨⟨disk, cwd, [], []⟩, rfl, rfl, wasmPlace cwd base deployment descriptor.wasm, ?_,
    outside⟩
  have manifest := files _ (List.mem_cons_of_mem _ List.mem_cons_self)
  have schema := files _ (List.mem_cons_of_mem _ (List.mem_cons_of_mem _ List.mem_cons_self))
  obtain ⟨last, ran, calm, keeps, text, same⟩ := @materialized_of_calm codec cwd base deployment
    wasmName wasmBytes ⟨disk, cwd, [], []⟩ rfl rfl
    (fun place listed => dirs place (List.mem_append_left _ listed)) named carried manifest
    (replaced ▸ manifest) schema
  have at_last : last.cwd = cwd := keeps.cwd
  -- The file outside is none of those that were written.
  have file : last.disk.file? (wasmPlace cwd base deployment descriptor.wasm) = some [] := by
    have apart : ∀ place, ownDir cwd base deployment.subgraph <:+ place →
        wasmPlace cwd base deployment descriptor.wasm ≠ place :=
      fun place inside same => outside (same ▸ inside)
    refine (keeps.files _ fun listed => ?_).trans there
    simp only [replaced, List.mem_cons, List.not_mem_nil, or_false] at listed
    rcases listed with same | same | same
    · exact apart _ ownDir_suffix_manifestPlace same
    · exact apart _ ownDir_suffix_manifestPlace same
    · exact apart _ ownDir_suffix_schemaPlace same
  rw [loadMaterialized_eq carried, run_bind_of_ok onDisk ran]
  apply touched_bind
  subst at_last
  refine load_of_calm calm (fun place listed => ?_) (text replaced) spelled
    (fun place listed => ?_) file
  · exact (same place).mpr (dirs place (List.mem_append_left _ (List.mem_append_left _ listed)))
  · exact (same place).mpr (dirs place (List.mem_append_right _ listed))

/-- A deployment stays in its directory on every disk exactly when it does not escape. -/
theorem touchesOutside_iff (reads_back : codec.ReadsBack deployment.manifestJson) :
    TouchesOutside codec cwd base deployment ↔ deployment.Escapes codec cwd base := by
  constructor
  · rintro ⟨machine, at_cwd, fresh, place, touched, outside⟩
    by_contra stays
    rcases loadMaterialized_inside reads_back stays at_cwd touched with early | inside
    · rw [fresh] at early
      cases early
    · exact outside inside
  · rintro ⟨wasmName, wasmBytes, named, carried, leaves | leaves⟩
    · exact leaves.touches named carried
    · exact leaves.touches named carried

/-- A wasm named by a file name, other than the manifest's own, stays in the directory. -/
theorem not_escapes_of_plain (named : wasmField deployment.manifestJson = some wasmName)
    (plain : '/' ∉ wasmName.toList) (apart : wasmName ≠ "manifest.json") :
    ¬ deployment.Escapes codec cwd base := by
  have build : locate cwd (buildDir (subgraphDir base deployment.subgraph)) =
      "build".toList :: ownDir cwd base deployment.subgraph := locate_buildDir cwd _
  have place : wasmPlace cwd base deployment wasmName =
      step ("build".toList :: ownDir cwd base deployment.subgraph) wasmName.toList := by
    rw [← build, wasmPlace, wasmPath, locate_join (not_isAbsolute_of_plain plain),
      pieces_of_plain plain, List.foldl_cons, List.foldl_nil]
  rintro ⟨other, wasmBytes, same, -, leaves⟩
  obtain rfl := Option.some.inj (named.symm.trans same)
  rcases leaves with ⟨outside, -⟩ | ⟨replaced, -⟩
  · refine outside (place ▸ ?_)
    unfold step
    split
    · exact List.suffix_cons _ _
    · split
      · exact List.suffix_rfl
      · exact (List.suffix_cons _ _).trans (List.suffix_cons _ _)
  · rw [place, manifestPlace_eq] at replaced
    have lengths := congrArg List.length replaced
    unfold step at replaced lengths
    split at replaced
    · rename_i blank
      rw [if_pos blank] at lengths
      simp only [List.length_cons] at lengths
      omega
    · rename_i named
      rw [if_neg named] at lengths
      split at replaced
      · rename_i up
        rw [if_pos up] at lengths
        simp only [List.tail_cons, List.length_cons] at lengths
        omega
      · exact apart (String.toList_injective (List.cons.inj replaced).1)

end Escapes

/-! ## Any order of materializations -/

section Runs

variable {codec : MappingCodec} {cwd : Location} {base : Path}

/-- The directories of two subgraphs have no place in common. -/
theorem ownDir_disjoint {first second : SubgraphId} {place : Location}
    (inFirst : ownDir cwd base first <:+ place) (inSecond : ownDir cwd base second <:+ place) :
    first = second := by
  rw [ownDir_eq] at inFirst inSecond
  have length : (first.schemaName.toList :: locate cwd base).length =
      (second.schemaName.toList :: locate cwd base).length := by
    simp only [List.length_cons]
  have same := (List.suffix_of_suffix_length_le inFirst inSecond (le_of_eq length)).eq_of_length
    length
  exact SubgraphId.eq_of_schemaName (String.toList_injective (List.cons.inj same).1)

/-- One materialization leaves every file outside its directory alone. -/
theorem loadMaterialized_frame {deployment : SubgraphDeployment}
    (reads_back : codec.ReadsBack deployment.manifestJson)
    (stays : ¬ deployment.Escapes codec cwd base) {machine : Machine}
    (at_cwd : machine.cwd = cwd) :
    (run onDisk (loadMaterialized codec deployment base) machine.newLog).2.cwd = cwd ∧
      ∀ place, ¬ ownDir cwd base deployment.subgraph <:+ place →
        (run onDisk (loadMaterialized codec deployment base) machine.newLog).2.disk.file? place =
          machine.disk.file? place := by
  obtain ⟨new, keeps⟩ := run_keeps (loadMaterialized codec deployment base) machine.newLog
  refine ⟨keeps.cwd.trans at_cwd, fun place outside => keeps.files place fun touched => ?_⟩
  have log : (run onDisk (loadMaterialized codec deployment base) machine.newLog).2.touched = new :=
    keeps.touched
  have inside := @loadMaterialized_inside codec cwd base deployment reads_back stays machine.newLog
    at_cwd place (log ▸ touched)
  exact outside (inside.resolve_left List.not_mem_nil)

/-- Materialize and load the deployments one after the other, whatever becomes of each. -/
def materializeEach (codec : MappingCodec) (base : Path) (deployments : List SubgraphDeployment)
    (machine : Machine) : Machine :=
  deployments.foldl (fun machine deployment =>
    (run onDisk (loadMaterialized codec deployment base) machine.newLog).2) machine

theorem materializeEach_frame (deployments : List SubgraphDeployment)
    (reads_back : ∀ deployment ∈ deployments, codec.ReadsBack deployment.manifestJson)
    (stay : ∀ deployment ∈ deployments, ¬ deployment.Escapes codec cwd base) {machine : Machine}
    (at_cwd : machine.cwd = cwd) {place : Location}
    (outside : ∀ deployment ∈ deployments, ¬ ownDir cwd base deployment.subgraph <:+ place) :
    (materializeEach codec base deployments machine).disk.file? place =
      machine.disk.file? place := by
  induction deployments generalizing machine with
  | nil => rfl
  | cons deployment rest ih =>
      rw [List.forall_mem_cons] at reads_back stay outside
      obtain ⟨at_next, frame⟩ := loadMaterialized_frame reads_back.1 stay.1 at_cwd
      exact (ih reads_back.2 stay.2 at_next outside.2).trans (frame place outside.1)

end Runs

/-- Each deployment reads and writes only files of its own directory, on every disk and whatever
the system fails, exactly when it does not escape; and where none escapes, materializing them in
any order leaves all files alone that are of no directory of theirs: those of other subgraphs, and
all outside the base. -/
theorem materialization_confined_iff {codec : MappingCodec} (cwd : Location) (base : Path)
    (deployments : List SubgraphDeployment)
    (reads_back : ∀ deployment ∈ deployments, codec.ReadsBack deployment.manifestJson) :
    (∀ deployment ∈ deployments,
      (∀ machine : Machine, machine.cwd = cwd → machine.touched = [] →
        ∀ place ∈ (run onDisk (loadMaterialized codec deployment base) machine).2.touched,
          ownDir cwd base deployment.subgraph <:+ place) ↔
        ¬ deployment.Escapes codec cwd base) ∧
    ((∀ deployment ∈ deployments, ¬ deployment.Escapes codec cwd base) →
      ∀ machine : Machine, machine.cwd = cwd → ∀ place,
        ((∀ deployment ∈ deployments, ¬ ownDir cwd base deployment.subgraph <:+ place) ∨
          (∃ other, other ∉ deployments.map (·.subgraph) ∧ ownDir cwd base other <:+ place) ∨
          ¬ locate cwd base <:+ place) →
        (materializeEach codec base deployments machine).disk.file? place =
          machine.disk.file? place) := by
  constructor
  · intro deployment listed
    rw [← touchesOutside_iff (reads_back deployment listed)]
    constructor
    · rintro inside ⟨machine, at_cwd, fresh, place, touched, outside⟩
      exact outside (inside machine at_cwd fresh place touched)
    · intro none machine at_cwd fresh place touched
      by_contra outside
      exact none ⟨machine, at_cwd, fresh, place, touched, outside⟩
  · intro stay machine at_cwd place outside
    refine materializeEach_frame deployments reads_back stay at_cwd fun deployment listed inside =>
      ?_
    rcases outside with apart | ⟨other, absent, inOther⟩ | beyond
    · exact apart deployment listed inside
    · exact absent (List.mem_map.mpr ⟨deployment, listed, ownDir_disjoint inside inOther⟩)
    · rw [ownDir_eq] at inside
      exact beyond ((List.suffix_cons _ _).trans inside)

/-! ## Two deployments -/

/-- The text of a small manifest, and the codec for it. -/
def demoManifestText : List UInt8 :=
  "\x7b\n  \"name\": \"demo\",\n  \"wasm\": \"demo.wasm\"\n\x7d".toUTF8.toList

def demoCodec : MappingCodec where
  toVecPretty := fun _ => demoManifestText
  descriptorOf := fun bytes =>
    if bytes = demoManifestText then some ⟨"demo", "demo.wasm", []⟩ else none
  fromWasm := fun _ => .ok fun _ _ => .ok ⟨[]⟩

/-- A deployment whose wasm is named by a file name. -/
def plainDeployment : SubgraphDeployment where
  subgraph := demoSubgraph
  schemaSdl := "type Bond @entity"
  manifestJson := .ofFields [("name", .string "demo"), ("wasm", .string "demo.wasm")]
  wasmSha256 := none
  wasmBytes := some [0, 97, 115, 109]

theorem demoCodec_readsBack : demoCodec.ReadsBack plainDeployment.manifestJson := by
  intro descriptor spelled
  have demo : (some ⟨"demo", "demo.wasm", []⟩ : Option BuildDescriptor) = some descriptor :=
    (if_pos rfl).symm.trans spelled
  obtain rfl := Option.some.inj demo
  decide +kernel

theorem materialization_confined_iff_plain :
    ¬ TouchesOutside demoCodec [] "/work".toList plainDeployment := by
  have stays : ¬ plainDeployment.Escapes demoCodec [] "/work".toList :=
    @not_escapes_of_plain _ _ _ _ "demo.wasm" (by decide +kernel) (by decide +kernel)
      (by decide +kernel)
  have confined := ((materialization_confined_iff [] "/work".toList [plainDeployment]
    (List.forall_mem_singleton.mpr demoCodec_readsBack)).1 plainDeployment
      (List.mem_singleton_self _)).mpr stays
  rintro ⟨machine, at_root, fresh, place, touched, outside⟩
  exact outside (confined machine at_root fresh place touched)

def demoBundleCodec : BundleCodec where
  fromBase64 := fun _ => [0, 97, 115, 109]
  sha256Hex := fun _ => ""

/-- A deployment that names the manifest of another subgraph as its wasm. -/
def escapingDeployment : SubgraphDeployment where
  subgraph := demoSubgraph
  schemaSdl := "type Bond @entity"
  manifestJson := .ofFields [("name", .string "demo"),
    ("wasm", .string "../../other/build/manifest.json")]
  wasmSha256 := none
  wasmBytes := some [0, 97, 115, 109]

theorem escapingDeployment_accepted : escapingDeployment.Accepted demoBundleCodec :=
  SubgraphDeployment.accepted_of_carried demoBundleCodec "AGFzbQ==" rfl rfl (by decide +kernel)
    (by decide +kernel)

theorem escapingDeployment_writesOutside :
    WritesOutside [] "/work".toList escapingDeployment "../../other/build/manifest.json" := by
  unfold WritesOutside
  decide +kernel

/-- The endpoint accepts a deployment that writes to the directory of another subgraph. -/
theorem accepted_deployment_escapes :
    ¬ ∀ (bundles : BundleCodec) (codec : MappingCodec) (cwd : Location) (base : Path)
      (deployment : SubgraphDeployment), deployment.Accepted bundles →
      codec.ReadsBack deployment.manifestJson → ¬ TouchesOutside codec cwd base deployment := by
  intro confined
  have unread : MappingCodec.ReadsBack ⟨fun _ => [], fun _ => none, demoCodec.fromWasm⟩
      escapingDeployment.manifestJson := by
    intro descriptor spelled
    cases spelled
  exact confined demoBundleCodec _ [] "/work".toList escapingDeployment escapingDeployment_accepted
    unread (escapingDeployment_writesOutside.touches (by decide +kernel) rfl)

end KasGraph
