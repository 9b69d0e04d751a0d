import KasGraph.Materialize

set_option autoImplicit false

/-! Which files a materialization reads and writes. The manifest and the schema stay in the
directory of the subgraph; the wasm goes where the manifest says, and the load that follows
reads where the descriptor says that is found there. -/

namespace KasGraph

open EffectProgram FileSystem
open Json (Value)

/-! ## The paths of a subgraph -/

theorem SubgraphId.plain (subgraph : SubgraphId) :
    IsName subgraph.schemaName.toList ∧ '/' ∉ subgraph.schemaName.toList := by
  have valid := subgraph.valid
  unfold allowedSchemaName at valid
  rw [Bool.and_eq_true, Bool.not_eq_true', List.all_eq_true] at valid
  obtain ⟨nonempty, allowed⟩ := valid
  have absent : ∀ ch : Char, (ch.isLower || ch.isDigit || ch == '_') = false →
      ch ∉ subgraph.schemaName.toList := fun ch refused listed =>
    Bool.false_ne_true (refused.symm.trans (allowed ch listed))
  have dotless := absent '.' (by decide)
  refine ⟨⟨?_, ?_, ?_⟩, absent '/' (by decide)⟩
  · intro empty
    rw [String.toList_eq_nil_iff.mp empty] at nonempty
    cases nonempty
  · intro dot
    exact dotless (dot ▸ List.mem_cons_self)
  · intro dots
    exact dotless (dots ▸ List.mem_cons_self)

section Paths

variable (cwd : Location) (base dir : Path) (subgraph : SubgraphId)

/-- The place of a subgraph's own directory. -/
def ownDir : Location :=
  locate cwd (subgraphDir base subgraph)

theorem ownDir_eq : ownDir cwd base subgraph = subgraph.schemaName.toList :: locate cwd base :=
  locate_join_name subgraph.plain.1 subgraph.plain.2 cwd base

theorem locate_buildDir : locate cwd (buildDir dir) = "build".toList :: locate cwd dir :=
  locate_join_name (by decide) (by decide) cwd dir

theorem locate_manifestPath : locate cwd (manifestPath dir) =
    "manifest.json".toList :: "build".toList :: locate cwd dir := by
  rw [← locate_buildDir]
  exact locate_join_name (by decide) (by decide) cwd (buildDir dir)

theorem locate_schemaPath :
    locate cwd (schemaPath dir) = "schema.graphql".toList :: locate cwd dir :=
  locate_join_name (by decide) (by decide) cwd dir

theorem mem_passes_manifestPath (place : Location) :
    place ∈ passes cwd (manifestPath dir) ↔
      place ∈ passes cwd (buildDir dir) ∨ place = locate cwd (buildDir dir) :=
  mem_passes_join_name (by decide) cwd (buildDir dir) place

/-- The schema's path passes through no more than the manifest's. -/
theorem passes_schemaPath {place : Location} (passed : place ∈ passes cwd (schemaPath dir)) :
    place ∈ passes cwd (manifestPath dir) := by
  rw [mem_passes_manifestPath]
  refine .inl ((mem_passes_join_name (by decide) cwd dir place).mpr ?_)
  exact (mem_passes_join_name (by decide) cwd dir place).mp passed

end Paths

/-! ## One request of a program -/

section Requests

variable {α : Type} {machine : Machine} {path : Path} {contents : List UInt8}

theorem run_createDirAll_bind (rest : Unit → FileProgram α) :
    run onDisk (createDirAll path >>= rest) machine =
      if (machine.createDirAll path).1 then run onDisk (rest ()) (machine.createDirAll path).2
      else (.error (.createDir path), (machine.createDirAll path).2) := by
  rw [createDirAll, bind_assoc, run_bind_of_ok onDisk (run_createDirAll path machine)]
  cases (machine.createDirAll path).1 with
  | false => rfl
  | true => rfl

theorem run_writeFile_bind (rest : Unit → FileProgram α) :
    run onDisk (writeFile path contents >>= rest) machine =
      if (machine.write path contents).1 then run onDisk (rest ()) (machine.write path contents).2
      else (.error (.write path), (machine.write path contents).2) := by
  rw [writeFile, bind_assoc, run_bind_of_ok onDisk (run_write path contents machine)]
  cases (machine.write path contents).1 with
  | false => rfl
  | true => rfl

/-- What holds of a program that starts with a write: whether it stops there, with or without a
file put where the path leads, or goes on. -/
theorem run_writeFile_cases {rest : Unit → FileProgram α}
    {post : Except MaterializeError α × Machine → Prop}
    (refused : post (.error (.write path), machine.next))
    (torn : ∀ place after, machine.disk.find machine.cwd path = some place →
      ¬ machine.disk.IsDir place → Keeps machine after [place] → post (.error (.write path), after))
    (wrote : ∀ place after, machine.disk.find machine.cwd path = some place →
      ¬ machine.disk.IsDir place → Keeps machine after [place] →
      after.disk.file? place = some contents → post (run onDisk (rest ()) after)) :
    post (run onDisk (writeFile path contents >>= rest) machine) := by
  rw [run_writeFile_bind]
  rcases machine.write_cases path contents with
    failed | ⟨place, stored, leads, free, keeps, held, whole⟩
  · rw [failed]
    exact refused
  · split
    · rename_i done
      exact wrote place _ leads free keeps (whole done ▸ held)
    · exact torn place _ leads free keeps

/-- What a program touches, one that goes on from it touches too. -/
theorem touched_bind {β : Type} {program : FileProgram α} {place : Location}
    (touched : place ∈ (run onDisk program machine).2.touched) (rest : α → FileProgram β) :
    place ∈ (run onDisk (program >>= rest) machine).2.touched := by
  rw [run_bind]
  cases ran : run onDisk program machine with
  | mk result middle =>
      rw [ran] at touched
      cases result with
      | error reason => exact touched
      | ok value =>
          obtain ⟨new, keeps⟩ := run_keeps (rest value) middle
          change place ∈ (run onDisk (rest value) middle).2.touched
          rw [keeps.touched]
          exact List.mem_append_left new touched

end Requests

/-! ## Leaving the directory -/

/-- A file outside the directory can be at a place, where these places are directories and those
are files. -/
def Leaves (dir : Location) (dirs files : List Location) (place : Location) : Prop :=
  ¬ dir <:+ place ∧ Compatible dirs (place :: files)

instance (dir : Location) (dirs files : List Location) (place : Location) :
    Decidable (Leaves dir dirs files place) :=
  inferInstanceAs (Decidable (_ ∧ _))

section Escape

variable (codec : MappingCodec) (cwd : Location) (base : Path) (deployment : SubgraphDeployment)
  (wasmName : String) (wasmBytes : List UInt8)

/-- The places that must be directories for a manifest and its wasm to be written. -/
def needs : List Location :=
  passes cwd (manifestPath (subgraphDir base deployment.subgraph)) ++
    passes cwd (wasmPath (subgraphDir base deployment.subgraph) wasmName)

def manifestPlace : Location :=
  locate cwd (manifestPath (subgraphDir base deployment.subgraph))

def schemaPlace : Location :=
  locate cwd (schemaPath (subgraphDir base deployment.subgraph))

def wasmPlace : Location :=
  locate cwd (wasmPath (subgraphDir base deployment.subgraph) wasmName)

/-- The wasm goes to a file outside the subgraph's directory. -/
def WritesOutside : Prop :=
  Leaves (ownDir cwd base deployment.subgraph) (needs cwd base deployment wasmName)
    [manifestPlace cwd base deployment] (wasmPlace cwd base deployment wasmName)

/-- The wasm replaces the manifest, and spells a descriptor that names a file outside. -/
def ReadsOutside : Prop :=
  wasmPlace cwd base deployment wasmName = manifestPlace cwd base deployment ∧
    ∃ descriptor, codec.descriptorOf wasmBytes = some descriptor ∧
      Leaves (ownDir cwd base deployment.subgraph)
        (needs cwd base deployment wasmName ++
          passes cwd (wasmPath (subgraphDir base deployment.subgraph) descriptor.wasm))
        [manifestPlace cwd base deployment, schemaPlace cwd base deployment]
        (wasmPlace cwd base deployment descriptor.wasm)

/-- The deployment is materialized, and its wasm is written or looked for outside its directory. -/
def SubgraphDeployment.Escapes : Prop :=
  ∃ wasmName wasmBytes, wasmField deployment.manifestJson = some wasmName ∧
    deployment.wasmBytes = some wasmBytes ∧
    (WritesOutside cwd base deployment wasmName ∨
      ReadsOutside codec cwd base deployment wasmName wasmBytes)

end Escape

/-! ## What a materialization touches -/

section Touches

variable {codec : MappingCodec} {cwd : Location} {base : Path} {deployment : SubgraphDeployment}
  {wasmName : String} {wasmBytes : List UInt8}

theorem manifestPlace_eq : manifestPlace cwd base deployment =
    "manifest.json".toList :: "build".toList :: ownDir cwd base deployment.subgraph :=
  locate_manifestPath cwd _

theorem schemaPlace_eq : schemaPlace cwd base deployment =
    "schema.graphql".toList :: ownDir cwd base deployment.subgraph :=
  locate_schemaPath cwd _

theorem ownDir_suffix_manifestPlace :
    ownDir cwd base deployment.subgraph <:+ manifestPlace cwd base deployment := by
  rw [manifestPlace_eq]
  exact (List.suffix_cons _ _).trans (List.suffix_cons _ _)

theorem ownDir_suffix_schemaPlace :
    ownDir cwd base deployment.subgraph <:+ schemaPlace cwd base deployment := by
  rw [schemaPlace_eq]
  exact List.suffix_cons _ _

theorem manifestPlace_ne_schemaPlace :
    manifestPlace cwd base deployment ≠ schemaPlace cwd base deployment := by
  rw [manifestPlace_eq, schemaPlace_eq]
  intro same
  have lengths := congrArg List.length same
  simp only [List.length_cons] at lengths
  omega

/-- What is on disk once a deployment is materialized. -/
structure Written (codec : MappingCodec) (cwd : Location) (base : Path)
    (deployment : SubgraphDeployment) (wasmName : String) (wasmBytes : List UInt8)
    (after : Machine) : Prop where
  stays : after.cwd = cwd
  dirs : ∀ place ∈ needs cwd base deployment wasmName, after.disk.IsDir place
  manifest : after.disk.file? (manifestPlace cwd base deployment) =
    some (if wasmPlace cwd base deployment wasmName = manifestPlace cwd base deployment then
      wasmBytes else codec.toVecPretty deployment.manifestJson)
  wasm : ¬ after.disk.IsDir (wasmPlace cwd base deployment wasmName)
  schema : ¬ after.disk.IsDir (schemaPlace cwd base deployment)

/-- A place that a materialization may read or write: the manifest, the schema, or the wasm where
it can be a file. -/
def MayTouch (cwd : Location) (base : Path) (deployment : SubgraphDeployment) (wasmName : String)
    (place : Location) : Prop :=
  place = manifestPlace cwd base deployment ∨ place = schemaPlace cwd base deployment ∨
    (place = wasmPlace cwd base deployment wasmName ∧
      Compatible (needs cwd base deployment wasmName) [place, manifestPlace cwd base deployment])

/-- The outcome of a materialization from a machine: what it may have touched, and, where it
succeeds, what it left. -/
def Materializes (codec : MappingCodec) (base : Path) (deployment : SubgraphDeployment)
    (wasmName : String) (wasmBytes : List UInt8) (machine : Machine)
    (outcome : Except MaterializeError Path × Machine) : Prop :=
  (∀ place ∈ outcome.2.touched, place ∈ machine.touched ∨
    MayTouch machine.cwd base deployment wasmName place) ∧
  ∀ dir, outcome.1 = .ok dir → dir = subgraphDir base deployment.subgraph ∧
    Written codec machine.cwd base deployment wasmName wasmBytes outcome.2

theorem Materializes.of_error {machine after : Machine}
    (touched : ∀ place ∈ after.touched, place ∈ machine.touched ∨
      MayTouch machine.cwd base deployment wasmName place) (reason : MaterializeError) :
    Materializes codec base deployment wasmName wasmBytes machine (.error reason, after) := by
  refine ⟨touched, fun dir done => ?_⟩
  cases done

/-- One more file that may be touched is. -/
theorem mayTouch_of_keeps {start before after : Machine} {touched : Location}
    (held : ∀ place ∈ before.touched, place ∈ start.touched ∨
      MayTouch start.cwd base deployment wasmName place)
    (keeps : Keeps before after [touched])
    (may : MayTouch start.cwd base deployment wasmName touched) :
    ∀ place ∈ after.touched, place ∈ start.touched ∨
      MayTouch start.cwd base deployment wasmName place := by
  intro place listed
  rw [keeps.touched, List.mem_append, List.mem_singleton] at listed
  rcases listed with old | rfl
  · exact held place old
  · exact .inr may

/-- Once the manifest is written, the wasm can be put where the manifest says, if that can be a
file. -/
theorem mayTouch_wasm {machine : Machine} (at_cwd : machine.cwd = cwd)
    (dirs : ∀ place ∈ passes cwd (manifestPath (subgraphDir base deployment.subgraph)),
      machine.disk.IsDir place)
    {contents : List UInt8}
    (held : machine.disk.file? (manifestPlace cwd base deployment) = some contents)
    {place : Location}
    (leads : machine.disk.find machine.cwd
      (wasmPath (subgraphDir base deployment.subgraph) wasmName) = some place)
    (free : ¬ machine.disk.IsDir place) :
    place = wasmPlace cwd base deployment wasmName ∧
      (∀ needed ∈ needs cwd base deployment wasmName, machine.disk.IsDir needed) ∧
      MayTouch cwd base deployment wasmName place := by
  rw [at_cwd, Disk.find_eq_some_iff] at leads
  have needed : ∀ needed ∈ needs cwd base deployment wasmName, machine.disk.IsDir needed := by
    intro needed listed
    rcases List.mem_append.mp listed with first | last
    · exact dirs needed first
    · exact leads.1 needed last
  refine ⟨leads.2.symm, needed, .inr (.inr ⟨leads.2.symm, machine.disk.compatible needed ?_⟩)⟩
  exact List.forall_mem_cons.mpr ⟨free, List.forall_mem_singleton.mpr
    (Disk.not_isDir_of_file? held)⟩

theorem not_isDir_of_keeps {before after : Machine} {touched place : Location}
    {contents : List UInt8} (keeps : Keeps before after [touched])
    (wrote : after.disk.file? touched = some contents)
    {held : List UInt8} (file : before.disk.file? place = some held) :
    ¬ after.disk.IsDir place := by
  by_cases same : place = touched
  · rw [same]
    exact Disk.not_isDir_of_file? wrote
  · rw [← keeps.files place (fun listed => same (List.mem_singleton.mp listed))] at file
    exact Disk.not_isDir_of_file? file

theorem materializeSubgraphDir_eq (named : wasmField deployment.manifestJson = some wasmName)
    (carried : deployment.wasmBytes = some wasmBytes) :
    materializeSubgraphDir codec deployment base = (do
      createDirAll (buildDir (subgraphDir base deployment.subgraph))
      writeFile (manifestPath (subgraphDir base deployment.subgraph))
        (codec.toVecPretty deployment.manifestJson)
      writeFile (wasmPath (subgraphDir base deployment.subgraph) wasmName) wasmBytes
      writeFile (schemaPath (subgraphDir base deployment.subgraph))
        deployment.schemaSdl.toUTF8.toList
      return subgraphDir base deployment.subgraph) := by
  unfold materializeSubgraphDir
  rw [named, carried]

theorem materializeSubgraphDir_materializes
    (named : wasmField deployment.manifestJson = some wasmName)
    (carried : deployment.wasmBytes = some wasmBytes) (machine : Machine) :
    Materializes codec base deployment wasmName wasmBytes machine
      (run onDisk (materializeSubgraphDir codec deployment base) machine) := by
  rw [materializeSubgraphDir_eq named carried, run_createDirAll_bind]
  have kept := machine.createDirAll_keeps (buildDir (subgraphDir base deployment.subgraph))
  have untouched : ∀ place ∈ (machine.createDirAll
      (buildDir (subgraphDir base deployment.subgraph))).2.touched, place ∈ machine.touched ∨
        MayTouch machine.cwd base deployment wasmName place := by
    intro place listed
    rw [kept.touched, List.append_nil] at listed
    exact .inl listed
  split
  · rename_i made
    obtain ⟨passed, final⟩ := Machine.createDirAll_made made
    generalize (machine.createDirAll (buildDir (subgraphDir base deployment.subgraph))).2 = built
      at kept untouched passed final ⊢
    have dirs : ∀ place ∈ passes machine.cwd (manifestPath (subgraphDir base deployment.subgraph)),
        built.disk.IsDir place := by
      intro place listed
      rcases (mem_passes_manifestPath _ _ _).mp listed with below | rfl
      · exact passed place below
      · exact final
    apply run_writeFile_cases
    · refine .of_error ?_ _
      exact untouched
    · intro place torn leads free keeps
      rw [kept.cwd, Disk.find_eq_some_iff] at leads
      exact .of_error (mayTouch_of_keeps untouched keeps (.inl leads.2.symm)) _
    · intro place second leads free keeps held
      rw [kept.cwd, Disk.find_eq_some_iff] at leads
      obtain rfl : manifestPlace machine.cwd base deployment = place := leads.2
      have touched := mayTouch_of_keeps untouched keeps (.inl rfl)
      have cwd := keeps.cwd.trans kept.cwd
      have wasm := fun (place : Location) => @mayTouch_wasm _ base deployment wasmName second cwd
        (fun place listed => keeps.dirs place (dirs place listed)) _ held place
      apply run_writeFile_cases
      · refine .of_error ?_ _
        exact touched
      · intro place torn leads free keeps
        exact .of_error (mayTouch_of_keeps touched keeps (wasm place leads free).2.2) _
      · intro place third leads free wrote stored
        obtain ⟨rfl, needed, may⟩ := wasm place leads free
        have touched := mayTouch_of_keeps touched wrote may
        have cwd := wrote.cwd.trans cwd
        have schema : ∀ place : Location,
            third.disk.find third.cwd (schemaPath (subgraphDir base deployment.subgraph)) =
              some place → place = schemaPlace machine.cwd base deployment := by
          intro place leads
          rw [cwd, Disk.find_eq_some_iff] at leads
          exact leads.2.symm
        apply run_writeFile_cases
        · refine .of_error ?_ _
          exact touched
        · intro place torn leads free keeps
          exact .of_error (mayTouch_of_keeps touched keeps (.inr (.inl (schema place leads)))) _
        · intro place last leads free final sdl
          obtain rfl := schema place leads
          refine ⟨mayTouch_of_keeps touched final (.inr (.inl rfl)), fun dir done => ?_⟩
          obtain rfl := Except.ok.inj done
          refine ⟨rfl, final.cwd.trans cwd, ?_, ?_, ?_, Disk.not_isDir_of_file? sdl⟩
          · intro place listed
            exact final.dirs place (wrote.dirs place (needed place listed))
          · change last.disk.file? _ = _
            rw [final.files _ (fun listed =>
              manifestPlace_ne_schemaPlace (List.mem_singleton.mp listed))]
            split
            · rename_i same
              rw [← same, stored]
            · rename_i apart
              rw [wrote.files _ (fun listed => apart (List.mem_singleton.mp listed).symm), held]
          · exact not_isDir_of_keeps final sdl stored
  · exact .of_error untouched _

/-- Loading a descriptor reads the manifest alone, and changes no file. -/
theorem descriptorLoad_reads (codec : MappingCodec) (dir : Path) (machine : Machine) :
    let outcome := run onDisk (BuildDescriptor.load codec dir) machine
    outcome.2.disk = machine.disk ∧ outcome.2.cwd = machine.cwd ∧
      (∀ place ∈ outcome.2.touched, place ∈ machine.touched ∨
        place = locate machine.cwd (manifestPath dir)) ∧
      ∀ descriptor, outcome.1 = .ok descriptor → ∃ json,
        machine.disk.file? (locate machine.cwd (manifestPath dir)) = some json ∧
          codec.descriptorOf json = some descriptor := by
  unfold BuildDescriptor.load
  simp only
  rw [run_bind_of_ok onDisk (run_exist (manifestPath dir) machine), Machine.exist_snd]
  have stops : ∀ (reason : MaterializeError) (after : Machine), after.disk = machine.disk →
      after.cwd = machine.cwd → (∀ place ∈ after.touched, place ∈ machine.touched ∨
        place = locate machine.cwd (manifestPath dir)) →
      after.disk = machine.disk ∧ after.cwd = machine.cwd ∧
        (∀ place ∈ after.touched, place ∈ machine.touched ∨
          place = locate machine.cwd (manifestPath dir)) ∧
        ∀ descriptor, (Except.error reason : Except MaterializeError BuildDescriptor) =
          .ok descriptor → ∃ json,
            machine.disk.file? (locate machine.cwd (manifestPath dir)) = some json ∧
              codec.descriptorOf json = some descriptor := by
    intro reason after disk cwd touched
    refine ⟨disk, cwd, touched, fun descriptor done => ?_⟩
    cases done
  split
  · rw [run_bind_of_ok onDisk (run_read (manifestPath dir) machine.next)]
    rcases machine.next.read_cases (manifestPath dir) with
      failed | ⟨place, contents, leads, held, after, answer⟩
    · rw [failed]
      exact stops _ _ rfl rfl fun place touched => .inl touched
    · rw [after]
      obtain rfl := (Disk.find_eq_some_iff.mp leads).2
      have touched : ∀ place ∈ (machine.next.next.touch
          (locate machine.cwd (manifestPath dir))).touched, place ∈ machine.touched ∨
            place = locate machine.cwd (manifestPath dir) := fun place listed =>
        (List.mem_append.mp listed).imp id List.mem_singleton.mp
      cases json : (machine.next.read (manifestPath dir)).1 with
      | none => exact stops _ _ rfl rfl touched
      | some bytes =>
          obtain rfl := answer bytes json
          simp only
          cases spelled : codec.descriptorOf bytes with
          | none => exact stops _ _ rfl rfl touched
          | some descriptor =>
              refine ⟨rfl, rfl, touched, fun other done => ⟨bytes, held, ?_⟩⟩
              rw [spelled, Except.ok.inj done]
  · exact stops _ _ rfl rfl fun place touched => .inl touched

theorem compileMapping_silent (codec : MappingCodec) (subgraph : SubgraphId)
    (descriptor : BuildDescriptor) (path : Path) (bytes : Option (List UInt8))
    (machine : Machine) :
    (run onDisk (compileMapping codec subgraph descriptor path bytes) machine).2 = machine := by
  cases bytes with
  | none => rfl
  | some bytes =>
      unfold compileMapping
      simp only
      cases codec.fromWasm bytes with
      | error source => rfl
      | ok runtime => rfl

/-- Loading a mapping reads the manifest, and the wasm of the descriptor found there. -/
theorem load_reads (codec : MappingCodec) (subgraph : SubgraphId) (dir : Path)
    (machine : Machine) :
    ∀ place ∈ (run onDisk (LoadedMapping.load codec subgraph dir) machine).2.touched,
      place ∈ machine.touched ∨ place = locate machine.cwd (manifestPath dir) ∨
        ∃ json descriptor, machine.disk.file? (locate machine.cwd (manifestPath dir)) = some json ∧
          codec.descriptorOf json = some descriptor ∧
          machine.disk.find machine.cwd (wasmPath dir descriptor.wasm) = some place ∧
          ¬ machine.disk.IsDir place := by
  intro place listed
  rw [← or_assoc]
  obtain ⟨disk, cwd, touched, spelled⟩ := descriptorLoad_reads codec dir machine
  unfold LoadedMapping.load at listed
  rw [run_bind] at listed
  cases ran : run onDisk (BuildDescriptor.load codec dir) machine with
  | mk result middle =>
      rw [ran] at listed disk cwd touched spelled
      cases result with
      | error reason => exact .inl (touched place listed)
      | ok descriptor =>
          obtain ⟨json, held, found⟩ := spelled descriptor rfl
          simp only at listed
          rw [run_bind_of_ok onDisk (run_read (wasmPath dir descriptor.wasm) middle)] at listed
          rw [compileMapping_silent] at listed
          rcases middle.read_cases (wasmPath dir descriptor.wasm) with
            failed | ⟨read, contents, leads, file, after, -⟩
          · rw [failed] at listed
            exact .inl (touched place listed)
          · rw [after] at listed
            rcases List.mem_append.mp listed with early | late
            · exact .inl (touched place early)
            · rw [disk] at leads file
              rw [cwd] at leads
              rw [List.mem_singleton.mp late]
              exact .inr ⟨json, descriptor, held, found, leads, Disk.not_isDir_of_file? file⟩

/-- The descriptor read back from a manifest's text names the wasm the manifest names. -/
def MappingCodec.ReadsBack (codec : MappingCodec) (manifest : Value) : Prop :=
  ∀ descriptor, codec.descriptorOf (codec.toVecPretty manifest) = some descriptor →
    wasmField manifest = some descriptor.wasm

theorem MayTouch.inside (stays : ¬ WritesOutside cwd base deployment wasmName) {place : Location}
    (may : MayTouch cwd base deployment wasmName place) :
    ownDir cwd base deployment.subgraph <:+ place := by
  rcases may with rfl | rfl | ⟨rfl, compatible⟩
  · exact ownDir_suffix_manifestPlace
  · exact ownDir_suffix_schemaPlace
  · by_contra outside
    exact stays ⟨outside, compatible⟩

/-- After a materialization that stays inside, so does the load. -/
theorem Written.load_inside (reads_back : codec.ReadsBack deployment.manifestJson)
    (writes : ¬ WritesOutside cwd base deployment wasmName)
    (reads : ¬ ReadsOutside codec cwd base deployment wasmName wasmBytes) {machine : Machine}
    (written : Written codec cwd base deployment wasmName wasmBytes machine) {place : Location}
    (named : wasmField deployment.manifestJson = some wasmName)
    (touched : place ∈ (run onDisk (LoadedMapping.load codec deployment.subgraph
      (subgraphDir base deployment.subgraph)) machine).2.touched) :
    place ∈ machine.touched ∨ ownDir cwd base deployment.subgraph <:+ place := by
  have manifest : ¬ machine.disk.IsDir (manifestPlace cwd base deployment) :=
    Disk.not_isDir_of_file? written.manifest
  rcases load_reads codec _ _ machine place touched with
    early | same | ⟨json, descriptor, held, spelled, leads, free⟩
  · exact .inl early
  · rw [written.stays] at same
    exact .inr (same ▸ ownDir_suffix_manifestPlace)
  · refine .inr ?_
    rw [written.stays] at held leads
    obtain ⟨passed, rfl⟩ := Disk.find_eq_some_iff.mp leads
    have text : some json = some _ := held.symm.trans written.manifest
    by_contra outside
    split at text
    · rename_i replaced
      obtain rfl := Option.some.inj text
      refine reads ⟨replaced, descriptor, spelled, outside, machine.disk.compatible ?_ ?_⟩
      · intro needed listed
        rcases List.mem_append.mp listed with first | last
        · exact written.dirs needed first
        · exact passed needed last
      · intro file listed
        simp only [List.mem_cons, List.not_mem_nil, or_false] at listed
        rcases listed with rfl | rfl | rfl
        · exact free
        · exact manifest
        · exact written.schema
    · obtain rfl := Option.some.inj text
      have wasm := reads_back descriptor spelled
      rw [named, Option.some.injEq] at wasm
      subst wasm
      refine writes ⟨outside, machine.disk.compatible written.dirs ?_⟩
      exact List.forall_mem_cons.mpr ⟨free, List.forall_mem_singleton.mpr manifest⟩

theorem loadMaterialized_inside (reads_back : codec.ReadsBack deployment.manifestJson)
    (stays : ¬ deployment.Escapes codec cwd base) {machine : Machine} (at_cwd : machine.cwd = cwd)
    {place : Location}
    (touched : place ∈ (run onDisk (loadMaterialized codec deployment base) machine).2.touched) :
    place ∈ machine.touched ∨ ownDir cwd base deployment.subgraph <:+ place := by
  subst at_cwd
  unfold loadMaterialized at touched
  split at touched
  · exact .inl touched
  · rename_i wasmBytes carried
    cases named : wasmField deployment.manifestJson with
    | none =>
        have fails : materializeSubgraphDir codec deployment base =
            .fail (.message "deployed manifest has no `wasm` field") := by
          unfold materializeSubgraphDir
          rw [named]
        rw [fails] at touched
        exact .inl touched
    | some wasmName =>
        have writes : ¬ WritesOutside machine.cwd base deployment wasmName :=
          fun leaves => stays ⟨wasmName, wasmBytes, named, carried, .inl leaves⟩
        have reads : ¬ ReadsOutside codec machine.cwd base deployment wasmName wasmBytes :=
          fun leaves => stays ⟨wasmName, wasmBytes, named, carried, .inr leaves⟩
        obtain ⟨may, done⟩ := @materializeSubgraphDir_materializes codec base _ _ _ named carried
          machine
        rw [run_bind] at touched
        cases ran : run onDisk (materializeSubgraphDir codec deployment base) machine with
        | mk result middle =>
            rw [ran] at touched may done
            cases result with
            | error reason => exact (may place touched).imp id (MayTouch.inside writes)
            | ok dir =>
                obtain ⟨rfl, written⟩ := done dir rfl
                simp only at touched
                have loaded : place ∈ (run onDisk (LoadedMapping.load codec deployment.subgraph
                    (subgraphDir base deployment.subgraph)) middle).2.touched := by
                  rw [run_bind] at touched
                  cases loads : run onDisk (LoadedMapping.load codec deployment.subgraph
                      (subgraphDir base deployment.subgraph)) middle with
                  | mk answer after =>
                      rw [loads] at touched
                      cases answer with
                      | error reason => exact touched
                      | ok loaded => exact touched
                rcases written.load_inside reads_back writes reads named loaded with early | inside
                · exact (may place early).imp id (MayTouch.inside writes)
                · exact .inr inside

end Touches

end KasGraph
