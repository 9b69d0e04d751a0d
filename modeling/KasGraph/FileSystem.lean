import KasGraph.FilePaths
import KasGraph.EffectProgram

set_option autoImplicit false

/-! A tree of files, and the requests a program makes of it. A path leads somewhere only through
directories. The system may refuse any request, or fail in the middle of it. -/

namespace FileSystem

inductive Node where
  | dir
  | file (contents : List UInt8)
  deriving DecidableEq, Repr

/-- What is at each place. All that is there is in a directory. -/
structure Disk where
  node : Location → Option Node
  root : node [] = some .dir
  parent : ∀ name place, node (name :: place) ≠ none → node place = some .dir

namespace Disk

def IsDir (disk : Disk) (place : Location) : Prop :=
  disk.node place = some .dir

instance (disk : Disk) (place : Location) : Decidable (disk.IsDir place) :=
  inferInstanceAs (Decidable (_ = _))

def file? (disk : Disk) (place : Location) : Option (List UInt8) :=
  match disk.node place with
  | some (.file contents) => some contents
  | _ => none

/-- An entry can be put there: it has a directory around it and replaces none. -/
structure Room (disk : Disk) (place : Location) : Prop where
  named : place ≠ []
  within : disk.IsDir place.tail
  free : ¬ disk.IsDir place

theorem room_iff (disk : Disk) (place : Location) :
    disk.Room place ↔ place ≠ [] ∧ disk.IsDir place.tail ∧ ¬ disk.IsDir place := by
  constructor
  · intro room
    exact ⟨room.named, room.within, room.free⟩
  · rintro ⟨named, within, free⟩
    exact ⟨named, within, free⟩

instance (disk : Disk) (place : Location) : Decidable (disk.Room place) :=
  decidable_of_iff' _ (room_iff disk place)

theorem put_parent (disk : Disk) {place : Location} (node : Node) (room : disk.Room place)
    (name : Name) (above : Location)
    (present : Function.update disk.node place (some node) (name :: above) ≠ none) :
    Function.update disk.node place (some node) above = some .dir := by
  by_cases same : name :: above = place
  · have around : disk.IsDir above := by
      have within := room.within
      rwa [← same] at within
    have apart : above ≠ place := fun loop => room.free (loop ▸ around)
    rw [Function.update_of_ne apart]
    exact around
  · rw [Function.update_of_ne same] at present
    have around := disk.parent name above present
    have apart : above ≠ place := fun loop => room.free (loop ▸ around)
    rw [Function.update_of_ne apart, around]

theorem put_root (disk : Disk) {place : Location} (node : Node) (room : disk.Room place) :
    Function.update disk.node place (some node) [] = some .dir :=
  (Function.update_of_ne room.named.symm _ _).trans disk.root

/-- Put an entry at a place. -/
def put (disk : Disk) (place : Location) (node : Node) (room : disk.Room place) : Disk where
  node := Function.update disk.node place (some node)
  root := disk.put_root node room
  parent := disk.put_parent node room

/-- Follow the pieces of a path. Each place on the way must be a directory. -/
def resolve (disk : Disk) : Location → List Name → Option Location
  | place, [] => some place
  | place, piece :: rest =>
      if disk.IsDir place then disk.resolve (step place piece) rest else none

/-- The place a path leads to. -/
def find (disk : Disk) (cwd : Location) (path : Path) : Option Location :=
  disk.resolve (origin cwd path) (pieces path)

/-- Make a directory of every place that is nothing yet, up to the first that is a file. -/
def makeDirs (disk : Disk) (place : Location) : List Name → Bool × Disk
  | [] => (true, disk)
  | piece :: rest =>
      if disk.IsDir place then
        let next := step place piece
        if disk.IsDir next then
          disk.makeDirs next rest
        else if disk.node next = none then
          if room : disk.Room next then
            (disk.put next .dir room).makeDirs next rest
          else
            (false, disk)
        else
          (false, disk)
      else
        (false, disk)

/-! ## What is on a disk -/

variable {disk : Disk} {place above : Location}

/-- What lies above a directory is a directory. -/
theorem IsDir.of_suffix (held : disk.IsDir place) (lies : above <:+ place) : disk.IsDir above := by
  induction place with
  | nil => rwa [List.eq_nil_of_suffix_nil lies]
  | cons name rest ih =>
      rcases List.suffix_cons_iff.mp lies with same | deeper
      · rwa [same]
      · refine ih (disk.parent name rest ?_) deeper
        rw [show disk.node (name :: rest) = some .dir from held]
        exact Option.some_ne_none _

theorem IsDir.file?_eq_none (held : disk.IsDir place) : disk.file? place = none := by
  unfold file?
  rw [show disk.node place = some .dir from held]

theorem not_isDir_of_file? {contents : List UInt8} (held : disk.file? place = some contents) :
    ¬ disk.IsDir place := by
  intro dir
  rw [dir.file?_eq_none] at held
  cases held

section Put

variable {node : Node} (room : disk.Room place)

theorem put_file_isDir_iff {contents : List UInt8} {other : Location} :
    (disk.put place (.file contents) room).IsDir other ↔ disk.IsDir other := by
  by_cases same : other = place
  · refine iff_of_false (fun dir => ?_) (same ▸ room.free)
    have file : (disk.put place (.file contents) room).node place = some (.file contents) :=
      Function.update_self _ _ _
    rw [same, IsDir, file] at dir
    cases dir
  · exact iff_of_eq (congrArg (· = some Node.dir) (Function.update_of_ne same _ _))

theorem put_node_self : (disk.put place node room).node place = some node :=
  Function.update_self _ _ _

theorem put_node_of_ne {other : Location} (apart : other ≠ place) :
    (disk.put place node room).node other = disk.node other :=
  Function.update_of_ne apart _ _

theorem IsDir.put {other : Location} (held : disk.IsDir other) :
    (disk.put place node room).IsDir other :=
  (put_node_of_ne room fun same : other = place => room.free (same ▸ held)).trans held

theorem put_file?_self (contents : List UInt8) :
    (disk.put place (.file contents) room).file? place = some contents := by
  unfold file?
  rw [put_node_self]

theorem put_file?_of_ne {other : Location} (apart : other ≠ place) :
    (disk.put place node room).file? other = disk.file? other := by
  unfold file?
  rw [put_node_of_ne room apart]

end Put

/-! ## Where a path leads -/

theorem resolve_eq_some_iff {pieces : List Name} {final : Location} :
    disk.resolve place pieces = some final ↔
      (∀ visited ∈ visits place pieces, disk.IsDir visited) ∧ pieces.foldl step place = final := by
  induction pieces generalizing place with
  | nil =>
      unfold resolve visits
      rw [Option.some.injEq, List.foldl_nil]
      exact (and_iff_right (List.forall_mem_nil _)).symm
  | cons piece rest ih =>
      unfold resolve visits
      rw [List.forall_mem_cons, List.foldl_cons, and_assoc, ← ih]
      split
      · rename_i held
        exact (and_iff_right held).symm
      · rename_i missing
        exact iff_of_false (Option.some_ne_none _).symm fun both => missing both.1

/-- A path leads to the place it names when all it passes through are directories. -/
theorem find_eq_some_iff {cwd : Location} {path : Path} :
    disk.find cwd path = some place ↔
      (∀ visited ∈ passes cwd path, disk.IsDir visited) ∧ locate cwd path = place :=
  resolve_eq_some_iff

theorem IsDir.step (held : disk.IsDir place) (piece : Name) :
    disk.IsDir (step place piece) ∨
      (FileSystem.step place piece ≠ [] ∧ disk.IsDir (FileSystem.step place piece).tail) := by
  unfold FileSystem.step
  split
  · exact .inl held
  · split
    · exact .inl (held.of_suffix (List.tail_suffix place))
    · exact .inr ⟨List.cons_ne_nil _ _, held⟩

theorem room_of_resolve {pieces : List Name} {final : Location} (nonempty : pieces ≠ [])
    (leads : disk.resolve place pieces = some final) (free : ¬ disk.IsDir final) :
    disk.Room final := by
  induction pieces generalizing place with
  | nil => exact absurd rfl nonempty
  | cons piece rest ih =>
      unfold resolve at leads
      split at leads
      · rename_i held
        cases rest with
        | nil =>
            obtain rfl := Option.some.inj leads
            obtain ⟨named, within⟩ := (held.step piece).resolve_left free
            exact ⟨named, within, free⟩
        | cons next others => exact ih (List.cons_ne_nil _ _) leads
      · cases leads

/-- A path that does not lead to a directory leads to a place with room for a file. -/
theorem room_of_find {cwd : Location} {path : Path} (leads : disk.find cwd path = some place)
    (free : ¬ disk.IsDir place) : disk.Room place :=
  room_of_resolve (pieces_ne_nil path) leads free

/-! ## Making directories -/

theorem makeDirs_cons (disk : Disk) (place : Location) (piece : Name) (rest : List Name) :
    disk.makeDirs place (piece :: rest) =
      if disk.IsDir place then
        if disk.IsDir (FileSystem.step place piece) then
          disk.makeDirs (FileSystem.step place piece) rest
        else if disk.node (FileSystem.step place piece) = none then
          if room : disk.Room (FileSystem.step place piece) then
            (disk.put (FileSystem.step place piece) .dir room).makeDirs
              (FileSystem.step place piece) rest
          else
            (false, disk)
        else
          (false, disk)
      else
        (false, disk) := rfl

/-- Making directories keeps every directory and every file. -/
theorem makeDirs_keeps (pieces : List Name) (disk : Disk) (place : Location) :
    (∀ other, disk.IsDir other → (disk.makeDirs place pieces).2.IsDir other) ∧
      ∀ other, (disk.makeDirs place pieces).2.file? other = disk.file? other := by
  induction pieces generalizing disk place with
  | nil => exact ⟨fun _ => id, fun _ => rfl⟩
  | cons piece rest ih =>
      rw [makeDirs_cons]
      split
      · split
        · exact ih disk _
        · split
          · rename_i vacant
            split
            · rename_i room
              obtain ⟨dirs, files⟩ := ih (disk.put _ .dir room) (FileSystem.step place piece)
              refine ⟨fun other held => dirs other (held.put room), fun other => ?_⟩
              rw [files]
              by_cases same : other = FileSystem.step place piece
              · unfold file?
                rw [same, put_node_self, vacant]
              · exact put_file?_of_ne room same
            · exact ⟨fun _ => id, fun _ => rfl⟩
          · exact ⟨fun _ => id, fun _ => rfl⟩
      · exact ⟨fun _ => id, fun _ => rfl⟩

/-- Where the directories of a path were made, it leads to a directory. -/
theorem makeDirs_made {pieces : List Name} (nonempty : pieces ≠ []) {disk after : Disk}
    {place : Location} (made : disk.makeDirs place pieces = (true, after)) :
    (∀ visited ∈ visits place pieces, after.IsDir visited) ∧
      after.IsDir (pieces.foldl FileSystem.step place) := by
  induction pieces generalizing disk place with
  | nil => exact absurd rfl nonempty
  | cons piece rest ih =>
      have goes : ∀ middle : Disk, middle.IsDir place → middle.IsDir (FileSystem.step place piece) →
          middle.makeDirs (FileSystem.step place piece) rest = (true, after) →
          (∀ visited ∈ visits place (piece :: rest), after.IsDir visited) ∧
            after.IsDir ((piece :: rest).foldl FileSystem.step place) := by
        intro middle start next made
        have kept := (makeDirs_keeps rest middle (FileSystem.step place piece)).1
        rw [made] at kept
        unfold visits
        rw [List.forall_mem_cons, List.foldl_cons]
        cases rest with
        | nil => exact ⟨⟨kept _ start, List.forall_mem_nil _⟩, kept _ next⟩
        | cons second others =>
            obtain ⟨dirs, final⟩ := ih (List.cons_ne_nil _ _) made
            exact ⟨⟨kept _ start, dirs⟩, final⟩
      rw [makeDirs_cons] at made
      split at made
      · rename_i start
        split at made
        · rename_i next
          exact goes disk start next made
        · split at made
          · split at made
            · rename_i room
              exact goes _ (start.put room) (put_node_self room) made
            · cases made
          · cases made
      · cases made

/-- Nothing is made where all directories are there. -/
theorem makeDirs_of_made {pieces : List Name} {disk : Disk} {place : Location}
    (dirs : ∀ visited ∈ visits place pieces, disk.IsDir visited)
    (final : disk.IsDir (pieces.foldl FileSystem.step place)) :
    disk.makeDirs place pieces = (true, disk) := by
  induction pieces generalizing place with
  | nil => rfl
  | cons piece rest ih =>
      unfold visits at dirs
      rw [List.forall_mem_cons] at dirs
      have next : disk.IsDir (FileSystem.step place piece) := by
        cases rest with
        | nil => exact final
        | cons second others => exact dirs.2 _ List.mem_cons_self
      rw [makeDirs_cons, if_pos dirs.1, if_pos next]
      exact ih dirs.2 final

/-! ## Disks with given directories -/

/-- The directories needed for these places to be directories, and no files. -/
def laidOut (dirs : List Location) : Location → Option Node := fun place =>
  if place = [] ∨ ∃ dir ∈ dirs, place <:+ dir then some .dir else none

theorem laidOut_root (dirs : List Location) : laidOut dirs [] = some .dir :=
  if_pos (.inl rfl)

theorem laidOut_parent (dirs : List Location) (name : Name) (place : Location)
    (present : laidOut dirs (name :: place) ≠ none) : laidOut dirs place = some .dir := by
  unfold laidOut at present ⊢
  split at present
  · rename_i listed
    obtain named | ⟨dir, member, lies⟩ := listed
    · cases named
    · exact if_pos (.inr ⟨dir, member, (List.suffix_cons name place).trans lies⟩)
  · exact absurd rfl present

def ofDirs (dirs : List Location) : Disk where
  node := laidOut dirs
  root := laidOut_root dirs
  parent := laidOut_parent dirs

theorem ofDirs_isDir_iff {dirs : List Location} :
    (ofDirs dirs).IsDir place ↔ place = [] ∨ ∃ dir ∈ dirs, place <:+ dir := by
  unfold IsDir ofDirs laidOut
  simp only
  split
  · rename_i held
    exact iff_of_true rfl held
  · rename_i missing
    exact iff_of_false (Option.some_ne_none _).symm missing

end Disk

/-- These places can be directories while those are files. -/
def Compatible (dirs files : List Location) : Prop :=
  ∀ file ∈ files, ∀ dir ∈ dirs, ¬ file <:+ dir

instance (dirs files : List Location) : Decidable (Compatible dirs files) :=
  inferInstanceAs (Decidable (∀ _ ∈ _, _))

/-- What is found on one disk is compatible. -/
theorem Disk.compatible (disk : Disk) {dirs files : List Location}
    (held : ∀ dir ∈ dirs, disk.IsDir dir) (free : ∀ file ∈ files, ¬ disk.IsDir file) :
    Compatible dirs files :=
  fun file listed dir member lies => free file listed ((held dir member).of_suffix lies)

theorem Compatible.not_isDir {dirs files : List Location} (compatible : Compatible dirs files)
    (nonempty : dirs ≠ []) {file : Location} (listed : file ∈ files) :
    ¬ (Disk.ofDirs dirs).IsDir file := by
  rw [Disk.ofDirs_isDir_iff]
  rintro (rfl | ⟨dir, member, lies⟩)
  · obtain ⟨dir, rest, rfl⟩ := List.exists_cons_of_ne_nil nonempty
    exact compatible [] listed dir List.mem_cons_self (List.nil_suffix)
  · exact compatible file listed dir member lies

/-- A path leads to a file of its own on a disk with the directories it passes through. -/
theorem Compatible.exists_disk {dirs files : List Location} {cwd : Location} {path : Path}
    (compatible : Compatible dirs (locate cwd path :: files))
    (passed : ∀ place ∈ passes cwd path, place ∈ dirs) :
    ∃ disk : Disk, (∀ dir ∈ dirs, disk.IsDir dir) ∧
      (∀ file ∈ locate cwd path :: files, ¬ disk.IsDir file) ∧
      disk.file? (locate cwd path) = some [] := by
  have nonempty : dirs ≠ [] := by
    obtain ⟨first, rest, split⟩ := List.exists_cons_of_ne_nil (pieces_ne_nil path)
    refine List.ne_nil_of_mem (passed (origin cwd path) ?_)
    unfold passes
    rw [split]
    exact List.mem_cons_self
  have made : ∀ dir ∈ dirs, (Disk.ofDirs dirs).IsDir dir :=
    fun dir listed => Disk.ofDirs_isDir_iff.mpr (.inr ⟨dir, listed, List.suffix_rfl⟩)
  have leads : (Disk.ofDirs dirs).find cwd path = some (locate cwd path) :=
    Disk.find_eq_some_iff.mpr ⟨fun place listed => made place (passed place listed), rfl⟩
  have room := Disk.room_of_find leads (compatible.not_isDir nonempty List.mem_cons_self)
  refine ⟨(Disk.ofDirs dirs).put _ (.file []) room, fun dir listed => (made dir listed).put room,
    fun file listed dir => ?_, Disk.put_file?_self room []⟩
  exact compatible.not_isDir nonempty listed ((Disk.put_file_isDir_iff room).mp dir)

/-! ## Requests -/

inductive Op where
  | createDirAll (path : Path)
  | write (path : Path) (contents : List UInt8)
  | exist (path : Path)
  | read (path : Path)

/-- Requests answer whether they went through, or what they read. -/
abbrev Op.Reply : Op → Type
  | .createDirAll _ | .write _ _ | .exist _ => Bool
  | .read _ => Option (List UInt8)

abbrev signature : EffectProgram.Signature where
  Op := Op
  Reply := Op.Reply

/-- How the system fails a request: before it does anything, or when it has done a part. -/
inductive Fault where
  | refused
  | torn (done : Nat)

/-- The disk, the working directory, what the system does with the requests to come (after the
last of these it fails none), and the places of the files that were read or written. -/
structure Machine where
  disk : Disk
  cwd : Location
  faults : List (Option Fault)
  touched : List Location

namespace Machine

/-- What the system does with the next request. -/
def fault (machine : Machine) : Option Fault :=
  machine.faults.head?.join

/-- The request is dealt with. -/
def next (machine : Machine) : Machine :=
  { machine with faults := machine.faults.tail }

def withDisk (machine : Machine) (disk : Disk) : Machine :=
  { machine.next with disk }

/-- Start a new log of what is touched. -/
def newLog (machine : Machine) : Machine :=
  { machine with touched := [] }

def touch (machine : Machine) (place : Location) : Machine :=
  { machine with touched := machine.touched ++ [place] }

/-- Make the directories of a path, or those of its first pieces. -/
def createDirAll (machine : Machine) (path : Path) : Bool × Machine :=
  let origin := origin machine.cwd path
  match machine.fault with
  | none =>
      let made := machine.disk.makeDirs origin (pieces path)
      (made.1, machine.withDisk made.2)
  | some .refused => (false, machine.next)
  | some (.torn done) =>
      (false, machine.withDisk (machine.disk.makeDirs origin ((pieces path).take done)).2)

/-- Put a file where the path leads, or a first part of it. -/
def write (machine : Machine) (path : Path) (contents : List UInt8) : Bool × Machine :=
  match machine.disk.find machine.cwd path with
  | none => (false, machine.next)
  | some place =>
      if room : machine.disk.Room place then
        match machine.fault with
        | none =>
            (true, (machine.withDisk (machine.disk.put place (.file contents) room)).touch place)
        | some .refused => (false, machine.next)
        | some (.torn done) =>
            (false, (machine.withDisk
              (machine.disk.put place (.file (contents.take done)) room)).touch place)
      else
        (false, machine.next)

/-- Something is there. It reads no file. -/
def exist (machine : Machine) (path : Path) : Bool × Machine :=
  match machine.fault, machine.disk.find machine.cwd path with
  | none, some place => ((machine.disk.node place).isSome, machine.next)
  | _, _ => (false, machine.next)

def read (machine : Machine) (path : Path) : Option (List UInt8) × Machine :=
  match machine.disk.find machine.cwd path with
  | none => (none, machine.next)
  | some place =>
      match machine.disk.file? place with
      | none => (none, machine.next)
      | some contents =>
          match machine.fault with
          | none => (some contents, machine.next.touch place)
          | some .refused => (none, machine.next)
          | some (.torn _) => (none, machine.next.touch place)

end Machine

/-- The meaning of each request. -/
def exec {ε : Type} : EffectProgram.Semantics signature ε Machine
  | .createDirAll path, machine =>
      let (reply, after) := machine.createDirAll path
      (.ok reply, after)
  | .write path contents, machine =>
      let (reply, after) := machine.write path contents
      (.ok reply, after)
  | .exist path, machine =>
      let (reply, after) := machine.exist path
      (.ok reply, after)
  | .read path, machine =>
      let (reply, after) := machine.read path
      (.ok reply, after)

def request {ε : Type} (op : Op) : EffectProgram.Program signature ε (Op.Reply op) :=
  @EffectProgram.Program.perform signature ε op

theorem run_request {ε : Type} (op : Op) (machine : Machine) :
    EffectProgram.run exec (request op) machine = @exec ε op machine :=
  @EffectProgram.run_perform signature ε Machine exec op machine

theorem run_createDirAll {ε : Type} (path : Path) (machine : Machine) :
    EffectProgram.run (@exec ε) (request (.createDirAll path)) machine =
      (.ok (machine.createDirAll path).1, (machine.createDirAll path).2) :=
  run_request _ _

theorem run_write {ε : Type} (path : Path) (contents : List UInt8) (machine : Machine) :
    EffectProgram.run (@exec ε) (request (.write path contents)) machine =
      (.ok (machine.write path contents).1, (machine.write path contents).2) :=
  run_request _ _

theorem run_exist {ε : Type} (path : Path) (machine : Machine) :
    EffectProgram.run (@exec ε) (request (.exist path)) machine =
      (.ok (machine.exist path).1, (machine.exist path).2) :=
  run_request _ _

theorem run_read {ε : Type} (path : Path) (machine : Machine) :
    EffectProgram.run (@exec ε) (request (.read path)) machine =
      (.ok (machine.read path).1, (machine.read path).2) :=
  run_request _ _

/-! ## What a request does -/

/-- The requests between two machines read and wrote the files at the new places alone, and
removed no directory. -/
structure Keeps (before after : Machine) (new : List Location) : Prop where
  cwd : after.cwd = before.cwd
  touched : after.touched = before.touched ++ new
  dirs : ∀ place, before.disk.IsDir place → after.disk.IsDir place
  files : ∀ place, place ∉ new → after.disk.file? place = before.disk.file? place

theorem Keeps.refl (machine : Machine) : Keeps machine machine [] :=
  ⟨rfl, (List.append_nil _).symm, fun _ => id, fun _ _ => rfl⟩

theorem Keeps.trans {first second third : Machine} {new more : List Location}
    (before : Keeps first second new) (after : Keeps second third more) :
    Keeps first third (new ++ more) where
  cwd := after.cwd.trans before.cwd
  touched := by rw [after.touched, before.touched, List.append_assoc]
  dirs place held := after.dirs place (before.dirs place held)
  files place fresh := by
    rw [List.mem_append, not_or] at fresh
    exact (after.files place fresh.2).trans (before.files place fresh.1)

namespace Machine

variable {machine : Machine} {path : Path} {place : Location} {contents : List UInt8}

theorem keeps_next (machine : Machine) : Keeps machine machine.next [] :=
  ⟨rfl, (List.append_nil _).symm, fun _ => id, fun _ _ => rfl⟩

theorem keeps_makeDirs (machine : Machine) (origin : Location) (pieces : List Name) :
    Keeps machine (machine.withDisk (machine.disk.makeDirs origin pieces).2) [] where
  cwd := rfl
  touched := (List.append_nil _).symm
  dirs := (Disk.makeDirs_keeps pieces machine.disk origin).1
  files place _ := (Disk.makeDirs_keeps pieces machine.disk origin).2 place

theorem keeps_put (room : machine.disk.Room place) (stored : List UInt8) :
    Keeps machine ((machine.withDisk (machine.disk.put place (.file stored) room)).touch place)
      [place] where
  cwd := rfl
  touched := rfl
  dirs _ held := held.put room
  files _ fresh := Disk.put_file?_of_ne room (List.ne_of_not_mem_cons fresh)

theorem createDirAll_keeps (machine : Machine) (path : Path) :
    Keeps machine (machine.createDirAll path).2 [] := by
  unfold createDirAll
  split
  · exact keeps_makeDirs machine _ _
  · exact keeps_next machine
  · exact keeps_makeDirs machine _ _

/-- Where the directories of a path were made, it leads to a directory. -/
theorem createDirAll_made (made : (machine.createDirAll path).1 = true) :
    (∀ visited ∈ passes machine.cwd path, (machine.createDirAll path).2.disk.IsDir visited) ∧
      (machine.createDirAll path).2.disk.IsDir (locate machine.cwd path) := by
  unfold createDirAll at made ⊢
  split at made
  · exact Disk.makeDirs_made (pieces_ne_nil path) (Prod.ext made rfl)
  · cases made
  · cases made

/-- A write does nothing, or puts a file where the path leads. -/
theorem write_cases (machine : Machine) (path : Path) (contents : List UInt8) :
    machine.write path contents = (false, machine.next) ∨
      ∃ place stored, machine.disk.find machine.cwd path = some place ∧
        ¬ machine.disk.IsDir place ∧
        Keeps machine (machine.write path contents).2 [place] ∧
        (machine.write path contents).2.disk.file? place = some stored ∧
        ((machine.write path contents).1 = true → stored = contents) := by
  unfold write
  split
  · exact .inl rfl
  · rename_i place leads
    split
    · rename_i room
      split
      · exact .inr ⟨place, contents, leads, room.free, keeps_put room _,
          Disk.put_file?_self room _, fun _ => rfl⟩
      · exact .inl rfl
      · exact .inr ⟨place, _, leads, room.free, keeps_put room _, Disk.put_file?_self room _,
          fun done => absurd done Bool.false_ne_true⟩
    · exact .inl rfl

theorem exist_snd (machine : Machine) (path : Path) : (machine.exist path).2 = machine.next := by
  unfold exist
  split
  · rfl
  · rfl

theorem exist_keeps (machine : Machine) (path : Path) :
    Keeps machine (machine.exist path).2 [] := by
  rw [exist_snd]
  exact keeps_next machine

/-- A read does nothing, or reads the file the path leads to. -/
theorem read_cases (machine : Machine) (path : Path) :
    machine.read path = (none, machine.next) ∨
      ∃ place contents, machine.disk.find machine.cwd path = some place ∧
        machine.disk.file? place = some contents ∧
        (machine.read path).2 = machine.next.touch place ∧
        ∀ bytes, (machine.read path).1 = some bytes → bytes = contents := by
  unfold read
  split
  · exact .inl rfl
  · rename_i place leads
    split
    · exact .inl rfl
    · rename_i contents held
      split
      · exact .inr ⟨place, contents, leads, held, rfl, fun bytes same =>
          (Option.some.inj same).symm⟩
      · exact .inl rfl
      · refine .inr ⟨place, contents, leads, held, rfl, fun bytes none => ?_⟩
        cases none

/-! ## When the system fails nothing -/

section Calm

variable (calm : machine.faults = [])
include calm

theorem fault_of_calm : machine.fault = none := by
  unfold fault
  rw [calm]
  rfl

theorem next_of_calm : machine.next = machine := by
  unfold next
  rw [calm, List.tail_nil, ← calm]

theorem createDirAll_of_calm
    (dirs : ∀ visited ∈ passes machine.cwd path, machine.disk.IsDir visited)
    (final : machine.disk.IsDir (locate machine.cwd path)) :
    machine.createDirAll path = (true, machine) := by
  unfold createDirAll
  rw [fault_of_calm calm]
  simp only
  rw [Disk.makeDirs_of_made dirs final, withDisk, next_of_calm calm]

/-- The file is written, and nothing else changes. -/
theorem write_of_calm (leads : machine.disk.find machine.cwd path = some place)
    (free : ¬ machine.disk.IsDir place) (contents : List UInt8) :
    ∃ after, machine.write path contents = (true, after) ∧ after.faults = [] ∧
      Keeps machine after [place] ∧ after.disk.file? place = some contents ∧
      ∀ other, after.disk.IsDir other ↔ machine.disk.IsDir other := by
  have room := Disk.room_of_find leads free
  refine ⟨(machine.withDisk (machine.disk.put place (.file contents) room)).touch place, ?_, ?_,
    keeps_put room contents, Disk.put_file?_self room contents,
    fun other => Disk.put_file_isDir_iff room⟩
  · unfold write
    rw [leads]
    simp only
    rw [dif_pos room, fault_of_calm calm]
  · change machine.faults.tail = []
    rw [calm, List.tail_nil]

theorem exist_of_calm (leads : machine.disk.find machine.cwd path = some place)
    (held : machine.disk.file? place = some contents) : machine.exist path = (true, machine) := by
  have present : (machine.disk.node place).isSome = true := by
    unfold Disk.file? at held
    split at held
    · rename_i found
      rw [found]
      rfl
    · cases held
  unfold exist
  rw [fault_of_calm calm, leads]
  simp only
  rw [present, next_of_calm calm]

theorem read_of_calm (leads : machine.disk.find machine.cwd path = some place)
    (held : machine.disk.file? place = some contents) :
    machine.read path = (some contents, machine.touch place) := by
  unfold read
  rw [leads]
  simp only
  rw [held]
  simp only
  rw [fault_of_calm calm, next_of_calm calm]

end Calm

theorem keeps_touch (machine : Machine) (place : Location) :
    Keeps machine (machine.next.touch place) [place] :=
  ⟨rfl, rfl, fun _ => id, fun _ _ => rfl⟩

end Machine

theorem exec_keeps {ε : Type} (op : Op) (machine : Machine) :
    ∃ reply new, (@exec ε op machine).1 = .ok reply ∧
      Keeps machine (@exec ε op machine).2 new := by
  cases op with
  | createDirAll path => exact ⟨_, _, rfl, machine.createDirAll_keeps path⟩
  | write path contents =>
      rcases machine.write_cases path contents with failed | ⟨place, stored, -, -, keeps, -⟩
      · refine ⟨_, [], rfl, ?_⟩
        change Keeps machine (machine.write path contents).2 []
        rw [failed]
        exact machine.keeps_next
      · exact ⟨_, _, rfl, keeps⟩
  | exist path => exact ⟨_, _, rfl, machine.exist_keeps path⟩
  | read path =>
      rcases machine.read_cases path with failed | ⟨place, contents, -, -, after, -⟩
      · refine ⟨_, [], rfl, ?_⟩
        change Keeps machine (machine.read path).2 []
        rw [failed]
        exact machine.keeps_next
      · refine ⟨_, [place], rfl, ?_⟩
        change Keeps machine (machine.read path).2 [place]
        rw [after]
        exact machine.keeps_touch place

/-- A program reads and writes the files it touches alone. -/
theorem run_keeps {ε α : Type} (program : EffectProgram.Program signature ε α)
    (machine : Machine) : ∃ new, Keeps machine (EffectProgram.run exec program machine).2 new := by
  induction program generalizing machine with
  | done value => exact ⟨[], Keeps.refl machine⟩
  | fail reason => exact ⟨[], Keeps.refl machine⟩
  | call op rest ih =>
      obtain ⟨reply, new, answered, first⟩ := @exec_keeps ε op machine
      obtain ⟨more, second⟩ := ih reply (@exec ε op machine).2
      refine ⟨new ++ more, ?_⟩
      have ran : EffectProgram.run exec (.call op rest) machine =
          EffectProgram.run exec (rest reply) (@exec ε op machine).2 := by
        rw [EffectProgram.run, ← Prod.mk.eta (p := exec op machine), answered]
      rw [ran]
      exact first.trans second

end FileSystem
