import Mathlib.Data.List.Infix
import Mathlib.Tactic.Tauto

set_option autoImplicit false

/-! Paths, and the places they lead to. A path is joined to a base as the standard library joins
it, and followed piece by piece from the root or from the working directory. -/

namespace FileSystem

abbrev Name := List Char

abbrev Path := List Char

/-- A place in the tree: its name and those of the directories above it, up to the root. -/
abbrev Location := List Name

/-! ## Paths -/

def isAbsolute (path : Path) : Bool :=
  path.head? == some '/'

/-- An absolute path replaces the base. -/
def join (base path : Path) : Path :=
  if isAbsolute path then path
  else if base = [] ∨ base.getLast? = some '/' then base ++ path
  else base ++ '/' :: path

def pieces (path : Path) : List Name :=
  path.splitOn '/'

/-- Follow one piece. The root has no directory above it. -/
def step (place : Location) (piece : Name) : Location :=
  if piece = [] ∨ piece = ['.'] then place
  else if piece = ['.', '.'] then place.tail
  else piece :: place

def origin (cwd : Location) (path : Path) : Location :=
  if isAbsolute path then [] else cwd

/-- Where a path leads. -/
def locate (cwd : Location) (path : Path) : Location :=
  (pieces path).foldl step (origin cwd path)

/-- The places a walk passes through: each has the next piece looked up in it. -/
def visits : Location → List Name → List Location
  | _, [] => []
  | place, piece :: rest => place :: visits (step place piece) rest

/-- The places that must be directories for a path to lead anywhere. -/
def passes (cwd : Location) (path : Path) : List Location :=
  visits (origin cwd path) (pieces path)

/-- A piece that is the name of an entry. -/
def IsName (piece : Name) : Prop :=
  piece ≠ [] ∧ piece ≠ ['.'] ∧ piece ≠ ['.', '.']

instance (piece : Name) : Decidable (IsName piece) :=
  inferInstanceAs (Decidable (_ ∧ _))

theorem step_of_isName {piece : Name} (named : IsName piece) (place : Location) :
    step place piece = piece :: place := by
  unfold step
  rw [if_neg (not_or.mpr ⟨named.1, named.2.1⟩), if_neg named.2.2]

theorem visits_append (place : Location) (first second : List Name) :
    visits place (first ++ second) =
      visits place first ++ visits (first.foldl step place) second := by
  induction first generalizing place with
  | nil => rfl
  | cons piece rest ih =>
      rw [List.cons_append, visits, visits, ih, List.foldl_cons, List.cons_append]

theorem pieces_ne_nil (path : Path) : pieces path ≠ [] := List.splitOn_ne_nil _ _

theorem pieces_of_plain {path : Path} (plain : '/' ∉ path) : pieces path = [path] :=
  List.splitOn_eq_singleton plain

theorem pieces_append (base path : Path) :
    pieces (base ++ '/' :: path) = pieces base ++ pieces path :=
  List.splitOn_append_cons_self _ _

theorem not_isAbsolute_of_plain {path : Path} (plain : '/' ∉ path) : isAbsolute path = false := by
  unfold isAbsolute
  cases path with
  | nil => rfl
  | cons first rest =>
      have apart : first ≠ '/' := fun same => plain (same ▸ List.mem_cons_self)
      simpa only [List.head?_cons, beq_eq_false_iff_ne, ne_eq, Option.some.injEq] using apart

/-- A base that is empty or ends in a slash has an empty last piece, which the joined path goes
on from. -/
theorem pieces_join {path : Path} (relative : isAbsolute path = false) (base : Path) :
    ∃ front extra, (extra = [] ∨ extra = [[]]) ∧ pieces base = front ++ extra ∧
      pieces (join base path) = front ++ pieces path := by
  unfold join
  rw [relative, if_neg Bool.false_ne_true]
  split
  · rename_i bare
    rcases List.eq_nil_or_concat base with rfl | ⟨front, last, rfl⟩
    · exact ⟨[], [[]], .inr rfl, rfl, rfl⟩
    · have slash : last = '/' := by
        simpa only [List.concat_eq_append, List.append_eq_nil_iff, List.cons_ne_self, and_false,
          false_or, List.getLast?_append, List.getLast?_singleton, Option.some_or,
          Option.some.injEq, reduceCtorEq] using bare
      subst slash
      refine ⟨pieces front, [[]], .inr rfl, ?_, ?_⟩
      · rw [List.concat_eq_append, pieces_append]
        rfl
      · rw [List.concat_eq_append, List.append_assoc, List.singleton_append, pieces_append]
  · exact ⟨pieces base, [], .inl rfl, (List.append_nil _).symm, pieces_append base path⟩

theorem isAbsolute_join {path : Path} (relative : isAbsolute path = false) (base : Path) :
    isAbsolute (join base path) = isAbsolute base := by
  unfold join
  rw [relative, if_neg Bool.false_ne_true]
  cases base with
  | nil => exact relative
  | cons first rest =>
      split
      · rfl
      · rfl

theorem foldl_step_extra {extra : List Name} (blank : extra = [] ∨ extra = [[]])
    (place : Location) : extra.foldl step place = place := by
  rcases blank with rfl | rfl
  · rfl
  · rfl

/-- A relative path is followed from where the base leads. -/
theorem locate_join {path : Path} (relative : isAbsolute path = false) (cwd : Location)
    (base : Path) :
    locate cwd (join base path) = (pieces path).foldl step (locate cwd base) := by
  obtain ⟨front, extra, blank, split, joined⟩ := pieces_join relative base
  unfold locate origin
  rw [isAbsolute_join relative, split, joined, List.foldl_append, List.foldl_append,
    foldl_step_extra blank]

/-- What a joined path passes through: what the base does, and from where it leads on. -/
theorem mem_passes_join {path : Path} (relative : isAbsolute path = false) (cwd : Location)
    (base : Path) (place : Location) :
    place ∈ passes cwd (join base path) ↔
      place ∈ passes cwd base ∨ place ∈ visits (locate cwd base) (pieces path) := by
  obtain ⟨front, extra, blank, split, joined⟩ := pieces_join relative base
  unfold passes locate origin
  rw [isAbsolute_join relative, split, joined, visits_append, visits_append, List.foldl_append,
    foldl_step_extra blank, List.mem_append, List.mem_append]
  rcases blank with rfl | rfl
  · rw [visits, List.mem_nil_iff, or_false]
  · obtain ⟨first, rest, pieces⟩ := List.exists_cons_of_ne_nil (pieces_ne_nil path)
    rw [pieces, visits, visits, visits, List.mem_singleton, List.mem_cons]
    tauto

theorem locate_join_name {name : Name} (named : IsName name) (plain : '/' ∉ name) (cwd : Location)
    (base : Path) : locate cwd (join base name) = name :: locate cwd base := by
  rw [locate_join (not_isAbsolute_of_plain plain), pieces_of_plain plain, List.foldl_cons,
    List.foldl_nil, step_of_isName named]

theorem mem_passes_join_name {name : Name} (plain : '/' ∉ name) (cwd : Location) (base : Path)
    (place : Location) :
    place ∈ passes cwd (join base name) ↔ place ∈ passes cwd base ∨ place = locate cwd base := by
  rw [mem_passes_join (not_isAbsolute_of_plain plain), pieces_of_plain plain, visits, visits,
    List.mem_singleton]

end FileSystem
