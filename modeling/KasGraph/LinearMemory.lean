import Mathlib

set_option autoImplicit false

/-! Linear memory: pages of bytes at addresses from zero, read and written in blocks. A block
outside the memory is refused; a write leaves every other byte alone. -/

/-- A linear memory of at most 65536 pages. What `byteAt` says past the last page is not read. -/
structure LinearMemory where
  pages : Nat
  bounded : pages ≤ 65536
  byteAt : Nat → UInt8

namespace LinearMemory

theorem one_bounded : 1 ≤ 65536 := by decide

def pageSize : Nat := 65536

def size (memory : LinearMemory) : Nat := memory.pages * pageSize

/-- The bytes of a block. -/
def read (memory : LinearMemory) (start length : Nat) : Option (List UInt8) :=
  if start + length ≤ memory.size then
    some ((List.range length).map fun offset => memory.byteAt (start + offset))
  else
    none

def write (memory : LinearMemory) (start : Nat) (block : List UInt8) : Option LinearMemory :=
  if start + block.length ≤ memory.size then
    some { memory with
      byteAt := fun address =>
        if start ≤ address then block.getD (address - start) (memory.byteAt address)
        else memory.byteAt address }
  else
    none

/-- `memory.grow`: zeroed pages at the end, unless the memory would be too large. -/
def grow (memory : LinearMemory) (pages : Nat) : Option LinearMemory :=
  if fits : memory.pages + pages ≤ 65536 then
    some {
      pages := memory.pages + pages
      bounded := fits
      byteAt := fun address => if address < memory.size then memory.byteAt address else 0 }
  else
    none

variable {memory after : LinearMemory} {start : Nat} {block : List UInt8}

theorem read_eq_some_iff {length : Nat} :
    memory.read start length = some block ↔
      start + length ≤ memory.size ∧
        (List.range length).map (fun offset => memory.byteAt (start + offset)) = block := by
  unfold read
  split
  · rename_i inside
    simp [inside]
  · rename_i outside
    simp [outside]

/-- Memories that agree on a block read the same there. -/
theorem read_congr {other : LinearMemory} {length : Nat}
    (inside : start + length ≤ memory.size) (inside' : start + length ≤ other.size)
    (agree : ∀ address, start ≤ address → address < start + length →
      other.byteAt address = memory.byteAt address) :
    other.read start length = memory.read start length := by
  unfold read
  rw [if_pos inside, if_pos inside']
  congr 1
  apply List.map_congr_left
  intro offset member
  have below := List.mem_range.mp member
  exact agree (start + offset) (by omega) (by omega)

theorem write_some (wrote : memory.write start block = some after) :
    start + block.length ≤ memory.size ∧ after = { memory with
      byteAt := fun address =>
        if start ≤ address then block.getD (address - start) (memory.byteAt address)
        else memory.byteAt address } := by
  unfold write at wrote
  split at wrote
  · rename_i inside
    exact ⟨inside, (Option.some.inj wrote).symm⟩
  · cases wrote

theorem write_isSome (inside : start + block.length ≤ memory.size) :
    (memory.write start block).isSome := by
  unfold write
  rw [if_pos inside]
  rfl

theorem size_write (wrote : memory.write start block = some after) : after.size = memory.size := by
  rw [(write_some wrote).2]
  rfl

/-- The block just written is read back. -/
theorem read_write_self (wrote : memory.write start block = some after) :
    after.read start block.length = some block := by
  obtain ⟨inside, same⟩ := write_some wrote
  rw [read_eq_some_iff, size_write wrote, same]
  refine ⟨inside, ?_⟩
  apply List.ext_getElem (by simp)
  intro index small within
  simp [within]

/-- A byte outside the block written keeps its value. -/
theorem byteAt_write_outside (wrote : memory.write start block = some after) {address : Nat}
    (outside : address < start ∨ start + block.length ≤ address) :
    after.byteAt address = memory.byteAt address := by
  rw [(write_some wrote).2]
  rcases outside with below | above
  · have before : ¬ start ≤ address := by omega
    simp only [before, if_false]
  · have past : block.length ≤ address - start := by omega
    simp [List.getD, past]

/-- A block that lies beside the block written is read as before. -/
theorem read_write_of_disjoint (wrote : memory.write start block = some after)
    {other length : Nat} (apart : other + length ≤ start ∨ start + block.length ≤ other) :
    after.read other length = memory.read other length := by
  by_cases inside : other + length ≤ memory.size
  · apply read_congr inside (by rw [size_write wrote]; exact inside)
    intro address low high
    apply byteAt_write_outside wrote
    omega
  · unfold read
    rw [if_neg inside, if_neg (by rw [size_write wrote]; exact inside)]

theorem grow_some {pages : Nat} (grown : memory.grow pages = some after) :
    after.pages = memory.pages + pages ∧
      ∀ address, address < memory.size → after.byteAt address = memory.byteAt address := by
  unfold grow at grown
  split at grown
  · rw [← Option.some.inj grown]
    refine ⟨rfl, ?_⟩
    intro address inside
    simp only [inside, if_true]
  · cases grown

theorem size_grow {pages : Nat} (grown : memory.grow pages = some after) :
    after.size = memory.size + pages * pageSize := by
  unfold size
  rw [(grow_some grown).1, Nat.add_mul]

/-- A block of the memory stays when the memory grows. -/
theorem read_grow {pages other length : Nat} (grown : memory.grow pages = some after)
    (inside : other + length ≤ memory.size) : after.read other length = memory.read other length := by
  have larger := size_grow grown
  apply read_congr inside (by omega)
  intro address low high
  exact (grow_some grown).2 address (by omega)

end LinearMemory
