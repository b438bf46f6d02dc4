import FactorGraph.Mat

set_option autoImplicit false

namespace FactorGraph

structure Block (α : Type) where
  cols : Nat
  rows : List (List α)
  length_of_mem : ∀ row ∈ rows, row.length = cols

namespace Block

variable {α : Type}

def height (b : Block α) : Nat := b.rows.length

def shape (b : Block α) : Nat × Nat := (b.height, b.cols)

def ofFn (height cols : Nat) (entry : Nat → Nat → α) : Block α where
  cols := cols
  rows := (List.range height).map fun i => (List.range cols).map (entry i)
  length_of_mem row mem := by
    obtain ⟨i, _, rfl⟩ := List.mem_map.mp mem
    simp

theorem shape_ofFn (height cols : Nat) (entry : Nat → Nat → α) :
    (ofFn height cols entry).shape = (height, cols) := by
  simp [ofFn, shape, Block.height]

def ofRows? (rows : List (List α)) : Option (Block α) :=
  let cols := (rows.head?.map List.length).getD 0
  if h : ∀ row ∈ rows, row.length = cols then some ⟨cols, rows, h⟩ else none

def column (entries : List α) : Block α where
  cols := 1
  rows := entries.map fun a => [a]
  length_of_mem row mem := by
    obtain ⟨a, _, rfl⟩ := List.mem_map.mp mem
    rfl

def row (entries : List α) : Block α where
  cols := entries.length
  rows := [entries]
  length_of_mem _ mem := by rw [List.mem_singleton.mp mem]

def mapRows (f : Nat → List α → List α) (keeps : ∀ i row, (f i row).length = row.length)
    (b : Block α) : Block α where
  cols := b.cols
  rows := b.rows.mapIdx f
  length_of_mem row mem := by
    obtain ⟨i, h, rfl⟩ := List.mem_mapIdx.mp mem
    rw [keeps]
    exact b.length_of_mem _ (List.getElem_mem h)

def ofColumns [Zero α] (height : Nat) (columns : List (List α)) : Block α where
  cols := columns.length
  rows := (List.range height).map fun i => columns.map (List.getD · i 0)
  length_of_mem row mem := by
    obtain ⟨i, _, rfl⟩ := List.mem_map.mp mem
    simp

def diagonalEntries [Zero α] (b : Block α) : List α := b.rows.mapIdx fun i row => row[i]?.getD 0

def principal (b : Block α) (offset size : Nat) : Option (Block α) :=
  if h : offset + size ≤ b.cols ∧ offset + size ≤ b.height then
    some {
      cols := size
      rows := ((b.rows.drop offset).take size).map fun row => (row.drop offset).take size
      length_of_mem := by
        intro row mem
        obtain ⟨whole, inside, rfl⟩ := List.mem_map.mp mem
        have := b.length_of_mem whole (List.mem_of_mem_drop (List.mem_of_mem_take inside))
        simp only [List.length_take, List.length_drop]
        omega }
  else none

variable [Scalar α]

def zero (height cols : Nat) : Block α := ofFn height cols fun _ _ => 0

def identity (n : Nat) : Block α := ofFn n n fun i j => if i = j then 1 else 0

def diagonal (a b : Block α) : Block α where
  cols := a.cols + b.cols
  rows := a.rows.map (· ++ List.replicate b.cols 0) ++ b.rows.map (List.replicate a.cols 0 ++ ·)
  length_of_mem row mem := by
    rcases List.mem_append.mp mem with mem | mem <;>
      obtain ⟨part, inside, rfl⟩ := List.mem_map.mp mem
    · simp [a.length_of_mem part inside]
    · simp [b.length_of_mem part inside]

def isFinite (b : Block α) : Bool := b.rows.all fun row => row.all Scalar.isFinite

def dot (a b : List α) : α := (List.zipWith (· * ·) a b).foldl (· + ·) 0

def largest (v : List α) : α := v.foldl (fun m a => Scalar.max m (Scalar.abs a)) 0

def norm (v : List α) : α :=
  let m := largest v
  if 0 < m ∧ Scalar.isFinite m then
    let scaled := v.map (· / m)
    m * Scalar.sqrt (dot scaled scaled)
  else Scalar.sqrt (dot v v)

def mulVec (b : Block α) (v : List α) : List α := b.rows.map (dot · v)

end Block

variable {α : Type}

theorem Mat3.length_of_mem_toRows (m : Mat3 α) : ∀ row ∈ m.toRows, row.length = 3 := by
  simp [Mat3.toRows, Vec3.toList]

theorem Mat6.length_of_mem_toRows (m : Mat6 α) : ∀ row ∈ m.toRows, row.length = 6 := by
  simp [Mat6.toRows, Mat3.toRows, Vec3.toList]

theorem Mat23.length_of_mem_toRows (m : Mat23 α) : ∀ row ∈ m.toRows, row.length = 3 := by
  simp [Mat23.toRows, Vec3.toList]

def Mat3.toBlock (m : Mat3 α) : Block α := ⟨3, m.toRows, m.length_of_mem_toRows⟩

def Mat6.toBlock (m : Mat6 α) : Block α := ⟨6, m.toRows, m.length_of_mem_toRows⟩

def Mat23.toBlock (m : Mat23 α) : Block α := ⟨3, m.toRows, m.length_of_mem_toRows⟩

def Mat23.beside (a b : Mat23 α) : Block α where
  cols := 6
  rows := [a.r0.toList ++ b.r0.toList, a.r1.toList ++ b.r1.toList]
  length_of_mem := by simp [Vec3.toList]

def Mat23.beside3 (a b c : Mat23 α) : Block α where
  cols := 9
  rows := [a.r0.toList ++ b.r0.toList ++ c.r0.toList, a.r1.toList ++ b.r1.toList ++ c.r1.toList]
  length_of_mem := by simp [Vec3.toList]

end FactorGraph
