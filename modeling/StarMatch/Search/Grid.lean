/-!
# Grids

A grid is a rectangle of cells, stored row after row in one array. Reading outside of the array
gives nothing and writing there changes nothing.
-/

namespace StarMatch

universe u

/-- A rectangle of cells, `stride` of them in a row. -/
structure Grid (α : Type u) where
  stride : Nat
  cells : Array α

namespace Grid

variable {α : Type u}

/-- The grid without cells. -/
def empty : Grid α :=
  ⟨0, #[]⟩

/-- A grid of the given number of cells, all alike. -/
def filled (stride count : Nat) (x : α) : Grid α :=
  ⟨stride, Array.replicate count x⟩

/-- The grid with all of its cells dropped. -/
def clear (g : Grid α) : Grid α :=
  { g with cells := #[] }

/-- The grid brought to the given width and number of cells. Cells it has already stay at their
place in the array, and those that are new hold `x`. -/
def resize (g : Grid α) (stride count : Nat) (x : α) : Grid α :=
  ⟨stride, g.cells.take count ++ Array.replicate (count - g.cells.size) x⟩

/-- The place of a cell in the array. -/
def index (g : Grid α) (row column : Nat) : Nat :=
  row * g.stride + column

/-- The content of a cell. -/
def get? (g : Grid α) (row column : Nat) : Option α :=
  g.cells[g.index row column]?

/-- The grid with one cell replaced. -/
def set (g : Grid α) (row column : Nat) (x : α) : Grid α :=
  ⟨g.stride, g.cells.setIfInBounds (row * g.stride + column) x⟩

/-- The number of cells. -/
def size (g : Grid α) : Nat :=
  g.cells.size

@[simp] theorem stride_set (g : Grid α) (row column : Nat) (x : α) :
    (g.set row column x).stride = g.stride := rfl

@[simp] theorem size_set (g : Grid α) (row column : Nat) (x : α) :
    (g.set row column x).size = g.size := by
  simp [set, size]

/-- What a grid held before it was cleared has no part in what it is resized to. -/
@[simp] theorem resize_clear (g : Grid α) (stride count : Nat) (x : α) :
    g.clear.resize stride count x = filled stride count x := by
  simp [clear, resize, filled]

@[simp] theorem stride_filled (stride count : Nat) (x : α) :
    (filled stride count x).stride = stride := rfl

@[simp] theorem size_filled (stride count : Nat) (x : α) : (filled stride count x).size = count := by
  simp [filled, size]

/-- Every cell of a filled grid holds the same. -/
theorem get?_filled (stride count row column : Nat) (x : α) :
    (filled stride count x).get? row column =
      if row * stride + column < count then some x else none := by
  simp [filled, get?, index, Array.getElem?_replicate]

/-- Writing a cell changes what is read at its place and nowhere else. -/
theorem get?_set (g : Grid α) (row column row' column' : Nat) (x : α) :
    (g.set row column x).get? row' column' =
      if g.index row column = g.index row' column' ∧ g.index row column < g.size then some x
      else g.get? row' column' := by
  simp only [get?, set, index, size, Array.getElem?_setIfInBounds]
  by_cases hplace : row * g.stride + column = row' * g.stride + column' <;> grind

/-- Cells within the width of a grid have different places. -/
theorem index_inj {g : Grid α} {row column row' column' : Nat} (hc : column < g.stride)
    (hc' : column' < g.stride) (h : g.index row column = g.index row' column') :
    row = row' ∧ column = column' := by
  unfold index at h
  have hs : 0 < g.stride := by omega
  have hrow : (row * g.stride + column) / g.stride = row := by
    rw [Nat.mul_comm, Nat.mul_add_div hs, Nat.div_eq_of_lt hc, Nat.add_zero]
  have hrow' : (row' * g.stride + column') / g.stride = row' := by
    rw [Nat.mul_comm, Nat.mul_add_div hs, Nat.div_eq_of_lt hc', Nat.add_zero]
  have hr : row = row' := by rw [← hrow, h, hrow']
  subst hr
  exact ⟨rfl, by omega⟩

/-- The grid is the rectangle of the given numbers of rows and columns. -/
structure HasShape (g : Grid α) (rows columns : Nat) : Prop where
  stride_eq : g.stride = columns
  size_eq : g.size = rows * columns

theorem hasShape_filled (rows columns : Nat) (x : α) :
    (filled columns (rows * columns) x).HasShape rows columns :=
  ⟨rfl, size_filled _ _ _⟩

namespace HasShape

variable {g : Grid α} {rows columns row column row' column' : Nat}

protected theorem set (h : g.HasShape rows columns) (row column : Nat) (x : α) :
    (g.set row column x).HasShape rows columns :=
  ⟨h.stride_eq, (size_set g row column x).trans h.size_eq⟩

/-- The place of a cell of the rectangle is in the array. -/
theorem index_lt (h : g.HasShape rows columns) (hrow : row < rows) (hcolumn : column < columns) :
    g.index row column < g.size := by
  rw [index, h.stride_eq, h.size_eq]
  calc row * columns + column
      < row * columns + columns := by omega
    _ = (row + 1) * columns := (Nat.succ_mul row columns).symm
    _ ≤ rows * columns := Nat.mul_le_mul_right columns hrow

/-- Writing a cell of the rectangle changes what is read there and at no other cell of it. -/
theorem get?_set (h : g.HasShape rows columns) (hrow : row < rows) (hcolumn : column < columns)
    (hcolumn' : column' < columns) (x : α) :
    (g.set row column x).get? row' column' =
      if row = row' ∧ column = column' then some x else g.get? row' column' := by
  rw [Grid.get?_set]
  by_cases hplace : g.index row column = g.index row' column'
  · have hcell : row = row' ∧ column = column' :=
      index_inj (h.stride_eq ▸ hcolumn) (h.stride_eq ▸ hcolumn') hplace
    rw [if_pos ⟨hplace, h.index_lt hrow hcolumn⟩, if_pos hcell]
  · have hcell : ¬ (row = row' ∧ column = column') := fun hboth =>
      hplace (by rw [hboth.1, hboth.2])
    rw [if_neg (fun hboth => hplace hboth.1), if_neg hcell]

end HasShape

end Grid

end StarMatch
