import StarMatch.Search.Grid
import StarMatch.Search.Limit

/-!
# Checked words and arrays

Sums, products and differences of machine words, reads and writes of an array, and parts of it, each
with the check that stops a computation in which it goes wrong. The engines are run over these checks
elsewhere; what is said here is when a check passes.
-/

namespace StarMatch

universe u v

/-- What stops a search whose steps are checked. -/
inductive Misstep where
  /-- A sum or a product is larger than the largest word. -/
  | overflow
  /-- A difference is less than zero. -/
  | underflow
  /-- There is nothing at that place. -/
  | outside
  /-- What is written once is written again. -/
  | rewritten
  /-- A state stands at a star. -/
  | atStar
  deriving DecidableEq, Repr

/-- The result of a computation whose steps are checked. -/
abbrev Checked (α : Type u) :=
  Except Misstep α

namespace Checked

section Bind

variable {α β : Type u}

theorem ok_bind (x : α) (f : α → Checked β) : ((Except.ok x : Checked α) >>= f) = f x := rfl

theorem pure_eq_ok (x : α) : (pure x : Checked α) = .ok x := rfl

end Bind

variable {α : Type u} {β : Type v} {a b i : Nat}

/-- The sum of two words. -/
def sum (a b : Nat) : Checked Nat :=
  if a + b ≤ wordMax then .ok (a + b) else .error .overflow

/-- The product of two words. -/
def product (a b : Nat) : Checked Nat :=
  if a * b ≤ wordMax then .ok (a * b) else .error .overflow

/-- The difference of two words. -/
def difference (a b : Nat) : Checked Nat :=
  if b ≤ a then .ok (a - b) else .error .underflow

/-- What is read from the element at a place of an array. -/
def read (xs : Array α) (i : Nat) (f : α → β) : Checked β :=
  match xs[i]? with
  | none => .error .outside
  | some x => .ok (f x)

/-- An array with the element at a place replaced. -/
def write (xs : Array α) (i : Nat) (x : α) : Checked (Array α) :=
  if i < xs.size then .ok (xs.setIfInBounds i x) else .error .outside

/-- A part of an array, by the place of its first element and the number of its elements. -/
structure Part where
  start : Nat
  length : Nat
  deriving DecidableEq, Repr

namespace Part

/-- The part of an array of the given size from one place up to another. -/
def ofRange (size low high : Nat) : Checked Part :=
  if low ≤ high ∧ high ≤ size then .ok ⟨low, high - low⟩ else .error .outside

/-- The given number of elements at the front of a part, and the others. -/
def split (part : Part) (count : Nat) : Checked (Part × Part) :=
  if count ≤ part.length then
    .ok (⟨part.start, count⟩, ⟨part.start + count, part.length - count⟩)
  else .error .outside

/-- The place in the array of an element of a part. -/
def place (part : Part) (i : Nat) : Checked Nat :=
  if i < part.length then .ok (part.start + i) else .error .outside

theorem ofRange_eq {size low high : Nat} (h : low ≤ high) (h' : high ≤ size) :
    ofRange size low high = .ok ⟨low, high - low⟩ :=
  if_pos ⟨h, h'⟩

theorem split_eq {part : Part} {count : Nat} (h : count ≤ part.length) :
    part.split count =
      .ok (⟨part.start, count⟩, ⟨part.start + count, part.length - count⟩) :=
  if_pos h

theorem place_eq {part : Part} {i : Nat} (h : i < part.length) :
    part.place i = .ok (part.start + i) :=
  if_pos h

end Part

section Words

variable {rows columns : Nat}

/-- Where a word counts the cells of a table, it counts its rows. -/
theorem rows_le_wordMax (h : (rows + 1) * (columns + 1) ≤ wordMax) : rows + 1 ≤ wordMax :=
  Nat.le_trans (Nat.le_mul_of_pos_right _ (Nat.succ_pos _)) h

/-- Where a word counts the cells of a table, it counts its columns. -/
theorem columns_le_wordMax (h : (rows + 1) * (columns + 1) ≤ wordMax) : columns + 1 ≤ wordMax :=
  Nat.le_trans (Nat.le_mul_of_pos_left _ (Nat.succ_pos _)) h

end Words

theorem sum_eq (h : a + b ≤ wordMax) : sum a b = .ok (a + b) :=
  if_pos h

theorem product_eq (h : a * b ≤ wordMax) : product a b = .ok (a * b) :=
  if_pos h

theorem difference_eq (h : b ≤ a) : difference a b = .ok (a - b) :=
  if_pos h

theorem read_eq {xs : Array α} {x : α} (h : xs[i]? = some x) (f : α → β) :
    read xs i f = .ok (f x) := by
  rw [read, h]

theorem write_eq {xs : Array α} (h : i < xs.size) (x : α) :
    write xs i x = .ok (xs.setIfInBounds i x) :=
  if_pos h

end Checked

end StarMatch
