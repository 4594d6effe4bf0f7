/-!
# Haystacks

A haystack is a finite sequence of symbols, known by its length and by the symbol at each position.
A long run of one symbol therefore needs no storage, and a search that is refused because of the
haystack's length never looks at a symbol.
-/

namespace StarMatch

universe u

/-- A sequence of symbols. -/
structure Haystack (σ : Type u) where
  length : Nat
  symbolAt : Fin length → σ

namespace Haystack

variable {σ : Type u}

/-- The symbol at a position, if there is one. -/
def get? (h : Haystack σ) (i : Nat) : Option σ :=
  if hi : i < h.length then some (h.symbolAt ⟨i, hi⟩) else none

/-- The symbols in order. -/
def toList (h : Haystack σ) : List σ :=
  List.ofFn h.symbolAt

/-- The haystack that holds the elements of an array. -/
def ofArray (symbols : Array σ) : Haystack σ :=
  ⟨symbols.size, fun i => symbols[i]⟩

/-- The haystack that holds the elements of a list. -/
def ofList (symbols : List σ) : Haystack σ :=
  ofArray symbols.toArray

/-- The given number of copies of one symbol. -/
def replicate (length : Nat) (symbol : σ) : Haystack σ :=
  ⟨length, fun _ => symbol⟩

@[simp] theorem length_toList (h : Haystack σ) : h.toList.length = h.length := by
  simp [toList]

@[simp] theorem getElem?_toList (h : Haystack σ) (i : Nat) : h.toList[i]? = h.get? i := by
  simp [toList, get?, List.getElem?_ofFn]

@[simp] theorem length_ofList (symbols : List σ) : (ofList symbols).length = symbols.length := by
  simp [ofList, ofArray]

@[simp] theorem get?_ofList (symbols : List σ) (i : Nat) : (ofList symbols).get? i = symbols[i]? := by
  by_cases h : i < symbols.length
  · simp [get?, ofList, ofArray, h]
  · simp [get?, ofList, ofArray, h]

@[simp] theorem toList_ofList (symbols : List σ) : (ofList symbols).toList = symbols := by
  apply List.ext_getElem?
  intro i
  rw [getElem?_toList, get?_ofList]

end Haystack

end StarMatch
