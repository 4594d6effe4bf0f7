import Mathlib
import StarMatch.Proofs.Suite.Drafts

/-!
# How drafts without a name are numbered

A draft without a name is numbered by the drafts without a name that stand before it, counted in 32
bits. The number is one more than their count as long as the bits are enough for it, and wraps around
beyond that.
-/

namespace StarMatch.Suite

/-- Numbers in 32 bits that are shown alike are the same. -/
theorem toString_int32_inj {m n : Int32} : toString m = toString n ↔ m = n := by
  change m.toInt.repr = n.toInt.repr ↔ m = n
  rw [Int.repr_inj, Int32.toInt_inj]

theorem toString_int32_ofNat {n : Nat} (h : n < 2 ^ 31) : toString (Int32.ofNat n) = toString n := by
  change (Int32.ofNat n).toInt.repr = _
  rw [Int32.toInt_ofNat_of_lt h]
  rfl

namespace Draft

/-- The number of drafts without a name that stand before a place. -/
def unnamedBefore (drafts : List Draft) (place : Nat) : Nat :=
  (drafts.take place).countP (·.name = "")

/-- The name of a draft at a place among drafts: its own, or else its number, counted from the given
one. -/
def nameFrom (d : Draft) (number : Int32) (drafts : List Draft) (place : Nat) : String :=
  if d.name = "" then toString (number + Int32.ofNat (unnamedBefore drafts place)) else d.name

/-- The name of a draft at a place in a document: its own, or else the number of drafts without a name
up to it. -/
def nameAt (d : Draft) (drafts : List Draft) (place : Nat) : String :=
  if d.name = "" then toString (1 + unnamedBefore drafts place) else d.name

end Draft

theorem length_casesOf (group : String) (number : Int32) (drafts : List Draft) :
    (casesOf group number drafts).length = drafts.length := by
  induction drafts generalizing number with
  | nil => rfl
  | cons d drafts ih => rw [casesOf, List.length_cons, List.length_cons, ih]

/-- The case at a place is the draft there under its name. -/
theorem getElem?_casesOf (group : String) (number : Int32) (drafts : List Draft) (place : Nat) :
    (casesOf group number drafts)[place]? =
      drafts[place]?.map fun d => d.toCase group (d.nameFrom number drafts place) := by
  induction drafts generalizing number place with
  | nil => rfl
  | cons d drafts ih =>
    cases place with
    | zero => simp [casesOf, Draft.nameOr, Draft.nameFrom, Draft.unnamedBefore, apply_ite Prod.fst]
    | succ place =>
      rw [casesOf, List.getElem?_cons_succ, List.getElem?_cons_succ, ih]
      -- The first draft moves the number on exactly if it has no name, which is when it is counted.
      have hname : ∀ d' : Draft, d'.nameFrom (d.nameOr number).2 drafts place =
          d'.nameFrom number (d :: drafts) (place + 1) := by
        intro d'
        by_cases hd : d.name = ""
        · simp [Draft.nameFrom, Draft.unnamedBefore, Draft.nameOr, hd, Int32.ofNat_add,
            Int32.add_assoc, Int32.add_comm]
        · simp [Draft.nameFrom, Draft.unnamedBefore, Draft.nameOr, hd]
      simp only [hname]

/-- The bits are enough for every number in a document with few drafts without a name. -/
theorem Draft.nameFrom_one (d : Draft) (place : Nat) {drafts : List Draft}
    (hfew : drafts.countP (·.name = "") < 2 ^ 31 - 1) :
    d.nameFrom 1 drafts place = d.nameAt drafts place := by
  by_cases hname : d.name = ""
  · have hlt : 1 + unnamedBefore drafts place < 2 ^ 31 := by
      have hbefore : unnamedBefore drafts place ≤ drafts.countP (·.name = "") :=
        (List.take_sublist place drafts).countP_le
      omega
    rw [nameFrom, nameAt, if_pos hname, if_pos hname, ← toString_int32_ofNat hlt, Int32.ofNat_add]
    rfl
  · rw [nameFrom, nameAt, if_neg hname, if_neg hname]

end StarMatch.Suite
