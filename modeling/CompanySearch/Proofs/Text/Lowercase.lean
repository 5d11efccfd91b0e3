-- Small letters. How long a text is in small letters depends on its characters alone, though which
-- small sigma stands for a capital one depends on what is around it.
import CompanySearch.Text.Case
import Mathlib.Algebra.GroupWithZero.Nat
import Mathlib.Data.List.Basic

namespace CompanySearch.Text

/-! ## The room that small letters take -/

/-- How many characters stand for this one in small letters. -/
def lowerWidth (c : Char) : Nat := if c == 'Σ' then 1 else (lowerChar c).length

/-- How many characters stand for this text in small letters. -/
def lowerLength (s : List Char) : Nat := (s.map lowerWidth).sum

theorem lowerWidth_pos (c : Char) : 1 ≤ lowerWidth c := by
  unfold lowerWidth lowerChar
  split_ifs
  · simp
  · simp
  · simp
  · split <;> simp

theorem lowerLength_cons (c : Char) (s : List Char) :
    lowerLength (c :: s) = lowerWidth c + lowerLength s := by
  simp [lowerLength]

theorem lowerLength_append (s t : List Char) :
    lowerLength (s ++ t) = lowerLength s + lowerLength t := by
  simp [lowerLength]

theorem length_le_lowerLength (s : List Char) : s.length ≤ lowerLength s := by
  induction s with
  | nil => simp
  | cons c s ih =>
    have hpos := lowerWidth_pos c
    rw [lowerLength_cons, List.length_cons]
    omega

theorem lowerLength_le_of_sublist {s t : List Char} (h : s.Sublist t) :
    lowerLength s ≤ lowerLength t := by
  induction h with
  | slnil => exact Nat.le_refl _
  | cons c h ih =>
    rw [lowerLength_cons]
    omega
  | cons_cons c h ih =>
    rw [lowerLength_cons, lowerLength_cons]
    omega

theorem length_lowerAfter (before s : List Char) :
    (lowerAfter before s).length = lowerLength s := by
  induction s generalizing before with
  | nil => rfl
  | cons c s ih =>
    rw [lowerAfter, List.length_append, ih, lowerLength_cons]
    unfold lowerWidth
    split_ifs <;> rfl

theorem length_lowercase (s : String) :
    (lowercase s).toList.length = lowerLength s.toList := by
  unfold lowercase
  rw [String.toList_ofList, length_lowerAfter]

/-! ## A space at the end -/

theorem meetsCased_space (s : List Char) : meetsCased (s ++ [' ']) = meetsCased s := by
  have hspace : isCaseIgnorable ' ' = false := by decide +kernel
  have hcased : isCased ' ' = false := by decide +kernel
  unfold meetsCased
  rw [List.dropWhile_append]
  cases hd : s.dropWhile isCaseIgnorable with
  | nil => simp [hspace, hcased]
  | cons c rest => simp

/-- A space at the end changes no letter in front of it. -/
theorem lowerAfter_space (before s : List Char) :
    lowerAfter before (s ++ [' ']) = lowerAfter before s ++ [' '] := by
  induction s generalizing before with
  | nil => rfl
  | cons c s ih =>
    rw [List.cons_append, lowerAfter, ih, lowerAfter, meetsCased_space, List.append_assoc]

theorem lowercase_space (s : String) :
    (lowercase (s ++ " ")).toList = (lowercase s).toList ++ [' '] := by
  unfold lowercase
  rw [String.toList_ofList, String.toList_ofList, String.toList_append]
  exact lowerAfter_space [] s.toList

end CompanySearch.Text
