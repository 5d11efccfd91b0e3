-- The laws of the order of sort keys. Both directions follow one reference order: the kind of the
-- key decides, then its exact number, then its text. So keys form a total preorder.
import CompanySearch.Sorting.Records
import Mathlib.Algebra.Order.Field.Basic
import Mathlib.Algebra.Order.Field.Rat
import Mathlib.Tactic.Positivity

namespace CompanySearch

open Number

/-! ## Exact numbers -/

/-- The number that a decimal stands for. -/
def Number.Decimal.value (d : Decimal) : ℚ := d.mantissa / 10 ^ d.scale

theorem Number.Decimal.value_lt_iff (a b : Decimal) :
    a.value < b.value ↔ a.mantissa * 10 ^ b.scale < b.mantissa * 10 ^ a.scale := by
  unfold Decimal.value
  rw [div_lt_div_iff₀ (by positivity) (by positivity)]
  exact_mod_cast Iff.rfl

/-- Comparing over a common denominator compares the exact numbers. -/
theorem Number.Decimal.order_eq_compare (a b : Decimal) :
    a.order b = compare a.value b.value := by
  unfold Decimal.order
  rcases lt_trichotomy a.value b.value with h | h | h
  · rw [compare_lt_iff_lt.mpr h, compare_lt_iff_lt]
    exact (Decimal.value_lt_iff a b).mp h
  · rw [compare_eq_iff_eq.mpr h, compare_eq_iff_eq]
    have hab := (Decimal.value_lt_iff a b).not.mp h.not_lt
    have hba := (Decimal.value_lt_iff b a).not.mp h.not_gt
    exact le_antisymm (not_lt.mp hba) (not_lt.mp hab)
  · rw [compare_gt_iff_gt.mpr h, compare_gt_iff_gt]
    exact (Decimal.value_lt_iff b a).mp h

theorem Number.Decimal.value_ofInt64 (n : Int64) : (Decimal.ofInt64 n).value = n.toInt := by
  simp [Decimal.value, Decimal.ofInt64]

theorem Number.Decimal.order_lt_iff (a b : Decimal) : a.order b = .lt ↔ a.value < b.value := by
  rw [Decimal.order_eq_compare, compare_lt_iff_lt]

theorem Number.Decimal.order_eq_iff (a b : Decimal) : a.order b = .eq ↔ a.value = b.value := by
  rw [Decimal.order_eq_compare, compare_eq_iff_eq]

/-! ## The reference order -/

/-- The kinds of keys in order: numbers, texts, an explicit null, a missing key. -/
def keyRank : Option Scalar → Nat
  | some s => s.rank
  | none => 3

/-- The exact number of a key; keys of other kinds count as zero. -/
def keyNumber (key : Option Scalar) : ℚ := ((key.bind Scalar.number?).map Decimal.value).getD 0

/-- The text of a key; keys of other kinds count as empty. -/
def keyText (key : Option Scalar) : String := (key.bind Scalar.text?).getD ""

/-- Keys by kind, then by number, then by text. -/
def referenceOrder : Option Scalar → Option Scalar → Ordering :=
  compareLex (compareOn keyRank) (compareLex (compareOn keyNumber) (compareOn keyText))

theorem keyOrder_ascending (a b : Option Scalar) :
    keyOrder .ascending a b = referenceOrder a b := by
  rcases a with _ | a
  · rcases b with _ | b
    · rfl
    · cases b <;> rfl
  · rcases b with _ | b
    · cases a <;> rfl
    · cases a <;> cases b <;>
        simp [keyOrder, Direction.orient, Scalar.order, Scalar.number?, Scalar.rank,
          Decimal.order_eq_compare, referenceOrder, compareLex, compareOn, keyRank, keyNumber,
          keyText, Scalar.text?, Nat.compare_eq_ite_lt]

/-- The descending order is the ascending one read backwards, missing keys included. -/
theorem keyOrder_descending (a b : Option Scalar) :
    keyOrder .descending a b = (keyOrder .ascending a b).swap := by
  cases a <;> cases b <;> rfl

instance referenceOrder_trans : Std.TransCmp referenceOrder := by
  unfold referenceOrder
  infer_instance

/-- In either direction keys are in a total preorder. -/
instance keyOrder_trans (direction : Direction) : Std.TransCmp (keyOrder direction) := by
  have hup : keyOrder .ascending = referenceOrder := by
    funext a b
    exact keyOrder_ascending a b
  cases direction with
  | ascending =>
    rw [hup]
    infer_instance
  | descending =>
    have hdown : keyOrder .descending = fun a b => referenceOrder b a := by
      funext a b
      rw [keyOrder_descending, keyOrder_ascending]
      exact Std.OrientedCmp.eq_swap.symm
    rw [hdown]
    infer_instance

end CompanySearch
