-- Sorting records by one field with the algorithm that was asked for.
import CompanySearch.Record.Order
import CompanySearch.Sorting.Merge
import CompanySearch.Sorting.Quick

namespace CompanySearch

open Number

/-! ## Every key equals itself -/

theorem Number.Decimal.order_self (d : Decimal) : d.order d = .eq := by
  simp [Decimal.order]

theorem Scalar.order_self (a : Scalar) : a.order a = .eq := by
  cases a <;> simp [Scalar.order, Scalar.number?, Scalar.rank, Decimal.order_self]

instance keyOrder_refl (direction : Direction) : Std.ReflCmp (keyOrder direction) where
  compare_self {key} := by
    cases direction <;> cases key <;>
      simp [keyOrder, Direction.orient, Scalar.order_self]

/-! ## Algorithms -/

inductive Algorithm where
  | merge
  | quick
  deriving DecidableEq, Repr

namespace Algorithm

/-- No name, or the name of merging in any case and between any blanks, asks for merging; every
other name asks for partition. -/
def ofName (name : Option String) : Algorithm :=
  match name with
  | none => .merge
  | some s =>
    if Text.sameIgnoringAsciiCase (Text.trimmed s.toList) "mergesort".toList then .merge
    else .quick

def name : Algorithm → String
  | .merge => "mergesort"
  | .quick => "quicksort"

end Algorithm

namespace Sorting

/-- The items sorted by one field of the records that they hold. -/
def byField (algorithm : Algorithm) (field : String) (direction : Direction) (record : α → Record)
    (items : List α) : List α :=
  let key := fun a => (record a).value? field
  match algorithm with
  | .merge => mergeSort (keyOrder direction) key items
  | .quick => quickSort (keyOrder direction) key items

/-- The records sorted by one field. -/
def records (algorithm : Algorithm) (field : String) (direction : Direction)
    (rows : List Record) : List Record :=
  byField algorithm field direction id rows

end Sorting

end CompanySearch
