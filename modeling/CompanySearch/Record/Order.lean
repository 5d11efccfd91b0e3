-- The order of field values and of records by one field, in either direction.
import CompanySearch.Record.Basic
import CompanySearch.Text.Case

namespace CompanySearch

open Number

/-! ## Direction -/

inductive Direction where
  | ascending
  | descending
  deriving DecidableEq, Repr

namespace Direction

/-- Only `desc`, in any case and between any blanks, asks for the descending order. -/
def ofOrder (order : Option String) : Direction :=
  match order with
  | some s =>
    if Text.sameIgnoringAsciiCase (Text.trimmed s.toList) "desc".toList then .descending
    else .ascending
  | none => .ascending

def isDescending : Direction → Bool
  | .ascending => false
  | .descending => true

def name : Direction → String
  | .ascending => "asc"
  | .descending => "desc"

/-- The order as the direction sees it. -/
def orient : Direction → Ordering → Ordering
  | .ascending, o => o
  | .descending, o => o.swap

end Direction

/-! ## Values -/

namespace Scalar

/-- A number of either kind as a decimal, which is exact. -/
def number? : Scalar → Option Decimal
  | .integer n => some (.ofInt64 n)
  | .decimal d => some d
  | _ => none

/-- Numbers come before text, and text before null. -/
def rank : Scalar → Nat
  | .integer _ => 0
  | .decimal _ => 0
  | .text _ => 1
  | .null => 2

/-- The ascending order of values: numbers by exact value, texts by code point, and kinds by
rank. -/
def order (a b : Scalar) : Ordering :=
  match a, b with
  | .text s, .text t => compare s t
  | a, b =>
    match a.number?, b.number? with
    | some x, some y => x.order y
    | _, _ => compare a.rank b.rank

end Scalar

/-! ## Keys and records -/

/-- The order of two sort keys. A missing key is last when ascending and first when
descending. -/
def keyOrder (direction : Direction) : Option Scalar → Option Scalar → Ordering
  | none, none => .eq
  | none, some _ => direction.orient .gt
  | some _, none => direction.orient .lt
  | some a, some b => direction.orient (a.order b)

/-- The order of two records by one field, where null counts as a missing key. -/
def Record.order (field : String) (direction : Direction) (a b : Record) : Ordering :=
  keyOrder direction (a.value? field) (b.value? field)

end CompanySearch
