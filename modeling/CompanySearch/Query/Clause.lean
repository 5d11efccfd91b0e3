-- Filter clauses: conditions on fields, joined by connectors.
import CompanySearch.Text.Case

namespace CompanySearch

/-! ## Operators -/

/-- How a condition compares a field with its value. -/
inductive Operator where
  /-- The field equals the value. -/
  | equals
  /-- Another sign for equality. -/
  | colon
  /-- The field's text contains the value. -/
  | contains
  | greaterThan
  | lessThan
  | greaterOrEqual
  | lessOrEqual
  deriving DecidableEq, Repr

namespace Operator

/-- The signs in the order in which they are looked for: the longer before those they begin
with. -/
def all : List Operator :=
  [greaterOrEqual, lessOrEqual, greaterThan, lessThan, colon, equals, contains]

def symbol : Operator → String
  | .equals => "="
  | .colon => ":"
  | .contains => "~"
  | .greaterThan => ">"
  | .lessThan => "<"
  | .greaterOrEqual => ">="
  | .lessOrEqual => "<="

def ofSymbol? (s : String) : Option Operator := all.find? (fun op => op.symbol == s)

end Operator

/-! ## Connectors -/

/-- How a clause is joined to the next one. -/
inductive Connector where
  | and
  | or
  deriving DecidableEq, Repr

/-- The connector that a word names, in any case. -/
def Connector.ofWord? (word : List Char) : Option Connector :=
  if Text.sameIgnoringAsciiCase word "and".toList then some .and
  else if Text.sameIgnoringAsciiCase word "or".toList then some .or
  else none

/-! ## Conditions and clauses -/

/-- One condition: a field, an operator and the text to compare with. -/
structure Predicate where
  field : String
  operator : Operator
  value : String
  deriving DecidableEq, Repr

/-- Conditions that must all hold, and how the next clause is joined, if there is one. -/
structure Clause where
  predicates : List Predicate
  connector : Option Connector
  deriving DecidableEq, Repr

end CompanySearch
