-- When a record satisfies a condition. Conditions never fail: a missing field, a null, or text
-- where a number is needed just does not match.
import CompanySearch.Query.Clause
import CompanySearch.Record.Basic

namespace CompanySearch.Query

open CompanySearch.Number

/-- The field as it is compared by text: text in small letters, other values by their plain
text. -/
def comparedText : Scalar → String
  | .text s => Text.lowercase s
  | v => v.display

/-- The condition's value as it is compared with a field: in small letters beside text, and as
it stands beside a number. -/
def comparedQuery (actual : Scalar) (value : String) : String :=
  if actual.isText then Text.lowercase value else value

/-- Whether one text occurs in another, all its characters in a row. -/
def occursIn (part : List Char) : List Char → Bool
  | [] => part.isEmpty
  | c :: rest => part.isPrefixOf (c :: rest) || occursIn part rest

/-- Compares a field with a value as floats, if both are numbers. -/
def comparesAs (test : Binary64 → Binary64 → Bool) (actual : Scalar) (value : String) : Bool :=
  match actual.toBinary64?, readFloat (Text.trimmed value.toList) with
  | some a, some b => test a b
  | _, _ => false

/-- Whether a record satisfies a condition. -/
def satisfies (r : Record) (p : Predicate) : Bool :=
  match r.value? p.field with
  | none => false
  | some actual =>
    match p.operator with
    | .equals | .colon => comparedText actual == comparedQuery actual p.value
    | .contains =>
      occursIn (comparedQuery actual p.value).toList (comparedText actual).toList
    | .greaterThan => comparesAs Binary64.gt actual p.value
    | .lessThan => comparesAs Binary64.lt actual p.value
    | .greaterOrEqual => comparesAs Binary64.ge actual p.value
    | .lessOrEqual => comparesAs Binary64.le actual p.value

/-- Whether a record satisfies all conditions of a clause; a clause without any holds always. -/
def satisfiesClause (r : Record) (clause : Clause) : Bool := clause.predicates.all (satisfies r)

end CompanySearch.Query
