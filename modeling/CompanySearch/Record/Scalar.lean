-- The values that the fields of a record hold.
import CompanySearch.Number.Decimal
import CompanySearch.Number.FloatText
import CompanySearch.Text.CharSet
import CompanySearch.Json.Writer

namespace CompanySearch

open Number

/-- A field's value: nothing, a whole number, an amount of money, or text. -/
inductive Scalar where
  | null
  | integer (value : Int64)
  | decimal (value : Decimal)
  | text (value : String)
  deriving DecidableEq

namespace Scalar

def isNull : Scalar → Bool
  | .null => true
  | _ => false

def isText : Scalar → Bool
  | .text _ => true
  | _ => false

def text? : Scalar → Option String
  | .text s => some s
  | _ => none

/-- An optional value as a scalar: no value is null. -/
def ofOption (of : α → Scalar) : Option α → Scalar
  | none => .null
  | some v => of v

/-- The value as a float. Text counts when it writes a number between blanks. -/
def toBinary64? : Scalar → Option Binary64
  | .null => none
  | .integer n => some (.ofInt n.toInt)
  | .decimal d => some d.toBinary64
  | .text s => readFloat (Text.trimmed s.toList)

/-- The plain text of the value; null has none. -/
def display : Scalar → String
  | .null => ""
  | .integer n => toString n.toInt
  | .decimal d => d.text
  | .text s => s

/-- The value in the data format. Decimals are strings, so that no digit is lost. -/
def toJson : Scalar → Json
  | .null => .null
  | .integer n => .ofInt n.toInt
  | .decimal d => .text d.text
  | .text s => .text s

end Scalar

end CompanySearch
