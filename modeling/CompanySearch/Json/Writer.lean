-- Writing values of the data format without any blanks.
import CompanySearch.Json.Text

namespace CompanySearch.Json

/-- The texts with a comma between neighbours. -/
def commaParted : List (List Char) → List Char
  | [] => []
  | [s] => s
  | s :: rest => s ++ ',' :: commaParted rest

mutual

/-- The text of a value: members and items in their order, nothing between them but commas. -/
def chars : Json → List Char
  | .null => "null".toList
  | .bool true => "true".toList
  | .bool false => "false".toList
  | .number written => written.toList
  | .text s => stringChars s.toList
  | .array items => '[' :: commaParted (itemChars items) ++ [']']
  | .object members => '\x7b' :: commaParted (memberChars members) ++ ['\x7d']

def itemChars : List Json → List (List Char)
  | [] => []
  | v :: rest => chars v :: itemChars rest

def memberChars : List (String × Json) → List (List Char)
  | [] => []
  | (name, v) :: rest => (stringChars name.toList ++ ':' :: chars v) :: memberChars rest

end

/-- The text of a value. -/
def write (v : Json) : String := String.ofList v.chars

def ofInt (n : Int) : Json := .number (toString n)

def ofNat (n : Nat) : Json := .number (toString n)

end CompanySearch.Json
