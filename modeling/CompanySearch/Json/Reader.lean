-- Reading values of the data format.
import CompanySearch.Json.Text
import CompanySearch.Number.FloatText

namespace CompanySearch.Json

open CompanySearch.Number

/-! ## Blanks and numbers -/

/-- The four characters that may stand between the parts of a value. -/
def isSpace (c : Char) : Bool := c == ' ' || c == '\t' || c == '\n' || c == '\r'

def skipSpace (s : List Char) : List Char := s.dropWhile isSpace

/-- Digits before the point: a zero on its own, or digits that do not start with one. -/
def readWhole (s : List Char) : Option (List Char × List Char) :=
  match s with
  | '0' :: rest =>
    match rest with
    | c :: _ => if c.isDigit then none else some (['0'], rest)
    | [] => some (['0'], rest)
  | s =>
    let (digits, rest) := spanDigits s
    if digits.isEmpty then none else some (digits, rest)

/-- A point and the digits after it, if there is a point. -/
def readPlaces (s : List Char) : Option (List Char × List Char) :=
  match s with
  | '.' :: rest =>
    let (digits, rest) := spanDigits rest
    if digits.isEmpty then none else some ('.' :: digits, rest)
  | s => some ([], s)

/-- The letter `e`, a sign and digits, if there is the letter. -/
def readPower (s : List Char) : Option (List Char × List Char) :=
  match s with
  | c :: rest =>
    if c == 'e' || c == 'E' then
      let (sign, rest) :=
        match rest with
        | '+' :: r => (['+'], r)
        | '-' :: r => (['-'], r)
        | r => ([], r)
      let (digits, rest) := spanDigits rest
      if digits.isEmpty then none else some (c :: sign ++ digits, rest)
    else some ([], s)
  | [] => some ([], [])

/-- The number at the front, as it is written, and what follows it. -/
def readNumber (s : List Char) : Option (List Char × List Char) := do
  let (sign, s) :=
    match s with
    | '-' :: rest => (['-'], rest)
    | s => ([], s)
  let (whole, s) ← readWhole s
  let (places, s) ← readPlaces s
  let (power, s) ← readPower s
  return (sign ++ whole ++ places ++ power, s)

/-- What follows the given word at the front. -/
def dropWord (word s : List Char) : Option (List Char) :=
  if word.isPrefixOf s then some (s.drop word.length) else none

/-! ## Values -/

/-- How the strings inside a value are read. -/
abbrev StringReader := List Char → Option (List Char × List Char)

mutual

/-- The value at the front and what follows it. The fuel bounds the number of parts; as many as
there are characters is always enough. -/
def readPart (string : StringReader) : Nat → List Char → Option (Json × List Char)
  | 0, _ => none
  | fuel + 1, s =>
    match skipSpace s with
    | '"' :: rest => (string rest).map fun (cs, rest) => (.text (String.ofList cs), rest)
    | '[' :: rest =>
      match skipSpace rest with
      | ']' :: rest => some (.array [], rest)
      | rest => (readItems string fuel rest).map fun (items, rest) => (.array items, rest)
    | '\x7b' :: rest =>
      match skipSpace rest with
      | '\x7d' :: rest => some (.object [], rest)
      | rest => (readMembers string fuel rest).map fun (members, rest) => (.object members, rest)
    | 'n' :: rest => (dropWord "ull".toList rest).map fun rest => (.null, rest)
    | 't' :: rest => (dropWord "rue".toList rest).map fun rest => (.bool true, rest)
    | 'f' :: rest => (dropWord "alse".toList rest).map fun rest => (.bool false, rest)
    | s => (readNumber s).map fun (written, rest) => (.number (String.ofList written), rest)

/-- One item or more, up to the closing bracket. -/
def readItems (string : StringReader) : Nat → List Char → Option (List Json × List Char)
  | 0, _ => none
  | fuel + 1, s =>
    match readPart string fuel s with
    | none => none
    | some (item, rest) =>
      match skipSpace rest with
      | ']' :: rest => some ([item], rest)
      | ',' :: rest =>
        (readItems string fuel rest).map fun (items, rest) => (item :: items, rest)
      | _ => none

/-- One member or more, up to the closing brace. -/
def readMembers (string : StringReader) :
    Nat → List Char → Option (List (String × Json) × List Char)
  | 0, _ => none
  | fuel + 1, s =>
    match skipSpace s with
    | '"' :: rest =>
      match string rest with
      | none => none
      | some (name, rest) =>
        match skipSpace rest with
        | ':' :: rest =>
          match readPart string fuel rest with
          | none => none
          | some (value, rest) =>
            match skipSpace rest with
            | '\x7d' :: rest => some ([(String.ofList name, value)], rest)
            | ',' :: rest =>
              (readMembers string fuel rest).map fun (members, rest) =>
                ((String.ofList name, value) :: members, rest)
            | _ => none
        | _ => none
    | _ => none

end

/-- The value at the front of a text and what follows it. -/
def readValue (s : List Char) : Option (Json × List Char) := readPart readString (s.length + 1) s

/-- What follows the value at the front of a text. -/
def skipValue (s : List Char) : Option (List Char) :=
  (readPart skipString (s.length + 1) s).map (·.2)

/-- The value that a whole text writes. -/
def read (s : String) : Option Json :=
  match readValue s.toList with
  | some (v, rest) => if (skipSpace rest).isEmpty then some v else none
  | none => none

/-! ## Looking into values -/

/-- The value of the last member of that name. -/
def member? (v : Json) (name : String) : Option Json :=
  match v with
  | .object members => (members.reverse.find? (·.1 == name)).map (·.2)
  | _ => none

/-- The integer that a number without point and exponent writes. -/
def integer? : Json → Option Int
  | .number written =>
    let (negative, digits) := splitSign written.toList
    if digits.all Char.isDigit then some (Binary64.signed negative (digitsValue digits)) else none
  | _ => none

/-- Whether a written number lies in the range of floating-point numbers. -/
def inRange (written : List Char) : Bool :=
  match readFloat written with
  | some (.finite _ _) => true
  | _ => false

end CompanySearch.Json
