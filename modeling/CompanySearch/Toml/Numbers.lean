-- Numbers in a settings file: integers in four bases and floats, with underscores between digits.
import CompanySearch.Json.Text
import CompanySearch.Number.FloatText
import CompanySearch.Settings.Tree

namespace CompanySearch.Toml

open CompanySearch.Number CompanySearch.Settings

-- Powers are those of the core library, whatever else is imported.
attribute [local instance (high)] instPowNat

/-! ## Runs of digits -/

/-- The digits that go on a run; an underscore stands between two digits. Given back without
the underscores. -/
def moreDigits (isDigit : Char → Bool) : List Char → Option (List Char × List Char)
  | [] => some ([], [])
  | '_' :: c :: rest =>
    if isDigit c then
      (moreDigits isDigit rest).map fun (digits, after) => (c :: digits, after)
    else none
  | c :: rest =>
    if isDigit c then
      (moreDigits isDigit rest).map fun (digits, after) => (c :: digits, after)
    else if c == '_' then none
    else some ([], c :: rest)

/-- A run of one digit or more. -/
def readDigits (isDigit : Char → Bool) : List Char → Option (List Char × List Char)
  | c :: rest =>
    if isDigit c then
      (moreDigits isDigit rest).map fun (digits, after) => (c :: digits, after)
    else none
  | [] => none

/-- A sign, if there is one. -/
def readSign : List Char → List Char × List Char
  | '+' :: rest => (['+'], rest)
  | '-' :: rest => (['-'], rest)
  | s => ([], s)

/-- A decimal integer: a zero on its own, or digits that do not start with one. -/
def readWhole (s : List Char) : Option (List Char × List Char) :=
  let (sign, rest) := readSign s
  match rest with
  | '0' :: after => some (sign ++ ['0'], after)
  | rest => (readDigits Char.isDigit rest).map fun (digits, after) => (sign ++ digits, after)

/-! ## Floats -/

/-- A point and digits; nothing if there is no point. -/
def readPlaces : List Char → Option (List Char × List Char)
  | '.' :: rest =>
    (readDigits Char.isDigit rest).map fun (digits, after) => ('.' :: digits, after)
  | s => some ([], s)

/-- The letter `e`, a sign and digits; nothing if there is no such letter. -/
def readPower : List Char → Option (List Char × List Char)
  | [] => some ([], [])
  | c :: rest =>
    if c == 'e' || c == 'E' then do
      let (sign, rest) := readSign rest
      let (digits, rest) ← readDigits Char.isDigit rest
      return ('e' :: sign ++ digits, rest)
    else some ([], c :: rest)

/-- A decimal number: an integer, or with places or a power a float. Integers have 64 bits; no
float is too large, unless it is negative. -/
def readDecimal (s : List Char) : Option (Tree × List Char) := do
  let (whole, s) ← readWhole s
  let (places, s) ← readPlaces s
  let (power, s) ← readPower s
  if places.isEmpty && power.isEmpty then
    let (negative, digits) := splitSign whole
    let n := Binary64.signed negative (digitsValue digits)
    if -2 ^ (63 : Nat) ≤ n ∧ n < 2 ^ (63 : Nat) then return (.integer n, s) else none
  else
    let x ← readFloat (whole ++ places ++ power)
    if x = .infinite false then none else return (.real x, s)

/-- Infinity or not-a-number, with or without a sign. -/
def readSpecial (s : List Char) : Option (Tree × List Char) :=
  let (sign, rest) := readSign s
  match rest with
  | 'i' :: 'n' :: 'f' :: after => some (.real (.infinite (sign == ['-'])), after)
  | 'n' :: 'a' :: 'n' :: after => some (.real .nan, after)
  | _ => none

/-! ## Other bases -/

def isDigitOf (base : Nat) (c : Char) : Bool :=
  (Json.hexValue c).elim false fun d => decide (d < base)

/-- An integer of a base, behind its two-letter mark. -/
def readBased (base : Nat) (s : List Char) : Option (Tree × List Char) := do
  let (digits, rest) ← readDigits (isDigitOf base) s
  let n := (digits.filterMap Json.hexValue).foldl (fun n d => n * base + d) 0
  if n < 2 ^ (63 : Nat) then return (.integer n, rest) else none

/-- The number at the front. -/
def readNumber : List Char → Option (Tree × List Char)
  | '0' :: 'x' :: rest => readBased 16 rest
  | '0' :: 'o' :: rest => readBased 8 rest
  | '0' :: 'b' :: rest => readBased 2 rest
  | s =>
    match readSpecial s with
    | some found => some found
    | none => readDecimal s

end CompanySearch.Toml
