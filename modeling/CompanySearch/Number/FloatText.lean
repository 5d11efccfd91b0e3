-- Reading floating-point text: an optional sign, then a name of infinity or of not-a-number, or
-- digits with an optional point and an optional exponent.
import CompanySearch.Number.Binary64
import CompanySearch.Text.Case

namespace CompanySearch.Number

open CompanySearch.Text

-- Powers are those of the core library, whatever else is imported.
attribute [local instance (high)] instPowNat

/-! ## Digits -/

/-- The run of digits at the front, and what follows it. -/
def spanDigits (s : List Char) : List Char × List Char := s.span Char.isDigit

/-- The number that decimal digits write. -/
def digitsValue (digits : List Char) : Nat := Nat.ofDigitChars 10 digits 0

/-- A leading sign, true for minus, and what follows it. -/
def splitSign : List Char → Bool × List Char
  | '-' :: rest => (true, rest)
  | '+' :: rest => (false, rest)
  | s => (false, s)

/-! ## Floats -/

/-- The float nearest to `digits * 10 ^ power`. Powers far outside the range of the format are
settled without writing them out. -/
def nearestToScaled (negative : Bool) (digits : Nat) (power : Int) : Binary64 :=
  if digits = 0 then .finite negative .zero
  else
    let order : Int := (Nat.toDigits 10 digits).length + power
    if order > 310 then .infinite negative
    else if order < -330 then .finite negative .zero
    else .ofRatio negative (digits * 10 ^ power.toNat) (10 ^ (-power).toNat)

/-- The exponent part: nothing at all, or a letter `e`, an optional sign and digits. -/
def readExponent : List Char → Option Int
  | [] => some 0
  | c :: rest =>
    if c == 'e' || c == 'E' then
      let (negative, digits) := splitSign rest
      if digits.isEmpty || !digits.all Char.isDigit then none
      else some (Binary64.signed negative (digitsValue digits))
    else none

/-- Digits with a point somewhere among them or at either end, then the exponent. -/
def readMagnitude (negative : Bool) (s : List Char) : Option Binary64 :=
  let (whole, rest) := spanDigits s
  let (part, rest) :=
    match rest with
    | '.' :: after => spanDigits after
    | _ => ([], rest)
  if whole.isEmpty && part.isEmpty then none
  else
    (readExponent rest).map fun power =>
      nearestToScaled negative (digitsValue (whole ++ part)) (power - part.length)

/-- The float that a text writes, nothing around it. -/
def readFloat (s : List Char) : Option Binary64 :=
  let (negative, body) := splitSign s
  let name := asciiLower body
  if name == "inf".toList || name == "infinity".toList then some (.infinite negative)
  else if name == "nan".toList then some .nan
  else readMagnitude negative body

end CompanySearch.Number
