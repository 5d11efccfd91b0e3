-- Decimal numbers with a fixed count of places: exact order, exact text, and the float nearest
-- to them by the usual two-part conversion.
import CompanySearch.Number.Binary64

namespace CompanySearch.Number

-- Powers are those of the core library, whatever else is imported.
attribute [local instance (high)] instPowNat

/-- The number `mantissa / 10 ^ scale`. Numbers of equal value may differ in their trailing
zeros, and a zero has no sign. -/
structure Decimal where
  mantissa : Int
  scale : Nat
  mantissa_fits : mantissa.natAbs < 2 ^ (96 : Nat)
  scale_le : scale ≤ 28
  deriving DecidableEq

namespace Decimal

/-- The decimal without places that equals an integer. -/
def ofInt64 (n : Int64) : Decimal where
  mantissa := n.toInt
  scale := 0
  mantissa_fits := by
    have := n.toInt_lt
    have := n.le_toInt
    omega
  scale_le := by omega

/-- The decimal with the given parts, if they fit. -/
def ofParts? (mantissa : Int) (scale : Nat) : Option Decimal :=
  if h : mantissa.natAbs < 2 ^ (96 : Nat) ∧ scale ≤ 28 then some ⟨mantissa, scale, h.1, h.2⟩
  else none

/-- The order by exact value, whatever the places. -/
def order (a b : Decimal) : Ordering :=
  compare (a.mantissa * 10 ^ b.scale) (b.mantissa * 10 ^ a.scale)

/-! ## Text -/

/-- At least `places + 1` digits of a number, zeros in front. -/
def paddedDigits (n places : Nat) : List Char :=
  let digits := Nat.toDigits 10 n
  List.replicate (places + 1 - digits.length) '0' ++ digits

/-- The digits with a point in front of the last `scale` of them. -/
def chars (d : Decimal) : List Char :=
  let digits := paddedDigits d.mantissa.natAbs d.scale
  let whole := digits.length - d.scale
  (if d.mantissa < 0 then ['-'] else []) ++ digits.take whole ++
    if d.scale = 0 then [] else '.' :: digits.drop whole

/-- The fixed-point text, trailing zeros kept. -/
def text (d : Decimal) : String := String.ofList d.chars

/-- The decimal that a fixed-point text writes: a sign, digits, and a point among them. -/
def ofText? (s : String) : Option Decimal :=
  let (negative, body) :=
    match s.toList with
    | '-' :: rest => (true, rest)
    | '+' :: rest => (false, rest)
    | cs => (false, cs)
  let (whole, rest) := body.span Char.isDigit
  let part :=
    match rest with
    | [] => some []
    | '.' :: places => if places.all Char.isDigit then some places else none
    | _ => none
  part.bind fun places =>
    if (whole ++ places).isEmpty then none
    else ofParts? (Binary64.signed negative (Nat.ofDigitChars 10 (whole ++ places) 0)) places.length

/-! ## As a float -/

/-- The float of a magnitude with places: whole part and fraction are converted on their own,
added, and the sum is rounded back to the places. -/
def magnitude (m scale : Nat) : Dyadic :=
  let p := 10 ^ scale
  let whole := Dyadic.ofNat (m / p)
  let part := (Dyadic.ofNat (m % p)).div (Dyadic.ofNat p)
  if scale = 0 || part.significand = 0 then whole
  else (Dyadic.ofNat ((whole.add part).mul (Dyadic.ofNat p)).roundHalfUp).div (Dyadic.ofNat p)

def toBinary64 (d : Decimal) : Binary64 :=
  .ofDyadic (decide (d.mantissa < 0)) (magnitude d.mantissa.natAbs d.scale)

end Decimal

end CompanySearch.Number
