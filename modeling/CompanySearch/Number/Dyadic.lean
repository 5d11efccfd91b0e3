-- Magnitudes of the binary floating-point format of 64 bits: a significand of 53 bits times a
-- power of two. Every operation is the exact one followed by rounding to the nearest magnitude,
-- a tie going to the even significand.

namespace CompanySearch.Number

-- Powers are those of the core library, whatever else is imported.
attribute [local instance (high)] instPowNat

/-- The number `significand * 2 ^ exponent`, not negative. -/
structure Dyadic where
  significand : Nat
  exponent : Int
  deriving DecidableEq, Repr

namespace Dyadic

/-- No finer step than `2 ^ leastExponent` exists. -/
def leastExponent : Int := -1074

/-- Significands stay below `2 ^ width`. -/
def width : Nat := 53

def zero : Dyadic := ⟨0, leastExponent⟩

/-- The power of two that an exponent above zero stands for, and one for the rest. -/
def raised (e : Int) : Nat := 2 ^ e.toNat

/-- The numerator of the number as a fraction. -/
def num (d : Dyadic) : Nat := d.significand * raised d.exponent

/-- The denominator of the number as a fraction. -/
def den (d : Dyadic) : Nat := raised (-d.exponent)

/-! ## Rounding -/

/-- The quotient rounded to the nearest natural number, a tie going to the even one. -/
def divideToEven (num den : Nat) : Nat :=
  let whole := num / den
  let twice := 2 * (num % den)
  if twice < den then whole
  else if den < twice then whole + 1
  else whole + whole % 2

/-- The exponent of the highest power of two that is at most `num / den`. -/
def binaryOrder (num den : Nat) : Int :=
  let guess : Int := (num.log2 : Int) - den.log2
  if num * raised (-guess) < den * raised guess then guess - 1 else guess

/-- The magnitude nearest to `num / den`; there is no largest one here. -/
def nearest (num den : Nat) : Dyadic :=
  if num = 0 then zero
  else
    let e := max leastExponent (binaryOrder num den - (width - 1 : Nat))
    let q := divideToEven (num * raised (-e)) (den * raised e)
    if q = 2 ^ width then ⟨2 ^ (width - 1), e + 1⟩ else ⟨q, e⟩

/-! ## Arithmetic -/

def ofNat (n : Nat) : Dyadic := nearest n 1

def add (a b : Dyadic) : Dyadic := nearest (a.num * b.den + b.num * a.den) (a.den * b.den)

def mul (a b : Dyadic) : Dyadic := nearest (a.num * b.num) (a.den * b.den)

/-- The quotient; the divisor is not zero wherever this is used. -/
def div (a b : Dyadic) : Dyadic := nearest (a.num * b.den) (a.den * b.num)

/-- The nearest whole number, a half going up. -/
def roundHalfUp (a : Dyadic) : Nat := (2 * a.num + a.den) / (2 * a.den)

end Dyadic

end CompanySearch.Number
