-- The values of the binary floating-point format of 64 bits, with exact comparison and the bit
-- pattern of each value.
import CompanySearch.Number.Dyadic

namespace CompanySearch.Number

-- Powers are those of the core library, whatever else is imported.
attribute [local instance (high)] instPowNat

/-- A floating-point number. All not-a-numbers are one value; a zero has a sign. -/
inductive Binary64 where
  | nan
  | infinite (negative : Bool)
  | finite (negative : Bool) (magnitude : Dyadic)
  deriving DecidableEq, Repr

namespace Binary64

def zero : Binary64 := .finite false .zero

/-- The magnitude as a float: from `2 ^ 1024` on it is infinite. -/
def ofDyadic (negative : Bool) (d : Dyadic) : Binary64 :=
  if d.exponent > 971 then .infinite negative else .finite negative d

/-- The float nearest to the fraction with the given sign. -/
def ofRatio (negative : Bool) (num den : Nat) : Binary64 :=
  ofDyadic negative (Dyadic.nearest num den)

/-- The float nearest to an integer. -/
def ofInt (n : Int) : Binary64 := ofRatio (decide (n < 0)) n.natAbs 1

def neg : Binary64 → Binary64
  | .nan => .nan
  | .infinite s => .infinite !s
  | .finite s d => .finite (!s) d

/-! ## Comparison -/

/-- The numerator with its sign. -/
def signed (negative : Bool) (n : Nat) : Int := if negative then -(n : Int) else n

/-- The order of two floats by value; both zeros are equal, and a not-a-number has no order
with anything. -/
def order? : Binary64 → Binary64 → Option Ordering
  | .nan, _ => none
  | _, .nan => none
  | .infinite s, .infinite t => some (if s = t then .eq else if s then .lt else .gt)
  | .infinite s, .finite _ _ => some (if s then .lt else .gt)
  | .finite _ _, .infinite t => some (if t then .gt else .lt)
  | .finite s a, .finite t b =>
    some (compare (signed s (a.num * b.den)) (signed t (b.num * a.den)))

def lt (a b : Binary64) : Bool := a.order? b == some .lt

def gt (a b : Binary64) : Bool := a.order? b == some .gt

/-- At most; false when either side is not a number. -/
def le (a b : Binary64) : Bool := a.order? b == some .lt || a.order? b == some .eq

/-- At least; false when either side is not a number. -/
def ge (a b : Binary64) : Bool := a.order? b == some .gt || a.order? b == some .eq

/-- Whether the value is zero of either sign. -/
def isZero : Binary64 → Bool
  | .finite _ d => d.significand == 0
  | _ => false

/-! ## Bits -/

def signBit (negative : Bool) : Nat := if negative then 2 ^ (63 : Nat) else 0

/-- The 64 bits as a number: sign, eleven bits of exponent, 52 bits of fraction. -/
def toBits : Binary64 → Nat
  | .nan => 0x7FF8000000000000
  | .infinite s => signBit s + 0x7FF0000000000000
  | .finite s d =>
    if d.significand < 2 ^ (52 : Nat) then signBit s + d.significand
    else
      signBit s + (d.exponent + 1075).toNat * 2 ^ (52 : Nat) +
        (d.significand - 2 ^ (52 : Nat))

end Binary64

end CompanySearch.Number
