-- The shortest decimal text of a floating-point number that reads back as the same number.
import CompanySearch.Number.Binary64

namespace CompanySearch.Number

-- Powers are those of the core library, whatever else is imported.
attribute [local instance (high)] instPowNat

/-! ## The fewest digits -/

/-- The decimal number `digits * 10 ^ power`. -/
structure Scientific where
  digits : Nat
  power : Int
  deriving DecidableEq, Repr

namespace Shortest

def tenTo (e : Int) : Nat := 10 ^ e.toNat

/-- The reals that round to a magnitude, in units of a quarter of its last place: from
`4 * significand - below` to `4 * significand + 2`, the ends included for an even significand.
Below a power of two the next magnitude is nearer. -/
def below (d : Dyadic) : Nat :=
  if d.significand = 2 ^ (52 : Nat) && d.exponent > Dyadic.leastExponent then 1 else 2

/-- Whether `candidate * 10 ^ power` rounds to the magnitude. -/
def readsBack (d : Dyadic) (candidate : Nat) (power : Int) : Bool :=
  let quarter := d.exponent - 2
  let x := candidate * tenTo power * Dyadic.raised (-quarter)
  let unit := tenTo (-power) * Dyadic.raised quarter
  let low := (4 * d.significand - below d) * unit
  let high := (4 * d.significand + 2) * unit
  if d.significand % 2 = 0 then decide (low ≤ x ∧ x ≤ high) else decide (low < x ∧ x < high)

/-- How far `candidate * 10 ^ power` lies from the magnitude, over a denominator that depends
on `power` alone. -/
def distance (d : Dyadic) (candidate : Nat) (power : Int) : Nat :=
  let x : Int := candidate * tenTo power * d.den
  (x - d.num * tenTo (-power)).natAbs

/-- Of the two neighbours of the magnitude among the multiples of `10 ^ power`, the nearest
that reads back. -/
def onGrid (d : Dyadic) (power : Int) : Option Scientific :=
  let floor := d.num * tenTo (-power) / (d.den * tenTo power)
  let hits := [floor, floor + 1].filter fun c => c != 0 && readsBack d c power
  match hits with
  | [] => none
  | [c] => some ⟨c, power⟩
  | a :: b :: _ => some ⟨if distance d b power < distance d a power then b else a, power⟩

/-- The exponent of the highest power of ten that is at most the magnitude. -/
def decimalOrder (d : Dyadic) : Int :=
  if d.den ≤ d.num then (Nat.toDigits 10 (d.num / d.den)).length - 1
  else
    let rec go : Nat → Nat → Nat → Int
      | 0, _, step => -(step : Int)
      | fuel + 1, n, step => if d.den ≤ n then -(step : Int) else go fuel (10 * n) (step + 1)
    go 400 d.num 0

/-- The first grid, from one digit to seventeen, with a number that reads back. -/
def search (d : Dyadic) (order : Int) : Nat → Nat → Scientific
  | 0, n => ⟨d.num * tenTo (n - 1 - order) / (d.den * tenTo (order - n + 1)), order - n + 1⟩
  | left + 1, n =>
    match onGrid d (order - n + 1) with
    | some found => found
    | none => search d order left (n + 1)

end Shortest

/-- The shortest decimal number that rounds to the magnitude, and of those the nearest. -/
def shortest (d : Dyadic) : Scientific :=
  if d.significand = 0 then ⟨0, 0⟩ else Shortest.search d (Shortest.decimalOrder d) 16 1

/-- The same number with the zeros at the end of its digits moved into the power. -/
def Scientific.normalized (s : Scientific) : Scientific :=
  let rec go : Nat → Nat → Int → Scientific
    | 0, n, p => ⟨n, p⟩
    | fuel + 1, n, p => if n != 0 && n % 10 == 0 then go fuel (n / 10) (p + 1) else ⟨n, p⟩
  go 400 s.digits s.power

/-! ## Its text -/

/-- The digits with the point at its place and zeros up to it; no point for a whole number. -/
def Scientific.positional (s : Scientific) : String :=
  let digits := Nat.toDigits 10 s.digits
  if 0 ≤ s.power then String.ofList (digits ++ List.replicate s.power.toNat '0')
  else
    let places := (-s.power).toNat
    let padded := List.replicate (places + 1 - digits.length) '0' ++ digits
    let whole := padded.length - places
    String.ofList (padded.take whole ++ '.' :: padded.drop whole)

def signText (negative : Bool) : String := if negative then "-" else ""

/-- Plain digits however large or small the number is, without a point for a whole number. -/
def Binary64.plainText : Binary64 → String
  | .nan => "NaN"
  | .infinite s => signText s ++ "inf"
  | .finite s d => signText s ++ (shortest d).normalized.positional

/-- The text in a data format: plain digits, always with a point, from `1e-5` up to `1e16`, and
an exponent beyond; what is not finite has none. -/
def Binary64.dataText : Binary64 → String
  | .finite s d =>
    let n := (shortest d).normalized
    let digits := Nat.toDigits 10 n.digits
    let point : Int := digits.length + n.power
    signText s ++
      if n.digits = 0 then "0.0"
      else if 0 ≤ n.power && point ≤ 16 then n.positional ++ ".0"
      else if -5 < point && point ≤ 16 then n.positional
      else
        String.ofList (digits.take 1 ++ (if digits.length = 1 then [] else '.' :: digits.drop 1))
          ++ "e" ++ toString (point - 1)
  | _ => "null"

end CompanySearch.Number
