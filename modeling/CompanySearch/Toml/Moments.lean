-- Dates and times of day in a settings file, and their one written form.
import CompanySearch.Number.FloatText

namespace CompanySearch.Toml

open CompanySearch.Number

/-! ## Parts -/

/-- The number of exactly so many digits at the front. -/
def fixedDigits (count : Nat) (s : List Char) : Option (Nat × List Char) :=
  let digits := s.take count
  if digits.length = count && digits.all Char.isDigit then
    some (digitsValue digits, s.drop count)
  else none

/-- A number of two digits in a range. -/
def pairBetween (least most : Nat) (s : List Char) : Option (Nat × List Char) :=
  (fixedDigits 2 s).filter fun p => decide (least ≤ p.1 ∧ p.1 ≤ most)

def dropChar (c : Char) : List Char → Option (List Char)
  | d :: rest => if c = d then some rest else none
  | [] => none

/-- The number in decimal with zeros in front up to a width. -/
def padded (width n : Nat) : List Char :=
  let digits := Nat.toDigits 10 n
  List.replicate (width - digits.length) '0' ++ digits

/-! ## Days -/

def isLeap (year : Nat) : Bool := year % 4 == 0 && (year % 100 != 0 || year % 400 == 0)

def daysIn (year month : Nat) : Nat :=
  if month = 2 then (if isLeap year then 29 else 28)
  else if [4, 6, 9, 11].contains month then 30
  else 31

/-- A day of the calendar, written as it was read. -/
def readDay (s : List Char) : Option (List Char × List Char) := do
  let (year, s) ← fixedDigits 4 s
  let (month, s) ← pairBetween 1 12 (← dropChar '-' s)
  let (day, s) ← pairBetween 1 (daysIn year month) (← dropChar '-' s)
  return (padded 4 year ++ '-' :: padded 2 month ++ '-' :: padded 2 day, s)

/-! ## Times of day -/

/-- Parts of a second to nine places, without the zeros at their end. -/
def fractionText (digits : List Char) : List Char :=
  let kept := ((digits.take 9).reverse.dropWhile (· == '0')).reverse
  if kept.isEmpty then [] else '.' :: kept

def readFraction (s : List Char) : List Char × List Char :=
  match s with
  | '.' :: rest =>
    let (digits, after) := spanDigits rest
    if digits.isEmpty then ([], s) else (fractionText digits, after)
  | _ => ([], s)

/-- A time of day; a minute may have a sixty-first second. -/
def readTime (s : List Char) : Option (List Char × List Char) := do
  let (hour, s) ← pairBetween 0 23 s
  let (minute, s) ← pairBetween 0 59 (← dropChar ':' s)
  let (second, s) ← pairBetween 0 60 (← dropChar ':' s)
  let (fraction, s) := readFraction s
  return (padded 2 hour ++ ':' :: padded 2 minute ++ ':' :: padded 2 second ++ fraction, s)

/-- How far local time is ahead; nothing ahead is written with a plus. -/
def readOffset (s : List Char) : Option (List Char × List Char) :=
  match s with
  | c :: rest =>
    if c == 'Z' || c == 'z' then some (['Z'], rest)
    else if c == '+' || c == '-' then do
      let (hours, rest) ← pairBetween 0 23 rest
      let (minutes, rest) ← pairBetween 0 59 (← dropChar ':' rest)
      let sign := if hours = 0 && minutes = 0 then '+' else c
      return (sign :: padded 2 hours ++ ':' :: padded 2 minutes, rest)
    else none
  | [] => none

/-- A time behind a day, with or without an offset. -/
def readTimeOfDay (s : List Char) : Option (List Char × List Char) :=
  match s with
  | c :: rest =>
    if c == 'T' || c == 't' || c == ' ' then do
      let (time, rest) ← readTime rest
      let (offset, rest) := (readOffset rest).getD ([], rest)
      return ('T' :: time ++ offset, rest)
    else none
  | [] => none

/-- A day with or without a time, or a time alone. -/
def readMoment (s : List Char) : Option (List Char × List Char) :=
  match readDay s with
  | some (day, rest) =>
    let (time, rest) := (readTimeOfDay rest).getD ([], rest)
    some (day ++ time, rest)
  | none => readTime s

end CompanySearch.Toml
