-- The coding of a reply's body, as the client accepts it.
import CompanySearch.Text.CharSet
import CompanySearch.Web.Message

namespace CompanySearch.Web

/-! ## Codings -/

/-- The codings in which a body can be sent; the later ones are preferred. -/
inductive Coding where
  | identity
  | deflate
  | gzip
  | br
  | zstd
  deriving DecidableEq, Repr

namespace Coding

def name : Coding → String
  | .identity => "identity"
  | .deflate => "deflate"
  | .gzip => "gzip"
  | .br => "br"
  | .zstd => "zstd"

def rank : Coding → Nat
  | .identity => 0
  | .deflate => 1
  | .gzip => 2
  | .br => 3
  | .zstd => 4

/-- The coding that a name stands for, in any case. -/
def ofName? (name : List Char) : Option Coding :=
  match String.ofList (Text.asciiLower name) with
  | "identity" => some .identity
  | "deflate" => some .deflate
  | "gzip" | "x-gzip" => some .gzip
  | "br" => some .br
  | "zstd" => some .zstd
  | _ => none

end Coding

/-! ## Weights -/

/-- The thousandths that up to three digits behind a point stand for. -/
def thousandths : Nat → List Char → Option Nat
  | _, [] => some 0
  | unit, c :: rest =>
    if c.isDigit && unit != 0 then
      (thousandths (unit / 10) rest).map fun n => (c.toNat - '0'.toNat) * unit + n
    else none

/-- A weight from zero to one, in thousandths. -/
def readWeight : List Char → Option Nat
  | q :: '=' :: first :: rest =>
    if (q == 'q' || q == 'Q') && (first == '0' || first == '1') then
      let whole := if first == '1' then 1000 else 0
      match rest with
      | [] => some whole
      | '.' :: digits => ((thousandths 100 digits).map (whole + ·)).filter fun n => decide (n ≤ 1000)
      | _ => none
    else none
  | _ => none

/-! ## Choice -/

/-- A coding with its weight. Unknown codings and faulty weights are passed over. -/
def readChoice (s : List Char) : Option (Coding × Nat) := do
  let coding ← Coding.ofName? (Text.trimmed (s.takeWhile (· != ';')))
  match s.dropWhile (· != ';') with
  | [] => return (coding, 1000)
  | _ :: weight => return (coding, ← readWeight (Text.trimmed weight))

/-- The codings that a client accepts. -/
def accepted (headers : Headers) : List (Coding × Nat) :=
  ((headers.all "accept-encoding").filter isVisible).flatMap fun value =>
    (value.splitOn ",").filterMap fun piece => readChoice piece.toList

/-- The accepted coding of the greatest weight, of several the one that is preferred. -/
def bestCoding (headers : Headers) : Coding :=
  (((accepted headers).filter fun p => p.2 != 0).foldl (fun best p =>
    if best.2 < p.2 || (best.2 == p.2 && decide (best.1.rank ≤ p.1.rank)) then p else best)
    (Coding.identity, 0)).1

/-- Bodies from this size on are worth coding. -/
def leastCodedSize : Nat := 32

/-- The reply with its coding announced. Whether a body is coded depends on what the client
accepts, so a reply that could be coded says so. -/
def encoded (request : Request) (r : Reply) : Reply :=
  if r.size < leastCodedSize then r
  else
    let r := r.adding "vary" "accept-encoding"
    match bestCoding request.headers with
    | .identity => r
    | coding => r.adding "content-encoding" coding.name

end CompanySearch.Web
