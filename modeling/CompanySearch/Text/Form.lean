-- Form text: names and values between ampersands, with plus for a blank and a percent sign and
-- two digits for any byte.
import CompanySearch.Json.Text
import CompanySearch.Text.Utf8

namespace CompanySearch.Text.Form

/-! ## One name or value -/

/-- The bytes that a piece writes. A percent sign without two digits behind it is one byte. -/
def unescape : List UInt8 → List UInt8
  | 0x25 :: high :: low :: rest =>
    match Json.hexValue (Char.ofNat high.toNat), Json.hexValue (Char.ofNat low.toNat) with
    | some h, some l => UInt8.ofNat (h * 16 + l) :: unescape rest
    | _, _ => 0x25 :: unescape (high :: low :: rest)
  | 0x2B :: rest => 0x20 :: unescape rest
  | b :: rest => b :: unescape rest
  | [] => []

/-- The text that a piece writes, malformed bytes replaced. -/
def decodePiece (s : List UInt8) : String := String.ofList (Utf8.decodeLossy (unescape s))

/-! ## Pairs -/

/-- The pieces between the ampersands. -/
def splitAmpersands : List UInt8 → List (List UInt8)
  | [] => [[]]
  | b :: rest =>
    match b, splitAmpersands rest with
    | 0x26, pieces => [] :: pieces
    | b, piece :: pieces => (b :: piece) :: pieces
    | b, [] => [[b]]

/-- A piece cut at its first equals sign; without one the value is empty. -/
def decodePair (piece : List UInt8) : String × String :=
  (decodePiece (piece.takeWhile (· != 0x3D)), decodePiece ((piece.dropWhile (· != 0x3D)).drop 1))

/-- The named values that form bytes write. Empty pieces are passed over. -/
def decodeBytes (s : List UInt8) : List (String × String) :=
  ((splitAmpersands s).filter (fun piece => !piece.isEmpty)).map decodePair

/-- The named values that a form text writes. -/
def decode (s : String) : List (String × String) := decodeBytes (Utf8.encode s.toList)

end CompanySearch.Text.Form
