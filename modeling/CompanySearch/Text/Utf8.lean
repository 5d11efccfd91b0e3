-- Characters as bytes: one to four bytes for each character, read back with what is malformed
-- marked as such.

namespace CompanySearch.Text.Utf8

/-! ## Encoding -/

/-- A byte with the given low bits behind a marker. -/
def byte (marker bits : Nat) : UInt8 := UInt8.ofNat (marker + bits)

/-- The bytes of one character: its code in groups of six bits, the first group after a lead. -/
def encodeChar (c : Char) : List UInt8 :=
  let n := c.toNat
  if n < 0x80 then [byte 0 n]
  else if n < 0x800 then [byte 0xC0 (n / 0x40), byte 0x80 (n % 0x40)]
  else if n < 0x10000 then
    [byte 0xE0 (n / 0x1000), byte 0x80 (n / 0x40 % 0x40), byte 0x80 (n % 0x40)]
  else
    [byte 0xF0 (n / 0x40000), byte 0x80 (n / 0x1000 % 0x40), byte 0x80 (n / 0x40 % 0x40),
      byte 0x80 (n % 0x40)]

def encode (s : List Char) : List UInt8 := s.flatMap encodeChar

/-! ## Decoding -/

/-- What a lead byte announces: the bits that it carries, how many bytes follow, and the range
of the first of them. -/
structure Lead where
  bits : Nat
  following : Nat
  low : Nat
  high : Nat

/-- The lead that a byte is, if a character can start with it. The ranges keep out longer forms
than needed, surrogates, and codes beyond the last. -/
def lead? (b : UInt8) : Option Lead :=
  let n := b.toNat
  if n < 0x80 then some ⟨n, 0, 0x80, 0xBF⟩
  else if n < 0xC2 then none
  else if n < 0xE0 then some ⟨n - 0xC0, 1, 0x80, 0xBF⟩
  else if n = 0xE0 then some ⟨0, 2, 0xA0, 0xBF⟩
  else if n = 0xED then some ⟨0xD, 2, 0x80, 0x9F⟩
  else if n < 0xF0 then some ⟨n - 0xE0, 2, 0x80, 0xBF⟩
  else if n = 0xF0 then some ⟨0, 3, 0x90, 0xBF⟩
  else if n < 0xF4 then some ⟨n - 0xF0, 3, 0x80, 0xBF⟩
  else if n = 0xF4 then some ⟨4, 3, 0x80, 0x8F⟩
  else none

/-- Takes up to `count` following bytes, the first in the given range: the bits gathered, the
number of bytes still missing, and the rest. -/
def gather (bits low high : Nat) : Nat → List UInt8 → Nat × Nat × List UInt8
  | 0, rest => (bits, 0, rest)
  | count + 1, [] => (bits, count + 1, [])
  | count + 1, b :: rest =>
    if low ≤ b.toNat ∧ b.toNat ≤ high then
      gather (bits * 0x40 + (b.toNat - 0x80)) 0x80 0xBF count rest
    else (bits, count + 1, b :: rest)

theorem gathering_never_lengthens (bits low high count : Nat) (s : List UInt8) :
    (gather bits low high count s).2.2.length ≤ s.length := by
  induction s generalizing bits low high count with
  | nil => cases count <;> simp [gather]
  | cons b rest ih =>
    cases count with
    | zero => simp [gather]
    | succ count =>
      simp only [gather]
      split
      · exact Nat.le_trans (ih _ _ _ _) (by simp)
      · simp

/-- The characters that bytes stand for, with none for each malformed run. A run ends before the
first byte that cannot continue it. -/
def units (s : List UInt8) : List (Option Char) :=
  match s with
  | [] => []
  | b :: rest =>
    match lead? b with
    | none => none :: units rest
    | some lead =>
      (if (gather lead.bits lead.low lead.high lead.following rest).2.1 = 0 then
        some (Char.ofNat (gather lead.bits lead.low lead.high lead.following rest).1)
      else none) ::
        units (gather lead.bits lead.low lead.high lead.following rest).2.2
termination_by s.length
decreasing_by
  · simp
  · have := gathering_never_lengthens lead.bits lead.low lead.high lead.following rest
    simp only [List.length_cons]
    omega

/-- The characters, with the replacement character for each malformed run. -/
def decodeLossy (s : List UInt8) : List Char := (units s).map (·.getD '\uFFFD')

/-- The characters, if nothing is malformed. -/
def decode? (s : List UInt8) : Option (List Char) := (units s).mapM id

/-- The characters before the first malformed run, and whether there is such a run. -/
def decodeSound (s : List UInt8) : List Char × Bool :=
  let sound := (units s).takeWhile Option.isSome
  (sound.filterMap id, sound.length < (units s).length)

end CompanySearch.Text.Utf8
