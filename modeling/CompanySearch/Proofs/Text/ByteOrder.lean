-- Texts stand in one order by their bytes and by the codes of their characters. The first character
-- in which two texts differ decides, and of its bytes the first that differs.
import CompanySearch.Proofs.Text.Utf8
import Mathlib.Data.Char
import Mathlib.Data.List.Lex

namespace CompanySearch.Text

/-- One text comes before another by the codes of their characters. -/
def LessByCodes (s t : List Char) : Prop := s.Lex (fun c d => c.toNat < d.toNat) t

namespace Utf8

/-- One text comes before another by its bytes. -/
def LessByBytes (s t : List Char) : Prop := (encode s).Lex (· < ·) (encode t)

/-! ## Bytes -/

theorem byte_lt {marker bits marker' bits' : Nat} (h : marker + bits < marker' + bits')
    (hfits : marker' + bits' < 0x100) : byte marker bits < byte marker' bits' := by
  rw [UInt8.lt_iff_toNat_lt, toNat_byte (by omega), toNat_byte hfits]
  exact h

/-- Of two bytes with one marker the bits decide, or else what follows. -/
theorem byte_lex {marker a b : Nat} {s t : List UInt8} (hle : a ≤ b) (hfits : marker + b < 0x100)
    (h : a = b → s.Lex (· < ·) t) : (byte marker a :: s).Lex (· < ·) (byte marker b :: t) := by
  rcases Nat.lt_or_eq_of_le hle with hlt | rfl
  · exact .rel (byte_lt (by omega) hfits)
  · exact .cons (h rfl)

/-! ## Characters -/

/-- The first byte of the character with a code. -/
def leading (n : Nat) : Nat :=
  if n < 0x80 then n
  else if n < 0x800 then 0xC0 + n / 0x40
  else if n < 0x10000 then 0xE0 + n / 0x1000
  else 0xF0 + n / 0x40000

/-- The bytes that follow it. -/
def following (n : Nat) : List UInt8 :=
  if n < 0x80 then []
  else if n < 0x800 then [byte 0x80 (n % 0x40)]
  else if n < 0x10000 then [byte 0x80 (n / 0x40 % 0x40), byte 0x80 (n % 0x40)]
  else [byte 0x80 (n / 0x1000 % 0x40), byte 0x80 (n / 0x40 % 0x40), byte 0x80 (n % 0x40)]

theorem encodeChar_eq (c : Char) :
    encodeChar c = byte 0 (leading c.toNat) :: following c.toNat := by
  unfold encodeChar leading following byte
  simp only [Nat.zero_add]
  split_ifs <;> rfl

/-- A greater code has no lesser first byte, since it has no fewer bytes. -/
theorem leading_le {n m : Nat} (h : n < m) : leading n ≤ leading m := by
  unfold leading
  split_ifs <;> omega

theorem leading_lt {n : Nat} (h : n < 0x110000) : leading n < 0x100 := by
  unfold leading
  split_ifs <;> omega

/-- Codes with one first byte have as many bytes. -/
theorem same_width {n m : Nat} (hlead : leading n = leading m) :
    (n < 0x80 ↔ m < 0x80) ∧ (n < 0x800 ↔ m < 0x800) ∧ (n < 0x10000 ↔ m < 0x10000) := by
  unfold leading at hlead
  split_ifs at hlead <;> omega

/-- Codes with one first byte are told apart by the bytes that follow it. -/
theorem following_lex {n m : Nat} (h : n < m) (hlead : leading n = leading m)
    (s t : List UInt8) : (following n ++ s).Lex (· < ·) (following m ++ t) := by
  obtain ⟨hone, htwo, hthree⟩ := same_width hlead
  unfold leading at hlead
  unfold following
  simp only [hone, htwo, hthree] at hlead ⊢
  split_ifs at hlead ⊢
  · omega
  · exact .rel (byte_lt (by omega) (by omega))
  · apply byte_lex (by omega) (by omega)
    intro hfirst
    exact .rel (byte_lt (by omega) (by omega))
  · apply byte_lex (by omega) (by omega)
    intro hfirst
    apply byte_lex (by omega) (by omega)
    intro hsecond
    exact .rel (byte_lt (by omega) (by omega))

theorem encodeChar_lex {c d : Char} (h : c.toNat < d.toNat) (s t : List UInt8) :
    (encodeChar c ++ s).Lex (· < ·) (encodeChar d ++ t) := by
  have hbounds := toNat_bounds d
  have hfits := leading_lt (n := d.toNat) (by omega)
  rw [encodeChar_eq, encodeChar_eq]
  apply byte_lex (leading_le h) (by omega)
  intro hlead
  exact following_lex h hlead s t

/-! ## Texts -/

theorem encode_cons (c : Char) (s : List Char) : encode (c :: s) = encodeChar c ++ encode s :=
  List.flatMap_cons

theorem lessByBytes_of_codes {s t : List Char} (h : LessByCodes s t) : LessByBytes s t := by
  unfold LessByBytes
  induction h with
  | @nil c t =>
    rw [encode_cons, encodeChar_eq]
    exact .nil
  | @rel c s d t hcd =>
    rw [encode_cons, encode_cons]
    exact encodeChar_lex hcd (encode s) (encode t)
  | @cons c s t h ih =>
    rw [encode_cons, encode_cons]
    exact ih.append_left _ (encodeChar c)

-- The order of characters is that of their codes, so this is the usual order of lists.
theorem lessByCodes_total (s t : List Char) : LessByCodes s t ∨ s = t ∨ LessByCodes t s :=
  lt_trichotomy s t

/-- Texts are in one order by their codes and by their bytes. -/
theorem lessByBytes_iff {s t : List Char} : LessByBytes s t ↔ LessByCodes s t := by
  refine ⟨fun h => ?_, lessByBytes_of_codes⟩
  rcases lessByCodes_total s t with hst | rfl | hts
  · exact hst
  · exact absurd h (List.lex_irrefl UInt8.lt_irrefl _)
  · exact absurd (lessByBytes_of_codes hts) (List.lex_asymm UInt8.lt_asymm h)

end Utf8

end CompanySearch.Text
