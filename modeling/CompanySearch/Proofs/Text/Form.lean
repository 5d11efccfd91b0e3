-- Writing form text and reading it back. However the bytes of the names and values are spelled, a
-- text that writes a list of pairs is read as that list.
import CompanySearch.Proofs.Text.Utf8
import CompanySearch.Text.Form
import Mathlib.Data.List.Basic

namespace CompanySearch.Text.Form

/-! ## Plain characters -/

/-- The character stands for its own byte in form text: it is visible and none of the signs that
mean something there or in a target. -/
def Plain (c : Char) : Prop := 0x21 ≤ c.toNat ∧ c.toNat < 0x7F ∧ c ∉ ['%', '&', '+', '=', '#']

instance (c : Char) : Decidable (Plain c) := inferInstanceAs (Decidable (_ ∧ _ ∧ _))

/-- The byte of a character with a code below `2 ^ 7`. -/
def asciiByte (c : Char) : UInt8 := UInt8.ofNat c.toNat

theorem toNat_asciiByte {c : Char} (h : c.toNat < 0x80) : (asciiByte c).toNat = c.toNat := by
  unfold asciiByte
  rw [UInt8.toNat_ofNat', Nat.mod_eq_of_lt (by omega)]

theorem ofNat_asciiByte {c : Char} (h : c.toNat < 0x80) :
    Char.ofNat (asciiByte c).toNat = c := by
  rw [toNat_asciiByte h, Char.ofNat_toNat]

theorem asciiByte_ne {c d : Char} (hc : c.toNat < 0x80) (hd : d.toNat < 0x80) (hne : c ≠ d) :
    asciiByte c ≠ asciiByte d := by
  intro heq
  rw [← ofNat_asciiByte hc, ← ofNat_asciiByte hd, heq] at hne
  exact hne rfl

theorem encode_ascii {s : List Char} (h : ∀ c ∈ s, c.toNat < 0x80) :
    Utf8.encode s = s.map asciiByte := by
  induction s with
  | nil => rfl
  | cons c s ih =>
    have hc := h c List.mem_cons_self
    have hone : Utf8.encodeChar c = [asciiByte c] := by
      unfold Utf8.encodeChar Utf8.byte asciiByte
      simp only [if_pos hc, Nat.zero_add]
    have hrest := ih fun d hd => h d (List.mem_cons_of_mem c hd)
    unfold Utf8.encode at hrest ⊢
    rw [List.flatMap_cons, hone, hrest]
    rfl

theorem Plain.ascii {c : Char} (h : Plain c) : c.toNat < 0x80 := by
  obtain ⟨-, hlt, -⟩ := h
  omega

theorem hexValue_eq_some {c : Char} {n : Nat} (h : Json.hexValue c = some n) :
    Plain c ∧ n < 0x10 := by
  have hlow (d : Char) : d ≤ c ↔ d.toNat ≤ c.toNat := Iff.rfl
  have hhigh (d : Char) : c ≤ d ↔ c.toNat ≤ d.toNat := Iff.rfl
  unfold Json.hexValue at h
  simp only [hlow, hhigh, Char.reduceToNat] at h
  have hcodes : 0x30 ≤ c.toNat ∧ c.toNat ≤ 0x39 ∧ c.toNat - 0x30 = n ∨
      0x61 ≤ c.toNat ∧ c.toNat ≤ 0x66 ∧ c.toNat - 0x61 + 10 = n ∨
      0x41 ≤ c.toNat ∧ c.toNat ≤ 0x46 ∧ c.toNat - 0x41 + 10 = n := by
    split at h
    · exact .inl ⟨by omega, by omega, by simpa using h⟩
    · split at h
      · exact .inr (.inl ⟨by omega, by omega, by simpa using h⟩)
      · split at h
        · exact .inr (.inr ⟨by omega, by omega, by simpa using h⟩)
        · contradiction
  refine ⟨⟨by omega, by omega, ?_⟩, by omega⟩
  intro hmem
  have hnat : c.toNat ∈ [0x25, 0x26, 0x2B, 0x3D, 0x23] := List.mem_map_of_mem hmem
  simp only [List.mem_cons, List.not_mem_nil, or_false] at hnat
  omega

/-- Each value below sixteen has a digit. -/
theorem exists_hexDigit {n : Nat} (h : n < 0x10) : ∃ c, Json.hexValue c = some n := by
  have hall : ∀ n < 0x10, Json.hexValue ("0123456789ABCDEF".toList.getD n '0') = some n := by
    decide
  exact ⟨_, hall n h⟩

/-! ## Spelling bytes -/

/-- The text spells the bytes: each one as a plain character, as a percent sign and two digits, or
as a plus sign if it is a blank. -/
inductive Spells : List UInt8 → List Char → Prop
  | nil : Spells [] []
  | plain {c : Char} {bytes : List UInt8} {s : List Char} : Plain c → Spells bytes s →
      Spells (asciiByte c :: bytes) (c :: s)
  | plus {bytes : List UInt8} {s : List Char} : Spells bytes s →
      Spells (asciiByte ' ' :: bytes) ('+' :: s)
  | percent {c d : Char} {high low : Nat} {bytes : List UInt8} {s : List Char} :
      Json.hexValue c = some high → Json.hexValue d = some low → Spells bytes s →
      Spells (UInt8.ofNat (high * 0x10 + low) :: bytes) ('%' :: c :: d :: s)

theorem exists_spells (bytes : List UInt8) : ∃ s, Spells bytes s := by
  induction bytes with
  | nil => exact ⟨[], .nil⟩
  | cons b bytes ih =>
    obtain ⟨s, hs⟩ := ih
    have hb := b.toNat_lt
    obtain ⟨c, hc⟩ := exists_hexDigit (n := b.toNat / 0x10) (by omega)
    obtain ⟨d, hd⟩ := exists_hexDigit (n := b.toNat % 0x10) (by omega)
    have hcode : UInt8.ofNat (b.toNat / 0x10 * 0x10 + b.toNat % 0x10) = b := by
      rw [Nat.div_add_mod', UInt8.ofNat_toNat]
    exact ⟨'%' :: c :: d :: s, hcode ▸ .percent hc hd hs⟩

/-- Plain characters spell themselves. -/
theorem Spells.of_plain {s : List Char} (h : ∀ c ∈ s, Plain c) : Spells (Utf8.encode s) s := by
  rw [encode_ascii fun c hc => (h c hc).ascii]
  induction s with
  | nil => exact .nil
  | cons c s ih =>
    exact .plain (h c List.mem_cons_self) (ih fun d hd => h d (List.mem_cons_of_mem c hd))

/-- A spelling has no sign that ends it. -/
theorem Spells.visible {bytes : List UInt8} {s : List Char} (h : Spells bytes s) :
    ∀ c ∈ s, c.toNat < 0x80 ∧ c ≠ '&' ∧ c ≠ '=' ∧ c ≠ '#' := by
  have hplain {c : Char} (h : Plain c) : c.toNat < 0x80 ∧ c ≠ '&' ∧ c ≠ '=' ∧ c ≠ '#' := by
    obtain ⟨-, hlt, hnone⟩ := h
    simp only [List.mem_cons, List.not_mem_nil, or_false, not_or] at hnone
    exact ⟨by omega, hnone.2.1, hnone.2.2.2.1, hnone.2.2.2.2⟩
  induction h with
  | nil => simp
  | plain hc hs ih => exact List.forall_mem_cons.mpr ⟨hplain hc, ih⟩
  | plus hs ih => exact List.forall_mem_cons.mpr ⟨by decide, ih⟩
  | percent hc hd hs ih =>
    exact List.forall_mem_cons.mpr ⟨by decide, List.forall_mem_cons.mpr
      ⟨hplain (hexValue_eq_some hc).1, List.forall_mem_cons.mpr
        ⟨hplain (hexValue_eq_some hd).1, ih⟩⟩⟩

theorem unescape_plain {b : UInt8} (hpercent : b ≠ 0x25) (hplus : b ≠ 0x2B)
    (rest : List UInt8) : unescape (b :: rest) = b :: unescape rest := by
  rw [unescape]
  · intro high low rest' hb
    exact absurd hb hpercent
  · intro hb
    exact absurd hb hplus

theorem Spells.unescape {bytes : List UInt8} {s : List Char} (h : Spells bytes s) :
    unescape (s.map asciiByte) = bytes := by
  induction h with
  | nil => rfl
  | @plain c bytes s hc hs ih =>
    have hnone := hc.2.2
    simp only [List.mem_cons, List.not_mem_nil, or_false, not_or] at hnone
    have hpercent : asciiByte c ≠ 0x25 := asciiByte_ne hc.ascii (by decide) hnone.1
    have hplus : asciiByte c ≠ 0x2B := asciiByte_ne hc.ascii (by decide) hnone.2.2.1
    rw [List.map_cons, unescape_plain hpercent hplus, ih]
  | plus hs ih =>
    rw [List.map_cons, show asciiByte '+' = 0x2B from rfl, Form.unescape, ih]
    rfl
  | @percent c d high low bytes s hc hd hs ih =>
    have hcode := ofNat_asciiByte (hexValue_eq_some hc).1.ascii
    have hcode' := ofNat_asciiByte (hexValue_eq_some hd).1.ascii
    simp only [List.map_cons]
    rw [show asciiByte '%' = 0x25 from rfl, Form.unescape, hcode, hcode', hc, hd]
    simp only [ih]

/-! ## Pairs -/

/-- The text writes the pair: its name and its value, spelled, with an equals sign between them. -/
def WritesPair (p : String × String) (s : List Char) : Prop :=
  ∃ name value, Spells (Utf8.encode p.1.toList) name ∧ Spells (Utf8.encode p.2.toList) value ∧
    s = name ++ '=' :: value

/-- The text writes the pairs in turn, with ampersands between them. -/
inductive WritesPairs : List (String × String) → List Char → Prop
  | nil : WritesPairs [] []
  | last {p : String × String} {s : List Char} : WritesPair p s → WritesPairs [p] s
  | cons {p : String × String} {ps : List (String × String)} {s t : List Char} :
      WritesPair p s → WritesPairs ps t → WritesPairs (p :: ps) (s ++ '&' :: t)

theorem exists_writesPairs (ps : List (String × String)) : ∃ s, WritesPairs ps s := by
  induction ps with
  | nil => exact ⟨[], .nil⟩
  | cons p ps ih =>
    obtain ⟨name, hname⟩ := exists_spells (Utf8.encode p.1.toList)
    obtain ⟨value, hvalue⟩ := exists_spells (Utf8.encode p.2.toList)
    obtain ⟨t, ht⟩ := ih
    exact ⟨_, .cons ⟨name, value, hname, hvalue, rfl⟩ ht⟩

section written

variable {p : String × String} {s : List Char} (h : WritesPair p s)
include h

theorem WritesPair.visible : ∀ c ∈ s, c.toNat < 0x80 ∧ c ≠ '&' ∧ c ≠ '#' := by
  obtain ⟨name, value, hname, hvalue, rfl⟩ := h
  intro c hc
  simp only [List.mem_append, List.mem_cons] at hc
  rcases hc with hc | rfl | hc
  · have hc := hname.visible c hc
    exact ⟨hc.1, hc.2.1, hc.2.2.2⟩
  · decide
  · have hc := hvalue.visible c hc
    exact ⟨hc.1, hc.2.1, hc.2.2.2⟩

theorem WritesPair.no_ampersand : ∀ b ∈ s.map asciiByte, b ≠ 0x26 := by
  intro b hb
  obtain ⟨c, hc, rfl⟩ := List.mem_map.mp hb
  obtain ⟨hlt, hne, -⟩ := h.visible c hc
  exact asciiByte_ne hlt (by decide) hne

theorem WritesPair.ne_nil : s.map asciiByte ≠ [] := by
  obtain ⟨name, value, -, -, rfl⟩ := h
  simp

theorem WritesPair.decodePair : decodePair (s.map asciiByte) = p := by
  obtain ⟨name, value, hname, hvalue, rfl⟩ := h
  have hread {t : String} {s : List Char} (hs : Spells (Utf8.encode t.toList) s) :
      decodePiece (s.map asciiByte) = t := by
    unfold decodePiece
    rw [hs.unescape, Utf8.decodeLossy_encode, String.ofList_toList]
  have hno : ∀ b ∈ name.map asciiByte, (b != 0x3D) = true := by
    intro b hb
    obtain ⟨c, hc, rfl⟩ := List.mem_map.mp hb
    obtain ⟨hlt, -, hne, -⟩ := hname.visible c hc
    exact bne_iff_ne.mpr (asciiByte_ne hlt (by decide) hne)
  have hequals : asciiByte '=' = 0x3D := rfl
  unfold Form.decodePair
  rw [List.map_append, List.map_cons, hequals, List.takeWhile_append_of_pos hno,
    List.dropWhile_append_of_pos hno]
  simp [hread hname, hread hvalue]

end written

/-! ## Reading back -/

theorem splitAmpersands_cons {b : UInt8} (hb : b ≠ 0x26) {rest piece : List UInt8}
    {pieces : List (List UInt8)} (h : splitAmpersands rest = piece :: pieces) :
    splitAmpersands (b :: rest) = (b :: piece) :: pieces := by
  unfold splitAmpersands
  rw [h]
  split
  · contradiction
  · rename_i heq
    cases heq
    rfl
  · contradiction

/-- A piece without an ampersand is cut off where the next one stands. -/
theorem splitAmpersands_append {piece : List UInt8} (h : ∀ b ∈ piece, b ≠ 0x26)
    (rest : List UInt8) :
    splitAmpersands (piece ++ 0x26 :: rest) = piece :: splitAmpersands rest := by
  induction piece with
  | nil => simp [splitAmpersands]
  | cons b piece ih =>
    exact splitAmpersands_cons (h b List.mem_cons_self)
      (ih fun b hb => h b (List.mem_cons_of_mem _ hb))

theorem splitAmpersands_last {piece : List UInt8} (h : ∀ b ∈ piece, b ≠ 0x26) :
    splitAmpersands piece = [piece] := by
  induction piece with
  | nil => rfl
  | cons b piece ih =>
    exact splitAmpersands_cons (h b List.mem_cons_self)
      (ih fun b hb => h b (List.mem_cons_of_mem _ hb))

section pairs

variable {ps : List (String × String)} {s : List Char} (h : WritesPairs ps s)
include h

theorem WritesPairs.visible : ∀ c ∈ s, c.toNat < 0x80 ∧ c ≠ '#' := by
  induction h with
  | nil => simp
  | last hp =>
    intro c hc
    obtain ⟨hlt, -, hne⟩ := hp.visible c hc
    exact ⟨hlt, hne⟩
  | cons hp ht ih =>
    intro c hc
    simp only [List.mem_append, List.mem_cons] at hc
    rcases hc with hc | rfl | hc
    · obtain ⟨hlt, -, hne⟩ := hp.visible c hc
      exact ⟨hlt, hne⟩
    · decide
    · exact ih c hc

theorem WritesPairs.decodeBytes : decodeBytes (s.map asciiByte) = ps := by
  have hfull {p : String × String} {s : List Char} (hp : WritesPair p s) :
      (!(s.map asciiByte).isEmpty) = true := by
    simpa using hp.ne_nil
  unfold Form.decodeBytes
  induction h with
  | nil => rfl
  | last hp =>
    rw [splitAmpersands_last hp.no_ampersand, List.filter_singleton, hfull hp]
    simp [hp.decodePair]
  | @cons p ps s t hp ht ih =>
    have hsign : asciiByte '&' = 0x26 := rfl
    rw [List.map_append, List.map_cons, hsign, splitAmpersands_append hp.no_ampersand,
      List.filter_cons, if_pos (hfull hp), List.map_cons, hp.decodePair, ih]

/-- The pairs are read back from every text that writes them. -/
theorem WritesPairs.decode : decode (String.ofList s) = ps := by
  unfold Form.decode
  rw [String.toList_ofList, encode_ascii fun c hc => (h.visible c hc).1]
  exact h.decodeBytes

end pairs

end CompanySearch.Text.Form
