-- Characters through bytes and back: what a text is encoded to is read as that text, in front of
-- any further bytes.
import CompanySearch.Text.Utf8

namespace CompanySearch.Text.Utf8

/-! ## The codes of characters -/

/-- A character is no surrogate and not beyond the last code. -/
theorem toNat_bounds (c : Char) :
    c.toNat < 0xD800 ∨ 0xDFFF < c.toNat ∧ c.toNat < 0x110000 := by
  have hvalid : c.toNat.isValidChar := c.valid
  unfold Nat.isValidChar at hvalid
  omega

theorem toNat_byte {marker bits : Nat} (h : marker + bits < 0x100) :
    (byte marker bits).toNat = marker + bits := by
  unfold byte
  rw [UInt8.toNat_ofNat', Nat.mod_eq_of_lt h]

/-! ## Leads -/

theorem lead?_one {n : Nat} (h : n < 0x80) : lead? (byte 0 n) = some ⟨n, 0, 0x80, 0xBF⟩ := by
  unfold lead?
  rw [toNat_byte (by omega)]
  simp [h]

theorem lead?_two {n : Nat} (hlow : 2 ≤ n) (hhigh : n < 0x20) :
    lead? (byte 0xC0 n) = some ⟨n, 1, 0x80, 0xBF⟩ := by
  unfold lead?
  rw [toNat_byte (by omega)]
  simp only
  rw [if_neg (by omega), if_neg (by omega), if_pos (by omega), Nat.add_sub_cancel_left]

/-- After the first lead of three bytes nothing may follow that fits in fewer, and after the one of
the surrogates none of those. -/
theorem lead?_three {n : Nat} (h : n < 0x10) : lead? (byte 0xE0 n) =
    some ⟨n, 2, if n = 0 then 0xA0 else 0x80, if n = 0xD then 0x9F else 0xBF⟩ := by
  unfold lead?
  rw [toNat_byte (by omega)]
  simp only
  rw [if_neg (by omega), if_neg (by omega), if_neg (by omega)]
  by_cases hfirst : n = 0
  · subst hfirst
    rfl
  · by_cases hsurrogates : n = 0xD
    · subst hsurrogates
      rfl
    · rw [if_neg (by omega), if_neg (by omega), if_pos (by omega), if_neg hfirst,
        if_neg hsurrogates, Nat.add_sub_cancel_left]

/-- After the first lead of four bytes nothing may follow that fits in fewer, and after the last
one no code beyond the last. -/
theorem lead?_four {n : Nat} (h : n ≤ 4) : lead? (byte 0xF0 n) =
    some ⟨n, 3, if n = 0 then 0x90 else 0x80, if n = 4 then 0x8F else 0xBF⟩ := by
  unfold lead?
  rw [toNat_byte (by omega)]
  simp only
  rw [if_neg (by omega), if_neg (by omega), if_neg (by omega), if_neg (by omega),
    if_neg (by omega), if_neg (by omega)]
  by_cases hfirst : n = 0
  · subst hfirst
    rfl
  · by_cases hlast : n = 4
    · subst hlast
      rfl
    · rw [if_neg (by omega), if_pos (by omega), if_neg hfirst, if_neg hlast,
        Nat.add_sub_cancel_left]

/-! ## Following bytes -/

/-- A following byte in its range adds its six bits. -/
theorem gather_byte {bits low high n : Nat} (hlow : low ≤ 0x80 + n) (hhigh : 0x80 + n ≤ high)
    (hn : n < 0x40) (count : Nat) (rest : List UInt8) :
    gather bits low high (count + 1) (byte 0x80 n :: rest) =
      gather (bits * 0x40 + n) 0x80 0xBF count rest := by
  have htoNat : (byte 0x80 n).toNat = 0x80 + n := toNat_byte (by omega)
  rw [gather, htoNat, if_pos ⟨hlow, hhigh⟩, Nat.add_sub_cancel_left]

theorem gather_done (bits low high : Nat) (rest : List UInt8) :
    gather bits low high 0 rest = (bits, 0, rest) := by
  simp [gather]

/-! ## Reading back -/

/-- A lead and the bytes that it asks for are one character. -/
theorem units_of_gather {b : UInt8} {bits count low high code : Nat} {s rest : List UInt8}
    (hlead : lead? b = some ⟨bits, count, low, high⟩)
    (hgather : gather bits low high count s = (code, 0, rest)) :
    units (b :: s) = some (Char.ofNat code) :: units rest := by
  rw [units, hlead]
  simp only [hgather, if_true]

theorem units_encodeChar (c : Char) (rest : List UInt8) :
    units (encodeChar c ++ rest) = some c :: units rest := by
  have hbounds := toNat_bounds c
  have hc : Char.ofNat c.toNat = c := Char.ofNat_toNat c
  unfold encodeChar
  generalize c.toNat = n at hbounds hc
  rw [← hc]
  simp only
  by_cases hone : n < 0x80
  · rw [if_pos hone]
    exact units_of_gather (lead?_one hone) (gather_done _ _ _ _)
  by_cases htwo : n < 0x800
  · rw [if_neg hone, if_pos htwo]
    simp only [List.cons_append, List.nil_append]
    refine units_of_gather (lead?_two (by omega) (by omega)) ?_
    rw [gather_byte (by omega) (by omega) (by omega), gather_done]
    congr 1
    omega
  by_cases hthree : n < 0x10000
  · rw [if_neg hone, if_neg htwo, if_pos hthree]
    simp only [List.cons_append, List.nil_append]
    refine units_of_gather (lead?_three (by omega)) ?_
    rw [gather_byte (by split <;> omega) (by split <;> omega) (by omega),
      gather_byte (by omega) (by omega) (by omega), gather_done]
    congr 1
    omega
  · rw [if_neg hone, if_neg htwo, if_neg hthree]
    simp only [List.cons_append, List.nil_append]
    refine units_of_gather (lead?_four (by omega)) ?_
    rw [gather_byte (by split <;> omega) (by split <;> omega) (by omega),
      gather_byte (by omega) (by omega) (by omega), gather_byte (by omega) (by omega) (by omega),
      gather_done]
    congr 1
    omega

theorem units_encode (s : List Char) : units (encode s) = s.map some := by
  induction s with
  | nil => simp [encode, units]
  | cons c s ih =>
    unfold encode at ih ⊢
    rw [List.flatMap_cons, units_encodeChar, ih, List.map_cons]

/-- A text is read back from its bytes. -/
theorem decodeLossy_encode (s : List Char) : decodeLossy (encode s) = s := by
  unfold decodeLossy
  rw [units_encode, List.map_map]
  exact List.map_id s

/-- The bytes of a text are sound. -/
theorem decodeSound_encode (s : List Char) : decodeSound (encode s) = (s, false) := by
  have hall : (s.map some).takeWhile Option.isSome = s.map some := by
    induction s with
    | nil => rfl
    | cons c s ih => rw [List.map_cons, List.takeWhile_cons_of_pos rfl, ih]
  have hvalues : (s.map some).filterMap id = s := by simp
  unfold decodeSound
  rw [units_encode]
  simp only [hall, hvalues, Nat.lt_irrefl, decide_false]

end CompanySearch.Text.Utf8
