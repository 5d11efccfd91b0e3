-- Strings of the data format. However its characters are spelled between the quotes, a string is
-- read back, and its canonical form is one of its spellings.
import CompanySearch.Json.Text

namespace CompanySearch.Json

/-! ## Spellings -/

/-- A character that stands for itself between quotes. -/
def Raw (c : Char) : Prop := 0x20 ≤ c.toNat ∧ c ≠ '"' ∧ c ≠ '\\'

instance (c : Char) : Decidable (Raw c) := inferInstanceAs (Decidable (_ ∧ _ ∧ _))

/-- The text spells the string between its quotes: each character as itself, by a backslash and a
letter, by the digits of its code, or by those of two halves. -/
inductive Spells : List Char → List Char → Prop
  | nil : Spells [] []
  | raw {c : Char} {t s : List Char} : Raw c → Spells t s → Spells (c :: t) (c :: s)
  | short {c e : Char} {t s : List Char} : shortEscape e = some c → Spells t s →
      Spells (c :: t) ('\\' :: e :: s)
  | code {a b c d : Char} {code : Nat} {t s : List Char} : hexCode a b c d = some code →
      isLowHalf code = false → isHighHalf code = false → Spells t s →
      Spells (Char.ofNat code :: t) ('\\' :: 'u' :: a :: b :: c :: d :: s)
  | halves {a b c d a' b' c' d' : Char} {high low : Nat} {t s : List Char} :
      hexCode a b c d = some high → isHighHalf high = true →
      hexCode a' b' c' d' = some low → isLowHalf low = true → Spells t s →
      Spells (joinHalves high low :: t)
        ('\\' :: 'u' :: a :: b :: c :: d :: '\\' :: 'u' :: a' :: b' :: c' :: d' :: s)

/-- Raw characters spell themselves. -/
theorem Spells.of_raw {s : List Char} (h : ∀ c ∈ s, Raw c) : Spells s s := by
  induction s with
  | nil => exact .nil
  | cons c s ih =>
    exact .raw (h c List.mem_cons_self) (ih fun d hd => h d (List.mem_cons_of_mem c hd))

theorem isLowHalf_eq_false {code : Nat} (h : isHighHalf code = true) : isLowHalf code = false := by
  unfold isHighHalf at h
  unfold isLowHalf
  simp only [decide_eq_true_eq] at h
  simp only [decide_eq_false_iff_not]
  omega

/-- The letter of a short escape is not the one before digits. -/
theorem letter_ne_u {e c : Char} (h : shortEscape e = some c) : e ≠ 'u' := by
  rintro rfl
  contradiction

/-! ## Reading one character -/

theorem Raw.not_refused {c : Char} (h : Raw c) : ¬ (c == '\\' || c.toNat < 0x20) = true := by
  obtain ⟨hcode, -, hback⟩ := h
  simp only [Bool.or_eq_true, beq_iff_eq, decide_eq_true_eq, not_or]
  exact ⟨hback, by omega⟩

theorem readString_raw {c : Char} (hc : Raw c) (s : List Char) :
    readString (c :: s) = (readString s).map (consFirst c) := by
  rw [readString]
  · rw [if_neg hc.not_refused]
  · exact hc.2.1
  · intro _ _ _ _ _ heq
    exact absurd heq hc.2.2
  · intro _ _ heq
    exact absurd heq hc.2.2

theorem readString_short {e c : Char} (h : shortEscape e = some c) (s : List Char) :
    readString ('\\' :: e :: s) = (readString s).map (consFirst c) := by
  rw [readString, h]
  intro _ _ _ _ _ heq
  exact absurd heq (letter_ne_u h)

theorem skipString_raw {c : Char} (hc : Raw c) (s : List Char) :
    skipString (c :: s) = skipString s := by
  rw [skipString]
  · rw [if_neg hc.not_refused]
  · exact hc.2.1
  · intro _ _ _ _ _ heq
    exact absurd heq hc.2.2
  · intro _ _ heq
    exact absurd heq hc.2.2

theorem skipString_short {e c : Char} (h : shortEscape e = some c) (s : List Char) :
    skipString ('\\' :: e :: s) = skipString s := by
  rw [skipString, h]
  · rfl
  · intro _ _ _ _ _ heq
    exact absurd heq (letter_ne_u h)

/-! ## Reading whole strings -/

section spelled

variable {t s : List Char} (h : Spells t s) (rest : List Char)
include h

/-- A string is read from every spelling of it, up to its closing quote. -/
theorem Spells.readString : readString (s ++ '"' :: rest) = some (t, rest) := by
  induction h with
  | nil => rfl
  | raw hc hs ih =>
    rw [List.cons_append, readString_raw hc, ih]
    rfl
  | short he hs ih =>
    rw [List.cons_append, List.cons_append, readString_short he, ih]
    rfl
  | code hcode hlow hhigh hs ih =>
    simp only [List.cons_append]
    rw [Json.readString, hcode]
    simp [hlow, hhigh, ih, consFirst]
  | halves hhigh hishigh hlow hislow hs ih =>
    simp only [List.cons_append]
    rw [Json.readString, hhigh]
    simp [isLowHalf_eq_false hishigh, hishigh, hlow, hislow, ih, consFirst]

theorem Spells.skipString : skipString (s ++ '"' :: rest) = some ([], rest) := by
  induction h with
  | nil => rfl
  | raw hc hs ih => rw [List.cons_append, skipString_raw hc, ih]
  | short he hs ih => rw [List.cons_append, List.cons_append, skipString_short he, ih]
  | code hcode hlow hhigh hs ih =>
    simp only [List.cons_append]
    rw [Json.skipString, hcode]
    simp [ih]
  | halves hhigh hishigh hlow hislow hs ih =>
    simp only [List.cons_append]
    rw [Json.skipString, hhigh]
    simp only [Option.isNone_some, Bool.false_eq_true, if_false]
    rw [Json.skipString, hlow]
    simp [ih]

end spelled

/-! ## The canonical spelling -/

/-- The digits of a control write its code. -/
theorem exists_digits {n : Nat} (h : n < 0x20) :
    ∃ c d, fourHex n = ['0', '0', c, d] ∧ hexCode '0' '0' c d = some n := by
  have hall : ∀ n < 0x20, fourHex n = ['0', '0', (fourHex n).getD 2 '0', (fourHex n).getD 3 '0'] ∧
      hexCode '0' '0' ((fourHex n).getD 2 '0') ((fourHex n).getD 3 '0') = some n := by decide
  exact ⟨_, _, hall n h⟩

theorem Spells.escaped {t s : List Char} (c : Char) (h : Spells t s) :
    Spells (c :: t) (escapedChar c ++ s) := by
  unfold escapedChar
  -- The quote, the backslash and the common controls each have their letter.
  split <;> try exact .short rfl h
  rename_i hquote hback _ _ _ _ _
  split
  · rename_i hcontrol
    obtain ⟨_, _, hdigits, hcode⟩ := exists_digits hcontrol
    have hlow : isLowHalf c.toNat = false := by
      simp only [isLowHalf, decide_eq_false_iff_not]
      omega
    have hhigh : isHighHalf c.toNat = false := by
      simp only [isHighHalf, decide_eq_false_iff_not]
      omega
    have hspelled := Spells.code hcode hlow hhigh h
    rw [Char.ofNat_toNat] at hspelled
    rw [hdigits]
    exact hspelled
  · exact .raw ⟨by omega, hquote, hback⟩ h

/-- The canonical form of a string spells it. -/
theorem spells_escaped (t : List Char) : Spells t (t.flatMap escapedChar) := by
  induction t with
  | nil => exact .nil
  | cons c t ih =>
    rw [List.flatMap_cons]
    exact ih.escaped c

end CompanySearch.Json
