-- Decimal digits. A natural number has no zero in front of its digits unless it is zero itself, an
-- integer has at most a minus sign there, and the text of a decimal keeps every digit.
import CompanySearch.Number.Decimal
import CompanySearch.Number.FloatText
import CompanySearch.Proofs.Text.Characters
import Mathlib.Data.List.TakeDrop

namespace CompanySearch.Number

open Text

-- Powers are those of the core library, whatever else is imported.
attribute [local instance (high)] instPowNat

/-! ## Plain digits -/

theorem isDigit_of_mem_digits {n : Nat} : ∀ c ∈ Nat.toDigits 10 n, c.isDigit = true :=
  fun _ => Nat.isDigit_of_mem_toDigits (by decide) (by decide)

theorem exists_digit_front (n : Nat) :
    ∃ c rest, Nat.toDigits 10 n = c :: rest ∧ c.isDigit = true := by
  obtain ⟨c, rest, hdigits⟩ :=
    List.exists_cons_of_ne_nil (Nat.toDigits_ne_nil (b := 10) (n := n))
  exact ⟨c, rest, hdigits, isDigit_of_mem_digits (n := n) c (by simp [hdigits])⟩

/-- The first digit of a number other than zero is not a zero. -/
theorem exists_first_digit {n : Nat} (h : 0 < n) :
    ∃ c rest, Nat.toDigits 10 n = c :: rest ∧ c ≠ '0' := by
  induction n using Nat.strongRecOn with
  | ind n ih =>
    by_cases hsmall : n < 10
    · exact ⟨_, [], Nat.toDigits_of_lt_base hsmall, by simp; omega⟩
    · obtain ⟨c, rest, hdigits, hc⟩ := ih (n / 10) (by omega) (by omega)
      refine ⟨c, rest ++ [(n % 10).digitChar], ?_, hc⟩
      rw [Nat.toDigits_of_base_le (by decide) (by omega), hdigits, List.cons_append]

/-! ## Integers -/

theorem splitSign_of_digit {c : Char} (hc : c.isDigit = true) (rest : List Char) :
    splitSign (c :: rest) = (false, c :: rest) := by
  have hminus : c ≠ '-' := by
    rintro rfl
    contradiction
  have hplus : c ≠ '+' := by
    rintro rfl
    contradiction
  simp [splitSign, hminus, hplus]

/-- The text of an integer: a minus sign if it is below zero, and its digits. -/
theorem toList_int (n : Int) :
    (toString n).toList = (if n < 0 then ['-'] else []) ++ Nat.toDigits 10 n.natAbs := by
  rw [Int.toString_eq_repr, Int.repr_eq_if]
  by_cases hn : n < 0
  · rw [if_pos hn, if_neg (by omega), String.toList_append, Nat.toList_repr,
      show (-n).toNat = n.natAbs by omega]
    rfl
  · rw [if_neg hn, if_pos (by omega), Nat.toList_repr, show n.toNat = n.natAbs by omega]
    rfl

theorem splitSign_int (n : Int) :
    splitSign (toString n).toList = (decide (n < 0), Nat.toDigits 10 n.natAbs) := by
  rw [toList_int]
  by_cases hn : n < 0
  · simp [hn, splitSign]
  · obtain ⟨c, rest, hdigits, hc⟩ := exists_digit_front n.natAbs
    rw [if_neg hn, List.nil_append, hdigits, splitSign_of_digit hc, decide_eq_false hn]

theorem signed_natAbs (n : Int) : Binary64.signed (decide (n < 0)) n.natAbs = n := by
  unfold Binary64.signed
  by_cases hn : n < 0
  · rw [if_pos (decide_eq_true hn)]
    omega
  · rw [if_neg (by simpa using hn)]
    omega

/-! ## Digits with zeros in front -/

section padded

variable (n places : Nat)

theorem isDigit_of_mem_padded : ∀ c ∈ Decimal.paddedDigits n places, c.isDigit = true := by
  intro c hc
  rcases List.mem_append.mp hc with hzero | hdigit
  · rw [List.eq_of_mem_replicate hzero]
    rfl
  · exact isDigit_of_mem_digits c hdigit

theorem value_padded : Nat.ofDigitChars 10 (Decimal.paddedDigits n places) 0 = n := by
  unfold Decimal.paddedDigits
  simp only [Nat.ofDigitChars_append, Nat.ofDigitChars_replicate_zero, Nat.mul_zero,
    Nat.ofDigitChars_ten_toDigits]

theorem places_lt_padded : places < (Decimal.paddedDigits n places).length := by
  unfold Decimal.paddedDigits
  rw [List.length_append, List.length_replicate]
  omega

end padded

namespace Decimal

/-- The digits of a decimal in front of the point. -/
def wholeDigits (d : Decimal) : List Char :=
  let digits := paddedDigits d.mantissa.natAbs d.scale
  digits.take (digits.length - d.scale)

/-- The digits of a decimal behind the point. -/
def placeDigits (d : Decimal) : List Char :=
  let digits := paddedDigits d.mantissa.natAbs d.scale
  digits.drop (digits.length - d.scale)

theorem length_placeDigits (d : Decimal) : d.placeDigits.length = d.scale := by
  have := places_lt_padded d.mantissa.natAbs d.scale
  unfold placeDigits
  rw [List.length_drop]
  omega

/-- What stands behind the whole digits of a decimal. -/
def tail (d : Decimal) : List Char := if d.scale = 0 then [] else '.' :: d.placeDigits

theorem wholeDigits_append (d : Decimal) :
    d.wholeDigits ++ d.placeDigits = paddedDigits d.mantissa.natAbs d.scale :=
  List.take_append_drop _ _

theorem isDigit_of_mem_whole (d : Decimal) : ∀ c ∈ d.wholeDigits, c.isDigit = true :=
  fun c hc => isDigit_of_mem_padded _ _ c (List.mem_of_mem_take hc)

theorem isDigit_of_mem_places (d : Decimal) : ∀ c ∈ d.placeDigits, c.isDigit = true :=
  fun c hc => isDigit_of_mem_padded _ _ c (List.mem_of_mem_drop hc)

theorem exists_whole_front (d : Decimal) :
    ∃ c rest, d.wholeDigits = c :: rest ∧ c.isDigit = true := by
  have hne : d.wholeDigits ≠ [] := by
    have hlt := places_lt_padded d.mantissa.natAbs d.scale
    rw [← List.length_pos_iff, wholeDigits, List.length_take]
    omega
  obtain ⟨c, rest, hwhole⟩ := List.exists_cons_of_ne_nil hne
  exact ⟨c, rest, hwhole, d.isDigit_of_mem_whole c (by simp [hwhole])⟩

theorem chars_eq (d : Decimal) :
    d.chars = (if d.mantissa < 0 then ['-'] else []) ++ (d.wholeDigits ++ d.tail) :=
  List.append_assoc _ _ _

/-- The digits on both sides of the point give the decimal again. -/
theorem ofParts?_digits (d : Decimal) :
    ofParts? (Binary64.signed (decide (d.mantissa < 0))
      (Nat.ofDigitChars 10 (d.wholeDigits ++ d.placeDigits) 0)) d.placeDigits.length = some d := by
  rw [wholeDigits_append, value_padded, signed_natAbs, length_placeDigits]
  exact dif_pos ⟨d.mantissa_fits, d.scale_le⟩

theorem span_digits (d : Decimal) :
    (d.wholeDigits ++ d.tail).span Char.isDigit = (d.wholeDigits, d.tail) := by
  have hstops : Stops Char.isDigit d.tail := by
    unfold tail
    split
    · simp [Stops]
    · exact stops_cons.mpr (by decide)
  rw [List.span_eq_takeWhile_dropWhile, takeWhile_run d.isDigit_of_mem_whole hstops,
    dropWhile_run d.isDigit_of_mem_whole hstops]

/-- The decimal that a sign, digits and perhaps a point with more digits write. -/
def ofSigned? (negative : Bool) (body : List Char) : Option Decimal :=
  let (whole, rest) := body.span Char.isDigit
  let part :=
    match rest with
    | [] => some []
    | '.' :: places => if places.all Char.isDigit then some places else none
    | _ => none
  part.bind fun places =>
    if (whole ++ places).isEmpty then none
    else ofParts? (Binary64.signed negative (Nat.ofDigitChars 10 (whole ++ places) 0)) places.length

theorem ofText?_eq (s : String) :
    ofText? s = ofSigned? (splitSign s.toList).1 (splitSign s.toList).2 := rfl

theorem ofSigned?_digits (d : Decimal) :
    ofSigned? (decide (d.mantissa < 0)) (d.wholeDigits ++ d.tail) = some d := by
  obtain ⟨c, rest, hwhole, -⟩ := d.exists_whole_front
  have hfull : (d.wholeDigits ++ d.placeDigits).isEmpty = false := by simp [hwhole]
  have hparts := d.ofParts?_digits
  unfold ofSigned?
  simp only [span_digits]
  unfold tail
  by_cases hscale : d.scale = 0
  · have hnil := List.length_eq_zero_iff.mp (d.length_placeDigits.trans hscale)
    rw [hnil] at hparts hfull
    simp only [hscale, if_true, Option.bind_some, hfull]
    exact hparts
  · have hall := List.all_eq_true.mpr d.isDigit_of_mem_places
    simp only [hscale, if_false, hall, if_true, Option.bind_some, hfull]
    exact hparts

/-- No digit of a decimal is lost in its text: it is read back with all its places. -/
theorem ofText?_text (d : Decimal) : ofText? d.text = some d := by
  obtain ⟨c, rest, hwhole, hdigit⟩ := d.exists_whole_front
  have hsplit : splitSign d.text.toList = (decide (d.mantissa < 0), d.wholeDigits ++ d.tail) := by
    rw [text, String.toList_ofList, chars_eq]
    by_cases hsign : d.mantissa < 0
    · simp [hsign, splitSign]
    · rw [if_neg hsign, List.nil_append, hwhole, List.cons_append, splitSign_of_digit hdigit,
        decide_eq_false hsign]
  rw [ofText?_eq, hsplit]
  exact d.ofSigned?_digits

end Decimal
end CompanySearch.Number
