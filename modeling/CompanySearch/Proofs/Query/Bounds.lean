-- Bounds on integers. A condition that asks for an order compares floats, so it follows the order
-- of the integers, by which records are sorted, exactly as far as rounding keeps two of them apart.
import CompanySearch.Query.Match
import CompanySearch.Record.Order
import CompanySearch.Proofs.Number.Rounding
import CompanySearch.Proofs.Text.Characters
import Mathlib.Data.List.TakeDrop
import Mathlib.Data.List.TakeWhile

namespace CompanySearch.Query

open Number Binary64 Text

/-! ## Integers in plain decimal -/

/-- The text is an integer in plain decimal: digits with at most a sign in front, and at most blanks
around. -/
def WritesInteger (value : String) (n : Int64) : Prop :=
  ∃ negative digits, splitSign (trimmed value.toList) = (negative, digits) ∧ digits ≠ [] ∧
    (∀ c ∈ digits, c.isDigit = true) ∧ signed negative (digitsValue digits) = n.toInt

theorem nearestToScaled_zero (negative : Bool) {m : Nat} (h : m < 2 ^ 64) :
    IsInteger (nearestToScaled negative m 0) (signed negative (roundedNat m)) := by
  unfold nearestToScaled
  by_cases hm : m = 0
  · subst hm
    exact ⟨negative, .zero, roundedNat 0, if_pos rfl, by decide +kernel, rfl⟩
  · have hlength : (Nat.toDigits 10 m).length ≤ 20 :=
      (Nat.length_toDigits_le_iff (by decide) (by decide)).mpr (by omega)
    rw [if_neg hm, if_neg (by omega), if_neg (by omega)]
    simpa using ofRatio_one negative h

theorem readMagnitude_digits (negative : Bool) {digits : List Char} (hne : digits ≠ [])
    (h : ∀ c ∈ digits, c.isDigit = true) :
    readMagnitude negative digits = some (nearestToScaled negative (digitsValue digits) 0) := by
  have hspan : spanDigits digits = (digits, []) := by
    unfold spanDigits
    rw [List.span_eq_takeWhile_dropWhile, List.takeWhile_eq_self_iff.mpr h,
      List.dropWhile_eq_nil_iff.mpr h]
  unfold readMagnitude
  rw [hspan]
  simp [hne, readExponent]

/-- Digits are none of the names that a float has. -/
theorem asciiLower_digits_ne {digits name : List Char} {c : Char}
    (h : ∀ d ∈ digits, d.isDigit = true) (hc : c ∈ name) (hlower : c.isLower = true) :
    (asciiLower digits == name) = false := by
  rw [beq_eq_false_iff_ne]
  rintro rfl
  obtain ⟨d, hd, rfl⟩ := List.mem_map.mp hc
  have hnot := not_isDigit_of_isAlpha (isAlpha_of_toLower hlower)
  rw [h d hd] at hnot
  contradiction

theorem readFloat_of_writes {value : String} {n : Int64} (h : WritesInteger value n) :
    ∃ f, readFloat (trimmed value.toList) = some f ∧ IsInteger f (rounded n.toInt) := by
  obtain ⟨negative, digits, hsplit, hne, hdigits, hn⟩ := h
  have hsize : digitsValue digits < 2 ^ 64 := by
    have hle := n.le_toInt
    have hlt := n.toInt_lt
    have habs := natAbs_signed negative (digitsValue digits)
    rw [hn] at habs
    omega
  refine ⟨nearestToScaled negative (digitsValue digits) 0, ?_, ?_⟩
  · have hinf : (asciiLower digits == "inf".toList) = false :=
      asciiLower_digits_ne hdigits (c := 'i') (by decide) (by decide)
    have hinfinity : (asciiLower digits == "infinity".toList) = false :=
      asciiLower_digits_ne hdigits (c := 'i') (by decide) (by decide)
    have hnan : (asciiLower digits == "nan".toList) = false :=
      asciiLower_digits_ne hdigits (c := 'n') (by decide) (by decide)
    unfold readFloat
    rw [hsplit]
    simp only [hinf, hinfinity, hnan, Bool.or_self, Bool.false_eq_true, if_false]
    exact readMagnitude_digits negative hne hdigits
  · rw [← hn, rounded_signed]
    exact nearestToScaled_zero negative hsize

theorem trimmed_eq_self {s : List Char} (h : ∀ c ∈ s, isBlank c = false) : trimmed s = s := by
  have hfront : Stops isBlank s := fun c hc => h c (List.mem_of_mem_head? hc)
  have hback : Stops isBlank s.reverse := fun c hc =>
    h c (List.mem_reverse.mp (List.mem_of_mem_head? hc))
  unfold trimmed
  rw [hfront.dropWhile, hback.dropWhile, List.reverse_reverse]

theorem splitSign_digits {digits : List Char} (h : ∀ c ∈ digits, c.isDigit = true) :
    splitSign digits = (false, digits) := by
  unfold splitSign
  split
  · exact absurd (h '-' List.mem_cons_self) (by decide)
  · exact absurd (h '+' List.mem_cons_self) (by decide)
  · rfl

/-- Every integer is written by its plain text. -/
theorem writesInteger_toString (n : Int64) : WritesInteger (toString n.toInt) n := by
  have hdigits (m : Nat) : ∀ c ∈ Nat.toDigits 10 m, c.isDigit = true :=
    fun c => Nat.isDigit_of_mem_toDigits (by decide) (by decide)
  have hvalue (m : Nat) : digitsValue (Nat.toDigits 10 m) = m := Nat.ofDigitChars_ten_toDigits
  rw [WritesInteger, Int.toString_eq_repr, Int.repr_eq_if]
  by_cases hn : 0 ≤ n.toInt
  · rw [if_pos hn, Nat.toList_repr,
      trimmed_eq_self fun c hc => not_isBlank_of_isDigit (hdigits _ c hc)]
    refine ⟨false, _, splitSign_digits (hdigits _), Nat.toDigits_ne_nil, hdigits _, ?_⟩
    rw [hvalue]
    exact Int.toNat_of_nonneg hn
  · have hblank : ∀ c ∈ '-' :: Nat.toDigits 10 (-n.toInt).toNat, isBlank c = false := by
      rw [List.forall_mem_cons]
      exact ⟨by decide, fun c hc => not_isBlank_of_isDigit (hdigits _ c hc)⟩
    rw [if_neg hn, String.toList_append, Nat.toList_repr]
    refine ⟨true, _, ?_, Nat.toDigits_ne_nil, hdigits (-n.toInt).toNat, ?_⟩
    · exact congrArg splitSign (trimmed_eq_self hblank)
    · rw [hvalue, signed, if_pos rfl]
      omega

/-! ## The four conditions -/

/-- The four conditions hold as two integers compare. -/
structure Compares (r : Record) (field value : String) (x n : Int) : Prop where
  above : satisfies r ⟨field, .greaterThan, value⟩ = true ↔ n < x
  not_below : satisfies r ⟨field, .greaterOrEqual, value⟩ = true ↔ n ≤ x
  below : satisfies r ⟨field, .lessThan, value⟩ = true ↔ x < n
  not_above : satisfies r ⟨field, .lessOrEqual, value⟩ = true ↔ x ≤ n

/-- They compare the integers rounded. -/
theorem compares_rounded {r : Record} {field value : String} {x n : Int64}
    (hx : r.value? field = some (.integer x)) (hn : WritesInteger value n) :
    Compares r field value (rounded x.toInt) (rounded n.toInt) := by
  obtain ⟨f, hread, hf⟩ := readFloat_of_writes hn
  have hfloat : IsInteger (ofInt x.toInt) (rounded x.toInt) := by
    apply ofRatio_one
    have hle := x.le_toInt
    have hlt := x.toInt_lt
    omega
  have horder := hfloat.order?_eq hf
  constructor <;>
    simp only [satisfies, hx, comparesAs, Scalar.toBinary64?, hread, Binary64.gt, Binary64.ge,
      Binary64.lt, Binary64.le, horder, Bool.or_eq_true, beq_iff_eq, Option.some.injEq,
      compare_gt_iff_gt, compare_eq_iff_eq, compare_lt_iff_lt] <;>
    omega

/-- A bound is exact for an integer: the four conditions compare the integer with the bound. -/
def Exact (x n : Int64) : Prop :=
  ∀ (r : Record) (field value : String), r.value? field = some (.integer x) →
    WritesInteger value n → Compares r field value x.toInt n.toInt

theorem exact_iff {x n : Int64} :
    Exact x n ↔ (rounded x.toInt = rounded n.toInt → x = n) := by
  constructor
  · intro hexact hsame
    have hvalue : (⟨[("id", .integer x)]⟩ : Record).value? "id" = some (.integer x) := rfl
    have hcompares := hexact _ _ _ hvalue (writesInteger_toString n)
    have hrounded := compares_rounded hvalue (writesInteger_toString n)
    have hle := hcompares.not_above.mp (hrounded.not_above.mpr (Int.le_of_eq hsame))
    have hge := hcompares.not_below.mp (hrounded.not_below.mpr (Int.le_of_eq hsame.symm))
    exact Int64.toInt_inj.mp (Int.le_antisymm hle hge)
  · intro hapart r field value hx hn
    have hrounded := compares_rounded hx hn
    have hleft : rounded x.toInt = rounded n.toInt → x.toInt = n.toInt :=
      fun heq => congrArg Int64.toInt (hapart heq)
    have hright : rounded n.toInt = rounded x.toInt → n.toInt = x.toInt :=
      fun heq => (hleft heq.symm).symm
    exact ⟨hrounded.above.trans (rounded_lt_iff hright),
      hrounded.not_below.trans (rounded_le_iff hright),
      hrounded.below.trans (rounded_lt_iff hleft),
      hrounded.not_above.trans (rounded_le_iff hleft)⟩

/-! ## The law -/

theorem exists_same_float {n : Int64} (h : ¬ Apart n.toInt.natAbs) :
    ∃ x : Int64, rounded x.toInt = rounded n.toInt ∧ x ≠ n := by
  have hle := n.le_toInt
  have hlt := n.toInt_lt
  obtain ⟨a, ha, hne, hsame⟩ := exists_other (by omega) h
  let x := signed (decide (n.toInt < 0)) a
  have habs : x.natAbs = a := natAbs_signed _ _
  have hx : (Int64.ofInt x).toInt = x := Int64.toInt_ofInt_of_le (by omega) (by omega)
  refine ⟨Int64.ofInt x, ?_, ?_⟩
  · rw [hx, rounded_signed, hsame]
    rfl
  · intro heq
    apply hne
    rw [← heq, hx, habs]

/-- A bound is exact for an integer exactly if the two are not rounded to one float, unless they are
the same. It is so for all integers exactly if the bound has at most 53 binary digits, or one more
and its last two are a one and a zero. Keys are compared by their exact integers. -/
theorem a_bound_is_exact_exactly_if_rounding_keeps_it_apart (n : Int64) :
    (∀ x, Exact x n ↔ (rounded x.toInt = rounded n.toInt → x = n)) ∧
      ((∀ x, Exact x n) ↔ Apart n.toInt.natAbs) ∧
      ∀ x, Scalar.order (.integer x) (.integer n) = compare x.toInt n.toInt := by
  refine ⟨fun x => exact_iff, ⟨?_, ?_⟩, fun x => ?_⟩
  · intro hexact
    by_contra hnot
    obtain ⟨x, hsame, hne⟩ := exists_same_float hnot
    exact hne (exact_iff.mp (hexact x) hsame)
  · intro hapart x
    rw [exact_iff]
    exact fun hsame => Int64.toInt_inj.mp (eq_of_rounded hapart hsame)
  · simp [Scalar.order, Scalar.number?, Decimal.order, Decimal.ofInt64]

/-- Not every bound is exact: the two integers have one float. -/
theorem a_bound_beyond_53_digits_is_blurred :
    Scalar.order (.integer 9007199254740993) (.integer 9007199254740992) = .gt ∧
      satisfies ⟨[("id", .integer 9007199254740993)]⟩
        ⟨"id", .greaterThan, "9007199254740992"⟩ = false := by
  decide +kernel

end CompanySearch.Query
