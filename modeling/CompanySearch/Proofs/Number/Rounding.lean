-- The floats nearest to whole numbers. A float keeps 53 binary digits of a number and loses those
-- beyond, so rounding never turns two numbers round, but from 2 ^ 53 on it may make them equal.
import CompanySearch.Number.Binary64
import Mathlib.Algebra.Order.Ring.Int
import Mathlib.Algebra.Order.Ring.Unbundled.Basic

namespace CompanySearch.Number

-- Powers are those of the core library, whatever else is imported.
attribute [local instance (high)] instPowNat

open CompanySearch.Number.Dyadic Binary64

/-! ## The nearest quotient -/

/-- The quotient is off by at most a half, and by a half only if it is even. -/
structure NearestQuotient (m d q : Nat) : Prop where
  not_above : 2 * (q * d) ≤ 2 * m + d
  not_below : 2 * m ≤ 2 * (q * d) + d
  even_of_tie : 2 * (q * d) = 2 * m + d ∨ 2 * m = 2 * (q * d) + d → q % 2 = 0

theorem divideToEven_nearest (m : Nat) {d : Nat} (hd : 0 < d) :
    NearestQuotient m d (divideToEven m d) := by
  have hm : m / d * d + m % d = m := Nat.div_add_mod' m d
  have hlt : m % d < d := Nat.mod_lt m hd
  have hnext : (m / d + 1) * d = m / d * d + d := Nat.succ_mul _ _
  unfold divideToEven
  by_cases hless : 2 * (m % d) < d
  · simp only [hless, if_true]
    exact ⟨by omega, by omega, by omega⟩
  · by_cases hmore : d < 2 * (m % d)
    · simp only [hless, hmore, if_true, if_false]
      exact ⟨by omega, by omega, by omega⟩
    · simp only [hless, hmore, if_false]
      rcases Nat.mod_two_eq_zero_or_one (m / d) with heven | hodd
      · rw [heven, Nat.add_zero]
        exact ⟨by omega, by omega, fun _ => heven⟩
      · rw [hodd]
        exact ⟨by omega, by omega, fun _ => by omega⟩

theorem NearestQuotient.mono {m m' d q q' : Nat} (hd : 0 < d) (h : NearestQuotient m d q)
    (h' : NearestQuotient m' d q') (hm : m ≤ m') : q ≤ q' := by
  by_contra hlt
  have hnext : (q' + 1) * d ≤ q * d := Nat.mul_le_mul_right d (by omega)
  rw [Nat.succ_mul] at hnext
  -- both are off by a half then, from the same number, and two numbers in a row are not both even
  have habove := h.not_above
  have hbelow := h'.not_below
  have heven := h.even_of_tie (by omega)
  have heven' := h'.even_of_tie (by omega)
  have hsame : q * d = (q' + 1) * d := by
    rw [Nat.succ_mul]
    omega
  have := Nat.eq_of_mul_eq_mul_right hd hsame
  omega

theorem NearestQuotient.divideToEven_eq {m d q : Nat} (hd : 0 < d) (h : NearestQuotient m d q) :
    divideToEven m d = q :=
  Nat.le_antisymm ((divideToEven_nearest m hd).mono hd h (Nat.le_refl m))
    (h.mono hd (divideToEven_nearest m hd) (Nat.le_refl m))

theorem NearestQuotient.of_mul (q : Nat) {d : Nat} (hd : 0 < d) : NearestQuotient (q * d) d q :=
  ⟨by omega, by omega, by omega⟩

theorem divideToEven_mul (q : Nat) {d : Nat} (hd : 0 < d) : divideToEven (q * d) d = q :=
  (NearestQuotient.of_mul q hd).divideToEven_eq hd

theorem divideToEven_one (m : Nat) : divideToEven m 1 = m := by
  simpa using divideToEven_mul m Nat.one_pos

theorem divideToEven_mono {m m' d : Nat} (hd : 0 < d) (h : m ≤ m') :
    divideToEven m d ≤ divideToEven m' d :=
  (divideToEven_nearest m hd).mono hd (divideToEven_nearest m' hd) h

/-! ## Whole numbers -/

/-- How many binary digits a number has beyond 53. -/
def excess (m : Nat) : Nat := m.log2 - 52

/-- The number with the binary digits beyond 53 rounded away. -/
def roundedNat (m : Nat) : Nat := divideToEven m (2 ^ excess m) * 2 ^ excess m

theorem excess_le_iff {m k : Nat} : excess m ≤ k ↔ m < 2 ^ (53 + k) := by
  unfold excess
  by_cases hm : m = 0
  · subst hm
    exact iff_of_true (Nat.zero_le k) (Nat.two_pow_pos _)
  · rw [← Nat.log2_lt hm]
    omega

theorem lt_of_excess (m : Nat) : m < 2 ^ (53 + excess m) := excess_le_iff.mp (Nat.le_refl _)

theorem le_of_excess {m : Nat} (h : 0 < excess m) : 2 ^ (52 + excess m) ≤ m := by
  have hnot : ¬ excess m ≤ excess m - 1 := by omega
  rw [excess_le_iff, Nat.not_lt] at hnot
  rwa [show 52 + excess m = 53 + (excess m - 1) by omega]

theorem excess_mono {m m' : Nat} (h : m ≤ m') : excess m ≤ excess m' :=
  excess_le_iff.mpr (Nat.lt_of_le_of_lt h (lt_of_excess m'))

theorem NearestQuotient.roundedNat_eq {m q : Nat} (h : NearestQuotient m (2 ^ excess m) q) :
    roundedNat m = q * 2 ^ excess m := by
  rw [roundedNat, h.divideToEven_eq (Nat.two_pow_pos _)]

theorem roundedNat_of_dvd {m : Nat} (h : 2 ^ excess m ∣ m) : roundedNat m = m := by
  have hwhole := NearestQuotient.of_mul (m / 2 ^ excess m) (Nat.two_pow_pos (excess m))
  rw [Nat.div_mul_cancel h] at hwhole
  rw [hwhole.roundedNat_eq, Nat.div_mul_cancel h]

theorem roundedNat_of_lt {m : Nat} (h : m < 2 ^ 53) : roundedNat m = m := by
  apply roundedNat_of_dvd
  rw [Nat.le_zero.mp (excess_le_iff.mpr h)]
  exact Nat.one_dvd m

theorem roundedNat_le (m : Nat) : roundedNat m ≤ 2 ^ (53 + excess m) := by
  have hpos : 0 < 2 ^ excess m := Nat.two_pow_pos _
  have hquotient : divideToEven m (2 ^ excess m) ≤ 2 ^ 53 := by
    rw [← divideToEven_mul (2 ^ 53) hpos, ← Nat.pow_add]
    exact divideToEven_mono hpos (Nat.le_of_lt (lt_of_excess m))
  rw [Nat.pow_add]
  exact Nat.mul_le_mul_right _ hquotient

theorem le_roundedNat {m : Nat} (h : 0 < excess m) : 2 ^ (52 + excess m) ≤ roundedNat m := by
  have hpos : 0 < 2 ^ excess m := Nat.two_pow_pos _
  have hquotient : 2 ^ 52 ≤ divideToEven m (2 ^ excess m) := by
    rw [← divideToEven_mul (2 ^ 52) hpos, ← Nat.pow_add]
    exact divideToEven_mono hpos (le_of_excess h)
  rw [Nat.pow_add]
  exact Nat.mul_le_mul_right _ hquotient

theorem roundedNat_mono {m m' : Nat} (h : m ≤ m') : roundedNat m ≤ roundedNat m' := by
  rcases Nat.eq_or_lt_of_le (excess_mono h) with heq | hlt
  · unfold roundedNat
    rw [heq]
    exact Nat.mul_le_mul_right _ (divideToEven_mono (Nat.two_pow_pos _) h)
  · calc roundedNat m ≤ 2 ^ (53 + excess m) := roundedNat_le m
      _ ≤ 2 ^ (52 + excess m') := Nat.pow_le_pow_right (by decide) (by omega)
      _ ≤ roundedNat m' := le_roundedNat (by omega)

/-! ## Numbers that are kept -/

/-- The number has at most 53 binary digits in front of zeros. -/
def Short (g : Nat) : Prop := ∃ q k, q < 2 ^ 53 ∧ g = q * 2 ^ k

theorem short_roundedNat (m : Nat) : Short (roundedNat m) := by
  rcases Nat.eq_or_lt_of_le (roundedNat_le m) with heq | hlt
  · exact ⟨1, 53 + excess m, by decide, by rw [heq, Nat.one_mul]⟩
  · rw [Nat.pow_add] at hlt
    exact ⟨divideToEven m (2 ^ excess m), excess m, Nat.lt_of_mul_lt_mul_right hlt, rfl⟩

theorem Short.excess_dvd {g : Nat} (h : Short g) : 2 ^ excess g ∣ g := by
  obtain ⟨q, k, hq, hg⟩ := h
  have hle : excess g ≤ k := by
    rw [excess_le_iff, hg, Nat.pow_add]
    exact Nat.mul_lt_mul_of_pos_right hq (Nat.two_pow_pos k)
  exact Nat.dvd_trans (Nat.pow_dvd_pow 2 hle) ⟨q, by rw [hg, Nat.mul_comm]⟩

theorem Short.kept {g : Nat} (h : Short g) : roundedNat g = g := roundedNat_of_dvd h.excess_dvd

/-! ## Numbers that share a float -/

/-- The number has at most 53 binary digits, or one more and its last two are a one and a zero. No
other number is rounded to it then. -/
def Apart (m : Nat) : Prop := m < 2 ^ 53 ∨ m < 2 ^ 54 ∧ m % 4 = 2

/-- Rounding does not lead across a number that it keeps. -/
theorem lt_of_roundedNat_lt {m a : Nat} (h : roundedNat m = m) (ha : roundedNat a < m) : a < m := by
  by_contra hnot
  have hmono := roundedNat_mono (Nat.not_lt.mp hnot)
  omega

theorem excess_eq_one {m : Nat} (h : 2 ^ 53 ≤ m) (hlt : m < 2 ^ 54) : excess m = 1 := by
  have hle : excess m ≤ 1 := excess_le_iff.mpr hlt
  have hnot : ¬ excess m ≤ 0 := fun hzero => absurd (excess_le_iff.mp hzero) (by omega)
  omega

theorem Apart.kept {m : Nat} (h : Apart m) : roundedNat m = m := by
  by_cases hm : m < 2 ^ 53
  · exact roundedNat_of_lt hm
  · obtain ⟨hlt, hmod⟩ := h.resolve_left hm
    apply roundedNat_of_dvd
    rw [excess_eq_one (by omega) hlt]
    omega

theorem Apart.eq_of_roundedNat {m a : Nat} (h : Apart m) (ha : roundedNat a = roundedNat m) :
    a = m := by
  rw [h.kept] at ha
  by_cases hm : m < 2 ^ 53
  · have hlt : a < 2 ^ 53 := lt_of_roundedNat_lt (by decide +kernel) (by omega)
    rwa [roundedNat_of_lt hlt] at ha
  · -- one digit is too many, and the digit in front of it is a one
    obtain ⟨hlt, hmod⟩ := h.resolve_left hm
    have hltA : a < 2 ^ 54 := lt_of_roundedNat_lt (by decide +kernel) (by omega)
    have hleA : 2 ^ 53 ≤ a := by
      by_contra hnot
      rw [roundedNat_of_lt (Nat.not_le.mp hnot)] at ha
      omega
    have hnearest := divideToEven_nearest a (Nat.two_pow_pos (excess a))
    rw [roundedNat] at ha
    rw [excess_eq_one hleA hltA] at ha hnearest
    have habove := hnearest.not_above
    have hbelow := hnearest.not_below
    have heven := hnearest.even_of_tie
    omega

theorem excess_succ {m : Nat} (hkept : roundedNat m = m) (hpos : 1 ≤ excess m) :
    excess (m + 1) = excess m := by
  refine Nat.le_antisymm (excess_le_iff.mpr ?_) (excess_mono (Nat.le_succ m))
  -- a whole step fits in behind a number that is kept
  have hlt := lt_of_excess m
  have hstep : 2 ^ 1 ≤ 2 ^ excess m := Nat.pow_le_pow_right Nat.two_pos hpos
  rw [Nat.pow_add] at hlt ⊢
  have hquotient : divideToEven m (2 ^ excess m) < 2 ^ 53 :=
    Nat.lt_of_mul_lt_mul_right (Nat.lt_of_le_of_lt (Nat.le_of_eq hkept) hlt)
  have hroom : (divideToEven m (2 ^ excess m) + 1) * 2 ^ excess m ≤ 2 ^ 53 * 2 ^ excess m :=
    Nat.mul_le_mul_right _ hquotient
  rw [Nat.succ_mul] at hroom
  have hm : divideToEven m (2 ^ excess m) * 2 ^ excess m = m := hkept
  omega

/-- Behind a number that is kept, the next one is rounded down to it, unless the number is apart. -/
theorem roundedNat_succ {m : Nat} (hkept : roundedNat m = m) (h : ¬ Apart m) :
    roundedNat (m + 1) = m := by
  have hpos : 1 ≤ excess m := by
    by_contra hzero
    exact h (.inl (excess_le_iff.mp (Nat.not_lt.mp hzero)))
  have hstep : 2 ^ 1 ≤ 2 ^ excess m := Nat.pow_le_pow_right Nat.two_pos hpos
  have hexcess := excess_succ hkept hpos
  generalize hq : divideToEven m (2 ^ excess m) = q
  have hm : q * 2 ^ excess m = m := by rw [← hq]; exact hkept
  have hnearest : NearestQuotient (m + 1) (2 ^ excess (m + 1)) q := by
    rw [hexcess]
    refine ⟨by omega, by omega, fun htie => ?_⟩
    -- the next number is halfway to the one above only if these are two steps apart
    have htwo : 2 ^ excess m = 2 := by omega
    have hlt : m < 2 ^ 54 := by
      have hlt := lt_of_excess m
      rwa [Nat.pow_add, htwo] at hlt
    have hmod : m % 4 ≠ 2 := fun hmod => h (.inr ⟨hlt, hmod⟩)
    rw [htwo] at hm
    omega
  rw [hnearest.roundedNat_eq, hexcess, hm]

/-- A number that is not apart has another one beside it that a word of 64 bits can hold. -/
theorem exists_other {m : Nat} (hm : m ≤ 2 ^ 63) (h : ¬ Apart m) :
    ∃ a < 2 ^ 63, a ≠ m ∧ roundedNat a = roundedNat m := by
  have hle : roundedNat m ≤ 2 ^ 63 := by
    have hmono := roundedNat_mono hm
    rwa [show roundedNat (2 ^ 63) = 2 ^ 63 by decide +kernel] at hmono
  rcases Nat.eq_or_lt_of_le hle with htop | hlt
  · by_cases hlast : m = 2 ^ 63 - 1
    · exact ⟨2 ^ 63 - 2, by decide, by omega, by rw [htop]; decide +kernel⟩
    · exact ⟨2 ^ 63 - 1, by decide, by omega, by rw [htop]; decide +kernel⟩
  · by_cases hkept : roundedNat m = m
    · have hnext := roundedNat_succ hkept h
      refine ⟨m + 1, ?_, by omega, by rw [hnext, hkept]⟩
      exact lt_of_roundedNat_lt (by decide +kernel) (by omega)
    · exact ⟨roundedNat m, hlt, hkept, (short_roundedNat m).kept⟩

/-! ## Integers -/

/-- The integer with the binary digits beyond 53 rounded away. -/
def rounded (n : Int) : Int := signed (decide (n < 0)) (roundedNat n.natAbs)

theorem rounded_of_nonneg {n : Int} (h : 0 ≤ n) : rounded n = roundedNat n.natAbs := by
  unfold rounded signed
  rw [decide_eq_false (Int.not_lt.mpr h)]
  rfl

theorem rounded_of_neg {n : Int} (h : n < 0) : rounded n = -roundedNat n.natAbs := by
  unfold rounded signed
  rw [decide_eq_true h]
  rfl

theorem natAbs_signed (s : Bool) (m : Nat) : (signed s m).natAbs = m := by
  cases s with
  | false => exact Int.natAbs_natCast m
  | true => exact (Int.natAbs_neg _).trans (Int.natAbs_natCast m)

theorem natAbs_rounded (n : Int) : (rounded n).natAbs = roundedNat n.natAbs := natAbs_signed _ _

/-- Rounding never turns two integers round. -/
theorem rounded_mono {x y : Int} (h : x ≤ y) : rounded x ≤ rounded y := by
  rcases Int.lt_or_le x 0 with hx | hx
  · rw [rounded_of_neg hx]
    rcases Int.lt_or_le y 0 with hy | hy
    · have hmono : roundedNat y.natAbs ≤ roundedNat x.natAbs := roundedNat_mono (by omega)
      rw [rounded_of_neg hy]
      omega
    · rw [rounded_of_nonneg hy]
      omega
  · have hmono : roundedNat x.natAbs ≤ roundedNat y.natAbs := roundedNat_mono (by omega)
    rw [rounded_of_nonneg hx, rounded_of_nonneg (Int.le_trans hx h)]
    omega

/-- An integer stays on its side of one that it is not rounded to. -/
theorem rounded_le_iff {x y : Int} (h : rounded x = rounded y → x = y) :
    rounded x ≤ rounded y ↔ x ≤ y := by
  constructor
  · intro hle
    by_contra hnot
    have hge : rounded y ≤ rounded x := rounded_mono (Int.le_of_lt (Int.not_le.mp hnot))
    exact hnot (Int.le_of_eq (h (Int.le_antisymm hle hge)))
  · exact rounded_mono

theorem rounded_lt_iff {x y : Int} (h : rounded x = rounded y → x = y) :
    rounded x < rounded y ↔ x < y := by
  rw [← Int.not_le, ← Int.not_le, rounded_le_iff fun heq => (h heq.symm).symm]

theorem rounded_signed (s : Bool) (m : Nat) :
    rounded (signed s m) = signed s (roundedNat m) := by
  cases s with
  | false => exact rounded_of_nonneg (Int.natCast_nonneg m)
  | true =>
    by_cases hm : m = 0
    · subst hm
      decide +kernel
    · have hneg : signed true m < 0 := by
        unfold signed
        rw [if_pos rfl]
        omega
      rw [rounded_of_neg hneg]
      simp [signed]

theorem eq_of_rounded {x n : Int} (hn : Apart n.natAbs) (h : rounded x = rounded n) : x = n := by
  have habs : x.natAbs = n.natAbs := by
    apply hn.eq_of_roundedNat
    rw [← natAbs_rounded, ← natAbs_rounded, h]
  have hkept := hn.kept
  rcases Int.lt_or_le x 0 with hx | hx <;> rcases Int.lt_or_le n 0 with hn | hn
  · omega
  · rw [rounded_of_neg hx, rounded_of_nonneg hn, habs, hkept] at h
    omega
  · rw [rounded_of_nonneg hx, rounded_of_neg hn, habs, hkept] at h
    omega
  · omega

/-! ## The floats of integers -/

theorem raised_natCast (k : Nat) : raised k = 2 ^ k := rfl

theorem raised_neg_natCast (k : Nat) : raised (-k) = 1 := by
  unfold raised
  rw [show (-(k : Int)).toNat = 0 by omega]

theorem num_whole (s k : Nat) : (⟨s, k⟩ : Dyadic).num = s * 2 ^ k := rfl

theorem den_whole (s k : Nat) : (⟨s, k⟩ : Dyadic).den = 1 := raised_neg_natCast k

theorem binaryOrder_one {m : Nat} (hm : m ≠ 0) : binaryOrder m 1 = m.log2 := by
  have hle : ¬ m * raised (-m.log2) < 1 * raised m.log2 := by
    rw [raised_natCast, raised_neg_natCast, Nat.mul_one, Nat.one_mul, Nat.not_lt]
    exact Nat.log2_self_le hm
  unfold binaryOrder
  rw [show (m.log2 : Int) - (Nat.log2 1 : Nat) = m.log2 from Int.sub_zero _]
  exact if_neg hle

/-- The magnitude nearest to a whole number is the number rounded. -/
theorem nearest_whole (m : Nat) :
    (nearest m 1).num = roundedNat m * (nearest m 1).den ∧
      (nearest m 1).exponent ≤ (excess m + 1 : Nat) := by
  unfold nearest
  by_cases hm : m = 0
  · subst hm
    decide +kernel
  · have hleast : max leastExponent (m.log2 - (width - 1 : Nat)) = (m.log2 : Int) - 52 := by
      unfold leastExponent width
      omega
    rw [if_neg hm, binaryOrder_one hm, hleast]
    by_cases hlow : m.log2 < 52
    · -- the number is shifted to full width, which loses nothing
      obtain ⟨k, hk⟩ : ∃ k : Nat, m.log2 + k = 52 := ⟨52 - m.log2, by omega⟩
      have hlt : m * 2 ^ k < 2 ^ 53 := by
        rw [show 53 = m.log2 + 1 + k by omega, Nat.pow_add]
        exact Nat.mul_lt_mul_of_pos_right Nat.lt_log2_self (Nat.two_pow_pos k)
      have hkept : roundedNat m = m :=
        roundedNat_of_lt (Nat.lt_of_le_of_lt (Nat.le_mul_of_pos_right m (Nat.two_pow_pos k)) hlt)
      rw [show (m.log2 : Int) - 52 = -k by omega]
      simp only [raised_neg_natCast, Int.neg_neg, raised_natCast, Nat.mul_one, divideToEven_one,
        width, Nat.ne_of_lt hlt, if_false, Dyadic.num, Dyadic.den, hkept, true_and]
      omega
    · rw [show (m.log2 : Int) - 52 = excess m by unfold excess; omega]
      simp only [raised_neg_natCast, raised_natCast, Nat.mul_one, Nat.one_mul]
      by_cases hfull : divideToEven m (2 ^ excess m) = 2 ^ width
      · rw [if_pos hfull, roundedNat, hfull, ← Int.natCast_succ, num_whole, den_whole, width]
        exact ⟨by omega, Int.le_refl _⟩
      · rw [if_neg hfull, roundedNat, num_whole, den_whole, Nat.mul_one]
        exact ⟨rfl, Int.ofNat_le.mpr (Nat.le_succ _)⟩

theorem signed_mul (s : Bool) (m c : Nat) : signed s (m * c) = signed s m * (c : Nat) := by
  cases s with
  | false => exact Int.natCast_mul m c
  | true =>
    unfold signed
    rw [if_pos rfl, if_pos rfl, Int.natCast_mul, Int.neg_mul]

theorem compare_mul_pos {x y c : Int} (hc : 0 < c) : compare (x * c) (y * c) = compare x y := by
  rw [← cmp_eq_compare, ← cmp_eq_compare, cmp_mul_pos_right hc]

/-- The float is an integer. -/
def IsInteger (f : Binary64) (n : Int) : Prop :=
  ∃ s d m, f = .finite s d ∧ d.num = m * d.den ∧ signed s m = n

/-- Floats that are integers are in the order of these. -/
theorem IsInteger.order?_eq {a b : Binary64} {x y : Int} (ha : IsInteger a x)
    (hb : IsInteger b y) : a.order? b = some (compare x y) := by
  obtain ⟨s, d, m, rfl, hd, rfl⟩ := ha
  obtain ⟨t, e, k, rfl, he, rfl⟩ := hb
  have hpos : 0 < ((d.den * e.den : Nat) : Int) :=
    Int.natCast_pos.mpr (Nat.mul_pos (Nat.two_pow_pos _) (Nat.two_pow_pos _))
  have hleft : m * d.den * e.den = m * (d.den * e.den) := Nat.mul_assoc _ _ _
  have hright : k * e.den * d.den = k * (d.den * e.den) := by
    rw [Nat.mul_assoc, Nat.mul_comm e.den]
  simp only [order?]
  rw [hd, he, hleft, hright, signed_mul, signed_mul, compare_mul_pos hpos]

/-- The float nearest to an integer of 64 bits is the integer rounded. -/
theorem ofRatio_one {m : Nat} (s : Bool) (h : m < 2 ^ 64) :
    IsInteger (ofRatio s m 1) (signed s (roundedNat m)) := by
  obtain ⟨hnum, hexponent⟩ := nearest_whole m
  have hexcess : excess m ≤ 11 := excess_le_iff.mpr h
  refine ⟨s, nearest m 1, roundedNat m, ?_, hnum, rfl⟩
  unfold ofRatio ofDyadic
  exact if_neg (by omega)

end CompanySearch.Number
