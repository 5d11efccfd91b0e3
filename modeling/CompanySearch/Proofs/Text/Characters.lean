-- Which characters are blank and which make up words. No blank is a word character, every ASCII
-- letter is one, and a run of either kind ends where the first other character stands.
import CompanySearch.Text.CharSet
import CompanySearch.Text.Word
import Mathlib.Data.List.Basic

namespace CompanySearch.Text

-- What is asked of each character of a text is decided along the text. Where the type of all
-- characters counts as a finite one, `decide` would otherwise run through that.
instance decidableForallMem (p : Char → Prop) [DecidablePred p] (s : List Char) :
    Decidable (∀ c ∈ s, p c) :=
  List.decidableBAll p s

/-! ## Sets of characters -/

/-- Whether a code lies in one of the runs that increasing turns mark off. -/
def inRuns (n : Nat) : List Nat → Bool
  | a :: b :: rest => decide (a ≤ n) && (decide (n < b) || inRuns n rest)
  | [a] => decide (a ≤ n)
  | [] => false

-- Two turns open and close one run, so the induction takes them in pairs.
theorem countP_turns_eq_inRuns {turns : List Nat} (h : turns.IsChain (· < ·)) (n : Nat) :
    (turns.countP (fun turn => decide (turn ≤ n)) % 2 == 1) = inRuns n turns := by
  fun_induction inRuns n turns with
  | case1 a b rest ih =>
    obtain ⟨hab, hbrest⟩ := List.isChain_cons_cons.mp h
    rw [← ih hbrest.of_cons, List.countP_cons, List.countP_cons]
    by_cases hn : b ≤ n
    · have han : a ≤ n := by omega
      have hnb : ¬ n < b := by omega
      have hmod (k : Nat) : (k + 1 + 1) % 2 = k % 2 := by omega
      simp [hn, han, hnb, hmod]
    · have hzero : rest.countP (fun turn => decide (turn ≤ n)) = 0 := by
        rw [List.countP_eq_zero]
        intro turn ht
        have hlt := (List.pairwise_cons.mp hbrest.pairwise).1 turn ht
        simp
        omega
      by_cases han : a ≤ n
      · simp [hn, han, hzero]
        omega
      · simp [hn, han, hzero]
  | case2 a => by_cases han : a ≤ n <;> simp [han]
  | case3 => rfl

theorem CharSet.contains_eq {s : CharSet} (h : s.turns.IsChain (· < ·)) (c : Char) :
    s.contains c = inRuns c.toNat s.turns := countP_turns_eq_inRuns h c.toNat

/-! ## Blanks and word characters -/

def blankCodes : List Nat :=
  [0x9, 0xA, 0xB, 0xC, 0xD, 0x20, 0x85, 0xA0, 0x1680, 0x2000, 0x2001, 0x2002, 0x2003, 0x2004,
    0x2005, 0x2006, 0x2007, 0x2008, 0x2009, 0x200A, 0x2028, 0x2029, 0x202F, 0x205F, 0x3000]

theorem mem_blankCodes_of_isBlank {c : Char} (h : isBlank c = true) : c.toNat ∈ blankCodes := by
  unfold isBlank at h
  rw [CharSet.contains_eq (by decide)] at h
  simp only [blankChars, inRuns, Bool.or_eq_true, Bool.and_eq_true, decide_eq_true_eq,
    Bool.or_false] at h
  simp only [blankCodes, List.mem_cons, List.not_mem_nil, or_false]
  omega

theorem wordChars_sorted : wordChars.turns.IsChain (· < ·) := by decide +kernel

theorem not_isWord_of_isBlank {c : Char} (h : isBlank c = true) : isWord c = false := by
  have hascii : ∀ n ∈ blankCodes, n < 0x80 →
      ((Char.ofNat n).isAlphanum || Char.ofNat n == '_') = false := by decide
  have hrest : ∀ n ∈ blankCodes, 0x80 ≤ n → inRuns n wordChars.turns = false := by decide +kernel
  have hmem := mem_blankCodes_of_isBlank h
  unfold isWord
  split
  · simpa [Char.ofNat_toNat] using hascii _ hmem ‹_›
  · rw [CharSet.contains_eq wordChars_sorted]
    exact hrest _ hmem (by omega)

theorem not_isBlank_of_isWord {c : Char} (h : isWord c = true) : isBlank c = false := by
  by_contra hblank
  rw [not_isWord_of_isBlank (by simpa using hblank)] at h
  contradiction

theorem isUpper_iff {c : Char} : c.isUpper = true ↔ 'A'.val ≤ c.val ∧ c.val ≤ 'Z'.val :=
  decide_eq_true_iff

theorem isAlpha_iff {c : Char} : c.isAlpha = true ↔ c.isUpper = true ∨ c.isLower = true :=
  Bool.or_eq_true_iff

theorem isWord_of_isAlpha {c : Char} (h : c.isAlpha = true) : isWord c = true := by
  have hlt : c.toNat < 0x80 := by
    rcases isAlpha_iff.mp h with hupper | hlower
    · have hle := UInt32.le_iff_toNat_le.mp (isUpper_iff.mp hupper).2
      exact Nat.lt_of_le_of_lt hle (by decide)
    · have hle := UInt32.le_iff_toNat_le.mp
        (of_decide_eq_true (Bool.and_eq_true_iff.mp hlower).2)
      exact Nat.lt_of_le_of_lt hle (by decide)
  unfold isWord
  rw [if_pos hlt]
  exact Bool.or_eq_true_iff.mpr (.inl (Bool.or_eq_true_iff.mpr (.inl h)))

/-- What is a small letter once its case is taken off has been a letter. -/
theorem isAlpha_of_toLower {c : Char} (h : c.toLower.isLower = true) : c.isAlpha = true := by
  rw [isAlpha_iff]
  unfold Char.toLower at h
  split at h
  · exact .inl (isUpper_iff.mpr ‹_›)
  · exact .inr h

theorem not_isDigit_of_isAlpha {c : Char} (h : c.isAlpha = true) : c.isDigit = false := by
  by_contra hdigit
  rw [Bool.not_eq_false] at hdigit
  have hle : c.val ≤ '9'.val := of_decide_eq_true (Bool.and_eq_true_iff.mp hdigit).2
  rcases isAlpha_iff.mp h with hupper | hlower
  · exact absurd (UInt32.le_trans (isUpper_iff.mp hupper).1 hle) (by decide)
  · have hge := of_decide_eq_true (Bool.and_eq_true_iff.mp hlower).1
    exact absurd (UInt32.le_trans hge hle) (by decide)

theorem not_isBlank_of_isDigit {c : Char} (h : c.isDigit = true) : isBlank c = false := by
  by_contra hblank
  have hdigits : ∀ k ∈ blankCodes, (Char.ofNat k).isDigit = false := by decide
  have hnot := hdigits _ (mem_blankCodes_of_isBlank (by simpa using hblank))
  rw [Char.ofNat_toNat, h] at hnot
  contradiction

/-! ## Runs -/

/-- A run of such characters ends in front of the text. -/
def Stops (p : Char → Bool) (s : List Char) : Prop := ∀ c ∈ s.head?, p c = false

theorem stops_cons {p : Char → Bool} {c : Char} {s : List Char} :
    Stops p (c :: s) ↔ p c = false := by simp [Stops]

section runs

variable {p : Char → Bool} {w s : List Char}

theorem Stops.takeWhile (h : Stops p s) : s.takeWhile p = [] := by
  cases s with
  | nil => rfl
  | cons c s => simp [stops_cons.mp h]

theorem Stops.dropWhile (h : Stops p s) : s.dropWhile p = s := by
  cases s with
  | nil => rfl
  | cons c s => simp [stops_cons.mp h]

theorem takeWhile_run (hw : ∀ c ∈ w, p c = true) (h : Stops p s) :
    (w ++ s).takeWhile p = w := by
  rw [List.takeWhile_append_of_pos hw, h.takeWhile, List.append_nil]

theorem dropWhile_run (hw : ∀ c ∈ w, p c = true) (h : Stops p s) :
    (w ++ s).dropWhile p = s := by
  rw [List.dropWhile_append_of_pos hw, h.dropWhile]

/-- A text is a run and what stops it, in one way only. -/
theorem eq_of_runs {w' s' : List Char} (hw : ∀ c ∈ w, p c = true) (h : Stops p s)
    (hw' : ∀ c ∈ w', p c = true) (h' : Stops p s') (heq : w ++ s = w' ++ s') :
    w = w' ∧ s = s' := by
  constructor
  · rw [← takeWhile_run hw h, heq, takeWhile_run hw' h']
  · rw [← dropWhile_run hw h, heq, dropWhile_run hw' h']

theorem stops_dropWhile (p : Char → Bool) (s : List Char) : Stops p (s.dropWhile p) := by
  intro c hc
  cases hd : s.dropWhile p with
  | nil => simp [hd] at hc
  | cons x t =>
    have hne : s.dropWhile p ≠ [] := by simp [hd]
    have hnot := List.head_dropWhile_not p hne
    simp only [hd, List.head?_cons, Option.mem_def, Option.some.injEq] at hc
    subst hc
    simpa [hd] using hnot

end runs

end CompanySearch.Text
