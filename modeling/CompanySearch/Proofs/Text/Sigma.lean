-- Small letters of a part of a text. All depends on the part alone, but for the capital sigmas
-- whose form the part does not settle: what stands around it may then make such a sigma final or
-- not.
import CompanySearch.Proofs.Text.Lowercase
import Mathlib.Data.List.TakeWhile

namespace CompanySearch.Text

/-! ## A part and what stands around it -/

/-- The small form of a character, with what stands in front of it, nearest first, and behind it. -/
def smallForm (before after : List Char) (c : Char) : List Char :=
  if c == 'Σ' then [if meetsCased before && !meetsCased after then 'ς' else 'σ'] else lowerChar c

/-- The small letters of a part of a text, with what stands in front of it, nearest first, and
behind it. -/
def lowerBetween (before : List Char) : List Char → List Char → List Char
  | [], _ => []
  | c :: rest, after => smallForm before (rest ++ after) c ++ lowerBetween (c :: before) rest after

/-- All characters are passed over when one with case is looked for. -/
def PassedOver (s : List Char) : Prop := ∀ c ∈ s, isCaseIgnorable c = true

/-- What stands around a sigma in a part of a text settles its form, whatever stands around the
part. -/
structure Settled (before after : List Char) : Prop where
  not_final : PassedOver before → meetsCased after = true
  final : PassedOver after → meetsCased before = false

/-- The form of every capital sigma is settled. -/
def Steady (s : List Char) : Prop := ∀ x y, s = x ++ 'Σ' :: y → Settled x.reverse y

theorem lowerAfter_eq_between (before s : List Char) :
    lowerAfter before s = lowerBetween before s [] := by
  induction s generalizing before with
  | nil => rfl
  | cons c s ih =>
    rw [lowerAfter, lowerBetween, ih, List.append_nil]
    rfl

theorem lowerBetween_append (before s t after : List Char) :
    lowerBetween before (s ++ t) after =
      lowerBetween before s (t ++ after) ++ lowerBetween (s.reverse ++ before) t after := by
  induction s generalizing before with
  | nil => rfl
  | cons c s ih =>
    rw [List.cons_append, lowerBetween, ih, lowerBetween]
    simp

/-! ## Where a character with case is looked for -/

theorem meetsCased_passedOver {s : List Char} (h : PassedOver s) (t : List Char) :
    meetsCased (s ++ t) = meetsCased t := by
  unfold meetsCased
  rw [List.dropWhile_append_of_pos h]

/-- The search ends at the first character that is not passed over. -/
theorem meetsCased_append {s : List Char} (h : ¬ PassedOver s) (t : List Char) :
    meetsCased (s ++ t) = meetsCased s := by
  have hne : s.dropWhile isCaseIgnorable ≠ [] := fun hnil => h (List.dropWhile_eq_nil_iff.mp hnil)
  obtain ⟨c, rest, hrest⟩ := List.exists_cons_of_ne_nil hne
  unfold meetsCased
  rw [List.dropWhile_append, hrest]
  rfl

theorem PassedOver.not_mem {s : List Char} (h : PassedOver s) : 'Σ' ∉ s := by
  intro hs
  exact absurd (h _ hs) (by decide +kernel)

theorem PassedOver.reverse {s : List Char} (h : PassedOver s) : PassedOver s.reverse := by
  intro c hc
  exact h c (List.mem_reverse.mp hc)

theorem not_passedOver_append {t : List Char} (h : ¬ PassedOver t) (s : List Char) :
    ¬ PassedOver (s ++ t) :=
  fun hst => h fun c hc => hst c (List.mem_append_right s hc)

/-! ## What does not matter -/

theorem smallForm_sigma (before after : List Char) :
    smallForm before after 'Σ' = [if meetsCased before && !meetsCased after then 'ς' else 'σ'] :=
  rfl

theorem smallForm_of_ne {c : Char} (h : c ≠ 'Σ') (before after : List Char) :
    smallForm before after c = lowerChar c := by
  unfold smallForm
  rw [if_neg (by simpa using h)]

/-- What stands around a part matters only to its capital sigmas. -/
theorem lowerBetween_congr {s before before' after after' : List Char}
    (h : ∀ x y, s = x ++ 'Σ' :: y → smallForm (x.reverse ++ before) (y ++ after) 'Σ' =
      smallForm (x.reverse ++ before') (y ++ after') 'Σ') :
    lowerBetween before s after = lowerBetween before' s after' := by
  induction s generalizing before before' with
  | nil => rfl
  | cons c s ih =>
    have hfirst : smallForm before (s ++ after) c = smallForm before' (s ++ after') c := by
      by_cases hc : c = 'Σ'
      · subst hc
        exact h [] s rfl
      · rw [smallForm_of_ne hc, smallForm_of_ne hc]
    have hrest : lowerBetween (c :: before) s after = lowerBetween (c :: before') s after' := by
      apply ih
      rintro x y rfl
      simpa using h (c :: x) y rfl
    rw [lowerBetween, lowerBetween, hfirst, hrest]

theorem Settled.smallForm_eq {before after : List Char} (h : Settled before after)
    (front back : List Char) :
    smallForm (before ++ front) (after ++ back) 'Σ' = smallForm before after 'Σ' := by
  rw [smallForm_sigma, smallForm_sigma]
  by_cases hbefore : PassedOver before
  · -- a letter comes next, so it is not final whatever stands in front
    have hmeets := h.not_final hbefore
    have hafter : ¬ PassedOver after := by
      intro hafter
      rw [← List.append_nil after, meetsCased_passedOver hafter] at hmeets
      contradiction
    simp [meetsCased_append hafter, hmeets]
  · rw [meetsCased_append hbefore]
    by_cases hafter : PassedOver after
    · simp [h.final hafter]
    · rw [meetsCased_append hafter]

/-- The small letters of a steady part are the same wherever it stands. -/
theorem Steady.lowerBetween_eq {s : List Char} (h : Steady s) (before after : List Char) :
    lowerBetween before s after = lowerBetween [] s [] := by
  apply lowerBetween_congr
  intro x y hs
  rw [List.append_nil, List.append_nil]
  exact (h x y hs).smallForm_eq before after

theorem PassedOver.lowerBetween_eq {s : List Char} (h : PassedOver s)
    (before before' after after' : List Char) :
    lowerBetween before s after = lowerBetween before' s after' := by
  apply lowerBetween_congr
  rintro x y rfl
  exact absurd (by simp) h.not_mem

/-- Behind a character that is not passed over, it does not matter what stands in front of that. -/
theorem lowerBetween_front {before : List Char} (h : ¬ PassedOver before)
    (front s after : List Char) :
    lowerBetween (before ++ front) s after = lowerBetween before s after := by
  apply lowerBetween_congr
  intro x y _
  rw [smallForm_sigma, smallForm_sigma, ← List.append_assoc,
    meetsCased_append (not_passedOver_append h _)]

theorem lowerBetween_back {after : List Char} (h : ¬ PassedOver after)
    (before s back : List Char) :
    lowerBetween before s (after ++ back) = lowerBetween before s after := by
  apply lowerBetween_congr
  intro x y _
  rw [smallForm_sigma, smallForm_sigma, ← List.append_assoc,
    meetsCased_append (not_passedOver_append h _)]

/-! ## What matters -/

theorem not_passedOver_sigma (s : List Char) : ¬ PassedOver ('Σ' :: s) :=
  fun h => h.not_mem List.mem_cons_self

theorem lowerBetween_sigma (before x y after : List Char) :
    lowerBetween before (x ++ 'Σ' :: y) after =
      lowerBetween before x ('Σ' :: (y ++ after)) ++
        (smallForm (x.reverse ++ before) (y ++ after) 'Σ' ++
          lowerBetween ('Σ' :: x.reverse ++ before) y after) := by
  rw [lowerBetween_append, List.cons_append, lowerBetween, List.cons_append]

/-- A letter in front makes a sigma final that has no letter on either side but may have characters
that are passed over. -/
theorem letter_in_front {x y : List Char} (hx : PassedOver x) (hy : meetsCased y = false) :
    ∃ front back, lowerAfter [] (x ++ 'Σ' :: y) = front ++ 'σ' :: back ∧
      lowerAfter [] ('a' :: (x ++ 'Σ' :: y)) = 'a' :: (front ++ 'ς' :: back) := by
  refine ⟨lowerBetween [] x ('Σ' :: (y ++ [])), lowerBetween ('Σ' :: x.reverse) y [], ?_, ?_⟩
  · have hform : smallForm (x.reverse ++ []) (y ++ []) 'Σ' = ['σ'] := by
      rw [smallForm_sigma, meetsCased_passedOver hx.reverse]
      rfl
    rw [lowerAfter_eq_between, lowerBetween_sigma, hform, List.append_nil, List.append_nil]
    rfl
  · have hform : smallForm (x.reverse ++ ['a']) (y ++ []) 'Σ' = ['ς'] := by
      rw [smallForm_sigma, meetsCased_passedOver hx.reverse, List.append_nil, hy]
      decide +kernel
    rw [lowerAfter_eq_between, lowerBetween, lowerBetween_sigma, hform,
      hx.lowerBetween_eq ['a'] [] _ _, lowerBetween_front (not_passedOver_sigma _)]
    rfl

/-- A letter behind makes a sigma not final that has one in front and at most characters that are
passed over behind it. -/
theorem letter_behind {x y : List Char} (hx : meetsCased x.reverse = true) (hy : PassedOver y) :
    ∃ front back, lowerAfter [] (x ++ 'Σ' :: y) = front ++ 'ς' :: back ∧
      lowerAfter [] ((x ++ 'Σ' :: y) ++ ['a']) = front ++ 'σ' :: (back ++ ['a']) := by
  refine ⟨lowerBetween [] x ('Σ' :: y), lowerBetween ('Σ' :: x.reverse) y [], ?_, ?_⟩
  · have hform : smallForm (x.reverse ++ []) (y ++ []) 'Σ' = ['ς'] := by
      rw [smallForm_sigma, List.append_nil, hx, meetsCased_passedOver hy]
      rfl
    rw [lowerAfter_eq_between, lowerBetween_sigma, hform, List.append_nil, List.append_nil]
    rfl
  · have hform : smallForm (x.reverse ++ []) (y ++ ['a']) 'Σ' = ['σ'] := by
      rw [smallForm_sigma, meetsCased_passedOver hy, List.append_nil, hx]
      decide +kernel
    have hfront := lowerBetween_back (not_passedOver_sigma y) [] x ['a']
    have hback := hy.lowerBetween_eq ('Σ' :: x.reverse ++ []) ('Σ' :: x.reverse) ['a'] []
    have hlast (before : List Char) : lowerBetween before ['a'] [] = ['a'] := rfl
    rw [lowerAfter_eq_between, lowerBetween_append, List.append_nil, lowerBetween_sigma, hform,
      hback, hlast, ← List.cons_append, hfront]
    simp

end CompanySearch.Text
