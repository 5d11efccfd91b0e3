-- Looking for a part of a text. The part and the text are brought to small letters each on its
-- own, so a part is found in every text that has it exactly if it settles the form of its capital
-- sigmas.
import CompanySearch.Proofs.Query.Quoting
import CompanySearch.Proofs.Text.Sigma

namespace CompanySearch.Query

open Text

/-! ## The question and its answer -/

theorem occursIn_iff {part s : List Char} : occursIn part s = true ↔ part <:+: s := by
  induction s with
  | nil => simp [occursIn]
  | cons a s ih =>
    rw [occursIn, Bool.or_eq_true, ih, List.isPrefixOf_iff_prefix, List.infix_cons_iff]

/-- The condition that a field contains the text. -/
def sought (field part : String) : Predicate := ⟨field, .contains, part⟩

/-- Every record whose field is a text with the part in it satisfies the condition. -/
def FoundInside (part : String) : Prop :=
  ∀ (r : Record) (field text : String), r.value? field = some (.text text) →
    part.toList <:+: text.toList → satisfies r (sought field part) = true

theorem satisfies_sought {r : Record} {field text part : String}
    (h : r.value? field = some (.text text)) :
    satisfies r (sought field part) = true ↔
      lowerAfter [] part.toList <:+: lowerAfter [] text.toList := by
  unfold satisfies sought
  simp only [h, comparedText, comparedQuery, Scalar.isText, if_true, occursIn_iff, lowercase,
    String.toList_ofList]

/-! ## A part that settles its sigmas -/

theorem infix_of_steady {part text : List Char} (h : Steady part) (hin : part <:+: text) :
    lowerAfter [] part <:+: lowerAfter [] text := by
  obtain ⟨front, back, rfl⟩ := hin
  rw [lowerAfter_eq_between, lowerAfter_eq_between, lowerBetween_append, lowerBetween_append,
    h.lowerBetween_eq (front.reverse ++ []) (back ++ [])]
  exact List.infix_append _ _ _

/-! ## A part that does not -/

/-- What has fewer of a character than a text does not have that text inside. -/
theorem not_infix_of_count_lt {c : Char} {s t : List Char} (h : t.count c < s.count c) :
    ¬ s <:+: t :=
  fun hin => Nat.not_lt.mpr (hin.sublist.count_le c) h

theorem exists_unfound {part : List Char} (h : ¬ Steady part) :
    ∃ text, part <:+: text ∧ ¬ lowerAfter [] part <:+: lowerAfter [] text := by
  unfold Steady at h
  push Not at h
  obtain ⟨x, y, rfl, hnot⟩ := h
  by_cases hfinal : PassedOver y ∧ meetsCased x.reverse = true
  · obtain ⟨front, back, hpart, htext⟩ := letter_behind hfinal.2 hfinal.1
    refine ⟨(x ++ 'Σ' :: y) ++ ['a'], (List.prefix_append _ _).isInfix, ?_⟩
    rw [hpart, htext]
    apply not_infix_of_count_lt (c := 'ς')
    simp
  · have hnotfinal : PassedOver x ∧ meetsCased y = false := by
      by_contra hother
      refine hnot ⟨fun hx => ?_, fun hy => ?_⟩
      · rw [← Bool.not_eq_false]
        exact fun hmeets => hother ⟨x.reverse_reverse ▸ hx.reverse, hmeets⟩
      · rw [← Bool.not_eq_true]
        exact fun hmeets => hfinal ⟨hy, hmeets⟩
    obtain ⟨front, back, hpart, htext⟩ := letter_in_front hnotfinal.1 hnotfinal.2
    refine ⟨'a' :: (x ++ 'Σ' :: y), (List.suffix_cons _ _).isInfix, ?_⟩
    rw [hpart, htext]
    apply not_infix_of_count_lt (c := 'σ')
    simp

/-! ## The law -/

/-- A part is found in every text that has it inside exactly if it settles the form of each of its
capital sigmas. -/
theorem a_part_is_found_exactly_if_its_sigmas_are_settled (part : String) :
    FoundInside part ↔ Steady part.toList := by
  constructor
  · intro hfound
    by_contra hnot
    obtain ⟨text, hin, hmissed⟩ := exists_unfound hnot
    have hvalue : (lone "name" (String.ofList text)).value? "name" =
        some (.text (String.ofList text)) := by simp [value?_lone]
    have hsatisfies := hfound _ _ _ hvalue (by rwa [String.toList_ofList])
    rw [satisfies_sought hvalue, String.toList_ofList] at hsatisfies
    exact hmissed hsatisfies
  · intro hsteady r field text hvalue hin
    rw [satisfies_sought hvalue]
    exact infix_of_steady hsteady hin

/-- Not every part is found: alone, the sigma at the end of this one is final. -/
theorem a_part_that_ends_in_sigma_is_missed :
    "ΚΟΣ".toList <:+: "ΚΟΣΜΟΣ".toList ∧
      satisfies (lone "name" "ΚΟΣΜΟΣ") (sought "name" "ΚΟΣ") = false := by
  decide +kernel

end CompanySearch.Query
