-- Searching a piece for conditions leaves no choice. There is one way to see the piece as readings
-- with gaps between them in which nothing can be read in a gap and each reading is the best at its
-- place, and the conditions are those of its readings.
import CompanySearch.Proofs.Query.Readings

namespace CompanySearch.Query

open Text

/-! ## Scans -/

/-- A text seen as readings with gaps between them. -/
inductive Scan where
  | rest (gap : List Char)
  | found (gap : List Char) (reading : Reading) (scan : Scan)

/-- No reading begins in the front of a text, wherever it ends. -/
def NoneFits (front back : List Char) : Prop :=
  ∀ u v, front = u ++ v → v ≠ [] →
    ∀ (r : Reading) (rest : List Char), r.Fits → v ++ back ≠ r.text ++ rest

/-- A reading at its place in a text. -/
structure Place where
  front : List Char
  reading : Reading
  back : List Char

namespace Scan

def text : Scan → List Char
  | rest gap => gap
  | found gap r scan => gap ++ (r.text ++ scan.text)

/-- Nothing can be read in a gap, and what is read between gaps is the best there. -/
def Exact : Scan → Prop
  | rest gap => NoneFits gap []
  | found gap r scan => NoneFits gap (r.text ++ scan.text) ∧ r.Best scan.text ∧ scan.Exact

/-- The conditions of its readings, in turn. -/
def conditions : Scan → List Predicate
  | rest _ => []
  | found _ r scan => r.predicate :: scan.conditions

def gaps : Scan → List (List Char)
  | rest gap => [gap]
  | found gap _ scan => gap :: scan.gaps

/-- The readings at their places, when the scan stands behind `front`. -/
def places (front : List Char) : Scan → List Place
  | rest _ => []
  | found gap r scan =>
    ⟨front ++ gap, r, scan.text⟩ :: scan.places (front ++ gap ++ r.text)

end Scan

/-- The parts of a reading are whole where they stand in the text: the field is bordered by no word
character, and the value ends only at a quote or with the text. -/
structure Place.Whole (p : Place) (s : List Char) : Prop where
  text : s = p.front ++ (p.reading.text ++ p.back)
  fits : p.reading.Fits
  field_starts : Stops isWord p.front.reverse
  field_ends : Stops isWord (p.reading.blanks ++ (p.reading.operator.symbol.toList ++
    (p.reading.operand.text ++ p.back)))
  value_ends : Valueless (quoteIf p.reading.operand.closed ++ p.back)

/-! ## Where nothing can be read -/

theorem readPredicate_none_iff {s : List Char} :
    readPredicate s = none ↔ ∀ (r : Reading) (rest : List Char), r.Fits → s ≠ r.text ++ rest := by
  constructor
  · intro h r rest hr
    exact readPredicate_eq_none h hr rest
  · intro h
    cases hread : readPredicate s with
    | none => rfl
    | some found =>
      obtain ⟨r, hbest, -, hs⟩ := readPredicate_eq_some hread
      exact absurd hs (h r _ hbest.fits)

theorem noneFits_cons {a : Char} {front back : List Char} :
    NoneFits (a :: front) back ↔
      readPredicate (a :: (front ++ back)) = none ∧ NoneFits front back := by
  rw [readPredicate_none_iff]
  constructor
  · intro h
    exact ⟨h [] _ rfl (List.cons_ne_nil a front),
      fun u v huv => h (a :: u) v (by rw [huv, List.cons_append])⟩
  · rintro ⟨hfirst, hrest⟩ u v huv hv
    cases u with
    | nil =>
      rw [List.nil_append] at huv
      rw [← huv]
      exact hfirst
    | cons x u => exact hrest u v (List.cons.inj huv).2 hv

/-- What cannot be read in front of a text cannot be read without it. -/
theorem NoneFits.alone {front back : List Char} (h : NoneFits front back) : NoneFits front [] := by
  intro u v huv hv r rest hr heq
  apply h u v huv hv r (rest ++ back) hr
  rw [← List.append_assoc, ← heq, List.append_nil]

theorem predicates_skip {front back : List Char} (h : NoneFits front back) :
    predicates (front ++ back) = predicates back := by
  induction front with
  | nil => rfl
  | cons a front ih =>
    obtain ⟨hnone, hrest⟩ := noneFits_cons.mp h
    rw [List.cons_append, predicates_of_none hnone, ih hrest]

theorem predicates_gap {gap : List Char} (h : NoneFits gap []) : predicates gap = [] := by
  rw [← List.append_nil gap, predicates_skip h, predicates]

/-! ## What an exact scan is like -/

/-- The conditions are searched for where the scan finds them. -/
theorem Scan.Exact.conditions_eq {scan : Scan} (h : scan.Exact) :
    predicates scan.text = scan.conditions := by
  induction scan with
  | rest gap => exact predicates_gap h
  | found gap r scan ih =>
    obtain ⟨hgap, hbest, hscan⟩ := h
    rw [Scan.text, predicates_skip hgap, predicates_of_some hbest.readPredicate, ih hscan]
    rfl

theorem Scan.Exact.gaps_blank {scan : Scan} (h : scan.Exact) :
    ∀ gap ∈ scan.gaps, predicates gap = [] := by
  induction scan with
  | rest gap =>
    intro g hg
    rw [List.mem_singleton.mp hg]
    exact predicates_gap h
  | found gap r scan ih =>
    intro g hg
    rcases List.mem_cons.mp hg with rfl | hg
    · exact predicates_gap h.1.alone
    · exact ih h.2.2 g hg

/-- A word character in front of a reading could be read with it. -/
theorem NoneFits.stops {gap back : List Char} {r : Reading} (h : NoneFits gap (r.text ++ back))
    (hr : r.Fits) {front : List Char} (hfront : Stops isWord front.reverse) :
    Stops isWord (front ++ gap).reverse := by
  rcases List.eq_nil_or_concat gap with rfl | ⟨init, c, rfl⟩
  · rwa [List.append_nil]
  · rw [List.concat_eq_append, List.reverse_append, List.reverse_append]
    refine stops_cons.mpr ?_
    by_contra hc
    have hlonger : (Reading.mk (c :: r.field) r.blanks r.operator r.operand).Fits :=
      ⟨List.cons_ne_nil _ _, List.forall_mem_cons.mpr ⟨by simpa using hc, hr.field_word⟩, hr.blanks,
        hr.operand⟩
    exact h init [c] (List.concat_eq_append) (List.cons_ne_nil c []) _ back hlonger rfl

theorem Scan.Exact.places_whole {scan : Scan} (h : scan.Exact) {front : List Char}
    (hfront : scan.text ≠ [] → Stops isWord front.reverse) :
    ∀ p ∈ scan.places front, p.Whole (front ++ scan.text) := by
  induction scan generalizing front with
  | rest gap => simp [Scan.places]
  | found gap r scan ih =>
    obtain ⟨hgap, hbest, hscan⟩ := h
    intro p hp
    rcases List.mem_cons.mp hp with rfl | hp
    · have hfield : Stops isWord (r.blanks ++ (r.operator.symbol.toList ++
          (r.operand.text ++ scan.text))) :=
        stops_of_blanks (fun c => not_isWord_of_isBlank) hbest.fits.blanks
          (stops_symbol symbol_not_isWord _ _)
      refine ⟨by simp [Scan.text], hbest.fits, hgap.stops hbest.fits (hfront ?_), hfield, ?_⟩
      · simp [Scan.text, Reading.text, hbest.fits.field_ne]
      · exact valueless_of_end hbest.closed_or_end
    · have hnext : scan.text ≠ [] → Stops isWord (front ++ gap ++ r.text).reverse := by
        intro hne
        have hclosed := hbest.closed_or_end.resolve_right hne
        simp only [Reading.text, Operand.text, hclosed, quoteIf, List.reverse_append]
        exact stops_cons.mpr (by decide)
      have hwhole := ih hscan hnext p hp
      simpa [Scan.text] using hwhole

/-! ## Only one scan is exact -/

theorem Reading.Fits.text_ne {r : Reading} (h : r.Fits) : r.text ≠ [] := by
  simp [Reading.text, h.field_ne]

/-- No reading begins earlier than behind the first gap. -/
theorem NoneFits.length_le {gap gap' back rest : List Char} {r : Reading} (h : NoneFits gap back)
    (hr : r.Fits) (heq : gap' ++ (r.text ++ rest) = gap ++ back) : gap.length ≤ gap'.length := by
  rcases List.append_eq_append_iff.mp heq with ⟨more, hgap, hmore⟩ | ⟨more, hgap, -⟩
  · have hnil : more = [] := by
      by_contra hne
      exact h gap' more hgap hne r rest hr hmore.symm
    simp [hgap, hnil]
  · simp [hgap]

/-- Nothing can be read in a gap that is the whole text. -/
theorem NoneFits.whole_ne {gap gap' rest : List Char} {r : Reading} (h : NoneFits gap [])
    (hr : r.Fits) : gap ≠ gap' ++ (r.text ++ rest) := by
  intro heq
  exact h gap' (r.text ++ rest) heq (by simp [hr.text_ne]) r rest hr (List.append_nil _)

theorem Scan.Exact.unique {scan other : Scan} (h : scan.Exact) (h' : other.Exact)
    (heq : scan.text = other.text) : scan = other := by
  induction scan generalizing other with
  | rest gap =>
    cases other with
    | rest gap' => exact congrArg Scan.rest heq
    | found gap' r' scan' => exact absurd heq (NoneFits.whole_ne h h'.2.1.fits)
  | found gap r scan ih =>
    cases other with
    | rest gap' => exact absurd heq.symm (NoneFits.whole_ne h' h.2.1.fits)
    | found gap' r' scan' =>
      have hle := h.1.length_le h'.2.1.fits heq.symm
      have hge := h'.1.length_le h.2.1.fits heq
      obtain ⟨rfl, hback⟩ := List.append_inj heq (Nat.le_antisymm hle hge)
      obtain ⟨rfl, hrest⟩ := h'.2.1.unique h.2.1 hback
      rw [ih h.2.2 h'.2.2 hrest]

/-! ## Some scan is exact -/

theorem exists_exact_scan (s : List Char) : ∃ scan : Scan, scan.text = s ∧ scan.Exact := by
  fun_induction predicates s with
  | case1 => exact ⟨.rest [], rfl, by simp [Scan.Exact, NoneFits]⟩
  | case2 a s p after hread ih =>
    obtain ⟨scan, rfl, hscan⟩ := ih
    obtain ⟨r, hbest, -, hs⟩ := readPredicate_eq_some hread
    refine ⟨.found [] r scan, hs.symm, ?_, hbest, hscan⟩
    simp [NoneFits]
  | case3 a s hread ih =>
    obtain ⟨scan, rfl, hscan⟩ := ih
    cases scan with
    | rest gap =>
      refine ⟨.rest (a :: gap), rfl, noneFits_cons.mpr ⟨?_, hscan⟩⟩
      rw [List.append_nil]
      exact hread
    | found gap r scan =>
      exact ⟨.found (a :: gap) r scan, rfl, noneFits_cons.mpr ⟨hread, hscan.1⟩, hscan.2⟩

/-! ## The law -/

/-- A text is scanned for conditions exactly in one way, and they are those that the scan finds.
Each of them is whole at its place, and there are none in the gaps. -/
theorem conditions_are_found_in_one_way (s : List Char) :
    ∃ scan : Scan, (scan.text = s ∧ scan.Exact) ∧ predicates s = scan.conditions ∧
      (∀ other : Scan, other.text = s → other.Exact → other = scan) ∧
      (∀ p ∈ scan.places [], p.Whole s) ∧ ∀ gap ∈ scan.gaps, predicates gap = [] := by
  obtain ⟨scan, rfl, hscan⟩ := exists_exact_scan s
  refine ⟨scan, ⟨rfl, hscan⟩, hscan.conditions_eq, ?_, ?_, hscan.gaps_blank⟩
  · intro other hother hexact
    exact hexact.unique hscan hother
  · intro p hp
    exact hscan.places_whole (fun _ => by simp [Stops]) p hp

end CompanySearch.Query
