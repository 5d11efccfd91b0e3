-- Looking for a text by quoting it. The query `field:"text"` finds the records whose field holds
-- the text, exactly if the text has no connector word between blanks: it would be cut there.
import CompanySearch.Proofs.Query.RoundTrip
import CompanySearch.Proofs.Selection
import CompanySearch.Proofs.Text.Lowercase
import Mathlib.Algebra.Order.BigOperators.Group.List
import Mathlib.Algebra.Order.Group.Nat

namespace CompanySearch.Query

open Text

/-! ## The question and its answer -/

/-- The query that asks for a text in a field. -/
def quotedQuery (field text : String) : String := field ++ ":\"" ++ text ++ "\""

/-- The field of the record holds the text, in whatever case, or a number that is written so. -/
def Holds (field text : String) (r : Record) : Prop :=
  match r.value? field with
  | some (.text s) => lowercase s = lowercase text
  | some (.integer n) => (Scalar.integer n).display = text
  | some (.decimal d) => (Scalar.decimal d).display = text
  | some .null | none => False

/-- Among any records, quoting the text finds each whose field is the text, and none whose field
does not hold it. -/
def Findable (field text : String) : Prop :=
  ∀ (records : List Record) (r : Record), r ∈ records → r.value? field = some (.text text) →
    r ∈ select records (parse (quotedQuery field text)) ∧
      ∀ found ∈ select records (parse (quotedQuery field text)), Holds field text found

def asked (field text : String) : Predicate := ⟨field, .colon, text⟩

theorem writes_quotedQuery (field text : String) :
    WritesCondition (asked field text) (quotedQuery field text).toList := by
  refine ⟨[], [], by decide, by decide, ?_⟩
  simp [quotedQuery, asked, Operator.symbol, String.toList_append]

theorem satisfies_asked (field text : String) (r : Record) :
    satisfies r (asked field text) = true ↔ Holds field text r := by
  unfold satisfies Holds asked
  cases h : r.value? field with
  | none => simp
  | some actual =>
    cases actual with
    | null => simp [Record.value?, Option.filter_eq_some_iff, Scalar.isNull] at h
    | integer n => simp [comparedText, comparedQuery, Scalar.isText]
    | decimal d => simp [comparedText, comparedQuery, Scalar.isText]
    | text s => simp [comparedText, comparedQuery, Scalar.isText]

/-! ## A text without connector words -/

theorem trimmed_quotedQuery {field text : String} (h : (asked field text).Writable) :
    trimmed (quotedQuery field text).toList = (quotedQuery field text).toList := by
  obtain ⟨more, hmore, -⟩ := (writes_quotedQuery field text).front []
  rw [List.append_nil] at hmore
  have hstop : Stops isBlank (quotedQuery field text).toList := hmore ▸ stops_field h more
  have hend : Stops isBlank (quotedQuery field text).toList.reverse := by
    simp only [quotedQuery, String.toList_append, List.reverse_append]
    exact stops_cons.mpr (by decide)
  have hnone : Blanks [] := by decide
  rw [← List.append_nil (quotedQuery field text).toList] at hstop
  have htrim := trimmed_of_blanks hnone hstop hnone hend
  simpa using htrim

theorem parse_quotedQuery {field text : String} (h : (asked field text).Writable) :
    parse (quotedQuery field text) =
      (pieces (quotedQuery field text).toList).map Piece.toClause := by
  have hne : trimmed (quotedQuery field text).toList ≠ [] := by
    rw [trimmed_quotedQuery h]
    simp [quotedQuery, String.toList_append]
  rw [parse_of_trimmed_ne_nil hne, trimmed_quotedQuery h]

theorem parse_quotedQuery_of_uncut {field text : String} (h : (asked field text).Writable)
    (hfree : ¬ HasConnector text.toList) :
    parse (quotedQuery field text) = [⟨[asked field text], none⟩] := by
  have hwrites := writes_quotedQuery field text
  have hread := predicates_written h hwrites []
  rw [List.append_nil] at hread
  rw [parse_quotedQuery h, pieces_of_uncut (uncut_of_condition h hfree hwrites [])]
  simp [Piece.toClause, hread, predicates]

theorem meets_single (r : Record) (c : Clause) :
    Meets r [c] ↔ ∀ p ∈ c.predicates, satisfies r p = true := by
  have hgroups : groups [c] = [[c]] := rfl
  simp [Meets, hgroups]

theorem findable_of_no_connector {field text : String} (h : (asked field text).Writable)
    (hfree : ¬ HasConnector text.toList) : Findable field text := by
  intro records r hr hvalue
  have hmem (found : Record) : found ∈ select records (parse (quotedQuery field text)) ↔
      found ∈ records ∧ Holds field text found := by
    rw [parse_quotedQuery_of_uncut h hfree, mem_select, meets_single, ← satisfies_asked]
    simp
  refine ⟨(hmem r).mpr ⟨hr, ?_⟩, fun found hfound => ((hmem found).mp hfound).2⟩
  unfold Holds
  rw [hvalue]

/-! ## A text with a connector word -/

/-- A delimiter takes up room: a connector word of two letters or more, and a blank on each side. -/
theorem Delimiter.length_le {c : Connector} {d : List Char} (h : Delimiter c d) : 4 ≤ d.length := by
  obtain ⟨before, word, after, rfl, hbefore, hword, hafter⟩ := h
  have hb := List.length_pos_iff.mpr hbefore.1
  have ha := List.length_pos_iff.mpr hafter.1
  have hw : 2 ≤ word.length := by
    rw [hword.length]
    cases c <;> decide
  simp only [List.length_append]
  omega

theorem pieces_ne_nil (s : List Char) : pieces s ≠ [] := by
  fun_induction pieces s with
  | case1 => simp
  | case2 => simp
  | case3 a s h ih =>
    obtain ⟨p, ps, hp⟩ := List.exists_cons_of_ne_nil ih
    simp [hp, consChar]

/-- The pieces and the delimiters between them share the room of the whole text. -/
theorem lowerLength_pieces (s : List Char) :
    ((pieces s).map fun p => lowerLength p.chars).sum + 4 * ((pieces s).length - 1) ≤
      lowerLength s := by
  fun_induction pieces s with
  | case1 => simp [lowerLength]
  | case2 a s c after h ih =>
    obtain ⟨d, hd, hs, -⟩ := readDelimiter_eq_some h
    have hlen := List.length_pos_iff.mpr (pieces_ne_nil after)
    have hroom := Nat.le_trans hd.length_le (length_le_lowerLength d)
    rw [hs, lowerLength_append, List.map_cons, List.sum_cons, List.length_cons]
    simp only [lowerLength, List.map_nil, List.sum_nil] at *
    omega
  | case3 a s h ih =>
    obtain ⟨p, ps, hp⟩ := List.exists_cons_of_ne_nil (pieces_ne_nil s)
    rw [hp] at ih ⊢
    simp only [consChar, List.map_cons, List.sum_cons, List.length_cons, lowerLength_cons] at ih ⊢
    omega

/-- A text with a connector word in it is cut. -/
theorem two_le_pieces {s : List Char} (h : HasConnector s) : 2 ≤ (pieces s).length := by
  fun_induction pieces s with
  | case1 => simp [HasConnector] at h
  | case2 a s c after hread ih =>
    have hlen := List.length_pos_iff.mpr (pieces_ne_nil after)
    rw [List.length_cons]
    omega
  | case3 a s hread ih =>
    obtain ⟨p, ps, hp⟩ := List.exists_cons_of_ne_nil (pieces_ne_nil s)
    have hlen := ih ((hasConnector_cons.mp h).resolve_left (by simp [hread]))
    rw [hp] at hlen ⊢
    simpa [consChar] using hlen

/-- A condition that is read from a text takes its field, its value and a sign from it. -/
theorem lowerLength_predicates {s : List Char} {p : Predicate} (h : p ∈ predicates s) :
    lowerLength p.field.toList + 1 + lowerLength p.value.toList ≤ lowerLength s := by
  fun_induction predicates s with
  | case1 => simp at h
  | case2 a s q after hread ih =>
    have hparts := lowerLength_le_of_sublist (readPredicate_sublist hread)
    simp only [lowerLength_append] at hparts
    rcases List.mem_cons.mp h with rfl | hmem
    · have hsign : 1 ≤ lowerLength p.operator.symbol.toList :=
        Nat.le_trans (by cases p.operator <;> decide) (length_le_lowerLength _)
      omega
    · have hlater := ih hmem
      omega
  | case3 a s hread ih =>
    have hlater := ih h
    rw [lowerLength_cons]
    omega

theorem HasConnector.quotedQuery {text : String} (h : HasConnector text.toList) (field : String) :
    HasConnector (quotedQuery field text).toList := by
  obtain ⟨front, a, word, b, back, c, htext, ha, hword, hb⟩ := h
  refine ⟨field.toList ++ [':', '"'] ++ front, a, word, b, back ++ ['"'], c, ?_, ha, hword, hb⟩
  simp [Query.quotedQuery, String.toList_append, htext]

/-- Once the text is cut, no condition on the field has a value with as much room as the text. -/
theorem lowerLength_lt_of_cut {field text : String} (h : (asked field text).Writable)
    (hcut : HasConnector text.toList) {c : Clause} (hc : c ∈ parse (quotedQuery field text))
    {p : Predicate} (hp : p ∈ c.predicates) (hfield : p.field = field) :
    lowerLength p.value.toList < lowerLength text.toList := by
  rw [parse_quotedQuery h] at hc
  obtain ⟨piece, hpiece, rfl⟩ := List.mem_map.mp hc
  have hroom := lowerLength_pieces (quotedQuery field text).toList
  have htwo := two_le_pieces (hcut.quotedQuery field)
  have hone : lowerLength piece.chars ≤
      ((pieces (quotedQuery field text).toList).map fun p => lowerLength p.chars).sum :=
    List.le_sum_of_mem (List.mem_map_of_mem hpiece)
  have hpred := lowerLength_predicates hp
  have hquery : lowerLength (quotedQuery field text).toList =
      lowerLength field.toList + 2 + lowerLength text.toList + 1 := by
    have hopen : lowerLength ":\"".toList = 2 := by decide
    have hclose : lowerLength "\"".toList = 1 := by decide
    simp only [quotedQuery, String.toList_append, lowerLength_append, hopen, hclose]
  rw [hfield] at hpred
  omega

theorem occursIn_append {part s : List Char} (h : occursIn part s = true) (t : List Char) :
    occursIn part (s ++ t) = true := by
  induction s with
  | nil =>
    have hpart : part = [] := by simpa [occursIn] using h
    subst hpart
    cases t <;> rfl
  | cons a s ih =>
    rw [occursIn, Bool.or_eq_true] at h
    rw [List.cons_append, occursIn, Bool.or_eq_true]
    rcases h with hfront | hlater
    · obtain ⟨tail, htail⟩ := List.isPrefixOf_iff_prefix.mp hfront
      refine .inl (List.isPrefixOf_iff_prefix.mpr ⟨tail ++ t, ?_⟩)
      rw [← List.append_assoc, htail, List.cons_append]
    · exact .inr (ih hlater)

theorem trimmed_space (s : List Char) : trimmed (s ++ [' ']) = trimmed s := by
  have hspace : isBlank ' ' = true := by decide
  unfold trimmed
  rw [List.dropWhile_append]
  split
  · rename_i hempty
    rw [List.isEmpty_iff.mp hempty]
    simp [hspace]
  · simp [hspace]

/-- The record with this one field. -/
def lone (field text : String) : Record := ⟨[(field, .text text)]⟩

theorem value?_lone (field text name : String) :
    (lone field text).value? name = if field = name then some (.text text) else none := by
  unfold lone Record.value? Record.get?
  by_cases h : field = name
  · simp [h, Option.filter, Scalar.isNull]
  · simp [h, Option.filter]

/-- A condition that a text satisfies, but not for being equal to it, it still satisfies with a
space behind it. -/
theorem satisfies_lone_space {field text : String} {p : Predicate}
    (hlt : p.field = field → lowerLength p.value.toList < lowerLength text.toList)
    (h : satisfies (lone field text) p = true) :
    satisfies (lone field (text ++ " ")) p = true := by
  unfold satisfies at h ⊢
  rw [value?_lone] at h ⊢
  by_cases hfield : field = p.field
  · have hnumber : (Scalar.text (text ++ " ")).toBinary64? = (Scalar.text text).toBinary64? := by
      simp only [Scalar.toBinary64?, String.toList_append]
      rw [show " ".toList = [' '] from rfl, trimmed_space]
    have hne : lowercase text ≠ lowercase p.value := by
      intro heq
      have hlen := hlt hfield.symm
      rw [← length_lowercase, ← length_lowercase, heq] at hlen
      omega
    rw [if_pos hfield] at h ⊢
    simp only [comparedText, comparedQuery, Scalar.isText, comparesAs, hnumber] at h ⊢
    cases hop : p.operator with
    | equals => simp [hop, hne] at h
    | colon => simp [hop, hne] at h
    | contains =>
      simp only [hop, if_true] at h
      rw [lowercase_space]
      exact occursIn_append h [' ']
    | _ =>
      simp only [hop] at h
      exact h
  · rw [if_neg hfield] at h
    contradiction

/-- Beside a record with the cut text, one with a space behind it is found as well. -/
theorem not_findable_of_connector {field text : String} (h : (asked field text).Writable)
    (hcut : HasConnector text.toList) : ¬ Findable field text := by
  intro findable
  have hvalue : (lone field text).value? field = some (.text text) := by simp [value?_lone]
  obtain ⟨hfound, honly⟩ := findable [lone field text, lone field (text ++ " ")] (lone field text)
    List.mem_cons_self hvalue
  have hmeets := ((mem_select _ _ _).mp hfound).2
  have hmeets' : Meets (lone field (text ++ " ")) (parse (quotedQuery field text)) := by
    intro g hg
    obtain ⟨c, hc, hall⟩ := hmeets g hg
    refine ⟨c, hc, fun p hp => satisfies_lone_space (fun hfield => ?_) (hall p hp)⟩
    have hmem : c ∈ (groups (parse (quotedQuery field text))).flatten :=
      List.mem_flatten.mpr ⟨g, hg, hc⟩
    rw [groups, List.flatten_splitBy] at hmem
    exact lowerLength_lt_of_cut h hcut hmem hp hfield
  have hholds := honly _ ((mem_select _ _ _).mpr ⟨by simp, hmeets'⟩)
  unfold Holds at hholds
  rw [value?_lone, if_pos rfl] at hholds
  have hlen := congrArg (fun s => s.toList.length) hholds
  rw [lowercase_space] at hlen
  simp at hlen

/-! ## The law -/

/-- Quoting makes a text findable exactly if no connector word stands in it between blanks. -/
theorem quoting_finds_a_text_unless_it_is_cut {field text : String}
    (h : (asked field text).Writable) : Findable field text ↔ ¬ HasConnector text.toList :=
  ⟨fun findable hcut => not_findable_of_connector h hcut findable, findable_of_no_connector h⟩

theorem a_name_that_ends_in_and_is_findable : Findable "name" "Rex and" :=
  (quoting_finds_a_text_unless_it_is_cut ⟨by decide, by decide, by decide, by decide⟩).mpr
    (by decide)

/-- Not every text is findable: this name is cut in two. -/
theorem a_name_with_and_inside_is_not_findable :
    ¬ ∀ field text : String, (asked field text).Writable → Findable field text := by
  intro claim
  have h : (asked "name" "Research and Development").Writable :=
    ⟨by decide, by decide, by decide, by decide⟩
  exact not_findable_of_connector h (by decide) (claim _ _ h)

end CompanySearch.Query
