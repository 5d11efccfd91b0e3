-- Writing a query and reading it back. However the conditions are spaced and the connectors are
-- spelled, a query that writes a list of clauses is read as that list.
import CompanySearch.Proofs.Query.Conditions

namespace CompanySearch

open Text

/-- No word of the condition can be taken for a connector: the field is none, and none stands
between blanks in the value. -/
structure Predicate.Unmistakable (p : Predicate) : Prop where
  field : ∀ c : Connector, ¬ c.NamedBy p.field.toList
  value : ¬ Query.HasConnector p.value.toList

namespace Query

/-! ## Writing -/

/-- The text writes the conditions in turn, with blanks between them or without. -/
inductive WritesConditions : List Predicate → List Char → Prop
  | last {p : Predicate} {s : List Char} : WritesCondition p s → WritesConditions [p] s
  | cons {p : Predicate} {ps : List Predicate} {s w t : List Char} : WritesCondition p s →
      Blanks w → WritesConditions ps t → WritesConditions (p :: ps) (s ++ w ++ t)

/-- The text writes the clauses in turn, each but the last with its connector behind it. -/
inductive WritesClauses : List Clause → List Char → Prop
  | last {ps : List Predicate} {s : List Char} : WritesConditions ps s →
      WritesClauses [⟨ps, none⟩] s
  | cons {ps : List Predicate} {c : Connector} {rest : List Clause} {s d t : List Char} :
      WritesConditions ps s → Delimiter c d → WritesClauses rest t →
      WritesClauses (⟨ps, some c⟩ :: rest) (s ++ d ++ t)

/-- The query writes the clauses, with blanks at its ends or without. -/
def Writes (clauses : List Clause) (query : String) : Prop :=
  ∃ w s w', Blanks w ∧ WritesClauses clauses s ∧ Blanks w' ∧ query.toList = w ++ s ++ w'

/-- Clauses that can be written: there are some, each has conditions that can be written and
mistaken for nothing else, and each but the last is joined to the next one. -/
structure Writable (clauses : List Clause) : Prop where
  ne : clauses ≠ []
  predicates_ne : ∀ c ∈ clauses, c.predicates ≠ []
  predicates : ∀ c ∈ clauses, ∀ p ∈ c.predicates, p.Writable ∧ p.Unmistakable
  joined : ∀ c ∈ clauses.dropLast, c.connector ≠ none
  last : ∀ c ∈ clauses.getLast?, c.connector = none

/-! ## Whatever can be written -/

theorem exists_writesConditions {ps : List Predicate} (h : ps ≠ []) :
    ∃ s, WritesConditions ps s := by
  have hone (p : Predicate) : ∃ s, WritesCondition p s :=
    ⟨_, [], [], by simp [Blanks], by simp [Blanks], rfl⟩
  induction ps with
  | nil => contradiction
  | cons p ps ih =>
    obtain ⟨s, hs⟩ := hone p
    cases ps with
    | nil => exact ⟨s, .last hs⟩
    | cons q ps =>
      obtain ⟨t, ht⟩ := ih (List.cons_ne_nil q ps)
      exact ⟨_, .cons hs (w := []) (by simp [Blanks]) ht⟩

theorem exists_delimiter (c : Connector) : ∃ d, Delimiter c d := by
  refine ⟨_, [' '], c.word, [' '], rfl, ⟨by simp, ?_⟩, ?_, by simp, ?_⟩
  · simp [Blanks]
    decide
  · cases c <;> decide
  · simp [Blanks]
    decide

theorem exists_writesClauses {clauses : List Clause} (h : Writable clauses) :
    ∃ s, WritesClauses clauses s := by
  induction clauses with
  | nil => exact absurd rfl h.ne
  | cons c rest ih =>
    obtain ⟨s, hs⟩ := exists_writesConditions (h.predicates_ne c List.mem_cons_self)
    obtain ⟨ps, connector⟩ := c
    cases rest with
    | nil =>
      have hnone : connector = none := h.last _ rfl
      subst hnone
      exact ⟨s, .last hs⟩
    | cons next rest =>
      obtain ⟨c, rfl⟩ := Option.ne_none_iff_exists'.mp (h.joined ⟨ps, connector⟩ (by simp))
      obtain ⟨d, hd⟩ := exists_delimiter c
      obtain ⟨t, ht⟩ := ih
        ⟨List.cons_ne_nil next rest, fun c hc => h.predicates_ne c (List.mem_cons_of_mem _ hc),
          fun c hc => h.predicates c (List.mem_cons_of_mem _ hc),
          fun c hc => h.joined c (by simpa using .inr hc), fun c hc => h.last c (by simpa using hc)⟩
      exact ⟨_, .cons hs hd ht⟩

/-! ## No cut inside a clause -/

/-- A written condition begins with its field, which ends there. -/
theorem WritesCondition.front {p : Predicate} {s : List Char} (h : WritesCondition p s)
    (back : List Char) : ∃ more, s ++ back = p.field.toList ++ more ∧ Stops isWord more := by
  obtain ⟨w, w', hw, -, rfl⟩ := h
  refine ⟨w ++ (p.operator.symbol.toList ++ (w' ++ '"' :: p.value.toList ++ ['"'] ++ back)),
    by simp, ?_⟩
  exact stops_of_blanks (fun c => not_isWord_of_isBlank) hw (stops_symbol symbol_not_isWord _ _)

theorem WritesConditions.front {ps : List Predicate} {s : List Char} (h : WritesConditions ps s)
    (back : List Char) :
    ∃ p ∈ ps, ∃ more, s ++ back = p.field.toList ++ more ∧ Stops isWord more := by
  cases h with
  | @last p s hs =>
    exact ⟨p, List.mem_cons_self, hs.front back⟩
  | @cons p ps s w t hs hw ht =>
    refine ⟨p, List.mem_cons_self, ?_⟩
    rw [List.append_assoc, List.append_assoc]
    exact hs.front (w ++ (t ++ back))

theorem stops_field {p : Predicate} (hp : p.Writable) (more : List Char) :
    Stops isBlank (p.field.toList ++ more) := by
  obtain ⟨a, field, hfield⟩ := List.exists_cons_of_ne_nil hp.field_ne
  rw [hfield, List.cons_append, stops_cons]
  exact not_isBlank_of_isWord (hp.field_word a (by simp [hfield]))

/-- A condition is not cut, unless there is a connector word in its value. -/
theorem uncut_of_condition {p : Predicate} (hp : p.Writable)
    (hvalue : ¬ HasConnector p.value.toList) {s : List Char} (hs : WritesCondition p s)
    (back : List Char) : Uncut s back := by
  obtain ⟨w, w', hw, hw', rfl⟩ := hs
  have hsign : ∀ c ∈ p.operator.symbol.toList, isBlank c = false := by
    cases p.operator <;> decide
  have hfield : ∀ c ∈ p.field.toList, isBlank c = false :=
    fun c hc => not_isBlank_of_isWord (hp.field_word c hc)
  have hback := uncut_of_no_blank (s := ['"']) (by decide) back
  have hquoted : Uncut ('"' :: p.value.toList ++ ['"']) back := by
    refine Uncut.append (s := ['"'] ++ p.value.toList) (Uncut.append ?_ ?_) hback
    · exact uncut_of_no_blank (by decide) _
    · exact uncut_of_value hp.value_unquoted hvalue back
  -- What follows each run of blanks begins with a sign or a quote, and so with no connector word.
  have hblanks {w t : List Char} (hw : Blanks w) (hb : Stops isBlank t) (hn : Stops isWord t) :
      Uncut w t := uncut_of_blanks hw hb (not_startsConnector_of_stops hn)
  have hsigned : Uncut (p.operator.symbol.toList ++ (w' ++ ('"' :: p.value.toList ++ ['"'])))
      back := by
    refine (uncut_of_no_blank hsign _).append (Uncut.append ?_ hquoted)
    exact hblanks hw' (stops_cons.mpr (by decide)) (stops_cons.mpr (by decide))
  have hwhole : Uncut (p.field.toList ++ (w ++ (p.operator.symbol.toList ++
      (w' ++ ('"' :: p.value.toList ++ ['"']))))) back := by
    refine (uncut_of_no_blank hfield _).append (Uncut.append ?_ hsigned)
    rw [List.append_assoc]
    exact hblanks hw (stops_symbol symbol_not_isBlank _ _) (stops_symbol symbol_not_isWord _ _)
  simpa using hwhole

section conditions

variable {ps : List Predicate} {s : List Char} (hs : WritesConditions ps s)
include hs

theorem WritesConditions.stops (h : ∀ p ∈ ps, p.Writable) (back : List Char) :
    Stops isBlank (s ++ back) := by
  obtain ⟨p, hp, more, hmore, -⟩ := hs.front back
  rw [hmore]
  exact stops_field (h p hp) more

theorem WritesConditions.uncut (h : ∀ p ∈ ps, p.Writable ∧ p.Unmistakable) (back : List Char) :
    Uncut s back := by
  induction hs with
  | @last p s hs =>
    obtain ⟨hp, hfree⟩ := h p List.mem_cons_self
    exact uncut_of_condition hp hfree.value hs back
  | @cons p ps s w t hs hw ht ih =>
    obtain ⟨hp, hfree⟩ := h p List.mem_cons_self
    have hrest : ∀ q ∈ ps, q.Writable ∧ q.Unmistakable :=
      fun q hq => h q (List.mem_cons_of_mem p hq)
    refine Uncut.append (Uncut.append (uncut_of_condition hp hfree.value hs _) ?_) (ih hrest)
    refine uncut_of_blanks hw (ht.stops (fun q hq => (hrest q hq).1) back) ?_
    obtain ⟨q, hq, more, hmore, hstop⟩ := ht.front back
    rw [hmore]
    exact not_startsConnector_of_field (hrest q hq).1.field_word hstop (hrest q hq).2.field

theorem WritesConditions.predicates (h : ∀ p ∈ ps, p.Writable) : predicates s = ps := by
  induction hs with
  | @last p s hs =>
    have hread := predicates_written (h p List.mem_cons_self) hs []
    rw [List.append_nil] at hread
    rw [hread, Query.predicates]
  | @cons p ps s w t hs hw ht ih =>
    rw [List.append_assoc, predicates_written (h p List.mem_cons_self) hs,
      predicates_blanks hw, ih fun q hq => h q (List.mem_cons_of_mem p hq)]

/-- Written conditions end with a quote. -/
theorem WritesConditions.back : ∃ front, s = front ++ ['"'] := by
  induction hs with
  | last hs =>
    obtain ⟨w, w', -, -, rfl⟩ := hs
    exact ⟨_, rfl⟩
  | @cons p ps s w t hs hw ht ih =>
    obtain ⟨front, rfl⟩ := ih
    exact ⟨s ++ w ++ front, by simp⟩

end conditions

/-! ## Reading back -/

section clauses

variable {clauses : List Clause} {s : List Char} (hs : WritesClauses clauses s)
include hs

theorem WritesClauses.stops (h : ∀ c ∈ clauses, ∀ p ∈ c.predicates, p.Writable)
    (back : List Char) : Stops isBlank (s ++ back) := by
  cases hs with
  | last hs => exact hs.stops (h _ List.mem_cons_self) back
  | cons hs hd ht =>
    rw [List.append_assoc, List.append_assoc]
    exact hs.stops (h _ List.mem_cons_self) _

theorem WritesClauses.back : ∃ front, s = front ++ ['"'] := by
  induction hs with
  | last hs => exact hs.back
  | @cons ps c rest s d t hs hd ht ih =>
    obtain ⟨front, rfl⟩ := ih
    exact ⟨s ++ d ++ front, by simp⟩

theorem WritesClauses.pieces
    (h : ∀ c ∈ clauses, ∀ p ∈ c.predicates, p.Writable ∧ p.Unmistakable) :
    (pieces s).map Piece.toClause = clauses := by
  induction hs with
  | last hs =>
    have hps := h _ List.mem_cons_self
    rw [pieces_of_uncut (hs.uncut hps [])]
    simp [Piece.toClause, hs.predicates fun p hp => (hps p hp).1]
  | @cons ps c rest s d t hs hd ht ih =>
    have hps := h _ List.mem_cons_self
    have hrest := fun c hc => h c (List.mem_cons_of_mem _ hc)
    have hstop := ht.stops (fun c hc p hp => (hrest c hc p hp).1) []
    rw [List.append_nil] at hstop
    rw [List.append_assoc, pieces_append (hs.uncut hps (d ++ t)) (readDelimiter_append hd hstop),
      List.map_cons, ih hrest]
    simp [Piece.toClause, hs.predicates fun p hp => (hps p hp).1]

end clauses

theorem trimmed_of_blanks {w s w' : List Char} (hw : Blanks w) (hs : Stops isBlank (s ++ w'))
    (hw' : Blanks w') (hs' : Stops isBlank s.reverse) : trimmed (w ++ s ++ w') = s := by
  have hreverse : ∀ c ∈ w'.reverse, isBlank c = true := fun c hc => hw' c (List.mem_reverse.mp hc)
  unfold trimmed
  rw [List.append_assoc, dropWhile_run hw hs, List.reverse_append, dropWhile_run hreverse hs',
    List.reverse_reverse]

/-- Clauses that can be written are read back from every query that writes them, and there is such
a query. -/
theorem what_is_written_is_read_back {clauses : List Clause} (h : Writable clauses) :
    (∃ query, Writes clauses query) ∧ ∀ query, Writes clauses query → parse query = clauses := by
  constructor
  · obtain ⟨s, hs⟩ := exists_writesClauses h
    exact ⟨String.ofList s, [], s, [], by simp [Blanks], hs, by simp [Blanks],
      by simp [String.toList_ofList]⟩
  · rintro query ⟨w, s, w', hw, hs, hw', hquery⟩
    obtain ⟨front, hfront⟩ := hs.back
    have hstop := hs.stops (fun c hc p hp => (h.predicates c hc p hp).1) w'
    have hend : Stops isBlank s.reverse := by
      rw [hfront, List.reverse_concat]
      exact stops_cons.mpr (by decide)
    unfold parse
    rw [hquery, trimmed_of_blanks hw hstop hw' hend, ← hs.pieces h.predicates]
    split
    · simp at hfront
    · rfl

/-- Neither the blanks, nor the case of the connector, nor words in a value make a difference. -/
theorem a_written_query_is_read_back :
    parse "\tname : \"Ander and\"country=\"a>=b\"\n oR size>= \"or\" " =
      [⟨[⟨"name", .colon, "Ander and"⟩, ⟨"country", .equals, "a>=b"⟩], some .or⟩,
        ⟨[⟨"size", .greaterOrEqual, "or"⟩], none⟩] := by
  have hfirst : WritesConditions [⟨"name", .colon, "Ander and"⟩, ⟨"country", .equals, "a>=b"⟩]
      ("name : \"Ander and\"".toList ++ [] ++ "country=\"a>=b\"".toList) :=
    .cons ⟨[' '], [' '], by decide, by decide, by decide⟩ (by decide)
      (.last ⟨[], [], by decide, by decide, by decide⟩)
  have hsecond : WritesConditions [⟨"size", .greaterOrEqual, "or"⟩] "size>= \"or\"".toList :=
    .last ⟨[], [' '], by decide, by decide, by decide⟩
  have hor : Delimiter .or "\n oR ".toList :=
    ⟨"\n ".toList, "oR".toList, [' '], by decide, ⟨by decide, by decide⟩, by decide, by decide,
      by decide⟩
  refine (what_is_written_is_read_back ⟨by decide, by decide, ?_, by decide, by decide⟩).2 _
    ⟨['\t'], _, [' '], by decide, .cons hfirst hor (.last hsecond), by decide, by decide⟩
  intro c hc p hp
  simp only [List.mem_cons, List.not_mem_nil, or_false] at hc
  rcases hc with rfl | rfl
  · simp only [List.mem_cons, List.not_mem_nil, or_false] at hp
    rcases hp with rfl | rfl
    · exact ⟨⟨by decide, by decide, by decide, by decide⟩, fun c => by cases c <;> decide,
        by decide⟩
    · exact ⟨⟨by decide, by decide, by decide, by decide⟩, fun c => by cases c <;> decide,
        by decide⟩
  · rw [List.mem_singleton.mp hp]
    exact ⟨⟨by decide, by decide, by decide, by decide⟩, fun c => by cases c <;> decide,
      by decide⟩

end Query

end CompanySearch
