-- Conditions as a query writes them, with the value between quotes. Reading one back gives the
-- condition, and leaves the text behind its closing quote.
import CompanySearch.Proofs.Query.Delimiters

namespace CompanySearch

open Text

/-- A condition that can be written down: its field is a run of word characters, and its value has
no quote in it. Neither is empty. -/
structure Predicate.Writable (p : Predicate) : Prop where
  field_ne : p.field.toList ≠ []
  field_word : ∀ c ∈ p.field.toList, isWord c = true
  value_ne : p.value.toList ≠ []
  value_unquoted : '"' ∉ p.value.toList

namespace Query

/-- The text writes the condition: the field, the sign of the operator and the value between
quotes, with blanks on either side of the sign or without. -/
def WritesCondition (p : Predicate) (s : List Char) : Prop :=
  ∃ w w', Blanks w ∧ Blanks w' ∧
    s = p.field.toList ++ w ++ p.operator.symbol.toList ++ w' ++ '"' :: p.value.toList ++ ['"']

/-! ## What ends a run -/

/-- What blanks stop, blanks in front of a text stop as well. -/
theorem stops_of_blanks {p : Char → Bool} (hp : ∀ c, isBlank c = true → p c = false)
    {w s : List Char} (hw : Blanks w) (hs : Stops p s) : Stops p (w ++ s) := by
  cases w with
  | nil => exact hs
  | cons a w => exact stops_cons.mpr (hp a (hw a List.mem_cons_self))

theorem stops_symbol {p : Char → Bool} (hp : ∀ c ∈ ['>', '<', ':', '=', '~'], p c = false)
    (op : Operator) (s : List Char) : Stops p (op.symbol.toList ++ s) := by
  cases op <;> exact stops_cons.mpr (hp _ (by decide))

theorem symbol_not_isWord : ∀ c ∈ ['>', '<', ':', '=', '~'], isWord c = false := by decide

theorem symbol_not_isBlank : ∀ c ∈ ['>', '<', ':', '=', '~'], isBlank c = false := by decide

/-! ## Values -/

theorem readBare_quoted {v : List Char} (hne : v ≠ []) (hquote : '"' ∉ v) (rest : List Char) :
    readBare (v ++ '"' :: rest) = some (v, rest) := by
  have hall : ∀ c ∈ v, (fun c => !isQuote c) c = true := by
    intro c hc
    have hcq : c ≠ '"' := fun h => hquote (h ▸ hc)
    simp [isQuote, hcq]
  have hstop : Stops (fun c => !isQuote c) ('"' :: rest) := stops_cons.mpr (by decide)
  unfold readBare
  rw [takeWhile_run hall hstop, dropWhile_run hall hstop]
  simp [hne, dropQuote]

/-- As many blanks as possible are tried first, and behind them stands the quote. -/
theorem readValue_quoted {w v : List Char} (hw : Blanks w) (hne : v ≠ []) (hquote : '"' ∉ v)
    (rest : List Char) : readValue (w ++ '"' :: v ++ '"' :: rest) = some (v, rest) := by
  have hstop : Stops isBlank ('"' :: v ++ '"' :: rest) := stops_cons.mpr (by decide)
  have hread : readAfterBlanks ('"' :: v ++ '"' :: rest) = some (v, rest) := by
    rw [← readBare_quoted hne hquote rest]
    rfl
  unfold readValue
  simp only [List.append_assoc, takeWhile_run hw hstop]
  rw [List.range_succ, List.reverse_concat, List.findSome?_cons, List.drop_left, hread]

/-- A value and what follows it stand in the text in this order. -/
theorem readBare_sublist {s value rest : List Char} (h : readBare s = some (value, rest)) :
    (value ++ rest).Sublist s := by
  unfold readBare at h
  simp only at h
  split at h
  · contradiction
  · cases h
    have hdrop (t : List Char) : (dropQuote t).Sublist t := by
      unfold dropQuote
      split
      · exact List.sublist_cons_self _ _
      · exact List.Sublist.refl _
    have hparts := (hdrop (s.dropWhile fun c => !isQuote c)).append_left
      (s.takeWhile fun c => !isQuote c)
    rwa [List.takeWhile_append_dropWhile] at hparts

theorem readValue_sublist {s value rest : List Char} (h : readValue s = some (value, rest)) :
    (value ++ rest).Sublist s := by
  unfold readValue at h
  obtain ⟨k, -, hk⟩ := List.exists_of_findSome?_eq_some h
  refine List.Sublist.trans ?_ (List.drop_sublist k s)
  unfold readAfterBlanks at hk
  split at hk
  · rename_i tail hs
    rw [hs]
    exact (readBare_sublist hk).trans (List.sublist_cons_self _ _)
  · exact readBare_sublist hk

/-! ## Operators -/

/-- The sign in front is tried first, unless an equality sign behind it makes it a longer one. -/
theorem readOperators_symbol (op : Operator) {s : List Char} (h : Stops (· == '=') s) :
    ∃ more, readOperators (op.symbol.toList ++ s) = (op, s) :: more := by
  have hlonger (c : Char) : [c, '='].isPrefixOf (c :: s) = false := by
    cases s with
    | nil => simp
    | cons a s =>
      have ha : a ≠ '=' := by simpa [stops_cons] using h
      simp [List.isPrefixOf, ha.symm]
  unfold readOperators Operator.all
  cases op with
  | greaterThan =>
    refine ⟨_, (List.filterMap_cons_none ?_).trans rfl⟩
    exact if_neg (Bool.eq_false_iff.mp (hlonger '>'))
  | lessThan =>
    refine ⟨_, (List.filterMap_cons_none rfl).trans ((List.filterMap_cons_none ?_).trans rfl)⟩
    exact if_neg (Bool.eq_false_iff.mp (hlonger '<'))
  | _ => exact ⟨_, rfl⟩

theorem eq_of_mem_readOperators {s rest : List Char} {op : Operator}
    (h : (op, rest) ∈ readOperators s) : s = op.symbol.toList ++ rest := by
  unfold readOperators at h
  obtain ⟨op', -, hop⟩ := List.mem_filterMap.mp h
  split at hop
  · rename_i hprefix
    obtain ⟨tail, rfl⟩ := List.isPrefixOf_iff_prefix.mp hprefix
    cases hop
    rw [List.drop_left]
  · contradiction

/-! ## Conditions -/

/-- What a condition is made of stands in the text in this order, and what follows is left over. -/
theorem readPredicate_sublist {s rest : List Char} {p : Predicate}
    (h : readPredicate s = some (p, rest)) :
    (p.field.toList ++ p.operator.symbol.toList ++ p.value.toList ++ rest).Sublist s := by
  unfold readPredicate at h
  simp only at h
  split at h
  · contradiction
  · obtain ⟨⟨op, tail⟩, hop, hfound⟩ := List.exists_of_findSome?_eq_some h
    obtain ⟨⟨value, rest'⟩, hvalue, heq⟩ := Option.map_eq_some_iff.mp hfound
    cases heq
    have hblanks := List.dropWhile_sublist isBlank (l := s.dropWhile isWord)
    rw [eq_of_mem_readOperators hop] at hblanks
    have hrest : (op.symbol.toList ++ (value ++ rest')).Sublist (s.dropWhile isWord) :=
      ((readValue_sublist hvalue).append_left op.symbol.toList).trans hblanks
    have hall := hrest.append_left (s.takeWhile isWord)
    rw [List.takeWhile_append_dropWhile] at hall
    simpa [String.toList_ofList] using hall

theorem readPredicate_written {p : Predicate} (hp : p.Writable) {s : List Char}
    (hs : WritesCondition p s) (rest : List Char) : readPredicate (s ++ rest) = some (p, rest) := by
  obtain ⟨w, w', hw, hw', rfl⟩ := hs
  have hvalue := readValue_quoted hw' hp.value_ne hp.value_unquoted rest
  have hequal : Stops (· == '=') (w' ++ '"' :: p.value.toList ++ '"' :: rest) := by
    rw [List.append_assoc]
    refine stops_of_blanks ?_ hw' (stops_cons.mpr (by decide))
    intro c hc
    have hne : c ≠ '=' := by
      rintro rfl
      exact absurd hc (by decide)
    simpa using hne
  obtain ⟨more, hop⟩ := readOperators_symbol p.operator hequal
  have hsign := stops_symbol symbol_not_isBlank p.operator
    (w' ++ '"' :: p.value.toList ++ '"' :: rest)
  have hword := stops_of_blanks (fun c => not_isWord_of_isBlank) hw
    (stops_symbol symbol_not_isWord p.operator (w' ++ '"' :: p.value.toList ++ '"' :: rest))
  have hassoc : p.field.toList ++ w ++ p.operator.symbol.toList ++ w' ++ '"' :: p.value.toList ++
      ['"'] ++ rest = p.field.toList ++ (w ++ (p.operator.symbol.toList ++
        (w' ++ '"' :: p.value.toList ++ '"' :: rest))) := by
    simp
  unfold readPredicate
  simp only [hassoc, takeWhile_run hp.field_word hword, dropWhile_run hp.field_word hword,
    dropWhile_run hw hsign, hop, List.findSome?_cons, hvalue, Option.map_some]
  simp [hp.field_ne, String.ofList_toList]

theorem predicates_of_some {s rest : List Char} {p : Predicate}
    (h : readPredicate s = some (p, rest)) : predicates s = p :: predicates rest := by
  cases s with
  | nil => simp [readPredicate] at h
  | cons a s =>
    rw [predicates]
    split
    · rename_i heq
      rw [h] at heq
      cases heq
      rfl
    · rename_i heq
      rw [h] at heq
      contradiction

theorem predicates_of_none {a : Char} {s : List Char} (h : readPredicate (a :: s) = none) :
    predicates (a :: s) = predicates s := by
  rw [predicates]
  split
  · rename_i heq
    rw [h] at heq
    contradiction
  · rfl

/-- No condition begins with a character that cannot be part of a field. -/
theorem readPredicate_of_not_isWord {a : Char} (h : isWord a = false) (s : List Char) :
    readPredicate (a :: s) = none := by
  unfold readPredicate
  simp [h]

theorem predicates_blanks {w : List Char} (hw : Blanks w) (s : List Char) :
    predicates (w ++ s) = predicates s := by
  induction w with
  | nil => rfl
  | cons a w ih =>
    have hnone := readPredicate_of_not_isWord (not_isWord_of_isBlank (hw a List.mem_cons_self))
      (w ++ s)
    rw [List.cons_append, predicates_of_none hnone,
      ih fun c hc => hw c (List.mem_cons_of_mem a hc)]

theorem predicates_written {p : Predicate} (hp : p.Writable) {s : List Char}
    (hs : WritesCondition p s) (rest : List Char) :
    predicates (s ++ rest) = p :: predicates rest :=
  predicates_of_some (readPredicate_written hp hs rest)

end Query

end CompanySearch
