-- How much a condition takes. Its operator is the longest one at its place, and its value begins
-- behind all the blanks that follow and one quote, exactly if a value begins there. Where none
-- does, a blank is given back for a value, or the equality sign of the operator.
import CompanySearch.Proofs.Query.Extraction

namespace CompanySearch

/-- Of two signs, of which one begins with the other, the longer is tried first. -/
theorem Operator.eq_or_priority_lt {op op' : Operator}
    (h : op.symbol.toList <+: op'.symbol.toList) : op = op' ∨ op.priority < op'.priority := by
  revert h
  cases op <;> cases op' <;> decide

/-- A sign that another begins with lacks only the equality sign behind it. -/
theorem Operator.eq_or_shorter {op op' : Operator} (h : op.symbol.toList <+: op'.symbol.toList) :
    op = op' ∨ op.symbol.toList ++ ['='] = op'.symbol.toList := by
  revert h
  cases op <;> cases op' <;> decide

theorem Operator.symbol_inj {op op' : Operator} (h : op.symbol.toList = op'.symbol.toList) :
    op = op' := by
  revert h
  cases op <;> cases op' <;> decide

namespace Query

open Text

/-! ## Maximal munch -/

/-- No longer operator stands at the place of this one. -/
def Longest (op : Operator) (behind : List Char) : Prop :=
  ∀ op' : Operator, op'.symbol.toList <+: op.symbol.toList ++ behind →
    op'.symbol.toList.length ≤ op.symbol.toList.length

/-- The operator is the longest one there, and all the blanks behind it are taken. -/
structure Reading.Munched (r : Reading) (back : List Char) : Prop where
  operator : Longest r.operator (r.operand.text ++ back)
  blanks : Stops isBlank (quoteIf r.operand.opened ++
    (r.operand.value ++ (quoteIf r.operand.closed ++ back)))

/-- What leads up to a value: a field, blanks, an operator and blanks. -/
structure Lead where
  field : List Char
  blanks : List Char
  operator : Operator
  gap : List Char

namespace Lead

def text (l : Lead) : List Char :=
  l.field ++ (l.blanks ++ (l.operator.symbol.toList ++ l.gap))

theorem text_append (l : Lead) (rest : List Char) :
    l.text ++ rest =
      l.field ++ (l.blanks ++ (l.operator.symbol.toList ++ (l.gap ++ rest))) := by
  simp only [text, List.append_assoc]

/-- The text begins behind the longest operator at its place and all the blanks that follow it. -/
structure Reaches (l : Lead) (rest : List Char) : Prop where
  field_ne : l.field ≠ []
  field_word : ∀ c ∈ l.field, isWord c = true
  blanks : Blanks l.blanks
  operator : Longest l.operator (l.gap ++ rest)
  gap : Blanks l.gap
  stops : Stops isBlank rest

/-- What is read for an operator and a value where no value follows: the last of the blanks is one,
or else the equality sign of the operator. -/
def remnant (l : Lead) : Option (Operator × List Char) :=
  match l.gap.getLast?, l.operator with
  | some b, op => some (op, [b])
  | none, .greaterOrEqual => some (.greaterThan, ['='])
  | none, .lessOrEqual => some (.lessThan, ['='])
  | none, _ => none

end Lead

/-- The text begins with a lead behind which no value follows: nothing, or quotes with nothing
between them. -/
def Dangles (s : List Char) : Prop :=
  ∃ (l : Lead) (rest : List Char), s = l.text ++ rest ∧ l.Reaches rest ∧ Valueless (dropQuote rest)

/-! ## The longest operator -/

theorem Longest.eq {op op' : Operator} {behind behind' : List Char} (h : Longest op behind)
    (h' : Longest op' behind')
    (heq : op'.symbol.toList ++ behind' = op.symbol.toList ++ behind) : op' = op := by
  have hle := h op' (heq ▸ List.prefix_append _ _)
  have hge := h' op (heq ▸ List.prefix_append _ _)
  exact Operator.symbol_inj (List.append_inj heq (Nat.le_antisymm hle hge)).1

/-- The longest operator begins with any other one at its place. -/
theorem Longest.isPrefix {op op' : Operator} {behind behind' : List Char} (h : Longest op behind)
    (heq : op'.symbol.toList ++ behind' = op.symbol.toList ++ behind) :
    op'.symbol.toList <+: op.symbol.toList := by
  have hprefix : op'.symbol.toList <+: op.symbol.toList ++ behind := heq ▸ List.prefix_append _ _
  exact List.prefix_of_prefix_length_le hprefix (List.prefix_append _ _) (h op' hprefix)

/-- Where an operator stands there is a longest one. -/
theorem exists_longest (op : Operator) (behind : List Char) :
    ∃ op' behind', op.symbol.toList ++ behind = op'.symbol.toList ++ behind' ∧
      Longest op' behind' := by
  have hmem := mem_readOperators.mpr (rfl : op.symbol.toList ++ behind = _)
  cases hops : readOperators (op.symbol.toList ++ behind) with
  | nil => simp [hops] at hmem
  | cons first others =>
    obtain ⟨op', behind'⟩ := first
    have hfirst : (op', behind') ∈ readOperators (op.symbol.toList ++ behind) := by simp [hops]
    have heq := mem_readOperators.mp hfirst
    refine ⟨op', behind', heq, fun op'' hlonger => ?_⟩
    -- a longer one would be tried earlier, and this one is the first
    obtain ⟨tail, htail⟩ := hlonger
    have hin := mem_readOperators.mpr (heq.trans htail.symm)
    have hfall := operators_fall (op.symbol.toList ++ behind)
    rw [hops] at hin hfall
    rcases List.mem_cons.mp hin with hsame | hothers
    · cases hsame
      exact Nat.le_refl _
    · by_contra hlt
      have hprefix := List.prefix_of_prefix_length_le (List.prefix_append op'.symbol.toList behind')
        ⟨tail, htail⟩ (by omega)
      have hpriority := (List.pairwise_cons.mp hfall).1 _ hothers
      rcases Operator.eq_or_priority_lt hprefix with rfl | hgt
      · exact hlt (Nat.le_refl _)
      · exact Nat.lt_asymm hgt hpriority

/-! ## Where no value follows -/

/-- No operand takes all the blanks in front of a place where no value begins. -/
theorem Operand.Fits.blanks_lt {o : Operand} (h : o.Fits) {gap rest back : List Char}
    (hgap : Blanks gap) (hstops : Stops isBlank rest) (hnone : Valueless (dropQuote rest))
    (heq : o.text ++ back = gap ++ rest) : o.blanks.length < gap.length := by
  have hle := h.blanks_le back
  rw [heq, takeWhile_run hgap hstops] at hle
  refine Nat.lt_of_le_of_ne hle fun hlen => ?_
  rw [o.text_append] at heq
  obtain ⟨-, rfl⟩ := List.append_inj heq hlen
  rw [h.dropQuote_eq] at hnone
  exact not_valueless h.value_ne h.value_unquoted hnone

/-- Where no value follows, no reading is one of maximal munch. -/
theorem Reading.Munched.not_dangles {r : Reading} {back : List Char} (h : r.Munched back)
    (hr : r.Fits) : ¬ Dangles (r.text ++ back) := by
  rintro ⟨l, rest, heq, hl, hnone⟩
  rw [r.text_append, l.text_append] at heq
  obtain ⟨-, -, hrest⟩ := eq_of_fronts hl.field_word hl.blanks hr.field_word hr.blanks heq
  have hop := hl.operator.eq h.operator hrest
  rw [hop] at hrest
  have hsame := List.append_cancel_left hrest
  have hlt := hr.operand.blanks_lt hl.gap hl.stops hnone hsame
  rw [Operand.text_append] at hsame
  obtain ⟨hblanks, -⟩ := eq_of_runs hr.operand.blanks h.blanks hl.gap hl.stops hsame
  exact absurd hlt (by simp [hblanks])

/-! ## Where a value follows -/

/-- Every reading begins with a lead. -/
theorem Reading.Fits.exists_lead {r : Reading} (h : r.Fits) (back : List Char) :
    ∃ (l : Lead) (rest : List Char), r.text ++ back = l.text ++ rest ∧ l.Reaches rest := by
  obtain ⟨op, behind, heq, hop⟩ := exists_longest r.operator (r.operand.text ++ back)
  rw [← List.takeWhile_append_dropWhile (p := isBlank) (l := behind)] at heq hop
  refine ⟨⟨r.field, r.blanks, op, behind.takeWhile isBlank⟩, behind.dropWhile isBlank, ?_,
    h.field_ne, h.field_word, h.blanks, hop, fun c hc => List.mem_takeWhile_imp hc,
    stops_dropWhile isBlank behind⟩
  rw [r.text_append, Lead.text_append, heq]

/-- Where a value follows, the reading of maximal munch is the best. -/
theorem Lead.Reaches.exists_best {l : Lead} {rest : List Char} (h : l.Reaches rest)
    (hvalue : ¬ Valueless (dropQuote rest)) :
    ∃ (r : Reading) (back : List Char), r.Best back ∧ l.text ++ rest = r.text ++ back ∧
      r.Munched back := by
  have hread : readAfterBlanks rest ≠ none := by
    rwa [readAfterBlanks_eq, ne_eq, readBare_eq_none]
  obtain ⟨⟨value, back⟩, hread⟩ := Option.ne_none_iff_exists'.mp hread
  obtain ⟨opened, closed, hrest, hne, hquote, hend⟩ := readAfterBlanks_eq_some hread
  let o : Operand := ⟨l.gap, opened, value, closed⟩
  have ho : o.Fits := ⟨h.gap, hne, hquote⟩
  have htext : o.text ++ back = l.gap ++ rest := by
    rw [o.text_append, hrest]
  have hbest : o.Best back := by
    refine ho.best hend fun other back' hother heq => ?_
    have hle := hother.blanks_le back'
    rwa [heq, htext, takeWhile_run h.gap h.stops] at hle
  let r : Reading := ⟨l.field, l.blanks, l.operator, o⟩
  have hr : r.Fits := ⟨h.field_ne, h.field_word, h.blanks, ho⟩
  refine ⟨r, back, hr.best hbest fun other back' _ heq => ?_, ?_, ?_, hrest ▸ h.stops⟩
  · rw [htext] at heq
    exact Operator.eq_or_priority_lt (h.operator.isPrefix heq)
  · rw [r.text_append, l.text_append, htext]
  · rw [htext]
    exact h.operator

/-- A condition is read by maximal munch exactly if a value follows. -/
theorem Reading.Best.munched_iff {r : Reading} {back : List Char} (h : r.Best back) :
    r.Munched back ↔ ¬ Dangles (r.text ++ back) := by
  refine ⟨fun hmunched => hmunched.not_dangles h.fits, fun hnot => ?_⟩
  obtain ⟨l, rest, heq, hl⟩ := h.fits.exists_lead back
  obtain ⟨r', back', hbest, heq', hmunched⟩ :=
    hl.exists_best fun hnone => hnot ⟨l, rest, heq, hl, hnone⟩
  obtain ⟨rfl, rfl⟩ := h.unique hbest (heq'.symm.trans heq.symm)
  exact hmunched

/-! ## What is read where no value follows -/

theorem exists_closing {rest : List Char} (h : Valueless (dropQuote rest)) :
    ∃ closed back, rest = quoteIf closed ++ back ∧ (closed = true ∨ back = []) := by
  obtain ⟨opened, hrest⟩ := exists_quote rest
  cases opened with
  | true => exact ⟨true, _, hrest, .inl rfl⟩
  | false =>
    cases rest with
    | nil => exact ⟨false, [], rfl, .inr rfl⟩
    | cons c rest =>
      rw [← show c :: rest = dropQuote (c :: rest) from hrest, valueless_iff] at h
      rw [h c rfl]
      exact ⟨true, rest, rfl, .inl rfl⟩

/-- The reading in which the last of the blanks is given back as a value. -/
def Lead.readBlank (l : Lead) (init : List Char) (b : Char) (closed : Bool) : Reading :=
  ⟨l.field, l.blanks, l.operator, ⟨init, false, [b], closed⟩⟩

/-- The reading in which an equality sign is given back as a value. -/
def Lead.readSign (l : Lead) (short : Operator) (closed : Bool) : Reading :=
  ⟨l.field, l.blanks, short, ⟨[], false, ['='], closed⟩⟩

section dangling

variable {l : Lead} {rest : List Char} (h : l.Reaches rest) (hnone : Valueless (dropQuote rest))
include h hnone

theorem Lead.Reaches.best_blank {init back : List Char} {b : Char} {closed : Bool}
    (hgap : l.gap = init ++ [b]) (hrest : rest = quoteIf closed ++ back)
    (hend : closed = true ∨ back = []) : (l.readBlank init b closed).Best back := by
  have hblanks := h.gap
  rw [hgap] at hblanks
  have hb : isBlank b = true := hblanks b (by simp)
  have hquote : '"' ∉ [b] := by
    rw [List.mem_singleton]
    rintro rfl
    exact absurd hb (by decide)
  let o : Operand := ⟨init, false, [b], closed⟩
  have ho : o.Fits :=
    ⟨fun c hc => hblanks c (List.mem_append_left [b] hc), List.cons_ne_nil _ _, hquote⟩
  have htext : o.text ++ back = l.gap ++ rest := by
    simp [o, Operand.text, quoteIf, hgap, hrest]
  have hbest : o.Best back := by
    refine ho.best hend fun other back' hother heq => ?_
    have hlt := hother.blanks_lt h.gap h.stops hnone (heq.trans htext)
    rw [hgap, List.length_append] at hlt
    exact Nat.le_of_lt_succ hlt
  have hr : (l.readBlank init b closed).Fits := ⟨h.field_ne, h.field_word, h.blanks, ho⟩
  refine hr.best hbest fun other back' _ heq => ?_
  have hsame : other.operator.symbol.toList ++ (other.operand.text ++ back') =
      l.operator.symbol.toList ++ (l.gap ++ rest) := htext ▸ heq
  exact Operator.eq_or_priority_lt (h.operator.isPrefix hsame)

/-- Without blanks behind it, the longest operator is not the one that is read. -/
theorem Lead.Reaches.shorter_read (hgap : l.gap = []) {r : Reading} (hr : r.Fits)
    {back : List Char} (heq : r.operator.symbol.toList ++ (r.operand.text ++ back) =
      l.operator.symbol.toList ++ rest) :
    r.operator.symbol.toList ++ ['='] = l.operator.symbol.toList := by
  have hop := h.operator
  rw [hgap, List.nil_append] at hop
  rcases Operator.eq_or_shorter (hop.isPrefix heq) with hsame | hshorter
  · rw [hsame] at heq
    have hnil : Blanks [] := by simp [Blanks]
    have hlt := hr.operand.blanks_lt hnil h.stops hnone (List.append_cancel_left heq)
    exact absurd hlt (Nat.not_lt_zero _)
  · exact hshorter

theorem Lead.Reaches.best_sign {short : Operator} {back : List Char} {closed : Bool}
    (hgap : l.gap = []) (hshort : short.symbol.toList ++ ['='] = l.operator.symbol.toList)
    (hrest : rest = quoteIf closed ++ back) (hend : closed = true ∨ back = []) :
    (l.readSign short closed).Best back := by
  let o : Operand := ⟨[], false, ['='], closed⟩
  have ho : o.Fits := ⟨by simp [o, Blanks], by simp [o], by simp [o]⟩
  have htext : short.symbol.toList ++ (o.text ++ back) = l.operator.symbol.toList ++ rest := by
    simp [o, Operand.text, quoteIf, ← hshort, hrest]
  have hbest : o.Best back := by
    refine ho.best hend fun other back' hother heq => ?_
    have hstop : Stops isBlank (o.text ++ back) := stops_cons.mpr (by decide)
    have hle := hother.blanks_le back'
    rwa [heq, hstop.takeWhile] at hle
  have hr : (l.readSign short closed).Fits := ⟨h.field_ne, h.field_word, h.blanks, ho⟩
  refine hr.best hbest fun other back' hother heq => ?_
  have hread := h.shorter_read hnone hgap hother (heq.trans htext)
  exact .inl (Operator.symbol_inj (List.append_cancel_right (hread.trans hshort.symm)))

theorem Lead.Reaches.reads_blank {init : List Char} {b : Char} (hgap : l.gap = init ++ [b]) :
    ∃ back, readPredicate (l.text ++ rest) =
      some (⟨String.ofList l.field, l.operator, String.ofList [b]⟩, back) := by
  obtain ⟨closed, back, hrest, hend⟩ := exists_closing hnone
  have hbest := h.best_blank hnone hgap hrest hend
  have htext : l.text ++ rest = (l.readBlank init b closed).text ++ back := by
    simp [Lead.text, Lead.readBlank, Reading.text, Operand.text, quoteIf, hgap, hrest]
  exact ⟨back, htext ▸ hbest.readPredicate⟩

theorem Lead.Reaches.reads_sign (hgap : l.gap = []) (short : Operator)
    (hshort : short.symbol.toList ++ ['='] = l.operator.symbol.toList) :
    ∃ back, readPredicate (l.text ++ rest) =
      some (⟨String.ofList l.field, short, String.ofList ['=']⟩, back) := by
  obtain ⟨closed, back, hrest, hend⟩ := exists_closing hnone
  have hbest := h.best_sign hnone hgap hshort hrest hend
  have htext : l.text ++ rest = (l.readSign short closed).text ++ back := by
    simp [Lead.text, Lead.readSign, Reading.text, Operand.text, quoteIf, hgap, hrest, ← hshort]
  exact ⟨back, htext ▸ hbest.readPredicate⟩

theorem Lead.Reaches.reads_nothing (hgap : l.gap = [])
    (hshort : ∀ short : Operator, short.symbol.toList ++ ['='] ≠ l.operator.symbol.toList) :
    readPredicate (l.text ++ rest) = none := by
  rw [readPredicate_none_iff]
  intro r back hr heq
  rw [l.text_append, r.text_append, hgap, List.nil_append] at heq
  obtain ⟨-, -, hrest⟩ := eq_of_fronts hr.field_word hr.blanks h.field_word h.blanks heq
  exact hshort _ (h.shorter_read hnone hgap hr hrest.symm)

/-- Where no value follows, the remnant of the lead is read. -/
theorem Lead.Reaches.reads_remnant :
    (readPredicate (l.text ++ rest)).map Prod.fst = l.remnant.map fun (op, value) =>
      ⟨String.ofList l.field, op, String.ofList value⟩ := by
  unfold Lead.remnant
  cases hlast : l.gap.getLast? with
  | some b =>
    obtain ⟨init, hgap⟩ := List.getLast?_eq_some_iff.mp hlast
    obtain ⟨back, hread⟩ := h.reads_blank hnone hgap
    rw [hread]
    rfl
  | none =>
    have hgap := List.getLast?_eq_none_iff.mp hlast
    have hnothing (hshort : ∀ short : Operator,
        short.symbol.toList ++ ['='] ≠ l.operator.symbol.toList) :
        (readPredicate (l.text ++ rest)).map Prod.fst = none := by
      rw [h.reads_nothing hnone hgap hshort]
      rfl
    cases hop : l.operator with
    | greaterOrEqual =>
      obtain ⟨back, hread⟩ := h.reads_sign hnone hgap .greaterThan (by rw [hop]; rfl)
      rw [hread]
      rfl
    | lessOrEqual =>
      obtain ⟨back, hread⟩ := h.reads_sign hnone hgap .lessThan (by rw [hop]; rfl)
      rw [hread]
      rfl
    | _ => exact hnothing fun short => by rw [hop]; cases short <;> decide

end dangling

/-! ## The conditions of a query -/

/-- The reading is one of those that are found in the pieces of the query. -/
def ReadFrom (query : String) (p : Place) : Prop :=
  ∃ piece ∈ pieces (trimmed query.toList), ∃ scan : Scan,
    (scan.text = piece.chars ∧ scan.Exact) ∧ p ∈ scan.places []

theorem Scan.conditions_eq_map (scan : Scan) (front : List Char) :
    scan.conditions = (scan.places front).map fun p => p.reading.predicate := by
  induction scan generalizing front with
  | rest gap => rfl
  | found gap r scan ih =>
    rw [Scan.conditions, Scan.places, List.map_cons, ← ih]

theorem Scan.Exact.best {scan : Scan} (h : scan.Exact) {front : List Char} :
    ∀ p ∈ scan.places front, p.reading.Best p.back := by
  induction scan generalizing front with
  | rest gap => simp [Scan.places]
  | found gap r scan ih =>
    intro p hp
    rcases List.mem_cons.mp hp with rfl | hp
    · exact h.2.1
    · exact ih h.2.2 p hp

theorem mem_parse {query : String} {p : Predicate} :
    (∃ c ∈ parse query, p ∈ c.predicates) ↔
      ∃ piece ∈ pieces (trimmed query.toList), p ∈ predicates piece.chars := by
  by_cases hne : trimmed query.toList = []
  · have hparse : parse query = [] := by
      unfold parse
      rw [hne]
    rw [hparse, hne, pieces]
    simp [predicates]
  · rw [parse_of_trimmed_ne_nil hne]
    simp [Piece.toClause]

/-- The conditions of a query are what the readings in it read. -/
theorem mem_parse_iff_read {query : String} {p : Predicate} :
    (∃ c ∈ parse query, p ∈ c.predicates) ↔
      ∃ place, ReadFrom query place ∧ place.reading.predicate = p := by
  rw [mem_parse]
  constructor
  · rintro ⟨piece, hpiece, hp⟩
    obtain ⟨scan, htext, hscan⟩ := exists_exact_scan piece.chars
    rw [← htext, hscan.conditions_eq, scan.conditions_eq_map []] at hp
    obtain ⟨place, hplace, rfl⟩ := List.mem_map.mp hp
    exact ⟨place, ⟨piece, hpiece, scan, ⟨htext, hscan⟩, hplace⟩, rfl⟩
  · rintro ⟨place, ⟨piece, hpiece, scan, ⟨htext, hscan⟩, hplace⟩, rfl⟩
    refine ⟨piece, hpiece, ?_⟩
    rw [← htext, hscan.conditions_eq, scan.conditions_eq_map []]
    exact List.mem_map_of_mem hplace

/-! ## The law -/

/-- A condition of a query is read by maximal munch exactly if a value follows its longest operator,
all blanks and one quote. Where none follows, the remnant is read: nothing only if there are no
blanks and the operator is a single sign. -/
theorem munch_takes_all_exactly_if_a_value_follows (query : String) :
    (∀ p : Predicate, (∃ c ∈ parse query, p ∈ c.predicates) ↔
      ∃ place, ReadFrom query place ∧ place.reading.predicate = p) ∧
    (∀ place, ReadFrom query place →
      (place.reading.Munched place.back ↔ ¬ Dangles (place.reading.text ++ place.back))) ∧
    ∀ (l : Lead) (rest : List Char), l.Reaches rest → Valueless (dropQuote rest) →
      (readPredicate (l.text ++ rest)).map Prod.fst = l.remnant.map fun (op, value) =>
        ⟨String.ofList l.field, op, String.ofList value⟩ := by
  refine ⟨fun p => mem_parse_iff_read, ?_, fun l rest h hnone => h.reads_remnant hnone⟩
  rintro place ⟨piece, -, scan, ⟨-, hscan⟩, hplace⟩
  exact (hscan.best place hplace).munched_iff

/-- Not every condition is read by maximal munch: of this operator the first sign alone is read. -/
theorem a_dangling_operator_is_cut_short :
    ¬ ∀ (query : String) (place : Place), ReadFrom query place →
      place.reading.Munched place.back := by
  intro claim
  let l : Lead := ⟨"revenue".toList, [], .greaterOrEqual, []⟩
  have hl : l.Reaches [] := by
    refine ⟨by decide, by decide, by decide, fun op => ?_, by decide, by simp [Stops]⟩
    cases op <;> decide
  have hnone : Valueless (dropQuote []) := by simp [Valueless, Stops, dropQuote]
  have hbest : (l.readSign .greaterThan false).Best [] :=
    hl.best_sign hnone rfl (by decide) rfl (.inr rfl)
  have hnothing (back : List Char) : NoneFits [] back := by simp [NoneFits]
  have hread : ReadFrom "revenue>=" ⟨[], l.readSign .greaterThan false, []⟩ := by
    refine ⟨⟨"revenue>=".toList, none⟩, ?_,
      .found [] (l.readSign .greaterThan false) (.rest []),
      ⟨by decide, hnothing _, hbest, hnothing _⟩, List.mem_cons_self⟩
    rw [show trimmed "revenue>=".toList = "revenue>=".toList by decide, pieces_of_uncut (by decide)]
    exact List.mem_cons_self
  exact (claim _ _ hread).not_dangles hbest.fits ⟨l, [], by decide, hl, hnone⟩

end Query

end CompanySearch
