-- The ways to read a condition. Its parts may be shorter than they could be, and quotes may be
-- taken as such or not at all, so a text can begin with a condition in several ways. They are told
-- apart by the choices they make, from left to right, and what is read is the way that is
-- preferred to all others.
import CompanySearch.Proofs.Query.Conditions
import Mathlib.Algebra.Order.Group.Nat

namespace CompanySearch

open Text

/-- How early an operator is tried: the greater, the earlier. -/
def Operator.priority (op : Operator) : Nat := Operator.all.reverse.idxOf op

namespace Query

/-! ## Ways to read -/

def quoteIf : Bool → List Char
  | true => ['"']
  | false => []

/-- What is read behind an operator: blanks, an opening quote or none, a value, and a closing
quote or none. -/
structure Operand where
  blanks : List Char
  opened : Bool
  value : List Char
  closed : Bool

/-- A way to read a condition: a field, blanks, an operator and its operand. -/
structure Reading where
  field : List Char
  blanks : List Char
  operator : Operator
  operand : Operand

namespace Operand

def text (o : Operand) : List Char :=
  o.blanks ++ (quoteIf o.opened ++ (o.value ++ quoteIf o.closed))

theorem text_append (o : Operand) (back : List Char) :
    o.text ++ back =
      o.blanks ++ (quoteIf o.opened ++ (o.value ++ (quoteIf o.closed ++ back))) := by
  simp only [text, List.append_assoc]

/-- Each part is made of the characters that it may hold. -/
structure Fits (o : Operand) : Prop where
  blanks : Blanks o.blanks
  value_ne : o.value ≠ []
  value_unquoted : '"' ∉ o.value

/-- The choices in the order in which they are made, each the greater the earlier it is tried: more
characters before fewer, and a quote before none. -/
def choices (o : Operand) : List Nat :=
  [o.blanks.length, o.opened.toNat, o.value.length, o.closed.toNat]

/-- The operand stands in front of the text, and every other one there makes lesser choices. -/
structure Best (o : Operand) (back : List Char) : Prop where
  fits : o.Fits
  foremost : ∀ (other : Operand) (back' : List Char), other.Fits →
    other.text ++ back' = o.text ++ back → other = o ∨ List.Lex (· < ·) other.choices o.choices

end Operand

namespace Reading

def text (r : Reading) : List Char :=
  r.field ++ (r.blanks ++ (r.operator.symbol.toList ++ r.operand.text))

theorem text_append (r : Reading) (back : List Char) :
    r.text ++ back =
      r.field ++ (r.blanks ++ (r.operator.symbol.toList ++ (r.operand.text ++ back))) := by
  simp only [text, List.append_assoc]

/-- The condition that is read. -/
def predicate (r : Reading) : Predicate :=
  ⟨String.ofList r.field, r.operator, String.ofList r.operand.value⟩

/-- Each part is made of the characters that it may hold. -/
structure Fits (r : Reading) : Prop where
  field_ne : r.field ≠ []
  field_word : ∀ c ∈ r.field, isWord c = true
  blanks : Blanks r.blanks
  operand : r.operand.Fits

/-- The choices in the order in which they are made, the operator's among them. -/
def choices (r : Reading) : List Nat :=
  r.field.length :: r.blanks.length :: r.operator.priority :: r.operand.choices

/-- The reading stands in front of the text, and every other one there makes lesser choices. -/
structure Best (r : Reading) (back : List Char) : Prop where
  fits : r.Fits
  foremost : ∀ (other : Reading) (back' : List Char), other.Fits →
    other.text ++ back' = r.text ++ back → other = r ∨ List.Lex (· < ·) other.choices r.choices

end Reading

/-! ## Values -/

/-- No value begins here: nothing is left, or a quote comes. -/
def Valueless (s : List Char) : Prop := Stops (fun c => !isQuote c) s

theorem valueless_iff {s : List Char} : Valueless s ↔ ∀ c ∈ s.head?, c = '"' := by
  simp [Valueless, Stops, isQuote]

theorem valueless_of_end {closed : Bool} {back : List Char} (h : closed = true ∨ back = []) :
    Valueless (quoteIf closed ++ back) := by
  rw [valueless_iff]
  rcases h with rfl | rfl
  · simp [quoteIf]
  · cases closed <;> simp [quoteIf]

theorem unquoted_iff {v : List Char} : (∀ c ∈ v, (fun c => !isQuote c) c = true) ↔ '"' ∉ v := by
  simp only [isQuote, Bool.not_eq_true', beq_eq_false_iff_ne]
  constructor
  · intro h hq
    exact h _ hq rfl
  · rintro h c hc rfl
    exact h hc

theorem not_valueless {v s : List Char} (hne : v ≠ []) (hquote : '"' ∉ v) :
    ¬ Valueless (v ++ s) := by
  obtain ⟨a, v, rfl⟩ := List.exists_cons_of_ne_nil hne
  rw [valueless_iff]
  intro h
  have ha : a = '"' := h a rfl
  simp [ha] at hquote

theorem readBare_eq_none {s : List Char} : readBare s = none ↔ Valueless s := by
  unfold readBare
  constructor
  · intro h
    cases s with
    | nil => simp [Valueless, Stops]
    | cons a s => simpa [Valueless, stops_cons, List.takeWhile_cons] using h
  · intro h
    simp [h.takeWhile]

/-- A value ends in front of a quote, which is taken with it, or where the text ends. -/
theorem readBare_eq_some {s value rest : List Char} (h : readBare s = some (value, rest)) :
    ∃ closed, s = value ++ (quoteIf closed ++ rest) ∧ value ≠ [] ∧ '"' ∉ value ∧
      (closed = true ∨ rest = []) := by
  unfold readBare at h
  simp only at h
  split at h
  · contradiction
  · rename_i hne
    cases h
    have hparts := List.takeWhile_append_dropWhile (p := fun c => !isQuote c) (l := s)
    have hunquoted : '"' ∉ s.takeWhile fun c => !isQuote c :=
      unquoted_iff.mp fun c hc => List.mem_takeWhile_imp (p := fun c => !isQuote c) hc
    have hstop : Valueless (s.dropWhile fun c => !isQuote c) := stops_dropWhile _ s
    rw [valueless_iff] at hstop
    cases hrest : s.dropWhile fun c => !isQuote c with
    | nil =>
      rw [hrest] at hparts
      exact ⟨false, by simpa [quoteIf, dropQuote] using hparts.symm, by simpa using hne, hunquoted,
        .inr rfl⟩
    | cons a rest =>
      have ha : a = '"' := hstop a (by simp [hrest])
      subst ha
      rw [hrest] at hparts
      exact ⟨true, hparts.symm, by simpa using hne, hunquoted, .inl rfl⟩

theorem readAfterBlanks_eq (s : List Char) : readAfterBlanks s = readBare (dropQuote s) := by
  unfold readAfterBlanks dropQuote
  split <;> rfl

theorem exists_quote (s : List Char) : ∃ opened, s = quoteIf opened ++ dropQuote s := by
  unfold dropQuote
  split
  · exact ⟨true, rfl⟩
  · exact ⟨false, rfl⟩

theorem readAfterBlanks_eq_some {s value rest : List Char}
    (h : readAfterBlanks s = some (value, rest)) :
    ∃ opened closed, s = quoteIf opened ++ (value ++ (quoteIf closed ++ rest)) ∧ value ≠ [] ∧
      '"' ∉ value ∧ (closed = true ∨ rest = []) := by
  rw [readAfterBlanks_eq] at h
  obtain ⟨opened, hs⟩ := exists_quote s
  obtain ⟨closed, hvalue, hfits⟩ := readBare_eq_some h
  exact ⟨opened, closed, hvalue ▸ hs, hfits⟩

/-! ## Operands -/

namespace Operand

theorem Fits.stops {o : Operand} (h : o.Fits) (back : List Char) :
    ∀ c ∈ (o.value ++ back).head?, c ≠ '"' := by
  obtain ⟨a, v, hv⟩ := List.exists_cons_of_ne_nil h.value_ne
  rintro c hc rfl
  rw [hv, List.cons_append, List.head?_cons, Option.mem_some_iff] at hc
  exact h.value_unquoted (hv ▸ hc ▸ List.mem_cons_self)

/-- Behind a quote or none, a value is found. -/
theorem Fits.dropQuote_eq {o : Operand} (h : o.Fits) (back : List Char) :
    dropQuote (quoteIf o.opened ++ (o.value ++ back)) = o.value ++ back := by
  cases o.opened with
  | true => rfl
  | false =>
    have hne := h.stops back
    unfold dropQuote quoteIf
    split
    · rename_i heq
      rw [List.nil_append] at heq
      exact absurd rfl (hne '"' (heq ▸ rfl))
    · rfl

/-- Where the blanks end, a quote is there to be taken or not. -/
theorem Fits.opened_eq {o o' : Operand} (h : o.Fits) (h' : o'.Fits) {back back' : List Char}
    (heq : quoteIf o'.opened ++ (o'.value ++ back') = quoteIf o.opened ++ (o.value ++ back)) :
    o'.opened = o.opened ∧ o'.value ++ back' = o.value ++ back := by
  cases ho : o.opened <;> cases ho' : o'.opened <;> rw [ho, ho'] at heq
  · exact ⟨rfl, heq⟩
  · exact absurd rfl (h.stops back '"' (heq ▸ rfl))
  · exact absurd rfl (h'.stops back' '"' (heq ▸ rfl))
  · exact ⟨rfl, (List.cons.inj heq).2⟩

/-- Of two values at one place, the one that goes on to a quote or to the end is the longer one. -/
theorem Fits.value_cases {o o' : Operand} (h' : o'.Fits) {back back' : List Char}
    (hend : o.closed = true ∨ back = [])
    (heq : o'.value ++ back' = o.value ++ (quoteIf o.closed ++ back)) :
    o'.value = o.value ∨ o'.value.length < o.value.length := by
  rcases List.append_eq_append_iff.mp heq with ⟨more, hvalue, -⟩ | ⟨more, hvalue, hback⟩
  · cases more with
    | nil => exact .inl (by simpa using hvalue.symm)
    | cons c more => exact .inr (by simp [hvalue])
  · cases more with
    | nil => exact .inl (by simpa using hvalue)
    | cons c more =>
      have hquote : c = '"' := by
        cases ho : o.closed with
        | true =>
          rw [ho] at hback
          exact (List.cons.inj hback).1.symm
        | false =>
          have hnil : back = [] := hend.resolve_left (by simp [ho])
          simp [ho, hnil, quoteIf] at hback
      exact absurd (by simp [hvalue, hquote]) h'.value_unquoted

/-- An operand is the best if no other has more blanks and it goes on to a quote or to the end. -/
theorem Fits.best {o : Operand} (h : o.Fits) {back : List Char}
    (hend : o.closed = true ∨ back = [])
    (hblanks : ∀ (other : Operand) (back' : List Char), other.Fits →
      other.text ++ back' = o.text ++ back → other.blanks.length ≤ o.blanks.length) :
    o.Best back := by
  refine ⟨h, fun other back' hother heq => ?_⟩
  have hle := hblanks other back' hother heq
  obtain ⟨blanks, opened, value, closed⟩ := o
  obtain ⟨blanks', opened', value', closed'⟩ := other
  rw [text_append, text_append] at heq
  rcases Nat.lt_or_eq_of_le hle with hlt | hlen
  · exact .inr (List.Lex.rel hlt)
  · obtain ⟨rfl, hopen⟩ := List.append_inj heq hlen
    obtain ⟨rfl, hvalue⟩ := h.opened_eq hother hopen
    rcases hother.value_cases hend hvalue with rfl | hlt
    · have hquote := List.append_cancel_left hvalue
      cases closed <;> cases closed'
      · exact .inl rfl
      · have hnil : back = [] := hend.resolve_left Bool.false_ne_true
        simp [hnil, quoteIf] at hquote
      · exact .inr (.cons (.cons (.cons (.rel Nat.zero_lt_one))))
      · exact .inl rfl
    · exact .inr (.cons (.cons (.rel hlt)))

end Operand

/-- The blanks of an operand are some of those that stand there. -/
theorem Operand.Fits.blanks_le {o : Operand} (h : o.Fits) (back : List Char) :
    o.blanks.length ≤ ((o.text ++ back).takeWhile isBlank).length := by
  rw [o.text_append, List.takeWhile_append_of_pos h.blanks, List.length_append]
  exact Nat.le_add_right _ _

theorem Operand.Fits.readAfterBlanks_ne_none {o : Operand} (h : o.Fits) (back : List Char) :
    readAfterBlanks ((o.text ++ back).drop o.blanks.length) ≠ none := by
  rw [o.text_append, List.drop_left, readAfterBlanks_eq, h.dropQuote_eq, ne_eq, readBare_eq_none]
  exact not_valueless h.value_ne h.value_unquoted

/-- What is not tried before the one that is found is that one, or its turn comes later. -/
theorem eq_or_later {α : Type} {R : α → α → Prop} {l tried others : List α} {a b : α}
    (hl : l = tried ++ a :: others) (horder : l.Pairwise R) (hb : b ∈ l) (hnot : b ∉ tried) :
    b = a ∨ R a b := by
  subst hl
  rcases List.mem_append.mp hb with hb | hb
  · exact absurd hb hnot
  · rcases List.mem_cons.mp hb with rfl | hb
    · exact .inl rfl
    · exact .inr ((List.pairwise_cons.mp (List.pairwise_append.mp horder).2.1).1 b hb)

/-- The counts of blanks that are tried. -/
theorem mem_counts {n k : Nat} : k ∈ (List.range (n + 1)).reverse ↔ k ≤ n := by
  rw [List.mem_reverse, List.mem_range, Nat.lt_succ_iff]

theorem counts_fall (n : Nat) : (List.range (n + 1)).reverse.Pairwise (· > ·) :=
  List.pairwise_reverse.mpr List.pairwise_lt_range

/-- As many blanks as possible are tried first, so what is read is the best operand. -/
theorem readValue_eq_some {s value rest : List Char} (h : readValue s = some (value, rest)) :
    ∃ o : Operand, o.Best rest ∧ o.value = value ∧ s = o.text ++ rest := by
  unfold readValue at h
  obtain ⟨tried, k, others, hcounts, hk, htried⟩ := List.findSome?_eq_some_iff.mp h
  obtain ⟨opened, closed, hs, hne, hquote, hend⟩ := readAfterBlanks_eq_some hk
  have hkle : k ≤ (s.takeWhile isBlank).length := mem_counts.mp (by simp [hcounts])
  have hblanks : s.take k = (s.takeWhile isBlank).take k := by
    rw [← List.take_append_of_le_length hkle, List.takeWhile_append_dropWhile]
  have hlen : (s.take k).length = k := by
    rw [hblanks, List.length_take_of_le hkle]
  have htext : s = (Operand.mk (s.take k) opened value closed).text ++ rest := by
    rw [Operand.text_append, ← hs, List.take_append_drop]
  have hfits : (Operand.mk (s.take k) opened value closed).Fits := by
    refine ⟨fun c hc => ?_, hne, hquote⟩
    rw [hblanks] at hc
    exact List.mem_takeWhile_imp (List.mem_of_mem_take hc)
  refine ⟨_, hfits.best hend ?_, rfl, htext⟩
  intro other back' hother heq
  rw [← htext] at heq
  have hle := hother.blanks_le back'
  have hread := hother.readAfterBlanks_ne_none back'
  rw [heq] at hle hread
  rcases eq_or_later hcounts (counts_fall _) (mem_counts.mpr hle)
    (fun hmem => hread (htried _ hmem)) with heq | hlt
  · exact (heq.trans hlen.symm).le
  · exact hlen.symm ▸ Nat.le_of_lt hlt

theorem readValue_eq_none {s : List Char} (h : readValue s = none) {o : Operand} (ho : o.Fits)
    (back : List Char) : s ≠ o.text ++ back := by
  rintro rfl
  unfold readValue at h
  rw [List.findSome?_eq_none_iff] at h
  exact ho.readAfterBlanks_ne_none back (h _ (mem_counts.mpr (ho.blanks_le back)))

/-! ## Conditions -/

theorem mem_all (op : Operator) : op ∈ Operator.all := by
  cases op <;> decide

theorem priorities_fall : Operator.all.Pairwise fun a b => b.priority < a.priority := by
  decide

section fits

variable {r : Reading} (h : r.Fits) (back : List Char)
include h

theorem Reading.Fits.takeWhile_word : (r.text ++ back).takeWhile isWord = r.field := by
  have hstop := stops_of_blanks (fun c => not_isWord_of_isBlank) h.blanks
    (stops_symbol symbol_not_isWord r.operator (r.operand.text ++ back))
  rw [r.text_append]
  exact takeWhile_run h.field_word hstop

/-- The field is the whole run of word characters, and no blank behind it is left out. -/
theorem Reading.Fits.dropWhile_blank :
    ((r.text ++ back).dropWhile isWord).dropWhile isBlank =
      r.operator.symbol.toList ++ (r.operand.text ++ back) := by
  have hstop := stops_of_blanks (fun c => not_isWord_of_isBlank) h.blanks
    (stops_symbol symbol_not_isWord r.operator (r.operand.text ++ back))
  rw [r.text_append, dropWhile_run h.field_word hstop,
    dropWhile_run h.blanks (stops_symbol symbol_not_isBlank _ _)]

end fits

/-- However a text is read, the field and the blanks in front of the operator are the same. -/
theorem eq_of_fronts {field field' blanks blanks' behind behind' : List Char} {op op' : Operator}
    (hfield : ∀ c ∈ field, isWord c = true) (hblanks : Blanks blanks)
    (hfield' : ∀ c ∈ field', isWord c = true) (hblanks' : Blanks blanks')
    (heq : field' ++ (blanks' ++ (op'.symbol.toList ++ behind')) =
      field ++ (blanks ++ (op.symbol.toList ++ behind))) :
    field' = field ∧ blanks' = blanks ∧
      op'.symbol.toList ++ behind' = op.symbol.toList ++ behind := by
  have hstops {w : List Char} (hw : Blanks w) (op : Operator) (s : List Char) :
      Stops isWord (w ++ (op.symbol.toList ++ s)) :=
    stops_of_blanks (fun c => not_isWord_of_isBlank) hw (stops_symbol symbol_not_isWord op s)
  obtain ⟨rfl, hrest⟩ :=
    eq_of_runs hfield' (hstops hblanks' _ _) hfield (hstops hblanks _ _) heq
  obtain ⟨rfl, hsign⟩ := eq_of_runs hblanks' (stops_symbol symbol_not_isBlank _ _) hblanks
    (stops_symbol symbol_not_isBlank _ _) hrest
  exact ⟨rfl, rfl, hsign⟩

/-- A reading is the best if its operand is, and no other has an operator that is tried earlier. -/
theorem Reading.Fits.best {r : Reading} (h : r.Fits) {back : List Char}
    (hoperand : r.operand.Best back)
    (hop : ∀ (other : Reading) (back' : List Char), other.Fits →
      other.operator.symbol.toList ++ (other.operand.text ++ back') =
        r.operator.symbol.toList ++ (r.operand.text ++ back) →
      other.operator = r.operator ∨ other.operator.priority < r.operator.priority) :
    r.Best back := by
  refine ⟨h, fun other back' hother heq => ?_⟩
  rw [other.text_append, r.text_append] at heq
  obtain ⟨hfield, hblanks, hrest⟩ :=
    eq_of_fronts h.field_word h.blanks hother.field_word hother.blanks heq
  have hcases := hop other back' hother hrest
  obtain ⟨field, blanks, op, o⟩ := r
  obtain ⟨field', blanks', op', o'⟩ := other
  cases hfield
  cases hblanks
  rcases hcases with rfl | hlt
  · have hsame := List.append_cancel_left hrest
    rcases hoperand.foremost o' back' hother.operand hsame with rfl | hlex
    · exact .inl rfl
    · exact .inr (.cons (.cons (.cons hlex)))
  · exact .inr (.cons (.cons (.rel hlt)))

theorem mem_readOperators {s rest : List Char} {op : Operator} :
    (op, rest) ∈ readOperators s ↔ s = op.symbol.toList ++ rest := by
  refine ⟨eq_of_mem_readOperators, ?_⟩
  rintro rfl
  unfold readOperators
  refine List.mem_filterMap.mpr ⟨op, mem_all op, ?_⟩
  rw [if_pos (List.isPrefixOf_iff_prefix.mpr (List.prefix_append _ _)), List.drop_left]

theorem operators_fall (s : List Char) :
    (readOperators s).Pairwise fun a b => b.1.priority < a.1.priority := by
  unfold readOperators
  refine priorities_fall.filterMap _ fun a b hlt x hx y hy => ?_
  split at hx
  · split at hy
    · cases hx
      cases hy
      exact hlt
    · contradiction
  · contradiction

theorem readPredicate_eq_none {s : List Char} (h : readPredicate s = none) {r : Reading}
    (hr : r.Fits) (back : List Char) : s ≠ r.text ++ back := by
  rintro rfl
  unfold readPredicate at h
  simp only [hr.takeWhile_word, hr.dropWhile_blank] at h
  rw [if_neg (by simpa using hr.field_ne), List.findSome?_eq_none_iff] at h
  have hvalue := h _ (mem_readOperators.mpr rfl)
  rw [Option.map_eq_none_iff] at hvalue
  exact readValue_eq_none hvalue hr.operand back rfl

/-- What is read as a condition is read in the best way. -/
theorem readPredicate_eq_some {s rest : List Char} {p : Predicate}
    (h : readPredicate s = some (p, rest)) :
    ∃ r : Reading, r.Best rest ∧ r.predicate = p ∧ s = r.text ++ rest := by
  unfold readPredicate at h
  simp only at h
  split at h
  · contradiction
  · rename_i hne
    obtain ⟨tried, ⟨op, behind⟩, others, hops, hfound, htried⟩ := List.findSome?_eq_some_iff.mp h
    obtain ⟨⟨value, rest'⟩, hvalue, heq⟩ := Option.map_eq_some_iff.mp hfound
    cases heq
    obtain ⟨o, hbest, rfl, rfl⟩ := readValue_eq_some hvalue
    let r : Reading := ⟨s.takeWhile isWord, (s.dropWhile isWord).takeWhile isBlank, op, o⟩
    have hfits : r.Fits := by
      refine ⟨?_, fun c hc => List.mem_takeWhile_imp hc, fun c hc => List.mem_takeWhile_imp hc,
        hbest.fits⟩
      intro hnil
      exact hne (List.isEmpty_iff.mpr hnil)
    have hop := mem_readOperators.mp (hops ▸ List.mem_append_right tried List.mem_cons_self)
    have hs : s = r.text ++ rest' := by
      rw [r.text_append, ← hop, List.takeWhile_append_dropWhile, List.takeWhile_append_dropWhile]
    refine ⟨r, hfits.best hbest fun other back hother heq => ?_, rfl, hs⟩
    -- the other operator stands there as well, and it was not tried in vain
    have hmem : (other.operator, other.operand.text ++ back) ∈
        readOperators ((s.dropWhile isWord).dropWhile isBlank) := by
      rw [mem_readOperators, hop, heq]
    have hnot : (other.operator, other.operand.text ++ back) ∉ tried := by
      intro hin
      have hnone := Option.map_eq_none_iff.mp (htried _ hin)
      exact readValue_eq_none hnone hother.operand back rfl
    rcases eq_or_later hops (operators_fall _) hmem hnot with hsame | hlt
    · exact .inl (congrArg Prod.fst hsame)
    · exact .inr hlt

/-! ## Only one way is the best -/

theorem Reading.Best.unique {r r' : Reading} {back back' : List Char} (h : r.Best back)
    (h' : r'.Best back') (heq : r'.text ++ back' = r.text ++ back) : r' = r ∧ back' = back := by
  have hsame : r' = r := by
    rcases h.foremost r' back' h'.fits heq with hsame | hlex
    · exact hsame
    · rcases h'.foremost r back h.fits heq.symm with hsame | hlex'
      · exact hsame.symm
      · exact absurd hlex' (List.lex_asymm Nat.lt_asymm hlex)
  subst hsame
  exact ⟨rfl, List.append_cancel_left heq⟩

/-- The best way to read is what is read. -/
theorem Reading.Best.readPredicate {r : Reading} {back : List Char} (h : r.Best back) :
    readPredicate (r.text ++ back) = some (r.predicate, back) := by
  cases hread : Query.readPredicate (r.text ++ back) with
  | none => exact absurd rfl (readPredicate_eq_none hread h.fits back)
  | some found =>
    obtain ⟨p, rest⟩ := found
    obtain ⟨r', hbest, rfl, heq⟩ := readPredicate_eq_some hread
    obtain ⟨rfl, rfl⟩ := h.unique hbest heq.symm
    rfl

/-- A value goes on to the next quote, which is taken with it, or to the end. -/
theorem Reading.Best.closed_or_end {r : Reading} {back : List Char} (h : r.Best back) :
    r.operand.closed = true ∨ back = [] := by
  obtain ⟨field, blanks, op, b, opened, value, closed⟩ := r
  rcases closed with _ | _
  · cases back with
    | nil => exact .inr rfl
    | cons c back =>
      exfalso
      obtain ⟨hne, hword, hblanks, hb, hvalue, hquote⟩ := h.fits
      by_cases hc : c = '"'
      · -- taking the quote as well would be preferred
        subst hc
        have hmore := h.foremost ⟨field, blanks, op, b, opened, value, true⟩ back
          ⟨hne, hword, hblanks, hb, hvalue, hquote⟩ (by simp [Reading.text, Operand.text, quoteIf])
        simp [Reading.choices, Operand.choices, List.cons_lex_cons_iff] at hmore
      · -- so would be a value with one more character
        have hmore := h.foremost ⟨field, blanks, op, b, opened, value ++ [c], false⟩ back
          ⟨hne, hword, hblanks, hb, by simp, by simpa [Ne.symm hc] using hquote⟩
          (by simp [Reading.text, Operand.text, quoteIf])
        simp [Reading.choices, Operand.choices, List.cons_lex_cons_iff] at hmore
  · exact .inl rfl

end Query

end CompanySearch
