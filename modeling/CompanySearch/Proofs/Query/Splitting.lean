-- Cutting a query loses nothing and leaves no choice. There is one way to see the query as pieces
-- with delimiters between them in which no delimiter starts inside a piece, and the clauses are
-- those of its pieces.
import CompanySearch.Proofs.Query.Delimiters

namespace CompanySearch

open Text

namespace Query

/-! ## Splits -/

/-- A text seen as pieces with delimiters between them. Each delimiter stands with the connector
that it names. -/
inductive Split where
  | last (piece : List Char)
  | cut (piece : List Char) (connector : Connector) (delimiter : List Char) (rest : Split)

/-- No delimiter starts in the front of a text, wherever it ends. -/
def NoneStarts (front back : List Char) : Prop :=
  ∀ u v, front = u ++ v → v ≠ [] → ∀ c d rest, v ++ back = d ++ rest → ¬ Delimiter c d

/-- What may stand between delimiters, in front of the rest of the text. -/
structure IsPiece (s back : List Char) : Prop where
  ne : s ≠ []
  starts : ∀ c ∈ s.head?, isBlank c = false
  ends : ∀ c ∈ s.getLast?, isBlank c = false
  uncut : NoneStarts s back

namespace Split

def text : Split → List Char
  | last s => s
  | cut s _ d rest => s ++ (d ++ rest.text)

/-- Every piece may stand where it does, and every delimiter names its connector. -/
def Exact : Split → Prop
  | last s => IsPiece s []
  | cut s c d rest => IsPiece s (d ++ rest.text) ∧ Delimiter c d ∧ rest.Exact

/-- The clauses of the pieces, each but the last with the connector behind it. -/
def clauses : Split → List Clause
  | last s => [⟨predicates s, none⟩]
  | cut s c _ rest => ⟨predicates s, some c⟩ :: rest.clauses

end Split

/-! ## Where delimiters start -/

theorem Delimiter.cons_blank {c : Connector} {d : List Char} {b : Char} (h : Delimiter c d)
    (hb : isBlank b = true) : Delimiter c (b :: d) := by
  obtain ⟨before, word, after, rfl, hbefore, hword, hafter⟩ := h
  refine ⟨b :: before, word, after, by simp, ⟨by simp, ?_⟩, hword, hafter⟩
  intro x hx
  rcases List.mem_cons.mp hx with rfl | hx
  · exact hb
  · exact hbefore.2 x hx

theorem Delimiter.exists_first {c : Connector} {d : List Char} (h : Delimiter c d) :
    ∃ b tail, d = b :: tail ∧ isBlank b = true := by
  obtain ⟨before, word, after, rfl, hbefore, -⟩ := h
  obtain ⟨b, tail, rfl, hb⟩ := isBlank_of_mem_gap hbefore
  exact ⟨b, tail ++ word ++ after, by simp, hb⟩

theorem Delimiter.exists_last {c : Connector} {d : List Char} (h : Delimiter c d) :
    ∃ front b, d = front ++ [b] ∧ isBlank b = true := by
  obtain ⟨before, word, after, rfl, -, -, hafter⟩ := h
  obtain ⟨front, b, rfl⟩ := List.eq_nil_or_concat after |>.resolve_left hafter.1
  exact ⟨before ++ word ++ front, b, by simp, hafter.2 b (by simp)⟩

theorem noneStarts_cons {a : Char} {front back : List Char} :
    NoneStarts (a :: front) back ↔
      readDelimiter (a :: front ++ back) = none ∧ NoneStarts front back := by
  rw [readDelimiter_eq_none]
  constructor
  · intro h
    exact ⟨h [] _ rfl (List.cons_ne_nil a front),
      fun u v huv => h (a :: u) v (by rw [huv, List.cons_append])⟩
  · rintro ⟨hfirst, hrest⟩ u v huv hv
    cases u with
    | nil =>
      rw [List.nil_append] at huv
      rw [← huv]
      exact hfirst
    | cons x u => exact hrest u v (List.cons.inj huv).2 hv

theorem noneStarts_iff_uncut {front back : List Char} :
    NoneStarts front back ↔ Uncut front back := by
  induction front with
  | nil => simp [NoneStarts, Uncut]
  | cons a front ih =>
    unfold Uncut
    rw [noneStarts_cons, ih]

theorem delimiter_iff_read {c : Connector} {d : List Char} :
    Delimiter c d ↔ readDelimiter d = some (c, []) := by
  constructor
  · intro h
    have hstop : Stops isBlank [] := by simp [Stops]
    have hread := readDelimiter_append h hstop
    rwa [List.append_nil] at hread
  · intro h
    obtain ⟨d', hd', rfl, -⟩ := readDelimiter_eq_some h
    rwa [List.append_nil]

instance (c : Connector) (d : List Char) : Decidable (Delimiter c d) :=
  decidable_of_iff _ delimiter_iff_read.symm

theorem isPiece_iff {s back : List Char} :
    IsPiece s back ↔ s ≠ [] ∧ s.head?.all (fun c => !isBlank c) = true ∧
      s.getLast?.all (fun c => !isBlank c) = true ∧ Uncut s back := by
  simp only [Option.all_eq_true, Bool.not_eq_true', ← noneStarts_iff_uncut]
  constructor
  · rintro ⟨hne, hstart, hend, huncut⟩
    exact ⟨hne, hstart, hend, huncut⟩
  · rintro ⟨hne, hstart, hend, huncut⟩
    exact ⟨hne, hstart, hend, huncut⟩

instance (s back : List Char) : Decidable (IsPiece s back) := decidable_of_iff _ isPiece_iff.symm

instance Split.decidableExact : (s : Split) → Decidable s.Exact
  | last s => inferInstanceAs (Decidable (IsPiece s []))
  | cut s c d rest =>
    have := decidableExact rest
    inferInstanceAs (Decidable (IsPiece s (d ++ rest.text) ∧ Delimiter c d ∧ rest.Exact))

/-- A text that is cut has a first delimiter. -/
theorem exists_first_delimiter {s : List Char} (h : ¬ Uncut s []) :
    ∃ front c d rest, s = front ++ (d ++ rest) ∧ Uncut front (d ++ rest) ∧ Delimiter c d ∧
      Stops isBlank rest := by
  induction s with
  | nil => exact absurd trivial h
  | cons a s ih =>
    by_cases hread : readDelimiter (a :: s) = none
    · have hs : ¬ Uncut s [] := by
        intro hs
        apply h
        unfold Uncut
        rw [List.append_nil]
        exact ⟨hread, hs⟩
      obtain ⟨front, c, d, rest, rfl, huncut, hd, hrest⟩ := ih hs
      exact ⟨a :: front, c, d, rest, rfl, ⟨hread, huncut⟩, hd, hrest⟩
    · obtain ⟨⟨c, rest⟩, hread⟩ := Option.ne_none_iff_exists'.mp hread
      obtain ⟨d, hd, hs, hrest⟩ := readDelimiter_eq_some hread
      exact ⟨[], c, d, rest, hs, trivial, hd, hrest⟩

/-! ## What an exact split is like -/

namespace Split

theorem Exact.piece {s : Split} (h : s.Exact) :
    ∃ piece back, s.text = piece ++ back ∧ IsPiece piece back := by
  cases s with
  | last piece => exact ⟨piece, [], by simp [text], h⟩
  | cut piece c d rest => exact ⟨piece, _, rfl, h.1⟩

/-- Its text begins with a piece, and so with no blank. -/
theorem Exact.stops {s : Split} (h : s.Exact) : Stops isBlank s.text := by
  obtain ⟨piece, back, htext, hpiece⟩ := h.piece
  obtain ⟨a, rest, rfl⟩ := List.exists_cons_of_ne_nil hpiece.ne
  rw [htext, List.cons_append, stops_cons]
  exact hpiece.starts a rfl

/-- The text is cut where the split cuts it. -/
theorem Exact.clauses_eq {s : Split} (h : s.Exact) :
    (pieces s.text).map Piece.toClause = s.clauses := by
  induction s with
  | last piece =>
    rw [text, pieces_of_uncut (noneStarts_iff_uncut.mp h.uncut)]
    rfl
  | cut piece c d rest ih =>
    obtain ⟨hpiece, hd, hrest⟩ := h
    rw [text, pieces_append (noneStarts_iff_uncut.mp hpiece.uncut)
      (readDelimiter_append hd hrest.stops), List.map_cons, ih hrest]
    rfl

end Split

/-! ## Only one split is exact -/

/-- In front of a delimiter there is no less than the first piece, as none starts inside it. -/
theorem IsPiece.length_le {s t back d rest : List Char} {c : Connector} (h : IsPiece s back)
    (hd : Delimiter c d) (heq : t ++ (d ++ rest) = s ++ back) : s.length ≤ t.length := by
  rcases List.append_eq_append_iff.mp heq with ⟨more, hs, hmore⟩ | ⟨more, ht, -⟩
  · have hnil : more = [] := by
      by_contra hne
      exact h.uncut t more hs hne c d rest hmore.symm hd
    simp [hs, hnil]
  · simp [ht]

/-- There is no delimiter in a piece that is the whole text. -/
theorem IsPiece.whole_ne {s t d rest : List Char} {c : Connector} (h : IsPiece s [])
    (hd : Delimiter c d) : s ≠ t ++ (d ++ rest) := by
  intro heq
  obtain ⟨b, tail, rfl, -⟩ := hd.exists_first
  exact h.uncut t (b :: tail ++ rest) heq (by simp) c (b :: tail) rest (List.append_nil _) hd

/-- Two delimiters at one place, each in front of a text without a blank, are one. -/
theorem Delimiter.unique {c c' : Connector} {d d' rest rest' : List Char} (h : Delimiter c d)
    (hrest : Stops isBlank rest) (h' : Delimiter c' d') (hrest' : Stops isBlank rest')
    (heq : d ++ rest = d' ++ rest') : c = c' ∧ d = d' ∧ rest = rest' := by
  have hread := readDelimiter_append h hrest
  rw [heq, readDelimiter_append h' hrest'] at hread
  cases hread
  exact ⟨rfl, List.append_cancel_right heq, rfl⟩

theorem Split.Exact.unique {s t : Split} (hs : s.Exact) (ht : t.Exact) (h : s.text = t.text) :
    s = t := by
  induction s generalizing t with
  | last piece =>
    cases t with
    | last other => exact congrArg Split.last h
    | cut other c d rest => exact absurd h (hs.whole_ne ht.2.1)
  | cut piece c d rest ih =>
    cases t with
    | last other => exact absurd h.symm (ht.whole_ne hs.2.1)
    | cut other c' d' rest' =>
      have hle := hs.1.length_le ht.2.1 h.symm
      have hge := ht.1.length_le hs.2.1 h
      obtain ⟨rfl, hback⟩ := List.append_inj h (Nat.le_antisymm hle hge)
      obtain ⟨rfl, rfl, hrest⟩ :=
        hs.2.1.unique hs.2.2.stops ht.2.1 ht.2.2.stops hback
      rw [ih hs.2.2 ht.2.2 hrest]

/-! ## Some split is exact -/

/-- What stands in front of the first delimiter is a piece, if no blank begins the text. -/
theorem isPiece_of_uncut {front d rest : List Char} {c : Connector}
    (hstart : ∀ x ∈ (front ++ (d ++ rest)).head?, isBlank x = false)
    (huncut : Uncut front (d ++ rest)) (hd : Delimiter c d) : IsPiece front (d ++ rest) := by
  refine ⟨?_, ?_, ?_, noneStarts_iff_uncut.mpr huncut⟩
  · rintro rfl
    obtain ⟨b, tail, rfl, hb⟩ := hd.exists_first
    have hnot := hstart b rfl
    rw [hb] at hnot
    contradiction
  · intro x hx
    exact hstart x (List.mem_head?_append_of_mem_head? hx)
  · -- a blank at its end would begin a delimiter
    intro b hb
    by_contra hblank
    obtain ⟨init, rfl⟩ := List.getLast?_eq_some_iff.mp hb
    exact noneStarts_iff_uncut.mpr huncut init [b] rfl (List.cons_ne_nil b []) c (b :: d) rest rfl
      (hd.cons_blank (by simpa using hblank))

theorem exists_exact_split {s : List Char} (hne : s ≠ [])
    (hstart : ∀ c ∈ s.head?, isBlank c = false) (hend : ∀ c ∈ s.getLast?, isBlank c = false) :
    ∃ split : Split, split.text = s ∧ split.Exact := by
  induction hn : s.length using Nat.strongRecOn generalizing s with
  | ind n ih =>
    by_cases hcut : Uncut s []
    · exact ⟨.last s, rfl, hne, hstart, hend, noneStarts_iff_uncut.mpr hcut⟩
    · obtain ⟨front, c, d, rest, rfl, huncut, hd, hrest⟩ := exists_first_delimiter hcut
      have hpiece := isPiece_of_uncut hstart huncut hd
      have hrestne : rest ≠ [] := by
        rintro rfl
        obtain ⟨init, b, rfl, hb⟩ := hd.exists_last
        have hnot := hend b (by simp)
        rw [hb] at hnot
        contradiction
      have hrestend : ∀ x ∈ rest.getLast?, isBlank x = false := by
        intro x hx
        apply hend x
        rw [← List.append_assoc]
        exact List.mem_getLast?_append_of_mem_getLast? hx
      have hlen := List.length_pos_iff.mpr hpiece.ne
      obtain ⟨split, rfl, hsplit⟩ := ih rest.length
        (by simp only [List.length_append] at hn; omega) hrestne hrest hrestend rfl
      exact ⟨.cut front c d split, rfl, hpiece, hd, hsplit⟩

/-! ## Trimming -/

theorem trimmed_starts (s : List Char) : ∀ c ∈ (trimmed s).head?, isBlank c = false := by
  intro c hc
  -- what is cut off at the end leaves the beginning as it is
  have hprefix : trimmed s <+: s.dropWhile isBlank := by
    unfold trimmed
    rw [← List.reverse_suffix, List.reverse_reverse]
    exact List.dropWhile_suffix isBlank
  obtain ⟨back, hback⟩ := hprefix
  apply stops_dropWhile isBlank s c
  rw [← hback]
  exact List.mem_head?_append_of_mem_head? hc

theorem trimmed_ends (s : List Char) : ∀ c ∈ (trimmed s).getLast?, isBlank c = false := by
  unfold trimmed
  rw [List.getLast?_reverse]
  exact stops_dropWhile isBlank _

theorem trimmed_blanks {s : List Char} (h : Blanks s) : trimmed s = [] := by
  unfold trimmed
  rw [List.dropWhile_eq_nil_iff.mpr h]
  rfl

/-! ## The law -/

/-- A query that is not blank is split exactly in one way, and its clauses are those of the split.
A blank query has none. -/
theorem a_query_is_split_in_one_way (query : String) :
    (Blanks query.toList → parse query = []) ∧
    (trimmed query.toList ≠ [] → ∃ split : Split,
      (split.text = trimmed query.toList ∧ split.Exact) ∧
      parse query = split.clauses ∧
      ∀ other : Split, other.text = trimmed query.toList → other.Exact → other = split) := by
  constructor
  · intro hblank
    unfold parse
    rw [trimmed_blanks hblank]
  · intro hne
    obtain ⟨split, htext, hsplit⟩ :=
      exists_exact_split hne (trimmed_starts _) (trimmed_ends _)
    refine ⟨split, ⟨htext, hsplit⟩, ?_, ?_⟩
    · rw [parse_of_trimmed_ne_nil hne, ← htext, hsplit.clauses_eq]
    · intro other hother hexact
      exact hexact.unique hsplit (hother.trans htext.symm)

/-- Of two connector words with one run of blanks between them, only the first cuts. -/
theorem adjacent_connectors_cut_once : parse "a:1 AND or b:2" =
    [⟨[⟨"a", .colon, "1"⟩], some .and⟩, ⟨[⟨"b", .colon, "2"⟩], none⟩] := by
  obtain ⟨split, -, hparse, honly⟩ := (a_query_is_split_in_one_way "a:1 AND or b:2").2 (by decide)
  have hsplit := honly (.cut "a:1".toList .and " AND ".toList (.last "or b:2".toList))
    (by decide) (by decide)
  rw [hparse, ← hsplit]
  decide +kernel

end Query

end CompanySearch
