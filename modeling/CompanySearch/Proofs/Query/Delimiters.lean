-- Where a query is cut. A delimiter is read in front of a text exactly if a connector word stands
-- there between two runs of blanks, and a text is cut at its first delimiter.
import CompanySearch.Query.Scan
import CompanySearch.Proofs.Text.Characters
import Mathlib.Data.List.TakeWhile

namespace CompanySearch

open Text

/-! ## Connector words -/

namespace Connector

def word : Connector → List Char
  | .and => ['a', 'n', 'd']
  | .or => ['o', 'r']

/-- The text is the word of the connector, in whatever case. -/
def NamedBy (c : Connector) (s : List Char) : Prop := asciiLower s = c.word

instance (c : Connector) (s : List Char) : Decidable (c.NamedBy s) :=
  inferInstanceAs (Decidable (asciiLower s = c.word))

theorem ofWord?_eq_some {s : List Char} {c : Connector} : ofWord? s = some c ↔ c.NamedBy s := by
  have hand : asciiLower "and".toList = and.word := by decide
  have hor : asciiLower "or".toList = or.word := by decide
  have hne : and.word ≠ or.word := by decide
  unfold ofWord? sameIgnoringAsciiCase NamedBy
  simp only [hand, hor, beq_iff_eq]
  split
  · cases c <;> simp_all
  · split
    · cases c <;> simp_all
    · cases c <;> simp_all

theorem NamedBy.length {c : Connector} {s : List Char} (h : c.NamedBy s) :
    s.length = c.word.length := by
  rw [← h]
  simp [asciiLower]

theorem NamedBy.isWord {c : Connector} {s : List Char} (h : c.NamedBy s) {x : Char}
    (hx : x ∈ s) : isWord x = true := by
  have hlow : x.toLower ∈ c.word := by
    rw [← h]
    exact List.mem_map_of_mem hx
  have hletters : ∀ y ∈ c.word, y.isLower = true := by
    cases c <;> decide
  exact isWord_of_isAlpha (isAlpha_of_toLower (hletters _ hlow))

/-- Two connector words cannot begin at the same place. -/
theorem NamedBy.not_both {s t : List Char} (h : or.NamedBy s) : ¬ and.NamedBy (s ++ t) := by
  intro h'
  unfold NamedBy asciiLower at h h'
  rw [List.map_append, h] at h'
  simp [word] at h'

end Connector

namespace Query

/-! ## Delimiters -/

def Blanks (s : List Char) : Prop := ∀ c ∈ s, isBlank c = true

instance (s : List Char) : Decidable (Blanks s) :=
  inferInstanceAs (Decidable (∀ c ∈ s, isBlank c = true))

/-- One blank or more. -/
def Gap (s : List Char) : Prop := s ≠ [] ∧ Blanks s

/-- A connector word between two runs of blanks. -/
def Delimiter (c : Connector) (d : List Char) : Prop :=
  ∃ before word after, d = before ++ word ++ after ∧ Gap before ∧ c.NamedBy word ∧ Gap after

theorem isBlank_of_mem_gap {s : List Char} (h : Gap s) : ∃ b rest, s = b :: rest ∧
    isBlank b = true := by
  obtain ⟨b, rest, rfl⟩ := List.exists_cons_of_ne_nil h.1
  exact ⟨b, rest, rfl, h.2 b List.mem_cons_self⟩

theorem Connector.NamedBy.stops {c : Connector} {s t : List Char} (h : c.NamedBy s) :
    Stops isBlank (s ++ t) := by
  cases s with
  | nil =>
    have hlen := h.length
    cases c <;> simp [Connector.word] at hlen
  | cons x s =>
    rw [List.cons_append, stops_cons]
    exact not_isBlank_of_isWord (h.isWord List.mem_cons_self)

theorem readConnector_eq_some {s rest : List Char} {c : Connector}
    (h : readConnector s = some (c, rest)) : ∃ word, c.NamedBy word ∧ s = word ++ rest := by
  unfold readConnector at h
  split at h
  · split at h
    · rename_i hword
      cases h
      exact ⟨_, Connector.ofWord?_eq_some.mp hword, rfl⟩
    · obtain ⟨c', hword, heq⟩ := Option.map_eq_some_iff.mp h
      cases heq
      exact ⟨_, Connector.ofWord?_eq_some.mp hword, rfl⟩
  · obtain ⟨c', hword, heq⟩ := Option.map_eq_some_iff.mp h
    cases heq
    exact ⟨_, Connector.ofWord?_eq_some.mp hword, (List.append_nil _).symm⟩
  · contradiction

theorem readConnector_append {c : Connector} {word : List Char} (h : c.NamedBy word) {b : Char}
    (rest : List Char) : readConnector (word ++ b :: rest) = some (c, b :: rest) := by
  have hlen := h.length
  cases c with
  | and =>
    obtain ⟨x, y, z, rfl⟩ := List.length_eq_three.mp hlen
    simp [readConnector, Connector.ofWord?_eq_some.mpr h]
  | or =>
    obtain ⟨x, y, rfl⟩ := List.length_eq_two.mp hlen
    have hlong : Connector.ofWord? [x, y, b] = none := by
      rw [Option.eq_none_iff_forall_not_mem]
      intro c hc
      have hnamed := Connector.ofWord?_eq_some.mp hc
      cases c with
      | and => exact h.not_both (t := [b]) hnamed
      | or => simpa [Connector.word] using hnamed.length
    simp [readConnector, hlong, Connector.ofWord?_eq_some.mpr h]

theorem readDelimiter_append {c : Connector} {d rest : List Char} (h : Delimiter c d)
    (hrest : Stops isBlank rest) : readDelimiter (d ++ rest) = some (c, rest) := by
  obtain ⟨before, word, after, rfl, hbefore, hword, hafter⟩ := h
  obtain ⟨b, more, rfl, hb⟩ := isBlank_of_mem_gap hafter
  have hstop := Connector.NamedBy.stops hword (t := b :: more ++ rest)
  unfold readDelimiter
  rw [List.append_assoc, List.append_assoc, takeWhile_run hbefore.2 hstop,
    dropWhile_run hbefore.2 hstop, List.cons_append, readConnector_append hword]
  simp only [← List.cons_append, takeWhile_run hafter.2 hrest, dropWhile_run hafter.2 hrest]
  simp [hbefore.1]

theorem readDelimiter_eq_some {s rest : List Char} {c : Connector}
    (h : readDelimiter s = some (c, rest)) :
    ∃ d, Delimiter c d ∧ s = d ++ rest ∧ Stops isBlank rest := by
  unfold readDelimiter at h
  split at h
  · contradiction
  · rename_i hbefore
    split at h
    · contradiction
    · rename_i connector tail hconnector
      split at h
      · contradiction
      · rename_i hafter
        cases h
        obtain ⟨word, hword, htail⟩ := readConnector_eq_some hconnector
        refine ⟨s.takeWhile isBlank ++ word ++ tail.takeWhile isBlank,
          ⟨_, word, _, rfl, ⟨by simpa using hbefore, ?_⟩, hword, ⟨by simpa using hafter, ?_⟩⟩,
          ?_, stops_dropWhile isBlank tail⟩
        · exact fun x hx => List.mem_takeWhile_imp hx
        · exact fun x hx => List.mem_takeWhile_imp hx
        · rw [List.append_assoc, List.takeWhile_append_dropWhile, List.append_assoc, ← htail,
            List.takeWhile_append_dropWhile]

/-- A delimiter that blanks follow is a longer delimiter. -/
theorem Delimiter.append_blanks {c : Connector} {d w : List Char} (h : Delimiter c d)
    (hw : Blanks w) : Delimiter c (d ++ w) := by
  obtain ⟨before, word, after, rfl, hbefore, hword, hafter⟩ := h
  refine ⟨before, word, after ++ w, by simp, hbefore, hword, by simp [hafter.1], ?_⟩
  intro x hx
  rcases List.mem_append.mp hx with hx | hx
  · exact hafter.2 x hx
  · exact hw x hx

/-- A delimiter is read exactly where one stands. -/
theorem readDelimiter_ne_none {s : List Char} :
    readDelimiter s ≠ none ↔ ∃ c d rest, s = d ++ rest ∧ Delimiter c d := by
  constructor
  · intro h
    obtain ⟨⟨c, rest⟩, hread⟩ := Option.ne_none_iff_exists'.mp h
    obtain ⟨d, hd, hs, -⟩ := readDelimiter_eq_some hread
    exact ⟨c, d, rest, hs, hd⟩
  · rintro ⟨c, d, rest, rfl, hd⟩
    have hlong := hd.append_blanks (w := rest.takeWhile isBlank)
      fun x hx => List.mem_takeWhile_imp hx
    have hread := readDelimiter_append hlong (stops_dropWhile isBlank rest)
    rw [List.append_assoc, List.takeWhile_append_dropWhile] at hread
    simp [hread]

theorem readDelimiter_eq_none {s : List Char} :
    readDelimiter s = none ↔ ∀ c d rest, s = d ++ rest → ¬ Delimiter c d := by
  rw [← not_iff_not, ← ne_eq, readDelimiter_ne_none]
  push Not
  rfl

/-! ## Where no delimiter starts -/

/-- A connector word with a blank on either side occurs in the text. -/
def HasConnector (s : List Char) : Prop :=
  ∃ front a word b back, ∃ c : Connector, s = front ++ a :: word ++ b :: back ∧
    isBlank a = true ∧ c.NamedBy word ∧ isBlank b = true

/-- A connector word that a blank follows begins the text. -/
def StartsConnector (s : List Char) : Prop :=
  ∃ word b back, ∃ c : Connector, s = word ++ b :: back ∧ c.NamedBy word ∧ isBlank b = true

/-- In a text of two parts no delimiter starts in the front part. -/
def Uncut : List Char → List Char → Prop
  | [], _ => True
  | a :: front, back => readDelimiter (a :: front ++ back) = none ∧ Uncut front back

theorem Uncut.append {s t back : List Char} (hs : Uncut s (t ++ back)) (ht : Uncut t back) :
    Uncut (s ++ t) back := by
  induction s with
  | nil => exact ht
  | cons a s ih =>
    refine ⟨?_, ih hs.2⟩
    simpa using hs.1

/-- What is read as a delimiter has a connector word in it, with only blanks in front. -/
theorem connector_of_readDelimiter {s : List Char} (h : readDelimiter s ≠ none) :
    ∃ front a word b back, ∃ c : Connector, s = front ++ a :: word ++ b :: back ∧ Blanks front ∧
      isBlank a = true ∧ c.NamedBy word ∧ isBlank b = true := by
  obtain ⟨⟨c, rest⟩, hread⟩ := Option.ne_none_iff_exists'.mp h
  obtain ⟨d, ⟨before, word, after, rfl, hbefore, hword, hafter⟩, rfl, -⟩ :=
    readDelimiter_eq_some hread
  obtain ⟨b, more, rfl, hb⟩ := isBlank_of_mem_gap hafter
  obtain ⟨front, a, rfl⟩ := List.eq_nil_or_concat before |>.resolve_left hbefore.1
  exact ⟨front, a, word, b, more ++ rest, c, by simp, fun x hx => hbefore.2 x (by simp [hx]),
    hbefore.2 a (by simp), hword, hb⟩

theorem hasConnector_cons {x : Char} {s : List Char} :
    HasConnector (x :: s) ↔ readDelimiter (x :: s) ≠ none ∨ HasConnector s := by
  constructor
  · rintro ⟨front, a, word, b, back, c, heq, ha, hword, hb⟩
    cases front with
    | nil =>
      have hdelimiter : Delimiter c ([a] ++ word ++ [b]) :=
        ⟨[a], word, [b], rfl, ⟨by simp, by simpa [Blanks] using ha⟩, hword, by simp,
          by simpa [Blanks] using hb⟩
      exact .inl (readDelimiter_ne_none.mpr ⟨c, _, back, by simp [heq], hdelimiter⟩)
    | cons y front =>
      rw [List.cons_append, List.cons_append, List.cons.injEq] at heq
      exact .inr ⟨front, a, word, b, back, c, heq.2, ha, hword, hb⟩
  · rintro (hread | ⟨front, a, word, b, back, c, rfl, ha, hword, hb⟩)
    · obtain ⟨front, a, word, b, back, c, heq, -, ha, hword, hb⟩ :=
        connector_of_readDelimiter hread
      exact ⟨front, a, word, b, back, c, heq, ha, hword, hb⟩
    · exact ⟨x :: front, a, word, b, back, c, rfl, ha, hword, hb⟩

/-- In a text as a whole no delimiter starts exactly if no connector word is in it. -/
theorem uncut_iff {s : List Char} : Uncut s [] ↔ ¬ HasConnector s := by
  induction s with
  | nil => simp [Uncut, HasConnector]
  | cons a s ih =>
    unfold Uncut
    rw [ih, List.append_nil, hasConnector_cons]
    simp

instance decidableUncut : (s t : List Char) → Decidable (Uncut s t)
  | [], _ => .isTrue trivial
  | a :: s, t =>
    have := decidableUncut s t
    inferInstanceAs (Decidable (readDelimiter (a :: s ++ t) = none ∧ Uncut s t))

instance (s : List Char) : Decidable (HasConnector s) :=
  decidable_of_iff (¬ Uncut s []) (by rw [uncut_iff, Classical.not_not])

/-- A delimiter is read only behind a blank, and in front of a connector word. -/
theorem startsConnector_of_readDelimiter {s : List Char} (h : readDelimiter s ≠ none) :
    s.takeWhile isBlank ≠ [] ∧ StartsConnector (s.dropWhile isBlank) := by
  obtain ⟨front, a, word, b, back, c, rfl, hfront, ha, hword, hb⟩ := connector_of_readDelimiter h
  have hblanks : ∀ x ∈ front ++ [a], isBlank x = true := by
    intro x hx
    rcases List.mem_append.mp hx with hx | hx
    · exact hfront x hx
    · rw [List.mem_singleton.mp hx]
      exact ha
  have hstop := Connector.NamedBy.stops hword (t := b :: back)
  have hassoc : front ++ a :: word ++ b :: back = (front ++ [a]) ++ (word ++ b :: back) := by
    simp
  rw [hassoc, takeWhile_run hblanks hstop, dropWhile_run hblanks hstop]
  exact ⟨by simp, word, b, back, c, rfl, hword, hb⟩

theorem uncut_of_no_blank {s : List Char} (h : ∀ c ∈ s, isBlank c = false) (back : List Char) :
    Uncut s back := by
  induction s with
  | nil => trivial
  | cons a s ih =>
    refine ⟨?_, ih fun c hc => h c (List.mem_cons_of_mem a hc)⟩
    by_contra hread
    have hne := (startsConnector_of_readDelimiter hread).1
    rw [List.cons_append, List.takeWhile_cons, h a List.mem_cons_self] at hne
    exact hne rfl

/-- Blanks cut nothing when no connector word follows them. -/
theorem uncut_of_blanks {w back : List Char} (hw : Blanks w) (hback : Stops isBlank back)
    (h : ¬ StartsConnector back) : Uncut w back := by
  induction w with
  | nil => trivial
  | cons a w ih =>
    refine ⟨?_, ih fun c hc => hw c (List.mem_cons_of_mem a hc)⟩
    by_contra hread
    have hstarts := (startsConnector_of_readDelimiter hread).2
    rw [dropWhile_run hw hback] at hstarts
    exact h hstarts

theorem not_startsConnector_of_stops {s : List Char} (h : Stops isWord s) :
    ¬ StartsConnector s := by
  rintro ⟨word, b, back, c, rfl, hword, -⟩
  have hlen := hword.length
  cases word with
  | nil => cases c <;> simp [Connector.word] at hlen
  | cons x word =>
    rw [List.cons_append, stops_cons, hword.isWord List.mem_cons_self] at h
    contradiction

/-- A whole run of word characters that is no connector word. -/
theorem not_startsConnector_of_field {field back : List Char}
    (hfield : ∀ c ∈ field, isWord c = true) (hback : Stops isWord back)
    (h : ∀ c : Connector, ¬ c.NamedBy field) : ¬ StartsConnector (field ++ back) := by
  rintro ⟨word, b, rest, c, heq, hword, hb⟩
  have hrun := eq_of_runs hfield hback (fun x => hword.isWord)
    (stops_cons.mpr (not_isWord_of_isBlank hb)) heq
  exact h c (hrun.1 ▸ hword)

/-- What has no quote in it and ends in front of a quote begins the text up to there. -/
theorem isPrefix_of_quote {s t v back : List Char} (hs : '"' ∉ s)
    (heq : v ++ '"' :: back = s ++ t) : s <+: v := by
  rcases List.append_eq_append_iff.mp heq with ⟨more, rfl, hback⟩ | ⟨more, rfl, -⟩
  · cases more with
    | nil => simp
    | cons x more =>
      rw [List.cons_append, List.cons.injEq] at hback
      simp [← hback.1] at hs
  · exact List.prefix_append s more

/-- A value between quotes is cut only if there is a connector word in it. -/
theorem uncut_of_value {v : List Char} (hquote : '"' ∉ v) (h : ¬ HasConnector v)
    (back : List Char) : Uncut v ('"' :: back) := by
  induction v with
  | nil => trivial
  | cons a v ih =>
    refine ⟨?_, ih (fun hv => hquote (List.mem_cons_of_mem a hv)) ?_⟩
    · by_contra hread
      obtain ⟨front, x, word, b, rest, c, heq, hfront, hx, hword, hb⟩ :=
        connector_of_readDelimiter hread
      have hnone : '"' ∉ front ++ x :: word ++ [b] := by
        intro hq
        rcases List.mem_append.mp hq with hq | hq
        · rcases List.mem_append.mp hq with hq | hq
          · exact absurd (hfront _ hq) (by decide)
          · rcases List.mem_cons.mp hq with hq | hq
            · exact absurd (hq ▸ hx) (by decide)
            · exact absurd (hword.isWord hq) (by decide)
        · exact absurd (List.mem_singleton.mp hq ▸ hb) (by decide)
      obtain ⟨tail, htail⟩ : front ++ x :: word ++ [b] <+: a :: v :=
        isPrefix_of_quote hnone (t := rest) (by simpa using heq)
      exact h ⟨front, x, word, b, tail, c, by simp [← htail], hx, hword, hb⟩
    · rintro ⟨front, x, word, b, rest, c, rfl, hx, hword, hb⟩
      exact h ⟨a :: front, x, word, b, rest, c, rfl, hx, hword, hb⟩

/-! ## Pieces -/

theorem pieces_of_delimiter {s rest : List Char} {c : Connector}
    (h : readDelimiter s = some (c, rest)) : pieces s = ⟨[], some c⟩ :: pieces rest := by
  cases s with
  | nil => simp [readDelimiter] at h
  | cons a s =>
    rw [pieces]
    split
    · rename_i heq
      rw [h] at heq
      cases heq
      rfl
    · rename_i heq
      rw [h] at heq
      contradiction

theorem pieces_of_none {a : Char} {s : List Char} (h : readDelimiter (a :: s) = none) :
    pieces (a :: s) = consChar a (pieces s) := by
  rw [pieces]
  split
  · rename_i heq
    rw [h] at heq
    contradiction
  · rfl

/-- A text without delimiters is one piece. -/
theorem pieces_of_uncut {s : List Char} (h : Uncut s []) : pieces s = [⟨s, none⟩] := by
  induction s with
  | nil => rw [pieces]
  | cons a s ih =>
    have hnone := h.1
    rw [List.append_nil] at hnone
    rw [pieces_of_none hnone, ih h.2]
    rfl

/-- A text is cut at the first of its delimiters. -/
theorem pieces_append {s t rest : List Char} {c : Connector} (h : Uncut s t)
    (ht : readDelimiter t = some (c, rest)) : pieces (s ++ t) = ⟨s, some c⟩ :: pieces rest := by
  induction s with
  | nil => exact pieces_of_delimiter ht
  | cons a s ih =>
    have hnone : readDelimiter (a :: (s ++ t)) = none := h.1
    rw [List.cons_append, pieces_of_none hnone, ih h.2]
    rfl

theorem parse_of_trimmed_ne_nil {query : String} (h : trimmed query.toList ≠ []) :
    parse query = (pieces (trimmed query.toList)).map Piece.toClause := by
  unfold parse
  split
  · contradiction
  · rfl

end Query

end CompanySearch
