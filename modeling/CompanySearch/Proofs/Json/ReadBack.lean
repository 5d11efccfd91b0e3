-- Values of the data format that are read back from their text: null, texts, integers, and objects
-- of such values. What follows a value in a text does not run into it.
import CompanySearch.Json.Reader
import CompanySearch.Json.Writer
import CompanySearch.Proofs.Json.Strings
import CompanySearch.Proofs.Number.Digits
import CompanySearch.Proofs.Text.Characters
import Mathlib.Data.List.TakeDrop

namespace CompanySearch.Json

open Number Text

/-- A character that goes on with a number in front of it. -/
def goesOn (c : Char) : Bool := c.isDigit || c == '.' || c == 'e' || c == 'E'

/-- The value is read from its text, up to what follows. -/
def ReadsBack (v : Json) : Prop :=
  ∀ (fuel : Nat) (rest : List Char), v.chars.length ≤ fuel → Stops goesOn rest →
    readPart readString fuel (v.chars ++ rest) = some (v, rest)

theorem skipSpace_cons {c : Char} (hc : isSpace c = false) (s : List Char) :
    skipSpace (c :: s) = c :: s := (stops_cons.mpr hc).dropWhile

/-! ## Integers -/

section integers

variable {rest : List Char} (hrest : Stops goesOn rest)
include hrest

theorem readPlaces_stops : readPlaces rest = some ([], rest) := by
  unfold readPlaces
  split
  · exact absurd (stops_cons.mp hrest) (by decide)
  · rfl

theorem readPower_stops : readPower rest = some ([], rest) := by
  cases rest with
  | nil => rfl
  | cons c rest =>
    have hc := stops_cons.mp hrest
    unfold goesOn at hc
    simp only [Bool.or_eq_false_iff] at hc
    simp [readPower, hc.1.2, hc.2]

theorem readWhole_digits (n : Nat) :
    readWhole (Nat.toDigits 10 n ++ rest) = some (Nat.toDigits 10 n, rest) := by
  have hdigit : Stops Char.isDigit rest := fun c hc => by
    have hstop := hrest c hc
    unfold goesOn at hstop
    simp only [Bool.or_eq_false_iff] at hstop
    exact hstop.1.1.1
  by_cases hn : n = 0
  · subst hn
    unfold readWhole
    cases rest with
    | nil => rfl
    | cons c rest =>
      simp [stops_cons.mp hdigit]
  · obtain ⟨c, more, hdigits, hc⟩ := exists_first_digit (Nat.pos_of_ne_zero hn)
    have hspan : spanDigits (Nat.toDigits 10 n ++ rest) = (Nat.toDigits 10 n, rest) := by
      unfold spanDigits
      rw [List.span_eq_takeWhile_dropWhile, takeWhile_run isDigit_of_mem_digits hdigit,
        dropWhile_run isDigit_of_mem_digits hdigit]
    rw [hdigits, List.cons_append] at hspan ⊢
    unfold readWhole
    split
    · rename_i heq
      exact absurd (List.cons.inj heq).1 hc
    · simp only [hspan]
      rfl

/-- An integer is read to its end. -/
theorem readNumber_int (n : Int) :
    readNumber ((toString n).toList ++ rest) = some ((toString n).toList, rest) := by
  have hplaces := readPlaces_stops hrest
  have hpower := readPower_stops hrest
  have hwhole := readWhole_digits hrest n.natAbs
  rw [toList_int]
  by_cases hn : n < 0
  · simp [readNumber, hn, hwhole, hplaces, hpower]
  · obtain ⟨c, more, hdigits, hdigit⟩ := exists_digit_front n.natAbs
    have hc : c ≠ '-' := by
      rintro rfl
      contradiction
    rw [if_neg hn, List.nil_append]
    rw [hdigits, List.cons_append] at hwhole ⊢
    simp [readNumber, hc, hwhole, hplaces, hpower]

end integers

/-! ## Values -/

theorem readsBack_null : ReadsBack .null := by
  intro fuel rest hfuel _
  obtain ⟨fuel, rfl⟩ := Nat.exists_eq_add_of_le' (Nat.le_trans (by decide) hfuel : 1 ≤ fuel)
  rfl

theorem readsBack_text (s : String) : ReadsBack (.text s) := by
  intro fuel rest hfuel _
  obtain ⟨fuel, rfl⟩ : ∃ n, fuel = n + 1 := by
    refine ⟨fuel - 1, ?_⟩
    simp [chars, stringChars] at hfuel
    omega
  have hlayout : (Json.text s).chars ++ rest =
      '"' :: (s.toList.flatMap escapedChar ++ '"' :: rest) := by simp [chars, stringChars]
  rw [hlayout, readPart, skipSpace_cons (by decide)]
  simp only [(spells_escaped s.toList).readString rest, Option.map_some, String.ofList_toList]

/-- A digit or a minus sign begins a number and nothing else. -/
theorem readPart_number {c : Char} (hc : c.isDigit = true ∨ c = '-') (fuel : Nat)
    (more : List Char) :
    readPart readString (fuel + 1) (c :: more) =
      (readNumber (c :: more)).map fun p => (.number (String.ofList p.1), p.2) := by
  have hne {d : Char} (hd : (d.isDigit || d == '-') = false) : c ≠ d := by
    rintro rfl
    simp only [Bool.or_eq_false_iff, beq_eq_false_iff_ne] at hd
    rcases hc with hdigit | hsign
    · rw [hd.1] at hdigit
      contradiction
    · exact hd.2 hsign
  have hspace : isSpace c = false := by
    simp only [isSpace, Bool.or_eq_false_iff, beq_eq_false_iff_ne]
    exact ⟨⟨⟨hne (by decide), hne (by decide)⟩, hne (by decide)⟩, hne (by decide)⟩
  rw [readPart, skipSpace_cons hspace]
  split <;> rename_i heq <;>
    first | rfl | exact absurd (List.cons.inj heq).1 (hne (by decide))

theorem readsBack_ofInt (n : Int) : ReadsBack (.ofInt n) := by
  intro fuel rest hfuel hrest
  obtain ⟨c, more, hchars, hc⟩ : ∃ c more, (toString n).toList = c :: more ∧
      (c.isDigit = true ∨ c = '-') := by
    rw [toList_int]
    by_cases hn : n < 0
    · exact ⟨'-', _, by rw [if_pos hn]; rfl, .inr rfl⟩
    · obtain ⟨c, more, hdigits, hdigit⟩ := exists_digit_front n.natAbs
      exact ⟨c, more, by rw [if_neg hn, hdigits]; rfl, .inl hdigit⟩
  have hnumber := readNumber_int hrest n
  have hlayout : (ofInt n).chars = c :: more := hchars
  rw [hlayout, List.length_cons] at hfuel
  obtain ⟨fuel, rfl⟩ := Nat.exists_eq_add_of_le' (Nat.le_trans (Nat.le_add_left 1 _) hfuel)
  rw [hlayout, List.cons_append, readPart_number hc, ← List.cons_append, ← hchars, hnumber]
  simp [ofInt]

/-! ## Objects -/

/-- The text of a member. -/
def memberText (p : String × Json) : List Char := stringChars p.1.toList ++ ':' :: p.2.chars

theorem memberChars_eq (members : List (String × Json)) :
    memberChars members = members.map memberText := by
  induction members with
  | nil => rfl
  | cons p members ih => rw [memberChars, ih, List.map_cons, memberText]

theorem commaParted_cons (s t : List Char) (rest : List (List Char)) :
    commaParted (s :: t :: rest) = s ++ ',' :: commaParted (t :: rest) := rfl

/-- What is read on behind a member: the end of the object, or a comma and more members. -/
def readBehind (p : String × Json) (fuel : Nat) (back : List Char) :
    Option (List (String × Json) × List Char) :=
  match skipSpace back with
  | '\x7d' :: rest => some ([p], rest)
  | ',' :: rest =>
    (readMembers readString fuel rest).map fun (members, rest) => (p :: members, rest)
  | _ => none

/-- A member whose value is read back is read up to what follows it. -/
theorem readMembers_member {p : String × Json} (h : ReadsBack p.2) {fuel : Nat}
    (hfuel : (memberText p).length ≤ fuel) {back : List Char} (hback : Stops goesOn back) :
    readMembers readString (fuel + 1) (memberText p ++ back) = readBehind p fuel back := by
  have hlayout : memberText p ++ back =
      '"' :: (p.1.toList.flatMap escapedChar ++ '"' :: (':' :: (p.2.chars ++ back))) := by
    simp [memberText, stringChars]
  have hvalue : p.2.chars.length ≤ fuel := by
    rw [memberText, List.length_append, List.length_cons] at hfuel
    omega
  rw [hlayout, readMembers, skipSpace_cons (by decide)]
  simp only [(spells_escaped p.1.toList).readString, skipSpace_cons (c := ':') (by decide),
    h fuel back hvalue hback, String.ofList_toList]
  rfl

section members

variable {members : List (String × Json)} (h : ∀ p ∈ members, ReadsBack p.2)
include h

/-- Members are read in turn up to the closing brace. -/
theorem readMembers_written (hne : members ≠ []) (fuel : Nat)
    (hfuel : (commaParted (members.map memberText)).length < fuel) (rest : List Char) :
    readMembers readString fuel (commaParted (members.map memberText) ++ '\x7d' :: rest) =
      some (members, rest) := by
  induction members generalizing fuel with
  | nil => contradiction
  | cons p members ih =>
    obtain ⟨fuel, rfl⟩ : ∃ n, fuel = n + 1 := ⟨fuel - 1, by omega⟩
    have hp := h p List.mem_cons_self
    cases members with
    | nil =>
      simp only [List.map_cons, List.map_nil, commaParted] at hfuel ⊢
      rw [readMembers_member hp (by omega) (stops_cons.mpr (by decide)), readBehind,
        skipSpace_cons (by decide)]
      rfl
    | cons q members =>
      rw [List.map_cons, List.map_cons, commaParted_cons, ← List.map_cons] at hfuel ⊢
      rw [List.length_append, List.length_cons] at hfuel
      have hrest := ih (fun q hq => h q (List.mem_cons_of_mem p hq)) (List.cons_ne_nil _ _) fuel
        (by omega)
      rw [List.append_assoc, List.cons_append,
        readMembers_member hp (by omega) (stops_cons.mpr (by decide)), readBehind,
        skipSpace_cons (by decide)]
      simp only [hrest, Option.map_some]

theorem readsBack_object : ReadsBack (.object members) := by
  intro fuel rest hfuel _
  rw [chars, memberChars_eq, List.length_append, List.length_cons, List.length_singleton] at hfuel
  obtain ⟨fuel, rfl⟩ : ∃ n, fuel = n + 1 := ⟨fuel - 1, by omega⟩
  rw [chars, memberChars_eq]
  cases members with
  | nil => rfl
  | cons p members =>
    have hmembers := readMembers_written h (List.cons_ne_nil p members) fuel (by omega) rest
    obtain ⟨more, hfront⟩ : ∃ more, commaParted ((p :: members).map memberText) = '"' :: more := by
      cases members with
      | nil => exact ⟨_, rfl⟩
      | cons q members => exact ⟨_, rfl⟩
    rw [hfront] at hmembers ⊢
    simp only [List.cons_append, List.append_assoc, List.nil_append] at hmembers ⊢
    rw [readPart, skipSpace_cons (by decide)]
    change (readMembers readString fuel ('"' :: (more ++ '\x7d' :: rest))).map _ = _
    rw [hmembers]
    rfl

end members

/-! ## Whole texts -/

section whole

variable {v w : Json}

/-- A value is what its text is read as. -/
theorem ReadsBack.read (h : ReadsBack v) : read v.write = some v := by
  have hvalue := h (v.chars.length + 1) [] (Nat.le_succ _) (by simp [Stops])
  rw [List.append_nil] at hvalue
  unfold Json.read readValue write
  rw [String.toList_ofList, hvalue]
  rfl

/-- Two values that are read back do not share a text. -/
theorem ReadsBack.write_inj (h : ReadsBack v) (h' : ReadsBack w) (heq : v.write = w.write) :
    v = w := by
  have hread := h.read
  rw [heq, h'.read] at hread
  exact (Option.some.inj hread).symm

end whole

end CompanySearch.Json
