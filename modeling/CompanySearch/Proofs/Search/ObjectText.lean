-- Bodies that are one object of named texts. However it is laid out, such a body is read as the
-- request that its members give, and it is refused exactly when they give some part twice.
import CompanySearch.Proofs.Json.Strings
import CompanySearch.Proofs.Text.Characters
import CompanySearch.Search.Reading

namespace CompanySearch.Search

open CompanySearch.Json CompanySearch.Text

/-! ## Layout -/

/-- Blanks of the data format and nothing else. -/
def Spaces (w : List Char) : Prop := ∀ c ∈ w, isSpace c = true

instance (w : List Char) : Decidable (Spaces w) :=
  inferInstanceAs (Decidable (∀ c ∈ w, isSpace c = true))

/-- The text writes the member: its name and its value between quotes, with a colon between them
and blanks around it or none. -/
def WritesMember (p : String × String) (s : List Char) : Prop :=
  ∃ name w w' value, Spells p.1.toList name ∧ Spaces w ∧ Spaces w' ∧ Spells p.2.toList value ∧
    s = '"' :: (name ++ '"' :: (w ++ ':' :: (w' ++ '"' :: (value ++ ['"']))))

/-- The text writes the members in turn, with commas between them and blanks behind each. -/
inductive WritesMembers : List (String × String) → List Char → Prop
  | last {p : String × String} {s w : List Char} : WritesMember p s → Spaces w →
      WritesMembers [p] (s ++ w)
  | cons {p : String × String} {ps : List (String × String)} {s w w' t : List Char} :
      WritesMember p s → Spaces w → Spaces w' → WritesMembers ps t →
      WritesMembers (p :: ps) (s ++ (w ++ ',' :: (w' ++ t)))

/-- The text writes an object of these members. -/
inductive WritesObject : List (String × String) → List Char → Prop
  | empty {w : List Char} : Spaces w → WritesObject [] ('\x7b' :: (w ++ ['\x7d']))
  | full {ps : List (String × String)} {w s : List Char} : Spaces w → WritesMembers ps s →
      WritesObject ps ('\x7b' :: (w ++ (s ++ ['\x7d'])))

/-- The body writes an object of these members, with blanks at its ends or without. -/
def WritesBody (ps : List (String × String)) (body : List Char) : Prop :=
  ∃ w s w', Spaces w ∧ WritesObject ps s ∧ Spaces w' ∧ body = w ++ (s ++ w')

theorem spaces_nil : Spaces [] := by simp [Spaces]

theorem exists_writesMembers {ps : List (String × String)} (h : ps ≠ []) :
    ∃ s, WritesMembers ps s := by
  have hone (p : String × String) : ∃ s, WritesMember p s :=
    ⟨_, _, [], [], _, spells_escaped _, spaces_nil, spaces_nil, spells_escaped _, rfl⟩
  induction ps with
  | nil => contradiction
  | cons p ps ih =>
    obtain ⟨s, hs⟩ := hone p
    cases ps with
    | nil => exact ⟨_, .last hs spaces_nil⟩
    | cons q ps =>
      obtain ⟨t, ht⟩ := ih (List.cons_ne_nil q ps)
      exact ⟨_, .cons hs spaces_nil spaces_nil ht⟩

theorem exists_writesBody (ps : List (String × String)) : ∃ body, WritesBody ps body := by
  have hobject : ∃ s, WritesObject ps s := by
    cases ps with
    | nil => exact ⟨_, .empty spaces_nil⟩
    | cons p ps =>
      obtain ⟨s, hs⟩ := exists_writesMembers (List.cons_ne_nil p ps)
      exact ⟨_, .full spaces_nil hs⟩
  obtain ⟨s, hs⟩ := hobject
  exact ⟨_, [], s, [], spaces_nil, hs, spaces_nil, rfl⟩

/-! ## Blanks -/

theorem skipSpace_run {w : List Char} (hw : Spaces w) {c : Char} (hc : isSpace c = false)
    (s : List Char) : skipSpace (w ++ c :: s) = c :: s := dropWhile_run hw (stops_cons.mpr hc)

/-! ## Values -/

section values

variable {w t s : List Char} (hw : Spaces w) (hs : Spells t s) (back : List Char)
include hw hs

theorem readText_spelled :
    readText (w ++ '"' :: (s ++ '"' :: back)) = .ok (String.ofList t, back) := by
  unfold readText
  rw [skipSpace_run hw (by decide)]
  simp only [hs.readString]
  rfl

theorem readOptionalText_spelled :
    readOptionalText (w ++ '"' :: (s ++ '"' :: back)) = .ok (some (String.ofList t), back) := by
  have hread := readText_spelled spaces_nil hs back
  rw [List.nil_append] at hread
  unfold readOptionalText
  rw [skipSpace_run hw (by decide)]
  change (readText ('"' :: (s ++ '"' :: back))).map _ = _
  rw [hread]
  rfl

/-- Each part takes a text as its value. -/
theorem readPart_spelled (p : Request.Part) :
    readPart p (w ++ '"' :: (s ++ '"' :: back)) = .ok (some (String.ofList t), back) := by
  cases p with
  | text =>
    unfold readPart
    simp only [readText_spelled hw hs]
    rfl
  | sortField => exact readOptionalText_spelled hw hs back
  | sortOrder => exact readOptionalText_spelled hw hs back
  | algorithm => exact readOptionalText_spelled hw hs back

theorem skipValue_spelled : skipValue (w ++ '"' :: (s ++ '"' :: back)) = some back := by
  unfold skipValue Json.readPart
  rw [skipSpace_run hw (by decide)]
  simp only [hs.skipString, Option.map_some]

end values

/-! ## Members -/

/-- Takes in named texts in turn. -/
def Request.Draft.putAll? (d : Request.Draft) (ps : List (String × String)) :
    Option Request.Draft :=
  ps.foldlM (fun d p => Request.Draft.put? d p.1 p.2) d

theorem Request.Draft.putAll?_cons (d : Request.Draft) (p : String × String)
    (ps : List (String × String)) :
    d.putAll? (p :: ps) = (d.put? p.1 p.2).bind fun d => d.putAll? ps := by
  unfold putAll?
  rw [List.foldlM_cons]
  rfl

theorem ofPairs?_eq (ps : List (String × String)) :
    Request.ofPairs? ps = (Request.Draft.empty.putAll? ps).map Request.Draft.complete := rfl

/-- What follows, or the fault of a part given twice. -/
def orMismatch : Option α → Except BodyFault α
  | some a => .ok a
  | none => .error .mismatch

/-- A member whose name has been read adds its value to the draft. -/
theorem readMember_spelled (d : Request.Draft) (name : String) {w w' t s : List Char}
    (hw : Spaces w) (hw' : Spaces w') (hs : Spells t s) (back : List Char) :
    readMember d name (w ++ ':' :: (w' ++ '"' :: (s ++ '"' :: back))) =
      (orMismatch (d.put? name (String.ofList t))).map fun d => (d, back) := by
  unfold readMember Request.Draft.put?
  rw [skipSpace_run hw (by decide)]
  cases hp : Request.Part.ofName? name with
  | none =>
    simp only [bind, Except.bind, skipValue_spelled hw' hs]
    rfl
  | some p =>
    by_cases hgiven : p.given d = true
    · simp only [hgiven, if_true]
      rfl
    · simp only [hgiven, bind, Except.bind, readPart_spelled hw' hs]
      rfl

/-- What is read behind a member. -/
def readOn (fuel : Nat) (s : List Char) (d : Request.Draft) :
    Except BodyFault (Request.Draft × List Char) :=
  match skipSpace s with
  | '\x7d' :: rest => .ok (d, rest)
  | ',' :: rest => readMembers fuel d (skipSpace rest)
  | _ => .error .malformed

section behind

variable {w w' : List Char} (hw : Spaces w) (fuel : Nat) (d : Request.Draft)
include hw

theorem readOn_close (back : List Char) : readOn fuel (w ++ '\x7d' :: back) d = .ok (d, back) := by
  unfold readOn
  rw [skipSpace_run hw (by decide)]
  rfl

theorem readOn_comma (hw' : Spaces w') (more : List Char) :
    readOn fuel (w ++ ',' :: (w' ++ '"' :: more)) d = readMembers fuel d ('"' :: more) := by
  unfold readOn
  rw [skipSpace_run hw (by decide)]
  change readMembers fuel d (skipSpace (w' ++ '"' :: more)) = _
  rw [skipSpace_run hw' (by decide)]

end behind

theorem readMembers_member {p : String × String} {s : List Char} (h : WritesMember p s)
    (fuel : Nat) (d : Request.Draft) (back : List Char) :
    readMembers (fuel + 1) d (s ++ back) =
      (orMismatch (d.put? p.1 p.2)).bind (readOn fuel back) := by
  obtain ⟨name, w, w', value, hname, hw, hw', hvalue, rfl⟩ := h
  have hlayout : '"' :: (name ++ '"' :: (w ++ ':' :: (w' ++ '"' :: (value ++ ['"'])))) ++ back =
      '"' :: (name ++ '"' :: (w ++ ':' :: (w' ++ '"' :: (value ++ '"' :: back)))) := by simp
  have hmember := readMember_spelled d p.1 hw hw' hvalue back
  rw [String.ofList_toList] at hmember
  rw [hlayout, readMembers, hname.readString]
  simp only [orMalformed, String.ofList_toList, hmember, bind, Except.bind]
  cases d.put? p.1 p.2 with
  | none => rfl
  | some d => rfl

theorem WritesMember.front {p : String × String} {s : List Char} (h : WritesMember p s) :
    ∃ more, s = '"' :: more := by
  obtain ⟨name, w, w', value, -, -, -, -, rfl⟩ := h
  exact ⟨_, rfl⟩

section members

variable {ps : List (String × String)} {s : List Char} (h : WritesMembers ps s)
include h

theorem WritesMembers.front : ∃ more, s = '"' :: more := by
  cases h with
  | last hs hw =>
    obtain ⟨more, rfl⟩ := hs.front
    exact ⟨_, rfl⟩
  | cons hs hw hw' ht =>
    obtain ⟨more, rfl⟩ := hs.front
    exact ⟨_, rfl⟩

theorem WritesMembers.length_le : ps.length ≤ s.length := by
  induction h with
  | last hs hw =>
    obtain ⟨more, rfl⟩ := hs.front
    simp
  | cons hs hw hw' ht ih =>
    simp only [List.length_cons, List.length_append]
    omega

/-- Members are read in turn as long as the draft takes them in. -/
theorem WritesMembers.readMembers {fuel : Nat} (hfuel : ps.length ≤ fuel) (d : Request.Draft)
    (back : List Char) :
    readMembers fuel d (s ++ '\x7d' :: back) =
      (orMismatch (d.putAll? ps)).map fun d => (d, back) := by
  induction h generalizing fuel d with
  | @last p s w hs hw =>
    obtain ⟨fuel, rfl⟩ := Nat.exists_eq_add_of_le' hfuel
    rw [List.append_assoc, List.length_singleton, readMembers_member hs, d.putAll?_cons]
    cases d.put? p.1 p.2 with
    | none => rfl
    | some d => exact readOn_close hw fuel d back
  | @cons p ps s w w' t hs hw hw' ht ih =>
    obtain ⟨fuel, rfl⟩ := Nat.exists_eq_add_of_le' hfuel
    obtain ⟨more, rfl⟩ := ht.front
    have hlayout : s ++ (w ++ ',' :: (w' ++ '"' :: more)) ++ '\x7d' :: back =
        s ++ (w ++ ',' :: (w' ++ '"' :: (more ++ '\x7d' :: back))) := by simp
    rw [hlayout, List.length_cons, ← Nat.add_assoc, readMembers_member hs, d.putAll?_cons]
    cases d.put? p.1 p.2 with
    | none => rfl
    | some d =>
      refine (readOn_comma hw (fuel + ps.length) d hw' _).trans ?_
      exact ih (Nat.le_add_left _ _) d

end members

/-! ## Bodies -/

/-- A body is read up to the end of its object. -/
theorem WritesBody.readRequest {ps : List (String × String)} {body : List Char}
    (h : WritesBody ps body) : ∃ w, Spaces w ∧ readRequest body =
      (orMismatch (Request.ofPairs? ps)).map fun r => (r, w) := by
  obtain ⟨w, s, w', hw, hs, hw', rfl⟩ := h
  refine ⟨w', hw', ?_⟩
  unfold Search.readRequest
  cases hs with
  | @empty v hv =>
    have hlayout : w ++ ('\x7b' :: (v ++ ['\x7d']) ++ w') = w ++ '\x7b' :: (v ++ '\x7d' :: w') := by
      simp
    rw [hlayout, skipSpace_run hw (by decide)]
    simp only [skipSpace_run hv (c := '\x7d') (by decide)]
    rfl
  | @full _ v s hv hs =>
    obtain ⟨more, hfront⟩ := hs.front
    have hlayout : w ++ ('\x7b' :: (v ++ (s ++ ['\x7d'])) ++ w') =
        w ++ '\x7b' :: (v ++ (s ++ '\x7d' :: w')) := by simp
    have hskip : skipSpace (v ++ (s ++ '\x7d' :: w')) = s ++ '\x7d' :: w' := by
      rw [hfront, List.cons_append]
      exact skipSpace_run hv (by decide) _
    have hfuel : ps.length ≤ (s ++ '\x7d' :: w').length + 1 := by
      have hlength := hs.length_le
      rw [List.length_append]
      omega
    have hread := hs.readMembers hfuel .empty w'
    rw [hlayout, skipSpace_run hw (by decide)]
    simp only [hskip]
    rw [hfront] at hread ⊢
    rw [List.cons_append] at hread ⊢
    change (Search.readMembers _ .empty ('"' :: (more ++ '\x7d' :: w'))).map _ = _
    rw [hread, ofPairs?_eq]
    cases Request.Draft.empty.putAll? ps with
    | none => rfl
    | some d => rfl

/-- A whole body gives the request of its members, or is refused if there is none. -/
theorem WritesBody.ofJson {ps : List (String × String)} {body : String}
    (h : WritesBody ps body.toList) : ofJson body = orMismatch (Request.ofPairs? ps) := by
  obtain ⟨w, hw, hread⟩ := h.readRequest
  have hend : (skipSpace w).isEmpty = true := by
    have hskip := dropWhile_run hw (show Stops isSpace [] by simp [Stops])
    rw [List.append_nil] at hskip
    rw [skipSpace, hskip]
    rfl
  unfold Search.ofJson
  rw [hread]
  cases Request.ofPairs? ps with
  | none => rfl
  | some r => simp [orMismatch, bind, Except.bind, Except.map, hend, pure, Except.pure]

end CompanySearch.Search
