-- What counts of the texts that name the parts of a search. A query string and a body go by the
-- same rule: no part is named twice, under whichever names, and then neither the order of the
-- texts nor those with unknown names make a difference.
import CompanySearch.Proofs.Search.Parts
import CompanySearch.Proofs.Text.Form

namespace CompanySearch.Search

open Request Text

/-! ## Values that are named once -/

namespace Request

variable {ps qs : List (String × String)}

/-- If no part is named twice, the value of a part is the one that is named for it. -/
theorem valueIn?_eq_some_iff (once : (parts ps).Nodup) {part : Part} {value : String} :
    valueIn? ps part = some value ↔ ∃ p ∈ ps, Part.ofName? p.1 = some part ∧ p.2 = value := by
  induction ps with
  | nil => simp [valueIn?]
  | cons p ps ih =>
    by_cases hp : Part.ofName? p.1 = some part
    · rw [parts_known ps hp] at once
      rw [valueIn?_known ps hp, Option.some.injEq, List.exists_mem_cons_iff]
      have hnot : ¬ ∃ q ∈ ps, Part.ofName? q.1 = some part ∧ q.2 = value := by
        rintro ⟨q, hq, hname, -⟩
        exact (List.nodup_cons.mp once).1 (mem_parts.mpr ⟨q, hq, hname⟩)
      simp [hp, hnot]
    · have hrest : (parts ps).Nodup := by
        cases hq : Part.ofName? p.1 with
        | none => rwa [parts_unknown ps hq] at once
        | some q =>
          rw [parts_known ps hq] at once
          exact (List.nodup_cons.mp once).2
      rw [valueIn?_other ps hp, ih hrest, List.exists_mem_cons_iff]
      simp [hp]

/-- A request has the values that are named, and defaults for the rest. -/
theorem value?_collected (ps : List (String × String)) (part : Part) :
    (collected ps).value? part = (valueIn? ps part).or (all.value? part) := by
  cases part with
  | text =>
    cases h : valueIn? ps .text <;> simp [collected, value?, all, h]
  | sortField => simp [collected, value?, all]
  | sortOrder => simp [collected, value?, all]
  | algorithm => simp [collected, value?, all]

theorem value?_of_named (once : (parts ps).Nodup) {p : String × String} (hp : p ∈ ps)
    {part : Part} (hname : Part.ofName? p.1 = some part) :
    (collected ps).value? part = some p.2 := by
  rw [value?_collected, (valueIn?_eq_some_iff once).mpr ⟨p, hp, hname, rfl⟩, Option.some_or]

theorem value?_of_unnamed {part : Part} (h : part ∉ parts ps) :
    (collected ps).value? part = all.value? part := by
  rw [value?_collected, valueIn?_of_not_mem h, Option.none_or]

/-! ## Lists that name the same -/

/-- The texts change places, and texts with unknown names come and go. -/
inductive Alike : List (String × String) → List (String × String) → Prop
  | perm {ps qs : List (String × String)} : ps.Perm qs → Alike ps qs
  | unknown {p : String × String} (ps : List (String × String)) :
      Part.ofName? p.1 = none → Alike (p :: ps) ps
  | symm {ps qs : List (String × String)} : Alike ps qs → Alike qs ps
  | trans {ps qs rs : List (String × String)} : Alike ps qs → Alike qs rs → Alike ps rs

theorem Alike.parts_perm (h : Alike ps qs) : (parts ps).Perm (parts qs) := by
  induction h with
  | perm h => exact h.filterMap _
  | unknown ps hp => rw [parts_unknown ps hp]
  | symm h ih => exact ih.symm
  | trans h h' ih ih' => exact ih.trans ih'

theorem Alike.mem_iff (h : Alike ps qs) {p : String × String} {part : Part}
    (hp : Part.ofName? p.1 = some part) : p ∈ ps ↔ p ∈ qs := by
  induction h with
  | perm h => exact h.mem_iff
  | @unknown q ps hq =>
    have hne : p ≠ q := by
      rintro rfl
      rw [hp] at hq
      contradiction
    simp [hne]
  | symm h ih => exact ih.symm
  | trans h h' ih ih' => exact ih.trans ih'

theorem Alike.valueIn?_eq (h : Alike ps qs) (once : (parts ps).Nodup) (part : Part) :
    valueIn? ps part = valueIn? qs part := by
  apply Option.ext
  intro value
  rw [valueIn?_eq_some_iff once, valueIn?_eq_some_iff (h.parts_perm.nodup_iff.mp once)]
  constructor
  · rintro ⟨p, hmem, hp, hvalue⟩
    exact ⟨p, (h.mem_iff hp).mp hmem, hp, hvalue⟩
  · rintro ⟨p, hmem, hp, hvalue⟩
    exact ⟨p, (h.mem_iff hp).mpr hmem, hp, hvalue⟩

theorem Alike.ofPairs?_eq (h : Alike ps qs) : ofPairs? ps = ofPairs? qs := by
  rw [ofPairs?_eq_collected, ofPairs?_eq_collected]
  by_cases once : (parts ps).Nodup
  · rw [if_pos once, if_pos (h.parts_perm.nodup_iff.mp once)]
    unfold collected
    simp only [h.valueIn?_eq once]
  · rw [if_neg once, if_neg (mt h.parts_perm.nodup_iff.mpr once)]

end Request

/-! ## Ways to send named texts -/

/-- Named texts on their way to the service. -/
inductive Message where
  | query (text : String)
  | body (text : String)

namespace Message

/-- The message writes the named texts, in this order and spelled in whatever way. -/
def Writes (ps : List (String × String)) : Message → Prop
  | .query text => Form.WritesPairs ps text.toList
  | .body text => WritesBody ps text.toList

/-- The request that is read from the message, if it is one. -/
def request? : Message → Option Request
  | .query text => ofQueryString? text
  | .body text => (ofJson text).toOption

theorem Writes.request? {m : Message} {ps : List (String × String)} (h : m.Writes ps) :
    m.request? = ofPairs? ps := by
  cases m with
  | query text =>
    have hdecode := Form.WritesPairs.decode h
    rw [String.ofList_toList] at hdecode
    exact congrArg ofPairs? hdecode
  | body text =>
    change (ofJson text).toOption = _
    rw [WritesBody.ofJson h]
    cases ofPairs? ps <;> rfl

end Message

/-! ## The law -/

/-- A list of named texts can be sent in a query string and in a body. Either way it is read as a
request exactly if it names no part twice, under the same name or another. The request then has the
value that is named for a part, wherever that stands, and the default where none is named; and it is
the same for any message with these texts in another order, with more or fewer of unknown names. -/
theorem parts_are_named_once_and_in_any_order (ps : List (String × String)) :
    (∃ text, (Message.query text).Writes ps) ∧ (∃ text, (Message.body text).Writes ps) ∧
    ∀ m : Message, m.Writes ps →
      ((∃ r, m.request? = some r) ↔ (parts ps).Nodup) ∧
      (∀ r, m.request? = some r → ∀ part,
        (∀ p ∈ ps, Part.ofName? p.1 = some part → r.value? part = some p.2) ∧
        (part ∉ parts ps → r.value? part = all.value? part)) ∧
      (∀ qs (m' : Message), Alike ps qs → m'.Writes qs → m'.request? = m.request?) := by
  have hquery : ∃ text, (Message.query text).Writes ps := by
    obtain ⟨s, hs⟩ := Form.exists_writesPairs ps
    exact ⟨String.ofList s, by simpa [Message.Writes] using hs⟩
  have hbody : ∃ text, (Message.body text).Writes ps := by
    obtain ⟨s, hs⟩ := exists_writesBody ps
    exact ⟨String.ofList s, by simpa [Message.Writes] using hs⟩
  refine ⟨hquery, hbody, fun m writes => ⟨?_, fun r hr part => ?_, fun qs m' alike writes' => ?_⟩⟩
  · rw [writes.request?, ofPairs?_eq_collected]
    by_cases once : (parts ps).Nodup <;> simp [once]
  · rw [writes.request?, ofPairs?_eq_collected] at hr
    split at hr
    · rename_i once
      cases hr
      exact ⟨fun p hp hname => value?_of_named once hp hname, value?_of_unnamed⟩
    · contradiction
  · rw [writes.request?, writes'.request?, alike.ofPairs?_eq]

/-- An unknown name may be there twice, and no part under two of its names. -/
theorem an_unknown_name_may_be_repeated :
    let known := Message.body "\x7b\"sort_by\":\"n\",\"search\":\"a\"\x7d"
    let unknown := Message.query "search=a&x=1&x=2&sort_by=n"
    let twice := Message.query "search=a&search_text=a"
    known.request? = some ⟨"a", some "n", none, none⟩ ∧ unknown.request? = known.request? ∧
      ¬ ∃ r, twice.request? = some r := by
  have hpair (name value : String) (hname : ∀ c ∈ name.toList, Form.Plain c)
      (hvalue : ∀ c ∈ value.toList, Form.Plain c) :
      Form.WritesPair (name, value) (name.toList ++ '=' :: value.toList) :=
    ⟨_, _, .of_plain hname, .of_plain hvalue, rfl⟩
  have hmember (name value : String) (hname : ∀ c ∈ name.toList, Json.Raw c)
      (hvalue : ∀ c ∈ value.toList, Json.Raw c) : WritesMember (name, value)
        ('"' :: (name.toList ++ '"' :: ([] ++ ':' :: ([] ++ '"' :: (value.toList ++ ['"']))))) :=
    ⟨_, [], [], _, .of_raw hname, spaces_nil, spaces_nil, .of_raw hvalue, rfl⟩
  intro known unknown twice
  have hknown : known.Writes [("sort_by", "n"), ("search", "a")] :=
    ⟨[], _, [], spaces_nil, .full spaces_nil (.cons (hmember "sort_by" "n" (by decide) (by decide))
      spaces_nil spaces_nil (.last (hmember "search" "a" (by decide) (by decide)) spaces_nil)),
      spaces_nil, by decide⟩
  have hunknown : unknown.Writes [("search", "a"), ("x", "1"), ("x", "2"), ("sort_by", "n")] :=
    .cons (hpair "search" "a" (by decide) (by decide))
      (.cons (hpair "x" "1" (by decide) (by decide)) (.cons (hpair "x" "2" (by decide) (by decide))
        (.last (hpair "sort_by" "n" (by decide) (by decide)))))
  have htwice : twice.Writes [("search", "a"), ("search_text", "a")] :=
    .cons (hpair "search" "a" (by decide) (by decide))
      (.last (hpair "search_text" "a" (by decide) (by decide)))
  have alike : Alike [("sort_by", "n"), ("search", "a")]
      [("search", "a"), ("x", "1"), ("x", "2"), ("sort_by", "n")] :=
    .trans (.symm (.trans (.unknown (p := ("x", "1")) _ rfl) (.unknown (p := ("x", "2")) _ rfl)))
      (.perm (by decide))
  obtain ⟨-, -, hlaw⟩ := parts_are_named_once_and_in_any_order [("sort_by", "n"), ("search", "a")]
  obtain ⟨-, -, hlaw'⟩ :=
    parts_are_named_once_and_in_any_order [("search", "a"), ("search_text", "a")]
  exact ⟨hknown.request?.trans rfl, (hlaw known hknown).2.2 _ unknown alike hunknown,
    fun hread => absurd ((hlaw' twice htwice).1.mp hread) (by decide)⟩

end CompanySearch.Search
