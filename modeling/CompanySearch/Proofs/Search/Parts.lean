-- What named texts give. They give a request exactly if they name no part twice, and then each part
-- has the one value that was named for it, wherever that stands.
import CompanySearch.Proofs.Search.ObjectText
import Mathlib.Data.Fintype.Basic

namespace CompanySearch.Search.Request

instance : Fintype Part :=
  ⟨{.text, .sortField, .sortOrder, .algorithm}, fun p => by cases p <;> decide⟩

/-! ## Drafts -/

/-- What a draft holds for a part, if the part has been given. -/
def Draft.get? (d : Draft) : Part → Option (Option String)
  | .text => d.text.map some
  | .sortField => d.sortField
  | .sortOrder => d.sortOrder
  | .algorithm => d.algorithm

namespace Part

theorem given_eq (p : Part) (d : Draft) : p.given d = (d.get? p).isSome := by
  cases p <;> simp [given, Draft.get?]

theorem get?_set (p : Part) (value : String) (d : Draft) (q : Part) :
    (p.set (some value) d).get? q = if q = p then some (some value) else d.get? q := by
  cases p <;> cases q <;> simp [set, Draft.get?]

end Part

/-! ## Named parts -/

/-- The parts that are named, in their order. -/
def parts (ps : List (String × String)) : List Part := ps.filterMap fun p => Part.ofName? p.1

/-- The first text that is named for a part. -/
def valueIn? (ps : List (String × String)) (part : Part) : Option String :=
  (ps.find? fun p => Part.ofName? p.1 == some part).map (·.2)

theorem mem_parts {ps : List (String × String)} {part : Part} :
    part ∈ parts ps ↔ ∃ p ∈ ps, Part.ofName? p.1 = some part := List.mem_filterMap

theorem valueIn?_of_not_mem {ps : List (String × String)} {part : Part} (h : part ∉ parts ps) :
    valueIn? ps part = none := by
  unfold valueIn?
  rw [Option.map_eq_none_iff, List.find?_eq_none]
  intro p hp hname
  exact h (mem_parts.mpr ⟨p, hp, by simpa using hname⟩)

theorem valueIn?_of_mem {ps : List (String × String)} {part : Part} (h : part ∈ parts ps) :
    ∃ p ∈ ps, Part.ofName? p.1 = some part ∧ valueIn? ps part = some p.2 := by
  unfold valueIn?
  cases hfind : ps.find? fun p => Part.ofName? p.1 == some part with
  | none =>
    obtain ⟨p, hp, hname⟩ := mem_parts.mp h
    exact absurd (by simpa using hname) (List.find?_eq_none.mp hfind p hp)
  | some p =>
    exact ⟨p, List.mem_of_find?_eq_some hfind, by simpa using List.find?_some hfind, rfl⟩

section named

variable {p : String × String} (ps : List (String × String))

theorem parts_unknown (h : Part.ofName? p.1 = none) : parts (p :: ps) = parts ps :=
  List.filterMap_cons_none h

theorem parts_known {part : Part} (h : Part.ofName? p.1 = some part) :
    parts (p :: ps) = part :: parts ps :=
  List.filterMap_cons_some h

theorem valueIn?_other {q : Part} (h : Part.ofName? p.1 ≠ some q) :
    valueIn? (p :: ps) q = valueIn? ps q := by
  unfold valueIn?
  rw [List.find?_cons_of_neg (by simpa using h)]

theorem valueIn?_known {q : Part} (h : Part.ofName? p.1 = some q) :
    valueIn? (p :: ps) q = some p.2 := by
  unfold valueIn?
  rw [List.find?_cons_of_pos (by simpa using h)]
  rfl

end named

/-! ## Gathering -/

/-- Parts that are named once and not held yet are all taken in. -/
theorem Draft.putAll?_of_once {ps : List (String × String)} {d : Draft} (once : (parts ps).Nodup)
    (fresh : ∀ part ∈ parts ps, d.get? part = none) :
    ∃ d', d.putAll? ps = some d' ∧
      ∀ part, d'.get? part = ((valueIn? ps part).map some).or (d.get? part) := by
  induction ps generalizing d with
  | nil => exact ⟨d, rfl, fun part => rfl⟩
  | cons p ps ih =>
    rw [d.putAll?_cons, put?]
    cases hp : Part.ofName? p.1 with
    | none =>
      rw [parts_unknown ps hp] at once fresh
      obtain ⟨d', hput, hget⟩ := ih once fresh
      refine ⟨d', hput, fun part => ?_⟩
      rw [hget, valueIn?_other ps (by simp [hp])]
    | some q =>
      rw [parts_known ps hp] at once fresh
      obtain ⟨hnot, once⟩ := List.nodup_cons.mp once
      have hq : d.get? q = none := fresh q List.mem_cons_self
      have hungiven : ¬ q.given d = true := by simp [q.given_eq, hq]
      -- Taking in this part leaves the others fresh, since none of them is named again.
      have hrest : ∀ part ∈ parts ps, (q.set (some p.2) d).get? part = none := by
        intro part hpart
        have hne : part ≠ q := fun heq => hnot (heq ▸ hpart)
        rw [q.get?_set, if_neg hne]
        exact fresh part (List.mem_cons_of_mem q hpart)
      obtain ⟨d', hput, hget⟩ := ih once hrest
      simp only [if_neg hungiven]
      refine ⟨d', hput, fun part => ?_⟩
      rw [hget, q.get?_set]
      by_cases hpart : part = q
      · rw [hpart, valueIn?_of_not_mem hnot, valueIn?_known ps hp]
        simp
      · rw [if_neg hpart, valueIn?_other ps (by simpa [hp] using Ne.symm hpart)]

/-- A part that is named twice, or held already, is refused. -/
theorem Draft.putAll?_of_twice {ps : List (String × String)} {d : Draft}
    (twice : ¬ ((parts ps).Nodup ∧ ∀ part ∈ parts ps, d.get? part = none)) :
    d.putAll? ps = none := by
  induction ps generalizing d with
  | nil => simp [parts] at twice
  | cons p ps ih =>
    rw [d.putAll?_cons, put?]
    cases hp : Part.ofName? p.1 with
    | none =>
      rw [parts_unknown ps hp] at twice
      exact ih twice
    | some q =>
      rw [parts_known ps hp] at twice
      by_cases hgiven : q.given d = true
      · simp only [if_pos hgiven]
        rfl
      · simp only [if_neg hgiven]
        apply ih
        rintro ⟨once, fresh⟩
        have hq : d.get? q = none := by simpa [q.given_eq] using hgiven
        have hset (part : Part) (hpart : part ∈ parts ps) : part ≠ q ∧ d.get? part = none := by
          have hfresh := fresh part hpart
          rw [q.get?_set] at hfresh
          split at hfresh
          · contradiction
          · exact ⟨‹_›, hfresh⟩
        refine twice ⟨List.nodup_cons.mpr ⟨fun hmem => (hset q hmem).1 rfl, once⟩, ?_⟩
        intro part hpart
        rcases List.mem_cons.mp hpart with rfl | hpart
        · exact hq
        · exact (hset part hpart).2

/-- The request with the named values, and a default for each part that is not named. -/
def collected (ps : List (String × String)) : Request where
  text := (valueIn? ps .text).getD ""
  sortField := valueIn? ps .sortField
  sortOrder := valueIn? ps .sortOrder
  algorithm := valueIn? ps .algorithm

theorem Draft.complete_eq (d : Draft) : d.complete =
    ⟨(d.get? .text).join.getD "", (d.get? .sortField).join, (d.get? .sortOrder).join,
      (d.get? .algorithm).join⟩ := by
  have hjoin (o : Option (Option String)) : o.getD none = o.join := by cases o <;> rfl
  have htext : (d.text.map some).join = d.text := by cases d.text <;> rfl
  simp only [complete, get?, hjoin, htext]

/-- Named texts give the request of their values, exactly if they name no part twice. -/
theorem ofPairs?_eq_collected (ps : List (String × String)) :
    ofPairs? ps = if (parts ps).Nodup then some (collected ps) else none := by
  have hempty (part : Part) : Draft.empty.get? part = none := by cases part <;> rfl
  rw [ofPairs?_eq]
  by_cases once : (parts ps).Nodup
  · obtain ⟨d, hput, hget⟩ := Draft.putAll?_of_once once fun part _ => hempty part
    have hvalue (part : Part) : (d.get? part).join = valueIn? ps part := by
      rw [hget, hempty, Option.or_none]
      cases valueIn? ps part <;> rfl
    rw [hput, if_pos once, Option.map_some, Draft.complete_eq]
    simp only [hvalue]
    rfl
  · have hnone := Draft.putAll?_of_twice (d := .empty) fun h => once h.1
    rw [hnone, if_neg once]
    rfl

/-! ## Giving a request -/

/-- The value that a request has for a part. -/
def value? (r : Request) : Part → Option String
  | .text => some r.text
  | .sortField => r.sortField
  | .sortOrder => r.sortOrder
  | .algorithm => r.algorithm

/-- The named texts give the request: each value that it has, once and under a name of its part,
and nothing else. They stand in any order, and an empty text may be left out. -/
structure GivenBy (r : Request) (ps : List (String × String)) : Prop where
  known : ∀ p ∈ ps, ∃ part, Part.ofName? p.1 = some part ∧ r.value? part = some p.2
  once : (parts ps).Nodup
  whole : ∀ part, part ∈ parts ps ∨ r.value? part = none ∨ part = .text ∧ r.text = ""

instance (r : Request) (ps : List (String × String)) : Decidable (r.GivenBy ps) :=
  decidable_of_iff (_ ∧ _ ∧ _) ⟨fun h => ⟨h.1, h.2.1, h.2.2⟩, fun h => ⟨h.known, h.once, h.whole⟩⟩

/-- The texts that give a request, each under the first name of its part. -/
def named (r : Request) : List (String × String) :=
  ("search_text", r.text) :: ((r.sortField.map (("sort_field", ·))).toList ++
    ((r.sortOrder.map (("sort_order", ·))).toList ++
      (r.algorithm.map (("algorithm", ·))).toList))

theorem givenBy_named (r : Request) : r.GivenBy r.named := by
  have htext : Part.ofName? "search_text" = some .text := by decide
  have hfield : Part.ofName? "sort_field" = some .sortField := by decide
  have horder : Part.ofName? "sort_order" = some .sortOrder := by decide
  have halgorithm : Part.ofName? "algorithm" = some .algorithm := by decide
  obtain ⟨text, field, order, algorithm⟩ := r
  constructor
  · intro p hp
    simp only [named, List.mem_cons, List.mem_append, Option.mem_toList, Option.map_eq_some_iff]
      at hp
    rcases hp with rfl | ⟨value, hvalue, rfl⟩ | ⟨value, hvalue, rfl⟩ | ⟨value, hvalue, rfl⟩
    · exact ⟨.text, htext, rfl⟩
    · exact ⟨.sortField, hfield, hvalue⟩
    · exact ⟨.sortOrder, horder, hvalue⟩
    · exact ⟨.algorithm, halgorithm, hvalue⟩
  · cases field <;> cases order <;> cases algorithm <;>
      simp [named, parts, htext, hfield, horder, halgorithm]
  · intro part
    rw [mem_parts]
    cases part with
    | text => exact .inl ⟨_, List.mem_cons_self, htext⟩
    | sortField =>
      cases field with
      | none => exact .inr (.inl rfl)
      | some value => exact .inl ⟨("sort_field", value), by simp [named], hfield⟩
    | sortOrder =>
      cases order with
      | none => exact .inr (.inl rfl)
      | some value => exact .inl ⟨("sort_order", value), by simp [named], horder⟩
    | algorithm =>
      cases algorithm with
      | none => exact .inr (.inl rfl)
      | some value => exact .inl ⟨("algorithm", value), by simp [named], halgorithm⟩

theorem GivenBy.ofPairs? {r : Request} {ps : List (String × String)} (h : r.GivenBy ps) :
    ofPairs? ps = some r := by
  have hvalue (part : Part) : valueIn? ps part = r.value? part ∨
      valueIn? ps part = none ∧ part = .text ∧ r.text = "" := by
    by_cases hmem : part ∈ parts ps
    · obtain ⟨p, hp, hname, hfound⟩ := valueIn?_of_mem hmem
      obtain ⟨q, hq, hpq⟩ := h.known p hp
      rw [hname] at hq
      cases hq
      exact .inl (hfound.trans hpq.symm)
    · have hnone := valueIn?_of_not_mem hmem
      rcases (h.whole part).resolve_left hmem with hr | hempty
      · exact .inl (hnone.trans hr.symm)
      · exact .inr ⟨hnone, hempty⟩
  have hpart (part : Part) (hne : part ≠ .text) : valueIn? ps part = r.value? part :=
    (hvalue part).resolve_right fun h => hne h.2.1
  have htext : (valueIn? ps .text).getD "" = r.text := by
    rcases hvalue .text with hvalue | ⟨hnone, -, hempty⟩
    · rw [hvalue]
      rfl
    · rw [hnone, hempty]
      rfl
  rw [ofPairs?_eq_collected, if_pos h.once]
  unfold collected
  rw [htext, hpart .sortField (by decide), hpart .sortOrder (by decide),
    hpart .algorithm (by decide)]
  rfl

end CompanySearch.Search.Request
