-- Records as maps in the order of insertion. However often a name is inserted, it is listed once,
-- at the place of its first insertion, and with the value of its last.
import CompanySearch.Record.Basic
import Mathlib.Data.Finset.Card

namespace CompanySearch.Record

/-! ## The names of a record -/

/-- The names of the fields, in their order. -/
def names (r : Record) : List String := r.fields.map Prod.fst

theorem length_names (r : Record) : r.names.length = r.size := List.length_map Prod.fst

/-- A new name is listed behind the others, and one that is there keeps its place. -/
theorem names_insert (r : Record) (name : String) (value : Scalar) :
    (r.insert name value).names = if name ∈ r.names then r.names else r.names ++ [name] := by
  obtain ⟨fields⟩ := r
  unfold names insert
  induction fields with
  | nil => rfl
  | cons p rest ih =>
    obtain ⟨n, v⟩ := p
    by_cases hn : n = name
    · simp [setField, hn]
    · simp only [setField, if_neg hn, List.map_cons, ih, List.mem_cons, Ne.symm hn, false_or]
      split
      · rfl
      · rfl

theorem mem_names {r : Record} {name : String} : name ∈ r.names ↔ ∃ v, (name, v) ∈ r.fields := by
  simp [names]

/-- An insertion gives the name its value and leaves the other fields alone. -/
theorem mem_insert {r : Record} (distinct : r.names.Nodup) {name other : String}
    {value v : Scalar} :
    (other, v) ∈ (r.insert name value).fields ↔
      if other = name then v = value else (other, v) ∈ r.fields := by
  obtain ⟨fields⟩ := r
  unfold names at distinct
  unfold insert
  induction fields with
  | nil =>
    by_cases h : other = name
    · simp [setField, h]
    · simp [setField, h]
  | cons p rest ih =>
    obtain ⟨n, w⟩ := p
    rw [List.map_cons, List.nodup_cons] at distinct
    by_cases hn : n = name
    · -- the name is here, so it is nowhere in the rest
      subst hn
      have habsent (v : Scalar) : (n, v) ∉ rest := fun h =>
        distinct.1 (List.mem_map.mpr ⟨_, h, rfl⟩)
      by_cases h : other = n
      · subst h
        simp [setField, habsent]
      · simp [setField, h]
    · simp only [setField, if_neg hn, List.mem_cons, ih distinct.2]
      by_cases h : other = name
      · subst h
        simp [Ne.symm hn]
      · simp [h]

theorem get?_eq_some_iff {r : Record} (distinct : r.names.Nodup) {name : String} {v : Scalar} :
    r.get? name = some v ↔ (name, v) ∈ r.fields := by
  obtain ⟨fields⟩ := r
  unfold names at distinct
  unfold get?
  induction fields with
  | nil => simp
  | cons p rest ih =>
    obtain ⟨n, w⟩ := p
    rw [List.map_cons, List.nodup_cons] at distinct
    by_cases hn : n = name
    · subst hn
      have habsent : (n, v) ∉ rest := fun h => distinct.1 (List.mem_map.mpr ⟨_, h, rfl⟩)
      simp [habsent, eq_comm]
    · rw [List.find?_cons_of_neg (by simpa using hn), ih distinct.2]
      simp [Ne.symm hn]

theorem get?_eq_none_iff {r : Record} {name : String} : r.get? name = none ↔ name ∉ r.names := by
  rw [get?, Option.map_eq_none_iff, List.find?_eq_none, mem_names]
  constructor
  · rintro h ⟨v, hv⟩
    exact h _ hv (beq_self_eq_true name)
  · rintro h ⟨n, v⟩ hv hname
    exact h ⟨v, eq_of_beq hname ▸ hv⟩

theorem value?_eq_some_iff {r : Record} {name : String} {v : Scalar} :
    r.value? name = some v ↔ r.get? name = some v ∧ v ≠ .null := by
  unfold value?
  rw [Option.filter_eq_some_iff]
  cases v <;> simp [Scalar.isNull]

/-! ## What has been inserted -/

/-- The value was inserted under the name, and nothing was after that. -/
def LastInserted (inserted : List (String × Scalar)) (name : String) (v : Scalar) : Prop :=
  ∃ before after, inserted = before ++ (name, v) :: after ∧ name ∉ after.map Prod.fst

theorem lastInserted_concat {inserted : List (String × Scalar)} {name other : String}
    {value v : Scalar} :
    LastInserted (inserted ++ [(name, value)]) other v ↔
      if other = name then v = value else LastInserted inserted other v := by
  constructor
  · rintro ⟨before, after, heq, hlast⟩
    rcases List.eq_nil_or_concat' after with rfl | ⟨after, q, rfl⟩
    · obtain ⟨-, hq⟩ := List.append_inj' heq rfl
      cases hq
      rw [if_pos rfl]
    · rw [← List.cons_append, ← List.append_assoc] at heq
      obtain ⟨hinserted, hq⟩ := List.append_inj' heq rfl
      cases hq
      simp only [List.map_append, List.mem_append, List.map_cons, List.map_nil,
        List.mem_singleton, not_or] at hlast
      rw [if_neg hlast.2]
      exact ⟨before, after, hinserted, hlast.1⟩
  · intro h
    by_cases hname : other = name
    · rw [if_pos hname] at h
      subst h hname
      exact ⟨inserted, [], rfl, List.not_mem_nil⟩
    · rw [if_neg hname] at h
      obtain ⟨before, after, rfl, hlast⟩ := h
      refine ⟨before, after ++ [(name, value)], by simp, ?_⟩
      simp only [List.map_append, List.mem_append, List.map_cons, List.map_nil,
        List.mem_singleton, not_or]
      exact ⟨hlast, hname⟩

/-- What a record shows of the insertions that have made it. -/
structure Keeps (r : Record) (inserted : List (String × Scalar)) : Prop where
  distinct : r.names.Nodup
  /-- A name that was inserted earlier for the first time stands before one that came later. -/
  in_order : r.names.Pairwise fun m n =>
    (inserted.map Prod.fst).idxOf m < (inserted.map Prod.fst).idxOf n
  names : ∀ name, name ∈ r.names ↔ name ∈ inserted.map Prod.fst
  fields : ∀ name v, (name, v) ∈ r.fields ↔ LastInserted inserted name v

theorem empty_keeps : empty.Keeps [] where
  distinct := List.nodup_nil
  in_order := List.Pairwise.nil
  names _ := Iff.rfl
  fields name v := by simp [empty, LastInserted]

/-- One insertion more is kept as well. -/
theorem Keeps.insert {r : Record} {inserted : List (String × Scalar)} (h : r.Keeps inserted)
    (name : String) (value : Scalar) :
    (r.insert name value).Keeps (inserted ++ [(name, value)]) := by
  have hfirst : ∀ m ∈ r.names, (inserted.map Prod.fst ++ [name]).idxOf m =
      (inserted.map Prod.fst).idxOf m := fun m hm =>
    List.idxOf_append_of_mem ((h.names m).mp hm)
  have horder : r.names.Pairwise fun m n =>
      (inserted.map Prod.fst ++ [name]).idxOf m < (inserted.map Prod.fst ++ [name]).idxOf n := by
    apply h.in_order.imp_of_mem
    intro m n hm hn hlt
    rwa [hfirst m hm, hfirst n hn]
  refine ⟨?_, ?_, fun other => ?_, fun other v => ?_⟩
  · rw [names_insert]
    split
    · exact h.distinct
    · rename_i hnew
      rw [← List.concat_eq_append]
      exact h.distinct.concat hnew
  · rw [names_insert, List.map_append]
    split
    · exact horder
    · rename_i hnew
      refine List.pairwise_append.mpr ⟨horder, List.pairwise_singleton _ _, ?_⟩
      intro m hm n hn
      rw [List.mem_singleton] at hn
      subst hn
      rw [h.names] at hnew hm
      rw [List.map_cons, List.map_nil, List.idxOf_append_of_mem hm,
        List.idxOf_append_of_notMem hnew]
      exact Nat.lt_of_lt_of_le (List.idxOf_lt_length_of_mem hm) (Nat.le_add_right _ _)
  · rw [names_insert, List.map_append, List.mem_append, ← h.names]
    split
    · rename_i hthere
      simp only [List.map_cons, List.map_nil, List.mem_singleton]
      exact ⟨Or.inl, fun h => h.elim id fun heq => heq ▸ hthere⟩
    · rw [List.mem_append]
      rfl
  · rw [mem_insert h.distinct, lastInserted_concat, h.fields]

/-- Insertions in turn are all kept. -/
theorem Keeps.insertAll {r : Record} {inserted : List (String × Scalar)} (h : r.Keeps inserted)
    (more : List (String × Scalar)) :
    (more.foldl (fun r p => r.insert p.1 p.2) r).Keeps (inserted ++ more) := by
  induction more generalizing r inserted with
  | nil => rwa [List.append_nil]
  | cons p more ih =>
    rw [List.append_cons]
    exact ih (h.insert p.1 p.2)

theorem ofPairs_keeps (inserted : List (String × Scalar)) : (ofPairs inserted).Keeps inserted :=
  empty_keeps.insertAll inserted

theorem Keeps.size_eq {r : Record} {inserted : List (String × Scalar)} (h : r.Keeps inserted) :
    r.size = (inserted.map Prod.fst).toFinset.card := by
  have hsame : (inserted.map Prod.fst).toFinset = r.names.toFinset := by
    ext name
    rw [List.mem_toFinset, List.mem_toFinset, h.names]
  rw [hsame, List.toFinset_card_of_nodup h.distinct, length_names]

/-! ## The law -/

/-- Whatever is inserted in turn, the names of the record are pairwise distinct and in the order of
their first insertion. A name that was inserted is looked up with its last value, and no other name
is; where null counts as no value, the same holds but for a last value that is null. The size counts
the distinct names. -/
theorem a_record_keeps_the_order_of_first_insertion (inserted : List (String × Scalar)) :
    (ofPairs inserted).names.Nodup ∧
    (ofPairs inserted).names.Pairwise (fun m n =>
      (inserted.map Prod.fst).idxOf m < (inserted.map Prod.fst).idxOf n) ∧
    (∀ name, name ∈ (ofPairs inserted).names ↔ name ∈ inserted.map Prod.fst) ∧
    (∀ name v, (name, v) ∈ (ofPairs inserted).fields ↔ LastInserted inserted name v) ∧
    (∀ name v, (ofPairs inserted).get? name = some v ↔ LastInserted inserted name v) ∧
    (∀ name, (ofPairs inserted).get? name = none ↔ name ∉ inserted.map Prod.fst) ∧
    (∀ name v, (ofPairs inserted).value? name = some v ↔
      LastInserted inserted name v ∧ v ≠ .null) ∧
    (ofPairs inserted).size = (inserted.map Prod.fst).toFinset.card := by
  have keeps := ofPairs_keeps inserted
  have hget (name : String) (v : Scalar) :
      (ofPairs inserted).get? name = some v ↔ LastInserted inserted name v := by
    rw [get?_eq_some_iff keeps.distinct, keeps.fields]
  refine ⟨keeps.distinct, keeps.in_order, keeps.names, keeps.fields, hget, fun name => ?_,
    fun name v => ?_, keeps.size_eq⟩
  · rw [get?_eq_none_iff, keeps.names]
  · rw [value?_eq_some_iff, hget]

end CompanySearch.Record
