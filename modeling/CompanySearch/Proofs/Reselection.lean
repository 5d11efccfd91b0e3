-- Selecting from what has been sorted or selected before. Without an `or` the selection only leaves
-- records out, so it can come before sorting or after it. With an `or` it moves records too, but
-- selecting again moves nothing more.
import CompanySearch.Proofs.Resorting
import CompanySearch.Proofs.SelectionOrder
import Mathlib.Data.List.Lex
import Mathlib.Data.List.Sort

namespace CompanySearch.Query

instance (r : Record) (clauses : List Clause) : Decidable (Meets r clauses) :=
  inferInstanceAs
    (Decidable (∀ g ∈ groups clauses, ∃ c ∈ g, ∀ p ∈ c.predicates, satisfies r p = true))

variable {records : List Record} {clauses : List Clause}

/-- The records at all positions are the records. -/
theorem filterMap_range (records : List Record) :
    (List.range records.length).filterMap (fun i => records[i]?) = records := by
  induction records with
  | nil => rfl
  | cons r records ih =>
    rw [List.length_cons, List.range_succ_eq_map, List.filterMap_cons]
    simp [List.filterMap_map, ih]

/-- The records at the positions of those that a test holds of. -/
theorem filterMap_filter_range (records : List Record) (p : Record → Bool) :
    ((List.range records.length).filter fun i => records[i]?.any p).filterMap
      (fun i => records[i]?) = records.filter p := by
  conv_rhs => rw [← filterMap_range records]
  rw [List.filterMap_filter, List.filter_filterMap]
  apply List.filterMap_congr
  intro i _
  cases records[i]? <;> simp [Option.filter]

/-- The selected positions are those of the records that meet the clauses. -/
theorem mem_selectedPositions_iff_any (records : List Record) (clauses : List Clause) (i : Nat) :
    i ∈ selectedPositions records clauses ↔ i ∈ (List.range records.length).filter
      fun i => records[i]?.any fun r => decide (Meets r clauses) := by
  rw [mem_selectedPositions, List.mem_filter, List.mem_range]
  constructor
  · rintro ⟨hi, hmeets⟩
    simp [hi, hmeets]
  · rintro ⟨hi, hmeets⟩
    exact ⟨hi, by simpa [hi] using hmeets⟩

theorem selectedPositions_nodup (records : List Record) (clauses : List Clause) :
    (selectedPositions records clauses).Nodup := by
  rw [selectedPositions_eq]
  exact foldl_gather_nodup records _ List.nodup_range

/-- A selection holds the records that meet the clauses, each as often as it is there. -/
theorem select_perm (records : List Record) (clauses : List Clause) :
    (select records clauses).Perm (records.filter fun r => decide (Meets r clauses)) := by
  rw [← filterMap_filter_range]
  unfold select
  apply List.Perm.filterMap
  rw [List.perm_ext_iff_of_nodup (selectedPositions_nodup records clauses)
    (List.nodup_range.filter _)]
  exact mem_selectedPositions_iff_any records clauses

/-! ## Selecting without an `or` -/

/-- Without an `or` the positions of the records that meet the clauses are listed as they stand. -/
theorem selectedPositions_of_no_or (records : List Record)
    (h : ∀ c ∈ clauses.dropLast, c.connector ≠ some .or) :
    selectedPositions records clauses = (List.range records.length).filter
      fun i => records[i]?.any fun r => decide (Meets r clauses) := by
  have hsublist : (selectedPositions records clauses).Sublist (List.range records.length) := by
    rw [selectedPositions_eq]
    exact foldl_gather_sublist records (fun g hg => groups_short h hg) _
  -- positions that rise are determined by which they are
  have hrange := List.pairwise_lt_range (n := records.length)
  apply (hrange.sublist hsublist).eq_of_mem_iff (hrange.filter _)
  exact mem_selectedPositions_iff_any records clauses

/-- Without an `or` the selection leaves out what does not meet the clauses, and moves nothing. -/
theorem select_of_no_or (records : List Record)
    (h : ∀ c ∈ clauses.dropLast, c.connector ≠ some .or) :
    select records clauses = records.filter fun r => decide (Meets r clauses) := by
  unfold select
  rw [selectedPositions_of_no_or records h, filterMap_filter_range]

/-- Without an `or`, filtering the sorted records and sorting the filtered ones come to the same
list, ties included. An `or` behind the last clause joins nothing. -/
theorem without_or_filtering_and_sorting_commute (records : List Record) (clauses : List Clause)
    (algorithm : Algorithm) (field : String) (direction : Direction)
    (h : ∀ c ∈ clauses.dropLast, c.connector ≠ some .or) :
    select (Sorting.records algorithm field direction records) clauses =
      Sorting.records algorithm field direction (select records clauses) := by
  rw [select_of_no_or _ h, select_of_no_or _ h]
  have hsorted := Sorting.byField_stable algorithm field direction id records
  exact ((hsorted.filter _).byField_eq algorithm).symm

/-- Five companies, with ties and a missing value in what they are sorted by. -/
def companies : List Record :=
  [⟨[("id", .integer 1), ("industry", .text "Steel"), ("size", .integer 20)]⟩,
    ⟨[("id", .integer 2), ("industry", .text "Glass"), ("size", .integer 30)]⟩,
    ⟨[("id", .integer 3), ("industry", .text "Steel")]⟩,
    ⟨[("id", .integer 4), ("industry", .text "Steel"), ("size", .integer 30)]⟩,
    ⟨[("id", .integer 5), ("industry", .text "STEEL"), ("size", .integer 20)]⟩]

theorem steel_is_found_before_or_after_sorting :
    let clauses : List Clause :=
      [⟨[⟨"industry", .colon, "steel"⟩], some .and⟩, ⟨[⟨"id", .lessThan, "9"⟩], some .or⟩]
    (∀ c ∈ clauses.dropLast, c.connector ≠ some .or) ∧
      select (Sorting.records .quick "size" .descending companies) clauses =
        Sorting.records .quick "size" .descending (select companies clauses) ∧
      (select (Sorting.records .quick "size" .descending companies) clauses).map
        (fun r => r.value? "id") =
          [some (.integer 3), some (.integer 4), some (.integer 1), some (.integer 5)] := by
  refine ⟨by decide, ?_, by decide +kernel⟩
  exact without_or_filtering_and_sorting_commute companies _ .quick "size" .descending (by decide)

/-- With an `or` what the first clause finds is listed first, unless it is sorted after that. -/
example : select (Sorting.records .quick "k" .ascending
    [⟨[("k", .text "a")]⟩, ⟨[("k", .text "b")]⟩])
      [⟨[⟨"k", .colon, "b"⟩], some .or⟩, ⟨[⟨"k", .colon, "a"⟩], none⟩] ≠
    Sorting.records .quick "k" .ascending (select [⟨[("k", .text "a")]⟩, ⟨[("k", .text "b")]⟩]
      [⟨[⟨"k", .colon, "b"⟩], some .or⟩, ⟨[⟨"k", .colon, "a"⟩], none⟩]) := by
  decide +kernel

/-! ## Selecting again -/

/-- What a record is listed by: the first clause that it satisfies in each group, the last group in
front. -/
def ranks (clauses : List Clause) (r : Record) : List Nat :=
  (groups clauses).reverse.map fun g => g.findIdx (satisfiesClause r)

theorem standing_eq {i : Nat} {r : Record} (h : records[i]? = some r) :
    standing records clauses i = ranks clauses r ++ [i] := by
  simp [standing, ranks, firstMet, satisfiesAt, h]

/-- Records as a selection lists them: all meet the clauses, and none stands before one that is to
be listed before it. -/
structure Listed (clauses : List Clause) (records : List Record) : Prop where
  all_meet : ∀ r ∈ records, Meets r clauses
  in_order : records.Pairwise fun r s => ranks clauses r ≤ ranks clauses s

/-- Of two lists of one length, a last item counts only if the others are the same. -/
theorem concat_lt_concat_iff {ks ls : List Nat} (h : ks.length = ls.length) (i j : Nat) :
    ks ++ [i] < ls ++ [j] ↔ ks < ls ∨ (ks = ls ∧ i < j) := by
  induction ks generalizing ls with
  | nil =>
    obtain rfl := List.length_eq_zero_iff.mp h.symm
    simp [List.cons_lt_cons_iff]
  | cons k ks ih =>
    match ls, h with
    | l :: ls, h =>
      rw [List.cons_append, List.cons_append, List.cons_lt_cons_iff, List.cons_lt_cons_iff,
        ih (by simpa using h), List.cons.injEq]
      tauto

theorem standing_lt_iff {i j : Nat} {r s : Record} (hr : records[i]? = some r)
    (hs : records[j]? = some s) :
    standing records clauses i < standing records clauses j ↔
      ranks clauses r < ranks clauses s ∨ (ranks clauses r = ranks clauses s ∧ i < j) := by
  rw [standing_eq hr, standing_eq hs]
  exact concat_lt_concat_iff (by simp [ranks]) i j

theorem selectedPositions_in_order (records : List Record) (clauses : List Clause) :
    (selectedPositions records clauses).Pairwise fun i j =>
      standing records clauses i < standing records clauses j := by
  rw [selectedPositions_eq]
  apply foldl_gather_in_order
  exact List.pairwise_lt_range.imp fun hij => .rel hij

theorem select_listed (records : List Record) (clauses : List Clause) :
    Listed clauses (select records clauses) := by
  refine ⟨fun r hr => ((mem_select records clauses r).mp hr).2, ?_⟩
  unfold select
  rw [List.pairwise_filterMap]
  apply (selectedPositions_in_order records clauses).imp
  intro i j hij r hr s hs
  rcases (standing_lt_iff hr hs).mp hij with hlt | ⟨heq, _⟩
  · exact hlt.le
  · exact heq.le

theorem Listed.positions_in_order (h : Listed clauses records) :
    (List.range records.length).Pairwise fun i j =>
      standing records clauses i < standing records clauses j := by
  apply List.pairwise_lt_range.imp_of_mem
  intro i j hi hj hij
  rw [List.mem_range] at hi hj
  rw [standing_lt_iff (List.getElem?_eq_getElem hi) (List.getElem?_eq_getElem hj)]
  have hle := List.pairwise_iff_getElem.mp h.in_order i j hi hj hij
  exact hle.lt_or_eq.imp_right fun heq => ⟨heq, hij⟩

/-- Records that are listed already are all selected, each at its place. -/
theorem Listed.select_eq (h : Listed clauses records) : select records clauses = records := by
  have hperm : (selectedPositions records clauses).Perm (List.range records.length) := by
    rw [List.perm_ext_iff_of_nodup (selectedPositions_nodup records clauses) List.nodup_range]
    intro i
    rw [mem_selectedPositions, List.mem_range]
    exact ⟨fun ⟨hi, _⟩ => hi, fun hi => ⟨hi, h.all_meet _ (List.getElem_mem hi)⟩⟩
  -- the same positions in the same strict order
  have hall : selectedPositions records clauses = List.range records.length :=
    hperm.eq_of_pairwise (fun i j _ _ hij hji => absurd hji hij.asymm)
      (selectedPositions_in_order records clauses) h.positions_in_order
  unfold select
  rw [hall, filterMap_range]

/-- Selecting from a selection by the same clauses gives the same records in the same order,
however the clauses are joined. -/
theorem selecting_again_changes_nothing (records : List Record) (clauses : List Clause) :
    select (select records clauses) clauses = select records clauses :=
  (select_listed records clauses).select_eq

end CompanySearch.Query
