-- What a search finds: the records of one dataset that meet its text, in the order of the selection
-- or sorted stably by the field that it names. Its rows are determined by this.
import CompanySearch.Proofs.Reselection

namespace CompanySearch.Search

/-- The clauses that the text of a request stands for. -/
def Request.clauses (request : Request) : List Clause := Query.parse request.text

/-- What a search finds in a dataset: each record that meets the clauses of its text, as often as
the dataset has it. They stand as the selection lists them or, if there is a field to sort by, in
the order of the keys under that field, with those of equal keys as the selection lists them. -/
structure Finds (request : Request) (dataset rows : List Record) : Prop where
  met : rows.Perm (dataset.filter fun r => decide (Query.Meets r request.clauses))
  as_selected : request.field? = none → rows = Query.select dataset request.clauses
  sorted : ∀ field, request.field? = some field →
    Sorting.StablySorted (keyOrder (Direction.ofOrder request.sortOrder))
      (fun r => r.value? field) (Query.select dataset request.clauses) rows

variable {request : Request} {dataset rows : List Record}

theorem run_of_no_field (hfield : request.field? = none) (dataset : List Record) :
    run request dataset = Query.select dataset request.clauses := by
  unfold run
  rw [hfield]
  rfl

theorem run_of_field {field : String} (hfield : request.field? = some field)
    (dataset : List Record) :
    run request dataset = Sorting.records (Algorithm.ofName request.algorithm) field
      (Direction.ofOrder request.sortOrder) (Query.select dataset request.clauses) := by
  unfold run
  rw [hfield]
  rfl

/-- A search finds what it is to find. -/
theorem run_finds (request : Request) (dataset : List Record) :
    Finds request dataset (run request dataset) := by
  have hselected := Query.select_perm dataset request.clauses
  cases hfield : request.field? with
  | none =>
    have hrun := run_of_no_field hfield dataset
    refine ⟨?_, fun _ => hrun, by simp [hfield]⟩
    rw [hrun]
    exact hselected
  | some field =>
    have hsorted := Sorting.byField_stable (Algorithm.ofName request.algorithm) field
      (Direction.ofOrder request.sortOrder) id (Query.select dataset request.clauses)
    have hrun := run_of_field hfield dataset
    refine ⟨?_, by simp [hfield], ?_⟩
    · rw [hrun]
      exact hsorted.perm.trans hselected
    · rintro _ hsame
      cases hfield.symm.trans hsame
      rw [hrun]
      exact hsorted

/-- Nothing else is what the search is to find. -/
theorem Finds.eq_run (h : Finds request dataset rows) : rows = run request dataset := by
  cases hfield : request.field? with
  | none => rw [h.as_selected hfield, run_of_no_field hfield]
  | some field =>
    have hrun := (run_finds request dataset).sorted field hfield
    exact (h.sorted field hfield).unique _ _ hrun

/-- Whatever is found in a dataset is what the search comes to, and the other way round. -/
theorem finds_iff : Finds request dataset rows ↔ run request dataset = rows := by
  constructor
  · exact fun h => h.eq_run.symm
  · rintro rfl
    exact run_finds request dataset

end CompanySearch.Search
