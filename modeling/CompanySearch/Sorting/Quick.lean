-- Sorting by partition: the key in the middle parts the list into what is less, what is equal and
-- what is greater, and the two outer parts are sorted in the same way.
namespace CompanySearch.Sorting

/-- The items whose keys stand in the given order to a pivot. -/
def part (order : κ → κ → Ordering) (key : α → κ) (pivot : κ) (o : Ordering)
    (items : List α) : List α :=
  items.filter (fun a => order (key a) pivot == o)

/-- A part other than the equal one lacks the pivot's own item. -/
theorem an_outer_part_is_shorter (order : κ → κ → Ordering) [Std.ReflCmp order] (key : α → κ)
    {items : List α} {pivot : α} (hp : pivot ∈ items) {o : Ordering} (ho : o ≠ .eq) :
    (part order key (key pivot) o items).length < items.length := by
  apply List.length_filter_lt_length_iff_exists.2
  refine ⟨pivot, hp, ?_⟩
  have self : order (key pivot) (key pivot) = .eq := Std.ReflCmp.compare_self
  rw [self]
  cases o <;> simp_all

/-- The list sorted by its keys. -/
def quickSort (order : κ → κ → Ordering) [Std.ReflCmp order] (key : α → κ) (items : List α) :
    List α :=
  if h : items.length ≤ 1 then items
  else
    let pivot := items.get ⟨items.length / 2, by omega⟩
    quickSort order key (part order key (key pivot) .lt items) ++
      part order key (key pivot) .eq items ++
      quickSort order key (part order key (key pivot) .gt items)
termination_by items.length
decreasing_by
  · exact an_outer_part_is_shorter order key (List.get_mem _ _) (by decide)
  · exact an_outer_part_is_shorter order key (List.get_mem _ _) (by decide)

end CompanySearch.Sorting
