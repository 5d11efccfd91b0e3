-- Sorting by merging: the list is cut in the middle, both halves are sorted, and the halves are
-- merged with ties taken from the left.

namespace CompanySearch.Sorting

/-- Merges two sorted lists. An item of the right goes first only if the left's is greater. -/
def merge (order : κ → κ → Ordering) (key : α → κ) : List α → List α → List α
  | [], right => right
  | left, [] => left
  | a :: left, b :: right =>
    if order (key a) (key b) == .gt then b :: merge order key (a :: left) right
    else a :: merge order key left (b :: right)

/-- The list sorted by its keys; items with equal keys keep their order. -/
def mergeSort (order : κ → κ → Ordering) (key : α → κ) (items : List α) : List α :=
  if items.length ≤ 1 then items
  else
    let middle := items.length / 2
    merge order key (mergeSort order key (items.take middle))
      (mergeSort order key (items.drop middle))
termination_by items.length
decreasing_by
  · simp; omega
  · simp; omega

end CompanySearch.Sorting
