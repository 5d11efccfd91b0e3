-- What sorting makes of a list that has been turned round or sorted before. Descending is ascending
-- read backwards, and of two sorts in turn the later one counts first.
import CompanySearch.Proofs.Arrangement

namespace CompanySearch

namespace Sorting

/-! ## Stable sorts of other lists -/

section stable

variable {α : Type u} {κ : Type v} {order : κ → κ → Ordering} {key : α → κ}
variable {items sorted : List α}

/-- Items in order are sorted as they stand. -/
theorem InOrder.stablySorted (h : InOrder order key items) :
    StablySorted order key items items :=
  ⟨h, fun _ => rfl⟩

/-- Leaving out items keeps a sorted list sorted. -/
theorem StablySorted.filter (h : StablySorted order key items sorted) (p : α → Bool) :
    StablySorted order key (items.filter p) (sorted.filter p) := by
  refine ⟨h.in_order.filter p, fun k => ?_⟩
  have hfilter (l : List α) : part order key k .eq (l.filter p) =
      (part order key k .eq l).filter p := by
    unfold part
    rw [List.filter_filter, List.filter_filter]
    simp only [Bool.and_comm]
  rw [hfilter, hfilter, h.keeps_classes]

variable [Std.TransCmp order]

variable (order key) in
/-- Reading a list from its end reads each class of equal keys from its end, also when the order of
the keys is turned round. -/
theorem part_backwards (k : κ) (l : List α) :
    part (fun a b => order b a) key k .eq l.reverse = (part order key k .eq l).reverse := by
  unfold part
  rw [← List.filter_reverse]
  apply List.filter_congr
  intro a _
  rw [Bool.eq_iff_iff, beq_iff_eq, beq_iff_eq]
  exact Std.OrientedCmp.eq_comm

/-- Read backwards, a sorted list is the items read backwards, sorted the other way. -/
theorem StablySorted.backwards (h : StablySorted order key items sorted) :
    StablySorted (fun a b => order b a) key items.reverse sorted.reverse := by
  constructor
  · unfold InOrder
    rw [List.pairwise_reverse]
    exact h.in_order
  · intro k
    rw [part_backwards order key, part_backwards order key, h.keeps_classes]

/-- A sorted list is ordered by its keys first, and among equal keys in whatever way the items
were. -/
theorem StablySorted.refines (h : StablySorted order key items sorted) {R : α → α → Prop}
    (hR : items.Pairwise R) :
    sorted.Pairwise fun a b =>
      order (key a) (key b) = .lt ∨ (order (key a) (key b) = .eq ∧ R a b) := by
  apply (h.in_order.and (h.ties hR)).imp
  rintro a b ⟨hle, htie⟩
  cases hab : order (key a) (key b) with
  | lt => exact Or.inl rfl
  | eq => exact Or.inr ⟨rfl, htie hab⟩
  | gt => simp [hab] at hle

end stable

/-! ## Sorting by a field -/

variable {α : Type u} {β : Type v}

theorem byField_stable (algorithm : Algorithm) (field : String) (direction : Direction)
    (record : α → Record) (items : List α) :
    StablySorted (keyOrder direction) (fun a => (record a).value? field) items
      (byField algorithm field direction record items) := by
  cases algorithm with
  | merge => exact mergeSort_stable _ _ items
  | quick => exact quickSort_stable _ _ items

/-- Either algorithm gives whatever list is sorted stably. -/
theorem StablySorted.byField_eq {field : String} {direction : Direction} {record : α → Record}
    {items sorted : List α}
    (h : StablySorted (keyOrder direction) (fun a => (record a).value? field) items sorted)
    (algorithm : Algorithm) : byField algorithm field direction record items = sorted :=
  (byField_stable algorithm field direction record items).unique _ _ h

/-- Sorting does not look at what an item has beside its record. -/
theorem byField_map (algorithm : Algorithm) (field : String) (direction : Direction)
    (record : α → Record) (f : β → α) (items : List β) :
    (byField algorithm field direction (fun b => record (f b)) items).map f =
      byField algorithm field direction record (items.map f) := by
  have hsorted := byField_stable algorithm field direction (fun b => record (f b)) items
  exact ((hsorted.map f).byField_eq algorithm).symm

/-! ## Either direction -/

/-- Sorting downwards gives what sorting the reversed list upwards gives, read from its end, ties
and missing keys included. -/
theorem sorting_down_is_sorting_up_backwards (algorithm : Algorithm) (field : String)
    (record : α → Record) (items : List α) :
    byField algorithm field .descending record items =
      (byField algorithm field .ascending record items.reverse).reverse := by
  have hup := byField_stable algorithm field .ascending record items.reverse
  have hdown := hup.backwards
  rw [List.reverse_reverse] at hdown
  have hflip : (fun a b => keyOrder .ascending b a) = keyOrder .descending := by
    funext a b
    rw [keyOrder_descending]
    exact Std.OrientedCmp.eq_swap
  rw [hflip] at hdown
  exact hdown.byField_eq algorithm

/-! ## Sorting again -/

/-- Whether one item stands before another by some fields: the first field that tells their records
apart decides, and where none does, the positions that they had. -/
def StandsBefore (record : α → Record) : List (String × Direction) → α × Nat → α × Nat → Prop
  | [], a, b => a.2 < b.2
  | (field, direction) :: rest, a, b =>
    Record.order field direction (record a.1) (record b.1) = .lt ∨
      (Record.order field direction (record a.1) (record b.1) = .eq ∧
        StandsBefore record rest a b)

/-- The items in the order that some fields give them, each with the position that it had. -/
structure PlacedBy (record : α → Record) (fields : List (String × Direction)) (items : List α)
    (placed : List (α × Nat)) : Prop where
  takes_each_once : placed.Perm items.zipIdx
  in_order : placed.Pairwise (StandsBefore record fields)

variable {record : α → Record} {fields : List (String × Direction)} {items : List α}

theorem StandsBefore.asymm {a b : α × Nat} (hab : StandsBefore record fields a b) :
    ¬ StandsBefore record fields b a := by
  induction fields with
  | nil => exact Nat.lt_asymm hab
  | cons f rest ih =>
    unfold StandsBefore Record.order at hab ⊢
    rcases hab with hlt | ⟨heq, hrest⟩
    · simp [Std.OrientedCmp.gt_of_lt hlt]
    · simp [Std.OrientedCmp.eq_symm heq, ih hrest]

/-- Fields place the items in one way only. -/
theorem PlacedBy.unique {placed other : List (α × Nat)}
    (h : PlacedBy record fields items placed) (h' : PlacedBy record fields items other) :
    placed = other := by
  refine List.Perm.eq_of_pairwise ?_ h.in_order h'.in_order
    (h.takes_each_once.trans h'.takes_each_once.symm)
  intro a b _ _ hab hba
  exact absurd hba hab.asymm

/-- Without fields the items are placed as they stand. -/
theorem placedBy_none (record : α → Record) (items : List α) :
    PlacedBy record [] items items.zipIdx :=
  ⟨List.Perm.refl _, zipIdx_positions items⟩

/-- Sorting by a field puts it in front of the fields that placed the items before. -/
theorem PlacedBy.sort {placed : List (α × Nat)} (h : PlacedBy record fields items placed)
    (algorithm : Algorithm) (field : String) (direction : Direction) :
    PlacedBy record ((field, direction) :: fields) items
      (byField algorithm field direction (fun a => record a.1) placed) := by
  have hsorted := byField_stable algorithm field direction (fun a : α × Nat => record a.1) placed
  exact ⟨hsorted.perm.trans h.takes_each_once, hsorted.refines h.in_order⟩

/-- Sorting by one field and then by another places the items by the later field, ties in it by the
earlier one, and ties in both as they stood, whichever algorithms do it; only one list is like that.
So sorting again by the same field and direction changes nothing. -/
theorem the_later_sort_counts_first (record : α → Record) (later earlier : Algorithm)
    (field field' : String) (direction direction' : Direction) (items : List α) :
    (∃ placed, PlacedBy record [(field, direction), (field', direction')] items placed ∧
      byField later field direction record (byField earlier field' direction' record items) =
        placed.map Prod.fst ∧
      ∀ other, PlacedBy record [(field, direction), (field', direction')] items other →
        other = placed) ∧
    byField later field direction record (byField earlier field direction record items) =
      byField earlier field direction record items := by
  constructor
  · have hearlier := (placedBy_none record items).sort earlier field' direction'
    have hplaced := hearlier.sort later field direction
    refine ⟨_, hplaced, ?_, fun other h => h.unique hplaced⟩
    rw [byField_map later field direction record Prod.fst,
      byField_map earlier field' direction' record Prod.fst, List.zipIdx_map_fst]
  · have hsorted := (byField_stable earlier field direction record items).in_order
    exact hsorted.stablySorted.byField_eq later

end Sorting

end CompanySearch
