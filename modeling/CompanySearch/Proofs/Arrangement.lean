-- What merging makes of a list: every item once, in order, and the items of equal keys as they
-- stood. Equal items are told apart by the positions that they had, and only one arrangement of the
-- items is like that.
import CompanySearch.Proofs.StableSort

namespace CompanySearch

namespace Sorting

/-! ## What a stable sort keeps -/

section keeps

variable {α : Type u} {β : Type v} {κ : Type w} {order : κ → κ → Ordering} {key : α → κ}
variable {items sorted : List α}

theorem part_map (f : β → α) (k : κ) (o : Ordering) (l : List β) :
    part order key k o (l.map f) = (part order (fun b => key (f b)) k o l).map f := by
  unfold part
  exact List.filter_map

/-- Sorting does not look at what an item has beside its key. -/
theorem StablySorted.map (f : β → α) {l l' : List β}
    (h : StablySorted order (fun b => key (f b)) l l') :
    StablySorted order key (l.map f) (l'.map f) := by
  constructor
  · unfold InOrder
    rw [List.pairwise_map]
    exact h.in_order
  · intro k
    rw [part_map, part_map, h.keeps_classes]

variable [Std.TransCmp order]

/-- A sorted list has every item as often as the items have it. -/
theorem StablySorted.perm (h : StablySorted order key items sorted) : sorted.Perm items := by
  classical
  rw [List.perm_iff_count]
  intro a
  have hclass (l : List α) : (part order key (key a) .eq l).count a = l.count a := by
    unfold part
    rw [List.count_filter (by simp [order_self])]
  rw [← hclass, h.keeps_classes, hclass]

/-- What holds between any item and those behind it, holds among equal keys when they are
sorted. -/
theorem StablySorted.ties (h : StablySorted order key items sorted) {R : α → α → Prop}
    (hR : items.Pairwise R) :
    sorted.Pairwise fun a b => order (key a) (key b) = .eq → R a b := by
  rw [List.pairwise_iff_forall_sublist]
  intro a b hab htie
  -- both are of one class, which stands in the items as it does in the sorted list
  have hclass : [a, b].Sublist (part order key (key b) .eq sorted) := by
    have hpair : part order key (key b) .eq [a, b] = [a, b] := by
      simp [part, htie, order_self]
    rw [← hpair]
    exact hab.filter _
  rw [h.keeps_classes] at hclass
  have hitems : [a, b].Sublist items := hclass.trans List.filter_sublist
  exact List.pairwise_iff_forall_sublist.mp hR hitems

variable (order key) in
theorem mergeSort_map (f : β → α) (l : List β) :
    (mergeSort order (fun b => key (f b)) l).map f = mergeSort order key (l.map f) :=
  ((mergeSort_stable order _ l).map f).unique order key (mergeSort_stable order key (l.map f))

end keeps

/-! ## Arrangements -/

/-- The items in the order that sorting by a field asks for, each with the position that it had:
every position once, no record before a lesser one, and ties as they stood. -/
structure Arranges (field : String) (direction : Direction) (record : α → Record)
    (items : List α) (placed : List (α × Nat)) : Prop where
  takes_each_once : placed.Perm items.zipIdx
  in_order : placed.Pairwise fun a b =>
    Record.order field direction (record a.1) (record b.1) ≠ .gt
  ties_as_they_stood : placed.Pairwise fun a b =>
    Record.order field direction (record a.1) (record b.1) = .eq → a.2 < b.2

variable {α : Type u} {field : String} {direction : Direction} {record : α → Record}

theorem zipIdx_positions (items : List α) : items.zipIdx.Pairwise fun a b => a.2 < b.2 := by
  rw [← List.pairwise_map (f := Prod.snd) (R := (· < ·)), List.zipIdx_map_snd]
  exact List.pairwise_lt_range'

theorem mergeSort_arranges (items : List α) : Arranges field direction record items
    (mergeSort (keyOrder direction) (fun a => (record a.1).value? field) items.zipIdx) := by
  have hsorted := mergeSort_stable (keyOrder direction)
    (fun a : α × Nat => (record a.1).value? field) items.zipIdx
  refine ⟨hsorted.perm, ?_, hsorted.ties (zipIdx_positions items)⟩
  apply hsorted.in_order.imp
  intro a b hle
  exact Ordering.isLE_iff_ne_gt.mp hle

/-- Two arrangements of the same items are one. -/
theorem Arranges.unique {items : List α} {placed other : List (α × Nat)}
    (h : Arranges field direction record items placed)
    (h' : Arranges field direction record items other) : placed = other := by
  refine List.Perm.eq_of_pairwise ?_ (h.in_order.and h.ties_as_they_stood)
    (h'.in_order.and h'.ties_as_they_stood) (h.takes_each_once.trans h'.takes_each_once.symm)
  -- neither of two items can stand in front of the other
  rintro a b - - ⟨hab, hties⟩ ⟨hba, hties'⟩
  unfold Record.order at hab hties hba hties'
  have htie := Std.OrientedCmp.isLE_antisymm (Ordering.isLE_iff_ne_gt.mpr hab)
    (Ordering.isLE_iff_ne_gt.mpr hba)
  have hlt := hties htie
  have hgt := hties' (Std.OrientedCmp.eq_symm htie)
  omega

/-! ## The law -/

/-- Merging gives the items as the one arrangement has them: each once, in order, and ties, missing
keys among them, as they stood. -/
theorem merging_gives_the_only_arrangement (field : String) (direction : Direction)
    (record : α → Record) (items : List α) :
    ∃ placed, Arranges field direction record items placed ∧
      mergeSort (keyOrder direction) (fun a => (record a).value? field) items =
        placed.map Prod.fst ∧
      ∀ other, Arranges field direction record items other → other = placed := by
  refine ⟨_, mergeSort_arranges items, ?_, ?_⟩
  · rw [mergeSort_map _ (fun a => (record a).value? field) Prod.fst, List.zipIdx_map_fst]
  · intro other h
    exact h.unique (mergeSort_arranges items)

end Sorting

end CompanySearch
