-- Both ways of sorting are stable: they put the keys in order and keep the items of equal keys as
-- they stood. Only one list does both, so merging and partition give the same list.
import CompanySearch.Proofs.KeyOrder
import CompanySearch.Search.Run

namespace CompanySearch

namespace Sorting

variable {α : Type u} {κ : Type v} (order : κ → κ → Ordering) (key : α → κ)

/-! ## What a stable sort is -/

/-- No item stands before one with a lesser key. -/
def InOrder (items : List α) : Prop :=
  items.Pairwise fun a b => (order (key a) (key b)).isLE = true

/-- A list sorted stably: its keys are in order, and the items of equal keys are those that the
items had, in the order in which they stood. -/
structure StablySorted (items sorted : List α) : Prop where
  in_order : InOrder order key sorted
  keeps_classes : ∀ k, part order key k .eq sorted = part order key k .eq items

theorem mem_part {k : κ} {o : Ordering} {items : List α} {a : α} :
    a ∈ part order key k o items ↔ a ∈ items ∧ order (key a) k = o := by
  unfold part
  rw [List.mem_filter, beq_iff_eq]

theorem part_append (k : κ) (o : Ordering) (l r : List α) :
    part order key k o (l ++ r) = part order key k o l ++ part order key k o r := by
  unfold part
  exact List.filter_append l r

theorem part_cons_of_eq {k : κ} {o : Ordering} {a : α} (items : List α)
    (h : order (key a) k = o) :
    part order key k o (a :: items) = a :: part order key k o items := by
  unfold part
  rw [List.filter_cons_of_pos (by simpa using h)]

theorem part_cons_of_ne {k : κ} {o : Ordering} {a : α} (items : List α)
    (h : order (key a) k ≠ o) : part order key k o (a :: items) = part order key k o items := by
  unfold part
  rw [List.filter_cons_of_neg (by simpa using h)]

theorem part_eq_nil {k : κ} {o : Ordering} {items : List α}
    (h : ∀ a ∈ items, order (key a) k ≠ o) : part order key k o items = [] := by
  apply List.eq_nil_iff_forall_not_mem.mpr
  intro a ha
  rw [mem_part] at ha
  exact h a ha.1 ha.2

/-- At most one item is sorted as it stands. -/
theorem StablySorted.of_short {items : List α} (h : items.length ≤ 1) :
    StablySorted order key items items := by
  refine ⟨?_, fun _ => rfl⟩
  unfold InOrder
  match items, h with
  | [], _ => exact List.Pairwise.nil
  | [a], _ => exact List.pairwise_singleton _ a

theorem mem_merge (l r : List α) (a : α) : a ∈ merge order key l r ↔ a ∈ l ∨ a ∈ r := by
  induction l, r using merge.induct order key with
  | case1 r => simp [merge]
  | case2 l hl =>
    obtain ⟨b, l, rfl⟩ := List.exists_cons_of_ne_nil hl
    simp [merge]
  | case3 b l c r h ih =>
    rw [merge, if_pos h, List.mem_cons, ih, List.mem_cons (b := c)]
    tauto
  | case4 b l c r h ih =>
    rw [merge, if_neg h, List.mem_cons, ih, List.mem_cons (b := b)]
    tauto

variable [Std.TransCmp order]

theorem order_self (a : α) : order (key a) (key a) = .eq := Std.ReflCmp.compare_self

/-! ## A stable sort is unique -/

/-- Lists with the same classes have the same items. -/
theorem mem_of_classes {l r : List α}
    (h : ∀ k, part order key k .eq l = part order key k .eq r) {a : α} (ha : a ∈ l) : a ∈ r := by
  have hclass : a ∈ part order key (key a) .eq l :=
    (mem_part order key).mpr ⟨ha, order_self order key a⟩
  rw [h] at hclass
  exact ((mem_part order key).mp hclass).1

/-- The first of the items in order is at most any of them. -/
theorem InOrder.first_le {a b : α} {l : List α} (h : InOrder order key (a :: l))
    (hb : b ∈ a :: l) : (order (key a) (key b)).isLE = true := by
  rcases List.mem_cons.mp hb with rfl | hb
  · rw [order_self order key]
    rfl
  · exact (List.pairwise_cons.mp h).1 b hb

/-- Items in order are determined by their classes of equal keys. -/
theorem eq_of_classes {l r : List α} (hl : InOrder order key l) (hr : InOrder order key r)
    (h : ∀ k, part order key k .eq l = part order key k .eq r) : l = r := by
  induction l generalizing r with
  | nil =>
    cases r with
    | nil => rfl
    | cons b r =>
      have := mem_of_classes order key (fun k => (h k).symm) List.mem_cons_self
      contradiction
  | cons a l ih =>
    cases r with
    | nil =>
      have := mem_of_classes order key h List.mem_cons_self
      contradiction
    | cons b r =>
      have hab := hl.first_le order key
        (mem_of_classes order key (fun k => (h k).symm) List.mem_cons_self)
      have hba := hr.first_le order key (mem_of_classes order key h List.mem_cons_self)
      -- both heads are the first of one class
      have hclass := h (key a)
      rw [part_cons_of_eq order key l (order_self order key a),
        part_cons_of_eq order key r (Std.OrientedCmp.isLE_antisymm hba hab)] at hclass
      obtain rfl : a = b := (List.cons.inj hclass).1
      congr 1
      apply ih (List.pairwise_cons.mp hl).2 (List.pairwise_cons.mp hr).2
      intro k
      have hk := h k
      by_cases hak : order (key a) k = .eq
      · rw [part_cons_of_eq order key l hak, part_cons_of_eq order key r hak] at hk
        exact (List.cons.inj hk).2
      · rwa [part_cons_of_ne order key l hak, part_cons_of_ne order key r hak] at hk

theorem StablySorted.unique {items l r : List α} (hl : StablySorted order key items l)
    (hr : StablySorted order key items r) : l = r := by
  apply eq_of_classes order key hl.in_order hr.in_order
  intro k
  rw [hl.keeps_classes, hr.keeps_classes]

theorem StablySorted.mem {items sorted : List α} (h : StablySorted order key items sorted)
    {a : α} (ha : a ∈ sorted) : a ∈ items :=
  mem_of_classes order key h.keeps_classes ha

/-! ## Merging -/

theorem merge_in_order {l r : List α} (hl : InOrder order key l) (hr : InOrder order key r) :
    InOrder order key (merge order key l r) := by
  induction l, r using merge.induct order key with
  | case1 r => simpa [merge] using hr
  | case2 l h =>
    obtain ⟨b, l, rfl⟩ := List.exists_cons_of_ne_nil h
    simpa [merge] using hl
  | case3 b l c r h ih =>
    rw [merge, if_pos h]
    refine List.pairwise_cons.mpr ⟨?_, ih hl (List.pairwise_cons.mp hr).2⟩
    intro a ha
    rcases (mem_merge order key _ _ a).mp ha with ha | ha
    · have hcb : order (key c) (key b) = .lt := Std.OrientedCmp.lt_of_gt (by simpa using h)
      exact Std.TransCmp.isLE_trans (Ordering.isLE_of_eq_lt hcb) (hl.first_le order key ha)
    · exact hr.first_le order key (List.mem_cons_of_mem c ha)
  | case4 b l c r h ih =>
    rw [merge, if_neg h]
    refine List.pairwise_cons.mpr ⟨?_, ih (List.pairwise_cons.mp hl).2 hr⟩
    intro a ha
    rcases (mem_merge order key _ _ a).mp ha with ha | ha
    · exact hl.first_le order key (List.mem_cons_of_mem b ha)
    · have hbc : (order (key b) (key c)).isLE = true := by
        rw [Ordering.isLE_iff_ne_gt]
        simpa using h
      exact Std.TransCmp.isLE_trans hbc (hr.first_le order key ha)

/-- Merging takes the items of a class from the left before those from the right. -/
theorem part_merge (k : κ) {l r : List α} (hl : InOrder order key l)
    (hr : InOrder order key r) :
    part order key k .eq (merge order key l r) =
      part order key k .eq l ++ part order key k .eq r := by
  induction l, r using merge.induct order key with
  | case1 r => simp [merge, part]
  | case2 l h =>
    obtain ⟨b, l, rfl⟩ := List.exists_cons_of_ne_nil h
    simp [merge, part]
  | case3 b l c r h ih =>
    rw [merge, if_pos h]
    have ih := ih hl (List.pairwise_cons.mp hr).2
    by_cases hck : order (key c) k = .eq
    · -- all that the left holds is greater, so nothing of the class is overtaken
      have hleft : part order key k .eq (b :: l) = [] := by
        apply part_eq_nil
        intro a ha hak
        have hcb : order (key c) (key b) = .lt := Std.OrientedCmp.lt_of_gt (by simpa using h)
        have hca := Std.TransCmp.lt_of_lt_of_isLE hcb (hl.first_le order key ha)
        rw [Std.TransCmp.eq_trans hck (Std.OrientedCmp.eq_symm hak)] at hca
        contradiction
      rw [part_cons_of_eq order key _ hck, part_cons_of_eq order key _ hck, ih, hleft]
      rfl
    · rw [part_cons_of_ne order key _ hck, part_cons_of_ne order key _ hck, ih]
  | case4 b l c r h ih =>
    rw [merge, if_neg h]
    have ih := ih (List.pairwise_cons.mp hl).2 hr
    by_cases hbk : order (key b) k = .eq
    · rw [part_cons_of_eq order key _ hbk, part_cons_of_eq order key _ hbk, ih]
      rfl
    · rw [part_cons_of_ne order key _ hbk, part_cons_of_ne order key _ hbk, ih]

theorem mergeSort_stable (items : List α) :
    StablySorted order key items (mergeSort order key items) := by
  induction items using mergeSort.induct with
  | case1 items h =>
    rw [mergeSort, if_pos h]
    exact .of_short order key h
  | case2 items h middle left right =>
    rw [mergeSort, if_neg h]
    refine ⟨merge_in_order order key left.in_order right.in_order, fun k => ?_⟩
    rw [part_merge order key k left.in_order right.in_order, left.keeps_classes,
      right.keeps_classes, ← part_append, List.take_append_drop]

/-! ## Partition -/

/-- A class of equal keys lies in one part as a whole. -/
theorem part_part (k pivot : κ) (o : Ordering) (items : List α) :
    part order key k .eq (part order key pivot o items) =
      if order k pivot = o then part order key k .eq items else [] := by
  split
  · rename_i ho
    unfold part
    rw [List.filter_filter]
    apply List.filter_congr
    intro a _
    by_cases hak : order (key a) k = .eq
    · simp [hak, Std.TransCmp.congr_left hak, ho]
    · simp [hak]
  · rename_i ho
    apply part_eq_nil
    intro a ha hak
    rw [← Std.TransCmp.congr_left hak] at ho
    exact ho ((mem_part order key).mp ha).2

/-- The three parts together keep every class. -/
theorem part_of_parts (k pivot : κ) (items : List α) :
    part order key k .eq (part order key pivot .lt items) ++
      part order key k .eq (part order key pivot .eq items) ++
      part order key k .eq (part order key pivot .gt items) = part order key k .eq items := by
  rw [part_part, part_part, part_part]
  cases order k pivot <;> simp

/-- Items on two sides of a pivot are in order. -/
theorem isLE_of_pivot {a b : α} {pivot : κ} (ha : (order (key a) pivot).isLE = true)
    (hb : (order (key b) pivot).isGE = true) : (order (key a) (key b)).isLE = true :=
  Std.TransCmp.isLE_trans ha (Std.OrientedCmp.isLE_of_isGE hb)

theorem quickSort_stable (items : List α) :
    StablySorted order key items (quickSort order key items) := by
  induction items using quickSort.induct order key with
  | case1 items h =>
    rw [quickSort, dif_pos h]
    exact .of_short order key h
  | case2 items h pivot less greater =>
    rw [quickSort, dif_neg h]
    have hlt : ∀ a ∈ quickSort order key (part order key (key pivot) .lt items),
        order (key a) (key pivot) = .lt := fun a ha =>
      ((mem_part order key).mp (less.mem order key ha)).2
    have heq : ∀ a ∈ part order key (key pivot) .eq items, order (key a) (key pivot) = .eq :=
      fun a ha => ((mem_part order key).mp ha).2
    have hgt : ∀ a ∈ quickSort order key (part order key (key pivot) .gt items),
        order (key a) (key pivot) = .gt := fun a ha =>
      ((mem_part order key).mp (greater.mem order key ha)).2
    refine ⟨?_, fun k => ?_⟩
    · refine List.pairwise_append.mpr ⟨List.pairwise_append.mpr ⟨less.in_order, ?_, ?_⟩,
        greater.in_order, ?_⟩
      · refine List.pairwise_of_forall_mem_list fun a ha b hb => ?_
        exact isLE_of_pivot order key (by rw [heq a ha]; rfl) (by rw [heq b hb]; rfl)
      · intro a ha b hb
        exact isLE_of_pivot order key (by rw [hlt a ha]; rfl) (by rw [heq b hb]; rfl)
      · intro a ha b hb
        have hb : (order (key b) (key pivot)).isGE = true := by rw [hgt b hb]; rfl
        rcases List.mem_append.mp ha with ha | ha
        · exact isLE_of_pivot order key (by rw [hlt a ha]; rfl) hb
        · exact isLE_of_pivot order key (by rw [heq a ha]; rfl) hb
    · rw [part_append, part_append, less.keeps_classes, greater.keeps_classes, part_of_parts]

theorem mergeSort_eq_quickSort (items : List α) :
    mergeSort order key items = quickSort order key items :=
  (mergeSort_stable order key items).unique order key (quickSort_stable order key items)

end Sorting

/-! ## The laws -/

theorem Sorting.byField_eq (a b : Algorithm) (field : String) (direction : Direction)
    (record : α → Record) (items : List α) :
    byField a field direction record items = byField b field direction record items := by
  unfold byField
  cases a <;> cases b <;> simp only [mergeSort_eq_quickSort]

/-- Merging and partition give the same list, item by item, so also ties and missing keys stand
alike in both. Hence no search depends on the algorithm that it asks for. -/
theorem both_algorithms_give_the_same_rows :
    (∀ (α : Type u) (record : α → Record) (field : String) (direction : Direction)
      (items : List α),
      Sorting.mergeSort (keyOrder direction) (fun a => (record a).value? field) items =
        Sorting.quickSort (keyOrder direction) (fun a => (record a).value? field) items) ∧
    ∀ (request : Search.Request) (asked : Option String) (dataset : List Record),
      Search.run { request with algorithm := asked } dataset = Search.run request dataset := by
  constructor
  · intro α record field direction items
    exact Sorting.mergeSort_eq_quickSort _ _ items
  · intro request asked dataset
    have hfield :
        ({ request with algorithm := asked } : Search.Request).field? = request.field? := rfl
    unfold Search.run
    rw [hfield]
    cases request.field? with
    | none => rfl
    | some field => exact Sorting.byField_eq _ _ field _ id _

end CompanySearch
