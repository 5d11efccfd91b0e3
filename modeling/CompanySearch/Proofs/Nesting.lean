-- How deep calls stand in each other when a list is sorted by partition. Every call sets aside the
-- whole class of keys that its middle item is of, so the calls in it have fewer classes before
-- them. Hence no more calls stand in each other below the outermost one than the list has classes.
import CompanySearch.Proofs.Arrangement
import Mathlib.Data.Finset.Card
import Mathlib.Data.List.Chain

namespace CompanySearch

namespace Sorting

variable {α : Type u} {κ : Type v} (order : κ → κ → Ordering) (key : α → κ)

/-! ## Calls in calls -/

/-- What a call on two items or more calls in turn: the parts with the keys less and with the keys
greater than that of the middle item. -/
inductive CallsOn : List α → List α → Prop
  | less {items : List α} {pivot : α} (several : 2 ≤ items.length)
      (middle : items[items.length / 2]? = some pivot) :
      CallsOn items (part order key (key pivot) .lt items)
  | greater {items : List α} {pivot : α} (several : 2 ≤ items.length)
      (middle : items[items.length / 2]? = some pivot) :
      CallsOn items (part order key (key pivot) .gt items)

/-- Calls of which the first stands in the call on the items, and every other in the one before. -/
def Nested (items : List α) (calls : List (List α)) : Prop :=
  List.IsChain (CallsOn order key) (items :: calls)

theorem middle_lt_length {items : List α} (h : ¬ items.length ≤ 1) :
    items.length / 2 < items.length := by omega

/-- Sorting by partition with an allowance of calls that may stand in each other, the outermost one
counted. Nothing comes out if the allowance is used up. -/
def quickSortWithin : Nat → List α → Option (List α)
  | 0, _ => none
  | allowance + 1, items =>
    if h : items.length ≤ 1 then some items
    else do
      let pivot := items.get ⟨items.length / 2, middle_lt_length h⟩
      let less ← quickSortWithin allowance (part order key (key pivot) .lt items)
      let greater ← quickSortWithin allowance (part order key (key pivot) .gt items)
      return less ++ part order key (key pivot) .eq items ++ greater

section calls

variable {order key} {items inner : List α} {pivot : α}

theorem exists_middle (several : 2 ≤ items.length) :
    ∃ pivot, items[items.length / 2]? = some pivot :=
  ⟨_, List.getElem?_eq_getElem (middle_lt_length (Nat.not_le_of_lt several))⟩

theorem callsOn_iff (several : 2 ≤ items.length)
    (middle : items[items.length / 2]? = some pivot) :
    CallsOn order key items inner ↔
      inner = part order key (key pivot) .lt items ∨
        inner = part order key (key pivot) .gt items := by
  constructor
  · intro h
    cases h with
    | less _ middle' =>
      cases middle.symm.trans middle'
      exact Or.inl rfl
    | greater _ middle' =>
      cases middle.symm.trans middle'
      exact Or.inr rfl
  · rintro (rfl | rfl)
    · exact .less several middle
    · exact .greater several middle

theorem CallsOn.several (h : CallsOn order key items inner) : 2 ≤ items.length := by
  cases h with
  | less several _ => exact several
  | greater several _ => exact several

instance [DecidableEq α] (items inner : List α) : Decidable (CallsOn order key items inner) :=
  if several : 2 ≤ items.length then
    decidable_of_iff' _ (callsOn_iff several (List.getElem?_eq_getElem (by omega)))
  else .isFalse fun h => several h.several

instance [DecidableEq α] (items : List α) (calls : List (List α)) :
    Decidable (Nested order key items calls) :=
  inferInstanceAs (Decidable (List.IsChain _ _))

/-- A call in another has an outer part before it, whichever of the two. -/
theorem CallsOn.exists_part (h : CallsOn order key items inner)
    (middle : items[items.length / 2]? = some pivot) :
    ∃ o, o ≠ .eq ∧ inner = part order key (key pivot) o items := by
  rcases (callsOn_iff h.several middle).mp h with hless | hgreater
  · exact ⟨.lt, by decide, hless⟩
  · exact ⟨.gt, by decide, hgreater⟩

theorem nested_cons {calls : List (List α)} :
    Nested order key items (inner :: calls) ↔
      CallsOn order key items inner ∧ Nested order key inner calls :=
  List.isChain_cons_cons

theorem quickSort_of_several [Std.ReflCmp order] (several : 2 ≤ items.length)
    (middle : items[items.length / 2]? = some pivot) :
    quickSort order key items =
      quickSort order key (part order key (key pivot) .lt items) ++
        part order key (key pivot) .eq items ++
        quickSort order key (part order key (key pivot) .gt items) := by
  obtain ⟨_, rfl⟩ := List.getElem?_eq_some_iff.mp middle
  rw [quickSort, dif_neg (by omega)]
  rfl

theorem quickSortWithin_eq_some_iff (several : 2 ≤ items.length)
    (middle : items[items.length / 2]? = some pivot) {allowance : Nat} {sorted : List α} :
    quickSortWithin order key (allowance + 1) items = some sorted ↔
      ∃ less greater,
        quickSortWithin order key allowance (part order key (key pivot) .lt items) = some less ∧
        quickSortWithin order key allowance (part order key (key pivot) .gt items) =
          some greater ∧
        less ++ part order key (key pivot) .eq items ++ greater = sorted := by
  obtain ⟨_, rfl⟩ := List.getElem?_eq_some_iff.mp middle
  rw [quickSortWithin, dif_neg (by omega)]
  simp [Option.bind_eq_some_iff]

/-! ## What an allowance does -/

/-- What comes out within an allowance is the sorted list. -/
theorem quickSortWithin_eq [Std.ReflCmp order] {allowance : Nat} {sorted : List α}
    (h : quickSortWithin order key allowance items = some sorted) :
    sorted = quickSort order key items := by
  induction allowance generalizing items sorted with
  | zero => simp [quickSortWithin] at h
  | succ allowance ih =>
    by_cases hshort : items.length ≤ 1
    · rw [quickSortWithin, dif_pos hshort, Option.some_inj] at h
      rw [quickSort, dif_pos hshort, h]
    · have several : 2 ≤ items.length := by omega
      obtain ⟨pivot, middle⟩ := exists_middle several
      obtain ⟨less, greater, hless, hgreater, rfl⟩ :=
        (quickSortWithin_eq_some_iff several middle).mp h
      rw [quickSort_of_several several middle, ih hless, ih hgreater]

/-- A call ends within an allowance exactly if both calls in it, where there are any, end within one
less. -/
theorem quickSortWithin_succ_isSome_iff (allowance : Nat) (items : List α) :
    (quickSortWithin order key (allowance + 1) items).isSome = true ↔
      ∀ inner, CallsOn order key items inner →
        (quickSortWithin order key allowance inner).isSome = true := by
  by_cases hshort : items.length ≤ 1
  · rw [quickSortWithin, dif_pos hshort]
    refine iff_of_true rfl ?_
    intro inner hcall
    have several := hcall.several
    omega
  · have several : 2 ≤ items.length := by omega
    obtain ⟨pivot, middle⟩ := exists_middle several
    constructor
    · intro h inner hcall
      obtain ⟨sorted, h⟩ := Option.isSome_iff_exists.mp h
      obtain ⟨less, greater, hless, hgreater, -⟩ :=
        (quickSortWithin_eq_some_iff several middle).mp h
      rcases (callsOn_iff several middle).mp hcall with rfl | rfl
      · exact Option.isSome_of_eq_some hless
      · exact Option.isSome_of_eq_some hgreater
    · intro h
      obtain ⟨less, hless⟩ := Option.isSome_iff_exists.mp (h _ (.less several middle))
      obtain ⟨greater, hgreater⟩ := Option.isSome_iff_exists.mp (h _ (.greater several middle))
      have hsorted :=
        (quickSortWithin_eq_some_iff several middle).mpr ⟨less, greater, hless, hgreater, rfl⟩
      exact Option.isSome_of_eq_some hsorted

/-- An allowance is enough exactly if it is more than the calls that can stand in each other below
the outermost one. -/
theorem quickSortWithin_isSome_iff (allowance : Nat) (items : List α) :
    (quickSortWithin order key allowance items).isSome = true ↔
      ∀ calls, Nested order key items calls → calls.length < allowance := by
  -- one step down uses up one of the allowance and the first of the nested calls
  induction allowance generalizing items with
  | zero =>
    refine iff_of_false (by simp [quickSortWithin]) ?_
    intro h
    exact absurd (h [] (List.isChain_singleton items)) (Nat.not_lt_zero 0)
  | succ allowance ih =>
    rw [quickSortWithin_succ_isSome_iff]
    constructor
    · intro h calls hcalls
      cases calls with
      | nil => exact Nat.zero_lt_succ allowance
      | cons inner calls =>
        obtain ⟨hcall, hcalls⟩ := nested_cons.mp hcalls
        exact Nat.succ_lt_succ ((ih inner).mp (h inner hcall) calls hcalls)
    · intro h inner hcall
      rw [ih]
      intro calls hcalls
      exact Nat.lt_of_succ_lt_succ (h (inner :: calls) (nested_cons.mpr ⟨hcall, hcalls⟩))

/-! ## Calls on less and less -/

theorem CallsOn.length_lt [Std.ReflCmp order] (h : CallsOn order key items inner) :
    inner.length < items.length := by
  obtain ⟨pivot, middle⟩ := exists_middle h.several
  obtain ⟨o, ho, rfl⟩ := h.exists_part middle
  exact an_outer_part_is_shorter order key (List.mem_of_getElem? middle) ho

variable (order key) in
theorem callsOn_wellFounded [Std.ReflCmp order] :
    WellFounded fun inner outer => CallsOn order key outer inner :=
  Subrelation.wf CallsOn.length_lt (measure List.length).wf

end calls

/-! ## Classes of equal keys -/

variable [Std.TransCmp order]

/-- Keys are of one class if they compare as equal. -/
def sameKey : Setoid κ where
  r k l := order k l = .eq
  iseqv := ⟨fun _ => Std.ReflCmp.compare_self, Std.OrientedCmp.eq_symm, Std.TransCmp.eq_trans⟩

instance sameKey_decidable (k l : κ) :
    Decidable (@HasEquiv.Equiv κ (@instHasEquivOfSetoid κ (sameKey order)) k l) :=
  inferInstanceAs (Decidable (order k l = .eq))

/-- The class that a key is of. -/
def classOf (k : κ) : Quotient (sameKey order) := Quotient.mk (sameKey order) k

/-- The classes that the keys of the items are of, each once. -/
def classes (items : List α) : Finset (Quotient (sameKey order)) :=
  (items.map fun a => classOf order (key a)).toFinset

section classes

variable {order key} {items inner : List α} {pivot : α}

theorem classOf_eq_iff {k l : κ} : classOf order k = classOf order l ↔ order k l = .eq :=
  Quotient.eq

theorem mem_classes {c : Quotient (sameKey order)} :
    c ∈ classes order key items ↔ ∃ a ∈ items, classOf order (key a) = c := by
  unfold classes
  rw [List.mem_toFinset, List.mem_map]

theorem classes_subset (h : inner ⊆ items) :
    classes order key inner ⊆ classes order key items := by
  intro c hc
  rw [mem_classes] at hc ⊢
  obtain ⟨a, ha, hac⟩ := hc
  exact ⟨a, h ha, hac⟩

/-- The class of the middle item lies in the equal part, so the calls in a call lack it. -/
theorem CallsOn.lacks_class (h : CallsOn order key items inner)
    (middle : items[items.length / 2]? = some pivot) :
    classOf order (key pivot) ∉ classes order key inner := by
  obtain ⟨o, ho, rfl⟩ := h.exists_part middle
  intro hmem
  obtain ⟨a, ha, hclass⟩ := mem_classes.mp hmem
  rw [mem_part, classOf_eq_iff.mp hclass] at ha
  exact ho ha.2.symm

theorem CallsOn.classes_lt (h : CallsOn order key items inner) :
    (classes order key inner).card < (classes order key items).card := by
  obtain ⟨pivot, middle⟩ := exists_middle h.several
  have hsubset : inner ⊆ items := by
    obtain ⟨o, -, rfl⟩ := h.exists_part middle
    intro a ha
    exact ((mem_part order key).mp ha).1
  have hmem : classOf order (key pivot) ∈ classes order key items :=
    mem_classes.mpr ⟨pivot, List.mem_of_getElem? middle, rfl⟩
  -- the inner list has no class of its own, and the pivot's class it has lost
  apply Finset.card_lt_card
  rw [Finset.ssubset_iff_of_subset (classes_subset hsubset)]
  exact ⟨_, hmem, h.lacks_class middle⟩

/-- No more calls than there are classes stand in each other below the outermost one. -/
theorem Nested.length_le {calls : List (List α)} (h : Nested order key items calls) :
    calls.length ≤ (classes order key items).card := by
  induction calls generalizing items with
  | nil => exact Nat.zero_le _
  | cons inner calls ih =>
    obtain ⟨hcall, hcalls⟩ := nested_cons.mp h
    calc calls.length + 1
      _ ≤ (classes order key inner).card + 1 := Nat.succ_le_succ (ih hcalls)
      _ ≤ (classes order key items).card := hcall.classes_lt

theorem quickSortWithin_of_classes_lt {allowance : Nat}
    (h : (classes order key items).card < allowance) :
    quickSortWithin order key allowance items = some (quickSort order key items) := by
  have hend : (quickSortWithin order key allowance items).isSome = true := by
    rw [quickSortWithin_isSome_iff]
    intro calls hcalls
    exact Nat.lt_of_le_of_lt hcalls.length_le h
  obtain ⟨sorted, hsorted⟩ := Option.isSome_iff_exists.mp hend
  rw [hsorted, quickSortWithin_eq hsorted]

end classes

/-! ## The law -/

/-- What one call makes of its items: the key of the middle one parts them in three, all items of
its class are set aside with it, and the lists of the two calls in the call have none of that
class. -/
structure SetsClassAside (items : List α) (pivot : α) (less equal greater : List α) : Prop where
  middle : items[items.length / 2]? = some pivot
  less_part : less = items.filter fun a => order (key a) (key pivot) == .lt
  equal_part : equal = items.filter fun a => order (key a) (key pivot) == .eq
  greater_part : greater = items.filter fun a => order (key a) (key pivot) == .gt
  calls : ∀ inner, CallsOn order key items inner ↔ inner = less ∨ inner = greater
  result : quickSort order key items =
    quickSort order key less ++ equal ++ quickSort order key greater
  pivot_aside : pivot ∈ equal
  less_lacks : classOf order (key pivot) ∉ classes order key less
  greater_lacks : classOf order (key pivot) ∉ classes order key greater

theorem exists_setsClassAside {items : List α} (several : 2 ≤ items.length) :
    ∃ pivot less equal greater, SetsClassAside order key items pivot less equal greater := by
  obtain ⟨pivot, middle⟩ := exists_middle several
  refine ⟨pivot, _, _, _, middle, rfl, rfl, rfl, fun _ => callsOn_iff several middle,
    quickSort_of_several several middle, ?_, ?_, ?_⟩
  · apply (mem_part order key).mpr
    exact ⟨List.mem_of_getElem? middle, order_self order key pivot⟩
  · exact CallsOn.lacks_class (.less several middle) middle
  · exact CallsOn.lacks_class (.greater several middle) middle

/-- Sorting records by partition comes to its end, and how deep its calls stand in each other is
bounded by the keys. A call on two records or more sets aside the whole class of the middle one, so
both calls in it have a list before them that is shorter and has fewer classes. An allowance of one
more than the number of classes is always enough for the sorted list. -/
theorem nesting_is_bounded_by_the_classes_of_keys (record : α → Record) (field : String)
    (direction : Direction) :
    let order := keyOrder direction
    let key := fun a => (record a).value? field
    (WellFounded fun inner outer => CallsOn order key outer inner) ∧
    ∀ items : List α,
      (2 ≤ items.length → ∃ pivot less equal greater,
        SetsClassAside order key items pivot less equal greater ∧
        less.length < items.length ∧ greater.length < items.length ∧
        (classes order key less).card < (classes order key items).card ∧
        (classes order key greater).card < (classes order key items).card) ∧
      (∀ calls, Nested order key items calls →
        calls.length ≤ (classes order key items).card) ∧
      (∀ allowance, (quickSortWithin order key allowance items).isSome = true ↔
        ∀ calls, Nested order key items calls → calls.length < allowance) ∧
      (∀ allowance, (classes order key items).card + 1 ≤ allowance →
        quickSortWithin order key allowance items = some (quickSort order key items)) ∧
      (quickSort order key items).Perm items ∧
      InOrder order key (quickSort order key items) := by
  intro order key
  refine ⟨callsOn_wellFounded order key, ?_⟩
  intro items
  have hsorted := quickSort_stable order key items
  refine ⟨?_, ?_, ?_, ?_, hsorted.perm, hsorted.in_order⟩
  · intro several
    obtain ⟨pivot, less, equal, greater, h⟩ := exists_setsClassAside order key several
    have hless : CallsOn order key items less := (h.calls less).mpr (Or.inl rfl)
    have hgreater : CallsOn order key items greater := (h.calls greater).mpr (Or.inr rfl)
    exact ⟨pivot, less, equal, greater, h, hless.length_lt, hgreater.length_lt, hless.classes_lt,
      hgreater.classes_lt⟩
  · intro calls hcalls
    exact hcalls.length_le
  · intro allowance
    exact quickSortWithin_isSome_iff allowance items
  · intro allowance henough
    exact quickSortWithin_of_classes_lt henough

/-- Numbers of one value are of one class, whatever their places. Here each pivot is in order the
first or the last of what is left, so the calls for three classes need the whole allowance of
four. -/
theorem three_classes_take_four_calls :
    let order := keyOrder .descending
    let key := fun r : Record => r.value? "revenue"
    let row : Scalar → Record := fun value => ⟨[("revenue", value)]⟩
    let two := row (.integer 2)
    let twoInTenths := row (.decimal ⟨20, 1, by decide, by decide⟩)
    let unknown := row (.text "unknown")
    let rows := [two, unknown, row .null, twoInTenths]
    let calls := [[two, unknown, twoInTenths], [two, twoInTenths], []]
    (classes order key rows).card = 3 ∧
    (2 ≤ rows.length ∧ ∃ pivot less equal greater,
      SetsClassAside order key rows pivot less equal greater ∧ less.length < 4 ∧
      greater.length < 4) ∧
    (Nested order key rows calls ∧ calls.length ≤ 3) ∧
    (quickSortWithin order key 3 rows).isSome = false ∧
    quickSortWithin order key 4 rows = some (quickSort order key rows) := by
  intro order key row two twoInTenths unknown rows calls
  obtain ⟨-, h⟩ := nesting_is_bounded_by_the_classes_of_keys id "revenue" .descending
  obtain ⟨hcall, hnested, hallowance, henough, -⟩ := h rows
  have several : 2 ≤ rows.length := by decide
  have hcalls : Nested order key rows calls := by decide
  have hthree : (classes order key rows).card = 3 := by decide
  refine ⟨hthree, ⟨several, ?_⟩, ⟨hcalls, ?_⟩, ?_, ?_⟩
  · obtain ⟨pivot, less, equal, greater, haside, hless, hgreater, -⟩ := hcall several
    exact ⟨pivot, less, equal, greater, haside, hless, hgreater⟩
  · exact hthree ▸ hnested calls hcalls
  · rw [Bool.eq_false_iff]
    intro hend
    exact Nat.lt_irrefl 3 ((hallowance 3).mp hend calls hcalls)
  · exact henough 4 (Nat.succ_le_succ hthree.le)

end Sorting

end CompanySearch
