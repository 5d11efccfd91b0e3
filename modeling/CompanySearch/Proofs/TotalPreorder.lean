-- What the order of sort keys comes to: numbers by their exact value, then texts by the codes of
-- their characters, then an explicit null, then a missing key. It is one total preorder, and the
-- descending order reads it backwards.
import CompanySearch.Proofs.KeyOrder
import CompanySearch.Proofs.Text.ByteOrder
import Mathlib.Data.String.Basic

namespace CompanySearch

open Number Text

/-! ## What a key counts for -/

/-- What a key is sorted by. -/
inductive SortKey where
  | number (value : ℚ)
  | text (chars : List Char)
  | null
  | missing

namespace SortKey

def of : Option Scalar → SortKey
  | some (.integer n) => .number n.toInt
  | some (.decimal d) => .number d.value
  | some (.text s) => .text s.toList
  | some .null => .null
  | none => .missing

/-- The kinds in the order in which they stand. -/
def kind : SortKey → Nat
  | number _ => 0
  | text _ => 1
  | null => 2
  | missing => 3

/-- One key stands before another: its number is less, its text comes first, or its kind does. -/
def Before : SortKey → SortKey → Prop
  | number x, number y => x < y
  | text s, text t => LessByCodes s t
  | a, b => a.kind < b.kind

end SortKey

/-! ## The ascending order -/

-- The order of strings is that of their lists of characters, and characters go by their codes.
theorem compare_texts_lt_iff (s t : String) :
    compare s t = .lt ↔ LessByCodes s.toList t.toList :=
  compare_lt_iff_lt

/-- Each kind is compared with itself in its own way, and with the others by its place. -/
theorem keyOrder_lt_iff (a b : Option Scalar) :
    keyOrder .ascending a b = .lt ↔ (SortKey.of a).Before (SortKey.of b) := by
  rcases a with _ | _ | _ | _ | _ <;> rcases b with _ | _ | _ | _ | _ <;>
    simp [keyOrder, Direction.orient, Scalar.order, Scalar.number?, Scalar.rank, SortKey.of,
      SortKey.Before, SortKey.kind, Decimal.order_lt_iff, Decimal.value_ofInt64,
      compare_texts_lt_iff, Nat.compare_eq_lt]

theorem keyOrder_eq_iff (a b : Option Scalar) :
    keyOrder .ascending a b = .eq ↔ SortKey.of a = SortKey.of b := by
  rcases a with _ | _ | _ | _ | _ <;> rcases b with _ | _ | _ | _ | _ <;>
    simp [keyOrder, Direction.orient, Scalar.order, Scalar.number?, Scalar.rank, SortKey.of,
      Decimal.order_eq_iff, Decimal.value_ofInt64, String.toList_inj]

/-! ## The law -/

/-- In either direction keys are in a total preorder. The ascending one has numbers by their exact
value, then texts by their characters, which is by their bytes as well, then an explicit null, then
a missing key, and the descending one reads it backwards. -/
theorem keys_are_in_one_total_preorder :
    (∀ (direction : Direction) (a b : Option Scalar),
      keyOrder direction a b = (keyOrder direction b a).swap) ∧
    (∀ (direction : Direction) (a b c : Option Scalar), (keyOrder direction a b).isLE = true →
      (keyOrder direction b c).isLE = true → (keyOrder direction a c).isLE = true) ∧
    (∀ a b : Option Scalar,
      (keyOrder .ascending a b = .lt ↔ (SortKey.of a).Before (SortKey.of b)) ∧
      (keyOrder .ascending a b = .eq ↔ SortKey.of a = SortKey.of b) ∧
      (keyOrder .ascending a b = .gt ↔ (SortKey.of b).Before (SortKey.of a))) ∧
    (∀ s t : String, keyOrder .ascending (some (.text s)) (some (.text t)) = .lt ↔
      Utf8.LessByBytes s.toList t.toList) ∧
    ∀ a b : Option Scalar, keyOrder .descending a b = (keyOrder .ascending a b).swap := by
  refine ⟨?_, ?_, ?_, ?_, keyOrder_descending⟩
  · intro direction a b
    exact Std.OrientedCmp.eq_swap
  · intro direction a b c hab hbc
    exact Std.TransCmp.isLE_trans hab hbc
  · intro a b
    refine ⟨keyOrder_lt_iff a b, keyOrder_eq_iff a b, ?_⟩
    rw [Std.OrientedCmp.gt_iff_lt]
    exact keyOrder_lt_iff b a
  · intro s t
    rw [keyOrder_lt_iff, Utf8.lessByBytes_iff]
    rfl

end CompanySearch
