-- The text of a row. A record is read back from it with all its fields in their order, and of two
-- records with one text the fields differ at most in that a decimal stands for the text of it.
import CompanySearch.Proofs.Json.ReadBack
import CompanySearch.Proofs.Record.Insertion

namespace CompanySearch

open Number

/-! ## Values -/

namespace Scalar

theorem readsBack_toJson (v : Scalar) : v.toJson.ReadsBack := by
  cases v with
  | null => exact Json.readsBack_null
  | integer n => exact Json.readsBack_ofInt n.toInt
  | decimal d => exact Json.readsBack_text d.text
  | text s => exact Json.readsBack_text s

/-- What a value of a record is in the data format: null, the same integer, a decimal as a string of
all its digits, and a text as it is. -/
inductive EncodedAs : Scalar → Json → Prop
  | null : EncodedAs .null .null
  | integer {n : Int64} {written : String} :
      (Json.number written).integer? = some n.toInt → EncodedAs (.integer n) (.number written)
  | decimal {d : Decimal} {written : String} : written = (Scalar.decimal d).display →
      Decimal.ofText? written = some d → EncodedAs (.decimal d) (.text written)
  | text (s : String) : EncodedAs (.text s) (.text s)

theorem integer?_ofInt (n : Int) : (Json.ofInt n).integer? = some n := by
  have hall : (Nat.toDigits 10 n.natAbs).all Char.isDigit = true :=
    List.all_eq_true.mpr isDigit_of_mem_digits
  unfold Json.ofInt Json.integer?
  simp only [splitSign_int, hall, if_true]
  rw [digitsValue, Nat.ofDigitChars_ten_toDigits, signed_natAbs]

theorem encodedAs_toJson (v : Scalar) : v.EncodedAs v.toJson := by
  cases v with
  | null => exact .null
  | integer n => exact .integer (integer?_ofInt n.toInt)
  | decimal d => exact .decimal rfl d.ofText?_text
  | text s => exact .text s

/-- The same value, or a decimal and the text of its digits. -/
inductive Alike : Scalar → Scalar → Prop
  | same (v : Scalar) : Alike v v
  | decimal_text (d : Decimal) : Alike (.decimal d) (.text d.text)
  | text_decimal (d : Decimal) : Alike (.text d.text) (.decimal d)

theorem toJson_eq_iff {v w : Scalar} : v.toJson = w.toJson ↔ v.Alike w := by
  constructor
  · intro h
    cases v <;> cases w <;> simp only [toJson, reduceCtorEq, Json.ofInt, Json.text.injEq] at h
    case null.null => exact .same _
    case integer.integer n m =>
      have hint : (Json.ofInt n.toInt).integer? = (Json.ofInt m.toInt).integer? :=
        congrArg Json.integer? h
      rw [integer?_ofInt, integer?_ofInt, Option.some_inj, Int64.toInt_inj] at hint
      rw [hint]
      exact .same _
    case decimal.decimal d e =>
      have hdecimal := d.ofText?_text
      rw [h, e.ofText?_text, Option.some_inj] at hdecimal
      rw [hdecimal]
      exact .same _
    case decimal.text d s => exact h ▸ .decimal_text d
    case text.decimal s d => exact h ▸ .text_decimal d
    case text.text s t => exact h ▸ .same _
  · rintro (_ | _ | _) <;> rfl

end Scalar

/-! ## Rows -/

namespace Record

theorem readsBack_toJson (r : Record) : r.toJson.ReadsBack := by
  apply Json.readsBack_object
  intro p hp
  obtain ⟨q, -, rfl⟩ := List.mem_map.mp hp
  exact q.2.readsBack_toJson

/-- Two fields with one name and values that have one text. -/
def AlikeFields (p q : String × Scalar) : Prop := p.1 = q.1 ∧ p.2.Alike q.2

theorem toJson_eq_iff {r s : Record} :
    r.toJson = s.toJson ↔ List.Forall₂ AlikeFields r.fields s.fields := by
  have hfield (p q : String × Scalar) :
      (p.1, p.2.toJson) = (q.1, q.2.toJson) ↔ AlikeFields p q := by
    rw [Prod.mk.injEq, Scalar.toJson_eq_iff, AlikeFields]
  unfold toJson
  rw [Json.object.injEq, ← List.forall₂_eq_eq_eq, List.forall₂_map_left_iff,
    List.forall₂_map_right_iff]
  simp only [hfield]

theorem rowText_eq_iff {r s : Record} :
    r.rowText = s.rowText ↔ List.Forall₂ AlikeFields r.fields s.fields := by
  rw [← toJson_eq_iff]
  exact ⟨r.readsBack_toJson.write_inj s.readsBack_toJson, congrArg Json.write⟩

/-! ## The law -/

/-- The text of a record that insertions have made is read as one object: its members have the names
of the fields in their order, none of them twice, and each the value of its field. Two such records
have one text exactly if they have the same names in the same order and equal values, but that a
decimal has the text of its digits. -/
theorem row_text_loses_nothing_but_what_is_a_decimal :
    (∀ inserted, ∃ members, Json.read (ofPairs inserted).rowText = some (.object members) ∧
      (members.map Prod.fst).Nodup ∧
      List.Forall₂ (fun p m => m.1 = p.1 ∧ p.2.EncodedAs m.2) (ofPairs inserted).fields members) ∧
    (∀ inserted inserted', (ofPairs inserted).rowText = (ofPairs inserted').rowText ↔
      List.Forall₂ AlikeFields (ofPairs inserted).fields (ofPairs inserted').fields) := by
  refine ⟨fun inserted => ?_, fun _ _ => rowText_eq_iff⟩
  refine ⟨_, (ofPairs inserted).readsBack_toJson.read, ?_, ?_⟩
  · rw [List.map_map]
    exact (ofPairs_keeps inserted).distinct
  · rw [List.forall₂_map_right_iff, List.forall₂_same]
    exact fun p _ => ⟨rfl, p.2.encodedAs_toJson⟩

end Record

end CompanySearch
