import SchemaScope.Json.Record

/-!
What has been read, if a record has been read from JSON: every field was there
and was good.
-/

namespace SchemaScope.Json

variable {α β : Type}

theorem toText_eq_ok_iff {j : Json} {text : String} :
    toText j = .ok text ↔ j = .string text := by
  cases j <;> simp [toText]

theorem toList_eq_ok_iff {decode : Json → Decoded α} {j : Json}
    {results : List α} :
    toList decode j = .ok results ↔
      ∃ items, j = .array items ∧ items.mapM decode = .ok results := by
  cases j <;> simp [toList]

theorem Taken.map_eq_value_iff {f : α → β} {taken : Taken α} {b : β} :
    f <$> taken = .value b ↔ ∃ a, taken = .value a ∧ f a = b := by
  change taken.map f = _ ↔ _
  cases taken <;> simp [Taken.map]

theorem Taken.seq_eq_value_iff {function : Taken (α → β)} {taken : Taken α}
    {b : β} :
    function <*> taken = .value b ↔
      ∃ f a, function = .value f ∧ taken = .value a ∧ f a = b := by
  change function.apply taken = _ ↔ _
  cases function <;> cases taken <;> simp [Taken.apply, Taken.map]

namespace FieldSource

theorem take_eq_value_iff {source : FieldSource} {place : Nat} {name : String}
    {decode : Json → Decoded α} {a : α} :
    source.take place name decode = .value a ↔
      ∃ j, source.get? place name = some j ∧ decode j = .ok a := by
  rw [take]
  cases source.get? place name with
  | none => simp
  | some j =>
      cases hj : decode j <;> simp [takeFrom, hj]

end FieldSource

/-- A record is read from an object, or from an array that is not too long. -/
theorem toRecord_eq_ok_iff {record : String} {size : Nat}
    {take : FieldSource → Taken α} {j : Json} {a : α} :
    toRecord record size take j = .ok a ↔
      (∃ fields, j = .object fields ∧ take (.named fields) = .value a) ∨
        ∃ items, j = .array items ∧ items.length ≤ size ∧
          take (.listed items) = .value a := by
  cases j with
  | object fields =>
      cases htake : take (.named fields) <;>
        simp [toRecord, toRecordOf, ofFields, htake]
  | array items =>
      cases htake : take (.listed items) with
      | faults first more => simp [toRecord, toRecordOf, htake]
      | value b =>
          by_cases hlong : size < items.length
          · simp [toRecord, toRecordOf, htake, hlong, Nat.not_le_of_lt hlong]
          · simp [toRecord, toRecordOf, htake, hlong, Nat.le_of_not_lt hlong]
  | _ => simp [toRecord, toRecordOf]

end SchemaScope.Json
