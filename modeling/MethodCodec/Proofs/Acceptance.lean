import Mathlib
import MethodCodec.Proofs.Codec
import MethodCodec.Proofs.Lists

/-!
# Values that are written

Which values the arguments of a method can have, and what the others are
refused for: their number before the types, the types before the lengths, and
of the arguments of a wrong type, and of those that are too long, the first.
-/

namespace MethodCodec

/-! ## Lengths of bodies -/

namespace Value

/-- The length of the body of a value, in bytes; text counts in UTF-8. Values
without a length in front of them have no body. -/
def bodyLength : Value → Nat
  | shortString text | longString text => text.utf8ByteSize
  | table body => body.length
  | _ => 0

/-- The greatest length that can stand in front of the body of a value. -/
def maxLength : Value → Nat
  | shortString _ => 255
  | longString _ | table _ => 2 ^ 32 - 1
  | _ => 0

theorem overlong?_eq (value : Value) :
    Encoding.overlong? value =
      if value.bodyLength ≤ value.maxLength then none
      else some value.bodyLength := by
  have size (text : String) :
      text.toUTF8.data.toList.length = text.utf8ByteSize := rfl
  cases value with
  | shortString text | longString text =>
      exact if_congr (by rw [size, bodyLength, maxLength]; omega) rfl
        (by rw [size]; rfl)
  | table body => exact if_congr (by rw [bodyLength, maxLength]; omega) rfl rfl
  | _ => rfl

end Value

/-! ## Acceptance and refusal -/

/-- Values that the arguments can have: one for each, of its type, and with a
body that its length can say. -/
structure Accepted (fields : List Field) (values : List Value) : Prop where
  counted : values.length = fields.length
  typed : ∀ pair ∈ fields.zip values, pair.2.type = pair.1.type
  within : ∀ value ∈ values, value.bodyLength ≤ value.maxLength

/-- What values are refused for. Types are looked at only if the number is
right, lengths only if all types are. -/
inductive Refused (fields : List Field) (values : List Value) :
    CodecFault → Prop
  | arity (miscounted : values.length ≠ fields.length) :
      Refused fields values (.arity fields.length values.length)
  | typeMismatch {field : Field} {value : Value}
      (counted : values.length = fields.length)
      (first : Preceded (fun pair => pair.2.type = pair.1.type)
        (fields.zip values) (field, value))
      (differs : value.type ≠ field.type) :
      Refused fields values (.typeMismatch field.name.written field.type)
  | tooLong {field : Field} {value : Value}
      (counted : values.length = fields.length)
      (typed : ∀ pair ∈ fields.zip values, pair.2.type = pair.1.type)
      (first : Preceded (fun pair => pair.2.bodyLength ≤ pair.2.maxLength)
        (fields.zip values) (field, value))
      (exceeds : value.maxLength < value.bodyLength) :
      Refused fields values (.tooLong field.name.written value.bodyLength)

section

variable {fields : List Field} {values : List Value}

theorem forall_zip_iff_forall_values
    (counted : values.length = fields.length) {P : Value → Prop} :
    (∀ pair ∈ fields.zip values, P pair.2) ↔ ∀ value ∈ values, P value := by
  rw [← List.forall_mem_map (f := Prod.snd), List.map_snd_zip counted.le]

theorem accepted_or_refused (fields : List Field) (values : List Value) :
    Accepted fields values ∨ ∃ fault, Refused fields values fault := by
  by_cases counted : values.length = fields.length
  · by_cases typed :
      ∀ pair ∈ fields.zip values, pair.2.type = pair.1.type
    · by_cases within :
        ∀ pair ∈ fields.zip values, pair.2.bodyLength ≤ pair.2.maxLength
      · exact .inl
          ⟨counted, typed, (forall_zip_iff_forall_values counted).mp within⟩
      · obtain ⟨⟨field, value⟩, first, exceeds⟩ := exists_preceded within
        exact .inr ⟨_, .tooLong counted typed first (not_le.mp exceeds)⟩
    · obtain ⟨⟨field, value⟩, first, differs⟩ := exists_preceded typed
      exact .inr ⟨_, .typeMismatch counted first differs⟩
  · exact .inr ⟨_, .arity counted⟩

/-! ## The checks of the codec -/

theorem firstMismatch?_eq_find? (fields : List Field) (values : List Value) :
    Codec.firstMismatch? fields values =
      ((fields.zip values).find? fun pair =>
        !decide (pair.2.type = pair.1.type)).map Prod.fst := by
  induction fields generalizing values with
  | nil => rfl
  | cons field fields inductionHypothesis =>
      cases values with
      | nil => rfl
      | cons value values =>
          rw [Codec.firstMismatch?, List.zip_cons_cons, List.find?_cons]
          by_cases same : value.type = field.type
          · simp [same, inductionHypothesis]
          · simp [same]

theorem map_type_eq_iff (counted : values.length = fields.length) :
    values.map Value.type = fields.map Field.type ↔
      ∀ pair ∈ fields.zip values, pair.2.type = pair.1.type := by
  rw [← Codec.firstMismatch?_eq_none_iff counted, firstMismatch?_eq_find?,
    Option.map_eq_none_iff, List.find?_eq_none]
  simp

theorem firstMismatch?_of_preceded
    {field : Field} {value : Value}
    (first : Preceded (fun pair => pair.2.type = pair.1.type)
      (fields.zip values) (field, value))
    (differs : value.type ≠ field.type) :
    Codec.firstMismatch? fields values = some field := by
  obtain ⟨before, after, split, same⟩ := first
  have found :
      (fields.zip values).find? (fun pair =>
        !decide (pair.2.type = pair.1.type)) = some (field, value) := by
    rw [List.find?_eq_some_iff_append]
    exact ⟨by simpa using differs, before, after, split,
      fun pair member => by simpa using same pair member⟩
  rw [firstMismatch?_eq_find?, found]
  rfl

theorem firstOverlong?_of_preceded
    {field : Field} {value : Value}
    (first : Preceded (fun pair => pair.2.bodyLength ≤ pair.2.maxLength)
      (fields.zip values) (field, value))
    (exceeds : value.maxLength < value.bodyLength) :
    OnePass.firstOverlong? fields values =
      some (field.name.written, value.bodyLength) := by
  obtain ⟨before, after, split, within⟩ := first
  rw [OnePass.firstOverlong?, List.findSome?_eq_some_iff]
  refine ⟨before, (field, value), after, split, ?_, ?_⟩
  · dsimp only
    rw [Value.overlong?_eq, if_neg (not_le.mpr exceeds)]
    rfl
  · rintro ⟨earlier, other⟩ member
    dsimp only
    rw [Value.overlong?_eq, if_pos (within _ member)]
    rfl

end

/-! ## What writing decides -/

theorem Accepted.encode
    {method : Method} {values : List Value}
    (accepted : Accepted method.fields values) :
    ∃ bytes, method.encode values = .ok bytes := by
  refine ⟨_, Method.encode_eq_ok_iff.mpr ⟨?_, fun value member => ?_, rfl⟩⟩
  · exact (map_type_eq_iff accepted.counted).mpr accepted.typed
  · rw [Value.overlong?_eq, if_pos (accepted.within value member)]

theorem Refused.encode
    {method : Method} {values : List Value} {fault : CodecFault}
    (refused : Refused method.fields values fault) :
    method.encode values = .error fault := by
  cases refused with
  | arity miscounted => rw [Method.encode, if_pos miscounted]
  | typeMismatch counted first differs =>
      rw [Method.encode, if_neg (not_not.mpr counted),
        firstMismatch?_of_preceded first differs]
  | tooLong counted typed first exceeds =>
      rw [Method.encode_of_typed ((map_type_eq_iff counted).mpr typed),
        firstOverlong?_of_preceded first exceeds]

/-- Values are written if the arguments can have them, and otherwise refused
for the first reason there is. -/
theorem Method.encode_decides (method : Method) (values : List Value) :
    ((∃ bytes, method.encode values = .ok bytes) ↔
        Accepted method.fields values) ∧
      ∀ fault,
        method.encode values = .error fault ↔
          Refused method.fields values fault := by
  rcases accepted_or_refused method.fields values with accepted | refused
  · obtain ⟨bytes, encoded⟩ := accepted.encode
    refine ⟨iff_of_true ⟨bytes, encoded⟩ accepted, fun fault => ?_⟩
    refine iff_of_false (fun failed => ?_) fun refused => ?_
    · rw [encoded] at failed
      cases failed
    · rw [refused.encode] at encoded
      cases encoded
  · obtain ⟨fault, refused⟩ := refused
    have failed := refused.encode
    refine ⟨iff_of_false ?_ fun accepted => ?_, fun other => ?_⟩
    · rintro ⟨bytes, encoded⟩
      rw [encoded] at failed
      cases failed
    · obtain ⟨bytes, encoded⟩ := accepted.encode
      rw [encoded] at failed
      cases failed
    · refine ⟨fun same => ?_, Refused.encode⟩
      rw [failed] at same
      cases same
      exact refused

/-- Text is measured in bytes: 128 characters can be 256 bytes. -/
example :
    (Value.shortString (String.ofList (List.replicate 128 'é'))).bodyLength =
      256 := by
  decide +kernel

end MethodCodec
