import IdlScout.Detection.Type
import IdlScout.Proofs.Json.Reload

/-! A saved type is detected again from its record, whatever its name and its text are. -/

namespace IdlScout
namespace DetectedType

variable {fullName idl : Text} {type : DetectedType}

/-- A detected type keeps the name and the text it was detected from. -/
theorem detect_keeps (detected : detect fullName idl = .ok type) :
    type.fullName = fullName ∧ type.idl = idl := by
  unfold detect at detected
  split at detected
  · -- What is not understood is kept too, without its parts.
    cases detected
    exact ⟨rfl, rfl⟩
  · split at detected
    · cases detected
      exact ⟨rfl, rfl⟩
    · cases detected

/-- The record of a type has contents that a saved type can have. -/
theorem record_fit (type : DetectedType) : type.record.Fit fields where
  known := by
    intro content member
    simp only [record, List.mem_cons, List.not_mem_nil, or_false] at member
    rcases member with rfl | rfl | rfl | rfl | rfl | rfl | rfl <;> exact ⟨_, rfl, rfl⟩
  -- The seven fields are fixed, so this is a look at their names.
  distinct := by
    simp only [record, List.map_cons, List.map_nil]
    decide
  complete := by
    simp only [record, List.map_cons, List.map_nil]
    decide

/-- A record has the name and the text of its type. -/
theorem record_text (type : DetectedType) :
    type.record.text "fqname".toList = type.fullName ∧ type.record.text "idl".toList = type.idl :=
  ⟨rfl, rfl⟩

/-- A type that was detected is saved as a text that is read as its record, every field of it, and
from which the same type is detected again. -/
theorem ofJson_toJson (detected : detect fullName idl = .ok type) :
    Json.readRecord fields type.toJson = .ok type.record ∧ ofJson type.toJson = .ok type := by
  have read : Json.readRecord fields type.toJson = .ok type.record :=
    Json.readRecord_printRecord _ type.record_fit
  obtain ⟨sameName, sameText⟩ := detect_keeps detected
  obtain ⟨name, text⟩ := type.record_text
  refine ⟨read, ?_⟩
  -- The name and the text in the record are those that the type was detected from.
  simp only [ofJson, read, name, text, sameName, sameText, detected]

/-- A text that is not understood, with quotes, backslashes, control characters and a character past
sixteen bits, and one that is. -/
theorem ofJson_toJson_of_quotes :
    let odd : Text := ['"', '\\', '\n', Char.ofNat 0, Char.ofNat 0x1B, Char.ofNat 0x2028, '😀']
    let unread : DetectedType := ⟨odd, odd, none⟩
    let written : Text := "@final struct A::B \x7b long x; \x7d;".toList
    let read : DetectedType := ⟨"A::B".toList, written,
      some ⟨["final".toList], ["A".toList], "B".toList, ["long x".toList]⟩⟩
    (detect odd odd = .ok unread ∧ ofJson unread.toJson = .ok unread) ∧
      detect "A::B".toList written = .ok read ∧ ofJson read.toJson = .ok read := by
  intro odd unread written read
  have first : detect odd odd = .ok unread := by decide +kernel
  have second : detect "A::B".toList written = .ok read := by decide +kernel
  exact ⟨⟨first, (ofJson_toJson first).2⟩, second, (ofJson_toJson second).2⟩

end DetectedType
end IdlScout
