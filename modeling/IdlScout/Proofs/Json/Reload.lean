import IdlScout.Proofs.Json.Printing
import IdlScout.Proofs.Json.Recognition

/-! A printed record is read back with the contents that it was printed from, if these are contents
that its fields can have. -/

namespace IdlScout
namespace Json

/-- The shape of a content. -/
def Content.kind : Content → Kind
  | .text _ => .text
  | .texts _ => .texts
  | .flag _ => .flag

/-- Contents that a record with these fields can have: each belongs to a field and has its shape, no
field comes twice, and none that is required is missing. -/
structure Contents.Fit (fields : List Field) (contents : Contents) : Prop where
  known : ∀ content ∈ contents, ∃ field, fields.find? (·.name == content.1) = some field ∧
    field.kind = content.2.kind
  distinct : (contents.map Prod.fst).Nodup
  complete : ∀ field ∈ fields, field.required = true → field.name ∈ contents.map Prod.fst

/-- A content is what its value is for a field of its shape. -/
theorem content?_value (content : Content) :
    Value.content? content.kind content.value = some content := by
  have written (text : Text) : (Value.ofText text).text? = some text := by
    simp [Value.ofText, Value.text?, unitsText_chars, Except.toOption]
  cases content with
  | text value => simp [Content.kind, Content.value, Value.content?, written]
  | flag value => cases value <;> rfl
  | texts values =>
    have each : (values.map Value.ofText).mapM Value.text? = some values := by
      induction values with
      | nil => rfl
      | cons value rest ih => simp [List.mapM_cons, written, ih]
    simp [Content.kind, Content.value, Value.content?, each]

/-- A field that has not been found yet is found with its content. -/
theorem addMember?_of_fit {fields : List Field} {found : Contents} {content : Text × Content}
    {field : Field} (known : fields.find? (·.name == content.1) = some field)
    (shape : field.kind = content.2.kind) (new : content.1 ∉ found.map Prod.fst) :
    addMember? fields found (content.1.map .char, content.2.value) = some (found ++ [content]) := by
  have same : field.name = content.1 := by simpa using List.find?_some known
  -- A field that was found already would be a fault.
  have absent : found.any (·.1 == content.1) = false := by
    rw [List.any_eq_false]
    intro item listed same
    exact new (List.mem_map.mpr ⟨item, listed, by simpa using same⟩)
  simp [addMember?, unitsText_chars, Except.toOption, known, absent, shape, content?_value, same]

/-- Contents that fit are all found, one after the other. -/
theorem foldlM_addMember? {fields : List Field} (found : Contents) {rest : Contents}
    (fit : (found ++ rest).Fit fields) :
    (rest.map fun content => (content.1.map StringUnit.char, content.2.value)).foldlM
      (addMember? fields) found = some (found ++ rest) := by
  induction rest generalizing found with
  | nil => simp
  | cons content rest ih =>
    obtain ⟨field, known, shape⟩ := fit.known content (by simp)
    -- No field comes twice, so none of those found is this one.
    have new : content.1 ∉ found.map Prod.fst := by
      have distinct := fit.distinct
      rw [List.map_append, List.map_cons, List.nodup_append] at distinct
      exact fun listed => distinct.2.2 _ listed _ List.mem_cons_self rfl
    rw [List.map_cons, List.foldlM_cons, addMember?_of_fit known shape new]
    -- What has been found grows by the field that was read.
    rw [List.append_cons found content rest] at fit ⊢
    exact ih _ fit

/-- Contents that fit lack no required field. -/
theorem complete?_of_fit {fields : List Field} {contents : Contents} (fit : contents.Fit fields) :
    complete? fields contents = some contents := by
  rw [complete?, if_pos]
  rw [List.all_eq_true]
  intro field listed
  cases required : field.required with
  | false => rfl
  | true =>
    obtain ⟨content, member, same⟩ := List.mem_map.mp (fit.complete field listed required)
    exact List.any_eq_true.mpr ⟨content, member, by simp [same]⟩

/-- However a record is spaced, it is read back with the contents that it was printed from. -/
theorem readRecord_printRecord {fields : List Field} (spacing : Spacing) {contents : Contents}
    (fit : contents.Fit fields) :
    readRecord fields (printRecord spacing contents) = .ok contents := by
  have is : contents.value.contents? fields = some contents := by
    rw [Contents.value, Value.contents?, foldlM_addMember? [] fit, List.nil_append,
      Option.bind_some, complete?_of_fit fit]
  exact readRecord_of_contents (holds_printRecord spacing contents) is

end Json
end IdlScout
