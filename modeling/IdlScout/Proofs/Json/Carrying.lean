import IdlScout.Proofs.Json.Recognition

/-! Texts in a record: where a text can stand under the name of a field, and that the reader finds
it there whatever else the record has. -/

namespace IdlScout
namespace Json

/-- A record has a text in one of its fields: as a member of that name, wherever it stands in an
object and however its name is spelled, or at the place of that field in a list. -/
def Value.Carries (fields : List Field) (name text : Text) : Value → Prop
  | .object members => ∃ key units, (key, .string units) ∈ members ∧ Write key name ∧
      Write units text
  | .list items => ∃ (index : Nat) (units : List StringUnit),
      (fields.map Field.name)[index]? = some name ∧ items[index]? = some (.string units) ∧
        Write units text
  | _ => False

/-- A string is a content only as its text. -/
theorem content?_string {kind : Kind} {units : List StringUnit} {text : Text} {content : Content}
    (writes : Write units text) (is : Value.content? kind (.string units) = some content) :
    content = .text text := by
  cases kind with
  | text => simpa [Value.content?, Value.text?, writes.unitsText, Except.toOption, eq_comm] using is
  | texts | flag => cases is

/-- What has been found stays as it is when a member is added. -/
theorem lookup_of_addMember? {fields : List Field} {found next : Contents}
    {member : List StringUnit × Value} (added : addMember? fields found member = some next)
    {name : Text} {content : Content} (is : found.lookup name = some content) :
    next.lookup name = some content := by
  -- A member of an unknown name adds nothing; a known one adds its content at the end.
  obtain ⟨other, -, added⟩ := Option.bind_eq_some_iff.mp added
  split at added
  · cases added
    exact is
  · split at added
    · cases added
    · obtain ⟨more, -, rfl⟩ := Option.map_eq_some_iff.mp added
      rw [List.lookup_append, is]
      rfl

/-- What has been found stays as it is when members are added. -/
theorem lookup_of_foldlM {fields : List Field} {members : List (List StringUnit × Value)}
    {found contents : Contents} (added : members.foldlM (addMember? fields) found = some contents)
    {name : Text} {content : Content} (is : found.lookup name = some content) :
    contents.lookup name = some content := by
  induction members generalizing found with
  | nil =>
    cases added
    exact is
  | cons member rest ih =>
    rw [List.foldlM_cons] at added
    -- Each member keeps what the earlier ones have found.
    obtain ⟨next, first, others⟩ := Option.bind_eq_some_iff.mp added
    exact ih others (lookup_of_addMember? first is)

/-- A text under the name of a field is found when its member is added. -/
theorem lookup_of_addMember?_string {fields : List Field} {found next : Contents}
    {key units : List StringUnit} {name text : Text} (known : name ∈ fields.map Field.name)
    (writesName : Write key name) (writesText : Write units text)
    (added : addMember? fields found (key, .string units) = some next) :
    next.lookup name = some (.text text) := by
  obtain ⟨field, member, rfl⟩ := List.mem_map.mp known
  obtain ⟨other, written, added⟩ := Option.bind_eq_some_iff.mp added
  obtain rfl : field.name = other := by
    simpa [writesName.unitsText, Except.toOption] using written
  -- The field is known, it was not found before, and its content is the text.
  split at added
  · rename_i unknown
    exact absurd (List.find?_eq_none.mp unknown field member) (by simp)
  · rename_i first is
    obtain same : first.name = field.name := by simpa using List.find?_some is
    split at added
    · cases added
    · rename_i new
      obtain ⟨content, isContent, rfl⟩ := Option.map_eq_some_iff.mp added
      obtain rfl := content?_string writesText isContent
      -- Nothing else has been found under this name.
      have absent : found.lookup field.name = none := by
        refine List.lookup_eq_none_iff.mpr fun item listed => ?_
        have other : item.1 ≠ field.name := fun same =>
          new (List.any_eq_true.mpr ⟨item, listed, by simp [same]⟩)
        simpa using other.symm
      rw [List.lookup_append, absent, same, List.lookup_cons_self]
      rfl

/-- A text under the name of a field is found in an object. -/
theorem lookup_of_members {fields : List Field} {members : List (List StringUnit × Value)}
    {found contents : Contents} {key units : List StringUnit} {name text : Text}
    (known : name ∈ fields.map Field.name) (listed : (key, .string units) ∈ members)
    (writesName : Write key name) (writesText : Write units text)
    (added : members.foldlM (addMember? fields) found = some contents) :
    contents.lookup name = some (.text text) := by
  induction members generalizing found with
  | nil => cases listed
  | cons member rest ih =>
    rw [List.foldlM_cons] at added
    obtain ⟨next, first, others⟩ := Option.bind_eq_some_iff.mp added
    -- What this member adds is kept, or a later one adds the text.
    rcases List.mem_cons.mp listed with rfl | later
    · exact lookup_of_foldlM others (lookup_of_addMember?_string known writesName writesText first)
    · exact ih later others

/-- A text at the place of a field is found in a list. -/
theorem lookup_of_items {fields : List Field} (distinct : (fields.map Field.name).Nodup)
    {items : List Value} {contents : Contents} {index : Nat} {units : List StringUnit}
    {name text : Text} (named : (fields.map Field.name)[index]? = some name)
    (placed : items[index]? = some (.string units)) (writesText : Write units text)
    (is : sequence? fields items = some contents) : contents.lookup name = some (.text text) := by
  -- Fields and items are gone through together, up to the place.
  induction fields generalizing items contents index with
  | nil => cases named
  | cons field rest ih =>
    cases items with
    | nil => cases placed
    | cons item others =>
      obtain ⟨content, first, is⟩ := Option.bind_eq_some_iff.mp is
      obtain ⟨more, behind, same⟩ := Option.bind_eq_some_iff.mp is
      obtain rfl := Option.some.inj same
      rw [List.map_cons, List.nodup_cons] at distinct
      cases index with
      | zero =>
        -- The first item has the first field's name.
        obtain rfl : field.name = name := by simpa using named
        obtain rfl : item = .string units := by simpa using placed
        obtain rfl := content?_string writesText first
        exact List.lookup_cons_self
      | succ index =>
        rw [List.map_cons, List.getElem?_cons_succ] at named
        -- The name is that of a later field, and so not of this one.
        have other : name ≠ field.name := by
          rintro rfl
          exact distinct.1 (List.mem_of_getElem? named)
        have apart : (name == field.name) = false := by simpa using other
        rw [List.lookup_cons, apart]
        exact ih distinct.2 named placed behind

/-- A text that a record carries in one of its fields is read as the content of that field. -/
theorem Value.Carries.text {fields : List Field} (distinct : (fields.map Field.name).Nodup)
    {name text : Text} (known : name ∈ fields.map Field.name) {value : Value}
    (carries : value.Carries fields name text) {contents : Contents}
    (is : value.contents? fields = some contents) : contents.text name = text := by
  have found : contents.lookup name = some (.text text) := by
    -- Only an object or a list carries fields.
    cases value with
    | word | number | string => cases carries
    | object members =>
      obtain ⟨key, units, listed, writesName, writesText⟩ := carries
      obtain ⟨found, added, complete⟩ := Option.bind_eq_some_iff.mp is
      obtain rfl : found = contents := by
        unfold complete? at complete
        split at complete
        · exact Option.some.inj complete
        · cases complete
      exact lookup_of_members known listed writesName writesText added
    | list items =>
      obtain ⟨index, units, named, placed, writesText⟩ := carries
      rw [Value.contents?] at is
      split at is
      · cases is
      · exact lookup_of_items distinct named placed writesText is
  rw [Contents.text, found]

end Json
end IdlScout
