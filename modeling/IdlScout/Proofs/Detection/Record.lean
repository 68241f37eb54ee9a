import IdlScout.Proofs.Detection.Reload
import IdlScout.Proofs.Json.Carrying

/-! What a saved type is detected from: the name and the interface text in its record, whatever the
record has besides and however it is written. -/

namespace IdlScout
namespace DetectedType

/-- JSON text that is accepted as the record of a type and has a name and an interface text in it,
wherever they stand and whatever stands beside them. -/
structure IsRecordOf (fullName idl text : Text) : Prop where
  accepted : ∃ contents, Json.readRecord fields text = .ok contents
  carries : ∃ value, Json.Holds text value ∧ value.Carries fields "fqname".toList fullName ∧
    value.Carries fields "idl".toList idl

/-- From a record the type is detected by the name and the interface text in it. -/
theorem IsRecordOf.ofJson {fullName idl text : Text} (is : IsRecordOf fullName idl text) :
    DetectedType.ofJson text = detect fullName idl := by
  obtain ⟨contents, read⟩ := is.accepted
  obtain ⟨value, held, carriesName, carriesText⟩ := is.carries
  -- The reader accepted the text, so the value that it spells has these contents.
  have found : value.contents? fields = some contents := by
    rw [← Json.toOption_readRecord fields held, read]
    rfl
  have distinct : (fields.map Json.Field.name).Nodup := by decide
  rw [DetectedType.ofJson, read]
  simp only [carriesName.text distinct (by decide) found,
    carriesText.text distinct (by decide) found]

/-- Contents that fit have a text under a field of that shape that is required, and their printed
record carries it there. -/
theorem carries_of_fit {contents : Json.Contents} (fit : contents.Fit fields) {name : Text}
    (known : ⟨name, .text, true⟩ ∈ fields)
    (first : fields.find? (·.name == name) = some ⟨name, .text, true⟩) :
    contents.value.Carries fields name (contents.text name) := by
  obtain ⟨⟨other, content⟩, listed, rfl⟩ := List.mem_map.mp (fit.complete _ known rfl)
  obtain ⟨field, found, shape⟩ := fit.known _ listed
  rw [first, Option.some.injEq] at found
  subst found
  -- The shape of the field asks for a text.
  cases content with
  | texts | flag => cases shape
  | text value =>
    -- No other content has this name.
    obtain ⟨before, after, split⟩ := List.append_of_mem listed
    have distinct := fit.distinct
    rw [split, List.map_append, List.map_cons, List.nodup_append] at distinct
    have apart : ∀ content ∈ before, (other != content.1) = true := fun content member => by
      have differs := distinct.2.2 content.1 (List.mem_map_of_mem member) other List.mem_cons_self
      simpa using differs.symm
    have same : contents.lookup other = some (.text value) :=
      List.lookup_eq_some_iff.mpr ⟨before, after, split, apart⟩
    rw [Json.Contents.text, same]
    exact ⟨_, _, List.mem_map.mpr ⟨_, listed, rfl⟩, Json.write_chars _, Json.write_chars _⟩

/-- Whatever fits the fields of a type is printed as a record of the name and the text in it. -/
theorem isRecordOf_printRecord (spacing : Json.Spacing) {contents : Json.Contents}
    (fit : contents.Fit fields) :
    IsRecordOf (contents.text "fqname".toList) (contents.text "idl".toList)
      (Json.printRecord spacing contents) where
  accepted := ⟨contents, Json.readRecord_printRecord spacing fit⟩
  carries := ⟨_, Json.holds_printRecord spacing contents,
    carries_of_fit fit (by simp [fields]) rfl, carries_of_fit fit (by simp [fields]) rfl⟩

/-- Two records with the same name and the same interface text lead to the same type or are refused
for the same reason, namely as these two by themselves. Their other fields may be there or not and
may contradict both, unknown fields may hold any values, and fields, blanks and escapes may stand in
any order and spelling. -/
theorem ofJson_depends_on_name_and_text {fullName idl first second : Text}
    (one : IsRecordOf fullName idl first) (other : IsRecordOf fullName idl second) :
    ofJson first = ofJson second ∧ ofJson first = detect fullName idl :=
  ⟨by rw [one.ofJson, other.ofJson], one.ofJson⟩

/-- A record of nothing but a name and a text that declares another, and one in another order, with
escapes and blanks, with fields that make the same contradiction look right, and with an unknown
field that has a name inside. Both are refused alike. -/
theorem ofJson_refuses_lying_record :
    let idl := "struct A \x7b long x; \x7d;".toList
    let least : Json.Contents :=
      [("fqname".toList, .text "B".toList), ("idl".toList, .text idl)]
    let first := Json.printRecord .compact least
    let second := " \x7b\"more\":[1.5E+3,null] , \"name\":\"A\",\"\\u0069dl\"\t:\"".toList ++ idl ++
      "\",\"parsed\":true,\"fqname\":\"\\u0042\"\x7d\n".toList
    (IsRecordOf "B".toList idl first ∧ IsRecordOf "B".toList idl second) ∧
      ofJson first = ofJson second ∧
      ofJson first = .error (.identity "B".toList "A".toList) := by
  intro idl least first second
  -- Both records are shown to be ones of that name and text; the theorem then speaks of both.
  have one : IsRecordOf "B".toList idl first := by
    have fit : least.Fit fields := {
      known := by
        intro content member
        simp only [least, List.mem_cons, List.not_mem_nil, or_false] at member
        rcases member with rfl | rfl <;> exact ⟨_, rfl, rfl⟩
      distinct := by simp only [least, List.map_cons, List.map_nil]; decide
      complete := by simp only [least, List.map_cons, List.map_nil]; decide }
    exact isRecordOf_printRecord .compact fit
  have other : IsRecordOf "B".toList idl second := by
    -- First the number and the list of the unknown field.
    have digit (c : Char) (decimal : isAsciiDigit c = true) : Json.AreDigits [c] :=
      ⟨List.cons_ne_nil _ _, List.forall_mem_singleton.mpr decimal⟩
    have exponent : Json.IsExponent "E+3".toList :=
      .power (.inr rfl) (.inr (.inl rfl)) (digit '3' rfl)
    have power : Json.IsNumeral "1.5E+3".toList :=
      .intro (.inl rfl) (.digits (digit '1' rfl) nofun) (.places (digit '5' rfl)) exponent
    have space : Json.IsBlank [' '] := List.forall_mem_singleton.mpr rfl
    have tab : Json.IsBlank ['\t'] := List.forall_mem_singleton.mpr rfl
    have lineEnd : Json.IsBlank ['\n'] := List.forall_mem_singleton.mpr rfl
    have nothing : Json.IsBlank [] := fun _ member => absurd member List.not_mem_nil
    let pair := [("1.5E+3".toList, Json.Value.number "1.5E+3".toList),
      ("null".toList, Json.Value.word .null)]
    have items : ∀ item ∈ pair, Json.Holds item.1 item.2 := by
      simp only [pair, List.forall_mem_cons]
      exact ⟨.number power, .word .null, by simp⟩
    have list : Json.Holds "[1.5E+3,null]".toList
        (.list [.number "1.5E+3".toList, .word .null]) := .list items nothing
    have more := Json.Holds.behind space list
    -- Then the key and the name that are written with escapes.
    have letter (c : Char) (printable : 32 ≤ c.toNat ∧ c ≠ '"' ∧ c ≠ '\\') :
        Json.StringUnit.IsSpelled (.char c) [c] := .plain printable.1 printable.2.1 printable.2.2
    have codeI : Numeral.hexValue? "0069".toList = some 0x69 := by decide
    have codeB : Numeral.hexValue? "0042".toList = some 0x42 := by decide
    have i : Json.StringUnit.IsSpelled (.char 'i') "\\u0069".toList := .digits codeI
    have b : Json.StringUnit.IsSpelled (.char 'B') "\\u0042".toList := .digits codeB
    have key : Json.Holds ("\"\\u0069dl\"".toList ++ ['\t']) (.string ("idl".toList.map .char)) :=
      .behind tab (.string (.cons i (.cons (letter 'd' (by decide))
        (.cons (letter 'l' (by decide)) .nil))))
    have name : Json.Holds "\"\\u0042\"".toList (.ofText "B".toList) := .string (.cons b .nil)
    let value : Json.Value := .object
      [("more".toList.map .char, .list [.number "1.5E+3".toList, .word .null]),
        ("name".toList.map .char, .ofText "A".toList), ("idl".toList.map .char, .ofText idl),
        ("parsed".toList.map .char, .word .true), ("fqname".toList.map .char, .ofText "B".toList)]
    -- The members as they are spelled, each with what is read from it.
    let members : List ((Text × List Json.StringUnit) × (Text × Json.Value)) :=
      [(("\"more\"".toList, "more".toList.map .char),
          ("[1.5E+3,null]".toList ++ [' '], .list [.number "1.5E+3".toList, .word .null])),
        (([' '] ++ "\"name\"".toList, "name".toList.map .char),
          ("\"A\"".toList, .ofText "A".toList)),
        (("\"\\u0069dl\"".toList ++ ['\t'], "idl".toList.map .char),
          (Json.quoted idl, .ofText idl)),
        (("\"parsed\"".toList, "parsed".toList.map .char), ("true".toList, .word .true)),
        (("\"fqname\"".toList, "fqname".toList.map .char),
          ("\"\\u0042\"".toList, .ofText "B".toList))]
    have keyed : ∀ member ∈ members, Json.Holds member.1.1 (.string member.1.2) := by
      simp only [members, List.forall_mem_cons]
      exact ⟨Json.holds_quoted "more".toList, .before space (Json.holds_quoted "name".toList),
        key, Json.holds_quoted "parsed".toList, Json.holds_quoted "fqname".toList, by simp⟩
    have each : ∀ member ∈ members, Json.Holds member.2.1 member.2.2 := by
      simp only [members, List.forall_mem_cons]
      exact ⟨more, Json.holds_quoted "A".toList, Json.holds_quoted idl, .word .true, name, by simp⟩
    have held : Json.Holds second value := by
      have around : Json.Holds _ value :=
        .before space (.behind lineEnd (Json.Holds.object keyed each nothing))
      convert around using 1
      decide +kernel
    -- It is accepted: no field is missing, none is there twice, and each has its shape.
    have contents : (value.contents? fields).isSome = true := by decide +kernel
    obtain ⟨found, is⟩ := Option.isSome_iff_exists.mp contents
    exact ⟨⟨found, Json.readRecord_of_contents held is⟩, value, held,
      ⟨_, _, by simp [Json.Value.ofText], Json.write_chars _, Json.write_chars _⟩,
      ⟨_, _, by simp [Json.Value.ofText], Json.write_chars _, Json.write_chars _⟩⟩
  have refused : detect "B".toList idl = .error (.identity "B".toList "A".toList) := by
    decide +kernel
  obtain ⟨same, by_both⟩ := ofJson_depends_on_name_and_text one other
  exact ⟨⟨one, other⟩, same, by_both.trans refused⟩

end DetectedType
end IdlScout
