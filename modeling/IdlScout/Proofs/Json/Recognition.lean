import IdlScout.Proofs.Json.Lexing
import IdlScout.Proofs.Json.Skimming

/-! Which values are read as records, and with which contents: this depends on the value alone, and
not on the way it is spelled. -/

namespace IdlScout
namespace Json

/-- The text of a string. -/
def Value.text? : Value → Option Text
  | .string units => (unitsText none units).toOption
  | _ => none

/-- The content that a value is for a field of some shape. -/
def Value.content? : Kind → Value → Option Content
  | .text, value => value.text?.map .text
  | .flag, .word .true => some (.flag true)
  | .flag, .word .false => some (.flag false)
  | .texts, .list items => (items.mapM text?).map .texts
  | _, _ => none

/-- The contents found in an object with one more member: a field comes once only, and a member that
is no field adds nothing. -/
def addMember? (fields : List Field) (found : Contents) (member : List StringUnit × Value) :
    Option Contents := do
  let name ← (unitsText none member.1).toOption
  match fields.find? (·.name == name) with
  | none => some found
  | some field =>
    if found.any (·.1 == name) then none
    else (member.2.content? field.kind).map fun content => found ++ [(field.name, content)]

/-- The contents of an object, of which no required field is missing. -/
def complete? (fields : List Field) (found : Contents) : Option Contents :=
  if fields.all fun field => !field.required || found.any (·.1 == field.name) then some found
  else none

/-- The contents of a list that has one item for each field. -/
def sequence? : List Field → List Value → Option Contents
  | [], [] => some []
  | field :: fields, item :: items => do
    let content ← item.content? field.kind
    let rest ← sequence? fields items
    return (field.name, content) :: rest
  | _, _ => none

/-- The contents of the record that a value is; a record without fields is no list. -/
def Value.contents? (fields : List Field) : Value → Option Contents
  | .object members => (members.foldlM (addMember? fields) []).bind (complete? fields)
  | .list items => if fields.isEmpty then none else sequence? fields items
  | _ => none

namespace Reading

variable {fields : List Field} {field : Field} {reading : Reading}

/-- The machine takes tokens, whatever fault it may meet. -/
def run (fields : List Field) (reading : Reading) (tokens : List Token) : Option Reading :=
  (steps fields reading tokens).toOption

/-- The first token is taken before the others. -/
theorem run_cons (reading : Reading) (token : Token) (rest : List Token) :
    reading.run fields (token :: rest) =
      (reading.step fields token).toOption.bind (run fields · rest) := by
  unfold run steps
  rw [List.foldlM_cons]
  cases reading.step fields token <;> rfl

/-- A first token without fault is taken before the others. -/
theorem run_step {next : Reading} {token : Token} (rest : List Token)
    (taken : reading.step fields token = .ok next) :
    reading.run fields (token :: rest) = next.run fields rest := by
  rw [run_cons, taken]
  rfl

/-- Tokens that come in two parts are taken one part after the other. -/
theorem run_append (reading : Reading) (before after : List Token) :
    reading.run fields (before ++ after) =
      (reading.run fields before).bind (run fields · after) := by
  unfold run steps
  rw [List.foldlM_append]
  cases List.foldlM (step fields) reading before <;> rfl

/-- Nothing is taken without a change. -/
theorem run_nil (reading : Reading) : reading.run fields [] = some reading :=
  rfl

/-- In a list of texts one more is due: behind the bracket or behind a comma. -/
theorem run_text (reading : Reading) (item : Value) {sofar : List Text} {place : ListPlace}
    (due : place = .opened ∨ place = .comma) :
    run fields { reading with place := .texts field place sofar } item.tokens =
      item.text?.map fun text =>
        { reading with place := .texts field .after (sofar ++ [text]) } := by
  -- The closing bracket apart, every token is taken as the beginning of an item.
  have taken (token : Token) (other : token ≠ .closeList) :
      step fields { reading with place := .texts field place sofar } token =
        element { reading with place := .texts field place sofar } field sofar token := by
    rcases due with rfl | rfl <;> cases token <;> first | rfl | exact absurd rfl other
  -- A string is a single token; of the other values the first token is a fault.
  cases item with
  | string units =>
    rw [Value.tokens, run_cons, taken (.string units none) (by simp)]
    cases written : unitsText none units <;>
      simp [element, Value.text?, written, run_nil, Except.toOption, bind, Except.bind, pure,
        Except.pure]
  | word | number | list | object =>
    -- Nothing but a string is a text.
    rw [Value.tokens, run_cons, taken]
    · rfl
    · simp [numeralToken]

/-- Texts are read behind commas, up to the end of their list. -/
theorem run_other_texts (reading : Reading) (items : List Value) (sofar : List Text) :
    run fields { reading with place := .texts field .after sofar }
        ((items.map Value.tokens).flatMap (.comma :: ·) ++ [.closeList]) =
      (items.mapM Value.text?).map fun texts => reading.store field (.texts (sofar ++ texts)) := by
  -- By induction on the items: one comma and one text, or the bracket.
  induction items generalizing sofar with
  | nil =>
    rw [List.mapM_nil, List.map_nil, List.flatMap_nil, List.nil_append, run_cons]
    simp [step, textsStep, run_nil, Except.toOption, store]
  | cons item rest ih =>
    have comma : step fields { reading with place := .texts field .after sofar } .comma =
        .ok { reading with place := .texts field .comma sofar } := rfl
    rw [List.map_cons, List.flatMap_cons, List.append_assoc, List.cons_append, run_step _ comma,
      run_append, run_text reading item (.inr rfl), List.mapM_cons]
    -- An item that is no text ends the reading with a fault.
    cases item.text? with
    | none => rfl
    | some text =>
      simp only [Option.map_some, Option.bind_some, ih, List.append_assoc, List.singleton_append]
      cases rest.mapM Value.text? <;> rfl

/-- The value of a known field is due. -/
def Expects (fields : List Field) (reading : Reading) (field : Field) : Prop :=
  ∀ token, token ≠ .closeList → step fields reading token = reading.value (some field) token

/-- Where the value of a known field is due, it is read as the content that it is. -/
theorem run_known (value : Value) (expects : Expects fields reading field) :
    run fields reading value.tokens = (value.content? field.kind).map (reading.store field) := by
  -- Each kind of value meets each kind of field; most pairs are faults at once.
  cases value with
  | word written =>
    rw [Value.tokens, run_cons, expects (.word written none) (by simp)]
    cases kind : field.kind <;> cases written <;>
      simp [Reading.value, kind, Value.content?, Value.text?, run_nil, Except.toOption]
  | number numeral =>
    rw [Value.tokens, run_cons, expects (numeralToken numeral) (by simp [numeralToken])]
    cases kind : field.kind <;>
      simp [Reading.value, numeralToken, kind, Value.content?, Value.text?, Except.toOption]
  | string units =>
    rw [Value.tokens, run_cons, expects (.string units none) (by simp)]
    cases kind : field.kind <;> cases written : unitsText none units <;>
      simp [Reading.value, kind, Value.content?, Value.text?, written, run_nil, Except.toOption,
        bind, Except.bind, pure, Except.pure]
  | object members =>
    rw [Value.tokens, run_cons, expects .openObject (by simp)]
    -- No field is an object, and only a list of texts opens a list.
    cases kind : field.kind <;>
      simp [Reading.value, kind, Value.content?, Value.text?, Except.toOption]
  | list items =>
    rw [Value.tokens, run_cons, expects .openList (by simp), Value.itemTokens_eq_map]
    cases kind : field.kind with
    | text | flag => simp [Reading.value, kind, Value.content?, Value.text?, Except.toOption]
    | texts =>
      simp only [Reading.value, kind, Value.content?, Except.toOption, Option.bind_some]
      cases items with
      | nil => rfl
      | cons item rest =>
        -- Only the first text has no comma before it.
        rw [List.map_cons, commaSeparated, List.append_assoc, run_append,
          run_text reading item (.inl rfl), List.mapM_cons]
        cases item.text? with
        | none => rfl
        | some text =>
          simp only [Option.map_some, Option.bind_some, run_other_texts, List.nil_append]
          cases rest.mapM Value.text? <;> rfl

/-- Where a key is due, a member is read if its name can be added to what has been found. -/
theorem run_member {found : Contents} {place : Place} (due : place = .opened ∨ place = .comma)
    (key : List StringUnit) (value : Value) :
    run fields ⟨.object, found, place⟩ (.string key none :: .colon :: value.tokens) =
      (addMember? fields found (key, value)).map fun found => ⟨.object, found, .after⟩ := by
  have keyed : step fields ⟨.object, found, place⟩ (.string key none) =
      Reading.key fields ⟨.object, found, place⟩ (.string key none) := by
    -- The key is taken behind the opening bracket and behind a comma alike.
    rcases due with rfl | rfl <;> rfl
  have coloned (field : Option Field) :
      run fields ⟨.object, found, .colon field⟩ (.colon :: value.tokens) =
        run fields ⟨.object, found, .value field⟩ value.tokens := run_step _ rfl
  rw [run_cons, keyed, addMember?]
  -- A key that is no text is a fault for both sides.
  cases written : unitsText none key with
  | error => simp [Reading.key, written, Except.toOption, bind, Except.bind]
  | ok name =>
    cases known : fields.find? (·.name == name) with
    | none =>
      -- The value is passed over, and nothing of it is found.
      have unknown : Skims fields ⟨.object, found, .value none⟩ [] :=
        skims_unknown fields ⟨.object, found, place⟩
      have skimmed := steps_skim value unknown
      have passed : run fields ⟨.object, found, .value none⟩ value.tokens =
          some ⟨.object, found, .after⟩ := by
        rw [run, skimmed]
        rfl
      simp [Reading.key, written, known, Except.toOption, bind, Except.bind, pure, Except.pure,
        coloned, passed]
    | some field =>
      -- A field that was found before is a fault.
      by_cases again : found.any (·.1 == name) = true
      · simp [Reading.key, written, known, again, Except.toOption, bind, Except.bind, throw,
          throwThe, MonadExceptOf.throw]
      · have expects : Expects fields ⟨.object, found, .value (some field)⟩ field :=
          fun _ _ => rfl
        have read := run_known value expects
        simp [Reading.key, written, known, again, Except.toOption, bind, Except.bind, pure,
          Except.pure, coloned, read]
        rfl

/-- A closing bracket ends an object of which no required field is missing. -/
theorem run_close {found : Contents} {place : Place} (due : place = .opened ∨ place = .after) :
    run fields ⟨.object, found, place⟩ [.closeObject] =
      (complete? fields found).map fun found => ⟨.object, found, .finished⟩ := by
  have closed : step fields ⟨.object, found, place⟩ .closeObject =
      Reading.close fields ⟨.object, found, place⟩ := by
    -- Both places let the object end, and the missing fields decide.
    rcases due with rfl | rfl <;> rfl
  rw [run_cons, closed, Reading.close, complete?]
  split <;> rfl

/-- Members are read behind commas, up to the end of their object. -/
theorem run_other_members (members : List (List StringUnit × Value)) (found : Contents) :
    run fields ⟨.object, found, .after⟩
        ((members.map fun member => .string member.1 none :: .colon :: member.2.tokens).flatMap
          (.comma :: ·) ++ [.closeObject]) =
      ((members.foldlM (addMember? fields) found).bind (complete? fields)).map
        fun found => ⟨.object, found, .finished⟩ := by
  -- By induction on the members: each is read into what was found before it.
  induction members generalizing found with
  | nil => exact run_close (.inr rfl)
  | cons member rest ih =>
    have comma : step fields ⟨.object, found, .after⟩ .comma = .ok ⟨.object, found, .comma⟩ := rfl
    rw [List.map_cons, List.flatMap_cons, List.append_assoc, List.cons_append, run_step _ comma,
      run_append, run_member (.inr rfl), List.foldlM_cons]
    cases addMember? fields found member with
    | none => rfl
    | some found => exact ih found

/-- Items are read behind commas, one for each field, up to the end of their list. -/
theorem run_other_items (items : List Value) (pending : List Field) (found : Contents) :
    run fields ⟨.sequence pending, found, .after⟩
        ((items.map Value.tokens).flatMap (.comma :: ·) ++ [.closeList]) =
      (sequence? pending items).map fun rest => ⟨.sequence [], found ++ rest, .finished⟩ := by
  -- Fields and items are used up together; what is left of either is a fault.
  induction items generalizing pending found with
  | nil =>
    cases pending with
    | nil => simp [run_cons, step, sequenceStep, sequence?, Except.toOption, run_nil]
    | cons field rest => rfl
  | cons item rest ih =>
    -- Without a field that is due, an item is one too many.
    cases pending with
    | nil => rfl
    | cons field pending =>
      have comma : step fields ⟨.sequence (field :: pending), found, .after⟩ .comma =
          .ok ⟨.sequence (field :: pending), found, .comma⟩ := rfl
      have expects : Expects fields ⟨.sequence (field :: pending), found, .comma⟩ field := by
        intro token other
        cases token <;> first | rfl | exact absurd rfl other
      rw [List.map_cons, List.flatMap_cons, List.append_assoc, List.cons_append, run_step _ comma,
        run_append, run_known item expects, sequence?]
      cases item.content? field.kind with
      | none => rfl
      | some content =>
        refine (ih pending (found ++ [(field.name, content)])).trans ?_
        cases sequence? pending rest <;> simp

/-- Members between brackets are read as the contents of their object. -/
theorem run_members (members : List (List StringUnit × Value)) :
    run fields ⟨.object, [], .opened⟩
        (commaSeparated (members.map fun member =>
          .string member.1 none :: .colon :: member.2.tokens) ++ [.closeObject]) =
      (Value.contents? fields (.object members)).map fun found => ⟨.object, found, .finished⟩ := by
  rw [Value.contents?]
  cases members with
  | nil => exact run_close (.inl rfl)
  | cons member rest =>
    -- Only the first member has no comma before it.
    rw [List.map_cons, commaSeparated, List.append_assoc, run_append, run_member (.inl rfl),
      List.foldlM_cons]
    cases addMember? fields [] member with
    | none => rfl
    | some found => exact run_other_members rest found

/-- Items between brackets are read as the contents of their list. -/
theorem run_items (items : List Value) :
    run fields ⟨.sequence fields, [], .opened⟩
        (commaSeparated (items.map Value.tokens) ++ [.closeList]) =
      (Value.contents? fields (.list items)).map fun found => ⟨.sequence [], found, .finished⟩ := by
  rw [Value.contents?]
  cases fields with
  | nil =>
    -- Neither an item nor the end of the list can be taken.
    cases items with
    | nil => rfl
    | cons item rest =>
      obtain ⟨first, others, shape, -⟩ := item.exists_tokens
      rw [List.map_cons, commaSeparated, shape]
      rfl
  | cons field pending =>
    cases items with
    | nil => rfl
    | cons item rest =>
      have expects :
          Expects (field :: pending) ⟨.sequence (field :: pending), [], .opened⟩ field := by
        intro token other
        -- The first field takes the first item; the others follow behind commas.
        cases token <;> first | rfl | exact absurd rfl other
      rw [List.map_cons, commaSeparated, List.append_assoc, run_append, run_known item expects,
        List.isEmpty_cons, if_neg (by simp), sequence?]
      cases item.content? field.kind with
      | none => rfl
      | some content =>
        refine (run_other_items rest pending [(field.name, content)]).trans ?_
        cases sequence? pending rest <;> rfl

end Reading

/-- However a value is spelled, a record is read from its text exactly if the value is one, and then
with the contents that the value is. -/
theorem toOption_readRecord (fields : List Field) {text : Text} {value : Value}
    (held : Holds text value) : (readRecord fields text).toOption = value.contents? fields := by
  have read : (readRecord fields text).toOption =
      (Reading.run fields ⟨.object, [], .start⟩ value.tokens).bind fun reading =>
        if reading.place = .finished then some reading.found else none := by
    -- All tokens have to be taken, and the record to be finished then.
    rw [readRecord, held.tokens, Reading.run, Reading.steps]
    cases List.foldlM (Reading.step fields) ⟨.object, [], .start⟩ value.tokens with
    | error => rfl
    | ok reading =>
      by_cases finished : reading.place = .finished <;>
        simp [finished, bind, Except.bind, pure, Except.pure, throw, throwThe, MonadExceptOf.throw,
          Except.toOption]
  rw [read]
  -- A record is an object or a list; all other values are refused by their first token.
  cases value with
  | word | number | string => rfl
  | object members =>
    have opened : Reading.step fields ⟨.object, [], .start⟩ .openObject =
        .ok ⟨.object, [], .opened⟩ := rfl
    rw [Value.tokens, Reading.run_step _ opened, Value.memberTokens_eq_map, Reading.run_members]
    cases Value.contents? fields (.object members) <;> rfl
  | list items =>
    have opened : Reading.step fields ⟨.object, [], .start⟩ .openList =
        .ok ⟨.sequence fields, [], .opened⟩ := rfl
    rw [Value.tokens, Reading.run_step _ opened, Value.itemTokens_eq_map, Reading.run_items]
    cases Value.contents? fields (.list items) <;> rfl

/-- A record whose value has contents is read with these. -/
theorem readRecord_of_contents {fields : List Field} {text : Text} {value : Value}
    {contents : Contents} (held : Holds text value)
    (is : value.contents? fields = some contents) : readRecord fields text = .ok contents := by
  have read := toOption_readRecord fields held
  rw [is] at read
  cases same : readRecord fields text with
  | error => simp [same, Except.toOption] at read
  | ok found => simpa [same, Except.toOption] using read

end Json
end IdlScout
