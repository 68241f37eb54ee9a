import IdlScout.Proofs.Json.Printing

/-! An object of texts under any names, as a reader finds it in JSON text: the entries that were
printed, in their order. -/

namespace IdlScout
namespace Json

/-- The entries of an object after its opening bracket or after a comma, each with a text. -/
def entries? : List Token → Option (List (Text × Text))
  | .string key keyFault :: .colon :: .string value valueFault :: rest => do
    let key ← (unitsText keyFault key).toOption
    let value ← (unitsText valueFault value).toOption
    -- A comma has an entry after it, and nothing follows the closing bracket.
    match rest with
    | .comma :: rest => (entries? rest).map ((key, value) :: ·)
    | [.closeObject] => some [(key, value)]
    | _ => none
  | _ => none

/-- The entries of the object of texts that a text holds, in their order. -/
def readTexts? (text : Text) : Option (List (Text × Text)) :=
  match tokens text with
  | [.openObject, .closeObject] => some []
  | .openObject :: rest => entries? rest
  | _ => none

/-- An object of texts, as the contents of a record. -/
def textContents (entries : List (Text × Text)) : Contents :=
  entries.map fun (key, value) => (key, .text value)

/-- Behind two items in a row there is a comma after the first. -/
theorem commaSeparated_cons_cons (first second : List Token) (rest : List (List Token)) :
    commaSeparated (first :: second :: rest) =
      first ++ .comma :: commaSeparated (second :: rest) := by
  simp [commaSeparated]

/-- An entry is read before what follows its text. -/
theorem entries?_entry (key value : Text) (rest : List Token) :
    entries? (fieldTokens (key, .text value) ++ rest) =
      match rest with
      | .comma :: rest => (entries? rest).map ((key, value) :: ·)
      | [.closeObject] => some [(key, value)]
      | _ => none := by
  simp [fieldTokens, textTokens, Content.tokens, entries?, unitsText_chars, Except.toOption]

/-- Entries are read back from their tokens with commas between them. -/
theorem entries?_tokens (first : Text × Text) (rest : List (Text × Text)) :
    entries? (commaSeparated ((textContents (first :: rest)).map fieldTokens) ++ [.closeObject]) =
      some (first :: rest) := by
  induction rest generalizing first with
  | nil =>
    -- The bracket follows the only entry at once.
    have alone : commaSeparated ((textContents [first]).map fieldTokens) =
        fieldTokens (first.1, .text first.2) := List.append_nil _
    rw [alone, entries?_entry]
  | cons next rest ih =>
    -- Behind the first entry and a comma, the others stand as they would by themselves.
    have split : commaSeparated ((textContents (first :: next :: rest)).map fieldTokens) =
        fieldTokens (first.1, .text first.2) ++
          .comma :: commaSeparated ((textContents (next :: rest)).map fieldTokens) :=
      commaSeparated_cons_cons _ _ _
    rw [split, List.append_assoc, List.cons_append, entries?_entry]
    simp only [ih, Option.map_some]

/-- However an object of texts is spaced, all its entries are read back in their order. -/
theorem readTexts?_printRecord (spacing : Spacing) (entries : List (Text × Text)) :
    readTexts? (printRecord spacing (textContents entries)) = some entries := by
  rw [readTexts?, tokens_printRecord, Contents.tokens]
  cases entries with
  | nil => rfl
  | cons first rest =>
    -- With an entry the first bracket is not followed by the second.
    have read := entries?_tokens first rest
    rw [List.cons_append]
    split
    · rename_i closed
      rw [List.cons.inj closed |>.2] at read
      cases read
    · rename_i opened
      rwa [← (List.cons.inj opened).2]
    · rename_i other
      exact absurd rfl (other _)

end Json
end IdlScout
