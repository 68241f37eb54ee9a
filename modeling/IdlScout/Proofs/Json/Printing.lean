import IdlScout.Proofs.Json.Lexing

/-! Printed records are JSON: each holds an object with its contents as members, and is read as the
tokens of that. -/

namespace IdlScout
namespace Json

/-- A text as a string. -/
def Value.ofText (text : Text) : Value :=
  .string (text.map .char)

/-- A content as a value. -/
def Content.value : Content → Value
  | .text written => .ofText written
  | .texts written => .list (written.map .ofText)
  | .flag written => .word (if written then .true else .false)

/-- The contents of a record as an object. -/
def Contents.value (contents : Contents) : Value :=
  .object (contents.map fun content => (content.1.map .char, content.2.value))

/-- A text holds its string as it is printed. -/
theorem holds_quoted (text : Text) : Holds (quoted text) (.ofText text) :=
  .string (areSpelled_flatMap_escape text)

/-- What is printed before an item is blank. -/
theorem isBlank_before (spacing : Spacing) (level : Nat) : IsBlank (spacing.before level) := by
  intro c member
  -- A line feed and some spaces, or nothing.
  cases spacing with
  | compact => simp [Spacing.before] at member
  | indented step =>
    simp only [Spacing.before, Text.times, List.mem_cons, List.mem_replicate] at member
    rcases member with rfl | ⟨-, rfl⟩ <;> decide

/-- Items stand between brackets with commas between them, each behind a margin, and nothing but
blanks before the closing bracket. -/
theorem exists_bracketed (spacing : Spacing) (level : Nat) (opening closing : Char)
    (items : List Text) : ∃ blank, IsBlank blank ∧
      bracketed spacing level opening closing items =
        opening :: (Text.join [','] (items.map fun item => spacing.before (level + 1) ++ item) ++
          (blank ++ [closing])) := by
  -- Only a list with items has a margin before its closing bracket.
  cases items with
  | nil => exact ⟨[], fun _ member => absurd member List.not_mem_nil, rfl⟩
  | cons first rest => exact ⟨_, isBlank_before spacing level, by simp [bracketed]⟩

/-- A content holds its value as it is printed. -/
theorem holds_printContent (spacing : Spacing) (content : Content) :
    Holds (printContent spacing content) content.value := by
  cases content with
  | text text => exact holds_quoted text
  | flag flag =>
    cases flag
    · exact .word .false
    · exact .word .true
  | texts texts =>
    -- The margin before an item is a blank in front of it, as the grammar has it.
    obtain ⟨blank, blanks, same⟩ := exists_bracketed spacing 1 '[' ']' (texts.map quoted)
    let items := texts.map fun text => (spacing.before 2 ++ quoted text, Value.ofText text)
    have each : ∀ item ∈ items, Holds item.1 item.2 := by
      intro item listed
      obtain ⟨text, -, rfl⟩ := List.mem_map.mp listed
      exact .before (isBlank_before spacing 2) (holds_quoted text)
    have held := Holds.list each blanks
    simp only [items, List.map_map] at held
    rw [printContent, same, List.map_map]
    exact held

/-- Between a key and its value there is a colon with nothing but blanks behind it. -/
theorem exists_colon (spacing : Spacing) :
    ∃ blank, IsBlank blank ∧ spacing.colon = ':' :: blank := by
  cases spacing with
  | compact => exact ⟨[], fun _ member => absurd member List.not_mem_nil, rfl⟩
  | indented step => exact ⟨[' '], List.forall_mem_singleton.mpr rfl, rfl⟩

/-- A record holds its object as it is printed. -/
theorem holds_printRecord (spacing : Spacing) (contents : Contents) :
    Holds (printRecord spacing contents) contents.value := by
  -- A member is a key behind a margin, and a value behind the blanks that follow the colon.
  obtain ⟨gap, gaps, colon⟩ := exists_colon spacing
  obtain ⟨blank, blanks, same⟩ := exists_bracketed spacing 0 '\x7b' '\x7d'
    (contents.map fun content =>
      quoted content.1 ++ spacing.colon ++ printContent spacing content.2)
  let members : List ((Text × List StringUnit) × (Text × Value)) := contents.map fun content =>
    ((spacing.before 1 ++ quoted content.1, content.1.map .char),
      (gap ++ printContent spacing content.2, content.2.value))
  have keyed : ∀ member ∈ members, Holds member.1.1 (.string member.1.2) := by
    intro member listed
    obtain ⟨content, -, rfl⟩ := List.mem_map.mp listed
    exact .before (isBlank_before spacing 1) (holds_quoted content.1)
  have each : ∀ member ∈ members, Holds member.2.1 member.2.2 := by
    intro member listed
    obtain ⟨content, -, rfl⟩ := List.mem_map.mp listed
    exact .before gaps (holds_printContent spacing content.2)
  -- The grammar's object is the printed one once the blanks are moved to where it has them.
  have held := Holds.object keyed each blanks
  simp only [members, List.map_map] at held
  have printed : printRecord spacing contents = _ := same
  rw [printed, List.map_map, Contents.value]
  simpa only [Function.comp_def, colon, Nat.zero_add, List.append_assoc, List.cons_append]
    using held

/-- The tokens of a text between quotes. -/
def textTokens (text : Text) : List Token :=
  [.string (text.map .char) none]

/-- The tokens of a content. -/
def Content.tokens : Content → List Token
  | .text value => textTokens value
  | .texts values => .openList :: commaSeparated (values.map textTokens) ++ [.closeList]
  | .flag value => [.word (if value then .true else .false) none]

/-- The value of a content has its tokens. -/
theorem Content.tokens_value (content : Content) : content.value.tokens = content.tokens := by
  cases content with
  | text | flag => rfl
  | texts written =>
    rw [Content.value, Value.tokens, Value.itemTokens_eq_map, List.map_map]
    rfl

/-- The tokens of a field with its content. -/
def fieldTokens (field : Text × Content) : List Token :=
  textTokens field.1 ++ [.colon] ++ field.2.tokens

/-- The tokens of a record. -/
def Contents.tokens (contents : Contents) : List Token :=
  .openObject :: commaSeparated (contents.map fieldTokens) ++ [.closeObject]

/-- However a record is spaced, it is printed as its tokens. -/
theorem tokens_printRecord (spacing : Spacing) (contents : Contents) :
    tokens (printRecord spacing contents) = contents.tokens := by
  -- What a text holds fixes its tokens, so the spacing is not looked at again.
  rw [(holds_printRecord spacing contents).tokens, Contents.value, Value.tokens,
    Value.memberTokens_eq_map, List.map_map, Contents.tokens, List.cons_append]
  congr 4
  funext content
  simp [fieldTokens, textTokens, content.2.tokens_value]

end Json
end IdlScout
