import IdlScout.Proofs.Json.StringUnit

/-! JSON by its grammar: values nested to any depth, every spelling that a text of one can have, and
the tokens of a value. -/

namespace IdlScout
namespace Json

/-- A value that a text can hold. A number is kept as it is written, a string and a key by their
units, and members of an object in their order, which may have one key more than once. -/
inductive Value where
  | word (word : Word)
  | number (numeral : Text)
  | string (units : List StringUnit)
  | list (items : List Value)
  | object (members : List (List StringUnit × Value))

/-- The letters of a word. -/
def Word.letters : Word → Text
  | .null => "null".toList
  | .true => "true".toList
  | .false => "false".toList

/-- One or more digits. -/
structure AreDigits (digits : Text) : Prop where
  nonempty : digits ≠ []
  decimal : ∀ c ∈ digits, isAsciiDigit c = true

/-- The whole part of a number: a zero, or digits of which the first is none. -/
inductive IsWhole : Text → Prop where
  | zero : IsWhole ['0']
  | digits {digits : Text} (decimal : AreDigits digits) (leads : digits.head? ≠ some '0') :
    IsWhole digits

/-- The fraction of a number, or nothing. -/
inductive IsFraction : Text → Prop where
  | none : IsFraction []
  | places {digits : Text} (decimal : AreDigits digits) : IsFraction ('.' :: digits)

/-- The exponent of a number, or nothing. -/
inductive IsExponent : Text → Prop where
  | none : IsExponent []
  | power {mark : Char} {sign digits : Text} (marked : mark = 'e' ∨ mark = 'E')
      (signed : sign = [] ∨ sign = ['+'] ∨ sign = ['-']) (decimal : AreDigits digits) :
    IsExponent (mark :: (sign ++ digits))

/-- A number as it is written. -/
inductive IsNumeral : Text → Prop where
  | intro {sign whole fraction exponent : Text} (signed : sign = [] ∨ sign = ['-'])
      (isWhole : IsWhole whole) (isFraction : IsFraction fraction)
      (isExponent : IsExponent exponent) :
    IsNumeral (sign ++ (whole ++ (fraction ++ exponent)))

/-- Blanks in any number. -/
def IsBlank (text : Text) : Prop :=
  ∀ c ∈ text, isSpace c = true

/-- A text holds a value, with blanks before and behind every part of it or none. -/
inductive Holds : Text → Value → Prop where
  | word (word : Word) : Holds word.letters (.word word)
  | number {numeral : Text} (written : IsNumeral numeral) : Holds numeral (.number numeral)
  | string {units : List StringUnit} {text : Text} (spelled : AreSpelled units text) :
    Holds ('"' :: (text ++ ['"'])) (.string units)
  /-- Items stand between commas, each a text with its value; without any there are only blanks. -/
  | list {items : List (Text × Value)} {blank : Text}
      (held : ∀ item ∈ items, Holds item.1 item.2) (blanks : IsBlank blank) :
    Holds ('[' :: (Text.join [','] (items.map (·.1)) ++ (blank ++ [']']))) (.list (items.map (·.2)))
  /-- Members stand between commas, each a key and a value with a colon between them. -/
  | object {members : List ((Text × List StringUnit) × (Text × Value))} {blank : Text}
      (keyed : ∀ member ∈ members, Holds member.1.1 (.string member.1.2))
      (held : ∀ member ∈ members, Holds member.2.1 member.2.2) (blanks : IsBlank blank) :
    Holds
      ('\x7b' :: (Text.join [','] (members.map fun member => member.1.1 ++ ':' :: member.2.1) ++
        (blank ++ ['\x7d'])))
      (.object (members.map fun member => (member.1.2, member.2.2)))
  | before {blank text : Text} {value : Value} (blanks : IsBlank blank) (held : Holds text value) :
    Holds (blank ++ text) value
  | behind {blank text : Text} {value : Value} (blanks : IsBlank blank) (held : Holds text value) :
    Holds (text ++ blank) value

/-- A numeral is one token; of its value only whether it is too large is told. -/
def numeralToken (numeral : Text) : Token :=
  .number (.complete (tokens numeral == [.number (.complete true)]))

/-- Items with commas between them. -/
def commaSeparated : List (List Token) → List Token
  | [] => []
  | first :: rest => first ++ rest.flatMap (.comma :: ·)

mutual

/-- The tokens of a value. -/
def Value.tokens : Value → List Token
  | .word written => [.word written none]
  | .number numeral => [numeralToken numeral]
  | .string units => [.string units none]
  | .list items => .openList :: (commaSeparated (itemTokens items) ++ [.closeList])
  | .object members => .openObject :: (commaSeparated (memberTokens members) ++ [.closeObject])

/-- The tokens of each item of a list. -/
def Value.itemTokens : List Value → List (List Token)
  | [] => []
  | item :: rest => item.tokens :: itemTokens rest

/-- The tokens of each member of an object. -/
def Value.memberTokens : List (List StringUnit × Value) → List (List Token)
  | [] => []
  | (key, value) :: rest => (.string key none :: .colon :: value.tokens) :: memberTokens rest

end

/-- Items are read one by one. -/
theorem Value.itemTokens_eq_map (items : List Value) :
    itemTokens items = items.map Value.tokens := by
  -- The tokens of items are a function of its own, since a value holds values in lists.
  induction items with
  | nil => rfl
  | cons item rest ih => rw [itemTokens, ih, List.map_cons]

/-- Members are read one by one. -/
theorem Value.memberTokens_eq_map (members : List (List StringUnit × Value)) :
    memberTokens members =
      members.map fun member => .string member.1 none :: .colon :: member.2.tokens := by
  -- As for items, with a key in front of each value.
  induction members with
  | nil => rfl
  | cons member rest ih => rw [memberTokens, ih, List.map_cons]

end Json
end IdlScout
