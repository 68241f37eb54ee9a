import IdlScout.Json.Record

/-! Records and maps printed as JSON, on one line or indented. -/

namespace IdlScout
namespace Json

/-- A digit of a number below sixteen, in small letters. -/
def hexDigit (n : Nat) : Char :=
  Nat.digitChar n

/-- A character as it stands inside quotes. -/
def escape (c : Char) : Text :=
  if c = '"' then "\\\"".toList
  else if c = '\\' then "\\\\".toList
  else if c.toNat = 8 then "\\b".toList
  else if c.toNat = 12 then "\\f".toList
  else if c = '\n' then "\\n".toList
  else if c = '\r' then "\\r".toList
  else if c = '\t' then "\\t".toList
  -- Every other control character is an escape of four digits, two of them zeros.
  else if c.toNat < 32 then "\\u00".toList ++ [hexDigit (c.toNat / 16), hexDigit (c.toNat % 16)]
  else [c]

/-- A text between quotes. -/
def quoted (text : Text) : Text :=
  ['"'] ++ text.flatMap escape ++ ['"']

/-- Items are printed on one line, or each on its own with a margin per level. -/
inductive Spacing where
  | compact
  | indented (step : Nat)
  deriving Repr, DecidableEq

/-- What stands before an item of a level. -/
def Spacing.before : Spacing → Nat → Text
  | .compact, _ => []
  | .indented step, level => '\n' :: Text.times (step * level) ' '

/-- What stands between a key and its value. -/
def Spacing.colon : Spacing → Text
  | .compact => [':']
  | .indented _ => ": ".toList

/-- Items between brackets, inside a level. -/
def bracketed (spacing : Spacing) (level : Nat) (opening closing : Char) (items : List Text) :
    Text :=
  -- Empty brackets stay together in every spacing.
  if items.isEmpty then [opening, closing]
  else
    [opening] ++ Text.join [','] (items.map fun item => spacing.before (level + 1) ++ item) ++
      spacing.before level ++ [closing]

/-- A content of a record. -/
def printContent (spacing : Spacing) : Content → Text
  | .text value => quoted value
  | .texts values => bracketed spacing 1 '[' ']' (values.map quoted)
  | .flag value => if value then "true".toList else "false".toList

/-- A record, its fields in their order. -/
def printRecord (spacing : Spacing) (contents : Contents) : Text :=
  bracketed spacing 0 '\x7b' '\x7d' (contents.map fun (name, content) =>
    quoted name ++ spacing.colon ++ printContent spacing content)

end Json
end IdlScout
