import IdlScout.Idl.Member

/-! Clean-up of interface text that is passed through as it came, line by line. -/

namespace IdlScout
namespace Cleanup

/-- A small letter of A to Z. -/
def isLower (c : Char) : Bool :=
  'a' ≤ c && c ≤ 'z'

/-- A character of a primitive type's name after its first. -/
def isLowerOrDigit (c : Char) : Bool :=
  isLower c || isAsciiDigit c

/-- A digit that can start a length. -/
def isPositiveDigit (c : Char) : Bool :=
  '1' ≤ c && c ≤ '9'

/-- A word of a first character and any number of further ones, and what follows it. -/
def takeWord? (isFirst isNext : Char → Bool) : Text → Option (Text × Text)
  | [] => none
  | c :: rest =>
    -- A word is as long as it can be.
    if isFirst c then some (c :: rest.takeWhile isNext, rest.dropWhile isNext) else none

/-- Text without the spaces before it. -/
def skipSpaces (text : Text) : Text :=
  text.dropWhile (· == ' ')

/-- The name of an array of primitive values: the element type, two underscores, the length. -/
structure ArrayAlias where
  element : Text
  length : Text
  deriving Repr, DecidableEq

/-- An array name at the start of a text, and what follows it. -/
def ArrayAlias.take? (text : Text) : Option (ArrayAlias × Text) := do
  let (element, rest) ← takeWord? isLower isLowerOrDigit text
  let rest ← Text.stripPrefix? "__".toList rest
  let (length, rest) ← takeWord? isPositiveDigit isAsciiDigit rest
  return (⟨element, length⟩, rest)

/-- The array that a line defines, as in `typedef double double__9[9];`. -/
def ArrayAlias.ofTypedef? (line : Text) : Option ArrayAlias := do
  let rest ← Text.stripPrefix? "typedef ".toList (skipSpaces line)
  -- The element type and the length in the brackets are not compared with the array's name.
  let (_, rest) ← takeWord? isLower isLowerOrDigit rest
  let rest ← Text.stripPrefix? [' '] rest
  let (name, rest) ← ArrayAlias.take? rest
  let rest ← Text.stripPrefix? ['['] rest
  let (_, rest) ← takeWord? isPositiveDigit isAsciiDigit rest
  let _ ← Text.stripPrefix? "];".toList rest
  return name

/-- A member declared with an array name: the spaces before it, the array, the member's name. -/
structure ArrayMember where
  indent : Text
  array : ArrayAlias
  name : Text
  deriving Repr, DecidableEq

/-- The array member that a line declares, as in `double__9 covariance;`. -/
def ArrayMember.ofLine? (line : Text) : Option ArrayMember := do
  let (array, rest) ← ArrayAlias.take? (skipSpaces line)
  let rest ← Text.stripPrefix? [' '] rest
  let (name, rest) ← takeWord? (fun c => isLower c || c == '_')
    (fun c => isLowerOrDigit c || c == '_') rest
  let _ ← Text.stripPrefix? [';'] rest
  return ⟨line.takeWhile (· == ' '), array, name⟩

/-- The member with its array written out. -/
def ArrayMember.inlined (member : ArrayMember) : Text :=
  member.indent ++ member.array.element ++ [' '] ++ member.name ++ ['['] ++
    member.array.length ++ "];".toList

/-- Lines are trimmed and the empty ones dropped. -/
def dropEmpty (text : Text) : List Text :=
  ((Text.cut '\n' text).map Text.trim).filter fun line => !line.isEmpty

/-- The quoted path of an inclusion. -/
def includedPath? (line : Text) : Option Text := do
  let (_, rest) ← Text.breakAt? '"' line
  let (path, _) ← Text.breakAt? '"' rest
  return path

/-- The macro that guards the inclusion of a path. -/
def includeGuard (path : Text) : Text :=
  Text.replace ['/'] ['_'] (Text.dropSuffix ".idl".toList path) ++ ['_']

/-- A line of inclusion between the lines of its guard. -/
def guarded (line path : Text) : List Text :=
  let guard := includeGuard path
  ["#ifndef ".toList ++ guard, "#define ".toList ++ guard, line, "#endif  // ".toList ++ guard]

/-- Inclusions outside a guard get one; the flag says whether a guard is open. -/
def guardIncludes : Bool → List Text → List Text
  | _, [] => []
  | inGuard, line :: rest =>
    -- The first end of a condition closes the guard, however many were opened.
    if "#ifndef ".toList.isPrefixOf line then line :: guardIncludes true rest
    else if "#endif".toList.isPrefixOf line then line :: guardIncludes false rest
    else if !"#include".toList.isPrefixOf line || inGuard then line :: guardIncludes inGuard rest
    -- An inclusion outside a guard is guarded by a macro made of its path.
    else match includedPath? line with
      | none => line :: guardIncludes inGuard rest
      | some path => guarded line path ++ guardIncludes inGuard rest

/-- Definitions of primitive arrays are dropped and their names written out in later members. -/
def inlineArrays : List ArrayAlias → List Text → List Text
  | _, [] => []
  | known, line :: rest =>
    match ArrayAlias.ofTypedef? line with
    -- A definition is known from here on, and its own line is left out.
    | some array => inlineArrays (array :: known) rest
    | none =>
      match ArrayMember.ofLine? line with
      | some member =>
        -- An array that no earlier line defines is some other type, and its member stays.
        (if known.contains member.array then member.inlined else line) :: inlineArrays known rest
      | none => line :: inlineArrays known rest

/-- A line that starts a verbatim comment. -/
def startsComment (line : Text) : Bool :=
  match Text.stripPrefix? "@verbatim".toList (skipSpaces line) with
  | some rest => "(language=\"comment\", text=".toList.isPrefixOf (skipSpaces rest)
  | none => false

/-- A line that starts with a quote and holds a mark somewhere after it. -/
def quotedUpTo (mark line : Text) : Bool :=
  match skipSpaces line with
  | '"' :: rest => Text.occursIn mark rest
  | _ => false

/-- A line of a verbatim comment: its start, a further line of text, or its end. -/
def isComment (line : Text) : Bool :=
  startsComment line || quotedUpTo "\" \"\\n\"".toList line || quotedUpTo "\")".toList line

/-- The first word of a line and the text between it and the semicolon. -/
def memberParts? (line : Text) : Option (Text × Text) := do
  let (type, rest) ← Text.breakAt? ' ' line
  let (name, _) ← Text.breakAt? ';' rest
  return (type, name)

/-- A line that declares a reserved name declares it with an underscore. -/
def renameReserved (line : Text) : Text :=
  match memberParts? line with
  | some (type, name) =>
    if Member.reservedNames.contains name then type ++ [' '] ++ name ++ "_;".toList else line
  | none => line

/-- The lines of a text after every step of the clean-up. -/
def cleanLines (text : Text) : List Text :=
  -- Guards come first, so that lines of them are seen by the later steps too.
  let lines := inlineArrays [] (guardIncludes false (dropEmpty text))
  (lines.filter fun line => !isComment line).map renameReserved

end Cleanup

/-- The clean-up trims lines, guards inclusions, writes arrays out, drops verbatim comments and
renames reserved members. -/
def cleanUp (text : Text) : Text :=
  (Cleanup.cleanLines text).flatMap fun line => line ++ ['\n']

end IdlScout
