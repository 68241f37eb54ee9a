import IdlScout.Idl.Member

/-! Declarations of structures and value types, read from the text of one type. -/

namespace IdlScout

/-- The parts of a declaration that are kept. -/
structure Declaration where
  annotations : List Text
  modules : List Text
  name : Text
  members : List Text
  deriving Repr, DecidableEq

/-- Why a text is no declaration. -/
inductive Unsupported where
  | noDeclaration
  | noOpeningBrace
  | noName
  | noClosingBrace
  deriving Repr, DecidableEq

/-- What a reader of logs is told about an unsupported text. -/
def Unsupported.message : Unsupported → Text
  | .noDeclaration => "unsupported type declaration: no struct or valuetype declaration".toList
  | .noOpeningBrace => "unsupported type declaration: missing opening brace".toList
  | .noName => "unsupported type declaration: missing type name".toList
  | .noClosingBrace => "unsupported type declaration: missing closing brace".toList

namespace Declaration

/-- The bound that stands for none. -/
def unboundedSentinel : Text := "2147483647".toList

/-- Bounds that stand for none are removed, alone in their brackets or after a comma. -/
def dropUnbounded (text : Text) : Text :=
  -- The bound alone in its brackets goes with them; behind a comma the closing bracket stays.
  Text.replace (',' :: unboundedSentinel ++ ['>']) ['>']
    (Text.replace ('<' :: unboundedSentinel ++ ['>']) [] text)

/-- The words that open a declaration. -/
def keywords : List Text := ["struct".toList, "valuetype".toList]

/-- What follows a keyword and the blanks that must stand after it. -/
def afterKeyword? (text : Text) : Option Text :=
  keywords.findSome? fun keyword =>
    match Text.stripPrefix? keyword text with
    -- A keyword is a word of its own only with a blank after it.
    | some (c :: rest) => if isBlank c then some (Text.trimStart rest) else none
    | _ => none

/-- The parts before and after the first keyword that no word character precedes; the flag says
whether one precedes the text. -/
def breakAtKeyword? (afterWord : Bool) : Text → Option (Text × Text)
  | [] => none
  | c :: rest =>
    -- Inside a word no keyword starts.
    match if afterWord then none else afterKeyword? (c :: rest) with
    | some body => some ([], body)
    | none => (breakAtKeyword? (isWord c) rest).map fun (before, after) => (c :: before, after)

/-- The text before the first colon that is not half of a separator, without blanks at its end. -/
def beforeLoneColon : Text → Option Text
  | [] => none
  -- Two colons are a separator of names and are passed together.
  | ':' :: ':' :: rest => (beforeLoneColon rest).map fun kept => ':' :: ':' :: kept
  | c :: rest => if c = ':' then some [] else (beforeLoneColon rest).map (c :: ·)

/-- A declared name without its base clause. -/
def stripBase (declared : Text) : Text :=
  match beforeLoneColon declared with
  | some name => Text.trimEnd name
  | none => declared

/-- Line feeds count as spaces. -/
def onOneLine (text : Text) : Text :=
  text.map fun c => if c = '\n' then ' ' else c

/-- Pieces between marks, on one line, trimmed, the empty ones left out. -/
def fragments (mark : Char) (text : Text) : List Text :=
  ((Text.cut mark (onOneLine text)).map Text.trim).filter fun piece => !piece.isEmpty

/-- A declaration is read from its first keyword; the text before it holds annotations, the text
up to the opening brace the name, and the text up to the closing one the members. -/
def read (text : Text) : Except Unsupported Declaration := do
  -- The bounds that stand for none are gone before anything is read.
  let some (leading, remaining) := breakAtKeyword? false (dropUnbounded text)
    | throw .noDeclaration
  -- The base clause is cut off the name, and the name may not be empty.
  let some (head, body) := Text.breakAt? '{' remaining | throw .noOpeningBrace
  let declared := stripBase (Text.trim head)
  if declared.isEmpty then throw .noName
  -- Members end at the first closing brace with a semicolon.
  let some (inside, _) := Text.breakOn? ['}', ';'] body | throw .noClosingBrace
  -- All segments but the last are modules.
  let parts := (ScopedName.segments declared).map Text.trim
  return {
    annotations := fragments '@' leading
    modules := parts.dropLast
    name := parts.getLast?.getD []
    members := fragments ';' inside }

/-- The fully-qualified name that is declared. -/
def fullName (declaration : Declaration) : Text :=
  ScopedName.ofSegments (declaration.modules ++ [declaration.name])

end Declaration
end IdlScout
