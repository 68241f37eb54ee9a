import IdlScout.Text.Word

/-! Search patterns: their structure, how deep they nest, and the memory that matching takes. -/

namespace IdlScout

/-- A predefined class of characters. -/
inductive CharClass where
  | any
  | digit
  | space
  | word
  | property
  deriving Repr, DecidableEq

/-- A pattern. -/
inductive Pattern where
  | empty
  /-- A change of flags, which matches nothing by itself. -/
  | flags
  | literal (c : Char)
  | assertion
  | charClass (kind : CharClass)
  /-- A class in brackets, with the depth of its own nesting. -/
  | bracket (depth : Nat)
  | repetition (body : Pattern) (least : Nat) (most : Option Nat)
  | group (body : Pattern)
  | sequence (parts : List Pattern)
  | alternation (branches : List Pattern)
  deriving Repr

/-- Why a text is no pattern. -/
inductive PatternFault where
  | nothingToRepeat
  | badCount
  | unclosedGroup
  | unopenedGroup
  | badGroupName
  | repeatedGroupName
  | badFlags
  | lookAround
  | backreference
  | badEscape
  | badClass
  | unclosedClass
  | unknownProperty
  | notText
  | tooDeep
  | tooLarge
  deriving Repr, DecidableEq

/-- The wording of a fault. -/
def PatternFault.message : PatternFault → Text
  | .nothingToRepeat => "repetition operator missing expression".toList
  | .badCount => "malformed repetition count".toList
  | .unclosedGroup => "unclosed group".toList
  | .unopenedGroup => "unopened group".toList
  | .badGroupName => "malformed capture group name".toList
  | .repeatedGroupName => "duplicate capture group name".toList
  | .badFlags => "malformed flags".toList
  | .lookAround => "look-around is not supported".toList
  | .backreference => "backreferences are not supported".toList
  | .badEscape => "malformed escape sequence".toList
  | .badClass => "malformed character class".toList
  | .unclosedClass => "unclosed character class".toList
  | .unknownProperty => "Unicode property not found".toList
  | .notText => "pattern can match something that is no text".toList
  | .tooDeep => "pattern nests too deep".toList
  | .tooLarge => "pattern is too large".toList

namespace Pattern

/-- The pattern for parts one after the other. -/
def ofParts : List Pattern → Pattern
  | [] => .empty
  | [part] => part
  | parts => .sequence parts

/-- The pattern for branches to choose from. -/
def ofBranches : List Pattern → Pattern
  | [branch] => branch
  | branches => .alternation branches

/-- How deep a pattern nests. -/
def depth : Pattern → Nat
  | .bracket depth => depth
  | .repetition body _ _ => body.depth + 1
  | .group body => body.depth + 1
  | .sequence parts => depthOfAll parts + 1
  | .alternation branches => depthOfAll branches + 1
  | _ => 0
where
  /-- The deepest of several patterns. -/
  depthOfAll : List Pattern → Nat
    | [] => 0
    | pattern :: rest => max pattern.depth (depthOfAll rest)

/-- The deepest nesting that is accepted. -/
def depthLimit : Nat := 250

/-- Bytes that a state of the matcher takes. -/
def stateSize : Nat := 32

/-- Bytes that a class of characters takes, about. -/
def CharClass.size : CharClass → Nat
  | .any => 600
  | .digit => 6000
  | .space => 1300
  | .word => 48000
  | .property => 20000

/-- Bytes that the matcher of a pattern takes, about. -/
def size : Pattern → Nat
  | .empty | .flags => 0
  | .literal c => stateSize * c.utf8Size
  | .assertion => stateSize
  | .charClass kind => CharClass.size kind
  | .bracket _ => 4 * stateSize
  | .repetition body least most =>
    match most with
    -- A counted body is written out as often as it may come; each copy that may be missing costs a
    -- choice.
    | some most => max most 1 * body.size + (most - least) * stateSize
    -- The last copy of an endless repetition leads back to itself.
    | none => max least 1 * body.size + stateSize
  | .group body => body.size + 2 * stateSize
  | .sequence parts => sizeOfAll parts
  | .alternation branches => sizeOfAll branches + stateSize
where
  /-- The sizes of several patterns together. -/
  sizeOfAll : List Pattern → Nat
    | [] => 0
    | pattern :: rest => pattern.size + sizeOfAll rest

/-- The most bytes that a matcher may take. -/
def sizeLimit : Nat := 10485760

end Pattern
end IdlScout
