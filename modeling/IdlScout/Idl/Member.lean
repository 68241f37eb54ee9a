import IdlScout.Idl.ScopedName
import IdlScout.Text.Word

/-! Member declarations: their annotations, their type, the type they refer to, and the names
they must not declare. -/

namespace IdlScout
namespace Member

/-- Words of the interface language that no member may be called. -/
def reservedNames : List Text := ["sequence".toList, "struct".toList]

/-- A character that can stand in the name of an annotation. -/
def isAnnotationChar (c : Char) : Bool :=
  isAlphanumeric c || c == '_' || c == ':'

/-- What follows the bracket that closes the first one, or nothing if none does. -/
def afterBrackets : Nat → Text → Text
  -- Without a closing bracket nothing is left to declare.
  | _, [] => []
  | depth, c :: rest =>
    if c = '(' then afterBrackets (depth + 1) rest
    else if c = ')' then
      -- The bracket opened first is closed, and what it held is passed.
      if depth ≤ 1 then rest else afterBrackets (depth - 1) rest
    else afterBrackets depth rest

/-- What follows the name and the arguments of an annotation. -/
def annotationRest (text : Text) : Text :=
  let tail := Text.trimStart (text.dropWhile isAnnotationChar)
  match tail with
  -- Arguments follow the name, with or without blanks between.
  | '(' :: _ => Text.trimStart (afterBrackets 0 tail)
  | _ => tail

theorem length_dropWhile_le (p : Char → Bool) (text : Text) :
    (text.dropWhile p).length ≤ text.length := by
  -- Dropping characters leaves a suffix.
  exact (List.dropWhile_suffix p).length_le

theorem length_afterBrackets_le (depth : Nat) (text : Text) :
    (afterBrackets depth text).length ≤ text.length := by
  -- Each character read is left behind.
  induction text generalizing depth with
  | nil => simp [afterBrackets]
  | cons c rest ih =>
    unfold afterBrackets
    split
    · exact Nat.le_succ_of_le (ih _)
    · split
      · split
        · simp
        · exact Nat.le_succ_of_le (ih _)
      · exact Nat.le_succ_of_le (ih _)

theorem length_annotationRest_le (text : Text) :
    (annotationRest text).length ≤ text.length := by
  -- Name, blanks and arguments are all cut from the front.
  have named : (Text.trimStart (text.dropWhile isAnnotationChar)).length ≤ text.length :=
    Nat.le_trans (length_dropWhile_le _ _) (length_dropWhile_le _ _)
  unfold annotationRest
  dsimp only
  split
  · exact Nat.le_trans (length_dropWhile_le _ _)
      (Nat.le_trans (length_afterBrackets_le _ _) named)
  · exact named

/-- The text after the leading annotations of a text that starts with no blank. -/
def afterAnnotations : Text → Text
  | '@' :: rest => afterAnnotations (annotationRest rest)
  | text => text
termination_by text => text.length
decreasing_by
  exact Nat.lt_succ_of_le (length_annotationRest_le rest)

/-- A member without the annotations before it. -/
def stripAnnotations (member : Text) : Text :=
  afterAnnotations (Text.trim member)

/-- The type of a member is all but its last word. -/
def typeText (member : Text) : Text :=
  let declared := stripAnnotations member
  match Text.breakLastBlank? declared with
  | some (type, _) => Text.trim type
  | none => declared

/-- The walk behind `stripBound`: the part before the last comma outside angle brackets. -/
def beforeLastComma : Nat → Text → Option Text
  | _, [] => none
  | depth, c :: rest =>
    let inner :=
      if c = '<' then depth + 1 else if c = '>' then depth - 1 else depth
    match beforeLastComma inner rest with
    | some kept => some (c :: kept)
    | none => if c = ',' && depth == 0 then some [] else none

/-- Template arguments without the bound that follows their last outer comma. -/
def stripBound (arguments : Text) : Text :=
  Text.trim ((beforeLastComma 0 arguments).getD arguments)

/-- The arguments of a sequence type. -/
def sequenceArguments? (type : Text) : Option Text := do
  let rest ← Text.stripPrefix? "sequence<".toList type
  Text.stripSuffix? ['>'] rest

/-- Every sequence around the element is opened; each opening shortens the text. -/
def innermostFrom : Nat → Text → Text
  | 0, type => type
  | fuel + 1, type =>
    match sequenceArguments? type with
    | some arguments => innermostFrom fuel (stripBound arguments)
    | none => type

/-- The element type inside any number of sequences. -/
def innermost (type : Text) : Text :=
  innermostFrom type.length (Text.trim type)

/-- The scoped type that a member refers to, if it refers to one. -/
def reference? (member : Text) : Option Text :=
  let type := innermost (typeText member)
  if ScopedName.isScoped type then some type else none

/-- A member whose name is reserved gets an underscore after it. -/
def renameReserved (member : Text) : Text :=
  match Text.breakLastBlank? member with
  | some (type, name) =>
    if reservedNames.contains name then Text.trimEnd type ++ [' '] ++ name ++ ['_'] else member
  | none => member

end Member
end IdlScout
