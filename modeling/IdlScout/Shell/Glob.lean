import IdlScout.Files.Tree

/-! Patterns of the command language: stars, question marks and classes in brackets. They describe
texts and the names of files. -/

namespace IdlScout
namespace Shell

/-- A character of an expanded word; a quoted one stands for itself. -/
abbrev Mark := Char × Bool

/-- The text of an expanded word. -/
def textOf (marks : List Mark) : Text :=
  marks.map Prod.fst

/-- Marks for a text. -/
def marksOf (quoted : Bool) (text : Text) : List Mark :=
  text.map fun c => (c, quoted)

/-- The characters of a class up to its closing bracket, which may come first, and what follows. -/
def classBody? : List Mark → Option (List Mark × List Mark)
  | [] => none
  -- A class is never empty, so a closing bracket at its start is a member.
  | (']', false) :: first :: rest =>
    match (first :: rest).findIdx? (· == (']', false)) with
    | some index =>
      some ((']', false) :: (first :: rest).take index, (first :: rest).drop (index + 1))
    | none => none
  | marks =>
    match marks.findIdx? (· == (']', false)) with
    | some index => some (marks.take index, marks.drop (index + 1))
    | none => none

/-- Whether a class holds a character. -/
def classHas (c : Char) : List Mark → Bool
  | (low, _) :: ('-', false) :: (high, _) :: rest => (low ≤ c && c ≤ high) || classHas c rest
  | (other, _) :: rest => other == c || classHas c rest
  | [] => false

/-- Whether a pattern describes the whole of a text; the first argument bounds the steps. -/
def matchesWithin : Nat → List Mark → Text → Bool
  | 0, _, _ => false
  | _, [], text => text.isEmpty
  | steps + 1, ('*', false) :: rest, text =>
    -- A star describes nothing, or one character and what it describes after that.
    matchesWithin steps rest text ||
      match text with
      | [] => false
      | _ :: more => matchesWithin steps (('*', false) :: rest) more
  | steps + 1, mark :: rest, c :: more =>
    if mark = ('?', false) then matchesWithin steps rest more
    else if mark = ('[', false) then
      let (negated, body) := match rest with
        | ('!', false) :: body => (true, body)
        | _ => (false, rest)
      match classBody? body with
      | some (inner, after) => classHas c inner != negated && matchesWithin steps after more
      -- A bracket that is not closed stands for itself.
      | none => c == '[' && matchesWithin steps rest more
    else mark.1 == c && matchesWithin steps rest more
  | _, _, [] => false

/-- Whether a pattern describes the whole of a text. -/
def isMatch (pattern : List Mark) (text : Text) : Bool :=
  matchesWithin (pattern.length + text.length + 1) pattern text

/-- What is left of a text when the shortest or the longest piece at an end that a pattern
describes is cut off. -/
def cutOff (atEnd longest : Bool) (pattern : List Mark) (text : Text) : Text :=
  let sizes := List.range (text.length + 1)
  -- The sizes are tried in order, so the first that fits is the shortest or the longest.
  let sizes := if longest then sizes.reverse else sizes
  let (piece, kept) : (Nat → Text) × (Nat → Text) :=
    if atEnd then
      (fun size => text.drop (text.length - size), fun size => text.take (text.length - size))
    else (fun size => text.take size, fun size => text.drop size)
  match sizes.find? fun size => isMatch pattern (piece size) with
  | some size => kept size
  | none => text

/-- A word may stand for the names of files. -/
def isPattern (marks : List Mark) : Bool :=
  marks.any fun mark => [('*', false), ('?', false), ('[', false)].contains mark

/-- The steps of a path with patterns. -/
def patternSteps (marks : List Mark) : List (List Mark) :=
  marks.foldr (fun mark steps =>
    if mark.1 = '/' then [] :: steps
    else match steps with
      | [] => [[mark]]
      | step :: rest => (mark :: step) :: rest) [[]]

/-- The names in the folder that a path leads to; the empty path leads to the home. -/
def namesIn (tree : FileTree) (path : Text) : List Text :=
  match tree.find (if path.isEmpty then ['.'] else path) with
  | .ok (location, .folder) => (tree.children location).map Prod.fst
  | _ => []

/-- The paths that steps lead to from a path; a name that starts with a point is described only by
a pattern that does so. -/
def pathsFrom (tree : FileTree) (path : Text) : List (List Mark) → List Text
  | [] => if tree.has path then [path] else []
  | step :: rest =>
    let names := if isPattern step then
        (namesIn tree path).filter fun name =>
          isMatch step name && (name.head? != some '.' || step.head?.any (·.1 == '.'))
      else [textOf step]
    names.flatMap fun name =>
      pathsFrom tree (path ++ name ++ if rest.isEmpty then [] else ['/']) rest

/-- The paths of files that a word describes, in order; a word that describes none stands for
itself. -/
def pathsOf (tree : FileTree) (marks : List Mark) : List Text :=
  if isPattern marks then
    match pathsFrom tree [] (patternSteps marks) with
    | [] => [textOf marks]
    | paths => paths.mergeSort fun a b => Text.order a b != .gt
  else [textOf marks]

end Shell
end IdlScout
