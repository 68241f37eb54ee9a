/-! Text as a list of code points, with the cuts and joins every reader here is built from. -/

namespace IdlScout

/-- Text is handled as its list of code points. -/
abbrev Text := List Char

/-- Content of files and streams. -/
abbrev Bytes := List UInt8

namespace Text

/-- Cutting at every occurrence of a character gives one piece more than there are occurrences. -/
def cut (mark : Char) : Text → List Text
  | [] => [[]]
  | c :: rest =>
    -- A mark closes the empty piece before it and opens the next.
    if c = mark then [] :: cut mark rest
    -- Any other character belongs to the first piece of what follows.
    else match cut mark rest with
      | [] => [[c]]
      | piece :: more => (c :: piece) :: more

/-- The walk behind `cutAll`: the first argument counts characters of a found mark still to pass. -/
def cutAllFrom (mark : Text) : Nat → Text → List Text
  | _, [] => [[]]
  -- The rest of a mark already found is passed over, so that marks never overlap.
  | skip + 1, _ :: rest => cutAllFrom mark skip rest
  | 0, c :: rest =>
    -- The mark's first character is taken here, which leaves one fewer to pass.
    if mark.isPrefixOf (c :: rest) then [] :: cutAllFrom mark (mark.length - 1) rest
    else match cutAllFrom mark 0 rest with
      | [] => [[c]]
      | piece :: more => (c :: piece) :: more

/-- Cutting at a non-empty mark takes its occurrences from the left, none overlapping another. -/
def cutAll (mark : Text) (text : Text) : List Text :=
  cutAllFrom mark 0 text

/-- Pieces are joined with a separator between neighbours. -/
def join (separator : Text) : List Text → Text
  | [] => []
  | [piece] => piece
  | piece :: more => piece ++ separator ++ join separator more

/-- Every occurrence of a non-empty text gives way to another. -/
def replace (old new text : Text) : Text :=
  join new (cutAll old text)

/-- The parts before and after the first occurrence of a character. -/
def breakAt? (mark : Char) : Text → Option (Text × Text)
  | [] => none
  | c :: rest =>
    if c = mark then some ([], rest)
    else (breakAt? mark rest).map fun (before, after) => (c :: before, after)

/-- The parts before and after the first occurrence of a mark. -/
def breakOn? (mark : Text) : Text → Option (Text × Text)
  -- Only the empty mark stands at the end of a text.
  | [] => if mark.isEmpty then some ([], []) else none
  | c :: rest =>
    if mark.isPrefixOf (c :: rest) then some ([], (c :: rest).drop mark.length)
    else (breakOn? mark rest).map fun (before, after) => (c :: before, after)

/-- The parts before and after the last character of a class. -/
def breakLast? (isMark : Char → Bool) : Text → Option (Text × Text)
  | [] => none
  | c :: rest =>
    match breakLast? isMark rest with
    -- A mark further on is later than one here.
    | some (before, after) => some (c :: before, after)
    | none => if isMark c then some ([], rest) else none

/-- What follows a text's beginning, if it begins so. -/
def stripPrefix? (start text : Text) : Option Text :=
  start.isPrefixOf? text

/-- What precedes a text's ending, if it ends so. -/
def stripSuffix? (ending text : Text) : Option Text :=
  ending.isSuffixOf? text

/-- An ending is removed once where it stands. -/
def dropSuffix (ending text : Text) : Text :=
  (stripSuffix? ending text).getD text

/-- Whether a text occurs in another. -/
def occursIn (part text : Text) : Bool :=
  (breakOn? part text).isSome

/-- Lines end at each line feed; a carriage return before it belongs to the ending, and an
empty last line is none. -/
def lines (text : Text) : List Text :=
  -- Every piece but the last was ended by a line feed.
  let pieces := cut '\n' text
  let ended := pieces.dropLast.map (dropSuffix ['\r'])
  match pieces.getLast? with
  -- Nothing after the last line feed is no line.
  | none | some [] => ended
  -- An unended last line keeps its carriage return.
  | some last => ended ++ [last]

/-- Text is ordered by its code points, which is also the order of its UTF-8 bytes. -/
def order : Text → Text → Ordering
  | [], [] => .eq
  | [], _ :: _ => .lt
  | _ :: _, [] => .gt
  | a :: as, b :: bs => if a = b then order as bs else if a.val < b.val then .lt else .gt

/-- A text stands before another in the order of code points. -/
def before (a b : Text) : Bool :=
  order a b == .lt

/-- Repeating a character. -/
def times (count : Nat) (c : Char) : Text :=
  List.replicate count c

/-- The first of each group of equal elements, in order, where equality may look at a key only. -/
def firstsBy {α : Type} (same : α → α → Bool) : List α → List α
  | [] => []
  | x :: rest => x :: (firstsBy same rest).filter fun y => !same x y

end Text

end IdlScout
