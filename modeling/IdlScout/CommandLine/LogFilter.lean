import IdlScout.Text.Word
import IdlScout.World

/-! Which events of a log are shown. A filter has rules for areas by their paths; the one with the
longest path decides. -/

namespace IdlScout

/-- The path of an area, which rules name the beginning of. -/
def Area.path : Area → Text
  | .program => "types_scraper".toList
  | .discovery => "types_scraper::command".toList
  | .stopping => "types_scraper::context".toList
  | .sections => "types_scraper::decoder".toList
  | .types => "types_scraper::detected".toList
  | .output => "types_scraper::emitter".toList
  | .session => "types_scraper::scraper".toList

/-- A rule: events of areas whose path begins so are shown down to a level, or not at all. -/
structure LogRule where
  start : Text
  level : Option Level
  deriving Repr, DecidableEq

/-- Rules for events. -/
abbrev LogFilter := List LogRule

namespace LogRule

/-- Words and numbers for levels. -/
def levelNames : List (Text × Option Level) :=
  [("off".toList, none), ("error".toList, some .error), ("warn".toList, some .warn),
    ("info".toList, some .info), ("debug".toList, some .debug), ("trace".toList, some .trace),
    ("0".toList, none), ("1".toList, some .error), ("2".toList, some .warn),
    ("3".toList, some .info), ("4".toList, some .debug), ("5".toList, some .trace)]

/-- The level of a word of any case. -/
def level? (word : Text) : Option (Option Level) :=
  levelNames.lookup (word.map Char.toLower)

/-- The level after an equals sign; nothing there stands for all levels. -/
def levelAfter? (word : Text) : Option (Option Level) :=
  if word.isEmpty then some (some .trace) else level? word

/-- A character that a path can start with. -/
def startsPath (c : Char) : Bool :=
  isAlphanumeric c || c == '-' || c == ':' || c == '_'

/-- The end of a rule for events inside a span, after its opening bracket. -/
def isSpanRule (text : Text) : Bool :=
  match Text.breakAt? ']' text with
  | some (_, []) => true
  | some (_, '=' :: word) => (levelAfter? word).isSome
  | _ => false

/-- A rule is a level for all areas, or a path with or without a level; without one all is
shown. There are no spans, so a rule for one is read and then is about nothing. -/
def read? (text : Text) : Option (List LogRule) :=
  let path := text.takeWhile fun c => c != '=' && c != '['
  if !path.isEmpty && !path.head?.any startsPath then none
  else
    match text.drop path.length with
    | [] =>
      match level? path with
      -- A level alone is a rule for every area.
      | some level => some [⟨[], level⟩]
      | none => some [⟨path, some .trace⟩]
    | '[' :: span => if isSpanRule span then some [] else none
    | _ :: word =>
      if path.isEmpty then none else (levelAfter? word).map fun level => [⟨path, level⟩]

/-- A rule is about an event. -/
def concerns (rule : LogRule) (event : LogEvent) : Bool :=
  rule.start.isPrefixOf event.area.path

/-- A rule shows an event. -/
def admits (rule : LogRule) (event : LogEvent) : Bool :=
  match rule.level with
  | some level => event.level.rank ≤ level.rank
  | none => false

end LogRule

namespace LogFilter

/-- Rules are separated by commas; without any, errors are shown. -/
def read? (text : Text) : Option LogFilter := do
  let rules ← ((Text.cut ',' text).filter fun piece => !piece.isEmpty).mapM LogRule.read?
  return if rules.isEmpty then [⟨[], some .error⟩] else rules.flatten

/-- The rule of two that decides: the one with the longer path, or the later one. -/
def sharper (a b : LogRule) : LogRule :=
  -- Both begin the path of one area, so the longer says more.
  if a.start.length ≤ b.start.length then b else a

/-- The rule that decides about an event. -/
def ruleFor? (filter : LogFilter) (event : LogEvent) : Option LogRule :=
  match filter.filter fun rule => rule.concerns event with
  | [] => none
  | first :: rest => some (rest.foldl sharper first)

/-- An event is shown. -/
def admits (filter : LogFilter) (event : LogEvent) : Bool :=
  match filter.ruleFor? event with
  | some rule => rule.admits event
  | none => false

/-- The filter for a verbosity. -/
def forVerbosity (verbosity : Nat) : LogFilter :=
  [⟨[], some (match verbosity with
    | 0 => .warn
    | 1 => .info
    | _ => .debug)⟩]

end LogFilter
end IdlScout
