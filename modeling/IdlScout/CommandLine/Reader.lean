import IdlScout.CommandLine.Option
import IdlScout.CommandLine.TimeLimit
import IdlScout.Settings.Validity

/-! Arguments read from left to right into choices. -/

namespace IdlScout

/-- What the arguments ask for. -/
structure Choices where
  /-- What is set for the session. -/
  settings : Settings := {}
  output : Option Text := none
  split : Bool := false
  flat : Bool := false
  append : Bool := false
  overwrite : Bool := false
  list : Bool := false
  topicsList : Option Text := none
  topicsOnly : Bool := false
  noIndent : Bool := false
  indentDepth : Nat := 0
  indentStep : Nat := 2
  yaml : Bool := false
  fixIdl : Bool := false
  exitAfter : Option TimeLimit := none
  settingsFile : Option Text := none
  deriving Repr, DecidableEq

/-- What is wrong with arguments. -/
inductive UsageFault where
  | unexpected (argument : Text)
  | missingValue (spec : OptionSpec)
  | unexpectedValue (spec : OptionSpec) (value : Text)
  | repeated (spec : OptionSpec)
  | badValue (spec : OptionSpec) (value reason : Text)
  | conflict (first second : OptionName)
  deriving Repr, DecidableEq

namespace UsageFault

/-- The wording of a fault. -/
def message : UsageFault → Text
  | .unexpected argument =>
    "unexpected argument '".toList ++ argument ++ "' found".toList
  | .missingValue spec =>
    "a value is required for '".toList ++ spec.shown ++ "' but none was supplied".toList
  | .unexpectedValue spec value =>
    "unexpected value '".toList ++ value ++ "' for '".toList ++ spec.shown ++
      "' found; no more were expected".toList
  | .repeated spec =>
    "the argument '".toList ++ spec.shown ++ "' cannot be used multiple times".toList
  | .badValue spec value reason =>
    "invalid value '".toList ++ value ++ "' for '".toList ++ spec.shown ++ "': ".toList ++ reason
  | .conflict first second =>
    "the argument '".toList ++ OptionSpec.shownName first ++ "' cannot be used with '".toList ++
      OptionSpec.shownName second ++ ['\'']

end UsageFault

/-- Why reading stops before its end. -/
inductive ReadingStop where
  | fault (fault : UsageFault)
  | help
  | version
  deriving Repr, DecidableEq

/-- A reader of arguments: the choices so far, the options that were given, and the one that waits
for its value. -/
structure ArgumentReader where
  choices : Choices := {}
  given : List OptionName := []
  waiting : Option OptionSpec := none
  deriving Repr, DecidableEq

namespace Choices

/-- A change of what is set for the session. -/
def set (choices : Choices) (f : Settings → Settings) : Choices :=
  { choices with settings := f choices.settings }

/-- A path has to have a name. -/
def path (spec : OptionSpec) (value : Text) : Except UsageFault Text :=
  if value.isEmpty then .error (.missingValue spec) else .ok value

/-- What is wrong with a numeral. -/
def numeralFault (value : Text) : Text :=
  let digits := Numeral.dropPlus value
  if value.isEmpty then "cannot parse integer from empty string".toList
  else if !digits.isEmpty && digits.all isAsciiDigit then
    "number too large to fit in target type".toList
  else "invalid digit found in string".toList

/-- A number of 64 bits. -/
def number (spec : OptionSpec) (value : Text) : Except UsageFault Nat :=
  match Numeral.read? Numeral.max64 value with
  | some n => .ok n
  | none => .error (.badValue spec value (numeralFault value))

/-- A value that is read in its own way, with the reason if it cannot be. -/
def special {α : Type} (spec : OptionSpec) (value : Text) :
    Except Text α → Except UsageFault α
  | .ok found => .ok found
  | .error reason => .error (.badValue spec value reason)

/-- A choice from an option and its value, which is empty if nothing follows the option. -/
def add (choices : Choices) (spec : OptionSpec) (value : Text) : Except UsageFault Choices := do
  match spec.name with
  | .domain =>
    return choices.set fun settings => { settings with domains := settings.domains ++ [value] }
  | .input =>
    let file ← path spec value
    return choices.set fun settings =>
      { settings with inputPaths := settings.inputPaths ++ [RawPath.ofText file] }
  | .captured =>
    let file ← path spec value
    return choices.set fun settings => { settings with captured := settings.captured ++ [file] }
  | .directory =>
    let folder ← path spec value
    return choices.set fun settings =>
      { settings with directories := settings.directories ++ [folder] }
  | .filter => return choices.set fun settings => { settings with filter := some value }
  | .rawFilter => return choices.set fun settings => { settings with rawFilter := some value }
  | .output => return { choices with output := some (← path spec value) }
  | .split => return { choices with split := true }
  | .flat => return { choices with flat := true }
  | .append => return { choices with append := true }
  | .overwrite => return { choices with overwrite := true }
  | .list => return { choices with list := true }
  | .mangle => return choices.set fun settings => { settings with mangle := true }
  | .topicsList => return { choices with topicsList := some (← path spec value) }
  | .topicsOnly => return { choices with topicsOnly := true }
  | .noIndent => return { choices with noIndent := true }
  | .indentDepth => return { choices with indentDepth := ← number spec value }
  | .indentStep => return { choices with indentStep := ← number spec value }
  | .yaml => return { choices with yaml := true }
  | .fixIdl => return { choices with fixIdl := true }
  | .exitAfter =>
    return { choices with exitAfter := some (← special spec value (TimeLimit.read value)) }
  | .verbose =>
    return choices.set fun settings =>
      { settings with verbosity := min (settings.verbosity + 1) Numeral.max8 }
  | .compatibility =>
    let found ← special spec value
      ((Compatibility.read value).mapError SettingsFault.message)
    return choices.set fun settings => { settings with compatibility := some found }
  | .replyNaming =>
    let found ← special spec value ((ReplyNaming.read value).mapError SettingsFault.message)
    return choices.set fun settings => { settings with replyNaming := some found }
  | .executable =>
    let file ← path spec value
    return choices.set fun settings =>
      { settings with executablePath := some (RawPath.ofText file) }
  | .settingsFile => return { choices with settingsFile := some (← path spec value) }
  | .help | .version => return choices

end Choices

namespace ArgumentReader

/-- An option that waits for its value gets none. -/
def settle (reader : ArgumentReader) : Except ReadingStop ArgumentReader :=
  match reader.waiting with
  | some spec => .error (.fault (.missingValue spec))
  | none => .ok reader

/-- An option is taken with its value. -/
def take (reader : ArgumentReader) (spec : OptionSpec) (value : Text) :
    Except ReadingStop ArgumentReader :=
  if spec.name = .help then .error .help
  else if spec.name = .version then .error .version
  -- A repetition is found before its value is looked at.
  else if !spec.isRepeatable && reader.given.contains spec.name then
    .error (.fault (.repeated spec))
  else
    match reader.choices.add spec value with
    | .error fault => .error (.fault fault)
    | .ok choices =>
      .ok { choices, given := reader.given ++ [spec.name], waiting := none }

/-- An option without a value of its own is taken, or waits for the next argument. -/
def openOption (reader : ArgumentReader) (spec : OptionSpec) :
    Except ReadingStop ArgumentReader := do
  -- An option before it that still waits for its value gets none.
  let reader ← reader.settle
  if spec.isBare then reader.take spec [] else return { reader with waiting := some spec }

/-- A long option, with the value after an equals sign if there is one. -/
def readLong (reader : ArgumentReader) (body : Text) : Except ReadingStop ArgumentReader :=
  let (name, value) := match Text.breakAt? '=' body with
    | some (name, value) => (name, some value)
    | none => (body, none)
  match OptionSpec.ofLong? name, value with
  -- An unknown option is reported even if one before it waits for a value.
  | none, _ => .error (.fault (.unexpected ("--".toList ++ name)))
  | some spec, none => reader.openOption spec
  | some spec, some value =>
    if spec.isBare then .error (.fault (.unexpectedValue spec value))
    else do (← reader.settle).take spec value

/-- An equals sign before a value says nothing. -/
def dropEquals : Text → Text
  | '=' :: rest => rest
  | text => text

/-- Short options one after the other; what follows one with a value is the value. -/
def readShort (reader : ArgumentReader) : Text → Except ReadingStop ArgumentReader
  | [] => .ok reader
  | c :: rest =>
    match OptionSpec.ofShort? c with
    | none => .error (.fault (.unexpected ['-', c]))
    | some spec =>
      if spec.isBare then do readShort (← reader.openOption spec) rest
      else if rest.isEmpty then reader.openOption spec
      else do (← reader.settle).take spec (dropEquals rest)

/-- An argument that is no option is the value of the one that waits. -/
def readValue (reader : ArgumentReader) (argument : Text) : Except ReadingStop ArgumentReader :=
  match reader.waiting with
  | some spec => reader.take spec argument
  | none => .error (.fault (.unexpected argument))

/-- Arguments are read one after the other; after two hyphens there are no options. -/
def readAll (reader : ArgumentReader) : List Text → Except ReadingStop ArgumentReader
  | [] => reader.settle
  | argument :: rest =>
    match argument with
    -- Nothing but options is expected, so after two hyphens nothing may follow.
    | ['-', '-'] =>
      match rest with
      | [] => reader.settle
      | extra :: _ => .error (.fault (.unexpected extra))
    | '-' :: '-' :: body => do readAll (← reader.readLong body) rest
    | '-' :: c :: body => do readAll (← reader.readShort (c :: body)) rest
    -- A lone hyphen is a value, as is the empty text.
    | _ => do readAll (← reader.readValue argument) rest

/-- Pairs of options that exclude each other. -/
def conflicts : List (OptionName × OptionName) :=
  [(.append, .overwrite), (.list, .mangle)]

/-- The choices of a reader that is done, unless two of them exclude each other. -/
def finish (reader : ArgumentReader) : Except ReadingStop Choices :=
  -- Only arguments that could all be read can exclude each other.
  match conflicts.find? fun (a, b) => reader.given.contains a && reader.given.contains b with
  | some (a, b) => .error (.fault (.conflict a b))
  | none => .ok reader.choices

end ArgumentReader

/-- The choices that arguments make. -/
def Choices.read (arguments : List Text) : Except ReadingStop Choices := do
  (← ArgumentReader.readAll {} arguments).finish

end IdlScout
