import IdlScout.CommandLine.LogFilter
import IdlScout.CommandLine.Reader
import IdlScout.Session.Run
import IdlScout.Settings.Reading

/-! The whole program: from arguments to files, output, messages and the number it ends with. -/

namespace IdlScout

/-- What the program is started with. -/
structure Invocation where
  arguments : List Text
  input : Bytes := []
  environment : List (Text × Text) := []
  deriving Repr, DecidableEq

/-- A line of messages: the start of a log event, or any other. -/
inductive MessageLine where
  | event (text : Text)
  | plain (text : Text)
  deriving Repr, DecidableEq

/-- How the program ended. -/
structure Report where
  exitCode : Nat
  messages : List MessageLine
  world : World
  deriving Repr

/-- What went wrong, with what the program was doing and the causes, the nearest first. -/
structure Failure where
  activity : Text
  causes : List Text
  deriving Repr, DecidableEq

namespace Failure

/-- A cause with its number, or without one if it is alone; further lines of it stand below. -/
def causeLines (number : Option Nat) (cause : Text) : List Text :=
  let (first, later) := match number with
    | some n => ("    ".toList ++ Numeral.write n ++ ": ".toList, Text.times 7 ' ')
    | none => (Text.times 4 ' ', Text.times 4 ' ')
  match Text.cut '\n' cause with
  | [] => []
  | line :: rest => (first ++ line) :: rest.map (later ++ ·)

/-- The lines that tell of a failure. -/
def lines (failure : Failure) : List Text :=
  let causes := match failure.causes with
    | [] => []
    | [cause] => [] :: "Caused by:".toList :: causeLines none cause
    | causes =>
      [] :: "Caused by:".toList ::
        causes.zipIdx.flatMap fun (cause, index) => causeLines (some index) cause
  Text.cut '\n' ("Error: ".toList ++ failure.activity) ++ causes

end Failure

/-- The wording of a launch that failed. -/
def LaunchFault.message : LaunchFault → Text
  | .path fault => fault.message
  | .forbidden => "Permission denied (os error 13)".toList
  | .noProgram => "Exec format error (os error 8)".toList

/-- The wording of a file that could not be read. -/
def ReadFault.message : ReadFault → Text
  | .path fault => fault.message
  | .noText => "stream did not contain valid UTF-8".toList

/-- What a fault of a session came from. -/
def SessionFault.sources : SessionFault → List Text
  | .captured _ fault => [fault.message]
  | .process (.launch _ fault) => [fault.message]
  | .process (.forwarding _) => ["write failed".toList]
  | .output (.unusable fault) => [fault.message]
  | .detection (.record _) => ["the text is not a record".toList]
  | _ => []

/-- The causes that settings could not be loaded for. -/
def LoadFault.causes : LoadFault → List Text
  | .unreadable fault => ["I/O error: ".toList ++ fault.message, fault.message]
  | .notText =>
    let text := ReadFault.noText.message
    ["I/O error: ".toList ++ text, text]
  | .malformed => ["TOML parse error".toList]
  | .invalid fault => [fault.message]

namespace Choices

/-- How generated interface text is laid out. -/
def layout (choices : Choices) : Layout :=
  { indent := !choices.noIndent, depth := choices.indentDepth, step := choices.indentStep }

/-- The format of a map of topics. -/
def mapFormat (choices : Choices) : MapFormat :=
  if choices.yaml then .yaml
  else .json (if choices.noIndent then .compact else .indented choices.indentStep)

/-- Where the main output goes. -/
def mainOutput (choices : Choices) : OutputOptions :=
  { path := choices.output, append := choices.append, overwrite := choices.overwrite }

/-- The receiver of topics beside the main one. -/
def topicsEmitter (choices : Choices) (path : Text) : Emitter :=
  { kind := .topics choices.mapFormat []
    target := { options := { path := some path, overwrite := choices.overwrite } } }

/-- The receiver of types and topics as interface text. -/
def idlEmitter (choices : Choices) : Emitter :=
  { kind := .idl choices.layout choices.fixIdl
    target := { options :=
      { choices.mainOutput with split := choices.split, flat := choices.flat } } }

/-- The receivers: names alone, topics alone, or interface text and topics if they are wanted. -/
def emitters (choices : Choices) : List Emitter :=
  -- A list is written alone, whatever else was chosen.
  if choices.list then
    [{ kind := .list choices.topicsOnly, target := { options := choices.mainOutput } }]
  else if choices.topicsOnly then
    let options :=
      -- A file for topics takes the place of the main one.
      { choices.mainOutput with path := choices.topicsList <|> choices.output }
    [{ kind := .topics choices.mapFormat [], target := { options } }]
  -- Topics come first, so an output that cannot be opened stops the other before it is made.
  else (choices.topicsList.map choices.topicsEmitter).toList ++ [choices.idlEmitter]

end Choices

namespace Program

/-- The name and the version. -/
def versionLine : Text := "types-scraper 0.3.0\n".toList

/-- The help text. -/
def helpText : Text :=
  let entry (spec : OptionSpec) : Text :=
    let short := match spec.short with
      | some c => ['-', c] ++ ", ".toList
      | none => Text.times 4 ' '
    Text.times 2 ' ' ++ short ++ spec.shown ++ "\n          ".toList ++ spec.purpose ++ ['\n']
  let about :=
    "Inspect a DDS domain (or your local filesystem), and dump all detected ROS types to IDL"
  about.toList ++ "\n\nUsage: types-scraper [OPTIONS]\n\nOptions:\n".toList ++
    OptionSpec.all.flatMap entry

/-- The variable that holds a filter for the log. -/
def filterVariable : Text := "RUST_LOG".toList

/-- The filter that a variable holds, or else the one for a verbosity. -/
def logFilter (invocation : Invocation) (settings : Settings) : LogFilter :=
  match (invocation.environment.lookup filterVariable).bind LogFilter.read? with
  | some filter => filter
  | none => LogFilter.forVerbosity settings.verbosity

/-- A character of a wording in the log. What a terminal would obey is written as an escape. -/
def logChar (c : Char) : Text :=
  if [0x07, 0x08, 0x0C, 0x1B, 0x7F].contains c.toNat then
    "\\x".toList ++ [Nat.digitChar (c.toNat / 16), Nat.digitChar (c.toNat % 16)]
  else if 0x80 ≤ c.toNat && c.toNat ≤ 0x9F then
    "\\u\x7b".toList ++ Nat.toDigits 16 c.toNat ++ ['\x7d']
  else [c]

/-- An event with its named values after the wording. -/
def eventText (event : LogEvent) : Text :=
  event.level.word ++ [' '] ++ event.message.flatMap logChar ++
    event.fields.flatMap fun (name, value) => [' '] ++ name ++ ['='] ++ value

/-- An event as lines of messages; only the first shows that it is one. -/
def eventLines (event : LogEvent) : List MessageLine :=
  match Text.cut '\n' (eventText event) with
  | [] => []
  | first :: rest => .event first :: rest.map .plain

/-- The lines of the events that a filter shows. -/
def logLines (filter : LogFilter) (world : World) : List MessageLine :=
  (world.log.filter filter.admits).flatMap eventLines

/-- What stops a run from outside, under a time limit: events to be logged if a stop is requested
while a child waits. -/
abbrev StopRule (κ : Type) :=
  Option TimeLimit → κ → World → Option (List LogEvent)

/-- The child interrupted the program. -/
def wasInterrupted (live : LiveChild) : Bool :=
  live.program.sent.contains Signal.interrupt

/-- The child waits longer than the time limit allows. -/
def isOverdue (limit : TimeLimit) (live : LiveChild) : Bool :=
  match live.program.pause with
  | some (.moment time) => limit.seconds * Shell.second ≤ time
  | some .input => true
  | none => false

/-- A run is stopped by an interruption, or when its time is over. -/
def stopWhen (limit : Option TimeLimit) (live : LiveChild) (_ : World) : Option (List LogEvent) :=
  if wasInterrupted live then
    some [⟨.info, .program, "Received Ctrl+C, shutting down...".toList, []⟩]
  else
    match limit with
    | some limit =>
      if isOverdue limit live then
        some [⟨.info, .program, "terminating after ".toList ++ limit.text, []⟩]
      else none
    | none => none

/-- A step of the session, with what the program was doing if it fails. -/
def during {ρ : Type} (activity : String) (step : Session.Step ρ Unit) :
    Act (Session ρ) Failure Unit :=
  fun state =>
    let (result, state) := step state
    (result.mapError fun fault =>
      ⟨activity.toList, fault.message Shell.ownNumber :: fault.sources⟩, state)

section Running

variable {κ : Type} [ChildKind κ]

/-- The session from its start to its end. -/
def runSession (around : Surroundings κ) : Act (Session (List Emitter)) Failure Unit := do
  during "Failed to open output" (Session.start Emitter.reactAll)
  during "Scraper failed" (Session.run Emitter.reactAll around)
  during "Failed to write output" (Session.stop Emitter.reactAll)

/-- The event that tells of a time limit. -/
def noteLimit (limit : Option TimeLimit) (world : World) : World :=
  match limit with
  | some limit => world.note .info .program ("running for ".toList ++ limit.text)
  | none => world

/-- The event that tells that the usual domain is joined. -/
def noteDefaultDomain (settings : Settings) (world : World) : World :=
  if settings.hasInput then world
  else world.note .info .program
    ("no input specified, joining DDS domain ".toList ++ Settings.defaultDomain)

/-- What surrounds the session of some arguments. -/
def surroundings (rule : StopRule κ) (invocation : Invocation) (choices : Choices) :
    Surroundings κ where
  environment := invocation.environment
  input := invocation.input
  stopWhen := rule choices.exitAfter

/-- The program once its settings are known. -/
def execute (rule : StopRule κ) (invocation : Invocation) (choices : Choices)
    (settings : Settings) (world : World) : Except Failure Unit × World :=
  let world := noteDefaultDomain settings world
  match Session.begin settings.withDefaultDomain choices.emitters world with
  | .error fault =>
    (.error ⟨"Invalid scraper configuration".toList, [fault.message []]⟩, world)
  | .ok (session, world) =>
    let (result, _, world) := runSession (surroundings rule invocation choices)
      (session, noteLimit choices.exitAfter world)
    (result, world)

/-- The settings of a file, if one is chosen, extended by those of the arguments. -/
def settingsOf (choices : Choices) (world : World) : Except Failure Settings :=
  match choices.settingsFile with
  | none => .ok (({} : Settings).merge choices.settings)
  | some path =>
    match Settings.load world.tree path with
    | .ok settings => .ok (settings.merge choices.settings)
    | .error fault => .error ⟨"Failed to load ".toList ++ path, fault.causes⟩

/-- The lines that tell of a failure. -/
def failureLines (failure : Failure) : List MessageLine :=
  failure.lines.map .plain

/-- The lines that tell of arguments that cannot be used. -/
def usageLines (fault : UsageFault) : List MessageLine :=
  (Text.cut '\n' ("error: ".toList ++ fault.message) ++
    [[], "For more information, try '--help'.".toList]).map .plain

/-- The program from its arguments to its end, with children of some kind. -/
def runWith (rule : StopRule κ) (invocation : Invocation) (world : World) : Report :=
  match Choices.read invocation.arguments with
  | .error .help => ⟨0, [], world.print (Utf8.encode helpText)⟩
  | .error .version => ⟨0, [], world.print (Utf8.encode versionLine)⟩
  | .error (.fault fault) => ⟨2, usageLines fault, world⟩
  | .ok choices =>
    match settingsOf choices world with
    | .error failure => ⟨1, failureLines failure, world⟩
    | .ok settings =>
      let (result, world) := execute rule invocation choices settings world
      -- The file of settings has a say in what is logged.
      let log := logLines (logFilter invocation settings) world
      match result with
      | .ok () => ⟨0, log, world⟩
      | .error failure => ⟨1, log ++ failureLines failure, world⟩

end Running

/-- The program from its arguments to its end. -/
def run : Invocation → World → Report :=
  runWith stopWhen

end Program
end IdlScout
