import IdlScout.Child.Process
import IdlScout.Detection.Topic
import IdlScout.Emission.Emitter
import IdlScout.Section.Decoder
import IdlScout.Session.Context
import IdlScout.Settings.Validity
import IdlScout.Text.Quoted

/-! A session: detections are taken from sections one by one, told to a receiver, and kept under
their names. -/

namespace IdlScout

/-- What was wrong with a file that could not be read as text. -/
inductive ReadFault where
  | path (fault : PathFault)
  | noText
  deriving Repr, DecidableEq

/-- Why a session fails. -/
inductive SessionFault where
  | settings (fault : SettingsFault)
  | captured (path : Text) (fault : ReadFault)
  | noExecutable
  | detection (fault : DetectionFault)
  | process (fault : ProcessFault)
  | output (fault : OutputFault)
  deriving Repr, DecidableEq

namespace SessionFault

/-- The wording of a fault, given the number of the child. -/
def message (number : Text) : SessionFault → Text
  | .settings fault => fault.message
  | .captured path _ => "Failed to read ".toList ++ path
  | .noExecutable => "failed to find types_scraper_cpp".toList
  | .detection fault => fault.message
  | .process fault => fault.message number
  | .output fault => fault.message

/-- The number that a failed child ended with. -/
def exitCode? : SessionFault → Option Int
  | .process fault => fault.exitCode?
  | _ => none

end SessionFault

/-- A session with its receiver, and what was detected so far. -/
structure Session (ρ : Type) where
  settings : Settings
  receiver : ρ
  context : Context := {}
  types : NameMap DetectedType := []
  topics : NameMap DetectedTopic := []
  /-- The receiver was told of the end. -/
  closed : Bool := false

/-- What a receiver does when it is told something. -/
abbrev Receiver (ρ : Type) := Notice → Act ρ OutputFault Unit

namespace Session

variable {ρ : Type}

/-- A step of a session. -/
abbrev Step (ρ α : Type) := Act (Session ρ) SessionFault α

/-- The event that tells of captured files. -/
def noteCaptured (settings : Settings) (world : World) : World :=
  if settings.captured.isEmpty then world
  else world.note .info .session
    ("pregenerated output: ".toList ++ Quoted.encodeList settings.captured)

/-- The event that tells of folders. -/
def noteDirectories (settings : Settings) (world : World) : World :=
  if settings.directories.isEmpty then world
  else world.note .info .session
    ("scanning directories: ".toList ++ Quoted.encodeList settings.directories)

/-- A session begins, unless its settings cannot be used. -/
def begin (settings : Settings) (receiver : ρ) (world : World) :
    Except SessionFault (Session ρ × World) :=
  match settings.check with
  | .error fault => .error (.settings fault)
  -- Only settings that can be used are logged.
  | .ok () =>
    .ok ({ settings, receiver }, noteDirectories settings (noteCaptured settings world))

/-- The receiver is told something. -/
def tell (react : Receiver ρ) (notice : Notice) : Step ρ Unit :=
  fun (session, world) =>
    let (result, receiver, world) := react notice (session.receiver, world)
    (result.mapError .output, { session with receiver }, world)

/-- The receiver is told of the start. -/
def start (react : Receiver ρ) : Step ρ Unit :=
  tell react .opened

/-- The event that tells of a type that was not understood. -/
def noteUnsupported (fullName idl : Text) : Step ρ Unit :=
  match Declaration.read idl with
  | .ok _ => pure ()
  | .error reason =>
    Act.note .debug .types reason.message [("fqname".toList, fullName)]

/-- A detection that was refused ends the step. -/
def accept {α : Type} : Except DetectionFault α → Step ρ α
  | .ok detected => pure detected
  | .error fault => throw (.detection fault)

/-- A section is read, the receiver is told of the detection, and it is kept. -/
def handle (react : Receiver ρ) (closed : Section) : Step ρ Unit :=
  match closed.kind with
  | .type => do
    let detected ← accept (DetectedType.ofJson closed.text)
    noteUnsupported detected.fullName detected.idl
    -- The receiver sees every detection, while the session keeps the last of each name.
    tell react (.type detected)
    Act.change fun session =>
      { session with types := NameMap.insert detected.fullName detected session.types }
  | .topic => do
    let detected ← accept (DetectedTopic.ofJson closed.text)
    noteUnsupported detected.type.fullName detected.type.idl
    tell react (.topic detected)
    Act.change fun session =>
      { session with topics := NameMap.insert detected.name detected session.topics }

/-- Sections are handled up to the first that is refused. -/
def handleAll (react : Receiver ρ) : List Section → Step ρ Unit
  | [] => pure ()
  | closed :: rest => do
    handle react closed
    handleAll react rest

/-- The event that tells of an anomaly. -/
def noteAnomaly (area : Area) (anomaly : Anomaly) : Step ρ Unit :=
  Act.note .warn area ("scraper output: ".toList ++ anomaly.message)

/-- Events that tell of anomalies. -/
def noteAnomalies : List LineResult → Step ρ Unit
  | [] => pure ()
  | result :: rest => do
    match result.anomaly? with
    | some anomaly => noteAnomaly .sections anomaly
    | none => pure ()
    noteAnomalies rest

/-- The text of a captured file. -/
def readCaptured (path : Text) : Step ρ Text := do
  match (← Act.world).tree.read path with
  | .error fault => throw (.captured path (.path fault))
  | .ok content =>
    match Utf8.decode? content with
    | some text => return text
    | none => throw (.captured path .noText)

/-- Captured files are replayed in order; one decoder reads them all. -/
def replay (react : Receiver ρ) (decoder : Decoder) : List Text → Step ρ Unit
  | [] => pure ()
  | path :: rest => do
    let text ← readCaptured path
    Act.note .debug .session "loading pregenerated output".toList [("path".toList, path)]
    -- A section may begin in one file and end in the next.
    let (results, decoder) := decoder.feedAll (Text.cut '\n' text)
    noteAnomalies results
    handleAll react (results.filterMap LineResult.section?)
    replay react decoder rest

/-- A line of the section stream is decoded, and a section that it closes is handled. -/
def decodeLine (react : Receiver ρ) (decoder : Decoder) (line : Text) : Step ρ Decoder := do
  let (result, decoder) := decoder.feed line
  match result with
  | .section closed => handle react closed
  | .anomaly anomaly => noteAnomaly .session anomaly
  | .nothing => pure ()
  return decoder

/-- The source of sections and that of other lines. -/
def slots (settings : Settings) : Nat × Nat :=
  if settings.swapOutputs then (1, 0) else (0, 1)

/-- A round of lines: its sections are handled, and other lines are logged. -/
def consume (react : Receiver ρ) (decoder : Decoder) (round : Round) : Step ρ Decoder := do
  let (sections, others) := slots (← Act.own).settings
  let decoder ← match round.get? sections with
    | some line => decodeLine react decoder line
    | none => pure decoder
  match round.get? others with
  | some line => Act.note .debug .session ("scraper: ".toList ++ line)
  | none => pure ()
  return decoder

/-- Rounds are consumed up to the first that fails. -/
def consumeAll (react : Receiver ρ) (decoder : Decoder) : List Round → Step ρ Decoder
  | [] => pure decoder
  | round :: rest => do
    let decoder ← consume react decoder round
    consumeAll react decoder rest

/-- A stop is requested; the first request is logged. -/
def requestStop : Step ρ Unit := do
  if !(← Act.own).context.stopped then
    Act.note .info .stopping "stop requested".toList
  Act.change fun session => { session with context := session.context.requestStop }

/-- A stop is requested and the receiver is told of the end with all that was detected, once. -/
def stop (react : Receiver ρ) : Step ρ Unit := do
  requestStop
  let session ← Act.own
  -- The receiver is told once, even if it failed then.
  if session.closed then return
  Act.change fun session => { session with closed := true }
  tell react (.closed session.types.values session.topics.values)

end Session
end IdlScout
