import IdlScout.Files.RawPath

/-! Settings of a run, how two sets of them are combined, and what they say about its inputs. -/

namespace IdlScout

/-- The middleware that reported types have to suit. -/
inductive Compatibility where
  | cyclone
  | connext
  deriving Repr, DecidableEq

/-- The name of a middleware. -/
def Compatibility.name : Compatibility → Text
  | .cyclone => "rmw_cyclonedds_cpp".toList
  | .connext => "rmw_connext_cpp".toList

/-- The middleware of a name. -/
def Compatibility.ofName? (name : Text) : Option Compatibility :=
  [.cyclone, .connext].find? (·.name == name)

/-- How topics of requests and replies are named. -/
inductive ReplyNaming where
  | basic
  | extended
  deriving Repr, DecidableEq

/-- The name of a naming scheme. -/
def ReplyNaming.name : ReplyNaming → Text
  | .basic => "basic".toList
  | .extended => "extended".toList

/-- The naming scheme of a name. -/
def ReplyNaming.ofName? (name : Text) : Option ReplyNaming :=
  [.basic, .extended].find? (·.name == name)

/-- The settings of a run. Paths that the child is told may have any bytes; all other paths, and the
names in a tree of files, are those that texts spell. -/
structure Settings where
  /-- Domains to join, each a number that a profile may follow. -/
  domains : List Text := []
  /-- Files with names of types. -/
  inputPaths : List RawPath := []
  /-- Files with captured output, which is taken first. -/
  captured : List Text := []
  /-- Folders to look for message files in. -/
  directories : List Text := []
  /-- A pattern for canonical names of types. -/
  filter : Option Text := none
  /-- A pattern for names of types as they are on the bus. -/
  rawFilter : Option Text := none
  /-- Mangled names are reported. -/
  mangle : Bool := false
  verbosity : Nat := 0
  compatibility : Option Compatibility := none
  replyNaming : Option ReplyNaming := none
  /-- The child writes sections where diagnostics are expected, and the other way round. -/
  swapOutputs : Bool := true
  /-- The longest wait for a line, in milliseconds. -/
  waitTimeout : Option Nat := none
  /-- The child's program, which is then not searched for. -/
  executablePath : Option RawPath := none
  deriving Repr, DecidableEq

namespace Settings

/-- The input that stands for standard input. -/
def standardInput : Text := ['-']

/-- The domain that is joined when nothing else is given. -/
def defaultDomain : Text := ['0']

/-- One domain, and otherwise the usual settings. -/
def forDomain (domain : Text) : Settings :=
  { domains := [domain] }

/-- Settings extended by others: lists grow, what the others set replaces, a flag that differs from
its usual value stays so, and the higher verbosity counts. -/
def merge (settings others : Settings) : Settings where
  domains := settings.domains ++ others.domains
  inputPaths := settings.inputPaths ++ others.inputPaths
  captured := settings.captured ++ others.captured
  directories := settings.directories ++ others.directories
  filter := others.filter <|> settings.filter
  rawFilter := others.rawFilter <|> settings.rawFilter
  -- The usual value is off, so either side can turn it on.
  mangle := settings.mangle || others.mangle
  verbosity := max settings.verbosity others.verbosity
  compatibility := others.compatibility <|> settings.compatibility
  replyNaming := others.replyNaming <|> settings.replyNaming
  -- The usual value is on, so either side can turn it off.
  swapOutputs := settings.swapOutputs && others.swapOutputs
  waitTimeout := others.waitTimeout <|> settings.waitTimeout
  executablePath := others.executablePath <|> settings.executablePath

/-- The files with names of types, as they are shown. -/
def inputs (settings : Settings) : List Text :=
  settings.inputPaths.map RawPath.shown

/-- The child's program as it is shown. -/
def executable (settings : Settings) : Option Text :=
  settings.executablePath.map RawPath.shown

/-- Whether there is anything to take types from. -/
def hasInput (settings : Settings) : Bool :=
  !(settings.domains.isEmpty && settings.inputs.isEmpty && settings.captured.isEmpty &&
    settings.directories.isEmpty)

/-- Without any input, the default domain is joined. -/
def withDefaultDomain (settings : Settings) : Settings :=
  if settings.hasInput then settings
  else { settings with domains := settings.domains ++ [defaultDomain] }

/-- Whether an input stands for standard input. -/
def isStandardInput (input : RawPath) : Bool :=
  RawPath.same input standardInput

/-- Whether standard input is one of the inputs. -/
def readsStandardInput (settings : Settings) : Bool :=
  settings.inputPaths.any isStandardInput

/-- The child is told one level less. -/
def childVerbosity (settings : Settings) : Nat :=
  settings.verbosity - 1

end Settings
end IdlScout
