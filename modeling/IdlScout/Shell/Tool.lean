import IdlScout.Shell.Format
import IdlScout.Shell.State

/-! The tools that work on streams. -/

namespace IdlScout
namespace Shell

/-- The longest sleep, in nanoseconds. -/
def endless : Nat := 1000000000 * second

/-- Seconds with decimals and a unit, in nanoseconds; the words for no end make the longest
sleep. -/
def nanoseconds? (text : Text) : Option Nat :=
  let whole := text.takeWhile isAsciiDigit
  let rest := text.drop whole.length
  let (decimals, unit) := match rest with
    | '.' :: more => (more.takeWhile isAsciiDigit, more.dropWhile isAsciiDigit)
    | _ => ([], rest)
  let scale? : Option Nat := match String.ofList unit with
    | "" | "s" => some 1
    | "m" => some 60
    | "h" => some 3600
    | "d" => some 86400
    | _ => none
  if ["infinity".toList, "inf".toList].contains text then some endless
  else if whole.isEmpty && decimals.isEmpty then none
  else scale?.map fun scale =>
    scale * (Numeral.value whole * second +
      Numeral.value ((decimals ++ Text.times 9 '0').take 9))

/-- How a tool words that a path cannot be read. -/
def readComplaint : PathFault → Text
  | .notFolder => "Not a directory".toList
  | .isFolder => "Is a directory".toList
  | .tooManyLinks => "Too many levels of symbolic links".toList
  | .tooLong => "File name too long".toList
  | .missing | .taken | .unusable => "No such file or directory".toList

namespace State

/-- A tool says what is wrong, and fails. -/
def toolComplain (state : State) (name : String) (complaint : Text) : State :=
  (state.say 2 (name.toList ++ ": ".toList ++ complaint ++ ['\n'])).withStatus 1

/-- A tool that cannot be used so points to its help. -/
def toolRefuse (state : State) (name : String) (complaint : Text) : State :=
  let refused := state.toolComplain name complaint
  refused.say 2 ("Try '".toList ++ name.toList ++ " --help' for more information.\n".toList)

/-- Everything that can be read is written, and more awaited, before other files come. -/
def copyInput (state : State) (paths : List Text) : State :=
  let (bytes, more) := state.readable 0
  let copied := (state.consume 0 bytes.length).write 1 bytes
  -- The tool goes on with itself when more has come.
  if more then { copied.push [.tool "cat".toList (['-'] :: paths)] with pause := some .input }
  else copied.push [.tool "cat".toList ("--".toList :: paths)]

/-- The files that are named are written, one after the other; a hyphen stands for what can be
read. A file that cannot be read makes the tool fail in the end. -/
def copyFiles (state : State) : List Text → State
  | [] => state
  | path :: rest =>
    if path = ['-'] then state.copyInput rest
    else
      match state.tree.read path with
      | .ok content => (state.write 1 content).copyFiles rest
      | .error fault =>
        (state.toolComplain "cat" (path ++ ": ".toList ++ readComplaint fault)).copyFiles rest

/-- What a format writes comes out, and then what is wrong with it. -/
def writeFormat (state : State) (place : EscapePlace) (say : State → FormatFault → State)
    (format : Text) (arguments : List Text) : State :=
  let printed := formatAll place format (arguments.length + 1) arguments
  -- Arguments that are too many are mentioned by the tool alone.
  let faults := printed.faults.filter fun fault => place.ofTool || fault.isFailure
  let told := faults.foldl say (state.write 1 printed.bytes)
  told.withStatus <|
    if faults.any FormatFault.isFatal && !place.ofTool then 2
    else if faults.any FormatFault.isFailure then 1 else 0

/-- The words of a line and its options: whether it is ended, and whether escapes are read. -/
def echoOptions (ended escapes : Bool) : List Text → Bool × Bool × List Text
  | ('-' :: letter :: letters) :: words =>
    if (letter :: letters).all "neE".toList.contains then
      let last := (letter :: letters).foldl (fun reads c =>
        if c = 'e' then true else if c = 'E' then false else reads) escapes
      echoOptions (ended && !(letter :: letters).contains 'n') last words
    else (ended, escapes, ('-' :: letter :: letters) :: words)
  | words => (ended, escapes, words)

/-- A tool works until it is done or waits. -/
def useTool (state : State) (name : Text) (arguments : List Text) : State :=
  match String.ofList name with
  | "true" => state.withStatus 0
  | "false" => state.withStatus 1
  | "cat" =>
    match arguments with
    | [] => (state.withStatus 0).copyInput []
    | ['-', '-'] :: paths => state.copyFiles paths
    | ['-'] :: paths => state.copyInput paths
    | paths => (state.withStatus 0).copyFiles (paths.filter (· != "-u".toList))
  | "echo" =>
    let (ended, escapes, words) := echoOptions true false arguments
    let line := if escapes then echoEscaped true ended words else echoPlain ended words
    (state.write 1 line).withStatus 0
  | "printf" =>
    let arguments := if arguments.head? = some "--".toList then arguments.drop 1 else arguments
    match arguments with
    | [] => state.toolRefuse "printf" "missing operand".toList
    | format :: arguments =>
      state.writeFormat ⟨true, false⟩ (fun state fault =>
        state.toolComplain "printf" fault.toolMessage) format arguments
  | "sleep" =>
    match arguments.find? fun word => (nanoseconds? word).isNone with
    | some word =>
      state.toolRefuse "sleep" ("invalid time interval '".toList ++ word ++ ['\''])
    | none =>
      if arguments.isEmpty then state.toolRefuse "sleep" "missing operand".toList
      else
        let length := (arguments.filterMap nanoseconds?).foldl (· + ·) 0
        { state.withStatus 0 with pause := some (.moment (state.clock + length)) }
  | _ => state.withStatus 127

end State
end Shell
end IdlScout
