import IdlScout.Text.Basic

/-! The options of the command line: their names, and what follows them. -/

namespace IdlScout

/-- The options. -/
inductive OptionName where
  | domain
  | input
  | captured
  | directory
  | filter
  | rawFilter
  | output
  | split
  | flat
  | append
  | overwrite
  | list
  | mangle
  | topicsList
  | topicsOnly
  | noIndent
  | indentDepth
  | indentStep
  | yaml
  | fixIdl
  | exitAfter
  | verbose
  | compatibility
  | replyNaming
  | executable
  | settingsFile
  | help
  | version
  deriving Repr, DecidableEq

/-- What follows an option, and how often it may be given. -/
inductive OptionShape where
  /-- Nothing follows, and it is given once. -/
  | flag
  /-- Nothing follows, and each time counts. -/
  | count
  /-- A value follows, and it is given once. -/
  | value (label : Text)
  /-- A value follows each time. -/
  | values (label : Text)
  deriving Repr, DecidableEq

/-- An option with its spellings. -/
structure OptionSpec where
  name : OptionName
  long : Text
  short : Option Char
  shape : OptionShape
  /-- What it is for. -/
  purpose : Text
  deriving Repr, DecidableEq

namespace OptionSpec

/-- Nothing follows an option. -/
def isBare (spec : OptionSpec) : Bool :=
  match spec.shape with
  | .flag | .count => true
  | _ => false

/-- An option may be given again. -/
def isRepeatable (spec : OptionSpec) : Bool :=
  match spec.shape with
  | .count | .values _ => true
  | _ => false

/-- What follows an option, as help shows it. -/
def label (spec : OptionSpec) : Text :=
  match spec.shape with
  | .flag | .count => []
  | .value label | .values label => " <".toList ++ label ++ ['>']

/-- An option as messages show it. -/
def shown (spec : OptionSpec) : Text :=
  "--".toList ++ spec.long ++ spec.label

/-- An option from its parts. -/
def make (name : OptionName) (long : String) (short : Option Char) (shape : OptionShape)
    (purpose : String) : OptionSpec :=
  ⟨name, long.toList, short, shape, purpose.toList⟩

/-- All options. -/
def all : List OptionSpec :=
  [make .domain "domain" (some 'd') (.values "DOMAIN-ID[/QOS-PROFILE]".toList)
      "Join DOMAIN and detect types from discovery information (repeatable)",
    make .input "input" (some 'i') (.values "FILE".toList)
      "Read type names from FILE, or stdin for - (repeatable)",
    make .captured "parse" (some 'p') (.values "FILE".toList)
      "Parse output previously generated by types_scraper_cpp (repeatable)",
    make .directory "directory" (some 'D') (.values "DIR".toList)
      "Derive type names from .msg files below DIR (repeatable)",
    make .filter "filter" (some 'f') (.value "FILTER".toList)
      "Only consider ROS types whose canonical name matches this regex",
    make .rawFilter "raw-filter" (some 'F') (.value "RAW_FILTER".toList)
      "Only consider types whose raw DDS name matches this regex",
    make .output "output" (some 'o') (.value "FILE".toList)
      "Write output to FILE (base directory with --split) instead of stdout",
    make .split "split" none .flag "Write each detected type to its own file",
    make .flat "flat" none .flag
      "With --split, encode package names in file names instead of directories",
    make .append "append" (some 'a') .flag
      "Append to the output file, or add files to an existing directory",
    make .overwrite "overwrite" (some 'O') .flag
      "Overwrite existing output files and directories",
    make .list "list" (some 'l') .flag "Only list detected type names instead of their IDL",
    make .mangle "mangle" (some 'm') .flag
      "Report ROS types by their mangled name (e.g. my_types::msg::dds_::MyType_)",
    make .topicsList "topics-list" (some 'T') (.value "FILE".toList)
      "Write a JSON/YAML map of detected topics to FILE",
    make .topicsOnly "topics-only" none .flag "Only report topics",
    make .noIndent "no-indent" none .flag "Do not indent generated IDL (or JSON)",
    make .indentDepth "indent-depth" none (.value "DEPTH".toList)
      "Indentation depth added to generated IDL [default: 0]",
    make .indentStep "indent-step" none (.value "STEP".toList)
      "Size of each indentation step [default: 2]",
    make .yaml "yaml" none .flag "Generate YAML instead of JSON",
    make .fixIdl "fix-idl" none .flag
      "Clean up IDL that could not be regenerated structurally",
    make .exitAfter "exit-after" none (.value "TIME".toList)
      "Exit after TIME (seconds, or with an s/m/h suffix, e.g. 10m)",
    make .verbose "verbose" (some 'v') .count "Produce more logging output (repeat for more)",
    make .compatibility "compatibility-mode" none (.value "MODE".toList)
      "Generate types compatible with a ROS middleware",
    make .replyNaming "request-reply-mapping" none (.value "MAPPING".toList)
      "Naming scheme for request/reply topics",
    make .executable "executable" none (.value "PATH".toList)
      "Path to types_scraper_cpp (skips the LD_LIBRARY_PATH search)",
    make .settingsFile "config" none (.value "FILE".toList)
      "Load scraper settings from a TOML file (flags extend it)",
    make .help "help" (some 'h') .flag "Print help",
    make .version "version" (some 'V') .flag "Print version"]

/-- The option with a long spelling. -/
def ofLong? (long : Text) : Option OptionSpec :=
  all.find? (·.long == long)

/-- The option with a short spelling. -/
def ofShort? (short : Char) : Option OptionSpec :=
  all.find? (·.short == some short)

/-- The option of a name, as messages show it. -/
def shownName (name : OptionName) : Text :=
  ((all.find? (·.name == name)).map shown).getD []

end OptionSpec
end IdlScout
