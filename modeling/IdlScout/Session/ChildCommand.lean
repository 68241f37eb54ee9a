import IdlScout.Settings.Basic

/-! The child's command line: which options settings turn into. -/

namespace IdlScout
namespace Settings

/-- An option with its value, if there is one. -/
def valueOption (option : String) : Option Text → List Text
  | some value => [option.toList, value]
  | none => []

/-- An option before each of several values. -/
def eachOption (option : String) (values : List Text) : List Text :=
  values.flatMap fun value => [option.toList, value]

/-- An option that is given or not. -/
def flagOption (option : String) (given : Bool) : List Text :=
  if given then [option.toList] else []

/-- The domains for the child, each once. -/
def childDomains (settings : Settings) : List Text :=
  Text.firstsBy (· == ·) settings.domains

/-- The input files for the child as they are shown, each path once; standard input is not among
them. -/
def childInputs (settings : Settings) : List Text :=
  -- Paths are told apart before they are shown, so one text may come twice.
  (RawPath.distinct (settings.inputPaths.filter fun input => !isStandardInput input)).map
    RawPath.shown

/-- The child's command line. With standard input open, the child reads names of types there. Paths
stand on it as they are shown. -/
def childCommand (settings : Settings) (executable : RawPath) (openInput : Bool) : List Text :=
  -- The order is fixed, and options without a value are left out.
  executable.shown ::
    flagOption "-W" settings.swapOutputs ++
    valueOption "-i" (if openInput then some standardInput else none) ++
    valueOption "-f" settings.filter ++
    valueOption "-F" settings.rawFilter ++
    List.replicate settings.childVerbosity "-v".toList ++
    valueOption "--compatibility-mode" (settings.compatibility.map (·.name)) ++
    valueOption "--request-reply-mapping" (settings.replyNaming.map (·.name)) ++
    flagOption "-m" settings.mangle ++
    eachOption "-d" settings.childDomains ++
    eachOption "-i" settings.childInputs

end Settings
end IdlScout
