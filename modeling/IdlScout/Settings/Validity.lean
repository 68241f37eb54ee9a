import IdlScout.Pattern.Reader
import IdlScout.Settings.Basic

/-! Which settings can be used, and the wording of what is wrong with others. -/

namespace IdlScout

/-- The names that a pattern is matched with. -/
inductive FilterKind where
  | canonical
  | raw
  deriving Repr, DecidableEq

/-- The name of a filter. -/
def FilterKind.name : FilterKind → Text
  | .canonical => "filter".toList
  | .raw => "raw filter".toList

/-- Why settings cannot be used. -/
inductive SettingsFault where
  | badDomain (domain : Text)
  | badFilter (kind : FilterKind) (pattern reason : Text)
  | noTimeout
  | unknownCompatibility (name : Text)
  | unknownReplyNaming (name : Text)
  deriving Repr, DecidableEq

namespace SettingsFault

/-- What is wrong. -/
def reason : SettingsFault → Text
  | .badDomain domain =>
    "Invalid domain '".toList ++ domain ++ "': expected DOMAIN-ID[/QOS-PROFILE]".toList
  | .badFilter kind pattern reason =>
    "Invalid ".toList ++ kind.name ++ " '".toList ++ pattern ++ "': ".toList ++ reason
  | .noTimeout => "Wait timeout must be greater than zero".toList
  | .unknownCompatibility name => "invalid compatibility mode: ".toList ++ name
  | .unknownReplyNaming name => "invalid request/reply mapping: ".toList ++ name

/-- The wording of a fault. -/
def message (fault : SettingsFault) : Text :=
  "Invalid configuration: ".toList ++ fault.reason

end SettingsFault

/-- The middleware that a text names. -/
def Compatibility.read (text : Text) : Except SettingsFault Compatibility :=
  match ofName? text with
  | some found => .ok found
  | none => .error (.unknownCompatibility text)

/-- The naming scheme that a text names. -/
def ReplyNaming.read (text : Text) : Except SettingsFault ReplyNaming :=
  match ofName? text with
  | some found => .ok found
  | none => .error (.unknownReplyNaming text)

namespace Settings

/-- A domain is named by what stands before its first slash. -/
def domainNumber (domain : Text) : Text :=
  domain.takeWhile (· != '/')

/-- A domain has a number of 32 bits. -/
def isDomain (domain : Text) : Bool :=
  (Numeral.read? Numeral.max32 (domainNumber domain)).isSome

/-- The first domain without a number. -/
def domainFault? (settings : Settings) : Option SettingsFault :=
  (settings.domains.find? fun domain => !isDomain domain).map .badDomain

/-- What is wrong with a filter, given what is wrong with patterns. -/
def filterFault? (patternFault? : Text → Option Text) (kind : FilterKind) (filter : Option Text) :
    Option SettingsFault := do
  let pattern ← filter
  let reason ← patternFault? pattern
  return .badFilter kind pattern reason

/-- A wait of no length is none. -/
def timeoutFault? (settings : Settings) : Option SettingsFault :=
  if settings.waitTimeout = some 0 then some .noTimeout else none

/-- The first fault of settings, given what is wrong with patterns: domains in their order, then
the filters, then the wait. -/
def faultBy? (patternFault? : Text → Option Text) (settings : Settings) : Option SettingsFault :=
  -- The first fault found is the one reported.
  settings.domainFault? <|> filterFault? patternFault? .canonical settings.filter <|>
    filterFault? patternFault? .raw settings.rawFilter <|> settings.timeoutFault?

/-- What is wrong with a pattern. -/
def patternFault? (pattern : Text) : Option Text :=
  match Pattern.read pattern with
  | .ok _ => none
  | .error fault => some fault.message

/-- The first fault of settings. -/
def fault? (settings : Settings) : Option SettingsFault :=
  settings.faultBy? patternFault?

/-- Settings without a fault. -/
def check (settings : Settings) : Except SettingsFault Unit :=
  match settings.fault? with
  | some fault => .error fault
  | none => .ok ()

end Settings
end IdlScout
