import IdlScout.Text.Basic

/-! The lines that bracket the sections of a report. -/

namespace IdlScout

/-- What a section reports. -/
inductive SectionKind where
  | type
  | topic
  deriving Repr, DecidableEq

/-- The word for a kind of section. -/
def SectionKind.word : SectionKind → Text
  | .type => "type".toList
  | .topic => "topic".toList

/-- A line that opens or closes a section. -/
inductive Marker where
  | opening (kind : SectionKind)
  | closing (kind : SectionKind)
  deriving Repr, DecidableEq

namespace Marker

/-- The text that a marker's line starts with. -/
def text : Marker → Text
  | .opening kind => ">>> ".toList ++ kind.word
  | .closing kind => "<<< ".toList ++ kind.word

/-- All markers. -/
def all : List Marker :=
  [.opening .type, .closing .type, .opening .topic, .closing .topic]

/-- The marker that a line starts with, if it starts with one. -/
def ofLine? (line : Text) : Option Marker :=
  all.find? fun marker => marker.text.isPrefixOf line

end Marker

/-- A line without its ending: one line feed, then one carriage return. -/
def dropLineEnding (line : Text) : Text :=
  -- The line feed is the outer ending, so it is removed first.
  Text.dropSuffix ['\r'] (Text.dropSuffix ['\n'] line)

end IdlScout
