import IdlScout.Section.Marker

/-! Sections are taken from a report line by line. A marker out of place is an anomaly and leaves
the decoder idle. -/

namespace IdlScout

/-- A section that was closed, with its lines joined. -/
structure Section where
  kind : SectionKind
  text : Text
  deriving Repr, DecidableEq

/-- A marker where it cannot stand. -/
inductive Anomaly where
  | nestedOpening (current started : SectionKind)
  | unmatchedClosing (current : Option SectionKind) (ended : SectionKind)
  deriving Repr, DecidableEq

namespace Anomaly

/-- The wording of an anomaly. -/
def message : Anomaly → Text
  | .nestedOpening current started =>
    "unexpected start of ".toList ++ started.word ++ " section while inside ".toList ++
      current.word ++ " section".toList
  | .unmatchedClosing current ended =>
    "unexpected end of ".toList ++ ended.word ++ " section (open section: ".toList ++
      (current.map SectionKind.word).getD "none".toList ++ ")".toList

end Anomaly

/-- A section that is being read: its kind and the lines so far. -/
structure OpenSection where
  kind : SectionKind
  lines : List Text
  deriving Repr, DecidableEq

/-- A decoder: the section that is open, if one is, and the number of anomalies so far. -/
structure Decoder where
  current : Option OpenSection := none
  anomalies : Nat := 0
  deriving Repr, DecidableEq

/-- What a line gives. -/
inductive LineResult where
  | nothing
  | section (closed : Section)
  | anomaly (anomaly : Anomaly)
  deriving Repr, DecidableEq

namespace Decoder

/-- The kind of the section that is open. -/
def openKind (decoder : Decoder) : Option SectionKind :=
  decoder.current.map OpenSection.kind

/-- An anomaly discards the open section. -/
def refuse (decoder : Decoder) (anomaly : Anomaly) : LineResult × Decoder :=
  (.anomaly anomaly, ⟨none, decoder.anomalies + 1⟩)

/-- One line opens a section, closes the open one, adds to it, or is passed over. -/
def feed (decoder : Decoder) (line : Text) : LineResult × Decoder :=
  let line := dropLineEnding line
  match Marker.ofLine? line, decoder.current with
  | some (.opening kind), none => (.nothing, { decoder with current := some ⟨kind, []⟩ })
  -- Sections do not nest: neither the open one nor the new one survives.
  | some (.opening kind), some current => decoder.refuse (.nestedOpening current.kind kind)
  | some (.closing kind), some current =>
    -- A section is closed by the marker of its own kind only.
    if kind = current.kind then
      (.section ⟨kind, Text.join ['\n'] current.lines⟩, { decoder with current := none })
    else decoder.refuse (.unmatchedClosing (some current.kind) kind)
  | some (.closing kind), none => decoder.refuse (.unmatchedClosing none kind)
  | none, some current =>
    (.nothing, { decoder with current := some { current with lines := current.lines ++ [line] } })
  -- Between sections any line may stand, and none is kept.
  | none, none => (.nothing, decoder)

/-- The results of lines, one after the other. -/
def feedAll (decoder : Decoder) : List Text → List LineResult × Decoder
  | [] => ([], decoder)
  | line :: rest =>
    let (result, next) := decoder.feed line
    let (results, last) := next.feedAll rest
    (result :: results, last)

end Decoder

/-- The section of a result, if it holds one. -/
def LineResult.section? : LineResult → Option Section
  | .section closed => some closed
  | _ => none

/-- The anomaly of a result, if it holds one. -/
def LineResult.anomaly? : LineResult → Option Anomaly
  | .anomaly found => some found
  | _ => none

/-- The sections that lines close. -/
def Decoder.decodeAll (decoder : Decoder) (lines : List Text) : List Section × Decoder :=
  let (results, last) := decoder.feedAll lines
  (results.filterMap LineResult.section?, last)

end IdlScout
