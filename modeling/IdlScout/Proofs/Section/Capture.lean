import IdlScout.Proofs.Section.Framing
import IdlScout.Proofs.Streams.LineSource
import Mathlib.Data.List.DropRight

/-! A report is decoded alike as it comes and from a captured text. The lines differ in carriage
returns at their ends and in an empty last one; neither is seen by the markers. -/

namespace IdlScout

namespace Text

/-- A line without the carriage returns at its end. -/
def dropReturns (line : Text) : Text :=
  line.rdropWhile (· == '\r')

/-- A text without the carriage returns at the ends of its lines. -/
def withoutReturns (text : Text) : Text :=
  join ['\n'] ((cut '\n' text).map dropReturns)

/-- What is kept of a line is its beginning. -/
theorem dropReturns_isPrefix (line : Text) : dropReturns line <+: line :=
  List.rdropWhile_prefix _ line

/-- A carriage return at the end goes. -/
theorem dropReturns_concat (line : Text) : dropReturns (line ++ ['\r']) = dropReturns line :=
  List.rdropWhile_concat_pos _ _ _ rfl

/-- Any other last character ends what is kept. -/
theorem dropReturns_of_last {line : Text} (other : line.getLast? ≠ some '\r') :
    dropReturns line = line := by
  refine List.rdropWhile_eq_self_iff.mpr fun nonempty returns => other ?_
  rw [List.getLast?_eq_some_getLast nonempty, beq_iff_eq.mp returns]

/-- What is kept does not end in a carriage return. -/
theorem getLast?_dropReturns (line : Text) : (dropReturns line).getLast? ≠ some '\r' := by
  intro last
  obtain ⟨init, shape⟩ := List.getLast?_eq_some_iff.mp last
  -- All returns at the end are dropped, so what is left has another last character.
  have nonempty : dropReturns line ≠ [] := by simp [shape]
  have other := List.rdropWhile_last_not (· == '\r') line nonempty
  rw [List.getLast?_eq_some_getLast nonempty, Option.some.injEq] at last
  exact other (beq_iff_eq.mpr last)

/-- Dropping one carriage return first makes no difference. -/
theorem dropReturns_dropSuffix (line : Text) :
    dropReturns (dropSuffix ['\r'] line) = dropReturns line := by
  by_cases returns : line.getLast? = some '\r'
  · obtain ⟨init, rfl⟩ := List.getLast?_eq_some_iff.mp returns
    rw [dropSuffix_concat, dropReturns_concat]
  · rw [dropSuffix_of_last returns]

/-- A line without a line feed is kept up to its carriage returns. -/
theorem withoutReturns_of_not_mem {line : Text} (single : '\n' ∉ line) :
    withoutReturns line = dropReturns line := by
  rw [withoutReturns, cut_of_not_mem single]
  rfl

/-- Lines lose their carriage returns one by one. -/
theorem withoutReturns_join (lines : List Text) :
    withoutReturns (join ['\n'] lines) = join ['\n'] (lines.map withoutReturns) := by
  induction lines with
  | nil => rfl
  | cons line rest ih =>
    by_cases last : rest = []
    · subst last
      rfl
    · -- The mark between two lines is the cut between their pieces.
      have more : rest.map withoutReturns ≠ [] := by simpa using last
      have pieces (text : Text) : (cut '\n' text).map dropReturns ≠ [] := by
        simpa using cut_ne_nil '\n' text
      rw [List.map_cons, join_cons _ _ more, ← ih, join_cons _ _ last, List.append_assoc,
        List.singleton_append, withoutReturns, cut_append_mark, List.map_append,
        join_append _ (pieces _) (pieces _)]
      rfl

/-- The lines of a text without carriage returns are its lines without theirs. -/
theorem cut_withoutReturns (text : Text) :
    cut '\n' (withoutReturns text) = (cut '\n' text).map dropReturns := by
  refine cut_join (by simpa using cut_ne_nil '\n' text) fun piece listed => ?_
  obtain ⟨line, inText, rfl⟩ := List.mem_map.mp listed
  exact fun member => (of_mem_cut inText).1 ((dropReturns_isPrefix _).subset member)

/-- Lines have no line feed in them. -/
theorem not_mem_of_mem_lines {text line : Text} (listed : line ∈ lines text) : '\n' ∉ line := by
  obtain ⟨ended, last, pieces⟩ := exists_pieces '\n' text
  have plain : ∀ piece ∈ ended ++ [last], '\n' ∉ piece := fun piece inText =>
    (of_mem_cut (pieces ▸ inText)).1
  have whole : line ∈ ended.map (dropSuffix ['\r']) ++ [last] := by
    rw [lines_of_pieces pieces] at listed
    cases last with
    | nil => exact List.mem_append_left _ (by simpa using listed)
    | cons c rest => exact listed
  -- An ended piece may have lost a carriage return; the last one is as it was.
  rcases List.mem_append.mp whole with before | atEnd
  · obtain ⟨piece, inText, rfl⟩ := List.mem_map.mp before
    exact fun member => plain piece (List.mem_append_left _ inText)
      ((dropSuffix_isPrefix _ _).subset member)
  · exact plain line (List.mem_append_right _ atEnd)

/-- The lines of a text are its pieces at line feeds, but for carriage returns at their ends and an
empty last piece. -/
theorem lines_dropReturns (text : Text) :
    (cut '\n' text).map dropReturns = (lines text).map dropReturns ∨
      (cut '\n' text).map dropReturns = (lines text).map dropReturns ++ [[]] := by
  obtain ⟨ended, last, pieces⟩ := exists_pieces '\n' text
  have dropped : (ended.map (dropSuffix ['\r'])).map dropReturns = ended.map dropReturns := by
    rw [List.map_map]
    exact List.map_congr_left fun piece _ => dropReturns_dropSuffix piece
  rw [lines_of_pieces pieces, pieces, List.map_append, List.map_append, dropped]
  -- The last piece is a line only if something is on it.
  cases last with
  | nil =>
    right
    simp [dropReturns]
  | cons c rest =>
    left
    rfl

end Text

open Text

/-- No marker has a carriage return. -/
theorem Marker.return_not_mem_text (marker : Marker) : '\r' ∉ marker.text := by
  rcases marker with ⟨_ | _⟩ | ⟨_ | _⟩ <;> decide

/-- Carriage returns at the end of a line do not change which marker it starts with. -/
theorem Marker.ofLine?_dropReturns (line : Text) :
    Marker.ofLine? (dropReturns line) = Marker.ofLine? line := by
  -- The returns are at the end, so they go one by one from there.
  induction line using List.reverseRecOn with
  | nil => rfl
  | append_singleton init c ih =>
    by_cases returns : c = '\r'
    · subst returns
      rw [dropReturns_concat, ih, Marker.ofLine?, Marker.ofLine?]
      congr 1
      funext marker
      -- A marker in front of the carriage return is in front of what precedes it.
      rw [Bool.eq_iff_iff, List.isPrefixOf_iff_prefix, List.isPrefixOf_iff_prefix]
      exact ⟨fun starts => starts.trans (List.prefix_append _ _),
        prefix_of_prefix_append_cons marker.return_not_mem_text init⟩
    · rw [dropReturns_of_last (by simpa using returns)]

/-- A line without a line feed loses one carriage return. -/
theorem dropLineEnding_of_not_mem {line : Text} (single : '\n' ∉ line) :
    dropLineEnding line = dropSuffix ['\r'] line := by
  have noFeed : line.getLast? ≠ some '\n' := fun last => single (List.mem_of_getLast? last)
  rw [dropLineEnding, dropSuffix_of_last noFeed]

/-- What a decoder keeps of a line differs in carriage returns only. -/
theorem withoutReturns_dropLineEnding {line : Text} (single : '\n' ∉ line) :
    withoutReturns (dropLineEnding line) = dropReturns line := by
  have ending := dropLineEnding_of_not_mem single
  have kept : '\n' ∉ dropLineEnding line := fun member =>
    single ((dropSuffix_isPrefix _ _).subset (ending ▸ member))
  rw [withoutReturns_of_not_mem kept, ending, dropReturns_dropSuffix]

/-- A line without carriage returns at its end is kept as it is. -/
theorem dropLineEnding_dropReturns {line : Text} (single : '\n' ∉ line) :
    dropLineEnding (dropReturns line) = dropReturns line := by
  have still : '\n' ∉ dropReturns line := fun member =>
    single ((dropReturns_isPrefix _).subset member)
  rw [dropLineEnding_of_not_mem still, dropSuffix_of_last (getLast?_dropReturns line)]

/-- A line's marker is that of the line without its carriage returns. -/
theorem Marker.ofLine?_dropLineEnding {line : Text} (single : '\n' ∉ line) :
    Marker.ofLine? (dropLineEnding line) = Marker.ofLine? (dropReturns line) := by
  rw [dropLineEnding_of_not_mem single, ← Marker.ofLine?_dropReturns, dropReturns_dropSuffix]

/-- A section without the carriage returns at the ends of its lines. -/
def Section.withoutReturns (closed : Section) : Section :=
  { closed with text := closed.text.withoutReturns }

/-- A result without the carriage returns of its section. -/
def LineResult.withoutReturns : LineResult → LineResult
  | .section closed => .section closed.withoutReturns
  | other => other

namespace Decoder

/-- A decoder whose open section has lost the carriage returns of its lines. -/
def withoutReturns (decoder : Decoder) : Decoder :=
  { decoder with current := decoder.current.map fun current =>
      { current with lines := current.lines.map Text.withoutReturns } }

/-- Carriage returns at the end of a line go through a decoder and change nothing else. -/
theorem feed_dropReturns (decoder : Decoder) {line : Text} (single : '\n' ∉ line) :
    decoder.withoutReturns.feed (dropReturns line) =
      ((decoder.feed line).1.withoutReturns, (decoder.feed line).2.withoutReturns) := by
  -- With the same marker both decoders go the same way; without one they keep the same line.
  obtain ⟨current, anomalies⟩ := decoder
  have marked := Marker.ofLine?_dropLineEnding single
  have kept := withoutReturns_dropLineEnding single
  have whole := dropLineEnding_dropReturns single
  cases found : Marker.ofLine? (dropReturns line) with
  | none =>
    cases current <;>
      simp [feed, withoutReturns, whole, marked, found, kept, LineResult.withoutReturns]
  | some marker =>
    rcases marker with kind | kind
    · cases current <;>
        simp [feed, withoutReturns, whole, marked, found, refuse, LineResult.withoutReturns]
    · -- A closing marker ends the section only if it is of the same kind.
      cases current with
      | none => simp [feed, withoutReturns, whole, marked, found, refuse, LineResult.withoutReturns]
      | some opened =>
        by_cases same : kind = opened.kind
        · simp [feed, withoutReturns, whole, marked, found, same, LineResult.withoutReturns,
            Section.withoutReturns, withoutReturns_join]
        · simp [feed, withoutReturns, whole, marked, found, same, refuse,
            LineResult.withoutReturns]

/-- Carriage returns at the ends of lines go through a decoder and change nothing else. -/
theorem feedAll_dropReturns (decoder : Decoder) {lines : List Text}
    (single : ∀ line ∈ lines, '\n' ∉ line) :
    decoder.withoutReturns.feedAll (lines.map dropReturns) =
      ((decoder.feedAll lines).1.map LineResult.withoutReturns,
        (decoder.feedAll lines).2.withoutReturns) := by
  induction lines generalizing decoder with
  | nil => rfl
  | cons line rest ih =>
    -- Each line is fed to decoders that are alike.
    obtain ⟨first, others⟩ := List.forall_mem_cons.mp single
    simp only [List.map_cons, feedAll, feed_dropReturns decoder first, ih _ others]

/-- What a new decoder finds in lines: the sections, the number of anomalies and the kind of the
section that is left open. -/
def findings (lines : List Text) : List Section × Nat × Option SectionKind :=
  let (sections, last) := Decoder.decodeAll {} lines
  (sections, last.anomalies, last.openKind)

/-- An empty last line closes nothing and is no anomaly. -/
theorem findings_concat_nil (lines : List Text) : findings (lines ++ [[]]) = findings lines := by
  have noMarker : Marker.ofLine? (dropLineEnding []) = none := by decide
  simp only [findings, decodeAll, feedAll_append]
  rcases (Decoder.feedAll {} lines).2 with ⟨_ | current, anomalies⟩ <;>
    simp [feedAll, feed, noMarker, LineResult.section?, openKind]

/-- Carriage returns at the ends of lines stay in the sections. -/
theorem findings_dropReturns {lines : List Text} (single : ∀ line ∈ lines, '\n' ∉ line) :
    findings (lines.map dropReturns) =
      Prod.map (List.map Section.withoutReturns) id (findings lines) := by
  -- Both decoders are fed from the new one.
  have fed := feedAll_dropReturns {} single
  have new : Decoder.withoutReturns {} = {} := rfl
  rw [new] at fed
  have sections (results : List LineResult) :
      (results.map LineResult.withoutReturns).filterMap LineResult.section? =
        (results.filterMap LineResult.section?).map Section.withoutReturns := by
    rw [List.filterMap_map, List.map_filterMap]
    congr 1
    funext result
    cases result <;> rfl
  simp only [findings, decodeAll, fed, sections]
  rcases (Decoder.feedAll {} lines).2 with ⟨_ | current, anomalies⟩ <;> rfl

/-- Wherever the reads of a stream cut the bytes of a text, its lines give a new decoder the
sections that the captured text gives it, cut at line feeds: the kinds, the anomalies and the
section left open are the same, and so are the lines of each section but for carriage returns at
their ends. -/
theorem decodeAll_live_eq_captured (text : Text) (chunks : List Bytes)
    (nonempty : ∀ chunk ∈ chunks, chunk ≠ []) (whole : chunks.flatten = Utf8.encode text) :
    let live := Decoder.decodeAll {} (LineSource.lines (chunks.map .bytes))
    let captured := Decoder.decodeAll {} (Text.cut '\n' text)
    live.1.map Section.kind = captured.1.map Section.kind ∧
      live.2.anomalies = captured.2.anomalies ∧
      live.2.openKind = captured.2.openKind ∧
      live.1.map (fun closed => (Text.cut '\n' closed.text).map dropReturns) =
        captured.1.map fun closed => (Text.cut '\n' closed.text).map dropReturns := by
  have streamed : LineSource.lines (chunks.map .bytes) = Text.lines text :=
    LineSource.lines_encode nonempty whole
  have alike : Prod.map (List.map Section.withoutReturns) id (findings (Text.lines text)) =
      Prod.map (List.map Section.withoutReturns) id (findings (Text.cut '\n' text)) := by
    rw [← findings_dropReturns fun line listed => not_mem_of_mem_lines listed,
      ← findings_dropReturns fun line listed => (of_mem_cut listed).1]
    -- Without carriage returns the captured text has at most an empty line more.
    rcases lines_dropReturns text with same | longer
    · rw [same]
    · rw [longer, findings_concat_nil]
  have sections := congrArg Prod.fst alike
  have counts := congrArg Prod.snd alike
  have kinds := congrArg (List.map Section.kind) sections
  have lines := congrArg (List.map fun closed : Section => Text.cut '\n' closed.text) sections
  simp only [Prod.map_fst, List.map_map, Function.comp_def, Section.withoutReturns,
    cut_withoutReturns] at kinds lines
  simp only [streamed]
  exact ⟨kinds, congrArg Prod.fst counts, congrArg Prod.snd counts, lines⟩

/-- The reads cut an ending of two bytes and a character of two bytes, a line has two carriage
returns, and a section is left open. -/
theorem decodeAll_live_eq_captured_across_cuts :
    let text := ">>> type\r\n\u00e9\r\r\n<<< type\n>>> topic".toList
    let content := Utf8.encode text
    let chunks := [content.take 9, (content.drop 9).take 2, content.drop 11]
    (∀ chunk ∈ chunks, chunk ≠ []) ∧ chunks.flatten = content ∧
      let live := Decoder.decodeAll {} (LineSource.lines (chunks.map .bytes))
      let captured := Decoder.decodeAll {} (Text.cut '\n' text)
      live.1.map Section.kind = captured.1.map Section.kind ∧
        live.2.anomalies = captured.2.anomalies ∧
        live.2.openKind = captured.2.openKind ∧
        live.1.map (fun closed => (Text.cut '\n' closed.text).map dropReturns) =
          captured.1.map fun closed => (Text.cut '\n' closed.text).map dropReturns := by
  intro text content chunks
  have nonempty : ∀ chunk ∈ chunks, chunk ≠ [] := by decide +kernel
  have whole : chunks.flatten = content := by decide +kernel
  exact ⟨nonempty, whole, decodeAll_live_eq_captured text chunks nonempty whole⟩

end Decoder
end IdlScout
