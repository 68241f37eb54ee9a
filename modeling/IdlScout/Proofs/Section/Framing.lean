import IdlScout.Proofs.Text.Cut
import IdlScout.Section.Decoder

/-! Sections that are written between their markers are read back, and a decoder that comes upon
them inside another section is at one with them again after the first. -/

namespace IdlScout

/-- The lines of a section: its opening marker, its text cut at line feeds, its closing marker. -/
def Section.lines (written : Section) : List Text :=
  [(Marker.opening written.kind).text] ++ Text.cut '\n' written.text ++
    [(Marker.closing written.kind).text]

/-- Lines that are no markers. -/
def IsUnmarked (lines : List Text) : Prop :=
  ∀ line ∈ lines, Marker.ofLine? (dropLineEnding line) = none

/-- A section whose lines come back as they are: none starts with a marker, and none ends in a
carriage return. -/
structure Section.IsPlain (written : Section) : Prop where
  unmarked : ∀ line ∈ Text.cut '\n' written.text, Marker.ofLine? line = none
  returnless : ∀ line ∈ Text.cut '\n' written.text, line.getLast? ≠ some '\r'

/-- Sections with other lines before, between and after them. -/
structure Transcript where
  /-- Every section with the lines before it. -/
  parts : List (List Text × Section)
  /-- The lines after the last section. -/
  rest : List Text
  plain : ∀ part ∈ parts, IsUnmarked part.1 ∧ part.2.IsPlain
  unmarked : IsUnmarked rest

namespace Transcript

/-- All lines of a transcript. -/
def lines (transcript : Transcript) : List Text :=
  transcript.parts.flatMap (fun part => part.1 ++ part.2.lines) ++ transcript.rest

/-- The sections of a transcript. -/
def sections (transcript : Transcript) : List Section :=
  transcript.parts.map Prod.snd

end Transcript

/-- A marker's own line has no ending that could be taken from it. -/
theorem Marker.ofLine?_text (marker : Marker) :
    Marker.ofLine? (dropLineEnding marker.text) = some marker := by
  rcases marker with ⟨_ | _⟩ | ⟨_ | _⟩ <;> decide

namespace Section.IsPlain

variable {written : Section}

/-- A line of a plain section has no ending that could be taken from it. -/
theorem dropLineEnding_eq (plain : written.IsPlain) {line : Text}
    (listed : line ∈ Text.cut '\n' written.text) : dropLineEnding line = line := by
  -- A line feed would have been cut at.
  have noFeed : line.getLast? ≠ some '\n' := fun last =>
    (Text.of_mem_cut listed).1 (List.mem_of_getLast? last)
  rw [dropLineEnding, Text.dropSuffix_of_last noFeed,
    Text.dropSuffix_of_last (plain.returnless line listed)]

/-- The text of a plain section has no markers among its lines. -/
theorem isUnmarked (plain : written.IsPlain) : IsUnmarked (Text.cut '\n' written.text) := by
  intro line listed
  rw [plain.dropLineEnding_eq listed]
  exact plain.unmarked line listed

/-- The lines of a plain section are kept as they are. -/
theorem map_dropLineEnding (plain : written.IsPlain) :
    (Text.cut '\n' written.text).map dropLineEnding = Text.cut '\n' written.text := by
  have same := List.map_congr_left fun line listed => plain.dropLineEnding_eq listed
  rw [same, List.map_id']

end Section.IsPlain

namespace Decoder

variable {written : Section} {between : List Text}

/-- Lines that come in two parts are fed one part after the other. -/
theorem feedAll_append (decoder : Decoder) (before after : List Text) :
    decoder.feedAll (before ++ after) =
      ((decoder.feedAll before).1 ++ ((decoder.feedAll before).2.feedAll after).1,
        ((decoder.feedAll before).2.feedAll after).2) := by
  induction before generalizing decoder with
  | nil => rfl
  | cons line rest ih => simp only [List.cons_append, feedAll, ih]

/-- The sections of lines that come in two parts are those of one part after the other. -/
theorem decodeAll_append (decoder : Decoder) (before after : List Text) :
    decoder.decodeAll (before ++ after) =
      ((decoder.decodeAll before).1 ++ ((decoder.decodeAll before).2.decodeAll after).1,
        ((decoder.decodeAll before).2.decodeAll after).2) := by
  simp only [decodeAll, feedAll_append, List.filterMap_append]

/-- Between sections lines that are no markers are passed over. -/
theorem decodeAll_idle_unmarked (anomalies : Nat) {lines : List Text}
    (unmarked : IsUnmarked lines) :
    decodeAll ⟨none, anomalies⟩ lines = ([], ⟨none, anomalies⟩) := by
  induction lines with
  | nil => rfl
  | cons line rest ih =>
    -- Without a section that is open an ordinary line is dropped.
    obtain ⟨first, others⟩ := List.forall_mem_cons.mp unmarked
    have passed := ih others
    simp only [decodeAll, feedAll, feed, first, List.filterMap_cons, LineResult.section?]
      at passed ⊢
    exact passed

/-- Inside a section lines that are no markers are kept without their endings. -/
theorem decodeAll_open_unmarked (kind : SectionKind) (sofar : List Text) (anomalies : Nat)
    {lines : List Text} (unmarked : IsUnmarked lines) :
    decodeAll ⟨some ⟨kind, sofar⟩, anomalies⟩ lines =
      ([], ⟨some ⟨kind, sofar ++ lines.map dropLineEnding⟩, anomalies⟩) := by
  induction lines generalizing sofar with
  | nil => simp [decodeAll, feedAll]
  | cons line rest ih =>
    obtain ⟨first, others⟩ := List.forall_mem_cons.mp unmarked
    -- The lines so far stay quantified over, since each line is put at their end.
    have kept := ih (sofar ++ [dropLineEnding line]) others
    rw [List.append_assoc, List.singleton_append] at kept
    simp only [decodeAll, feedAll, feed, first, List.filterMap_cons, LineResult.section?,
      List.map_cons] at kept ⊢
    exact kept

/-- An opening marker between sections begins a section without lines. -/
theorem decodeAll_idle_opening (kind : SectionKind) (anomalies : Nat) :
    decodeAll ⟨none, anomalies⟩ [(Marker.opening kind).text] =
      ([], ⟨some ⟨kind, []⟩, anomalies⟩) := by
  simp [decodeAll, feedAll, feed, Marker.ofLine?_text, LineResult.section?]

/-- An opening marker inside a section is an anomaly, and ends that section too. -/
theorem decodeAll_open_opening (current : OpenSection) (kind : SectionKind) (anomalies : Nat) :
    decodeAll ⟨some current, anomalies⟩ [(Marker.opening kind).text] =
      ([], ⟨none, anomalies + 1⟩) := by
  simp [decodeAll, feedAll, feed, Marker.ofLine?_text, refuse, LineResult.section?]

/-- The closing marker of a section's kind closes it. -/
theorem decodeAll_open_closing (kind : SectionKind) (lines : List Text) (anomalies : Nat) :
    decodeAll ⟨some ⟨kind, lines⟩, anomalies⟩ [(Marker.closing kind).text] =
      ([⟨kind, Text.join ['\n'] lines⟩], ⟨none, anomalies⟩) := by
  simp [decodeAll, feedAll, feed, Marker.ofLine?_text, LineResult.section?]

/-- A closing marker between sections is an anomaly. -/
theorem decodeAll_idle_closing (kind : SectionKind) (anomalies : Nat) :
    decodeAll ⟨none, anomalies⟩ [(Marker.closing kind).text] = ([], ⟨none, anomalies + 1⟩) := by
  simp [decodeAll, feedAll, feed, Marker.ofLine?_text, refuse, LineResult.section?]

/-- Between sections a plain section is read back, whatever stands before it. -/
theorem decodeAll_idle_section (plain : written.IsPlain) (unmarked : IsUnmarked between)
    (anomalies : Nat) :
    decodeAll ⟨none, anomalies⟩ (between ++ written.lines) = ([written], ⟨none, anomalies⟩) := by
  rw [decodeAll_append, decodeAll_idle_unmarked anomalies unmarked]
  simp only [Section.lines, decodeAll_append, decodeAll_idle_opening,
    decodeAll_open_unmarked _ _ _ plain.isUnmarked, plain.map_dropLineEnding, List.nil_append,
    decodeAll_open_closing]
  -- The lines of a text are joined to that text again.
  rw [Text.join_cut]

/-- Inside another section a plain section is lost: its opening marker ends the other section, and
its closing marker is then nobody's. -/
theorem decodeAll_open_section (plain : written.IsPlain) (unmarked : IsUnmarked between)
    (current : OpenSection) (anomalies : Nat) :
    decodeAll ⟨some current, anomalies⟩ (between ++ written.lines) =
      ([], ⟨none, anomalies + 2⟩) := by
  rw [decodeAll_append, decodeAll_open_unmarked _ _ _ unmarked]
  simp only [Section.lines, decodeAll_append, decodeAll_open_opening,
    decodeAll_idle_unmarked _ plain.isUnmarked, List.nil_append, decodeAll_idle_closing]

/-- Between sections all plain sections are read back, whatever stands before each of them. -/
theorem decodeAll_idle_parts {parts : List (List Text × Section)}
    (plain : ∀ part ∈ parts, IsUnmarked part.1 ∧ part.2.IsPlain) (anomalies : Nat) :
    decodeAll ⟨none, anomalies⟩ (parts.flatMap fun part => part.1 ++ part.2.lines) =
      (parts.map Prod.snd, ⟨none, anomalies⟩) := by
  induction parts with
  | nil => rfl
  | cons part rest ih =>
    obtain ⟨⟨unmarked, first⟩, others⟩ := List.forall_mem_cons.mp plain
    -- After each section the decoder stands as it stood before it.
    rw [List.flatMap_cons, decodeAll_append, decodeAll_idle_section first unmarked, ih others]
    rfl

/-- A decoder between sections reads the sections of a transcript back, with their texts and without
an anomaly. A decoder inside a section loses the first of them with two anomalies, and reads back
all others. Either way it is between sections in the end. -/
theorem decodeAll_transcript (transcript : Transcript) (decoder : Decoder) :
    (decoder.current = none →
        decoder.decodeAll transcript.lines = (transcript.sections, ⟨none, decoder.anomalies⟩)) ∧
      (decoder.current ≠ none → transcript.sections ≠ [] →
        decoder.decodeAll transcript.lines =
          (transcript.sections.tail, ⟨none, decoder.anomalies + 2⟩)) := by
  obtain ⟨parts, rest, plain, unmarked⟩ := transcript
  obtain ⟨current, anomalies⟩ := decoder
  simp only [Transcript.lines, Transcript.sections]
  constructor
  · rintro rfl
    -- All parts are read back in order, and the lines behind them are passed over.
    rw [decodeAll_append, decodeAll_idle_parts plain, decodeAll_idle_unmarked _ unmarked,
      List.append_nil]
  · intro inside nonempty
    obtain ⟨current, rfl⟩ := Option.ne_none_iff_exists'.mp inside
    cases parts with
    | nil => exact absurd rfl nonempty
    | cons part more =>
      obtain ⟨⟨before, first⟩, others⟩ := List.forall_mem_cons.mp plain
      -- What was open ends with the first section; from there on the decoder is idle.
      rw [List.flatMap_cons, List.append_assoc, decodeAll_append,
        decodeAll_open_section first before, decodeAll_append, decodeAll_idle_parts others,
        decodeAll_idle_unmarked _ unmarked]
      simp

/-- Two sections with an empty line and a line like a marker's between them: a decoder that is in a
topic gives the second one alone. -/
theorem decodeAll_transcript_of_two_sections :
    let first : Section := ⟨.type, "a\n\nb".toList⟩
    let second : Section := ⟨.topic, []⟩
    let between : List Text := [[], ">> type\r\n".toList]
    let lines := between ++ first.lines ++ (between ++ second.lines) ++ between
    let inside : Decoder := ⟨some ⟨.topic, [['x']]⟩, 3⟩
    decodeAll {} lines = ([first, second], {}) ∧ inside.current ≠ none ∧
      inside.decodeAll lines = ([second], ⟨none, 5⟩) := by
  intro first second between lines inside
  have unmarked : IsUnmarked between := by
    unfold IsUnmarked
    decide
  have plain : first.IsPlain ∧ second.IsPlain := ⟨⟨by decide, by decide⟩, ⟨by decide, by decide⟩⟩
  -- The transcript is built with the proofs of its form, so that both parts of the theorem apply.
  let transcript : Transcript := {
    parts := [(between, first), (between, second)]
    rest := between
    plain := by
      intro part listed
      have named : part = (between, first) ∨ part = (between, second) := by simpa using listed
      rcases named with rfl | rfl
      · exact ⟨unmarked, plain.1⟩
      · exact ⟨unmarked, plain.2⟩
    unmarked }
  have whole : transcript.lines = lines := by
    simp [transcript, lines, Transcript.lines]
  refine ⟨?_, by decide, ?_⟩
  · rw [← whole]
    exact (decodeAll_transcript transcript {}).1 rfl
  · rw [← whole]
    exact (decodeAll_transcript transcript inside).2 (by decide)
      (by simp [transcript, Transcript.sections])

end Decoder
end IdlScout
