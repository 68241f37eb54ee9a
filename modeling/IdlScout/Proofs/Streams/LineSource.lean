import IdlScout.Proofs.Text.Cut
import IdlScout.Proofs.Text.Utf8
import IdlScout.Streams.LineSource

/-! The lines of a stream are the lines of its text, wherever the reads cut the bytes. -/

namespace IdlScout

namespace StreamRead

/-- The bytes that a read gives. -/
def content : StreamRead → Bytes
  | .bytes content => content
  | .interrupted | .failed => []

/-- A read that the stream goes on after: it gives some bytes, or is to be tried again. -/
def GoesOn : StreamRead → Prop
  | .bytes content => content ≠ []
  | .interrupted => True
  | .failed => False

instance : DecidablePred GoesOn
  | .bytes content => inferInstanceAs (Decidable (content ≠ []))
  | .interrupted => inferInstanceAs (Decidable True)
  | .failed => inferInstanceAs (Decidable False)

end StreamRead

namespace LineSource

/-- Bytes that come in two parts: the line that the first leaves unended goes on in the second. -/
theorem feed_append (unended before after : Bytes) :
    feed unended (before ++ after) =
      ((feed unended before).1 ++ (feed (feed unended before).2 after).1,
        (feed (feed unended before).2 after).2) := by
  induction before generalizing unended with
  | nil => rfl
  | cons b rest ih =>
    -- By induction on the first part: at a line feed a new line begins, whatever part it is in.
    by_cases ends : b = lineFeed
    · simp [feed, ends, ih]
    · simp [feed, ends, ih]

/-- Where reads cut the bytes makes no difference, and neither do reads that are tried again. -/
theorem linesFrom_append {reads : List StreamRead} (goesOn : ∀ read ∈ reads, read.GoesOn)
    (unended : Bytes) (rest : List StreamRead) :
    linesFrom unended (reads ++ rest) = (feed unended (reads.flatMap StreamRead.content)).1 ++
      linesFrom (feed unended (reads.flatMap StreamRead.content)).2 rest := by
  induction reads generalizing unended with
  | nil => rfl
  | cons read more ih =>
    obtain ⟨first, others⟩ := List.forall_mem_cons.mp goesOn
    cases read with
    | bytes content =>
      -- An empty read would be the end of the stream.
      have nonempty : content.isEmpty = false := List.isEmpty_eq_false_iff.mpr first
      rw [List.cons_append, linesFrom, nonempty, if_neg Bool.false_ne_true, List.flatMap_cons,
        StreamRead.content, feed_append, List.append_assoc]
      exact congrArg (_ ++ ·) (ih others _)
    | interrupted => exact ih others unended
    | failed => exact first.elim

/-- However often it is asked for, the end of a stream ends the last line once. -/
theorem linesFrom_ends (unended : Bytes) (ends : Nat) :
    linesFrom unended (List.replicate ends (.bytes [])) = lastLine unended := by
  -- The first end gives the last line, if there is one; nothing is left for the others.
  induction ends generalizing unended with
  | zero => rfl
  | succ ends ih =>
    cases unended with
    | nil => rfl
    | cons b rest =>
      have empty : lastLine [] = [] := rfl
      rw [List.replicate_succ, linesFrom, ih, empty, List.append_nil]
      rfl

/-- A line that is ended loses a carriage return at its end. -/
theorem endedLine_eq (line : Bytes) :
    endedLine line = Text.dropSuffix ['\r'] (Utf8.decodeLossy line) := by
  rw [endedLine, dropReturn]
  split
  · -- Its byte is a character of its own.
    rename_i returns
    obtain ⟨init, rfl⟩ := List.getLast?_eq_some_iff.mp returns
    rw [List.dropLast_concat, Utf8.decodeLossy_append_ascii init (by decide)]
    exact (Text.dropSuffix_concat '\r' _).symm
  · rename_i other
    exact (Text.dropSuffix_of_last fun last =>
      other (Utf8.getLast?_of_decodeLossy last (by decide) (by decide))).symm

/-- The end of a stream leaves the unended line, unless nothing is in it. -/
theorem lastLine_eq (line : Bytes) :
    lastLine line =
      if (Utf8.decodeLossy line).isEmpty then [] else [Utf8.decodeLossy line] := by
  have alike : (Utf8.decodeLossy line).isEmpty = line.isEmpty := by
    rw [Bool.eq_iff_iff, List.isEmpty_iff, List.isEmpty_iff, Utf8.decodeLossy_eq_nil_iff]
  rw [lastLine, alike]

/-- The lines that bytes end are the pieces of their text at line feeds but the last, and that is
left unended. -/
theorem feed_eq {unended : Bytes} (single : lineFeed ∉ unended) (content : Bytes) :
    ∃ ended last, Text.cut '\n' (Utf8.decodeLossy (unended ++ content)) =
        ended ++ [Utf8.decodeLossy last] ∧
      feed unended content = (ended.map (Text.dropSuffix ['\r']), last) := by
  -- A line without the byte is without the character.
  have alone {line : Bytes} (absent : lineFeed ∉ line) :
      Text.cut '\n' (Utf8.decodeLossy line) = [Utf8.decodeLossy line] :=
    Text.cut_of_not_mem fun member =>
      absent (Utf8.mem_of_mem_decodeLossy member (by decide) (by decide))
  induction content generalizing unended with
  | nil => exact ⟨[], unended, by rw [List.append_nil, alone single, List.nil_append], rfl⟩
  | cons b rest ih =>
    -- At a line feed the line so far is ended, and the rest starts with none.
    by_cases ends : b = lineFeed
    · subst ends
      obtain ⟨ended, last, pieces, fed⟩ := ih (List.not_mem_nil : lineFeed ∉ ([] : Bytes))
      refine ⟨Utf8.decodeLossy unended :: ended, last, ?_, ?_⟩
      · rw [Utf8.decodeLossy_append_ascii unended (by decide)]
        exact (Text.cut_append_mark '\n' _ _).trans (by rw [alone single]; exact congrArg _ pieces)
      · rw [feed, if_pos rfl, fed, endedLine_eq]
        rfl
    · have single' : lineFeed ∉ unended ++ [b] := by simp [single, Ne.symm ends]
      obtain ⟨ended, last, pieces, fed⟩ := ih single'
      exact ⟨ended, last, by simpa using pieces, by rw [feed, if_neg ends, fed]⟩

/-- However its bytes are cut into reads, the lines of a stream are those of its text. -/
theorem lines_encode {text : Text} {chunks : List Bytes} (nonempty : ∀ chunk ∈ chunks, chunk ≠ [])
    (whole : chunks.flatten = Utf8.encode text) :
    lines (chunks.map .bytes) = Text.lines text := by
  have goesOn : ∀ read ∈ chunks.map StreamRead.bytes, read.GoesOn := by
    simpa [StreamRead.GoesOn] using nonempty
  have content : (chunks.map StreamRead.bytes).flatMap StreamRead.content = Utf8.encode text := by
    rw [← whole, List.flatMap_map, List.flatten_eq_flatMap]
    rfl
  -- From no line at all the bytes give lines and a rest, as the cut of their text does.
  obtain ⟨ended, last, pieces, fed⟩ := feed_eq (List.not_mem_nil : lineFeed ∉ ([] : Bytes))
    (Utf8.encode text)
  have streamed := linesFrom_append goesOn [] []
  rw [List.append_nil, content, fed, linesFrom, lastLine_eq] at streamed
  rw [List.nil_append, Utf8.decodeLossy_encode] at pieces
  rw [lines, streamed, Text.lines_of_pieces pieces]

/-- However the bytes of a stream are cut into reads, and whatever reads are tried again, its lines
are the pieces of its whole text at line feeds: those that a line feed ends lose a carriage return
before it, the last piece is kept as it is unless it is empty, and a failure drops the last one. -/
theorem lines_of_reads {reads : List StreamRead} (goesOn : ∀ read ∈ reads, read.GoesOn) :
    ∃ ended last,
      Text.cut '\n' (Utf8.decodeLossy (reads.flatMap StreamRead.content)) = ended ++ [last] ∧
      (∀ ends, lines (reads ++ List.replicate ends (.bytes [])) =
        ended.map (Text.dropSuffix ['\r']) ++ if last.isEmpty then [] else [last]) ∧
      ∀ later, lines (reads ++ .failed :: later) = ended.map (Text.dropSuffix ['\r']) := by
  -- The reads that go on give these lines; the end or the failure decides about the rest.
  obtain ⟨ended, last, pieces, fed⟩ := feed_eq (List.not_mem_nil : lineFeed ∉ ([] : Bytes))
    (reads.flatMap StreamRead.content)
  refine ⟨ended, Utf8.decodeLossy last, by simpa using pieces, fun ends => ?_, fun later => ?_⟩
  · rw [lines, linesFrom_append goesOn, fed, linesFrom_ends, lastLine_eq]
  · rw [lines, linesFrom_append goesOn, fed, linesFrom, List.append_nil]

/-- The reads cut a character of two bytes and an ending of two bytes, one of them is tried again,
and a byte is malformed. -/
theorem lines_of_reads_across_cuts :
    let reads : List StreamRead :=
      [.bytes [0x61, 0xC3], .interrupted, .bytes [0xA9, 0x0D], .bytes [0x0A, 0xFF, 0x0D]]
    (∀ read ∈ reads, read.GoesOn) ∧
      lines (reads ++ [.bytes []]) = ["a\u00e9".toList, "\ufffd\r".toList] ∧
      lines (reads ++ [.failed]) = ["a\u00e9".toList] := by
  intro reads
  have goesOn : ∀ read ∈ reads, read.GoesOn := by decide
  obtain ⟨ended, last, pieces, whole, failing⟩ := lines_of_reads goesOn
  have parts : ended ++ [last] = ["a\u00e9\r".toList] ++ ["\ufffd\r".toList] := by
    rw [← pieces]
    decide +kernel
  obtain ⟨rfl, same⟩ := List.append_inj' parts rfl
  obtain rfl : last = "\ufffd\r".toList := by simpa using same
  exact ⟨goesOn, whole 1, failing []⟩

end LineSource
end IdlScout
