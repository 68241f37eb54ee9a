import IdlScout.Text.Utf8

/-! Lines of a stream of bytes. Where the reads cut the bytes makes no difference. -/

namespace IdlScout

/-- What a read of a stream gives. -/
inductive StreamRead where
  /-- Some bytes; none at all is the end of the stream. -/
  | bytes (content : Bytes)
  /-- A read that is to be tried again. -/
  | interrupted
  /-- A read that failed for good. -/
  | failed
  deriving Repr, DecidableEq

namespace LineSource

/-- The byte that ends a line. -/
def lineFeed : UInt8 := 10

/-- The byte that may stand before it. -/
def carriageReturn : UInt8 := 13

/-- A line without its carriage return. -/
def dropReturn (line : Bytes) : Bytes :=
  if line.getLast? = some carriageReturn then line.dropLast else line

/-- The text of a line that a line feed ended. -/
def endedLine (line : Bytes) : Text :=
  Utf8.decodeLossy (dropReturn line)

/-- The lines that bytes end, and the unended line after them, given the one before. -/
def feed (unended : Bytes) : Bytes → List Text × Bytes
  | [] => ([], unended)
  | b :: rest =>
    if b = lineFeed then
      let (lines, last) := feed [] rest
      (endedLine unended :: lines, last)
    else feed (unended ++ [b]) rest

/-- The line that the end of a stream leaves; it keeps its carriage return. -/
def lastLine (unended : Bytes) : List Text :=
  if unended.isEmpty then [] else [Utf8.decodeLossy unended]

/-- The lines of a stream up to its first end. The end of a stream ends a line, and reading goes on
after that; a failure drops the unended line. -/
def linesFrom (unended : Bytes) : List StreamRead → List Text
  | [] => lastLine unended
  | .bytes content :: rest =>
    if content.isEmpty then
      -- The first end only ends the line before it, and the next one is the end of the lines.
      if unended.isEmpty then [] else lastLine unended ++ linesFrom [] rest
    else
      let (lines, last) := feed unended content
      lines ++ linesFrom last rest
  | .interrupted :: rest => linesFrom unended rest
  | .failed :: _ => []

/-- The lines of a stream. -/
def lines (reads : List StreamRead) : List Text :=
  linesFrom [] reads

/-- The lines of bytes that are read to their end. -/
def linesOfBytes (content : Bytes) : List Text :=
  lines [.bytes content]

end LineSource
end IdlScout
