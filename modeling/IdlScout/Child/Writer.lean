import IdlScout.Text.Utf8

/-! Lines written to a writer that may take parts, fail, or be gone. -/

namespace IdlScout

/-- The kinds of failures that writing tells apart. -/
inductive WriteFaultKind where
  /-- The reader is gone. -/
  | brokenPipe
  | badInput
  /-- Nothing happened, and the writing is to be tried again. -/
  | interrupted
  /-- The writer takes nothing any more. -/
  | tookNothing
  | other
  deriving Repr, DecidableEq

/-- A failure of a writer: its kind, and the system's number for it if there is one. -/
structure WriteFault where
  kind : WriteFaultKind
  code : Option Nat := none
  deriving Repr, DecidableEq

namespace WriteFault

/-- The system's number for a pipe without a reader. -/
def pipeCode : Nat := 32

/-- The system's number for an argument that is not valid. -/
def argumentCode : Nat := 22

/-- A failure that only says that nobody reads any more. -/
def isQuiet (fault : WriteFault) : Bool :=
  fault.kind == .brokenPipe || fault.kind == .badInput || fault.code == some pipeCode ||
    fault.code == some argumentCode

end WriteFault

/-- What a writer does on one operation. -/
inductive WriteReply where
  /-- It takes so many bytes, or all if there are fewer. -/
  | takes (count : Nat)
  | fails (fault : WriteFault)
  deriving Repr, DecidableEq

/-- What a writer is asked for. -/
inductive WriteRequest where
  /-- To take some bytes. -/
  | write (offered : Bytes)
  /-- To pass on what it holds back. -/
  | flush
  deriving Repr, DecidableEq

/-- An operation on a writer: what it was asked for, and what it did. -/
structure WriteCall where
  request : WriteRequest
  reply : WriteReply
  deriving Repr, DecidableEq

/-- The bytes that an operation took. -/
def WriteCall.taken : WriteCall → Bytes
  | ⟨.write offered, .takes count⟩ => offered.take count
  | _ => []

/-- A writer is what it does on its operations; after these it takes everything. -/
abbrev Writer := List WriteReply

namespace Writer

/-- How an attempt to write ended: with a fault or not, the writer after it, and the operations on
the writer in order. -/
structure Attempt where
  result : Except WriteFault Unit
  writer : Writer
  calls : List WriteCall
  deriving Repr

namespace Attempt

/-- The bytes that the operations of an attempt took. -/
def taken (attempt : Attempt) : Bytes :=
  attempt.calls.flatMap WriteCall.taken

/-- An attempt that goes on after an operation. -/
def after (call : WriteCall) (attempt : Attempt) : Attempt :=
  { attempt with calls := call :: attempt.calls }

/-- One attempt after another, unless the first failed. -/
def andThen (first : Attempt) (next : Writer → Attempt) : Attempt :=
  match first.result with
  | .error _ => first
  | .ok () =>
    let second := next first.writer
    { second with calls := first.calls ++ second.calls }

end Attempt

/-- Bytes are written until all are taken. -/
def writeAll : Writer → Bytes → Attempt
  | writer, [] => ⟨.ok (), writer, []⟩
  | [], bytes => ⟨.ok (), [], [⟨.write bytes, .takes bytes.length⟩]⟩
  | .fails fault :: rest, bytes =>
    let call : WriteCall := ⟨.write bytes, .fails fault⟩
    -- An interruption took nothing, so the same bytes are tried again.
    if fault.kind = .interrupted then (writeAll rest bytes).after call
    else ⟨.error fault, rest, [call]⟩
  -- A writer that takes nothing would be tried for ever.
  | .takes 0 :: rest, bytes =>
    ⟨.error { kind := .tookNothing }, rest, [⟨.write bytes, .takes 0⟩]⟩
  | .takes count :: rest, bytes =>
    (writeAll rest (bytes.drop count)).after ⟨.write bytes, .takes count⟩

/-- What the writer holds back is passed on. -/
def flush : Writer → Attempt
  -- Passing on is not tried again, whatever the failure.
  | .fails fault :: rest => ⟨.error fault, rest, [⟨.flush, .fails fault⟩]⟩
  | .takes count :: rest => ⟨.ok (), rest, [⟨.flush, .takes count⟩]⟩
  | [] => ⟨.ok (), [], [⟨.flush, .takes 0⟩]⟩

/-- A line and its end are written, and passed on. -/
def writeLine (writer : Writer) (line : Text) : Attempt :=
  ((writer.writeAll (Utf8.encode line)).andThen (·.writeAll [10])).andThen flush

/-- Lines are written up to the first failure; empty ones are left out. -/
def writeLines (writer : Writer) : List Text → Attempt
  | [] => ⟨.ok (), writer, []⟩
  | line :: rest =>
    -- An empty line says nothing to the child.
    if line.isEmpty then writeLines writer rest
    else (writer.writeLine line).andThen (writeLines · rest)

end Writer

/-- What forwarding leaves: the writer's place, the operations on the writer, and the result. -/
structure Forwarded where
  place : Option Writer
  calls : List WriteCall
  result : Except WriteFault Unit
  deriving Repr

/-- The bytes that were taken while lines were forwarded. -/
def Forwarded.taken (forwarded : Forwarded) : Bytes :=
  forwarded.calls.flatMap WriteCall.taken

/-- A failure that only says that nobody reads is none. -/
def quieten : Except WriteFault Unit → Except WriteFault Unit
  | .error fault => if fault.isQuiet then .ok () else .error fault
  | .ok () => .ok ()

/-- Lines are forwarded to the writer in a place, which is empty afterwards. An empty place takes
nothing. -/
def forwardLines (place : Option Writer) (lines : List Text) : Forwarded :=
  match place with
  | none => ⟨none, [], .ok ()⟩
  | some writer =>
    let attempt := writer.writeLines lines
    -- The writer is dropped, which closes the input, however the writing ended.
    ⟨none, attempt.calls, quieten attempt.result⟩

end IdlScout
