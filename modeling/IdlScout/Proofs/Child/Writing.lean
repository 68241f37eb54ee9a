import IdlScout.Child.Feed

/-! Lines written to a writer that may fail at any time: what it takes is the beginning of the
lines, nothing is asked of it after its first failure, and that failure is the one that is reported,
unless it only says that nobody reads. -/

namespace IdlScout

/-- What a writer does that takes everything. -/
def WriteRequest.granted : WriteRequest → WriteReply
  | .write offered => .takes offered.length
  | .flush => .takes 0

/-- What a writer does on its operation of some number, when it is asked for something. -/
def Writer.reply (writer : Writer) (number : Nat) (request : WriteRequest) : WriteReply :=
  writer[number]?.getD request.granted

/-- The failure of an operation, if it is one: to take nothing is a failure, and to be interrupted
while writing is none. -/
def WriteCall.fault? : WriteCall → Option WriteFault
  | ⟨.write _, .takes 0⟩ => some { kind := .tookNothing }
  | ⟨.write _, .fails fault⟩ => if fault.kind = .interrupted then none else some fault
  | ⟨.flush, .fails fault⟩ => some fault
  | ⟨_, .takes _⟩ => none

/-- An operation that fails takes nothing. -/
theorem WriteCall.taken_of_fault {call : WriteCall} (fails : call.fault? ≠ none) :
    call.taken = [] := by
  -- Only a write that is granted something takes bytes, and it fails only when that is nothing.
  rcases call with ⟨_ | _, _ | _⟩
  case write.takes offered count =>
    cases count with
    | zero => rfl
    | succ count => exact absurd rfl fails
  all_goals rfl

namespace Writer
namespace Attempt

/-- The operations of an attempt are the first ones of a writer. -/
structure Asks (writer : Writer) (attempt : Attempt) : Prop where
  replies : ∀ number call, attempt.calls[number]? = some call →
    call.reply = writer.reply number call.request
  rest : attempt.writer = writer.drop attempt.calls.length

/-- How an attempt to write some bytes ends: all were taken and nothing failed, or the last
operation is the first that failed, and the bytes taken before are the first ones. -/
inductive Delivers (bytes : Bytes) (attempt : Attempt) : Prop where
  | whole (fine : attempt.result = .ok ()) (smooth : ∀ call ∈ attempt.calls, call.fault? = none)
      (all : attempt.taken = bytes)
  | broken {fault : WriteFault} (before : List WriteCall) {last : WriteCall}
      (failed : attempt.result = .error fault) (split : attempt.calls = before ++ [last])
      (smooth : ∀ call ∈ before, call.fault? = none) (breaks : last.fault? = some fault)
      (first : attempt.taken <+: bytes)

variable {writer : Writer} {attempt : Attempt} {next : Writer → Attempt} {bytes more : Bytes}

/-- After a failure the second attempt is not made. -/
theorem andThen_of_error {fault : WriteFault} (failed : attempt.result = .error fault) :
    attempt.andThen next = attempt := by
  rw [andThen, failed]

/-- An attempt that succeeds goes on with the operations of the second. -/
theorem andThen_of_ok (fine : attempt.result = .ok ()) : attempt.andThen next =
    { next attempt.writer with calls := attempt.calls ++ (next attempt.writer).calls } := by
  rw [andThen, fine]

/-- An attempt without an operation asks for nothing. -/
theorem Asks.none (result : Except WriteFault Unit) (writer : Writer) :
    Asks writer ⟨result, writer, []⟩ :=
  ⟨fun number call found => by simp at found, rfl⟩

/-- After one operation of a writer an attempt goes on with the next ones. -/
theorem Asks.after {rest : Writer} (asks : Asks rest attempt) (request : WriteRequest)
    (reply : WriteReply) : Asks (reply :: rest) (attempt.after ⟨request, reply⟩) := by
  refine ⟨fun number later found => ?_, asks.rest⟩
  -- The operation itself is the first of the calls; the others are those of the attempt.
  cases number with
  | zero =>
    obtain rfl : ⟨request, reply⟩ = later := by simpa [Attempt.after] using found
    rfl
  | succ number => exact asks.replies number later (by simpa [Attempt.after] using found)

/-- A writer without a reply of its own grants what it is asked for. -/
theorem Asks.granted (request : WriteRequest) :
    Asks [] ⟨.ok (), [], [⟨request, request.granted⟩]⟩ := by
  refine ⟨fun number call found => ?_, rfl⟩
  cases number with
  | zero =>
    obtain rfl : ⟨request, request.granted⟩ = call := by simpa using found
    rfl
  | succ => simp at found

/-- Two attempts ask for first operations if the second asks for those that the first left. -/
theorem Asks.andThen (asks : Asks writer attempt) (later : ∀ left, Asks left (next left)) :
    Asks writer (attempt.andThen next) := by
  -- The second attempt is made only if the first went well.
  cases outcome : attempt.result with
  | error fault => rwa [andThen_of_error outcome]
  | ok =>
    rw [andThen_of_ok outcome]
    have asksLater := later attempt.writer
    refine ⟨fun number call found => ?_, ?_⟩
    · rcases Nat.lt_or_ge number attempt.calls.length with early | late
      · apply asks.replies number call
        rwa [← List.getElem?_append_left early]
      · -- What is left after the first attempt is counted on from there.
        rw [List.getElem?_append_right late] at found
        have answered := asksLater.replies _ call found
        rw [Writer.reply, asks.rest, List.getElem?_drop, Nat.add_sub_cancel' late] at answered
        exact answered
    · show (next attempt.writer).writer = _
      rw [asksLater.rest, asks.rest, List.drop_drop, List.length_append]

/-- An attempt without an operation delivers nothing. -/
theorem Delivers.none (writer : Writer) : Delivers [] ⟨.ok (), writer, []⟩ :=
  .whole rfl (by simp) rfl

/-- An attempt whose only operation fails ends with that failure. -/
theorem Delivers.single {call : WriteCall} {fault : WriteFault} (breaks : call.fault? = some fault)
    (nothing : call.taken = []) (writer : Writer) (bytes : Bytes) :
    Delivers bytes ⟨.error fault, writer, [call]⟩ := by
  refine .broken [] rfl rfl (by simp) breaks ?_
  simp [Attempt.taken, nothing]

/-- Taking the first bytes and then the others is taking all. -/
theorem Delivers.after (delivers : Delivers more attempt) (call : WriteCall)
    (smooth : call.fault? = .none) : Delivers (call.taken ++ more) (attempt.after call) := by
  -- The operation's own bytes stand before those of the attempt.
  have taken : (attempt.after call).taken = call.taken ++ attempt.taken := by
    simp [Attempt.taken, Attempt.after]
  cases delivers with
  | whole fine others all =>
    exact .whole fine (List.forall_mem_cons.mpr ⟨smooth, others⟩) (by rw [taken, all])
  | @broken fault before last failed split others breaks first =>
    refine .broken (call :: before) failed ?_
      (List.forall_mem_cons.mpr ⟨smooth, others⟩) breaks ?_
    · rw [Attempt.after, split, List.cons_append]
    · rw [taken]
      exact (List.prefix_append_right_inj _).mpr first

/-- One attempt after another delivers the bytes of both, unless one of them fails. -/
theorem Delivers.andThen (delivers : Delivers bytes attempt)
    (later : ∀ left, Delivers more (next left)) :
    Delivers (bytes ++ more) (attempt.andThen next) := by
  -- A failure of the first attempt ends both; otherwise the second one decides.
  cases delivers with
  | @broken fault before last failed split smooth breaks first =>
    rw [andThen_of_error failed]
    exact .broken before failed split smooth breaks (first.trans (List.prefix_append _ _))
  | whole fine smooth all =>
    rw [andThen_of_ok fine]
    have taken (second : Attempt) :
        Attempt.taken { second with calls := attempt.calls ++ second.calls } =
          bytes ++ second.taken := by
      rw [← all, Attempt.taken, List.flatMap_append]
      rfl
    have both {calls : List WriteCall} (smoothLater : ∀ call ∈ calls, call.fault? = .none) :
        ∀ call ∈ attempt.calls ++ calls, call.fault? = .none := fun call member =>
      (List.mem_append.mp member).elim (smooth call) (smoothLater call)
    cases later attempt.writer with
    | whole fineLater smoothLater allLater =>
      exact .whole fineLater (both smoothLater) (by rw [taken, allLater])
    | @broken fault before last failed split smoothLater breaks first =>
      refine .broken (attempt.calls ++ before) failed ?_ (both smoothLater) breaks ?_
      · simp [split]
      · rw [taken]
        exact (List.prefix_append_right_inj _).mpr first

variable {delivered : Attempt}

/-- What is taken is the beginning of what is to be delivered. -/
theorem Delivers.taken_isPrefix (delivers : Delivers bytes delivered) :
    delivered.taken <+: bytes := by
  cases delivers with
  | whole _ _ all => exact all ▸ List.prefix_rfl
  | broken _ _ _ _ _ first => exact first

/-- Unless an operation fails everything is taken. -/
theorem Delivers.taken_eq (delivers : Delivers bytes delivered)
    (smooth : ∀ call ∈ delivered.calls, call.fault? = .none) : delivered.taken = bytes := by
  cases delivers with
  | whole _ _ all => exact all
  -- The last call of an attempt that was broken off failed.
  | @broken fault before last _ split _ breaks _ =>
    have fine := smooth last (by simp [split])
    rw [breaks] at fine
    cases fine

/-- Nothing is asked for after an operation that fails. -/
theorem Delivers.last_of_fault (delivers : Delivers bytes delivered) {before later : List WriteCall}
    {call : WriteCall} (split : delivered.calls = before ++ call :: later)
    (fails : call.fault? ≠ .none) : later = [] := by
  cases delivers with
  | whole _ smooth _ => exact absurd (smooth call (by simp [split])) fails
  | @broken fault early last _ shape smooth _ _ =>
    -- With an operation after it, it would be one of those before the last.
    rcases List.eq_nil_or_concat later with none | ⟨more, final, rfl⟩
    · exact none
    · rw [split, List.concat_eq_append, ← List.cons_append, ← List.append_assoc] at shape
      obtain ⟨rfl, -⟩ := List.append_inj' shape rfl
      exact absurd (smooth call (by simp)) fails

/-- An attempt ends with its first failure, or with none. -/
theorem Delivers.result_eq_error_iff (delivers : Delivers bytes delivered) {fault : WriteFault} :
    delivered.result = .error fault ↔
      delivered.calls.findSome? WriteCall.fault? = some fault := by
  -- All calls before the last one went well, so the first fault is that of the last.
  cases delivers with
  | whole fine smooth _ => simp [fine, List.findSome?_eq_none_iff.mpr smooth]
  | @broken first before last failed split smooth breaks _ =>
    have found : delivered.calls.findSome? WriteCall.fault? = some first := by
      rw [split, List.findSome?_append, List.findSome?_eq_none_iff.mpr smooth]
      simp [breaks]
    rw [failed, found, Except.error.injEq, Option.some.injEq]

end Attempt

open Attempt

/-- Writing asks for a writer's first operations. -/
theorem asks_writeAll (writer : Writer) (bytes : Bytes) : Asks writer (writer.writeAll bytes) := by
  -- The induction is on the walk through the writer's replies, one operation a step.
  fun_induction writeAll writer bytes with
  | case1 writer => exact .none _ writer
  | case2 bytes => exact .granted (.write bytes)
  | case3 fault rest bytes _ call _ ih => exact ih.after _ _
  | case4 fault rest bytes _ call _ => exact (Asks.none _ rest).after _ _
  | case5 rest bytes => exact (Asks.none _ rest).after _ _
  | case6 count rest bytes _ _ ih => exact ih.after _ _

/-- Writing delivers the bytes that are to be written. -/
theorem delivers_writeAll (writer : Writer) (bytes : Bytes) :
    Delivers bytes (writer.writeAll bytes) := by
  -- Each operation takes the first of the bytes that are left, fails, or is made again.
  fun_induction writeAll writer bytes with
  | case1 writer => exact .none writer
  | case2 bytes nonempty =>
    -- No bytes at all would not have been offered.
    have smooth : WriteCall.fault? ⟨.write bytes, .takes bytes.length⟩ = none := by
      cases bytes with
      | nil => exact absurd rfl nonempty
      | cons => rfl
    simpa [WriteCall.taken, Attempt.after] using (Delivers.none []).after _ smooth
  | case3 fault rest bytes _ call interrupted ih =>
    have smooth : call.fault? = none := if_pos interrupted
    exact ih.after _ smooth
  | case4 fault rest bytes _ call others =>
    have breaks : call.fault? = some fault := if_neg others
    exact .single breaks rfl rest bytes
  | case5 rest bytes => exact .single rfl rfl rest bytes
  | case6 count rest bytes _ some ih =>
    have smooth : WriteCall.fault? ⟨.write bytes, .takes count⟩ = none := by
      cases count with
      | zero => exact absurd rfl some
      | succ => rfl
    have all := ih.after _ smooth
    rwa [WriteCall.taken, List.take_append_drop] at all

/-- Passing on asks for one operation and delivers nothing. -/
theorem flush_spec (writer : Writer) : Asks writer writer.flush ∧ Delivers [] writer.flush := by
  cases writer with
  | nil => exact ⟨.granted .flush, (Delivers.none []).after ⟨.flush, .takes 0⟩ rfl⟩
  -- Without replies the writer grants the request; otherwise its first reply decides.
  | cons reply rest =>
    cases reply with
    | takes count =>
      exact ⟨(Asks.none _ rest).after _ _,
        (Delivers.none rest).after ⟨.flush, .takes count⟩ rfl⟩
    | fails fault => exact ⟨(Asks.none _ rest).after _ _, .single rfl rfl rest []⟩

/-- A line is delivered with its end. -/
theorem writeLine_spec (writer : Writer) (line : Text) :
    Asks writer (writer.writeLine line) ∧
      Delivers (Feed.lineBytes line) (writer.writeLine line) := by
  -- The line, its line feed and the passing on follow one another.
  refine ⟨((asks_writeAll writer _).andThen fun left => asks_writeAll left _).andThen fun left =>
    (flush_spec left).1, ?_⟩
  have all := ((delivers_writeAll writer (Utf8.encode line)).andThen fun left =>
    delivers_writeAll left [10]).andThen fun left => (flush_spec left).2
  rwa [List.append_nil] at all

/-- All lines that are not empty are delivered, each with its end. -/
theorem writeLines_spec (writer : Writer) (lines : List Text) :
    Asks writer (writer.writeLines lines) ∧
      Delivers ((lines.filter fun line => !line.isEmpty).flatMap Feed.lineBytes)
        (writer.writeLines lines) := by
  -- The writer that a line leaves is the one that the next line starts with.
  induction lines generalizing writer with
  | nil => exact ⟨.none _ writer, .none writer⟩
  | cons line rest ih =>
    rw [writeLines]
    by_cases empty : line.isEmpty
    · -- An empty line is passed over, in what is expected too.
      rw [if_pos empty, List.filter_cons_of_neg (by simpa using empty)]
      exact ih writer
    · rw [if_neg empty, List.filter_cons_of_pos (by simpa using empty), List.flatMap_cons]
      obtain ⟨asks, delivers⟩ := writeLine_spec writer line
      exact ⟨asks.andThen fun left => (ih left).1, delivers.andThen fun left => (ih left).2⟩

end Writer

/-- A failure is quiet if it says that nobody reads, by its kind or by the system's number. -/
theorem WriteFault.isQuiet_eq_false_iff {fault : WriteFault} : fault.isQuiet = false ↔
    fault.kind ≠ .brokenPipe ∧ fault.kind ≠ .badInput ∧ fault.code ≠ some pipeCode ∧
      fault.code ≠ some argumentCode := by
  simp [isQuiet, and_assoc]

/-- A failure is reported unless it is quiet, and nothing else is. -/
theorem quieten_eq_error_iff {result : Except WriteFault Unit} {fault : WriteFault} :
    quieten result = .error fault ↔ result = .error fault ∧ fault.isQuiet = false := by
  cases result with
  | ok => simp [quieten]
  -- Only a failure can be quiet.
  | error other =>
    cases quiet : other.isQuiet with
    | true =>
      simp only [quieten, quiet, if_true, reduceCtorEq, false_iff, Except.error.injEq, not_and]
      rintro rfl
      simp [quiet]
    | false =>
      simp only [quieten, quiet, Bool.false_eq_true, if_false, Except.error.injEq, iff_self_and]
      rintro rfl
      exact quiet

/-- After lines were forwarded the writer's place is empty. A place that was empty before takes
nothing, and that is no failure. Otherwise the operations on the writer are answered as it answers
its first operations; the bytes it takes are the beginning of the lines that are not empty, each
with its line feed, and all of that if no operation fails; an operation that fails takes nothing and
is the last one; and what is reported is the first failure, if that does not say by its kind or by
its number that nobody reads, and nothing otherwise. -/
theorem forwardLines_reports_first_failure (writer : Writer) (lines : List Text) :
    let forwarded := forwardLines (some writer) lines
    let all := (lines.filter fun line => !line.isEmpty).flatMap Feed.lineBytes
    forwardLines none lines = { place := none, calls := [], result := .ok () } ∧
      forwarded.place = none ∧
      (∀ number call, forwarded.calls[number]? = some call →
        call.reply = writer.reply number call.request) ∧
      forwarded.taken <+: all ∧
      ((∀ call ∈ forwarded.calls, call.fault? = none) → forwarded.taken = all) ∧
      (∀ before call later, forwarded.calls = before ++ call :: later → call.fault? ≠ none →
        call.taken = [] ∧ later = []) ∧
      (∀ fault, forwarded.result = .error fault ↔
        forwarded.calls.findSome? WriteCall.fault? = some fault ∧
          fault.kind ≠ .brokenPipe ∧ fault.kind ≠ .badInput ∧
          fault.code ≠ some WriteFault.pipeCode ∧ fault.code ≠ some WriteFault.argumentCode) := by
  intro forwarded all
  obtain ⟨asks, delivers⟩ := writer.writeLines_spec lines
  -- All parts but the last two are what the writer's own lemmas say.
  refine ⟨rfl, rfl, asks.replies, delivers.taken_isPrefix, delivers.taken_eq, ?_, ?_⟩
  · intro before call later split fails
    exact ⟨call.taken_of_fault fails, delivers.last_of_fault split fails⟩
  · intro fault
    rw [← WriteFault.isQuiet_eq_false_iff]
    exact quieten_eq_error_iff.trans (and_congr_left' delivers.result_eq_error_iff)

/-- Two lines and an empty one are forwarded to a writer that is interrupted once and takes what it
is offered in parts, and to one that fails at the end of the second line. -/
theorem forwardLines_reports_first_failure_of_two_lines :
    let lines : List Text := [['a', 'b'], [], ['c']]
    let patient : Writer := [.fails { kind := .interrupted }, .takes 1, .takes 9]
    let broken : WriteFault := { kind := .other, code := some 5 }
    let failing : Writer := patient ++ [.takes 1, .takes 0, .takes 1, .fails broken, .takes 9]
    let before := (forwardLines (some failing) lines).calls.dropLast
    let last : WriteCall := ⟨.write [10], .fails broken⟩
    (∀ call ∈ (forwardLines (some patient) lines).calls, call.fault? = none) ∧
      (forwardLines (some patient) lines).taken = [97, 98, 10, 99, 10] ∧
      (forwardLines (some failing) lines).calls = before ++ last :: [] ∧ last.fault? ≠ none ∧
      last.taken = [] ∧ (forwardLines (some failing) lines).taken = [97, 98, 10, 99] ∧
      (forwardLines (some failing) lines).result = .error broken := by
  intro lines patient broken failing before last
  have smooth : ∀ call ∈ (forwardLines (some patient) lines).calls, call.fault? = none := by decide
  have split : (forwardLines (some failing) lines).calls = before ++ last :: [] := by decide
  have fails : last.fault? ≠ none := by decide
  obtain ⟨-, -, -, -, all, -, -⟩ := forwardLines_reports_first_failure patient lines
  obtain ⟨-, -, -, -, -, ends, reports⟩ := forwardLines_reports_first_failure failing lines
  exact ⟨smooth, (all smooth).trans (by decide), split, fails, (ends before last [] split fails).1,
    by decide, (reports broken).mpr (by decide)⟩

end IdlScout
