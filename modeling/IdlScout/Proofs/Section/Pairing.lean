import IdlScout.Section.Decoder

/-! A decoder reads the pairs of markers of one kind, whatever the lines. -/

namespace IdlScout

/-- A marker with the number of its line. -/
structure PlacedMarker where
  line : Nat
  marker : Marker
  deriving Repr, DecidableEq

/-- The markers among lines without their endings, the first line having a given number. -/
def PlacedMarker.ofLines (first : Nat) (lines : List Text) : List PlacedMarker :=
  (lines.zipIdx first).filterMap fun (line, number) =>
    (Marker.ofLine? line).map fun marker => ⟨number, marker⟩

/-- Markers that belong together. -/
inductive MarkerGroup where
  /-- An opening marker and the next marker, which is its partner. -/
  | pair (kind : SectionKind) (line : Nat) (partner : PlacedMarker)
  /-- A closing marker that is nobody's partner. -/
  | lone (kind : SectionKind)
  /-- An opening marker that has no partner yet. -/
  | pending (kind : SectionKind)
  deriving Repr, DecidableEq

namespace MarkerGroup

/-- Markers grouped from left to right. -/
def ofMarkers : List PlacedMarker → List MarkerGroup
  | [] => []
  | ⟨_, .closing kind⟩ :: rest => .lone kind :: ofMarkers rest
  | [⟨_, .opening kind⟩] => [.pending kind]
  -- An opening marker takes the next one, even if that opens a section too.
  | ⟨line, .opening kind⟩ :: partner :: rest => .pair kind line partner :: ofMarkers rest

/-- The section of a pair that opens and closes the same kind: the lines strictly between. -/
def section? (lines : List Text) : MarkerGroup → Option Section
  | .pair kind line ⟨last, marker⟩ =>
    if marker = .closing kind then
      some ⟨kind, Text.join ['\n'] ((lines.take last).drop (line + 1))⟩
    else none
  | _ => none

/-- A pair whose partner does not close its kind. -/
def isMismatch : MarkerGroup → Bool
  | .pair kind _ partner => partner.marker != .closing kind
  | _ => false

/-- A closing marker without a partner. -/
def isLone : MarkerGroup → Bool
  | .lone _ => true
  | _ => false

/-- The kind of an opening marker that waits for its partner. -/
def pendingKind? : MarkerGroup → Option SectionKind
  | .pending kind => some kind
  | _ => none

/-- Groups that wait for nothing leave what is pending to those after them. -/
theorem pendingKind?_append {settled : List MarkerGroup}
    (done : ∀ group ∈ settled, group.pendingKind? = none) (groups : List MarkerGroup) :
    (settled ++ groups).getLast?.bind pendingKind? = groups.getLast?.bind pendingKind? := by
  rw [List.getLast?_append]
  -- Without further groups the last settled one is asked, and it waits for nothing.
  cases groups.getLast? with
  | some last => rfl
  | none =>
    cases first : settled.getLast? with
    | none => rfl
    | some group => simp [done group (List.mem_of_getLast? first)]

end MarkerGroup

/-- The markers of further lines follow, and a line that is none adds nothing. -/
theorem PlacedMarker.ofLines_cons (first : Nat) (line : Text) (rest : List Text) :
    PlacedMarker.ofLines first (line :: rest) =
      ((Marker.ofLine? line).map fun marker => ⟨first, marker⟩).toList ++
        PlacedMarker.ofLines (first + 1) rest := by
  cases found : Marker.ofLine? line <;> simp [PlacedMarker.ofLines, List.zipIdx_cons, found]

namespace Decoder

/-- What a decoder holds after some lines: nothing, or the lines since a marker that waits for its
partner. -/
inductive Holds (before : List Text) : Decoder → List PlacedMarker → Prop where
  | idle (anomalies : Nat) : Holds before ⟨none, anomalies⟩ []
  | inside {line : Nat} (kind : SectionKind) (anomalies : Nat) (earlier : line < before.length) :
      Holds before ⟨some ⟨kind, before.drop (line + 1)⟩, anomalies⟩ [⟨line, .opening kind⟩]

/-- What a line does to a decoder, told by the markers: it settles at most one group. -/
structure Settles (before : List Text) (decoder : Decoder) (waiting : List PlacedMarker)
    (line : Text) (settled : List MarkerGroup) (still : List PlacedMarker) : Prop where
  holds : (decoder.feed line).2.Holds (before ++ [dropLineEnding line]) still
  groups : ∀ later, MarkerGroup.ofMarkers (waiting ++
    (((Marker.ofLine? (dropLineEnding line)).map fun marker => ⟨before.length, marker⟩).toList ++
      later)) = settled ++ MarkerGroup.ofMarkers (still ++ later)
  sections : ∀ later, (decoder.feed line).1.section?.toList =
    settled.filterMap (MarkerGroup.section? (before ++ dropLineEnding line :: later))
  anomalies : (decoder.feed line).2.anomalies = decoder.anomalies +
    (settled.countP MarkerGroup.isMismatch + settled.countP MarkerGroup.isLone)
  decided : ∀ group ∈ settled, group.pendingKind? = none

/-- Between sections only a closing marker settles anything. -/
theorem settles_idle (before : List Text) (anomalies : Nat) (line : Text) :
    ∃ settled still, Settles before ⟨none, anomalies⟩ [] line settled still := by
  cases found : Marker.ofLine? (dropLineEnding line) with
  | none =>
    refine ⟨[], [], ?_, fun later => ?_, fun later => ?_, ?_, by simp⟩
    · simpa [feed, found] using Holds.idle anomalies
    · simp [found]
    · simp [feed, found, LineResult.section?]
    · simp [feed, found]
  | some marker =>
    cases marker with
    | opening kind =>
      -- The new section has no lines so far.
      refine ⟨[], [⟨before.length, .opening kind⟩], ?_, fun later => ?_, fun later => ?_, ?_,
        by simp⟩
      · have earlier : before.length < (before ++ [dropLineEnding line]).length := by simp
        have fresh := Holds.inside kind anomalies earlier
        simpa [feed, found] using fresh
      · simp [found]
      · simp [feed, found, LineResult.section?]
      · simp [feed, found]
    | closing kind =>
      -- A closing marker without an opening one is a group of its own.
      refine ⟨[.lone kind], [], ?_, fun later => ?_, fun later => ?_, ?_,
        by simp [MarkerGroup.pendingKind?]⟩
      · simpa [feed, found, refuse] using Holds.idle (anomalies + 1)
      · simp [found, MarkerGroup.ofMarkers]
      · simp [feed, found, refuse, LineResult.section?, MarkerGroup.section?]
      · simp [feed, found, refuse, MarkerGroup.isMismatch, MarkerGroup.isLone]

/-- Inside a section the next marker settles the pair, whatever it is. -/
theorem settles_inside {before : List Text} {start : Nat} (kind : SectionKind) (anomalies : Nat)
    (earlier : start < before.length) (line : Text) :
    ∃ settled still, Settles before ⟨some ⟨kind, before.drop (start + 1)⟩, anomalies⟩
      [⟨start, .opening kind⟩] line settled still := by
  cases found : Marker.ofLine? (dropLineEnding line) with
  | none =>
    -- An ordinary line joins the lines since the marker.
    refine ⟨[], [⟨start, .opening kind⟩], ?_, fun later => ?_, fun later => ?_, ?_, by simp⟩
    · have stillEarlier : start < (before ++ [dropLineEnding line]).length := by
        simp only [List.length_append, List.length_singleton]
        omega
      have longer := Holds.inside kind anomalies stillEarlier
      rw [List.drop_append_of_le_length (by omega)] at longer
      simpa [feed, found] using longer
    · simp [found]
    · simp [feed, found, LineResult.section?]
    · simp [feed, found]
  | some marker =>
    -- Whatever the marker, the pair is complete and nothing waits.
    refine ⟨[.pair kind start ⟨before.length, marker⟩], [], ?_, fun later => ?_, fun later => ?_,
      ?_, by simp [MarkerGroup.pendingKind?]⟩
    · cases marker with
      | opening other => simpa [feed, found, refuse] using Holds.idle (anomalies + 1)
      | closing other =>
        by_cases same : other = kind
        · simpa [feed, found, same] using Holds.idle anomalies
        · simpa [feed, found, same, refuse] using Holds.idle (anomalies + 1)
    · simp [found, MarkerGroup.ofMarkers]
    · -- The section's lines are those read since its marker.
      cases marker with
      | opening other => simp [feed, found, refuse, LineResult.section?, MarkerGroup.section?]
      | closing other =>
        by_cases same : other = kind
        · simp [feed, found, same, LineResult.section?, MarkerGroup.section?]
        · simp [feed, found, same, refuse, LineResult.section?, MarkerGroup.section?]
    · cases marker with
      | opening other => simp [feed, found, refuse, MarkerGroup.isMismatch, MarkerGroup.isLone]
      | closing other =>
        by_cases same : other = kind <;>
          simp [feed, found, same, refuse, MarkerGroup.isMismatch, MarkerGroup.isLone]

/-- Whatever a decoder holds, a line settles at most one group. -/
theorem Holds.settles {before : List Text} {decoder : Decoder} {waiting : List PlacedMarker}
    (holds : decoder.Holds before waiting) (line : Text) :
    ∃ settled still, Settles before decoder waiting line settled still := by
  cases holds with
  | idle anomalies => exact settles_idle before anomalies line
  | inside kind anomalies earlier => exact settles_inside kind anomalies earlier line

/-- What lines give from any state is what their markers give, led by the marker that waits. -/
theorem feedAll_groups (rest : List Text) {before : List Text} {decoder : Decoder}
    {waiting : List PlacedMarker} (holds : decoder.Holds before waiting) :
    let texts := rest.map dropLineEnding
    let groups := MarkerGroup.ofMarkers (waiting ++ PlacedMarker.ofLines before.length texts)
    (decoder.feedAll rest).1.filterMap LineResult.section? =
        groups.filterMap (MarkerGroup.section? (before ++ texts)) ∧
      (decoder.feedAll rest).2.anomalies = decoder.anomalies +
        (groups.countP MarkerGroup.isMismatch + groups.countP MarkerGroup.isLone) ∧
      (decoder.feedAll rest).2.openKind =
        groups.getLast?.bind MarkerGroup.pendingKind? := by
  -- The induction follows the lines; each line read joins those before.
  induction rest generalizing before decoder waiting with
  | nil =>
    cases holds <;>
      simp [feedAll, PlacedMarker.ofLines, MarkerGroup.ofMarkers, MarkerGroup.section?,
        MarkerGroup.isMismatch, MarkerGroup.isLone, MarkerGroup.pendingKind?, openKind]
  | cons line rest ih =>
    obtain ⟨settled, still, step⟩ := holds.settles line
    obtain ⟨sections, anomalies, current⟩ := ih step.holds
    simp only [List.length_append, List.length_singleton, List.append_assoc,
      List.singleton_append] at sections anomalies current
    have unfolded : (decoder.feedAll (line :: rest)) =
        ((decoder.feed line).1 :: ((decoder.feed line).2.feedAll rest).1,
          ((decoder.feed line).2.feedAll rest).2) := rfl
    simp only [List.map_cons, PlacedMarker.ofLines_cons, step.groups, unfolded]
    refine ⟨?_, ?_, ?_⟩
    · -- The sections of the lines are that of the first line, if it closes one, and the others.
      have first := step.sections (rest.map dropLineEnding)
      rw [List.filterMap_append, ← first, ← sections]
      cases closed : (decoder.feed line).1.section? <;> simp [closed]
    · rw [anomalies, step.anomalies, List.countP_append, List.countP_append]
      omega
    · exact current.trans (MarkerGroup.pendingKind?_append step.decided _).symm

end Decoder

/-- A new decoder returns the sections of the pairs that open and close the same kind, in order and
with the lines strictly between; its anomalies are the other pairs and the closing markers that
stand alone; and the section it leaves open is that of a last opening marker without a partner. -/
theorem Decoder.decodeAll_eq_pairing (lines : List Text) :
    let texts := lines.map dropLineEnding
    let groups := MarkerGroup.ofMarkers (PlacedMarker.ofLines 0 texts)
    (Decoder.decodeAll {} lines).1 = groups.filterMap (MarkerGroup.section? texts) ∧
      (Decoder.decodeAll {} lines).2.anomalies =
        groups.countP MarkerGroup.isMismatch + groups.countP MarkerGroup.isLone ∧
      (Decoder.decodeAll {} lines).2.openKind =
        groups.getLast?.bind MarkerGroup.pendingKind? := by
  -- A new decoder is idle, and no line stands before the first.
  have fresh : Holds [] {} [] := .idle 0
  simpa [decodeAll] using feedAll_groups lines fresh

/-- An opening marker inside a section is the partner of the one before it, and is used up. -/
example : MarkerGroup.ofMarkers (PlacedMarker.ofLines 0
    [">>> type".toList, ['x'], ">>> topic".toList, "<<< topic".toList]) =
    [.pair .type 0 ⟨2, .opening .topic⟩, .lone .topic] := by decide

end IdlScout
