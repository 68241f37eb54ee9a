import IdlScout.Emission.Emitter

/-! The last detection of each name among notices, and what a receiver answers to notices. -/

namespace IdlScout

namespace Notice

/-- The type that was detected by itself. -/
def type? : Notice → Option DetectedType
  | .type detected => some detected
  | _ => none

/-- The topic that was detected. -/
def topic? : Notice → Option DetectedTopic
  | .topic detected => some detected
  | _ => none

/-- The last type of a name in some notices. -/
def lastType? (notices : List Notice) (name : Text) : Option DetectedType :=
  ((notices.filterMap type?).filter (·.fullName == name)).getLast?

/-- The last topic of a name in some notices. -/
def lastTopic? (notices : List Notice) (name : Text) : Option DetectedTopic :=
  ((notices.filterMap topic?).filter (·.name == name)).getLast?

/-- A later type of a name takes the place of an earlier one. -/
theorem lastType?_concat (notices : List Notice) (notice : Notice) (name : Text) :
    lastType? (notices ++ [notice]) name =
      (notice.type?.filter (·.fullName == name)).or (lastType? notices name) := by
  -- Only a notice of a type of this name comes before what the earlier notices say.
  cases found : notice.type? with
  | none => simp [lastType?, found]
  | some detected =>
    by_cases same : detected.fullName = name <;> simp [lastType?, found, same, Option.filter]

/-- A later topic of a name takes the place of an earlier one. -/
theorem lastTopic?_concat (notices : List Notice) (notice : Notice) (name : Text) :
    lastTopic? (notices ++ [notice]) name =
      (notice.topic?.filter (·.name == name)).or (lastTopic? notices name) := by
  -- Only a notice of a topic of this name comes before what the earlier notices say.
  cases found : notice.topic? with
  | none => simp [lastTopic?, found]
  | some detected =>
    by_cases same : detected.name = name <;> simp [lastTopic?, found, same, Option.filter]

/-- The last type of a name has the name. -/
theorem fullName_of_lastType? {notices : List Notice} {name : Text} {detected : DetectedType}
    (last : lastType? notices name = some detected) : detected.fullName = name := by
  simpa using (List.mem_filter.mp (List.mem_of_getLast? last)).2

/-- The last topic of a name has the name. -/
theorem name_of_lastTopic? {notices : List Notice} {name : Text} {detected : DetectedTopic}
    (last : lastTopic? notices name = some detected) : detected.name = name := by
  simpa using (List.mem_filter.mp (List.mem_of_getLast? last)).2

end Notice

namespace Emitter

/-- What a receiver answers to notices one after the other, whatever it answers, and how it and the
world are after them. -/
def reactions : List Notice → Emitter × World → List (Except OutputFault Unit) × Emitter × World
  | [], state => ([], state)
  | notice :: rest, state =>
    let (answer, state) := react notice state
    let (answers, state) := reactions rest state
    (answer :: answers, state)

end Emitter
end IdlScout
