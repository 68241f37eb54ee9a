import IdlScout.Session.Context

/-! No child escapes a stop, in whatever order requests, registrations and clearings come. -/

namespace IdlScout
namespace Context

/-- What some actions have made of a new context. -/
structure Answers (moves : List ContextMove) (context : Context) : Prop where
  /-- A context is stopped as soon as a stop is requested, and for good. -/
  stopped : context.stopped = true ↔ .request ∈ moves
  /-- The first request alone goes on to the child, and it does so once. -/
  single : moves.count .reach + context.due = if context.stopped then 1 else 0
  /-- The child that is registered has come by a registration. -/
  known : ∀ child, context.child = some child → .register child ∈ moves
  /-- Nothing is stopped but children that were registered, and only on request. -/
  asked : ∀ child ∈ context.stops, .request ∈ moves ∧ .register child ∈ moves
  /-- With no request on its way, the child of a stopped context was stopped. -/
  reached : context.stopped = true → context.due = 0 →
    ∀ child, context.child = some child → child ∈ context.stops

/-- Nothing has become of a new context. -/
theorem answers_new : Answers [] {} :=
  ⟨by simp, rfl, nofun, nofun, nofun⟩

namespace Answers

variable {done : List ContextMove} {context next : Context}

/-- A request is noted, and the first one is then on its way. -/
theorem request (answers : Answers done context)
    (moved : context.move? .request = some next) : Answers (done ++ [.request]) next := by
  obtain rfl : (if context.stopped then context
      else { context with stopped := true, due := context.due + 1 }) = next := by
    simpa only [move?, Option.some.injEq] using moved
  have single := answers.single
  by_cases again : context.stopped = true
  · -- A later request finds the mark of the first one and changes nothing.
    rw [if_pos again] at single ⊢
    refine ⟨by simp [again], ?_, fun child found => ?_, fun child stopped => ?_, answers.reached⟩
    · simpa [again] using single
    · simp [answers.known child found]
    · simp [(answers.asked child stopped).2]
  · rw [if_neg again] at single ⊢
    refine ⟨by simp, ?_, fun child found => ?_, fun child stopped => ?_, fun _ none => ?_⟩
    · -- Nothing was on its way, and nothing had reached a child.
      obtain ⟨unreached, nothing⟩ : done.count .reach = 0 ∧ context.due = 0 := by
        simpa using single
      simp [unreached, nothing]
    · simp [answers.known child found]
    · simp [(answers.asked child stopped).2]
    · -- It has not reached the child yet.
      cases none

/-- The request on its way stops the child that it finds. -/
theorem reach (answers : Answers done context)
    (moved : context.move? .reach = some next) : Answers (done ++ [.reach]) next := by
  simp only [move?] at moved
  cases owed : context.due with
  | zero => simp [owed] at moved
  | succ due =>
    obtain rfl : { context with due, stops := context.stops ++ context.child.toList } = next := by
      simpa only [owed, Option.some.injEq] using moved
    have single := answers.single
    -- A request is on its way only after it was noted.
    have stopped : context.stopped = true := by
      cases noted : context.stopped with
      | true => rfl
      | false => simp [noted, owed] at single
    have requested := answers.stopped.mp stopped
    refine ⟨by simp [stopped, requested], ?_, fun child found => ?_, fun child hit => ?_,
      fun _ _ child found => ?_⟩
    · -- What was owed is paid now.
      rw [if_pos stopped] at single ⊢
      simp only [List.count_append, List.count_singleton_self]
      omega
    · simp [answers.known child found]
    · rcases List.mem_append.mp hit with earlier | now
      · simp [answers.asked child earlier]
      · simp [requested, answers.known child (Option.mem_toList.mp now)]
    · -- The child that is found is the one that is registered.
      exact List.mem_append_right _ (Option.mem_toList.mpr found)

/-- A child that comes after a request is stopped at its registration. -/
theorem register {fresh : Nat} (answers : Answers done context)
    (moved : context.move? (.register fresh) = some next) :
    Answers (done ++ [.register fresh]) next := by
  obtain rfl : { context with
      child := some fresh
      stops := context.stops ++ if context.stopped then [fresh] else [] } = next := by
    simpa only [move?, Option.some.injEq] using moved
  refine ⟨by simp [answers.stopped], by simpa using answers.single, fun child found => ?_,
    fun child hit => ?_, fun stopped _ child found => ?_⟩
  · -- The one that is registered is the new child.
    obtain rfl : fresh = child := by simpa using found
    simp
  · -- A child that was stopped before was registered before; if it is the new one, it is stopped
    -- now.
    rcases List.mem_append.mp hit with earlier | now
    · simp [answers.asked child earlier]
    · obtain ⟨stopped, rfl⟩ : context.stopped = true ∧ child = fresh := by simpa using now
      simp [answers.stopped.mp stopped]
  · -- Whether the request has come this far does not matter here.
    obtain rfl : fresh = child := by simpa using found
    simp only at stopped
    simp [stopped]

/-- Where no child is registered none has to be stopped. -/
theorem clear (answers : Answers done context)
    (moved : context.move? .clear = some next) : Answers (done ++ [.clear]) next := by
  obtain rfl : { context with child := none } = next := by
    simpa only [move?, Option.some.injEq] using moved
  -- A clearing takes nothing back of what was asked or reached.
  refine ⟨by simp [answers.stopped], by simpa using answers.single, nofun, fun child hit => ?_,
    nofun⟩
  simp [answers.asked child hit]

/-- What holds of the actions so far holds after one more. -/
theorem step {move : ContextMove} (answers : Answers done context)
    (moved : context.move? move = some next) : Answers (done ++ [move]) next := by
  -- Each action has a lemma of its own, as each touches other fields.
  cases move with
  | request => exact answers.request moved
  | reach => exact answers.reach moved
  | register child => exact answers.register moved
  | clear => exact answers.clear moved

/-- What holds of the actions so far holds after any more. -/
theorem moves {more : List ContextMove} {last : Context} (answers : Answers done context)
    (run : context.moves? more = some last) : Answers (done ++ more) last := by
  -- Actions move one by one from those to come to those that are done.
  induction more generalizing done context with
  | nil =>
    obtain rfl : context = last := by simpa [moves?] using run
    simpa using answers
  | cons move rest ih =>
    obtain ⟨next, moved, run⟩ : ∃ next, context.move? move = some next ∧
        next.moves? rest = some last := by
      simpa [moves?, Option.bind_eq_some_iff] using run
    have whole := ih (answers.step moved) run
    rwa [List.append_assoc, List.singleton_append] at whole

end Answers

/-- In whatever order requests, registrations and clearings came: once a stop was requested and no
request is on its way, the child that is registered was stopped; a further request changes nothing;
and no child was stopped without a request, or without having been registered. -/
theorem stop_reaches_registered_child (moves : List ContextMove) (context : Context)
    (run : Context.moves? {} moves = some context) :
    (context.stopped = true ↔ .request ∈ moves) ∧
      (.request ∈ moves → context.due = 0 →
        ∀ child, context.child = some child → context.hasStopped child = true) ∧
      (.request ∈ moves → context.move? .request = some context ∧
        context.requestStop = context) ∧
      ∀ child, context.hasStopped child = true → .request ∈ moves ∧ .register child ∈ moves := by
  have answers : Answers moves context := answers_new.moves run
  refine ⟨answers.stopped, fun requested calm child found => ?_, fun requested => ?_,
    fun child hit => answers.asked child (by simpa [hasStopped] using hit)⟩
  · -- No request is on its way, so the flag's effect has come to the child.
    have stopped := answers.reached (answers.stopped.mpr requested) calm child found
    simpa [hasStopped] using stopped
  · have stopped := answers.stopped.mpr requested
    exact ⟨by simp [move?, stopped], by simp [requestStop, stopped]⟩

/-- A child takes the place of another between a request and the look for the child. -/
theorem stop_reaches_registered_child_of_late_registration :
    let moves : List ContextMove := [.register 1, .request, .register 2, .request, .reach]
    let context : Context := ⟨true, 0, some 2, [2, 2]⟩
    Context.moves? {} moves = some context ∧ .request ∈ moves ∧
      context.hasStopped 2 = true ∧ context.requestStop = context := by
  intro moves context
  have run : Context.moves? {} moves = some context := by decide
  have requested : .request ∈ moves := by decide
  obtain ⟨-, reached, again, -⟩ := stop_reaches_registered_child moves context run
  exact ⟨run, requested, reached requested rfl 2 rfl, (again requested).2⟩

end Context
end IdlScout
