import IdlScout.Child.Custody

/-! A child is interrupted at most once, and after its end was collected only by a request that
looked before the end was noted. -/

namespace IdlScout

namespace StopPlace

/-- A request at this place may still interrupt the child. -/
def mayInterrupt : StopPlace → Bool
  | .leading | .aiming => true
  | .entering | .done => false

end StopPlace

namespace Custody

/-- What some actions have made of the right to interrupt a child. -/
structure Account (moves : List CustodyMove) (custody : Custody) : Prop where
  /-- The first request alone may interrupt, or has interrupted. -/
  single : custody.callers.countP StopPlace.mayInterrupt + custody.sent.length ≤
    if custody.stopRequested then 1 else 0
  /-- A noted end was noted by the wait. -/
  noted : .noteExit ∈ moves → custody.exited = true
  /-- A collected end was collected by the wait. -/
  ended : custody.collected = true → .collect ∈ moves
  /-- A request that aims has looked, and the end was not noted before that. -/
  aimed : ∀ caller, custody.callers[caller]? = some .aiming →
    ∃ before after, moves = before ++ .look caller :: after ∧ .noteExit ∉ before
  /-- An interruption that came late was aimed before the end was noted. -/
  late : true ∈ custody.sent → ∃ caller before between after,
    moves = before ++ .look caller :: (between ++ .interrupt caller :: after) ∧
      .collect ∈ before ++ between ∧ .noteExit ∉ before

/-- Nothing was done with a new child. -/
theorem account_new : Account [] {} :=
  ⟨by decide, nofun, nofun, nofun, nofun⟩

/-- A request that moves on frees its place and takes another. -/
theorem countP_set {callers : List StopPlace} {caller : Nat} {place : StopPlace}
    (found : callers[caller]? = some place) (other : StopPlace) :
    (callers.set caller other).countP StopPlace.mayInterrupt + place.mayInterrupt.toNat =
      callers.countP StopPlace.mayInterrupt + other.mayInterrupt.toNat := by
  induction callers generalizing caller with
  | nil => simp at found
  | cons first rest ih =>
    cases caller with
    | zero =>
      -- Only the request at that place counts for more or less.
      obtain rfl : first = place := by simpa using found
      cases first <;> cases other <;> simp [List.countP_cons, StopPlace.mayInterrupt]
    | succ caller =>
      have later := ih (by simpa using found)
      simp only [List.set_cons_succ, List.countP_cons]
      omega

/-- A place that is found after one request moved on is its new place, or was there before. -/
theorem of_getElem?_set {callers : List StopPlace} {caller other : Nat} {place found : StopPlace}
    (at_ : (callers.set caller place)[other]? = some found) :
    (caller = other ∧ place = found) ∨ callers[other]? = some found := by
  rw [List.getElem?_set] at at_
  split at at_
  · rename_i same
    split at at_
    · exact .inl ⟨same, Option.some.inj at_⟩
    · cases at_
  · exact .inr at_

namespace Account

variable {done : List CustodyMove} {custody after : Custody}

/-- A look in time stays one when more actions come. -/
theorem looked {caller : Nat} (move : CustodyMove)
    (told : ∃ before after, done = before ++ .look caller :: after ∧ .noteExit ∉ before) :
    ∃ before after, done ++ [move] = before ++ .look caller :: after ∧ .noteExit ∉ before := by
  obtain ⟨before, rest, rfl, unnoted⟩ := told
  exact ⟨before, rest ++ [move], by simp, unnoted⟩

/-- A late interruption stays one when more actions come. -/
theorem stays_late (account : Account done custody) (move : CustodyMove)
    (late : true ∈ custody.sent) : ∃ caller before between after,
      done ++ [move] = before ++ .look caller :: (between ++ .interrupt caller :: after) ∧
        .collect ∈ before ++ between ∧ .noteExit ∉ before := by
  obtain ⟨caller, before, between, rest, rfl, collected, unnoted⟩ := account.late late
  exact ⟨caller, before, between, rest ++ [move], by simp, collected, unnoted⟩

/-- A request that begins has no right yet. -/
theorem call (account : Account done custody) (moved : custody.move? .call = some after) :
    Account (done ++ [.call]) after := by
  obtain rfl : { custody with callers := custody.callers ++ [.entering] } = after := by
    simpa only [move?, Option.some.injEq] using moved
  refine ⟨by simpa [StopPlace.mayInterrupt] using account.single, fun told => ?_, fun ended => ?_,
    fun caller aims => looked _ (account.aimed caller ?_), account.stays_late _⟩
  · exact account.noted (by simpa using told)
  · simp [account.ended ended]
  · -- The new request enters, and so it is not the one that aims.
    rw [List.getElem?_append] at aims
    split at aims
    · exact aims
    · simp [List.getElem?_singleton] at aims

/-- The first request gets the right, and a later one gets nothing. -/
theorem swap {caller : Nat} (account : Account done custody)
    (moved : custody.move? (.swap caller) = some after) :
    Account (done ++ [.swap caller]) after := by
  simp only [move?, Option.ite_none_right_eq_some, Option.some.injEq] at moved
  obtain ⟨entering, rfl⟩ := moved
  have single := account.single
  refine ⟨?_, fun told => ?_, fun ended => ?_, fun other aims => looked _ (account.aimed other ?_),
    account.stays_late _⟩
  · cases requested : custody.stopRequested with
    | true =>
      -- A later request is done at once, and the right stays where it is.
      have count := countP_set entering .done
      simp only [requested, if_true, StopPlace.mayInterrupt, Bool.toNat_false] at single count ⊢
      omega
    | false =>
      -- Before the first request nobody had the right, and nothing was sent.
      have count := countP_set entering .leading
      simp only [requested, Bool.false_eq_true, if_false, if_true, StopPlace.mayInterrupt,
        Bool.toNat_false, Bool.toNat_true] at single count ⊢
      omega
  · exact account.noted (by simpa using told)
  · simp [account.ended ended]
  · rcases of_getElem?_set aims with ⟨-, place⟩ | old
    · cases requested : custody.stopRequested <;> simp [requested] at place
    · exact old

/-- A request that looks keeps its right only if the end was not noted. -/
theorem look {caller : Nat} (account : Account done custody)
    (moved : custody.move? (.look caller) = some after) :
    Account (done ++ [.look caller]) after := by
  simp only [move?, Option.ite_none_right_eq_some, Option.some.injEq] at moved
  obtain ⟨leading, rfl⟩ := moved
  have single := account.single
  refine ⟨?_, fun told => ?_, fun ended => ?_, fun other aims => ?_, account.stays_late _⟩
  · -- Whether it goes on or not, it has no more than the right that it had.
    have fewer : (if custody.exited then StopPlace.done else .aiming).mayInterrupt.toNat ≤
        StopPlace.leading.mayInterrupt.toNat := Bool.toNat_le _
    have count := countP_set leading (if custody.exited then .done else .aiming)
    dsimp only
    omega
  · exact account.noted (by simpa using told)
  · simp [account.ended ended]
  · rcases of_getElem?_set aims with ⟨rfl, place⟩ | old
    · -- It would have found an end that was noted by one of the actions so far.
      refine ⟨done, [], rfl, fun told => ?_⟩
      simp [account.noted told] at place
    · exact looked _ (account.aimed other old)

/-- The right is used up by an interruption, and a late one was aimed before. -/
theorem interrupt {caller : Nat} (account : Account done custody)
    (moved : custody.move? (.interrupt caller) = some after) :
    Account (done ++ [.interrupt caller]) after := by
  simp only [move?, Option.ite_none_right_eq_some, Option.some.injEq] at moved
  obtain ⟨aiming, rfl⟩ := moved
  have single := account.single
  refine ⟨?_, fun told => ?_, fun ended => ?_, fun other aims => ?_, fun late => ?_⟩
  · have count := countP_set aiming .done
    simp only [StopPlace.mayInterrupt, Bool.toNat_true, Bool.toNat_false, List.length_append,
      List.length_singleton] at count ⊢
    omega
  · exact account.noted (by simpa using told)
  · simp [account.ended ended]
  · rcases of_getElem?_set aims with ⟨-, place⟩ | old
    · cases place
    · exact looked _ (account.aimed other old)
  · rcases List.mem_append.mp late with earlier | now
    · exact account.stays_late _ earlier
    · -- The end was collected before the look, or between the look and this.
      obtain ⟨before, between, rfl, unnoted⟩ := account.aimed caller aiming
      have collected : .collect ∈ before ++ .look caller :: between :=
        account.ended (List.mem_singleton.mp now).symm
      exact ⟨caller, before, between, [], by simp, by simpa using collected, unnoted⟩

/-- From here on interruptions are late. -/
theorem collect (account : Account done custody)
    (moved : custody.move? .collect = some after) : Account (done ++ [.collect]) after := by
  simp only [move?, Option.ite_none_left_eq_some, Option.some.injEq] at moved
  obtain ⟨-, rfl⟩ := moved
  exact ⟨account.single, fun told => account.noted (by simpa using told), fun _ => by simp,
    fun caller aims => looked _ (account.aimed caller aims), account.stays_late _⟩

/-- From here on no request aims any more. -/
theorem noteExit (account : Account done custody)
    (moved : custody.move? .noteExit = some after) : Account (done ++ [.noteExit]) after := by
  simp only [move?, Option.ite_none_right_eq_some, Option.some.injEq] at moved
  obtain ⟨-, rfl⟩ := moved
  exact ⟨account.single, fun _ => rfl, fun ended => by simp [account.ended ended],
    fun caller aims => looked _ (account.aimed caller aims), account.stays_late _⟩

/-- What holds of the actions so far holds after one more. -/
theorem step {move : CustodyMove} (account : Account done custody)
    (moved : custody.move? move = some after) : Account (done ++ [move]) after := by
  cases move with
  | call => exact account.call moved
  | swap caller => exact account.swap moved
  | look caller => exact account.look moved
  | interrupt caller => exact account.interrupt moved
  | collect => exact account.collect moved
  | noteExit => exact account.noteExit moved

/-- What holds of the actions so far holds after any more. -/
theorem moves {more : List CustodyMove} {last : Custody} (account : Account done custody)
    (run : custody.moves? more = some last) : Account (done ++ more) last := by
  -- Actions move one by one from those to come to those that are done.
  induction more generalizing done custody with
  | nil =>
    obtain rfl : custody = last := by simpa [moves?] using run
    simpa using account
  | cons move rest ih =>
    obtain ⟨middle, moved, run⟩ : ∃ middle, custody.move? move = some middle ∧
        middle.moves? rest = some last := by
      simpa [moves?, Option.bind_eq_some_iff] using run
    have whole := ih (account.step moved) run
    rwa [List.append_assoc, List.singleton_append] at whole

end Account

/-- In whatever order requests and the wait took their steps: the child was interrupted at most
once, and if its end had been collected by then, the request that interrupted it had looked before
the end was noted. -/
theorem interruption_is_single (moves : List CustodyMove) (custody : Custody)
    (run : moves? {} moves = some custody) :
    custody.sent.length ≤ 1 ∧
      (true ∈ custody.sent → ∃ caller before between after,
        moves = before ++ .look caller :: (between ++ .interrupt caller :: after) ∧
          .collect ∈ before ++ between ∧ .noteExit ∉ before) := by
  have account : Account moves custody := account_new.moves run
  refine ⟨?_, account.late⟩
  have single := account.single
  split at single <;> omega

/-- A request that looked in time may still come late: the end is collected between its look and
its interruption. -/
theorem interruption_may_be_late :
    ∃ custody, moves? {} [.call, .swap 0, .look 0, .collect, .interrupt 0] = some custody ∧
      custody.sent = [true] :=
  ⟨_, rfl, rfl⟩

end Custody
end IdlScout
