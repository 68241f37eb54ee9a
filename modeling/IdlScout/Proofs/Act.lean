import IdlScout.World

/-! What acts do when they are run, and what a run of several says about each of them. -/

namespace IdlScout
namespace Act

variable {σ ε α β : Type} {act : Act σ ε α} {next : α → Act σ ε β} {state : σ × World}

/-- A step that fails ends the act with what was changed so far. -/
theorem bind_apply (act : Act σ ε α) (next : α → Act σ ε β) (state : σ × World) :
    (act >>= next) state = match act state with
      | (.ok value, after) => next value after
      | (.error fault, after) => (.error fault, after) := by
  -- An act is a computation in a state that may end early, so running both by hand shows the same.
  show ExceptT.bindCont next (act state).1 (act state).2 = _
  obtain ⟨result, after⟩ := act state
  cases result <;> rfl

@[simp] theorem pure_apply (value : α) (state : σ × World) :
    (pure value : Act σ ε α) state = (.ok value, state) := rfl

@[simp] theorem throw_apply (fault : ε) (state : σ × World) :
    (throw fault : Act σ ε α) state = (.error fault, state) := rfl

@[simp] theorem own_apply (state : σ × World) :
    (own : Act σ ε σ) state = (.ok state.1, state) := rfl

@[simp] theorem world_apply (state : σ × World) :
    (world : Act σ ε World) state = (.ok state.2, state) := rfl

@[simp] theorem change_apply (f : σ → σ) (state : σ × World) :
    (change f : Act σ ε Unit) state = (.ok (), f state.1, state.2) := rfl

@[simp] theorem setTree_apply (tree : FileTree) (state : σ × World) :
    (setTree tree : Act σ ε Unit) state = (.ok (), state.1, { state.2 with tree }) := rfl

@[simp] theorem note_apply (level : Level) (area : Area) (message : Text)
    (fields : List (Text × Text)) (state : σ × World) :
    (note level area message fields : Act σ ε Unit) state =
      (.ok (), state.1, state.2.note level area message fields) := rfl

/-- After a step that succeeds the act goes on. -/
theorem bind_of_ok {value : α} {after : σ × World} (ran : act state = (.ok value, after)) :
    (act >>= next) state = next value after := by
  rw [bind_apply, ran]

/-- After a step that fails nothing else is done. -/
theorem bind_of_error {fault : ε} {after : σ × World} (ran : act state = (.error fault, after)) :
    (act >>= next) state = (.error fault, after) := by
  rw [bind_apply, ran]

/-- A fault that is caught is handled in the state that it left. -/
theorem tryCatch_apply (act : Act σ ε α) (handler : ε → Act σ ε α) (state : σ × World) :
    (tryCatch act handler) state = match act state with
      | (.ok value, after) => (.ok value, after)
      | (.error fault, after) => handler fault after := by
  show (match (act state).1 with
    | .ok value => (pure (.ok value) : StateM (σ × World) (Except ε α))
    | .error fault => handler fault) (act state).2 = _
  obtain ⟨result, after⟩ := act state
  cases result <;> rfl

/-- A part of the state that an act leaves as it is, even if it fails. -/
def Keeps {τ : Type} (view : σ → τ) (act : Act σ ε α) : Prop :=
  ∀ state, view (act state).2.1 = view state.1

/-- What two acts keep is kept by one after the other. -/
theorem Keeps.bind {τ : Type} {view : σ → τ} (first : act.Keeps view)
    (second : ∀ value, (next value).Keeps view) : (act >>= next).Keeps view := by
  -- Only the first act can end both; else the second starts where the first stopped.
  intro state
  rw [bind_apply, ← first state]
  rcases act state with ⟨_ | value, after⟩
  · rfl
  · exact second value after

section Along

variable {τ : Type} {related : σ × World → τ × World → Prop} {other : Act τ ε α}
  {otherNext : α → Act τ ε β}

/-- Where another act succeeds in a related state, an act gives the same value and leaves a related
state. -/
def Along (related : σ × World → τ × World → Prop) (act : Act σ ε α) (other : Act τ ε α) : Prop :=
  ∀ first second value after, related first second → other second = (.ok value, after) →
    ∃ last, act first = (.ok value, last) ∧ related last after

theorem Along.pure (value : α) :
    Along related (Pure.pure value : Act σ ε α) (Pure.pure value : Act τ ε α) := by
  intro first second found after alike ran
  cases ran
  exact ⟨first, rfl, alike⟩

/-- An act that fails asks nothing of another. -/
theorem Along.throw (act : Act σ ε α) (fault : ε) :
    Along related act (MonadExcept.throw fault : Act τ ε α) := by
  intro first second found after alike ran
  cases ran

/-- What is done next may depend on the value, which the other act gives in some related state. -/
theorem Along.bind_of (before : act.Along related other)
    (later : ∀ value, (∃ first second after, related first second ∧
      other second = (.ok value, after)) → (next value).Along related (otherNext value)) :
    (act >>= next).Along related (other >>= otherNext) := by
  -- A success of both has a success of the first, which the other act shares.
  intro first second found after alike ran
  rw [bind_apply] at ran
  rcases reached : other second with ⟨fault | value, middle⟩
  · rw [reached] at ran
    cases ran
  · rw [reached] at ran
    obtain ⟨between, same, alikeThen⟩ := before first second value middle alike reached
    rw [bind_of_ok same]
    exact later value ⟨first, second, middle, alike, reached⟩ between middle found after alikeThen
      ran

theorem Along.bind (before : act.Along related other)
    (later : ∀ value, (next value).Along related (otherNext value)) :
    (act >>= next).Along related (other >>= otherNext) :=
  before.bind_of fun value _ => later value

/-- What is done with the state may depend on it. -/
theorem Along.own {next : σ → Act σ ε β} {otherNext : τ → Act τ ε β}
    (later : ∀ first second, related first second →
      (next first.1).Along related (otherNext second.1)) :
    (Act.own >>= next).Along related (Act.own >>= otherNext) := by
  -- Both look at their own state, and the two states are related.
  intro first second found after alike ran
  rw [bind_of_ok (own_apply _)] at ran ⊢
  exact later first second alike first second found after alike ran

/-- A fault that is passed on is never a success. -/
theorem Along.tryCatch {handler : ε → Act σ ε α} {otherHandler : ε → Act τ ε α}
    (tries : act.Along related other)
    (fails : ∀ fault state value after, otherHandler fault state ≠ (.ok value, after)) :
    (MonadExcept.tryCatch act handler).Along related
      (MonadExcept.tryCatch other otherHandler) := by
  -- The other act's success is not one of its handler, so the handlers need not be related.
  intro first second found after alike ran
  rw [tryCatch_apply] at ran ⊢
  rcases reached : other second with ⟨fault | value, middle⟩
  · rw [reached] at ran
    exact absurd ran (fails fault middle found after)
  · rw [reached] at ran
    cases ran
    obtain ⟨between, same, alike⟩ := tries first second _ _ alike reached
    rw [same]
    exact ⟨between, rfl, alike⟩

end Along
end Act

/-- A log event changes no file. -/
@[simp] theorem World.note_tree (world : World) (level : Level) (area : Area) (message : Text)
    (fields : List (Text × Text)) : (world.note level area message fields).tree = world.tree := rfl

end IdlScout
