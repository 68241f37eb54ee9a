import IdlScout.Json.Record
import IdlScout.Proofs.Json.Grammar
import Mathlib.Data.List.Basic

/-! Values of unknown fields are passed over: the machine comes out behind every value, however deep
it is nested, with nothing changed of what it has found. -/

namespace IdlScout
namespace Json

/-- What holds of a value if it holds of its items or members holds of all values. -/
@[elab_as_elim, induction_eliminator]
theorem Value.induction {motive : Value → Prop} (word : ∀ written, motive (.word written))
    (number : ∀ numeral, motive (.number numeral)) (string : ∀ units, motive (.string units))
    (list : ∀ items, (∀ item ∈ items, motive item) → motive (.list items))
    (object : ∀ members, (∀ member ∈ members, motive member.2) → motive (.object members))
    (value : Value) : motive value :=
  -- The recursor of the nested type, with the motives for the lists and pairs inside.
  Value.rec (motive_1 := motive) (motive_2 := fun items => ∀ item ∈ items, motive item)
    (motive_3 := fun members => ∀ member ∈ members, motive member.2)
    (motive_4 := fun member => motive member.2) word number string list object
    (fun _ listed => absurd listed List.not_mem_nil)
    (fun _ _ first others => List.forall_mem_cons.mpr ⟨first, others⟩)
    (fun _ listed => absurd listed List.not_mem_nil)
    (fun _ _ first others => List.forall_mem_cons.mpr ⟨first, others⟩)
    (fun _ _ held => held) value

/-- The tokens of a value do not begin with the end of a list. -/
theorem Value.exists_tokens (value : Value) :
    ∃ first rest, value.tokens = first :: rest ∧ first ≠ .closeList := by
  cases value <;> exact ⟨_, _, rfl, nofun⟩

namespace Reading

variable {fields : List Field} {reading : Reading} {frames : List Frame}

/-- The machine takes tokens one after the other. -/
def steps (fields : List Field) (reading : Reading) (tokens : List Token) : Except Fault Reading :=
  tokens.foldlM (step fields) reading

/-- Tokens that come in two parts are taken one part after the other. -/
theorem steps_append {reading middle : Reading} {before : List Token} (after : List Token)
    (taken : reading.steps fields before = .ok middle) :
    reading.steps fields (before ++ after) = middle.steps fields after := by
  unfold steps at taken ⊢
  rw [List.foldlM_append, taken]
  rfl

/-- The first of some tokens is taken before the others. -/
theorem steps_cons {reading next : Reading} {token : Token} (rest : List Token)
    (taken : reading.step fields token = .ok next) :
    reading.steps fields (token :: rest) = next.steps fields rest := by
  unfold steps
  rw [List.foldlM_cons, taken]
  rfl

/-- The machine is where a value that is passed over has brought it. -/
def skimmed (reading : Reading) : Option (Skim × List Frame) → Reading
  | none => { reading with place := .after }
  | some (skim, frames) => { reading with place := .skim skim frames }

/-- A value is due that is passed over inside frames. -/
def Skims (fields : List Field) (reading : Reading) (frames : List Frame) : Prop :=
  ∀ token, token ≠ .closeList →
    step fields reading token = (Skim.valueStep frames token).map reading.skimmed

/-- Inside a value that is passed over, a token is passed over. -/
theorem step_skim (fields : List Field) (reading : Reading) (skim : Skim) (frames : List Frame)
    (token : Token) : step fields { reading with place := .skim skim frames } token =
      (skim.step frames token).map reading.skimmed := by
  -- What the skimming returns is put back into the reading as it is.
  cases taken : skim.step frames token with
  | error => simp [step, taken, Except.map, bind, Except.bind]
  | ok next =>
    rcases next with _ | ⟨_, _⟩ <;>
      simp [step, taken, skimmed, Except.map, pure, Except.pure, bind, Except.bind]

/-- Where the value of an unknown field is due, it is passed over inside no frames. -/
theorem skims_unknown (fields : List Field) (reading : Reading) :
    Skims fields { reading with place := .value none } [] := by
  intro token _
  -- The value is taken by the first step of a skimming that has no frames yet.
  cases taken : Skim.valueStep [] token with
  | error => simp [step, value, taken, Except.map, bind, Except.bind]
  | ok next =>
    rcases next with _ | ⟨_, _⟩ <;>
      simp [step, value, taken, skimmed, Except.map, pure, Except.pure, bind, Except.bind]

/-- Where a value is due inside frames, it is passed over inside them: behind a comma or a colon,
and at the start of a list. -/
theorem skims_inside {skim : Skim}
    (due : skim = .value ∨ skim = .opened ∧ frames.head? = some .list) :
    Skims fields { reading with place := .skim skim frames } frames := by
  intro token other
  rw [step_skim]
  rcases due with rfl | ⟨rfl, listed⟩
  · rfl
  · obtain ⟨outer, rfl⟩ := List.head?_eq_some_iff.mp listed
    -- The end of the list is excluded, and every other token is one of a value.
    cases token <;> first | rfl | exact absurd rfl other

/-- Pieces are passed over one by one, behind commas and up to the closing bracket. -/
theorem steps_skim_others {frame : Frame} {due : Skim} {closing : Token}
    {pieces : List (List Token)}
    (comma : Skim.step .after (frame :: frames) .comma = .ok (some (due, frame :: frames)))
    (closes : Skim.step .after (frame :: frames) closing = .ok (Skim.passed frames))
    (each : ∀ piece ∈ pieces,
      steps fields { reading with place := .skim due (frame :: frames) } piece =
        .ok { reading with place := .skim .after (frame :: frames) }) :
    steps fields { reading with place := .skim .after (frame :: frames) }
        (pieces.flatMap (.comma :: ·) ++ [closing]) =
      .ok (reading.skimmed (Skim.passed frames)) := by
  induction pieces with
  | nil =>
    have closed := step_skim fields reading .after (frame :: frames) closing
    rw [closes] at closed
    rw [List.flatMap_nil, List.nil_append, steps_cons _ closed]
    rfl
  | cons piece rest ih =>
    obtain ⟨first, others⟩ := List.forall_mem_cons.mp each
    -- The comma asks for a piece, which ends where the next comma or the bracket is due.
    have begun := step_skim fields reading .after (frame :: frames) .comma
    rw [comma] at begun
    rw [List.flatMap_cons, List.append_assoc, List.cons_append, steps_cons _ begun]
    exact (steps_append _ first).trans (ih others)

/-- Pieces between brackets are passed over. -/
theorem steps_skim_enclosed {frame : Frame} {due : Skim} {closing : Token}
    {pieces : List (List Token)}
    (comma : Skim.step .after (frame :: frames) .comma = .ok (some (due, frame :: frames)))
    (closes : ∀ skim ∈ [Skim.opened, .after],
      Skim.step skim (frame :: frames) closing = .ok (Skim.passed frames))
    (each : ∀ piece ∈ pieces, ∀ skim ∈ [Skim.opened, due],
      steps fields { reading with place := .skim skim (frame :: frames) } piece =
        .ok { reading with place := .skim .after (frame :: frames) }) :
    steps fields { reading with place := .skim .opened (frame :: frames) }
        (commaSeparated pieces ++ [closing]) = .ok (reading.skimmed (Skim.passed frames)) := by
  cases pieces with
  | nil =>
    -- Right behind the opening bracket the closing one may follow.
    have closed := step_skim fields reading .opened (frame :: frames) closing
    rw [closes .opened (by simp)] at closed
    rw [commaSeparated, List.nil_append, steps_cons _ closed]
    rfl
  | cons piece rest =>
    -- The first piece stands right behind the bracket, the others behind commas.
    obtain ⟨first, others⟩ := List.forall_mem_cons.mp each
    rw [commaSeparated, List.append_assoc, steps_append _ (first .opened (by simp))]
    exact steps_skim_others comma (closes .after (by simp)) fun piece listed =>
      others piece listed due (by simp)

/-- A token that can begin a value brings the machine where it leads. -/
theorem Skims.taken {next : Option (Skim × List Frame)}
    (skims : Skims fields reading frames) (token : Token) (other : token ≠ .closeList)
    (passes : Skim.valueStep frames token = .ok next) :
    step fields reading token = .ok (reading.skimmed next) := by
  rw [skims token other, passes]
  rfl

/-- Every value is passed over, up to its end. -/
theorem steps_skim (value : Value) {reading : Reading} {frames : List Frame}
    (skims : Skims fields reading frames) :
    steps fields reading value.tokens = .ok (reading.skimmed (Skim.passed frames)) := by
  -- A value inside another is passed over inside one frame more.
  induction value generalizing reading frames with
  | word written => exact steps_cons [] (skims.taken _ nofun rfl)
  | number numeral => exact steps_cons [] (skims.taken _ nofun rfl)
  | string units => exact steps_cons [] (skims.taken _ nofun rfl)
  | list items ih =>
    have opened : step fields reading .openList =
        .ok { reading with place := .skim .opened (.list :: frames) } :=
      skims.taken .openList nofun rfl
    rw [Value.tokens, steps_cons _ opened, Value.itemTokens_eq_map]
    refine @steps_skim_enclosed _ _ _ _ .value _ _ rfl ?_ ?_
    · rintro skim listed
      rcases List.mem_pair.mp listed with rfl | rfl <;> rfl
    · intro piece listed skim due
      obtain ⟨item, member, rfl⟩ := List.mem_map.mp listed
      -- An item is due behind the bracket and behind each comma.
      have skims : Skims fields { reading with place := .skim skim (.list :: frames) }
          (.list :: frames) := by
        refine skims_inside ?_
        rcases List.mem_pair.mp due with rfl | rfl
        · exact .inr ⟨rfl, rfl⟩
        · exact .inl rfl
      exact ih item member skims
  | object members ih =>
    have opened : step fields reading .openObject =
        .ok { reading with place := .skim .opened (.object :: frames) } :=
      skims.taken .openObject nofun rfl
    rw [Value.tokens, steps_cons _ opened, Value.memberTokens_eq_map]
    refine @steps_skim_enclosed _ _ _ _ .key _ _ rfl ?_ ?_
    · rintro skim listed
      rcases List.mem_pair.mp listed with rfl | rfl <;> rfl
    · intro piece listed skim due
      obtain ⟨⟨key, value⟩, member, rfl⟩ := List.mem_map.mp listed
      -- A key is due behind the bracket and behind each comma, and its value behind the colon.
      have keyed : step fields { reading with place := .skim skim (.object :: frames) }
          (.string key none) = .ok { reading with place := .skim .colon (.object :: frames) } := by
        rcases List.mem_pair.mp due with rfl | rfl <;> rfl
      have coloned : step fields { reading with place := .skim .colon (.object :: frames) } .colon =
          .ok { reading with place := .skim .value (.object :: frames) } := rfl
      rw [steps_cons _ keyed, steps_cons _ coloned]
      exact ih _ member (skims_inside (.inl rfl))

end Reading
end Json
end IdlScout
