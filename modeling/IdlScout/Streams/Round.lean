import IdlScout.Text.Basic

/-! Rounds: what one wake-up takes from several sources, at most a line from each. -/

namespace IdlScout

/-- A slot per source, in the order of the sources. -/
structure Round where
  slots : List (Option Text)
  deriving Repr, DecidableEq

namespace Round

/-- The number of slots. -/
def size (round : Round) : Nat :=
  round.slots.length

/-- The line of a source, if the round holds one. -/
def get? (round : Round) (source : Nat) : Option Text :=
  (round.slots[source]?).join

/-- The lines of a round, each with its source. -/
def lines (round : Round) : List (Nat × Text) :=
  round.slots.zipIdx.filterMap fun (slot, source) => slot.map fun line => (source, line)

/-- A round holds a line. -/
def hasLine (round : Round) : Bool :=
  round.slots.any Option.isSome

/-- The lines that rounds hold from a source. -/
def linesOf (source : Nat) (rounds : List Round) : List Text :=
  rounds.filterMap fun round => round.get? source

end Round
end IdlScout
