import IdlScout.Text.Basic

/-! What a run shares with those who may stop it. A request is noted first and reaches the child
that is registered then; a child that registers later is stopped at once. -/

namespace IdlScout

/-- Children are told apart by numbers. -/
structure Context where
  stopped : Bool := false
  /-- Requests that have yet to reach the child. -/
  due : Nat := 0
  child : Option Nat := none
  /-- The children that were stopped, in order. -/
  stops : List Nat := []
  deriving Repr, DecidableEq

/-- One atomic action. -/
inductive ContextMove where
  /-- A request is noted; only the first one goes on. -/
  | request
  /-- The first request reaches the child that is registered. -/
  | reach
  | register (child : Nat)
  | clear
  deriving Repr, DecidableEq

namespace Context

/-- The state after an action, if the action is possible. -/
def move? (context : Context) : ContextMove → Option Context
  | .request =>
    some (if context.stopped then context
      else { context with stopped := true, due := context.due + 1 })
  | .reach =>
    match context.due with
    | 0 => none
    | due + 1 => some { context with due, stops := context.stops ++ context.child.toList }
  | .register child =>
    some { context with
      child := some child
      -- A request that came before finds no child, so the child is stopped here.
      stops := context.stops ++ if context.stopped then [child] else [] }
  | .clear => some { context with child := none }

/-- The state after several actions. -/
def moves? (context : Context) (moves : List ContextMove) : Option Context :=
  moves.foldlM move? context

/-- A request from its beginning to its end. -/
def requestStop (context : Context) : Context :=
  if context.stopped then context else (context.moves? [.request, .reach]).getD context

/-- A child is registered. -/
def register (context : Context) (child : Nat) : Context :=
  (context.move? (.register child)).getD context

/-- The child is forgotten. -/
def clear (context : Context) : Context :=
  (context.move? .clear).getD context

/-- Whether a child was stopped. -/
def hasStopped (context : Context) (child : Nat) : Bool :=
  context.stops.contains child

end Context
end IdlScout
