import IdlScout.Text.Basic

/-! The right to interrupt a child. Requests to stop may come from several places at once, while
the child's end is waited for; its number may name another program once the end was collected. -/

namespace IdlScout

/-- How far a request to stop has come. -/
inductive StopPlace where
  | entering
  /-- It was the first one. -/
  | leading
  /-- It found that the child was not known to have ended. -/
  | aiming
  | done
  deriving Repr, DecidableEq

/-- What the requests and the wait share. -/
structure Custody where
  stopRequested : Bool := false
  /-- The child is known to have ended. -/
  exited : Bool := false
  /-- The end was collected, and the child's number is free. -/
  collected : Bool := false
  callers : List StopPlace := []
  /-- Interruptions that were sent, each with whether the end had been collected. -/
  sent : List Bool := []
  deriving Repr, DecidableEq

/-- One atomic action. -/
inductive CustodyMove where
  /-- A request to stop begins. -/
  | call
  /-- A request notes itself, and learns whether it is the first. -/
  | swap (caller : Nat)
  /-- The first request looks whether the child is known to have ended. -/
  | look (caller : Nat)
  /-- The child is interrupted. -/
  | interrupt (caller : Nat)
  /-- The wait for the child's end returns. -/
  | collect
  /-- The end is made known. -/
  | noteExit
  deriving Repr, DecidableEq

namespace Custody

/-- The state after an action, if the action is possible. -/
def move? (custody : Custody) : CustodyMove → Option Custody
  | .call => some { custody with callers := custody.callers ++ [.entering] }
  | .swap caller =>
    if custody.callers[caller]? = some .entering then
      some { custody with
        stopRequested := true
        -- Noting a request and learning whether it is the first are one action.
        callers := custody.callers.set caller (if custody.stopRequested then .done else .leading) }
    else none
  | .look caller =>
    if custody.callers[caller]? = some .leading then
      some { custody with
        callers := custody.callers.set caller (if custody.exited then .done else .aiming) }
    else none
  | .interrupt caller =>
    if custody.callers[caller]? = some .aiming then
      some { custody with
        callers := custody.callers.set caller .done
        sent := custody.sent ++ [custody.collected] }
    else none
  -- From here on the number is free, though the requests cannot see it yet.
  | .collect => if custody.collected then none else some { custody with collected := true }
  | .noteExit =>
    if custody.collected && !custody.exited then some { custody with exited := true } else none

/-- The state after several actions. -/
def moves? (custody : Custody) (moves : List CustodyMove) : Option Custody :=
  moves.foldlM move? custody

/-- An action is done if it is possible. -/
def attempt (custody : Custody) (move : CustodyMove) : Custody :=
  (custody.move? move).getD custody

/-- A request to stop from its beginning to its end, with nothing in between. -/
def stop (custody : Custody) : Custody :=
  let caller := custody.callers.length
  [.call, .swap caller, .look caller, .interrupt caller].foldl attempt custody

/-- The end is collected and made known, with nothing in between. -/
def finish (custody : Custody) : Custody :=
  (custody.attempt .collect).attempt .noteExit

end Custody
end IdlScout
