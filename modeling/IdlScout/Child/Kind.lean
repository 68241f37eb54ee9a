import IdlScout.Child.Live

/-! What a session sees of a child. Nothing else decides how the session goes on, so a child of any
kind may run in it. -/

namespace IdlScout

/-- A kind of child: how one is started, what it shows, and how it goes on. -/
class ChildKind (κ : Type) where
  /-- A command line is started in some files, with some variables. Lines of standard input may be
  forwarded to it, and it is told whether waits for a line are limited. -/
  launch : FileTree → List (Text × Text) → List Text → Option (List Text) → Bool →
    Except ProcessFault κ
  /-- A change of the child as its parent sees it. -/
  change : κ → (ChildProcess → ChildProcess) → κ
  /-- What its monitor shows next; the flag says that it has shown all. -/
  glance : κ → Bool → Glimpse × κ × Bool
  /-- Whether the child has come to a wait. -/
  isWaiting : κ → Bool
  /-- The child goes on, to its next wait or to its end. It finds some files and leaves others. -/
  go : κ → FileTree → κ × FileTree
  /-- A child that was stopped comes to its end, and leaves other files than it found. -/
  windUp : κ → FileTree → FileTree
  /-- How often its monitor is asked at most. -/
  patience : Nat

/-- The child with a program in some files. They are shared with the program, while the folder that
it works in is its own. -/
def LiveChild.within (live : LiveChild) (tree : FileTree) : LiveChild :=
  { live with
    program := { live.program with tree := { tree with home := live.program.tree.home } } }

/-- The files as the program left them, with the folder of others. -/
def LiveChild.leave (live : LiveChild) (tree : FileTree) : FileTree :=
  { live.program.tree with home := tree.home }

instance : ChildKind LiveChild where
  launch := LiveChild.launch
  change := LiveChild.change
  glance := LiveChild.glance
  isWaiting live := live.program.pause.isSome
  go live tree :=
    let gone := (live.within tree).go
    (gone, gone.leave tree)
  windUp live tree := (live.within tree).windUp.leave tree
  patience := LiveChild.roundLimit

namespace ChildKind

variable (live : LiveChild)

@[simp]
theorem launch_live : launch = LiveChild.launch :=
  rfl

@[simp]
theorem change_live (update : ChildProcess → ChildProcess) :
    change live update = live.change update :=
  rfl

@[simp]
theorem glance_live (done : Bool) : glance live done = live.glance done :=
  rfl

@[simp]
theorem patience_live : patience LiveChild = LiveChild.roundLimit :=
  rfl

end ChildKind
end IdlScout
