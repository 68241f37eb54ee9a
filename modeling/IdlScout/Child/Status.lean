import IdlScout.Files.Tree
import IdlScout.Text.Numeral

/-! How a program ended, and what its parent makes of it. -/

namespace IdlScout

/-- A signal is known by its number. -/
abbrev Signal := Nat

namespace Signal

/-- The names of the signals, the first being that of number one. -/
def names : List Text :=
  ["HUP".toList, "INT".toList, "QUIT".toList, "ILL".toList, "TRAP".toList, "ABRT".toList,
    "BUS".toList, "FPE".toList, "KILL".toList, "USR1".toList, "SEGV".toList, "USR2".toList,
    "PIPE".toList, "ALRM".toList, "TERM".toList, "STKFLT".toList, "CHLD".toList, "CONT".toList,
    "STOP".toList, "TSTP".toList, "TTIN".toList, "TTOU".toList, "URG".toList, "XCPU".toList,
    "XFSZ".toList, "VTALRM".toList, "PROF".toList, "WINCH".toList, "IO".toList, "PWR".toList,
    "SYS".toList]

/-- The signal that asks a program to stop what it does. -/
def interrupt : Signal := 2

/-- The signal that no program survives. -/
def kill : Signal := 9

/-- The signal that asks a program to end. -/
def terminate : Signal := 15

/-- The name of a signal, if it has one. -/
def name? (signal : Signal) : Option Text :=
  -- Signal zero only asks whether a program is there, and has no name.
  if signal = 0 then none else names[signal - 1]?

/-- The signal of a name. -/
def ofName? (name : Text) : Option Signal :=
  (names.idxOf? name).map (· + 1)

/-- Signals that end no program that does not ask for it. -/
def isHarmless (signal : Signal) : Bool :=
  signal == 0 || signal == 17 || signal == 18 || signal == 23 || signal == 28

end Signal

/-- How a program ended. -/
inductive ExitStatus where
  | exited (code : Nat)
  | killed (signal : Signal)
  deriving Repr, DecidableEq

namespace ExitStatus

/-- Success and an interruption are clean ends. -/
def isClean : ExitStatus → Bool
  | .exited code => code == 0
  | .killed signal => signal == Signal.interrupt

/-- One number for an end: negative for a signal. -/
def code : ExitStatus → Int
  | .exited code => code
  | .killed signal => -signal

/-- The wording of an end. -/
def message : ExitStatus → Text
  | .exited code => "exit status: ".toList ++ Numeral.write code
  | .killed signal =>
    let name := match Signal.name? signal with
      | some name => " (SIG".toList ++ name ++ [')']
      | none => []
    "signal: ".toList ++ Numeral.write signal ++ name

end ExitStatus
end IdlScout
