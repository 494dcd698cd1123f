/-! # Signals

The signals that end processes, with their numbers, their names and what is told
of a process that one of them has ended.
-/

namespace CompileTree.Shell

/-- What a signal does to a process that has made no provision for it. -/
inductive Signal.Effect where
  | ends
  | stops
  | nothing
  deriving DecidableEq, Repr

/-- A signal. -/
structure Signal where
  number : Nat
  name : String
  /-- What is told of a process that it has ended. -/
  description : String
  effect : Signal.Effect
  deriving DecidableEq, Repr

namespace Signal

/-- The signals by their numbers, from one on. -/
def all : List Signal := [
  ⟨1, "HUP", "Hangup", .ends⟩,
  ⟨2, "INT", "Interrupt", .ends⟩,
  ⟨3, "QUIT", "Quit", .ends⟩,
  ⟨4, "ILL", "Illegal instruction", .ends⟩,
  ⟨5, "TRAP", "Trace/breakpoint trap", .ends⟩,
  ⟨6, "ABRT", "Aborted", .ends⟩,
  ⟨7, "BUS", "Bus error", .ends⟩,
  ⟨8, "FPE", "Floating point exception", .ends⟩,
  ⟨9, "KILL", "Killed", .ends⟩,
  ⟨10, "USR1", "User defined signal 1", .ends⟩,
  ⟨11, "SEGV", "Segmentation fault", .ends⟩,
  ⟨12, "USR2", "User defined signal 2", .ends⟩,
  ⟨13, "PIPE", "Broken pipe", .ends⟩,
  ⟨14, "ALRM", "Alarm clock", .ends⟩,
  ⟨15, "TERM", "Terminated", .ends⟩,
  ⟨16, "16", "Stack fault", .ends⟩,
  ⟨17, "CHLD", "Child exited", .nothing⟩,
  ⟨18, "CONT", "Continued", .nothing⟩,
  ⟨19, "STOP", "Stopped (signal)", .stops⟩,
  ⟨20, "TSTP", "Stopped", .stops⟩,
  ⟨21, "TTIN", "Stopped (tty input)", .stops⟩,
  ⟨22, "TTOU", "Stopped (tty output)", .stops⟩,
  ⟨23, "URG", "Urgent I/O condition", .nothing⟩,
  ⟨24, "XCPU", "CPU time limit exceeded", .ends⟩,
  ⟨25, "XFSZ", "File size limit exceeded", .ends⟩,
  ⟨26, "VTALRM", "Virtual timer expired", .ends⟩,
  ⟨27, "PROF", "Profiling timer expired", .ends⟩,
  ⟨28, "WINCH", "Window changed", .nothing⟩,
  ⟨29, "IO", "I/O possible", .ends⟩,
  ⟨30, "PWR", "Power failure", .ends⟩,
  ⟨31, "SYS", "Bad system call", .ends⟩]

/-- The signal of a number. -/
def ofNumber? (n : Nat) : Option Signal := all.find? (·.number == n)

/-- The signal of a name in either case. -/
def ofName? (name : String) : Option Signal := all.find? (·.name == name.toUpper)

/-- The number of the signal that cannot be provided for. -/
def kill : Nat := 9

/-- The number of the signal that asks a process to end. -/
def terminate : Nat := 15

/-- The number of the signal for writing where nobody reads. -/
def brokenPipe : Nat := 13

/-- The number of the signal that a child of a process has ended. -/
def child : Nat := 17

/-- The number of the signal that lets a stopped process go on. -/
def goOn : Nat := 18

/-- The number of the signal that stops a process and cannot be provided for. -/
def stop : Nat := 19

/-- The number of the signal for writing beyond what a file may hold. -/
def fileSize : Nat := 25

end Signal

end CompileTree.Shell
