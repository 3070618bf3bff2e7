/-!
# Signals

Names and numbers of signals, what is said of a process that one ended, and which of them end a
process that takes no measures.
-/

namespace TestHarness.Machine.Signal

def names : List (Nat × String) :=
  [(1, "HUP"), (2, "INT"), (3, "QUIT"), (4, "ILL"), (5, "TRAP"), (6, "ABRT"), (7, "BUS"), (8, "FPE"),
   (9, "KILL"), (10, "USR1"), (11, "SEGV"), (12, "USR2"), (13, "PIPE"), (14, "ALRM"), (15, "TERM"),
   (16, "STKFLT"), (17, "CHLD"), (18, "CONT"), (19, "STOP"), (20, "TSTP"), (21, "TTIN"),
   (22, "TTOU"), (23, "URG"), (24, "XCPU"), (25, "XFSZ"), (26, "VTALRM"), (27, "PROF"),
   (28, "WINCH"), (29, "IO"), (30, "PWR"), (31, "SYS")]

/-- The highest number of a signal. -/
def last : Nat := 64

/-- A signal by its number or its name, with or without `SIG`; `EXIT` is number 0. -/
def ofName? (word : List Char) : Option Nat :=
  if !word.isEmpty && word.all Char.isDigit then
    let n := word.foldl (fun n d => n * 10 + (d.toNat - 48)) 0
    if n ≤ last then some n else none
  else
    let upper := word.map Char.toUpper
    let bare := if ['S', 'I', 'G'].isPrefixOf upper then upper.drop 3 else upper
    if bare = ['E', 'X', 'I', 'T'] then some 0
    else (names.find? fun (_, name) => name.toList = bare).map Prod.fst

/-- No process can take measures against these. -/
def isSure (signal : Nat) : Bool := signal = 9 || signal = 19

/-- Without measures against it, a process ends. -/
def isFatal (signal : Nat) : Bool :=
  signal ≠ 0 && !([17, 18, 19, 20, 21, 22, 23, 28] : List Nat).contains signal

/-- What a shell says of a program that a signal ended; of some it says nothing. -/
def remark? : Nat → Option String
  | 1 => some "Hangup"
  | 3 => some "Quit"
  | 4 => some "Illegal instruction"
  | 5 => some "Trace/breakpoint trap"
  | 6 => some "Aborted"
  | 7 => some "Bus error"
  | 8 => some "Floating point exception"
  | 9 => some "Killed"
  | 10 => some "User defined signal 1"
  | 11 => some "Segmentation fault"
  | 12 => some "User defined signal 2"
  | 14 => some "Alarm clock"
  | 15 => some "Terminated"
  | 24 => some "CPU time limit exceeded"
  | _ => none

/-- Ends a process that has used up its steps. -/
def timeSpent : Nat := 24

end TestHarness.Machine.Signal
