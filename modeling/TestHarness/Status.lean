import TestHarness.Fault

/-!
# How a child ended

A child that was started ends with a wait status, a 32-bit word; one that could not be started
leaves a fault. Both are reduced to the code that a shell would report.
-/

namespace TestHarness

/-- The word that waiting for a child gives. -/
structure WaitStatus where
  word : UInt32
  deriving DecidableEq

namespace WaitStatus

/-- Bits 0 to 6: zero after an exit, the signal after a fatal one, all ones otherwise. -/
def signal (status : WaitStatus) : Nat := status.word.toNat % 128

/-- Bits 8 to 15. -/
def exitStatus (status : WaitStatus) : Nat := status.word.toNat / 256 % 256

def exited (code : UInt8) : WaitStatus := ⟨code.toUInt32 * 256⟩

def signaled (signal : Nat) : WaitStatus := ⟨UInt32.ofNat (signal % 127)⟩

/-- The exit status, or 128 above the fatal signal, or -1 for a child that did not end. -/
def code (status : WaitStatus) : Int32 :=
  if status.signal = 0 then Int32.ofNat status.exitStatus
  else if status.signal < 127 then 128 + Int32.ofNat status.signal
  else -1

end WaitStatus

inductive Ending where
  | ended (status : WaitStatus)
  | refused (fault : Fault)
  deriving DecidableEq

structure RunResult where
  exitCode : Int32
  deriving DecidableEq

namespace RunResult

def isFailure (result : RunResult) : Bool := result.exitCode != 0

/-- The code for a program that is not there. -/
def notFound : Int32 := 127

/-- The code for a program that is there and cannot be started. -/
def notExecutable : Int32 := 126

def ofFault (kind : Fault.Kind) : RunResult :=
  ⟨if kind = .notFound then notFound else notExecutable⟩

def ofEnding : Ending → RunResult
  | .ended status => ⟨status.code⟩
  | .refused fault => ofFault fault.kind

end RunResult

end TestHarness
