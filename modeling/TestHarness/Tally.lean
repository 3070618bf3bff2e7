import TestHarness.Path
import TestHarness.Status

/-!
# Entries, tallies and outcomes

A tally counts the runs of a pass and keeps the paths that failed, in the order of the runs; the
last of them stands on its own because the report names only that one. `==` on all of these compares
paths by their components.
-/

namespace TestHarness

/-- An entry of the tests directory, as it was when it was examined. -/
structure Entry where
  path : Path
  isFile : Bool
  deriving DecidableEq

instance : BEq Entry := ⟨fun a b => a.path == b.path && a.isFile == b.isFile⟩

structure Tally where
  processed : Nat
  failureCount : Nat
  lastFailing : Option Path
  failing : List Path
  deriving DecidableEq

namespace Tally

instance : BEq Tally :=
  ⟨fun t u => t.processed == u.processed && t.failureCount == u.failureCount &&
    t.lastFailing == u.lastFailing && t.failing == u.failing⟩

def empty : Tally := ⟨0, 0, none, []⟩

/-- The tally after one more run. -/
def record (tally : Tally) (path : Path) (result : RunResult) : Tally :=
  if result.isFailure then
    { processed := tally.processed + 1
      failureCount := tally.failureCount + 1
      lastFailing := some path
      failing := tally.failing ++ [path] }
  else { tally with processed := tally.processed + 1 }

def isClean (tally : Tally) : Bool := tally.failureCount == 0

end Tally

/-- How a pass ended: every entry was run, or one was not a regular file. -/
inductive Outcome where
  | completed (tally : Tally)
  | aborted (path : Path)
  deriving DecidableEq

namespace Outcome

def same : Outcome → Outcome → Bool
  | completed t, completed u => t == u
  | aborted p, aborted q => p == q
  | _, _ => false

instance : BEq Outcome := ⟨same⟩

/-- Failing runs do not change it. -/
def exitCode : Outcome → UInt8
  | completed _ => 0
  | aborted _ => 1

def tally? : Outcome → Option Tally
  | completed tally => some tally
  | aborted _ => none

def isAborted : Outcome → Bool
  | completed _ => false
  | aborted _ => true

end Outcome

end TestHarness
