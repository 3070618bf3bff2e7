import TestHarness.Report
import TestHarness.Task

/-!
# One pass

A pass splits the runner template, lists the tests directory once and then takes the listed paths in
order. Each is examined at its turn: a regular file is run and its result recorded before the next
path is looked at, anything else ends the pass there. Neither a failing child nor one that cannot be
started is an error of the pass.
-/

namespace TestHarness

/-- Whether the start of a diagnostic is coloured. -/
inductive Style where
  | plain
  | yellow
  deriving DecidableEq

def Style.paint : Style → String → String
  | .plain, text => text
  | .yellow, text => "\x1b[33m" ++ text ++ "\x1b[0m"

namespace Pass

/-- The line for a program that could not be started. -/
def refusal (style : Style) (program : String) (fault : Fault) : String :=
  style.paint "Failed to spawn" ++ " `" ++ program ++ "`: " ++ fault.text ++ "\n"

variable {σ : Type} (world : World σ) (style : Style)

/-- Says so if a program could not be started. -/
def diagnose (program : String) : Ending → Task σ Unit
  | .ended _ => pure ()
  | .refused fault => .write .err (refusal style program fault)

/-- Runs a program on a file. -/
def runFile (call : Invocation) : Task σ RunResult := do
  let child ← world.perform call
  diagnose style call.program child.ending
  return .ofEnding child.ending

/-- Takes the listed paths in order. -/
def visit (command : Command) : List Path → Tally → Task σ Outcome
  | [], tally => return .completed tally
  | path :: later, tally => do
      let entry ← world.examine path
      if entry.isFile then
        let result ← runFile world style (command.on entry.path)
        visit command later (tally.record entry.path result)
      else return .aborted entry.path

/-- The whole pass. -/
def run (config : Config) : Task σ (Except PassError Outcome) :=
  match config.command with
  | .error error => return .error error
  | .ok command => do
      match ← world.list config.testsDir with
      | .error error => return .error error
      | .ok paths => return .ok (← visit world style command paths .empty)

end Pass

end TestHarness
