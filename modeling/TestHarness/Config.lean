import TestHarness.Fault
import TestHarness.Path
import TestHarness.Words

/-!
# Settings of a pass

The settings name a directory and a runner template. `Config.command` splits the template into a
program and its first arguments. `PassError` collects everything that can keep a pass from starting.
-/

namespace TestHarness

structure Config where
  testsDir : Path
  runner : String
  deriving DecidableEq

namespace Config

instance : BEq Config := ⟨fun c d => c.testsDir == d.testsDir && c.runner == d.runner⟩

def defaultTestsDir : String := "./tests"

def defaultRunner : String := "cargo run"

def default : Config := ⟨Path.ofString defaultTestsDir, defaultRunner⟩

end Config

/-- A program and the arguments that stand before the file. -/
structure Command where
  program : String
  args : List String
  deriving DecidableEq

inductive PassError where
  | unparsable (runner : String)
  | noProgram
  | unreadable (dir : Path) (fault : Fault)
  /-- The directory could be opened, but one of its entries could not be read. -/
  | unreadEntry (dir : Path) (fault : Fault)
  deriving DecidableEq

namespace PassError

/-- What was being done. -/
def context : PassError → String
  | unparsable runner => "Failed to parse runner command: " ++ runner
  | noProgram => "Empty runner command after parsing."
  | unreadable dir _ => "Failed to read tests directory: " ++ dir.display
  | unreadEntry dir _ => "Failed to read entry in: " ++ dir.display

def fault? : PassError → Option Fault
  | unparsable _ | noProgram => none
  | unreadable _ fault | unreadEntry _ fault => some fault

/-- The context, and the text of the fault behind it. -/
def message (error : PassError) : String :=
  match error.fault? with
  | none => error.context
  | some fault => error.context ++ ": " ++ fault.text

end PassError

/-- The command that the runner template spells. -/
def Config.command (config : Config) : Except PassError Command :=
  match Words.split? config.runner.toList with
  | none => .error (.unparsable config.runner)
  | some [] => .error .noProgram
  | some (program :: args) => .ok ⟨String.ofList program, args.map String.ofList⟩

end TestHarness
