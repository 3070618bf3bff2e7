import TestHarness.Pass

/-!
# The command line

The command line takes no arguments and turns none down: whatever stands there, the pass runs with
the default settings. Its line goes to standard output after everything the children wrote; an error
of the pass goes to standard error. The environment decides only whether diagnostics are coloured.
-/

namespace TestHarness.CommandLine

/-- What the command line declares about itself. -/
structure Declaration where
  name : String
  about : String
  hasHelp : Bool
  hasVersion : Bool
  arguments : List String
  subcommands : List String

def declaration : Declaration where
  name := "langin-tests"
  about := "Test harness for the langin compiler: runs every file in ./tests through `cargo run` " ++
    "and reports failures."
  hasHelp := false
  hasVersion := false
  arguments := []
  subcommands := []

/-- What is understood of the arguments. -/
structure Parsed where
  arguments : List (String × String)
  subcommand : Option String

/-- Nothing is declared, so no argument is understood and none is refused. -/
def parse (_args : List String) : Parsed := ⟨[], none⟩

/-- A variable of the environment that says yes or no: only `0` says no. -/
def flag? (environment : String → Option String) (name : String) : Option Bool :=
  (environment name).map (· != "0")

/-- Colour can be forced, forbidden, or left to whether standard output is a terminal. -/
def style (environment : String → Option String) (terminal : Bool) : Style :=
  let coloured :=
    if flag? environment "CLICOLOR_FORCE" = some true then true
    else if (flag? environment "NO_COLOR").isSome then false
    else (flag? environment "CLICOLOR").getD true && terminal
  if coloured then .yellow else .plain

variable {σ : Type} (world : World σ)

/-- A pass with the default settings and the line that ends it; the value is the exit code. -/
def attempt (style : Style) (args : List String) : Task σ (Except PassError UInt8) := do
  let _ := parse args
  match ← Pass.run world style Config.default with
  | .error error => return .error error
  | .ok outcome =>
      Task.write .out (Report.outcome .default outcome ++ "\n")
      return .ok outcome.exitCode

/-- The whole program; the value is the exit code. -/
def run (style : Style) (args : List String) : Task σ UInt8 := do
  match ← attempt world style args with
  | .ok code => return code
  | .error error =>
      Task.write .err ("Error: " ++ error.message ++ "\n")
      return 1

end TestHarness.CommandLine
