import TestHarness.Config
import TestHarness.Tally
import TestHarness.Text.Literal

/-!
# Values as text, for inspection

Every value has a text on one line that shows all of its fields. Paths and strings stand in it as
literals, so that nothing they hold can be mistaken for the text around them.
-/

namespace TestHarness.Inspect

def string (text : String) : String := String.ofList (Literal.ofText text.toList)

def path (p : Path) : String := String.ofList (Literal.ofOctets p.octets)

def bool (b : Bool) : String := if b then "true" else "false"

/-- A named value with its fields. -/
def record (name : String) (fields : List (String × String)) : String :=
  name ++ " \x7b " ++ ", ".intercalate (fields.map fun (key, value) => key ++ ": " ++ value) ++ " \x7d"

def optional (value : Option String) : String :=
  match value with
  | none => "None"
  | some text => "Some(" ++ text ++ ")"

def list (values : List String) : String := "[" ++ ", ".intercalate values ++ "]"

def config (c : Config) : String :=
  record "HarnessConfig" [("tests_dir", path c.testsDir), ("runner", string c.runner)]

def entry (e : Entry) : String :=
  record "TestEntry" [("path", path e.path), ("is_file", bool e.isFile)]

def runResult (r : RunResult) : String :=
  record "RunResult" [("exit_code", toString r.exitCode.toInt)]

def tally (t : Tally) : String :=
  record "Tally" [("processed", toString t.processed), ("failure_count", toString t.failureCount),
    ("last_failing_path", optional (t.lastFailing.map path)),
    ("failing_paths", list (t.failing.map path))]

def outcome : Outcome → String
  | .completed t => "Completed(" ++ tally t ++ ")"
  | .aborted p => record "Aborted" [("path", path p)]

end TestHarness.Inspect
