import TestHarness.Config
import TestHarness.Tally

/-!
# The line that ends a pass

There are three templates, all with the same label. Paths are shown as they are spelled, between
backquotes and without any escaping.
-/

namespace TestHarness.Report

def label : String := "[TESTS]"

def unknownFile (path : Path) : String :=
  label ++ ": unknown file `" ++ path.display ++ "`"

def success (testsDir : Path) : String :=
  label ++ ": successfully ran all tests in `" ++ testsDir.display ++ "`"

/-- Names the last failing path only, whatever the count. -/
def failure (tally : Tally) : String :=
  let last := match tally.lastFailing with
    | some path => path.display
    | none => ""
  label ++ ": failed with `" ++ toString tally.failureCount ++ "` error(s) in `" ++ last ++ "`"

def outcome (config : Config) : Outcome → String
  | .aborted path => unknownFile path
  | .completed tally => if tally.isClean then success config.testsDir else failure tally

end TestHarness.Report
