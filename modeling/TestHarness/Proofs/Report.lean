import TestHarness.Proofs.Tally
import TestHarness.Report

/-!
# The line and the tally

The line that ends a completed pass is chosen by the count of failures and names the last failing
path. The two stand apart in a tally, and a tally can be written down in which they disagree; one
that was filled run by run is not of that kind, so its line names a path whenever it reports
failures.
-/

namespace TestHarness

namespace Report

/-- The lines that can end a pass, without the path that they name. -/
inductive Template where
  | unknownFile
  | success
  | failure (count : Nat)

def Template.line : Template → Path → String
  | unknownFile, path => "[TESTS]: unknown file `" ++ path.display ++ "`"
  | success, path => "[TESTS]: successfully ran all tests in `" ++ path.display ++ "`"
  | failure count, path =>
      "[TESTS]: failed with `" ++ toString count ++ "` error(s) in `" ++ path.display ++ "`"

theorem failure_of_last {tally : Tally} {last : Path} (hlast : tally.lastFailing = some last) :
    failure tally = (Template.failure tally.failureCount).line last := by
  unfold failure
  rw [hlast]
  rfl

theorem outcome_of_clean {tally : Tally} (config : Config) (hclean : tally.isClean = true) :
    outcome config (.completed tally) = success config.testsDir := by
  rw [outcome, if_pos hclean]

theorem outcome_of_last {tally : Tally} {last : Path} (config : Config)
    (hclean : tally.isClean = false) (hlast : tally.lastFailing = some last) :
    outcome config (.completed tally) = (Template.failure tally.failureCount).line last := by
  rw [outcome, hclean, if_neg Bool.false_ne_true, failure_of_last hlast]

end Report

namespace Tally

theorem isClean_iff (tally : Tally) : tally.isClean = true ↔ tally.failureCount = 0 :=
  beq_iff_eq

theorem isClean_recordAll_iff (runs : List (Path × RunResult)) :
    (empty.recordAll runs).isClean = true ↔ failures runs = [] := by
  rw [isClean_iff, recordAll_empty]
  exact List.length_eq_zero_iff

theorem lastFailing_recordAll_iff (runs : List (Path × RunResult)) :
    (empty.recordAll runs).lastFailing = none ↔ (empty.recordAll runs).failureCount = 0 := by
  rw [recordAll_empty]
  exact List.getLast?_eq_none_iff.trans List.length_eq_zero_iff.symm

theorem failureCount_recordAll_le (runs : List (Path × RunResult)) :
    (empty.recordAll runs).failureCount ≤ (empty.recordAll runs).processed := by
  rw [recordAll_empty]
  simp only [failures, List.length_map]
  exact List.length_filter_le _ runs

/-- The report on runs of which some failed names the path of the latest failure. -/
theorem exists_reported {runs : List (Path × RunResult)} (config : Config)
    (hclean : (empty.recordAll runs).isClean = false) :
    ∃ last, LatestFailure runs last ∧ (empty.recordAll runs).lastFailing = some last ∧
      Report.outcome config (.completed (empty.recordAll runs)) =
        (Report.Template.failure (empty.recordAll runs).failureCount).line last := by
  have hfailures : failures runs ≠ [] := by
    intro hnone
    rw [(isClean_recordAll_iff runs).mpr hnone] at hclean
    cases hclean
  obtain ⟨last, hlatest⟩ := exists_latestFailure hfailures
  have hlast : (empty.recordAll runs).lastFailing = some last := by
    rw [recordAll_empty]
    exact hlatest.getLast?_failures
  exact ⟨last, hlatest, hlast, Report.outcome_of_last config hclean hlast⟩

/--
A tally after every prefix of a sequence of runs. It counts the runs and keeps the paths that gave a
code other than zero, in order and as often as they did; the count of failures, the last failing
path and cleanness all follow from that list, and both counts fit in a word when the runs do. The
line for such a tally is the one on success when it is clean; otherwise there is a last failing path
to name, and the line names the path of the latest run that failed.
-/
theorem recordAll_account {runs made : List (Path × RunResult)} (config : Config)
    (hword : runs.length < UInt64.size) (hmade : made <+: runs) :
    let tally := empty.recordAll made
    tally.processed = made.length ∧ tally.processed < UInt64.size ∧
    tally.failing = (made.filter fun run => run.2.exitCode != 0).map Prod.fst ∧
    tally.failureCount = tally.failing.length ∧ tally.failureCount ≤ tally.processed ∧
    tally.lastFailing = tally.failing.getLast? ∧
    (tally.lastFailing = none ↔ tally.failureCount = 0) ∧
    (tally.isClean = true ↔ tally.failing = []) ∧
    (tally.isClean = true →
      Report.outcome config (.completed tally) = Report.success config.testsDir) ∧
    (tally.isClean = false →
      ∃ last, LatestFailure made last ∧ tally.lastFailing = some last ∧
        Report.outcome config (.completed tally) =
          "[TESTS]: failed with `" ++ toString tally.failureCount ++ "` error(s) in `" ++
            last.display ++ "`") := by
  dsimp only
  have hfields := recordAll_empty made
  have hprocessed : (empty.recordAll made).processed = made.length := congrArg processed hfields
  have hfailing : (empty.recordAll made).failing = failures made := congrArg failing hfields
  refine ⟨hprocessed, ?_, hfailing, ?_, failureCount_recordAll_le made, ?_,
    lastFailing_recordAll_iff made, ?_, Report.outcome_of_clean config, exists_reported config⟩
  · rw [hprocessed]
    exact Nat.lt_of_le_of_lt hmade.length_le hword
  · rw [hfields]
  · rw [hfields]
  · rw [hfailing]
    exact isClean_recordAll_iff made

/-- A path fails twice, with another that passes between and a third one still to come. -/
theorem recordAll_account_repeated :
    let runs : List (Path × RunResult) :=
      [(.ofString "a", ⟨1⟩), (.ofString "b", ⟨0⟩), (.ofString "a", ⟨127⟩), (.ofString "c", ⟨0⟩)]
    runs.length < UInt64.size ∧ runs.take 3 <+: runs ∧
    (empty.recordAll (runs.take 3)).processed = 3 ∧
    (empty.recordAll (runs.take 3)).failing = [.ofString "a", .ofString "a"] ∧
    LatestFailure (runs.take 3) (.ofString "a") ∧
    Report.outcome .default (.completed (empty.recordAll (runs.take 3))) =
      "[TESTS]: failed with `2` error(s) in `a`" := by
  intro runs
  have hword : runs.length < UInt64.size := by decide
  have hmade : runs.take 3 <+: runs := List.take_prefix 3 runs
  obtain ⟨hprocessed, -, hfailing, -, -, -, -, -, -, hreport⟩ :=
    recordAll_account .default hword hmade
  obtain ⟨last, hlatest, hlast, hline⟩ := hreport rfl
  obtain rfl : .ofString "a" = last := Option.some.inj hlast
  exact ⟨hword, hmade, hprocessed, hfailing, hlatest, hline.trans (by decide)⟩

end Tally

end TestHarness
