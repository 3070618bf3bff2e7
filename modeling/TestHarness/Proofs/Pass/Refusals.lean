import TestHarness.Proofs.CommandLine.Finish
import TestHarness.Proofs.Pass.ExitCode
import TestHarness.Proofs.Pass.Influence

/-!
# Children that could not be started

A child that could not be started shows at two places: in a line on standard error, written as soon
as its start is refused, and among the failing paths of the tally. `refusedRuns` holds these
children in the order of the listing. The lines are theirs one by one, and their paths are found in
the same order among the failing ones.
-/

namespace TestHarness

namespace Pass

variable {σ : Type} (world : World σ) (command : Command)

/-- No listed path has a child that could be started. -/
def AllRefused (paths : List Path) (state : σ) : Prop :=
  ∀ i path, paths[i]? = some path →
    ∃ fault, (childAt world command paths state i path).ending = .refused fault

/-! ## Failing paths -/

theorem isFailure_of_fault? {ending : Ending} {fault : Fault}
    (hfault : ending.fault? = some fault) : (RunResult.ofEnding ending).isFailure = true := by
  rw [RunResult.isFailure_ofEnding_iff]
  cases ending with
  | ended status => cases hfault
  | refused other => exact not_false

/-- Among any runs, those that were refused are failures, in the same order. -/
theorem refused_sublist_failures (runs : List (Path × Child)) :
    (runs.filterMap fun run => run.2.ending.fault?.map fun _ => run.1).Sublist
      (Tally.failures (runs.map fun run => (run.1, .ofEnding run.2.ending))) := by
  induction runs with
  | nil => exact .refl _
  | cons run runs ih =>
      rw [List.map_cons]
      cases hfault : run.2.ending.fault? with
      | some fault =>
          rw [List.filterMap_cons_some (by rw [hfault, Option.map_some]),
            Tally.failures_cons_of_failure (isFailure_of_fault? hfault)]
          exact ih.cons_cons run.1
      | none =>
          rw [List.filterMap_cons_none (by rw [hfault, Option.map_none])]
          cases hresult : (RunResult.ofEnding run.2.ending).isFailure with
          | true =>
              rw [Tally.failures_cons_of_failure hresult]
              exact ih.cons run.1
          | false =>
              rw [Tally.failures_cons_of_success hresult]
              exact ih

/-- The paths whose children could not be started are failing paths, in the same order. -/
theorem refusedRuns_sublist (paths : List Path) (state : σ) (n : Nat) :
    ((refusedRuns world command paths state n).map Prod.fst).Sublist
      (failingPaths world command paths state) := by
  have hruns : (refusedRuns world command paths state n).map Prod.fst =
      ((children world command paths state).take n).filterMap fun run =>
        run.2.ending.fault?.map fun _ => run.1 := by
    rw [children_eq_zipIdx, ← List.map_take, List.filterMap_map, refusedRuns, List.map_filterMap]
    congr 1
    funext ⟨path, i⟩
    exact Option.map_map _ _ _
  rw [hruns, ← failures_children]
  exact ((List.take_sublist n _).filterMap _).trans (refused_sublist_failures _)

theorem failingPaths_of_allRefused {paths : List Path} {state : σ}
    (hall : AllRefused world command paths state) :
    failingPaths world command paths state = paths := by
  unfold failingPaths
  rw [List.filter_eq_self.mpr, List.zipIdx_map_fst]
  intro run hrun
  obtain ⟨fault, hending⟩ := hall run.2 run.1 (List.mem_zipIdx_iff_getElem?.mp hrun)
  have hfault : (childAt world command paths state run.2 run.1).ending.fault? = some fault := by
    rw [hending]
    rfl
  exact isFailure_of_fault? hfault

/-- A completed pass has met regular files only, and its tally is made of the failing paths. -/
theorem completed_cases {paths : List Path} {state : σ} {tally : Tally}
    (hverdict : verdict world command paths .empty state = .completed tally) :
    reached world command paths state = paths.length ∧
      tally.processed = paths.length ∧
      tally.failureCount = (failingPaths world command paths state).length ∧
      tally.lastFailing = (failingPaths world command paths state).getLast? ∧
      tally.failing = failingPaths world command paths state := by
  cases hpath : paths[reached world command paths state]? with
  | some path =>
      rw [verdict_of_firstUnknown world (firstUnknown_reached world command hpath)] at hverdict
      cases hverdict
  | none =>
      have hall := allRegular_of_reached world command hpath
      rw [verdict_of_allRegular world hall] at hverdict
      cases hverdict
      exact ⟨(reached_eq_length_iff world command paths state).mpr hall, rfl, rfl, rfl, rfl⟩

/-! ## The whole pass -/

variable {world} {style : Style} {config : Config} {state : σ}

/--
What a pass with an outcome writes to standard error, and how it goes with the tally. It is one line
for each path that was run and whose child could not be started, in the order of the listing, and
nothing else; the first words of a line are painted if diagnostics are. If the pass is completed,
these paths are found in the same order among the failing ones. If moreover no child at all could be
started, every listed path is counted as failing, in the order of the listing.
-/
theorem run_diagnostics {outcome : Outcome}
    (hrun : (run world style config state).value = .ok outcome) :
    ∃ command paths n,
      config.command = .ok command ∧
      world.entries state config.testsDir = .ok paths ∧
      n ≤ paths.length ∧
      (∀ i < n, ∀ path, paths[i]? = some path → RegularAt world command paths state i path) ∧
      (∀ path, paths[n]? = some path → ¬ RegularAt world command paths state n path) ∧
      writtenTo .err (run world style config state).events =
        (refusedRuns world command paths state n).map (fun run =>
          style.diagnosticOpening ++ " `" ++ command.program ++ "`: " ++ run.2.text ++ "\n") ∧
      ∀ tally, outcome = .completed tally →
        n = paths.length ∧
        ((refusedRuns world command paths state n).map Prod.fst).Sublist tally.failing ∧
        (AllRefused world command paths state →
          tally.processed = paths.length ∧
          tally.failureCount = paths.length ∧
          tally.failing = paths ∧
          tally.lastFailing = paths.getLast? ∧
          (tally.lastFailing = none ↔ paths = [])) := by
  obtain ⟨command, paths, hcommand, hentries, rfl⟩ := listed_of_run_ok world style hrun
  refine ⟨command, paths, reached world command paths state, hcommand, hentries,
    reached_le_length world command paths state,
    fun _ hlt _ hpath => regularAt_of_lt_reached world command hlt hpath,
    fun _ hpath => not_regularAt_reached world command hpath, ?_, ?_⟩
  · simp only [writtenTo_err_run_of_listed world style hcommand hentries, refusal_eq]
  · intro tally htally
    obtain ⟨hreached, hprocessed, hcount, hlast, hfailing⟩ := completed_cases world command htally
    refine ⟨hreached, ?_, fun hall => ?_⟩
    · rw [hfailing]
      exact refusedRuns_sublist world command paths state _
    · rw [hprocessed, hcount, hlast, hfailing, failingPaths_of_allRefused world command hall,
        List.getLast?_eq_none_iff]
      exact ⟨rfl, rfl, rfl, rfl, Iff.rfl⟩

/-- Two of four children cannot be started, one more fails, and diagnostics are painted. -/
theorem run_diagnostics_mixed :
    let endings : List Ending :=
      [.ended (.exited 1), .refused (.ofNumber 2 "No such file or directory"), .ended (.exited 0),
        .refused (.ofNumber 13 "Permission denied")]
    (run scripted .yellow .default endings).value =
      .ok (.completed ⟨4, 3, some (.ofString "./tests/d"),
        ["./tests/a", "./tests/b", "./tests/d"].map .ofString⟩) ∧
    writtenTo .err (run scripted .yellow .default endings).events =
      ["\x1b[33mFailed to spawn\x1b[0m `cargo`: No such file or directory (os error 2)\n",
        "\x1b[33mFailed to spawn\x1b[0m `cargo`: Permission denied (os error 13)\n"] := by
  intro endings
  have hrun : (run scripted .yellow .default endings).value =
      .ok (.completed ⟨4, 3, some (.ofString "./tests/d"),
        ["./tests/a", "./tests/b", "./tests/d"].map .ofString⟩) := by decide +kernel
  refine ⟨hrun, ?_⟩
  obtain ⟨command, paths, n, hcommand, hentries, -, -, -, hwritten, hcompleted⟩ :=
    run_diagnostics hrun
  obtain rfl : Command.mk "cargo" ["run"] = command := Except.ok.inj hcommand
  obtain rfl : ["./tests/a", "./tests/b", "./tests/c", "./tests/d"].map Path.ofString = paths :=
    Except.ok.inj hentries
  obtain ⟨rfl, -, -⟩ := hcompleted _ rfl
  rw [hwritten]
  rfl

/-- An environment in which colour is forced. -/
def colourForced : String → Option String := fun name =>
  if name = "CLICOLOR_FORCE" then some "1" else none

/-- Where colour is forced, the line on a child that could not be started is not plain. -/
theorem run_diagnostic_painted :
    let style := CommandLine.style colourForced false
    (run CommandLine.runnerless style .default ()).value =
      .ok (.completed ⟨1, 1, some (.ofString "./tests/a"), [.ofString "./tests/a"]⟩) ∧
    refusedRuns CommandLine.runnerless ⟨"cargo", ["run"]⟩ [.ofString "./tests/a"] () 1 =
      [(.ofString "./tests/a", .ofNumber 2 "No such file or directory")] ∧
    writtenTo .err (run CommandLine.runnerless style .default ()).events =
      ["\x1b[33mFailed to spawn\x1b[0m `cargo`: No such file or directory (os error 2)\n"] ∧
    writtenTo .err (run CommandLine.runnerless style .default ()).events ≠
      ["Failed to spawn `cargo`: No such file or directory (os error 2)\n"] := by
  intro style
  have hwritten : writtenTo .err (run CommandLine.runnerless style .default ()).events =
      ["\x1b[33mFailed to spawn\x1b[0m `cargo`: No such file or directory (os error 2)\n"] := rfl
  refine ⟨rfl, rfl, hwritten, ?_⟩
  rw [hwritten]
  decide

end Pass

end TestHarness
