import TestHarness.Proofs.Pass.Turns

/-!
# The outcome of a pass

The outcome is fixed by the chain of states that the children leave, not by one look at the
directory: the pass names the first path that is not a regular file at its own turn, and if there is
none it counts every path and keeps those whose children failed.
-/

namespace TestHarness.Pass

variable {σ : Type} (world : World σ) (style : Style)
variable {command : Command} {config : Config} {paths : List Path} {state : σ}

theorem verdict_of_firstUnknown {k : Nat} {path : Path}
    (hfirst : FirstUnknown world command paths state k path) (tally : Tally) :
    verdict world command paths tally state = .aborted path := by
  unfold verdict
  rw [hfirst.reached_eq, hfirst.listed]

/-- When every path is run, the four fields of the tally come from the results at the turns. -/
theorem verdict_of_allRegular (hall : AllRegular world command paths state) :
    verdict world command paths .empty state =
      .completed
        { processed := paths.length
          failureCount := (failingPaths world command paths state).length
          lastFailing := (failingPaths world command paths state).getLast?
          failing := failingPaths world command paths state } := by
  have hreached := (reached_eq_length_iff world command paths state).mpr hall
  unfold verdict
  rw [hreached, List.getElem?_eq_none (Nat.le_refl _)]
  dsimp only
  rw [Tally.recordAll_eq, failures_children, List.length_map, length_children]
  simp [Tally.empty]

/-- No path fails exactly if every child, at its turn, gives the code zero. -/
theorem failingPaths_eq_nil_iff (command : Command) (paths : List Path) (state : σ) :
    failingPaths world command paths state = [] ↔
      ∀ i path, paths[i]? = some path →
        (resultAt world command paths state i path).exitCode = 0 := by
  unfold failingPaths
  rw [List.map_eq_nil_iff, List.filter_eq_nil_iff]
  constructor
  · intro hnone i path hpath
    have hclean := hnone (path, i) (List.mem_zipIdx_iff_getElem?.mpr hpath)
    simpa using hclean
  · intro hall run hrun
    have hclean := hall run.2 run.1 (List.mem_zipIdx_iff_getElem?.mp hrun)
    simpa using hclean

/--
The outcome of a pass whose children may change the world in any way. The pass is aborted at the
first path that is not a regular file in the state left by the children before it; without such a
path it is completed, and its tally counts the listing and holds the failing paths in order.
-/
theorem run_outcome (hcommand : config.command = .ok command)
    (hentries : world.entries state config.testsDir = .ok paths) :
    (∀ k path, FirstUnknown world command paths state k path →
      (run world style config state).value = .ok (.aborted path)) ∧
    (AllRegular world command paths state →
      ∃ tally, (run world style config state).value = .ok (.completed tally) ∧
        tally.processed = paths.length ∧
        tally.failing = failingPaths world command paths state ∧
        tally.failureCount = tally.failing.length ∧
        tally.lastFailing = tally.failing.getLast?) := by
  have hvalue := run_value_of_listed world style hcommand hentries
  constructor
  · intro k path hfirst
    rw [hvalue, verdict_of_firstUnknown world hfirst]
  · intro hall
    rw [hvalue, verdict_of_allRegular world hall]
    exact ⟨_, rfl, rfl, rfl, rfl, rfl⟩

/--
With two entries the child of the first takes the second away before its turn; a single entry is
there at its turn, and fails.
-/
theorem run_outcome_shrinking :
    Config.default.command = .ok ⟨"cargo", ["run"]⟩ ∧
    shrinking.entries [[0x61], [0x62]] Config.default.testsDir =
      .ok [.ofString "./tests/a", .ofString "./tests/b"] ∧
    (run shrinking .plain .default [[0x61], [0x62]]).value =
      .ok (.aborted (.ofString "./tests/b")) ∧
    ∃ tally, (run shrinking .plain .default [[0x61]]).value = .ok (.completed tally) ∧
      tally.processed = 1 ∧ tally.failing = [.ofString "./tests/a"] := by
  have hcommand : Config.default.command = .ok ⟨"cargo", ["run"]⟩ := rfl
  have htwo : shrinking.entries [[0x61], [0x62]] Config.default.testsDir =
      .ok [.ofString "./tests/a", .ofString "./tests/b"] := rfl
  have hone : shrinking.entries [[0x61]] Config.default.testsDir =
      .ok [.ofString "./tests/a"] := rfl
  refine ⟨hcommand, htwo, ?_, ?_⟩
  · refine (run_outcome shrinking .plain hcommand htwo).1 1 _ ⟨rfl, ?_, ?_⟩
    · intro hregular
      cases hregular
    · intro i hlt before hbefore
      obtain rfl : i = 0 := Nat.lt_one_iff.mp hlt
      obtain rfl := Option.some.inj hbefore
      rfl
  · have hall : AllRegular shrinking ⟨"cargo", ["run"]⟩ [.ofString "./tests/a"] [[0x61]] := by
      intro i path hpath
      obtain ⟨rfl, rfl⟩ : i = 0 ∧ path = .ofString "./tests/a" := by
        cases i with
        | zero => exact ⟨rfl, (Option.some.inj hpath).symm⟩
        | succ i => cases hpath
      rfl
    obtain ⟨tally, hvalue, hprocessed, hfailing, -, -⟩ :=
      (run_outcome shrinking .plain hcommand hone).2 hall
    exact ⟨tally, hvalue, hprocessed, hfailing⟩

end TestHarness.Pass
