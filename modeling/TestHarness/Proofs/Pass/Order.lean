import TestHarness.Proofs.Pass.Outcome
import TestHarness.Proofs.Report

/-!
# The order of the listing

The order in which a directory gives its names is not fixed. Where the listed paths stay what they
are and each child's code depends on its path alone, the outcome is a function of the listing,
`settled`, and two listings of the same paths can be compared through it. The kind of outcome, the
counts and the exit code do not depend on the order; the path that is named does, and only if there
are two or more that could be.
-/

namespace TestHarness.Pass

/-! ## Worlds in which only the path matters -/

/-- The listed paths that are not regular files. -/
def unknownOf (regular : Path → Bool) (paths : List Path) : List Path :=
  paths.filter fun path => !regular path

/-- The listed paths whose children give a code other than zero. -/
def failingOf (code : Path → Int32) (paths : List Path) : List Path :=
  paths.filter fun path => code path != 0

variable {regular : Path → Bool} {code : Path → Int32}

/--
Whichever of the listed paths have been run, each is a regular file or not by `regular`, and its
child gives the code by `code`.
-/
structure Fixed {σ : Type} (world : World σ) (command : Command) (paths : List Path) (state : σ)
    (regular : Path → Bool) (code : Path → Int32) : Prop where
  kind : ∀ ran ⊆ paths, ∀ path ∈ paths,
    (world.classify (ran.foldl (next world command) state) path).isFile = regular path
  result : ∀ ran ⊆ paths, ∀ path ∈ paths,
    (RunResult.ofEnding (world.run (ran.foldl (next world command) state)
      (command.on path)).1.ending).exitCode = code path

/-- The outcome that the listing alone decides. -/
def settled (regular : Path → Bool) (code : Path → Int32) (paths : List Path) : Outcome :=
  match unknownOf regular paths with
  | path :: _ => .aborted path
  | [] => .completed
      { processed := paths.length
        failureCount := (failingOf code paths).length
        lastFailing := (failingOf code paths).getLast?
        failing := failingOf code paths }

theorem settled_of_unknown {paths later : List Path} {path : Path}
    (hunknown : unknownOf regular paths = path :: later) :
    settled regular code paths = .aborted path := by
  rw [settled, hunknown]

theorem settled_of_regular {paths : List Path} (hunknown : unknownOf regular paths = []) :
    settled regular code paths =
      .completed
        { processed := paths.length
          failureCount := (failingOf code paths).length
          lastFailing := (failingOf code paths).getLast?
          failing := failingOf code paths } := by
  rw [settled, hunknown]

namespace Fixed

variable {σ : Type} {world : World σ} {command : Command} {paths : List Path} {state : σ}

theorem regularAt_iff (hfixed : Fixed world command paths state regular code) {i : Nat}
    {path : Path} (hpath : paths[i]? = some path) :
    RegularAt world command paths state i path ↔ regular path = true := by
  rw [← hfixed.kind _ (List.take_subset i paths) path (List.mem_of_getElem? hpath)]
  exact (world.classify_isFile_iff _ path).symm

theorem resultAt_exitCode (hfixed : Fixed world command paths state regular code) {i : Nat}
    {path : Path} (hpath : paths[i]? = some path) :
    (resultAt world command paths state i path).exitCode = code path :=
  hfixed.result _ (List.take_subset i paths) path (List.mem_of_getElem? hpath)

theorem failingPaths_eq (hfixed : Fixed world command paths state regular code) :
    failingPaths world command paths state = failingOf code paths := by
  calc failingPaths world command paths state
    _ = (paths.zipIdx.filter ((fun path => code path != 0) ∘ Prod.fst)).map Prod.fst := by
        unfold failingPaths
        apply congrArg (List.map Prod.fst)
        apply List.filter_congr
        rintro ⟨path, i⟩ hrun
        dsimp only [Function.comp]
        rw [hfixed.resultAt_exitCode (List.mem_zipIdx_iff_getElem?.mp hrun)]
    _ = (paths.zipIdx.map Prod.fst).filter fun path => code path != 0 := List.filter_map.symm
    _ = failingOf code paths := by
        rw [List.zipIdx_map_fst]
        rfl

/-- The turns have no part in the outcome. -/
theorem verdict_eq (hfixed : Fixed world command paths state regular code) :
    verdict world command paths .empty state = settled regular code paths := by
  cases hunknown : unknownOf regular paths with
  | nil =>
      have hall : AllRegular world command paths state := by
        intro i path hpath
        have hnone := List.filter_eq_nil_iff.mp hunknown path (List.mem_of_getElem? hpath)
        exact (hfixed.regularAt_iff hpath).mpr (by simpa using hnone)
      rw [verdict_of_allRegular world hall, hfixed.failingPaths_eq, settled_of_regular hunknown]
  | cons path later =>
      obtain ⟨before, after, rfl, hbefore, hpath, -⟩ := List.filter_eq_cons_iff.mp hunknown
      have hlisted : (before ++ path :: after)[before.length]? = some path := by simp
      have hstop : ¬ RegularAt world command (before ++ path :: after) state before.length path := by
        rw [hfixed.regularAt_iff hlisted]
        simpa using hpath
      have hearlier (i : Nat) (hlt : i < before.length) (earlier : Path)
          (hlisted : (before ++ path :: after)[i]? = some earlier) :
          RegularAt world command (before ++ path :: after) state i earlier := by
        rw [hfixed.regularAt_iff hlisted]
        rw [List.getElem?_append_left hlt] at hlisted
        simpa using hbefore earlier (List.mem_of_getElem? hlisted)
      rw [verdict_of_firstUnknown world ⟨hlisted, hstop, hearlier⟩, settled_of_unknown hunknown]

end Fixed

/-! ## Two orders of the same paths -/

/-- How the outcomes for two orders of the same paths go together. -/
inductive Reordered (regular : Path → Bool) (paths : List Path) : Outcome → Outcome → Prop where
  /-- Each names a path that is not a regular file: the same one if there is only one. -/
  | aborted {path other : Path} :
      path ∈ unknownOf regular paths → other ∈ unknownOf regular paths →
      ((unknownOf regular paths).length = 1 → path = other) →
      Reordered regular paths (.aborted path) (.aborted other)
  | completed {tally other : Tally} :
      unknownOf regular paths = [] →
      tally.processed = other.processed → tally.failureCount = other.failureCount →
      tally.isClean = other.isClean → tally.failing.Perm other.failing →
      Reordered regular paths (.completed tally) (.completed other)

/--
How their lines go together: the text is the same, unless there are two or more paths to choose
from; then the texts agree but for the path that is shown.
-/
inductive ReorderedLine (regular : Path → Bool) (code : Path → Int32) (paths : List Path) :
    String → String → Prop where
  | same (line : String) : ReorderedLine regular code paths line line
  | unknown {path other : Path} :
      2 ≤ (unknownOf regular paths).length →
      path ∈ unknownOf regular paths → other ∈ unknownOf regular paths →
      ReorderedLine regular code paths (Report.unknownFile path) (Report.unknownFile other)
  | failing {path other : Path} :
      unknownOf regular paths = [] → 2 ≤ (failingOf code paths).length →
      path ∈ failingOf code paths → other ∈ failingOf code paths →
      ReorderedLine regular code paths
        ((Report.Template.failure (failingOf code paths).length).line path)
        ((Report.Template.failure (failingOf code paths).length).line other)

variable {paths others : List Path}

theorem Reordered.exitCode_eq {outcome other : Outcome}
    (hreordered : Reordered regular paths outcome other) : outcome.exitCode = other.exitCode := by
  cases hreordered with
  | aborted => rfl
  | completed => rfl

theorem unknownOf_perm (hperm : paths.Perm others) :
    (unknownOf regular paths).Perm (unknownOf regular others) := hperm.filter _

theorem failingOf_perm (hperm : paths.Perm others) :
    (failingOf code paths).Perm (failingOf code others) := hperm.filter _

/-- For another order of the paths there is another path to stop at, or none in both. -/
theorem unknownOf_cases (hperm : paths.Perm others) :
    (unknownOf regular paths = [] ∧ unknownOf regular others = []) ∨
    ∃ path later other rest, unknownOf regular paths = path :: later ∧
      unknownOf regular others = other :: rest ∧
      path ∈ unknownOf regular paths ∧ other ∈ unknownOf regular paths := by
  have hunknown : (unknownOf regular paths).Perm (unknownOf regular others) := unknownOf_perm hperm
  cases hpaths : unknownOf regular paths with
  | nil =>
      rw [hpaths] at hunknown
      exact .inl ⟨rfl, hunknown.nil_eq.symm⟩
  | cons path later =>
      cases hothers : unknownOf regular others with
      | nil =>
          rw [hpaths, hothers] at hunknown
          exact absurd hunknown.length_eq (by simp)
      | cons other rest =>
          refine .inr ⟨path, later, other, rest, rfl, rfl, List.mem_cons_self, ?_⟩
          rw [← hpaths, hunknown.mem_iff, hothers]
          exact List.mem_cons_self

theorem eq_of_length_eq_one {α : Type} {values : List α} (hone : values.length = 1) {a b : α}
    (ha : a ∈ values) (hb : b ∈ values) : a = b := by
  obtain ⟨value, rfl⟩ := List.length_eq_one_iff.mp hone
  rw [List.mem_singleton.mp ha, List.mem_singleton.mp hb]

theorem settled_reordered (hperm : paths.Perm others) :
    Reordered regular paths (settled regular code paths) (settled regular code others) := by
  rcases unknownOf_cases hperm with
    ⟨hpaths, hothers⟩ | ⟨path, later, other, rest, hpaths, hothers, hpath, hother⟩
  · have hfailing : (failingOf code paths).Perm (failingOf code others) := failingOf_perm hperm
    rw [settled_of_regular hpaths, settled_of_regular hothers]
    refine .completed hpaths hperm.length_eq hfailing.length_eq ?_ hfailing
    simp only [Tally.isClean, hfailing.length_eq]
  · rw [settled_of_unknown hpaths, settled_of_unknown hothers]
    exact .aborted hpath hother fun hone => eq_of_length_eq_one hone hpath hother

theorem report_settled_of_clean (config : Config) (hunknown : unknownOf regular paths = [])
    (hfailing : failingOf code paths = []) :
    Report.outcome config (settled regular code paths) = Report.success config.testsDir := by
  rw [settled_of_regular hunknown]
  apply Report.outcome_of_clean
  rw [Tally.isClean_iff]
  exact List.length_eq_zero_iff.mpr hfailing

theorem report_settled_of_failing (config : Config) (hunknown : unknownOf regular paths = [])
    (hfailing : failingOf code paths ≠ []) :
    Report.outcome config (settled regular code paths) =
      (Report.Template.failure (failingOf code paths).length).line
        ((failingOf code paths).getLast hfailing) := by
  rw [settled_of_regular hunknown]
  refine Report.outcome_of_last config ?_ (List.getLast?_eq_some_getLast hfailing)
  rw [← Bool.not_eq_true, Tally.isClean_iff]
  exact fun hzero => hfailing (List.length_eq_zero_iff.mp hzero)

/-- With a single failing path both orders show it, with more they may show different ones. -/
theorem failing_reorderedLine (config : Config) (hperm : paths.Perm others)
    (hpaths : unknownOf regular paths = []) (hothers : unknownOf regular others = [])
    (hfailing : failingOf code paths ≠ []) :
    ReorderedLine regular code paths (Report.outcome config (settled regular code paths))
      (Report.outcome config (settled regular code others)) := by
  have hsame : (failingOf code paths).Perm (failingOf code others) := failingOf_perm hperm
  have hother : failingOf code others ≠ [] := by
    intro hnil
    rw [hnil] at hsame
    exact hfailing hsame.eq_nil
  have hlast := List.getLast_mem hfailing
  have hotherLast := hsame.mem_iff.mpr (List.getLast_mem hother)
  rw [report_settled_of_failing config hpaths hfailing,
    report_settled_of_failing config hothers hother, ← hsame.length_eq]
  by_cases hone : (failingOf code paths).length = 1
  · rw [eq_of_length_eq_one hone hlast hotherLast]
    exact .same _
  · have hpositive := List.length_pos_iff.mpr hfailing
    exact .failing hpaths (by omega) hlast hotherLast

theorem settled_reorderedLine (config : Config) (hperm : paths.Perm others) :
    ReorderedLine regular code paths (Report.outcome config (settled regular code paths))
      (Report.outcome config (settled regular code others)) := by
  rcases unknownOf_cases hperm with
    ⟨hpaths, hothers⟩ | ⟨path, later, other, rest, hpaths, hothers, hpath, hother⟩
  · by_cases hfailing : failingOf code paths = []
    · have hsame : (failingOf code paths).Perm (failingOf code others) := failingOf_perm hperm
      rw [hfailing] at hsame
      rw [report_settled_of_clean config hpaths hfailing,
        report_settled_of_clean config hothers hsame.nil_eq.symm]
      exact .same _
    · exact failing_reorderedLine config hperm hpaths hothers hfailing
  · rw [settled_of_unknown hpaths, settled_of_unknown hothers]
    by_cases hone : (unknownOf regular paths).length = 1
    · rw [eq_of_length_eq_one hone hpath hother]
      exact .same _
    · have hpositive := List.length_pos_of_mem hpath
      exact .unknown (by omega) hpath hother

variable {σ τ : Type} {first : World σ} {second : World τ} {command : Command} {config : Config}
variable {state : σ} {start : τ} (style otherStyle : Style)

/--
Two passes over the same paths in any two orders, in worlds where only the path decides what a path
is and which code its child gives. Both are aborted, which happens exactly if some path is not a
regular file, or both are completed, with the same counts and the same failing paths up to order.
The exit code is the same, and so is the line, unless two or more paths are unknown or failed: then
the lines differ at most in the path they show.
-/
theorem run_reordered (hcommand : config.command = .ok command)
    (hfirst : first.entries state config.testsDir = .ok paths)
    (hsecond : second.entries start config.testsDir = .ok others)
    (hperm : paths.Perm others)
    (hfixed : Fixed first command paths state regular code)
    (hother : Fixed second command others start regular code) :
    ∃ outcome other,
      (run first style config state).value = .ok outcome ∧
      (run second otherStyle config start).value = .ok other ∧
      Reordered regular paths outcome other ∧
      outcome.exitCode = other.exitCode ∧
      ReorderedLine regular code paths (Report.outcome config outcome)
        (Report.outcome config other) := by
  have hone := run_value_of_listed first style hcommand hfirst
  have htwo := run_value_of_listed second otherStyle hcommand hsecond
  rw [hfixed.verdict_eq] at hone
  rw [hother.verdict_eq] at htwo
  have hreordered : Reordered regular paths (settled regular code paths)
    (settled regular code others) := settled_reordered hperm
  exact ⟨_, _, hone, htwo, hreordered, hreordered.exitCode_eq, settled_reorderedLine config hperm⟩

/-- A directory that gives its names in the order that the state holds; every child fails. -/
def shuffled : World (List Name) where
  names order _ := .ok (order.map .ok)
  stat _ _ := .ok .regular
  spawn order _ := (⟨.ended (.exited 1), [], []⟩, order)

theorem shuffled_fixed {paths : List Path}
    (hpaths : paths ⊆ [.ofString "./tests/a", .ofString "./tests/b"]) (order : List Name) :
    Fixed shuffled ⟨"cargo", ["run"]⟩ paths order (fun _ => true) (fun _ => 1) := by
  have hlisted {path : Path} (hpath : path ∈ paths) :
      path = .ofString "./tests/a" ∨ path = .ofString "./tests/b" := by
    simpa using hpaths hpath
  constructor
  · intro ran _ path hpath
    rcases hlisted hpath with rfl | rfl <;> rfl
  · intro ran _ path hpath
    have hwords : ((Command.mk "cargo" ["run"]).on path).words.any (·.contains 0) = false := by
      rcases hlisted hpath with rfl | rfl <;> rfl
    have hexited : (WaitStatus.exited 1).code = 1 := by decide
    rw [World.run, hwords]
    exact hexited

/-- Two failing paths in both orders: the outcomes go together, and the lines do differ. -/
theorem run_reordered_swapped :
    [Path.ofString "./tests/a", .ofString "./tests/b"].Perm
      [.ofString "./tests/b", .ofString "./tests/a"] ∧
    ∃ outcome other,
      (run shuffled .plain .default [[0x61], [0x62]]).value = .ok outcome ∧
      (run shuffled .plain .default [[0x62], [0x61]]).value = .ok other ∧
      Reordered (fun _ => true) [.ofString "./tests/a", .ofString "./tests/b"] outcome other ∧
      Report.outcome .default outcome = "[TESTS]: failed with `2` error(s) in `./tests/b`" ∧
      Report.outcome .default other = "[TESTS]: failed with `2` error(s) in `./tests/a`" := by
  have hperm : [Path.ofString "./tests/a", .ofString "./tests/b"].Perm
      [.ofString "./tests/b", .ofString "./tests/a"] := List.Perm.swap _ _ []
  have hcommand : Config.default.command = .ok ⟨"cargo", ["run"]⟩ := rfl
  obtain ⟨outcome, other, houtcome, hother, hreordered, -, -⟩ :=
    run_reordered .plain .plain hcommand rfl rfl hperm
      (shuffled_fixed (List.Subset.refl _) [[0x61], [0x62]])
      (shuffled_fixed hperm.symm.subset [[0x62], [0x61]])
  refine ⟨hperm, outcome, other, houtcome, hother, hreordered, ?_, ?_⟩
  · obtain rfl := Except.ok.inj houtcome
    decide
  · obtain rfl := Except.ok.inj hother
    decide

end TestHarness.Pass
