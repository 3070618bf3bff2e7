import TestHarness.Proofs.Pass.Outcome

/-!
# What the children decide

Two passes over one listing are set side by side, each in a world of its own, so that their children
need have nothing in common. As long as the paths are the same kinds of file at their turns, both
passes stop at the same place. What a child does then shows in the outcome only if the pass is not
aborted, and only through whether it failed.
-/

namespace TestHarness.Pass

/-! ## Turns that come -/

section Turns

variable {σ : Type} (world : World σ) (command : Command) (paths : List Path) (state : σ)

/-- The turn with index `i` comes: every path before it was a regular file at its own turn. -/
def Comes (i : Nat) : Prop :=
  ∀ j < i, ∀ path, paths[j]? = some path → RegularAt world command paths state j path

theorem comes_succ_iff (i : Nat) :
    Comes world command paths state (i + 1) ↔
      Comes world command paths state i ∧
        ∀ path, paths[i]? = some path → RegularAt world command paths state i path := by
  constructor
  · intro hcomes
    exact ⟨fun j hlt => hcomes j (Nat.lt_succ_of_lt hlt), hcomes i (Nat.lt_succ_self i)⟩
  · rintro ⟨hcomes, hregular⟩ j hlt
    rcases Nat.lt_succ_iff_lt_or_eq.mp hlt with hearlier | rfl
    · exact hcomes j hearlier
    · exact hregular

theorem comes_reached : Comes world command paths state (reached world command paths state) :=
  fun _ hlt _ hpath => regularAt_of_lt_reached world command hlt hpath

theorem AllRegular.comes {world : World σ} {command : Command} {paths : List Path} {state : σ}
    (hall : AllRegular world command paths state) (i : Nat) :
    Comes world command paths state i :=
  fun j _ => hall j

end Turns

/-! ## Two passes side by side -/

section TwoPasses

variable {σ τ : Type} (first : World σ) (second : World τ) (command : Command) (paths : List Path)
variable (state : σ) (start : τ)

/-- Whenever the turn of a path comes, it is a regular file in both passes or in neither. -/
def SameKinds : Prop :=
  ∀ i path, paths[i]? = some path →
    Comes first command paths state i → Comes second command paths start i →
    (RegularAt first command paths state i path ↔ RegularAt second command paths start i path)

/-- Every path that is run fails in both passes or in neither, in whatever way. -/
def SameFailures : Prop :=
  ∀ i path, paths[i]? = some path →
    Comes first command paths state (i + 1) → Comes second command paths start (i + 1) →
    (resultAt first command paths state i path).isFailure =
      (resultAt second command paths start i path).isFailure

variable {first second command paths state start}

theorem SameKinds.symm (hkinds : SameKinds first second command paths state start) :
    SameKinds second first command paths start state :=
  fun i path hpath hsecond hfirst => (hkinds i path hpath hfirst hsecond).symm

/-- Step by step, a turn that comes in one pass comes in the other. -/
theorem SameKinds.comes (hkinds : SameKinds first second command paths state start) {i : Nat}
    (hfirst : Comes first command paths state i) : Comes second command paths start i := by
  induction i with
  | zero =>
      intro j hlt
      cases hlt
  | succ i ih =>
      rw [comes_succ_iff] at hfirst ⊢
      have hsecond := ih hfirst.1
      refine ⟨hsecond, fun path hpath => ?_⟩
      exact (hkinds i path hpath hfirst.1 hsecond).mp (hfirst.2 path hpath)

theorem SameKinds.reached_le (hkinds : SameKinds first second command paths state start) :
    reached first command paths state ≤ reached second command paths start := by
  apply Nat.le_of_not_lt
  intro hlt
  have hbound := Nat.lt_of_lt_of_le hlt (reached_le_length first command paths state)
  have hpath := List.getElem?_eq_getElem hbound
  -- where the second pass stops, the first one finds a regular file and so must the second
  have hsecond := comes_reached second command paths start
  have hregular := regularAt_of_lt_reached first command hlt hpath
  exact not_regularAt_reached second command hpath
    ((hkinds _ _ hpath (hkinds.symm.comes hsecond) hsecond).mp hregular)

theorem SameKinds.reached_eq (hkinds : SameKinds first second command paths state start) :
    reached first command paths state = reached second command paths start :=
  Nat.le_antisymm hkinds.reached_le hkinds.symm.reached_le

/-- Both passes are aborted at the same path, or both run every path. -/
theorem SameKinds.verdict_cases (hkinds : SameKinds first second command paths state start)
    (tally : Tally) :
    (∃ path, verdict first command paths tally state = .aborted path ∧
      verdict second command paths tally start = .aborted path) ∨
    (AllRegular first command paths state ∧ AllRegular second command paths start) := by
  cases hpath : paths[reached first command paths state]? with
  | some path =>
      have hfirst := firstUnknown_reached first command hpath
      rw [hkinds.reached_eq] at hpath
      have hsecond := firstUnknown_reached second command hpath
      exact .inl ⟨path, verdict_of_firstUnknown first hfirst tally,
        verdict_of_firstUnknown second hsecond tally⟩
  | none =>
      have hfirst := allRegular_of_reached first command hpath
      rw [hkinds.reached_eq] at hpath
      exact .inr ⟨hfirst, allRegular_of_reached second command hpath⟩

/-- A view of outcomes that does not look into tallies is the same for both passes. -/
theorem SameKinds.verdict_agree {α : Type}
    (hkinds : SameKinds first second command paths state start) (view : Outcome → α)
    (hview : ∀ tally other, view (.completed tally) = view (.completed other)) :
    view (verdict first command paths .empty state) =
      view (verdict second command paths .empty start) := by
  rcases hkinds.verdict_cases .empty with ⟨path, hfirst, hsecond⟩ | ⟨hfirst, hsecond⟩
  · rw [hfirst, hsecond]
  · rw [verdict_of_allRegular first hfirst, verdict_of_allRegular second hsecond]
    exact hview _ _

/-- If all paths are run and fail alike, the same paths are kept. -/
theorem SameFailures.failingPaths_eq
    (hfailures : SameFailures first second command paths state start)
    (hfirst : AllRegular first command paths state)
    (hsecond : AllRegular second command paths start) :
    failingPaths first command paths state = failingPaths second command paths start := by
  unfold failingPaths
  apply congrArg (List.map Prod.fst)
  apply List.filter_congr
  intro run hrun
  have hpath := List.mem_zipIdx_iff_getElem?.mp hrun
  exact hfailures run.2 run.1 hpath (hfirst.comes _) (hsecond.comes _)

theorem SameFailures.verdict_eq
    (hfailures : SameFailures first second command paths state start)
    (hkinds : SameKinds first second command paths state start) :
    verdict first command paths .empty state = verdict second command paths .empty start := by
  rcases hkinds.verdict_cases .empty with ⟨path, hfirst, hsecond⟩ | ⟨hfirst, hsecond⟩
  · rw [hfirst, hsecond]
  · rw [verdict_of_allRegular first hfirst, verdict_of_allRegular second hsecond,
      hfailures.failingPaths_eq hfirst hsecond]

variable {config : Config} (style otherStyle : Style)

/--
How far the children of two passes over the same listing can make the outcomes differ, when each
path is the same kind of file at its turn in both. Whatever the children do, the exit code is the
same and the passes are both aborted or both completed. If they are aborted, the whole outcome and
its line are the same. If they are not, the outcomes and lines are still the same as long as each
path fails in both or in neither, no matter how its child ended.
-/
theorem run_influence (hcommand : config.command = .ok command)
    (hfirst : first.entries state config.testsDir = .ok paths)
    (hsecond : second.entries start config.testsDir = .ok paths)
    (hkinds : SameKinds first second command paths state start) :
    ∃ outcome other,
      (run first style config state).value = .ok outcome ∧
      (run second otherStyle config start).value = .ok other ∧
      outcome.exitCode = other.exitCode ∧ outcome.isAborted = other.isAborted ∧
      (outcome.isAborted = true →
        outcome = other ∧ Report.outcome config outcome = Report.outcome config other) ∧
      (SameFailures first second command paths state start →
        outcome = other ∧ Report.outcome config outcome = Report.outcome config other) := by
  refine ⟨_, _, run_value_of_listed first style hcommand hfirst,
    run_value_of_listed second otherStyle hcommand hsecond, ?_⟩
  refine ⟨?_, ?_, ?_, fun hfailures => ?_⟩
  · exact hkinds.verdict_agree Outcome.exitCode (fun _ _ => rfl)
  · exact hkinds.verdict_agree Outcome.isAborted (fun _ _ => rfl)
  · intro haborted
    rcases hkinds.verdict_cases .empty with ⟨path, hone, hother⟩ | ⟨hone, -⟩
    · rw [hone, hother]
      exact ⟨rfl, rfl⟩
    · rw [verdict_of_allRegular first hone] at haborted
      cases haborted
  · rw [hfailures.verdict_eq hkinds]
    exact ⟨rfl, rfl⟩

end TwoPasses

/-- A directory of four files whose children end in the ways that the state holds, one by one. -/
def scripted : World (List Ending) where
  names _ _ := .ok [.ok [0x61], .ok [0x62], .ok [0x63], .ok [0x64]]
  stat _ _ := .ok .regular
  spawn coming _ := (⟨coming.headD (.ended (.exited 0)), [], []⟩, coming.tail)

/-- Three exit codes against a signal, a program that cannot be started and a child that stopped. -/
theorem run_influence_mixed :
    let paths : List Path := ["./tests/a", "./tests/b", "./tests/c", "./tests/d"].map .ofString
    let codes : List Ending :=
      [.ended (.exited 1), .ended (.exited 0), .ended (.exited 2), .ended (.exited 3)]
    let others : List Ending :=
      [.ended (.signaled 9), .ended (.exited 0), .refused (.ofNumber 13 "Permission denied"),
        .ended ⟨0x137F⟩]
    SameKinds scripted scripted ⟨"cargo", ["run"]⟩ paths codes others ∧
    SameFailures scripted scripted ⟨"cargo", ["run"]⟩ paths codes others ∧
    (run scripted .plain .default codes).value = (run scripted .plain .default others).value := by
  intro paths codes others
  have hregular (state : List Ending) : AllRegular scripted ⟨"cargo", ["run"]⟩ paths state := by
    intro i path hpath
    have hlisted : path ∈ paths := List.mem_of_getElem? hpath
    simp only [paths, List.map_cons, List.map_nil, List.mem_cons, List.not_mem_nil,
      or_false] at hlisted
    rcases hlisted with rfl | rfl | rfl | rfl <;> rfl
  have hkinds : SameKinds scripted scripted ⟨"cargo", ["run"]⟩ paths codes others :=
    fun i path hpath _ _ => iff_of_true (hregular codes i path hpath) (hregular others i path hpath)
  have hfailures : SameFailures scripted scripted ⟨"cargo", ["run"]⟩ paths codes others := by
    intro i path hpath _ _
    rcases i with _ | _ | _ | _ | i <;> cases hpath <;> decide
  have hcommand : Config.default.command = .ok ⟨"cargo", ["run"]⟩ := rfl
  obtain ⟨outcome, other, houtcome, hother, -, -, -, hsame⟩ :=
    run_influence .plain .plain hcommand rfl rfl hkinds
  refine ⟨hkinds, hfailures, ?_⟩
  rw [houtcome, hother, (hsame hfailures).1]

end TestHarness.Pass
