import TestHarness.Proofs.Pass.Errors
import TestHarness.Proofs.Pass.Influence

/-!
# A pass repeated

Children may change the world as they run, so that a second pass starts in another state than the
first did. `World.Steady` says that these changes keep to an equivalence whose members a pass cannot
tell apart: the listing, the kinds of the files and the results of the children are the same in
related states. How a child comes to its result, what it writes and what it leaves behind are free.

The states of two passes from related states are related turn by turn, and a pass as a whole ends in
a state related to its first one. So any number of passes after one another give the same value and
start the same children.
-/

namespace TestHarness

/-- Related states are the same to a pass, and the children of a pass keep to related states. -/
structure World.Steady {σ : Type} (world : World σ) (config : Config)
    (related : σ → σ → Prop) : Prop where
  equivalence : Equivalence related
  listing : ∀ {state start}, related state start →
    world.entries state config.testsDir = world.entries start config.testsDir
  kind : ∀ {state start}, related state start → ∀ path,
    world.classify state path = world.classify start path
  result : ∀ {state start}, related state start → ∀ {command},
    config.command = .ok command → ∀ path,
      RunResult.ofEnding (world.run state (command.on path)).1.ending =
        RunResult.ofEnding (world.run start (command.on path)).1.ending
  effect : ∀ {command}, config.command = .ok command → ∀ state path,
    related state (world.run state (command.on path)).2

namespace Pass

variable {σ : Type} (world : World σ) (style : Style)

/-- The state after `n` passes, each of which starts where the one before it ended. -/
def left (config : Config) (state : σ) : Nat → σ
  | 0 => state
  | n + 1 => (run world style config (left config state n)).state

end Pass

namespace World.Steady

variable {σ : Type} {world : World σ} {config : Config} {related : σ → σ → Prop}
variable (hsteady : world.Steady config related)

/-! ## All turns -/

section Turns

variable {command : Command} (hcommand : config.command = .ok command)
include hsteady hcommand

/-- Children run one after another end in a state related to the first. -/
theorem foldl_next (ran : List Path) (state : σ) :
    related state (ran.foldl (Pass.next world command) state) := by
  induction ran generalizing state with
  | nil => exact hsteady.equivalence.refl state
  | cons path ran ih => exact hsteady.equivalence.trans (hsteady.effect hcommand state path) (ih _)

/-- No turn leads away from the state before the first one. -/
theorem turn (paths : List Path) (state : σ) (i : Nat) :
    related state (Pass.turn world command paths state i) :=
  hsteady.foldl_next hcommand (paths.take i) state

variable {state start : σ} (hrelated : related state start)
include hrelated

theorem turns (paths : List Path) (i : Nat) :
    related (Pass.turn world command paths state i) (Pass.turn world command paths start i) := by
  -- back to the start of the one pass, over to the start of the other and on to its turn
  have hback := hsteady.equivalence.symm (hsteady.turn hcommand paths state i)
  have hforth := hsteady.turn hcommand paths start i
  exact hsteady.equivalence.trans hback (hsteady.equivalence.trans hrelated hforth)

theorem sameKinds (paths : List Path) :
    Pass.SameKinds world world command paths state start := by
  intro i path _ _ _
  unfold Pass.RegularAt
  rw [← world.classify_isFile_iff, ← world.classify_isFile_iff,
    hsteady.kind (hsteady.turns hcommand hrelated paths i)]

theorem sameFailures (paths : List Path) :
    Pass.SameFailures world world command paths state start := by
  intro i path _ _ _
  exact congrArg RunResult.isFailure
    (hsteady.result (hsteady.turns hcommand hrelated paths i) hcommand path)

end Turns

/-! ## Whole passes -/

include hsteady

/-- Both passes end at once in the same error, or both get the same listing. -/
theorem run_cases {state start : σ} (hrelated : related state start) (style : Style) :
    (∃ error events,
      Pass.run world style config state = ⟨.error error, events, state⟩ ∧
      Pass.run world style config start = ⟨.error error, events, start⟩) ∨
    (∃ command paths, config.command = .ok command ∧
      world.entries state config.testsDir = .ok paths ∧
      world.entries start config.testsDir = .ok paths) := by
  cases hcommand : config.command with
  | error error =>
      exact .inl ⟨error, [], Pass.run_of_unparsed world style hcommand,
        Pass.run_of_unparsed world style hcommand⟩
  | ok command =>
      have hlisting := hsteady.listing hrelated
      cases hentries : world.entries state config.testsDir with
      | error error =>
          rw [hentries] at hlisting
          exact .inl ⟨_, _, Pass.run_of_unlisted world style hcommand hentries,
            Pass.run_of_unlisted world style hcommand hlisting.symm⟩
      | ok paths =>
          rw [hentries] at hlisting
          exact .inr ⟨command, paths, rfl, rfl, hlisting.symm⟩

/-- A pass, whether it fails, is aborted or is completed, ends in a state related to its first. -/
theorem run_state (style : Style) (state : σ) :
    related state (Pass.run world style config state).state := by
  have hrefl := hsteady.equivalence.refl state
  rcases hsteady.run_cases hrefl style with
    ⟨error, events, hrun, -⟩ | ⟨command, paths, hcommand, hentries, -⟩
  · rw [hrun]
    exact hrefl
  · rw [Pass.run_of_listed world style hcommand hentries, Pass.visit_eq]
    exact hsteady.turn hcommand paths state _

/-- From related states the value is the same and the same children are started. -/
theorem run_agree {state start : σ} (hrelated : related state start) (style : Style) :
    (Pass.run world style config state).value = (Pass.run world style config start).value ∧
    startedCalls (Pass.run world style config state).events =
      startedCalls (Pass.run world style config start).events := by
  rcases hsteady.run_cases hrelated style with
    ⟨error, events, hfirst, hsecond⟩ | ⟨command, paths, hcommand, hfirst, hsecond⟩
  · rw [hfirst, hsecond]
    exact ⟨rfl, rfl⟩
  · have hkinds := hsteady.sameKinds hcommand hrelated paths
    have hfailures := hsteady.sameFailures hcommand hrelated paths
    constructor
    · rw [Pass.run_value_of_listed world style hcommand hfirst,
        Pass.run_value_of_listed world style hcommand hsecond, hfailures.verdict_eq hkinds]
    · rw [Pass.startedCalls_run_of_listed world style hcommand hfirst,
        Pass.startedCalls_run_of_listed world style hcommand hsecond, hkinds.reached_eq]

/-- By induction on the number of passes: each one ends in a state related to where it began. -/
theorem left (style : Style) (state : σ) (n : Nat) :
    related state (Pass.left world style config state n) := by
  induction n with
  | zero => exact hsteady.equivalence.refl state
  | succ n ih => exact hsteady.equivalence.trans ih (hsteady.run_state style _)

end World.Steady

namespace Pass

/--
Passes that are run one after another, each in the state that the one before it left, cannot be told
apart as long as what the children change stays within states that look the same to a pass. However
many have been run before, the next gives the same error or the same outcome, with the same line and
exit code, and starts the same children with the same words in the same order.
-/
theorem run_repeated {σ : Type} {world : World σ} {config : Config} {related : σ → σ → Prop}
    (hsteady : world.Steady config related) (style : Style) (state : σ) (n : Nat) :
    let first := run world style config state
    let later := run world style config (left world style config state n)
    later.value = first.value ∧
      later.value.map (Report.outcome config) = first.value.map (Report.outcome config) ∧
      later.value.map Outcome.exitCode = first.value.map Outcome.exitCode ∧
      startedCalls later.events = startedCalls first.events ∧
      (startedCalls later.events).map Invocation.words =
        (startedCalls first.events).map Invocation.words ∧
      related state later.state := by
  intro first later
  have hleft := hsteady.left style state n
  obtain ⟨hvalue, hstarted⟩ : first.value = later.value ∧
      startedCalls first.events = startedCalls later.events := hsteady.run_agree hleft style
  rw [hvalue, hstarted]
  exact ⟨rfl, rfl, rfl, rfl, rfl, hsteady.left style state (n + 1)⟩

/-- The names in the tests directory, and a log to which every child adds the file it is run on. -/
structure Logged where
  present : List Name
  log : List Path
  deriving DecidableEq

/--
A directory whose entries stay and are all regular files. The child of `./tests/a` is well; any
other exits with the code 137 as long as its file is not in the log, and is killed by signal 9 once
it is.
-/
def logging : World Logged where
  names state _ := .ok (state.present.map .ok)
  stat _ _ := .ok .regular
  spawn state call :=
    let ending : WaitStatus :=
      if call.file = .ofString "./tests/a" then .exited 0
      else if state.log.contains call.file then .signaled 9
      else .exited 137
    (⟨.ended ending, [], []⟩, { state with log := call.file :: state.log })

theorem logging_run_present (state : Logged) (call : Invocation) :
    (logging.run state call).2.present = state.present := by
  unfold World.run
  split
  · rfl
  · rfl

/-- The log decides how a child ends, but not its code. -/
theorem logging_run_result (state start : Logged) (call : Invocation) :
    RunResult.ofEnding (logging.run state call).1.ending =
      RunResult.ofEnding (logging.run start call).1.ending := by
  have hcode (log : List Path) :
      (if log.contains call.file then WaitStatus.signaled 9 else .exited 137).code = 137 := by
    split <;> rfl
  unfold World.run
  split
  · rfl
  · simp only [logging, RunResult.ofEnding]
    split
    · rfl
    · rw [hcode, hcode]

theorem logging_steady (config : Config) :
    logging.Steady config fun state start => state.present = start.present where
  equivalence := ⟨fun _ => rfl, Eq.symm, Eq.trans⟩
  listing hsame := by
    simp only [World.entries, logging, hsame]
  kind _ _ := rfl
  result _ _ _ path := logging_run_result _ _ _
  effect _ _ _ := (logging_run_present _ _).symm

theorem answering_steady (config : Config) : answering.Steady config Eq where
  equivalence := eq_equivalence
  listing hsame := by rw [hsame]
  kind hsame path := by rw [hsame]
  result hsame _ _ path := by rw [hsame]
  effect _ answer path := by
    unfold World.run
    split
    · rfl
    · rfl

/--
The log grows, the second child ends in another way, and nothing of this shows in the pass; and a
directory that cannot be read to its end gives the same error after any number of passes.
-/
theorem run_repeated_logging :
    let start : Logged := ⟨[[0x61], [0x62]], []⟩
    let first := run logging .plain .default start
    let second := run logging .plain .default first.state
    first.state ≠ start ∧ second.events ≠ first.events ∧
      first.value.toOption = some (.completed
        ⟨2, 1, some (.ofString "./tests/b"), [.ofString "./tests/b"]⟩) ∧
      second.value = first.value ∧
      startedCalls second.events = startedCalls first.events ∧
      ∀ n, (run answering .plain .default (left answering .plain .default halfRead n)).value =
        .error (.unreadEntry (.ofString "./tests") (.ofNumber 5 "Input/output error")) := by
  intro start first second
  obtain ⟨hvalue, -, -, hstarted, -⟩ := run_repeated (logging_steady .default) .plain start 1
  refine ⟨by decide +kernel, by decide +kernel, by decide +kernel, hvalue, hstarted, fun n => ?_⟩
  exact (run_repeated (answering_steady .default) .plain halfRead n).1

end Pass

end TestHarness
