import TestHarness.Proofs.Listing
import TestHarness.Proofs.Pass.Diagnostics
import TestHarness.Proofs.Pass.Requests

/-!
# Passes that fail

A pass fails before it has done anything but look: its template spells no command, or its directory
cannot be listed. `run_error_cases` gives the whole run in both cases, and everything else about
failing passes follows from it.

The text of an error opens in one of four ways. None of the openings begins another, and none
agrees with the label of the reports, so the text alone tells why the pass failed.
-/

namespace TestHarness

/-! ## Texts of errors -/

namespace PassError

/-- What keeps a pass from starting. -/
inductive Cause where
  | template
  | program
  | directory
  | entry
  deriving DecidableEq

def cause : PassError → Cause
  | unparsable _ => .template
  | noProgram => .program
  | unreadable _ _ => .directory
  | unreadEntry _ _ => .entry

/-- How the text of an error begins. -/
def Cause.opening : Cause → String
  | template => "Failed to parse runner command: "
  | program => "Empty runner command after parsing."
  | directory => "Failed to read tests directory: "
  | entry => "Failed to read entry in: "

/-- What the text of an error says after its opening. -/
def detail : PassError → String
  | unparsable runner => runner
  | noProgram => ""
  | unreadable dir fault | unreadEntry dir fault => dir.display ++ (": " ++ fault.text)

theorem message_eq (error : PassError) : error.message = error.cause.opening ++ error.detail := by
  cases error with
  | unparsable runner => rfl
  | noProgram => exact String.append_empty.symm
  | unreadable dir fault | unreadEntry dir fault =>
      exact (String.append_assoc ..).trans (String.append_assoc ..)

theorem opening_prefix_message (error : PassError) :
    error.cause.opening.toList <+: error.message.toList := by
  rw [message_eq, String.toList_append]
  exact List.prefix_append _ _

theorem Cause.eq_of_opening_nested {first second : Cause}
    (hnested : first.opening.toList <+: second.opening.toList) : first = second := by
  revert hnested
  cases first <;> cases second <;> decide

/-- Errors with the same text have the same cause. -/
theorem cause_eq_of_message_eq {first second : PassError}
    (hmessage : first.message = second.message) : first.cause = second.cause := by
  have hfirst := first.opening_prefix_message
  rw [hmessage] at hfirst
  rcases List.prefix_or_prefix_of_prefix hfirst second.opening_prefix_message with hle | hge
  · exact Cause.eq_of_opening_nested hle
  · exact (Cause.eq_of_opening_nested hge).symm

/-- No error can be taken for a line that ends a pass. -/
theorem label_not_prefix_message (error : PassError) :
    ¬ Report.label.toList <+: error.message.toList := by
  intro hlabel
  have hapart (cause : Cause) : ¬ Report.label.toList <+: cause.opening.toList ∧
      ¬ cause.opening.toList <+: Report.label.toList := by
    cases cause <;> decide
  rcases List.prefix_or_prefix_of_prefix hlabel error.opening_prefix_message with hle | hge
  · exact (hapart error.cause).1 hle
  · exact (hapart error.cause).2 hge

end PassError

namespace Config

theorem command_error_cases {config : Config} {error : PassError}
    (hcommand : config.command = .error error) :
    (Words.split? config.runner.toList = none ∧ error = .unparsable config.runner) ∨
      (Words.split? config.runner.toList = some [] ∧ error = .noProgram) := by
  unfold command at hcommand
  split at hcommand
  · next hsplit => exact .inl ⟨hsplit, (Except.error.inj hcommand).symm⟩
  · next hsplit => exact .inr ⟨hsplit, (Except.error.inj hcommand).symm⟩
  · cases hcommand

end Config

/-! ## Runs that leave no trace -/

/-- No child was started, nothing was written and the state is the one before. -/
structure Run.Traceless {σ α : Type} (run : Run σ α) (before : σ) : Prop where
  noChild : startedCalls run.events = []
  noText : ∀ stream, writtenTo stream run.events = []
  noOctets : ∀ stream, transcript stream run.events = []
  sameState : run.state = before

namespace Pass

variable {σ : Type} (world : World σ) (style : Style) (config : Config) (state : σ)

/--
What a failing pass says, and what holds of its settings and of the world's answer on its directory
when it says so.
-/
inductive Reason : PassError.Cause → String → Prop where
  | template : Words.split? config.runner.toList = none →
      Reason .template ("Failed to parse runner command: " ++ config.runner)
  | program : Words.split? config.runner.toList = some [] →
      Reason .program "Empty runner command after parsing."
  | nul {command : Command} : config.command = .ok command → config.testsDir.hasNul = true →
      Reason .directory ("Failed to read tests directory: " ++ config.testsDir.display ++ ": " ++
        "file name contained an unexpected NUL byte")
  | directory {command : Command} {fault : Fault} : config.command = .ok command →
      config.testsDir.hasNul = false → world.names state config.testsDir = .error fault →
      Reason .directory ("Failed to read tests directory: " ++ config.testsDir.display ++ ": " ++
        fault.text)
  /-- The first entry that cannot be read gives the fault. -/
  | entry {command : Command} {names : List Name} {fault : Fault}
      {later : List (Except Fault Name)} : config.command = .ok command →
      config.testsDir.hasNul = false →
      world.names state config.testsDir = .ok (names.map .ok ++ .error fault :: later) →
      Reason .entry ("Failed to read entry in: " ++ config.testsDir.display ++ ": " ++ fault.text)

variable {config state} {error : PassError}

/-- A failing pass in full: no command and nothing asked for, or a listing and nothing more. -/
theorem run_error_cases (hrun : (run world style config state).value = .error error) :
    (config.command = .error error ∧ run world style config state = ⟨.error error, [], state⟩) ∨
    ∃ command, config.command = .ok command ∧ world.Unlisted state config.testsDir error ∧
      run world style config state = ⟨.error error, [.listed config.testsDir], state⟩ := by
  cases hcommand : config.command with
  | error earlier =>
      have hpass : run world style config state = ⟨.error earlier, [], state⟩ :=
        run_of_unparsed world style hcommand
      rw [hpass] at hrun
      obtain rfl := Except.error.inj hrun
      exact .inl ⟨rfl, hpass⟩
  | ok command =>
      cases hentries : world.entries state config.testsDir with
      | error reported =>
          have hpass := run_of_unlisted world style hcommand hentries
          rw [hpass] at hrun
          obtain rfl := Except.error.inj hrun
          exact .inr ⟨command, rfl, (world.entries_eq_error_iff _ _ _).mp hentries, hpass⟩
      | ok paths =>
          rw [run_value_of_listed world style hcommand hentries] at hrun
          cases hrun

theorem run_error_traceless (hrun : (run world style config state).value = .error error) :
    (run world style config state).Traceless state := by
  rcases run_error_cases world style hrun with ⟨-, hpass⟩ | ⟨command, -, -, hpass⟩
  · rw [hpass]
    exact ⟨rfl, fun _ => rfl, fun _ => rfl, rfl⟩
  · rw [hpass]
    exact ⟨rfl, fun _ => rfl, fun _ => rfl, rfl⟩

theorem run_error_reason (hrun : (run world style config state).value = .error error) :
    Reason world config state error.cause error.message := by
  rcases run_error_cases world style hrun with ⟨hcommand, -⟩ | ⟨_, hcommand, hunlisted, -⟩
  · rcases Config.command_error_cases hcommand with ⟨hsplit, rfl⟩ | ⟨hsplit, rfl⟩
    · exact .template hsplit
    · exact .program hsplit
  · cases hunlisted with
    | nul hnul => exact .nul hcommand hnul
    | directory hnul hnames => exact .directory hcommand hnul hnames
    | entry hnul hnames => exact .entry hcommand hnul hnames

/-- A pass fails exactly when the template spells no command or the directory is not listed. -/
theorem run_error_iff :
    (∃ error, (run world style config state).value = .error error) ↔
      (∃ error, config.command = .error error) ∨
        ∃ error, world.Unlisted state config.testsDir error := by
  constructor
  · rintro ⟨error, hrun⟩
    rcases run_error_cases world style hrun with ⟨hcommand, -⟩ | ⟨_, -, hunlisted, -⟩
    · exact .inl ⟨error, hcommand⟩
    · exact .inr ⟨error, hunlisted⟩
  · rintro (⟨error, hcommand⟩ | ⟨error, hunlisted⟩)
    · exact ⟨error, congrArg Run.value (run_of_unparsed world style hcommand)⟩
    · cases hcommand : config.command with
      | error error => exact ⟨error, congrArg Run.value (run_of_unparsed world style hcommand)⟩
      | ok command =>
          exact ⟨_, congrArg Run.value (run_of_unlisted world style hcommand hunlisted.entries_eq)⟩

/-- Worlds that answer alike on the directory make a pass fail alike, whatever else they do. -/
theorem run_error_of_same_names {τ : Type} (other : World τ) (otherStyle : Style) {start : τ}
    (hnames : other.names start config.testsDir = world.names state config.testsDir)
    (hrun : (run world style config state).value = .error error) :
    (run other otherStyle config start).value = .error error := by
  rcases run_error_cases world style hrun with ⟨hcommand, -⟩ | ⟨_, hcommand, hunlisted, -⟩
  · rw [run_of_unparsed other otherStyle hcommand]
  · have hentries := (world.entries_congr hnames).trans hunlisted.entries_eq
    rw [run_of_unlisted other otherStyle hcommand hentries]

variable (config state)

/--
Why and how a pass fails. It does so exactly when its template spells no command or its directory
cannot be listed: for a zero octet in its path, because it cannot be opened, or because an entry
cannot be read. If the template spells no command, that is what is reported. No child has then been
started, nothing has been written and the state is the one before. The text of the error is one of
four, each with its own reason; no text belongs to two causes, and none begins like a line that ends
a pass. What the paths lead to and how children end has no part in it: in any other world that
answers alike on the directory the pass fails in the same way, or in neither.
-/
theorem run_failure :
    ((∃ error, (run world style config state).value = .error error) ↔
      (∃ error, config.command = .error error) ∨
        config.testsDir.hasNul = true ∨
        (∃ fault, world.names state config.testsDir = .error fault) ∨
        ∃ found fault, world.names state config.testsDir = .ok found ∧ .error fault ∈ found) ∧
    (∀ error, config.command = .error error →
      (run world style config state).value = .error error) ∧
    (∀ error, (run world style config state).value = .error error →
      (run world style config state).Traceless state ∧
      Reason world config state error.cause error.message) ∧
    (∀ first second : PassError, first.message = second.message → first.cause = second.cause) ∧
    (∀ error : PassError, ¬ Report.label.toList <+: error.message.toList) ∧
    ∀ (τ : Type) (other : World τ) (start : τ) (otherStyle : Style),
      other.names start config.testsDir = world.names state config.testsDir →
      ∀ error, (run other otherStyle config start).value = .error error ↔
        (run world style config state).value = .error error := by
  refine ⟨?_, ?_, ?_, fun _ _ => PassError.cause_eq_of_message_eq,
    PassError.label_not_prefix_message, ?_⟩
  · rw [run_error_iff, World.exists_unlisted_iff]
  · intro error hcommand
    rw [run_of_unparsed world style hcommand]
  · intro error hrun
    exact ⟨run_error_traceless world style hrun, run_error_reason world style hrun⟩
  · intro τ other start otherStyle hnames error
    constructor
    · exact run_error_of_same_names other otherStyle world style hnames.symm
    · exact run_error_of_same_names world style other otherStyle hnames

/-- A directory that answers as the state says, with regular files that all pass. -/
def answering : World (Except Fault (List (Except Fault Name))) where
  names answer _ := answer
  stat _ _ := .ok .regular
  spawn answer _ := (⟨.ended (.exited 0), [], []⟩, answer)

/-- The second of three entries cannot be read. -/
def halfRead : Except Fault (List (Except Fault Name)) :=
  .ok [.ok [0x61], .error (.ofNumber 5 "Input/output error"), .ok [0x62]]

/-- The default settings, with a quote left open in the template. -/
def unclosed : Config := ⟨Config.default.testsDir, "cargo 'run"⟩

/--
A directory that is not there, behind a template with an open quote and behind one without; and one
whose second entry cannot be read, after which nothing has been run.
-/
theorem run_failure_answering :
    let missing := Except.error (Fault.ofNumber 2 "No such file or directory")
    (∃ error, (run answering .plain unclosed missing).value = .error error ∧
      Reason answering unclosed missing error.cause error.message ∧
      error.message = "Failed to parse runner command: cargo 'run") ∧
    (∃ error, (run answering .plain .default missing).value = .error error ∧
      Reason answering .default missing error.cause error.message ∧
      error.message =
        "Failed to read tests directory: ./tests: No such file or directory (os error 2)") ∧
    (∃ error, (run answering .plain .default halfRead).value = .error error ∧
      Reason answering .default halfRead error.cause error.message ∧
      error.message = "Failed to read entry in: ./tests: Input/output error (os error 5)") ∧
    (run answering .plain .default halfRead).Traceless halfRead := by
  intro missing
  obtain ⟨-, hparsed, hreason, -⟩ := run_failure answering .plain unclosed missing
  obtain ⟨-, -, hmissing, -⟩ := run_failure answering .plain .default missing
  obtain ⟨-, -, hhalfRead, -⟩ := run_failure answering .plain .default halfRead
  have hunclosed := hparsed (.unparsable "cargo 'run") (by rfl)
  have habsent : (run answering .plain .default missing).value = .error (.unreadable _ _) := rfl
  have hbroken : (run answering .plain .default halfRead).value = .error (.unreadEntry _ _) := rfl
  exact ⟨⟨_, hunclosed, (hreason _ hunclosed).2, by decide⟩,
    ⟨_, habsent, (hmissing _ habsent).2, by decide⟩,
    ⟨_, hbroken, (hhalfRead _ hbroken).2, by decide⟩, (hhalfRead _ hbroken).1⟩

end Pass

end TestHarness
