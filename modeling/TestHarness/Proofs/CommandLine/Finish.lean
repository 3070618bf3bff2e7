import TestHarness.CommandLine
import TestHarness.Proofs.Pass.Errors
import TestHarness.Proofs.Pass.Outcome
import TestHarness.Proofs.Report

/-!
# How the program ends

A run of the program ends in one of four ways. Which one is decided by the world alone: by how it
answers on the tests directory, what the listed paths are at their turns and how their children end.
The arguments and the environment have no part in it.
-/

namespace TestHarness.CommandLine

open Pass

variable {σ : Type} (world : World σ)

/-- The four ways in which a run of the program can end. -/
inductive Finish where
  /-- The directory cannot be listed, and the text says why. -/
  | unlisted (text : String)
  | unknownFile (path : Path)
  | success
  | failure (count : Nat) (last : Path)

namespace Finish

def exitCode : Finish → UInt8
  | unlisted _ | unknownFile _ => 1
  | success | failure _ _ => 0

/-- The line on standard output; there is none when the directory cannot be listed. -/
def line? : Finish → Option String
  | unlisted _ => none
  | unknownFile path => some (Report.Template.unknownFile.line path)
  | success => some (Report.Template.success.line (.ofString "./tests"))
  | failure count last => some ((Report.Template.failure count).line last)

/-- The way that goes with an outcome of the pass. -/
def ofOutcome : Outcome → Finish
  | .aborted path => unknownFile path
  | .completed tally =>
      if tally.isClean then success
      else failure tally.failureCount (tally.lastFailing.getD (.ofString ""))

theorem exitCode_ofOutcome (outcome : Outcome) :
    (ofOutcome outcome).exitCode = outcome.exitCode := by
  cases outcome with
  | aborted path => rfl
  | completed tally =>
      rw [ofOutcome]
      split
      · rfl
      · rfl

theorem line?_ofOutcome (outcome : Outcome) :
    (ofOutcome outcome).line? = some (Report.outcome .default outcome) := by
  cases outcome with
  | aborted path => rfl
  | completed tally =>
      rw [ofOutcome, Report.outcome]
      split
      · rfl
      · unfold Report.failure
        cases tally.lastFailing with
        | none => rfl
        | some last => rfl

end Finish

/-- The command of the default template. -/
def cargoRun : Command := ⟨"cargo", ["run"]⟩

theorem default_command : Config.default.command = .ok cargoRun := rfl

/-- Every entry of the tests directory can be read, and these are the paths of them. -/
def Listed (state : σ) (paths : List Path) : Prop :=
  ∃ names : List Name, world.names state (.ofString "./tests") = .ok (names.map .ok) ∧
    paths = names.map (Path.ofString "./tests").entry

/-- What of the world decides how the program ends. -/
inductive Decides (state : σ) : Finish → Prop where
  | unopened {fault : Fault} :
      world.names state (.ofString "./tests") = .error fault →
        Decides state (.unlisted ("Failed to read tests directory: ./tests: " ++ fault.text))
  /-- The first entry that cannot be read is the one that is reported. -/
  | unread {names : List Name} {fault : Fault} {later : List (Except Fault Name)} :
      world.names state (.ofString "./tests") = .ok (names.map .ok ++ .error fault :: later) →
        Decides state (.unlisted ("Failed to read entry in: ./tests: " ++ fault.text))
  | unknownFile {paths : List Path} {k : Nat} {path : Path} :
      Listed world state paths →
      FirstUnknown world cargoRun paths state k path →
        Decides state (.unknownFile path)
  | success {paths : List Path} :
      Listed world state paths →
      AllRegular world cargoRun paths state →
      (∀ i path, paths[i]? = some path →
        (resultAt world cargoRun paths state i path).exitCode = 0) →
        Decides state .success
  | failure {paths : List Path} {last : Path} :
      Listed world state paths →
      AllRegular world cargoRun paths state →
      (failingPaths world cargoRun paths state).getLast? = some last →
        Decides state (.failure (failingPaths world cargoRun paths state).length last)

theorem listed_iff (state : σ) (paths : List Path) :
    Listed world state paths ↔ world.entries state Config.default.testsDir = .ok paths := by
  rw [World.entries_eq_ok_iff]
  exact ⟨fun hlisted => ⟨rfl, hlisted⟩, And.right⟩

/-! ## One way is decided, and only one -/

theorem decides_of_unlisted {state : σ} {error : PassError}
    (hunlisted : world.Unlisted state Config.default.testsDir error) :
    Decides world state (.unlisted error.message) := by
  cases hunlisted with
  | nul hnul => exact absurd hnul (by decide)
  | directory _ hnames => exact .unopened hnames
  | entry _ hnames => exact .unread hnames

theorem exists_decides (state : σ) : ∃ finish, Decides world state finish := by
  cases hentries : world.entries state Config.default.testsDir with
  | error error =>
      exact ⟨_, decides_of_unlisted world ((world.entries_eq_error_iff _ _ _).mp hentries)⟩
  | ok paths =>
      have hlisted := (listed_iff world state paths).mpr hentries
      cases hpath : paths[reached world cargoRun paths state]? with
      | some path =>
          exact ⟨_, .unknownFile hlisted (firstUnknown_reached world cargoRun hpath)⟩
      | none =>
          have hall := allRegular_of_reached world cargoRun hpath
          cases hlast : (failingPaths world cargoRun paths state).getLast? with
          | none =>
              have hnone := List.getLast?_eq_none_iff.mp hlast
              exact ⟨_, .success hlisted hall
                ((failingPaths_eq_nil_iff world cargoRun paths state).mp hnone)⟩
          | some last => exact ⟨_, .failure hlisted hall hlast⟩

/-- The pass behind the way that is decided: it fails to list, or has the outcome of that way. -/
theorem Decides.pass {state : σ} {finish : Finish} (hfinish : Decides world state finish)
    (style : Style) :
    (∃ error, finish = .unlisted error.message ∧
      world.entries state Config.default.testsDir = .error error) ∨
    ∃ paths outcome, finish = .ofOutcome outcome ∧
      world.entries state Config.default.testsDir = .ok paths ∧
      (Pass.run world style .default state).value = .ok outcome := by
  have hvalue {paths : List Path}
      (hentries : world.entries state Config.default.testsDir = .ok paths) :=
    run_value_of_listed world style default_command hentries
  cases hfinish with
  | @unopened fault hnames =>
      have hunlisted : world.Unlisted state Config.default.testsDir (.unreadable _ fault) :=
        .directory rfl hnames
      exact .inl ⟨_, rfl, hunlisted.entries_eq⟩
  | @unread names fault later hnames =>
      have hunlisted : world.Unlisted state Config.default.testsDir (.unreadEntry _ fault) :=
        .entry rfl hnames
      exact .inl ⟨_, rfl, hunlisted.entries_eq⟩
  | unknownFile hlisted hfirst =>
      have hentries := (listed_iff world state _).mp hlisted
      refine .inr ⟨_, _, ?_, hentries, hvalue hentries⟩
      rw [verdict_of_firstUnknown world hfirst]
      rfl
  | success hlisted hall hzero =>
      have hentries := (listed_iff world state _).mp hlisted
      refine .inr ⟨_, _, ?_, hentries, hvalue hentries⟩
      rw [verdict_of_allRegular world hall,
        (failingPaths_eq_nil_iff world cargoRun _ state).mpr hzero]
      rfl
  | @failure paths last hlisted hall hlast =>
      have hentries := (listed_iff world state paths).mp hlisted
      refine .inr ⟨_, _, ?_, hentries, hvalue hentries⟩
      have hsome : (failingPaths world cargoRun paths state).length ≠ 0 := by
        intro hzero
        rw [List.length_eq_zero_iff.mp hzero] at hlast
        cases hlast
      rw [verdict_of_allRegular world hall, hlast]
      simp only [Finish.ofOutcome, Tally.isClean, beq_eq_false_iff_ne.mpr hsome]
      rfl

theorem Decides.unique {state : σ} {finish other : Finish} (hfinish : Decides world state finish)
    (hother : Decides world state other) : other = finish := by
  rcases hfinish.pass world .plain with ⟨error, rfl, hentries⟩ | ⟨_, outcome, rfl, hentries, hvalue⟩
  · rcases hother.pass world .plain with ⟨_, rfl, hothers⟩ | ⟨_, _, _, hothers, _⟩
    · rw [Except.error.inj (hentries.symm.trans hothers)]
    · cases hentries.symm.trans hothers
  · rcases hother.pass world .plain with ⟨_, _, hothers⟩ | ⟨_, later, rfl, _, hlater⟩
    · cases hentries.symm.trans hothers
    · rw [Except.ok.inj (hvalue.symm.trans hlater)]

/-! ## What a run comes to -/

theorem attempt_of_outcome {style : Style} {state : σ} {outcome : Outcome}
    (hpass : (Pass.run world style .default state).value = .ok outcome) (args : List String) :
    attempt world style args state =
      ⟨.ok outcome.exitCode,
        (Pass.run world style .default state).events ++
          [.wrote .out (Report.outcome .default outcome ++ "\n")],
        (Pass.run world style .default state).state⟩ := by
  unfold attempt
  rw [Task.bind_apply, hpass]
  rfl

theorem attempt_of_error {style : Style} {state : σ} {error : PassError}
    (hpass : (Pass.run world style .default state).value = .error error) (args : List String) :
    attempt world style args state =
      ⟨.error error, (Pass.run world style .default state).events,
        (Pass.run world style .default state).state⟩ := by
  unfold attempt
  rw [Task.bind_apply, hpass]
  simp only [Task.pure_apply, List.append_nil]

/-- A pass that has an outcome is followed by its line, and by nothing after it. -/
theorem run_of_outcome {style : Style} {state : σ} {outcome : Outcome}
    (hpass : (Pass.run world style .default state).value = .ok outcome) (args : List String) :
    run world style args state =
      ⟨outcome.exitCode,
        (Pass.run world style .default state).events ++
          [.wrote .out (Report.outcome .default outcome ++ "\n")],
        (Pass.run world style .default state).state⟩ := by
  unfold run
  rw [Task.bind_apply, attempt_of_outcome world hpass]
  simp only [Task.pure_apply, List.append_nil]

theorem run_of_error {style : Style} {state : σ} {error : PassError}
    (hpass : (Pass.run world style .default state).value = .error error) (args : List String) :
    run world style args state =
      ⟨1,
        (Pass.run world style .default state).events ++
          [.wrote .err ("Error: " ++ error.message ++ "\n")],
        (Pass.run world style .default state).state⟩ := by
  unfold run
  rw [Task.bind_apply, attempt_of_error world hpass]
  rfl

/-- A directory that cannot be listed: the listing and the report on it are all that happens. -/
theorem run_of_no_listing {state : σ} {error : PassError}
    (hentries : world.entries state Config.default.testsDir = .error error) (style : Style)
    (args : List String) :
    run world style args state =
      ⟨1, [.listed (.ofString "./tests"), .wrote .err ("Error: " ++ error.message ++ "\n")],
        state⟩ := by
  have hpass := run_of_unlisted world style default_command hentries
  rw [run_of_error world (congrArg Run.value hpass) args, hpass]
  rfl

/-- The exit code of the way that is decided, whatever the arguments. -/
theorem Decides.run_value {state : σ} {finish : Finish} (hfinish : Decides world state finish)
    (style : Style) (args : List String) :
    (run world style args state).value = finish.exitCode := by
  rcases hfinish.pass world style with ⟨error, rfl, hentries⟩ | ⟨_, outcome, rfl, _, hvalue⟩
  · rw [run_of_no_listing world hentries]
    rfl
  · rw [run_of_outcome world hvalue args, Finish.exitCode_ofOutcome]

theorem Decides.run_events_of_unlisted {state : σ} {text : String}
    (hfinish : Decides world state (.unlisted text)) (style : Style) (args : List String) :
    (run world style args state).events =
      [.listed (.ofString "./tests"), .wrote .err ("Error: " ++ text ++ "\n")] := by
  rcases hfinish.pass world style with ⟨error, htext, hentries⟩ | ⟨_, outcome, houtcome, -⟩
  · obtain rfl := Finish.unlisted.inj htext
    rw [run_of_no_listing world hentries]
  · have hline := Finish.line?_ofOutcome outcome
    rw [← houtcome] at hline
    cases hline

/--
The whole program, for every world, every environment and all arguments. Exactly one of the four
ways is decided, and it gives the exit code. A directory that cannot be opened, or not be read to
its end, is reported on standard error; no child is started and nothing else is written. In the
three other ways the line is the last event, after all that the children wrote, and the only text on
standard output; standard error gets one diagnostic for each child that could not be started, and
nothing else.
-/
theorem run_finish (environment : String → Option String) (terminal : Bool) (args : List String)
    (state : σ) :
    ∃ finish, Decides world state finish ∧
      (∀ other, Decides world state other → other = finish) ∧
      (run world (style environment terminal) args state).value = finish.exitCode ∧
      (∀ text, finish = .unlisted text →
        (run world (style environment terminal) args state).events =
          [.listed (.ofString "./tests"), .wrote .err ("Error: " ++ text ++ "\n")]) ∧
      ∀ line, finish.line? = some line →
        ∃ paths before,
          Listed world state paths ∧
          (run world (style environment terminal) args state).events =
            before ++ [.wrote .out (line ++ "\n")] ∧
          writtenTo .out before = [] ∧
          writtenTo .err before =
            (refusedRuns world cargoRun paths state (reached world cargoRun paths state)).map
              (fun run => (style environment terminal).diagnosticOpening ++ " `" ++ "cargo" ++
                "`: " ++ run.2.text ++ "\n") ∧
          transcript .out (run world (style environment terminal) args state).events =
            ((paths.zipIdx.take (reached world cargoRun paths state)).flatMap fun (path, i) =>
              (childAt world cargoRun paths state i path).out) ++
            Utf8.encode (line ++ "\n").toList := by
  generalize style environment terminal = style
  obtain ⟨finish, hfinish⟩ := exists_decides world state
  refine ⟨finish, hfinish, fun other hother => hfinish.unique world hother,
    hfinish.run_value world style args, ?_, ?_⟩
  · rintro text rfl
    exact hfinish.run_events_of_unlisted world style args
  · intro line hline
    rcases hfinish.pass world style with ⟨error, rfl, _⟩ | ⟨paths, outcome, rfl, hentries, hvalue⟩
    · cases hline
    have hevents := congrArg Run.events (run_of_outcome world hvalue args)
    rw [Finish.line?_ofOutcome] at hline
    rw [Option.some.inj hline] at hevents
    refine ⟨paths, _, (listed_iff world state paths).mpr hentries, hevents, ?_, ?_, ?_⟩
    · exact writtenTo_out_run_of_listed world style default_command hentries
    · simp only [writtenTo_err_run_of_listed world style default_command hentries, refusal_eq]
      rfl
    · have hlast : transcript .out [.wrote .out (line ++ "\n")] =
          Utf8.encode (line ++ "\n").toList := List.append_nil _
      rw [hevents, transcript_append, hlast,
        transcript_out_run_of_listed world style default_command hentries]

/-- A directory that opens and whose second entry cannot be read: its first is not run either. -/
theorem run_finish_half_read :
    (run answering .plain [] halfRead).value = 1 ∧
    (run answering .plain [] halfRead).events =
      [.listed (.ofString "./tests"),
        .wrote .err "Error: Failed to read entry in: ./tests: Input/output error (os error 5)\n"] := by
  have hanswer : answering.names halfRead (.ofString "./tests") =
      .ok ([[0x61]].map .ok ++ .error (.ofNumber 5 "Input/output error") :: [.ok [0x62]]) := rfl
  obtain ⟨finish, -, hunique, hcode, hevents, -⟩ :=
    run_finish answering (fun _ => none) false [] halfRead
  obtain rfl := hunique _ (.unread hanswer)
  exact ⟨hcode, hevents _ rfl⟩

/-- A directory with one file and no program to run it. -/
def runnerless : World Unit where
  names _ _ := .ok [.ok [0x61]]
  stat _ _ := .ok .regular
  spawn state _ := (⟨.refused (.ofNumber 2 "No such file or directory"), [], []⟩, state)

/-- The line is not the only text written when a child cannot be started. -/
theorem run_writes_diagnostic :
    Decides runnerless () (.failure 1 (.ofString "./tests/a")) ∧
    (run runnerless .plain [] ()).events.filter (fun event => !event.isRequest) =
      [.wrote .err "Failed to spawn `cargo`: No such file or directory (os error 2)\n",
        .wrote .out "[TESTS]: failed with `1` error(s) in `./tests/a`\n"] ∧
    (run runnerless .plain [] ()).events.filter (fun event => !event.isRequest) ≠
      [.wrote .out "[TESTS]: failed with `1` error(s) in `./tests/a`\n"] := by
  have hwritten : (run runnerless .plain [] ()).events.filter (fun event => !event.isRequest) =
      [.wrote .err "Failed to spawn `cargo`: No such file or directory (os error 2)\n",
        .wrote .out "[TESTS]: failed with `1` error(s) in `./tests/a`\n"] := by rfl
  refine ⟨?_, hwritten, ?_⟩
  · have hlisted : Listed runnerless () [.ofString "./tests/a"] := ⟨[[0x61]], rfl, rfl⟩
    refine Decides.failure hlisted ?_ rfl
    intro i path hpath
    obtain rfl := List.mem_singleton.mp (List.mem_of_getElem? hpath)
    rfl
  · rw [hwritten]
    simp

end TestHarness.CommandLine
