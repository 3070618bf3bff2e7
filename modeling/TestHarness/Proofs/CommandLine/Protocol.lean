import TestHarness.Proofs.CommandLine.Finish
import TestHarness.Proofs.Pass.Alike
import TestHarness.Proofs.Pass.Paint
import TestHarness.Proofs.Pass.Refusals

/-!
# Two runs of the program

Two runs of the program are set side by side that may differ in their arguments, in their
environments and in whether standard output is a terminal. Each is in a world of its own, since
children see the environment too; all that is asked of the worlds is that children end alike. The
runs then ask for the same things, write the same to standard output and end with the same code, and
what they write to standard error differs in colour at most.
-/

namespace TestHarness

/-- The octets written to a stream; what children write is not among them. -/
def ownOctets (stream : Stream) (events : List Event) : List UInt8 :=
  (writtenTo stream events).flatMap fun text => Utf8.encode text.toList

/-- Requests that agree but for what children wrote start the same children. -/
theorem startedCalls_eq_of_muted {events others : List Event}
    (hrequests : (requests events).map Event.muted = (requests others).map Event.muted) :
    startedCalls events = startedCalls others := by
  have hmuted (events : List Event) :
      startedCalls events = ((requests events).map Event.muted).filterMap Event.startedCall? := by
    rw [List.filterMap_map, startedCalls, ← filterMap_requests fun _ _ => rfl]
    congr 1
    funext event
    cases event with
    | _ => rfl
  rw [hmuted events, hmuted others, hrequests]

namespace CommandLine

open Pass

/-- What two runs of the program have in common that differ in colour at most. -/
structure SameProtocol {σ τ : Type} (one : Run σ UInt8) (other : Run τ UInt8) : Prop where
  exitCode : one.value = other.value
  /-- The same children are started in the same order, with the same words. -/
  started : startedCalls one.events = startedCalls other.events
  /-- All requests are the same, in the same order, and children end alike. -/
  asked : (requests one.events).map Event.muted = (requests other.events).map Event.muted
  out : ownOctets .out one.events = ownOctets .out other.events
  err : unpaint (ownOctets .err one.events) = unpaint (ownOctets .err other.events)

section OneRun

variable {σ : Type} (world : World σ) {state : σ} {paths : List Path}
variable (hentries : world.entries state Config.default.testsDir = .ok paths)
variable (style : Style) (args : List String)
include hentries

/-- A run after a listing: the pass, and the line at its end. -/
theorem run_of_listing :
    (run world style args state).value = (verdict world cargoRun paths .empty state).exitCode ∧
    (run world style args state).events =
      (Pass.run world style .default state).events ++ [.wrote .out
        (Report.outcome .default (verdict world cargoRun paths .empty state) ++ "\n")] := by
  have hvalue := run_value_of_listed world style default_command hentries
  rw [run_of_outcome world hvalue args]
  exact ⟨rfl, rfl⟩

theorem requests_of_listing :
    requests (run world style args state).events =
      .listed Config.default.testsDir ::
        visitRequests world cargoRun paths state (reached world cargoRun paths state) := by
  rw [(run_of_listing world hentries style args).2,
    ← requests_run_of_listed world style default_command hentries, requests, List.filter_append]
  exact List.append_nil _

theorem writtenTo_out_of_listing :
    writtenTo .out (run world style args state).events =
      [Report.outcome .default (verdict world cargoRun paths .empty state) ++ "\n"] := by
  rw [(run_of_listing world hentries style args).2, writtenTo_append,
    writtenTo_out_run_of_listed world style default_command hentries]
  rfl

/-- The style shows in the diagnostics only. -/
theorem writtenTo_err_of_listing :
    writtenTo .err (run world style args state).events =
      (refusedRuns world cargoRun paths state (reached world cargoRun paths state)).map fun run =>
        refusal style cargoRun.program run.2 := by
  rw [(run_of_listing world hentries style args).2, writtenTo_append,
    ← writtenTo_err_run_of_listed world style default_command hentries]
  exact List.append_nil _

end OneRun

section TwoRuns

variable {σ τ : Type} {first : World σ} {second : World τ} {state : σ} {start : τ}
variable (style otherStyle : Style) (args otherArgs : List String)

/-- When the directory cannot be listed, nothing of a run depends on the style. -/
theorem sameProtocol_of_unlisted {error : PassError}
    (hentries : first.entries state Config.default.testsDir = .error error)
    (hothers : second.entries start Config.default.testsDir = .error error) :
    SameProtocol (run first style args state) (run second otherStyle otherArgs start) := by
  rw [run_of_no_listing first hentries, run_of_no_listing second hothers]
  exact ⟨rfl, rfl, rfl, rfl, rfl⟩

variable {related : σ → τ → Prop} {paths : List Path}

/-- Turn by turn, the style changes the paint of the diagnostics and nothing else. -/
theorem sameProtocol_of_listed (halike : first.Alike second related)
    (hrelated : related state start)
    (hentries : first.entries state Config.default.testsDir = .ok paths)
    (hothers : second.entries start Config.default.testsDir = .ok paths) :
    SameProtocol (run first style args state) (run second otherStyle otherArgs start) := by
  have hreached := halike.reached_eq hrelated cargoRun paths
  have hverdict := halike.verdict_eq hrelated cargoRun paths
  have hasked : (requests (run first style args state).events).map Event.muted =
      (requests (run second otherStyle otherArgs start).events).map Event.muted := by
    rw [requests_of_listing first hentries, requests_of_listing second hothers, List.map_cons,
      List.map_cons, halike.visitRequests_muted_eq hrelated, hreached]
  refine ⟨?_, startedCalls_eq_of_muted hasked, hasked, ?_, ?_⟩
  · rw [(run_of_listing first hentries style args).1,
      (run_of_listing second hothers otherStyle otherArgs).1, hverdict]
  · unfold ownOctets
    rw [writtenTo_out_of_listing first hentries, writtenTo_out_of_listing second hothers, hverdict]
  · unfold ownOctets
    rw [writtenTo_err_of_listing first hentries, writtenTo_err_of_listing second hothers,
      halike.refusedRuns_eq hrelated, hreached]
    exact unpaint_refusals_eq style otherStyle _ _

end TwoRuns

/--
Neither the arguments nor the environment nor the terminal has a part in what the program does. If
children end alike in two runs, the runs ask for the same things in the same order, so they start
the same children with the same words; they end with the same code and write the same octets to
standard output. Their octets on standard error are the same as well, once the plain opening of a
diagnostic is put for each painted one.
-/
theorem run_protocol {σ τ : Type} {first : World σ} {second : World τ} {related : σ → τ → Prop}
    (halike : first.Alike second related) {state : σ} {start : τ}
    (hrelated : related state start)
    (environment otherEnvironment : String → Option String) (terminal otherTerminal : Bool)
    (args otherArgs : List String) :
    SameProtocol (run first (style environment terminal) args state)
      (run second (style otherEnvironment otherTerminal) otherArgs start) := by
  have hsame := halike.entries_eq hrelated Config.default.testsDir
  cases hentries : first.entries state Config.default.testsDir with
  | error error =>
      rw [hentries] at hsame
      exact sameProtocol_of_unlisted _ _ args otherArgs hentries hsame.symm
  | ok paths =>
      rw [hentries] at hsame
      exact sameProtocol_of_listed _ _ args otherArgs halike hrelated hentries hsame.symm

/-- Four files whose children end as the state says, and write in red before they do. -/
def reddened : World (List Ending) where
  names := scripted.names
  stat := scripted.stat
  spawn coming call :=
    (⟨(scripted.spawn coming call).1.ending, Utf8.encode "\x1b[31m.\x1b[0m".toList, []⟩,
      (scripted.spawn coming call).2)

theorem scripted_alike_reddened : scripted.Alike reddened Eq where
  names := by
    rintro state _ rfl dir
    rfl
  stat := by
    rintro state _ rfl path
    rfl
  ending := by
    rintro state _ rfl call
    rfl
  after := by
    rintro state _ rfl call
    rfl

/--
Two of four children cannot be started, and colour is forced in one of the runs; then a directory
that cannot be read to its end, where no child is started and there is nothing to paint.
-/
theorem run_protocol_forced :
    let endings : List Ending :=
      [.ended (.exited 1), .refused (.ofNumber 2 "No such file or directory"), .ended (.exited 0),
        .refused (.ofNumber 13 "Permission denied")]
    let paths : List Path := ["./tests/a", "./tests/b", "./tests/c", "./tests/d"].map .ofString
    style (fun _ => none) false = .plain ∧ style colourForced false = .yellow ∧
    scripted.Alike reddened Eq ∧
    refusedRuns scripted cargoRun paths endings 4 =
      [(.ofString "./tests/b", .ofNumber 2 "No such file or directory"),
        (.ofString "./tests/d", .ofNumber 13 "Permission denied")] ∧
    SameProtocol (run scripted (style (fun _ => none) false) [] endings)
      (run reddened (style colourForced false) ["--help", "x"] endings) ∧
    writtenTo .err (run answering (style colourForced false) ["--help", "x"] halfRead).events =
      ["Error: Failed to read entry in: ./tests: Input/output error (os error 5)\n"] ∧
    SameProtocol (run answering (style (fun _ => none) false) [] halfRead)
      (run answering (style colourForced false) ["--help", "x"] halfRead) := by
  intro endings paths
  have hanswering : answering.Alike answering Eq := .refl answering
  exact ⟨rfl, rfl, scripted_alike_reddened, rfl,
    run_protocol scripted_alike_reddened rfl _ colourForced false false [] ["--help", "x"], rfl,
    run_protocol hanswering rfl _ colourForced false false [] ["--help", "x"]⟩

end CommandLine

end TestHarness
