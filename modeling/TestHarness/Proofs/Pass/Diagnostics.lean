import Mathlib.Data.List.Basic
import TestHarness.Proofs.Pass.Turns

/-!
# What a pass writes

A pass writes nothing to standard output, so that what stands there comes from the children, turn by
turn. To standard error it writes one line for each child that could not be started, in the order of
the turns, and nothing else. `refusedRuns` holds these children.
-/

namespace TestHarness

def Event.textOn? (stream : Stream) : Event → Option String
  | .wrote target text => if target = stream then some text else none
  | .listed _ | .examined _ | .started _ | .ended _ _ => none

/-- The texts written to a stream, in order; what children write is not among them. -/
def writtenTo (stream : Stream) (events : List Event) : List String :=
  events.filterMap (Event.textOn? stream)

theorem writtenTo_append (stream : Stream) (first second : List Event) :
    writtenTo stream (first ++ second) = writtenTo stream first ++ writtenTo stream second :=
  List.filterMap_append

theorem transcript_append (stream : Stream) (first second : List Event) :
    transcript stream (first ++ second) = transcript stream first ++ transcript stream second :=
  List.flatMap_append

/-- How a diagnostic begins. -/
def Style.diagnosticOpening : Style → String
  | .plain => "Failed to spawn"
  | .yellow => "\x1b[33mFailed to spawn\x1b[0m"

namespace Pass

theorem refusal_eq (style : Style) (program : String) (fault : Fault) :
    refusal style program fault =
      style.diagnosticOpening ++ " `" ++ program ++ "`: " ++ fault.text ++ "\n" := by
  cases style with
  | plain => rfl
  | yellow => rfl

variable {σ : Type} (world : World σ) (style : Style) (command : Command)

/-- The paths among the first `n` whose children could not be started, each with the fault. -/
def refusedRuns (paths : List Path) (state : σ) (n : Nat) : List (Path × Fault) :=
  (paths.zipIdx.take n).filterMap fun (path, i) =>
    (childAt world command paths state i path).ending.fault?.map fun fault => (path, fault)

/-! ## All turns -/

theorem writtenTo_turnEvents (path : Path) (child : Child) :
    writtenTo .out (turnEvents style command path child) = [] ∧
      writtenTo .err (turnEvents style command path child) =
        (child.ending.fault?.map (refusal style command.program)).toList := by
  unfold turnEvents diagnosis
  cases child.ending with
  | ended status => exact ⟨rfl, rfl⟩
  | refused fault => exact ⟨rfl, rfl⟩

theorem writtenTo_examined (stream : Stream) (path? : Option Path) :
    writtenTo stream (path?.toList.map .examined) = [] := by
  cases path? with
  | none => rfl
  | some path => rfl

theorem writtenTo_out_visitEvents (paths : List Path) (state : σ) :
    writtenTo .out (visitEvents world style command paths state) = [] := by
  unfold visitEvents
  rw [writtenTo_append, writtenTo_examined, List.append_nil, writtenTo, List.filterMap_flatMap,
    List.flatMap_eq_nil_iff]
  intro run _
  exact (writtenTo_turnEvents style command run.1 _).1

/-- One line for each child that could not be started. -/
theorem writtenTo_err_visitEvents (paths : List Path) (state : σ) :
    writtenTo .err (visitEvents world style command paths state) =
      (refusedRuns world command paths state (reached world command paths state)).map fun run =>
        refusal style command.program run.2 := by
  unfold visitEvents refusedRuns
  rw [writtenTo_append, writtenTo_examined, List.append_nil, writtenTo, List.filterMap_flatMap,
    List.map_filterMap, List.filterMap_eq_flatMap_toList]
  congr 1
  funext ⟨path, i⟩
  dsimp only
  rw [Option.map_map]
  exact (writtenTo_turnEvents style command path _).2

theorem transcript_out_turnEvents (path : Path) (child : Child) :
    transcript .out (turnEvents style command path child) = child.out := by
  unfold turnEvents diagnosis transcript
  cases child.ending with
  | ended status => exact List.append_nil _
  | refused fault => exact List.append_nil _

theorem transcript_examined (stream : Stream) (path? : Option Path) :
    transcript stream (path?.toList.map .examined) = [] := by
  cases path? with
  | none => rfl
  | some path => rfl

/-- On standard output stands what the children wrote, one after another. -/
theorem transcript_out_visitEvents (paths : List Path) (state : σ) :
    transcript .out (visitEvents world style command paths state) =
      (paths.zipIdx.take (reached world command paths state)).flatMap fun (path, i) =>
        (childAt world command paths state i path).out := by
  unfold visitEvents
  rw [transcript_append, transcript_examined, List.append_nil, transcript, List.flatMap_assoc]
  congr 1
  funext run
  exact transcript_out_turnEvents style command run.1 _

/-! ## The whole pass -/

section Listed

variable {command} {config : Config} {paths : List Path} {state : σ}
variable (hcommand : config.command = .ok command)
variable (hentries : world.entries state config.testsDir = .ok paths)
include hcommand hentries

theorem writtenTo_out_run_of_listed :
    writtenTo .out (run world style config state).events = [] := by
  rw [run_events_of_listed world style hcommand hentries]
  exact writtenTo_out_visitEvents world style command paths state

theorem writtenTo_err_run_of_listed :
    writtenTo .err (run world style config state).events =
      (refusedRuns world command paths state (reached world command paths state)).map fun run =>
        refusal style command.program run.2 := by
  rw [run_events_of_listed world style hcommand hentries, ← writtenTo_err_visitEvents]
  rfl

theorem transcript_out_run_of_listed :
    transcript .out (run world style config state).events =
      (paths.zipIdx.take (reached world command paths state)).flatMap fun (path, i) =>
        (childAt world command paths state i path).out := by
  rw [run_events_of_listed world style hcommand hentries, ← transcript_out_visitEvents world style]
  rfl

end Listed

end Pass

end TestHarness
