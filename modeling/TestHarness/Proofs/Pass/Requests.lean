import TestHarness.Proofs.Pass.Turns

/-!
# The requests of a pass

The requests among the events of a pass are one listing and then, path by path, an examination and
the start and end of a child, up to the first path that is not a regular file. The order in which
children live, which of the listed paths are run and the words that each child gets are all read off
this sequence.
-/

namespace TestHarness

/-! ## Views of an event list -/

/-- Whether an event asks something of the world, and does not only write. -/
def Event.isRequest : Event → Bool
  | .listed _ | .examined _ | .started _ | .ended _ _ => true
  | .wrote _ _ => false

/-- The requests among events, in order. -/
def requests (events : List Event) : List Event := events.filter Event.isRequest

def Event.startedCall? : Event → Option Invocation
  | .started call => some call
  | _ => none

/-- The invocations that are started, in order. -/
def startedCalls (events : List Event) : List Invocation := events.filterMap Event.startedCall?

def Event.examinedPath? : Event → Option Path
  | .examined path => some path
  | _ => none

/-- The paths that are examined, in order. -/
def examinedPaths (events : List Event) : List Path := events.filterMap Event.examinedPath?

/-- The children that live after an event, given those that lived before it. -/
def Event.living (before : List Invocation) : Event → List Invocation
  | .started call => call :: before
  | .ended call _ => before.erase call
  | .listed _ | .examined _ | .wrote _ _ => before

/-- The children that live after all of the events: those started and not ended since. -/
def alive (events : List Event) : List Invocation := events.foldl Event.living []

/-- A view that does not see what is written sees the same in the requests alone. -/
theorem filterMap_requests {α : Type} {view : Event → Option α}
    (hview : ∀ stream text, view (.wrote stream text) = none) (events : List Event) :
    (requests events).filterMap view = events.filterMap view := by
  unfold requests
  rw [List.filterMap_filter]
  congr 1
  funext event
  cases event with
  | wrote stream text => exact (hview stream text).symm
  | _ => rfl

/-! ## Children that live one at a time -/

/-- After no number of events do two children live, and none is left at the end. -/
structure OneAtATime (events : List Event) : Prop where
  atMostOne : ∀ count, (alive (events.take count)).length ≤ 1
  noneLeft : alive events = []

namespace OneAtATime

theorem append {first second : List Event} (hfirst : OneAtATime first)
    (hsecond : OneAtATime second) : OneAtATime (first ++ second) := by
  have hbegin (more : List Event) : alive (first ++ more) = alive more := by
    have hnone := hfirst.noneLeft
    unfold alive at hnone ⊢
    rw [List.foldl_append, hnone]
  constructor
  · intro count
    rw [List.take_append]
    rcases Nat.le_total count first.length with hle | hle
    · rw [Nat.sub_eq_zero_of_le hle, List.take_zero, List.append_nil]
      exact hfirst.atMostOne count
    · rw [List.take_of_length_le hle, hbegin]
      exact hsecond.atMostOne _
  · rw [hbegin]
    exact hsecond.noneLeft

/-- Events that neither start nor end a child. -/
theorem of_quiet {events : List Event}
    (hquiet : ∀ event ∈ events, ∀ before, Event.living before event = before) :
    OneAtATime events := by
  have hempty (some : List Event) (hsub : some ⊆ events) : alive some = [] := by
    unfold alive
    induction some with
    | nil => rfl
    | cons event some ih =>
        rw [List.foldl_cons, hquiet event (hsub List.mem_cons_self)]
        exact ih fun _ hlater => hsub (List.mem_cons_of_mem _ hlater)
  constructor
  · intro count
    rw [hempty _ (List.take_subset count events)]
    exact Nat.zero_le 1
  · exact hempty events (List.Subset.refl _)

/-- A child that is waited for as soon as it is started. -/
theorem of_child (call : Invocation) (child : Child) :
    OneAtATime [.started call, .ended call child] where
  atMostOne := by
    intro count
    match count with
    | 0 => exact Nat.zero_le 1
    | 1 => exact Nat.le_refl 1
    | count + 2 => simp [alive, Event.living]
  noneLeft := by simp [alive, Event.living]

theorem flatMap {α : Type} {parts : List α} {events : α → List Event}
    (hparts : ∀ part, OneAtATime (events part)) : OneAtATime (parts.flatMap events) := by
  induction parts with
  | nil => exact of_quiet (by intro event hevent; cases hevent)
  | cons part parts ih =>
      rw [List.flatMap_cons]
      exact (hparts part).append ih

end OneAtATime

namespace Pass

variable {σ : Type} (world : World σ) (style : Style) (command : Command)

/-! ## One turn -/

theorem turnEvents_oneAtATime (path : Path) (child : Child) :
    OneAtATime (turnEvents style command path child) := by
  have hexamined : OneAtATime [.examined path] := by
    apply OneAtATime.of_quiet
    intro event hevent before
    rw [List.mem_singleton.mp hevent]
    rfl
  have hdiagnosis : OneAtATime (diagnosis style command.program child.ending) := by
    apply OneAtATime.of_quiet
    intro event hevent before
    unfold diagnosis at hevent
    cases hending : child.ending with
    | ended status =>
        rw [hending] at hevent
        cases hevent
    | refused fault =>
        rw [hending] at hevent
        rw [List.mem_singleton.mp hevent]
        rfl
  exact (hexamined.append (OneAtATime.of_child (command.on path) child)).append hdiagnosis

theorem requests_turnEvents (path : Path) (child : Child) :
    requests (turnEvents style command path child) =
      [.examined path, .started (command.on path), .ended (command.on path) child] := by
  unfold turnEvents diagnosis
  cases child.ending with
  | ended status => rfl
  | refused fault => rfl

/-! ## All turns -/

/-- The requests that follow the listing. -/
def visitRequests (paths : List Path) (state : σ) (n : Nat) : List Event :=
  (paths.zipIdx.take n).flatMap
      (fun (path, i) => [.examined path, .started (command.on path),
        .ended (command.on path) (childAt world command paths state i path)]) ++
    paths[n]?.toList.map .examined

theorem requests_visitEvents (paths : List Path) (state : σ) :
    requests (visitEvents world style command paths state) =
      visitRequests world command paths state (reached world command paths state) := by
  unfold visitEvents visitRequests requests
  rw [List.filter_append, List.filter_flatMap]
  congr 1
  · congr 1
    funext run
    exact requests_turnEvents style command run.1 _
  · cases paths[reached world command paths state]? with
    | none => rfl
    | some path => rfl

theorem visitEvents_oneAtATime (paths : List Path) (state : σ) :
    OneAtATime (visitEvents world style command paths state) := by
  apply OneAtATime.append
  · exact OneAtATime.flatMap fun run => turnEvents_oneAtATime style command run.1 _
  · apply OneAtATime.of_quiet
    intro event hevent before
    obtain ⟨path, -, rfl⟩ := List.mem_map.mp hevent
    rfl

theorem map_fst_take_zipIdx (paths : List Path) (n : Nat) :
    (paths.zipIdx.take n).map Prod.fst = paths.take n := by
  rw [List.map_take, List.zipIdx_map_fst]

theorem startedCalls_visitRequests (paths : List Path) (state : σ) (n : Nat) :
    startedCalls (visitRequests world command paths state n) =
      (paths.take n).map command.on := by
  unfold startedCalls visitRequests
  rw [List.filterMap_append, List.filterMap_flatMap, List.filterMap_map]
  have hnone : (paths[n]?.toList.filterMap (Event.startedCall? ∘ Event.examined)) = [] :=
    List.filterMap_eq_nil_iff.mpr fun _ _ => rfl
  rw [hnone, List.append_nil]
  rw [← map_fst_take_zipIdx, List.map_map, List.map_eq_flatMap]
  rfl

theorem examinedPaths_visitRequests (paths : List Path) (state : σ) (n : Nat) :
    examinedPaths (visitRequests world command paths state n) = paths.take (n + 1) := by
  unfold examinedPaths visitRequests
  rw [List.filterMap_append, List.filterMap_flatMap, List.filterMap_map]
  have hlast : paths[n]?.toList.filterMap (Event.examinedPath? ∘ Event.examined) =
      paths[n]?.toList := List.filterMap_some
  rw [hlast, List.take_add_one]
  congr 1
  rw [← map_fst_take_zipIdx, List.map_eq_flatMap]
  rfl

/-! ## The whole pass -/

section Listed

variable {command} {config : Config} {paths : List Path} {state : σ}
variable (hcommand : config.command = .ok command)
variable (hentries : world.entries state config.testsDir = .ok paths)
include hcommand hentries

theorem requests_run_of_listed :
    requests (run world style config state).events =
      .listed config.testsDir ::
        visitRequests world command paths state (reached world command paths state) := by
  rw [run_events_of_listed world style hcommand hentries, ← requests_visitEvents world style]
  rfl

theorem startedCalls_run_of_listed :
    startedCalls (run world style config state).events =
      (paths.take (reached world command paths state)).map command.on := by
  rw [startedCalls, ← filterMap_requests fun _ _ => rfl,
    requests_run_of_listed world style hcommand hentries]
  exact startedCalls_visitRequests world command paths state _

end Listed

variable {world style} {config : Config} {state : σ}

/--
What a pass asks of the world, in order: one listing, then for each listed path an examination and,
if it is a regular file at its turn, one child that is waited for before the next path is examined;
the first path that is not a regular file is the last thing asked for. So no two children live at
once, only listed paths are run and each at most once for every place it is listed at, nothing
behind the last examined path is touched, the state left is that of the children one after another,
and every child gets the words of the command and its path as one last word.
-/
theorem run_requests {outcome : Outcome}
    (hrun : (run world style config state).value = .ok outcome) :
    ∃ command paths n,
      config.command = .ok command ∧
      world.entries state config.testsDir = .ok paths ∧
      n ≤ paths.length ∧
      (∀ i < n, ∀ path, paths[i]? = some path → RegularAt world command paths state i path) ∧
      (∀ path, paths[n]? = some path → ¬ RegularAt world command paths state n path) ∧
      requests (run world style config state).events =
        .listed config.testsDir :: visitRequests world command paths state n ∧
      (run world style config state).state = (paths.take n).foldl (next world command) state ∧
      OneAtATime (run world style config state).events ∧
      startedCalls (run world style config state).events = (paths.take n).map command.on ∧
      ((startedCalls (run world style config state).events).map Invocation.file).Sublist paths ∧
      examinedPaths (run world style config state).events = paths.take (n + 1) ∧
      (startedCalls (run world style config state).events).map Invocation.words =
        (paths.take n).map fun path =>
          Utf8.encode command.program.toList ::
            command.args.map (fun word => Utf8.encode word.toList) ++ [path.octets] := by
  obtain ⟨command, paths, hcommand, hentries, -⟩ := listed_of_run_ok world style hrun
  let n := reached world command paths state
  have hrequests := requests_run_of_listed world style hcommand hentries
  have hstate : (run world style config state).state =
      (paths.take n).foldl (next world command) state := by
    rw [run_of_listed world style hcommand hentries, visit_eq]
    rfl
  have hone : OneAtATime (run world style config state).events := by
    rw [run_events_of_listed world style hcommand hentries]
    have hlisted : OneAtATime [.listed config.testsDir] :=
      OneAtATime.of_quiet (by intro event hevent _; rw [List.mem_singleton.mp hevent]; rfl)
    exact hlisted.append (visitEvents_oneAtATime world style command paths state)
  have hstarted := startedCalls_run_of_listed world style hcommand hentries
  have hexamined : examinedPaths (run world style config state).events = paths.take (n + 1) := by
    rw [examinedPaths, ← filterMap_requests fun _ _ => rfl, hrequests]
    exact examinedPaths_visitRequests world command paths state n
  refine ⟨command, paths, n, hcommand, hentries, reached_le_length world command paths state,
    fun _ hlt _ hpath => regularAt_of_lt_reached world command hlt hpath,
    fun _ hpath => not_regularAt_reached world command hpath,
    hrequests, hstate, hone, hstarted, ?_, hexamined, ?_⟩
  · have hfiles : ((paths.take n).map command.on).map Invocation.file = paths.take n := by
      rw [List.map_map]
      exact List.map_id _
    rw [hstarted, hfiles]
    exact List.take_sublist n paths
  · rw [hstarted, List.map_map]
    rfl

/-- The child of the first path takes the second away: both are examined, one is run. -/
theorem run_requests_shrinking :
    (run shrinking .plain .default [[0x61], [0x62]]).value =
      .ok (.aborted (.ofString "./tests/b")) ∧
    ∃ n, startedCalls (run shrinking .plain .default [[0x61], [0x62]]).events =
        ([Path.ofString "./tests/a", .ofString "./tests/b"].take n).map
          (Command.mk "cargo" ["run"]).on ∧
      examinedPaths (run shrinking .plain .default [[0x61], [0x62]]).events =
        [Path.ofString "./tests/a", .ofString "./tests/b"].take (n + 1) := by
  have hrun : (run shrinking .plain .default [[0x61], [0x62]]).value =
      .ok (.aborted (.ofString "./tests/b")) := rfl
  obtain ⟨command, paths, n, hcommand, hentries, -, -, -, -, -, -, hstarted, -, hexamined, -⟩ :=
    run_requests hrun
  obtain rfl : Command.mk "cargo" ["run"] = command := Except.ok.inj hcommand
  obtain rfl : [Path.ofString "./tests/a", .ofString "./tests/b"] = paths := Except.ok.inj hentries
  exact ⟨hrun, n, hstarted, hexamined⟩

end Pass

end TestHarness
