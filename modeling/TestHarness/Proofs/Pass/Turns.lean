import TestHarness.Pass
import TestHarness.Proofs.Tally

/-!
# The turns of a pass

A pass takes the listed paths in order, and every child may change what the later ones meet. `turn`
is the state at the turn of a path, once the children of all the paths before it have run. A path
counts as a regular file only as it stands at its turn; `reached` is the number of paths before the
first that does not.

`visit_eq` says everything about taking the paths in terms of these: the outcome, the events and the
state that is left.
-/

namespace TestHarness

/-- The fault that kept a child from being started. -/
def Ending.fault? : Ending → Option Fault
  | .ended _ => none
  | .refused fault => some fault

namespace Pass

variable {σ : Type} (world : World σ) (style : Style) (command : Command)

/-! ## States, children and results at each turn -/

/-- The state that the child of a path leaves. -/
def next (state : σ) (path : Path) : σ := (world.run state (command.on path)).2

/-- The state at the turn with index `i`: the children of the first `i` paths have run. -/
def turn (paths : List Path) (state : σ) (i : Nat) : σ :=
  (paths.take i).foldl (next world command) state

/-- The child of a path that is run at the turn with index `i`. -/
def childAt (paths : List Path) (state : σ) (i : Nat) (path : Path) : Child :=
  (world.run (turn world command paths state i) (command.on path)).1

def resultAt (paths : List Path) (state : σ) (i : Nat) (path : Path) : RunResult :=
  .ofEnding (childAt world command paths state i path).ending

/-- At the turn with index `i` the path can be looked up and leads to a regular file. -/
def RegularAt (paths : List Path) (state : σ) (i : Nat) (path : Path) : Prop :=
  world.metadata (turn world command paths state i) path = .ok .regular

/-- Every listed path is a regular file at its turn. -/
def AllRegular (paths : List Path) (state : σ) : Prop :=
  ∀ i path, paths[i]? = some path → RegularAt world command paths state i path

/-- The listed path with index `k` is the first that is not a regular file at its turn. -/
structure FirstUnknown (paths : List Path) (state : σ) (k : Nat) (path : Path) : Prop where
  listed : paths[k]? = some path
  unknown : ¬ RegularAt world command paths state k path
  earlier : ∀ i < k, ∀ before, paths[i]? = some before →
    RegularAt world command paths state i before

/-- The listed paths whose children, each at its turn, give a code other than zero. -/
def failingPaths (paths : List Path) (state : σ) : List Path :=
  (paths.zipIdx.filter fun (path, i) =>
    (resultAt world command paths state i path).exitCode != 0).map Prod.fst

/-- The paths with their children, as if all of them were run one after another. -/
def children : List Path → σ → List (Path × Child)
  | [], _ => []
  | path :: later, state =>
      (path, (world.run state (command.on path)).1) ::
        children later (next world command state path)

/-- How many paths are run before one is met that is not a regular file. -/
def reached : List Path → σ → Nat
  | [], _ => 0
  | path :: later, state =>
      if (world.classify state path).isFile then
        reached later (next world command state path) + 1
      else 0

@[simp]
theorem turn_zero (paths : List Path) (state : σ) : turn world command paths state 0 = state := rfl

@[simp]
theorem turn_cons_succ (path : Path) (later : List Path) (state : σ) (i : Nat) :
    turn world command (path :: later) state (i + 1) =
      turn world command later (next world command state path) i := rfl

/-- The children one after another are the children at the turns. -/
theorem children_eq_zipIdx (paths : List Path) (state : σ) :
    children world command paths state =
      paths.zipIdx.map fun (path, i) => (path, childAt world command paths state i path) := by
  induction paths generalizing state with
  | nil => rfl
  | cons path later ih =>
      rw [children, ih, List.zipIdx_cons, List.zipIdx_succ]
      simp only [List.map_cons, List.map_map]
      rfl

@[simp]
theorem length_children (paths : List Path) (state : σ) :
    (children world command paths state).length = paths.length := by
  rw [children_eq_zipIdx, List.length_map, List.length_zipIdx]

/-- The paths that fail at their turns are the failures among the children. -/
theorem failures_children (paths : List Path) (state : σ) :
    Tally.failures ((children world command paths state).map fun run =>
        (run.1, .ofEnding run.2.ending)) =
      failingPaths world command paths state := by
  rw [children_eq_zipIdx]
  unfold Tally.failures failingPaths
  rw [List.map_map, List.filter_map, List.map_map]
  rfl

theorem failingPaths_sublist (paths : List Path) (state : σ) :
    (failingPaths world command paths state).Sublist paths := by
  have hlisted : paths.zipIdx.map Prod.fst = paths := List.zipIdx_map_fst 0 paths
  have hfailing := List.Sublist.map Prod.fst (List.filter_sublist (l := paths.zipIdx)
    (p := fun run => (resultAt world command paths state run.2 run.1).exitCode != 0))
  rwa [hlisted] at hfailing

/-! ## Where a pass stops -/

theorem reached_le_length (paths : List Path) (state : σ) :
    reached world command paths state ≤ paths.length := by
  induction paths generalizing state with
  | nil => exact Nat.le_refl _
  | cons path later ih =>
      unfold reached
      split
      · exact Nat.succ_le_succ (ih _)
      · exact Nat.zero_le _

theorem regularAt_of_lt_reached {paths : List Path} {state : σ} {i : Nat} {path : Path}
    (hlt : i < reached world command paths state) (hpath : paths[i]? = some path) :
    RegularAt world command paths state i path := by
  induction paths generalizing state i with
  | nil => cases hlt
  | cons first later ih =>
      unfold reached at hlt
      split at hlt
      · next hfile =>
          cases i with
          | zero =>
              cases hpath
              exact (world.classify_isFile_iff state path).mp hfile
          | succ i => exact ih (Nat.lt_of_succ_lt_succ hlt) hpath
      · cases hlt

theorem not_regularAt_reached {paths : List Path} {state : σ} {path : Path}
    (hpath : paths[reached world command paths state]? = some path) :
    ¬ RegularAt world command paths state (reached world command paths state) path := by
  induction paths generalizing state with
  | nil => cases hpath
  | cons first later ih =>
      unfold reached at hpath ⊢
      by_cases hfile : (world.classify state first).isFile = true
      · rw [if_pos hfile] at hpath ⊢
        exact ih hpath
      · rw [if_neg hfile] at hpath ⊢
        cases hpath
        intro hregular
        exact hfile ((world.classify_isFile_iff state path).mpr hregular)

/-- A path met at the end of the reach is the first that is not a regular file. -/
theorem firstUnknown_reached {paths : List Path} {state : σ} {path : Path}
    (hpath : paths[reached world command paths state]? = some path) :
    FirstUnknown world command paths state (reached world command paths state) path :=
  ⟨hpath, not_regularAt_reached world command hpath,
    fun _ hlt _ hbefore => regularAt_of_lt_reached world command hlt hbefore⟩

/-- The reach is the only index of a first path that is not a regular file. -/
theorem FirstUnknown.reached_eq {world : World σ} {command : Command} {paths : List Path}
    {state : σ} {k : Nat} {path : Path} (hfirst : FirstUnknown world command paths state k path) :
    reached world command paths state = k := by
  rcases Nat.lt_trichotomy (reached world command paths state) k with hlt | heq | hgt
  · have hbound : k < paths.length := (List.getElem?_eq_some_iff.mp hfirst.listed).1
    have hpath := List.getElem?_eq_getElem (Nat.lt_trans hlt hbound)
    exact absurd (hfirst.earlier _ hlt _ hpath) (not_regularAt_reached world command hpath)
  · exact heq
  · exact absurd (regularAt_of_lt_reached world command hgt hfirst.listed) hfirst.unknown

/-- Every path is run exactly if all are regular files at their turns. -/
theorem reached_eq_length_iff (paths : List Path) (state : σ) :
    reached world command paths state = paths.length ↔ AllRegular world command paths state := by
  constructor
  · intro heq i path hpath
    have hbound : i < paths.length := (List.getElem?_eq_some_iff.mp hpath).1
    exact regularAt_of_lt_reached world command (by rw [heq]; exact hbound) hpath
  · intro hall
    rcases Nat.eq_or_lt_of_le (reached_le_length world command paths state) with heq | hshort
    · exact heq
    · have hpath := List.getElem?_eq_getElem hshort
      exact absurd (hall _ _ hpath) (not_regularAt_reached world command hpath)

/-- A pass that finds nothing to stop at has met regular files only. -/
theorem allRegular_of_reached {paths : List Path} {state : σ}
    (hnone : paths[reached world command paths state]? = none) :
    AllRegular world command paths state := by
  apply (reached_eq_length_iff world command paths state).mp
  exact Nat.le_antisymm (reached_le_length world command paths state)
    (List.getElem?_eq_none_iff.mp hnone)

/-! ## Taking the paths -/

/-- The line on a program that could not be started, as an event. -/
def diagnosis (program : String) (ending : Ending) : List Event :=
  ending.fault?.toList.map fun fault => .wrote .err (refusal style program fault)

/-- Everything that happens at the turn of a regular file. -/
def turnEvents (path : Path) (child : Child) : List Event :=
  [.examined path, .started (command.on path), .ended (command.on path) child] ++
    diagnosis style command.program child.ending

/-- How taking the paths ends, from the results of those that were run. -/
def verdict (paths : List Path) (tally : Tally) (state : σ) : Outcome :=
  match paths[reached world command paths state]? with
  | some path => .aborted path
  | none => .completed (tally.recordAll ((children world command paths state).map fun run =>
      (run.1, .ofEnding run.2.ending)))

theorem runFile_apply (call : Invocation) (state : σ) :
    runFile world style call state =
      ⟨.ofEnding (world.run state call).1.ending,
        [.started call, .ended call (world.run state call).1] ++
          diagnosis style call.program (world.run state call).1.ending,
        (world.run state call).2⟩ := by
  simp only [runFile, Task.bind_apply, World.perform_apply, Task.pure_apply, List.append_nil]
  cases (world.run state call).1.ending with
  | ended status => rfl
  | refused fault => rfl

/-- One turn: a regular file is run and the later paths follow, anything else is the end. -/
theorem visit_cons (path : Path) (later : List Path) (tally : Tally) (state : σ) :
    visit world style command (path :: later) tally state =
      if (world.classify state path).isFile then
        let child := (world.run state (command.on path)).1
        let rest := visit world style command later (tally.record path (.ofEnding child.ending))
          (next world command state path)
        ⟨rest.value, turnEvents style command path child ++ rest.events, rest.state⟩
      else ⟨.aborted path, [.examined path], state⟩ := by
  rw [visit, Task.bind_apply, World.examine_apply]
  dsimp only
  rw [Task.ite_apply]
  split
  · rw [Task.bind_apply, runFile_apply]
    simp only [turnEvents, List.cons_append, List.nil_append]
    rfl
  · rfl

/-- Taking the paths, in full: the outcome, the events turn by turn and the state that is left. -/
theorem visit_eq (paths : List Path) (tally : Tally) (state : σ) :
    visit world style command paths tally state =
      let n := reached world command paths state
      ⟨verdict world command paths tally state,
        ((children world command paths state).take n).flatMap
            (fun run => turnEvents style command run.1 run.2) ++
          paths[n]?.toList.map .examined,
        turn world command paths state n⟩ := by
  induction paths generalizing tally state with
  | nil => rfl
  | cons path later ih =>
      by_cases hfile : (world.classify state path).isFile = true
      · have hreached : reached world command (path :: later) state =
            reached world command later (next world command state path) + 1 := by
          rw [reached, if_pos hfile]
        rw [visit_cons, if_pos hfile]
        simp only [ih, verdict, hreached, children, List.take_succ_cons, List.flatMap_cons,
          List.getElem?_cons_succ, turn_cons_succ, List.append_assoc, List.map_cons]
        rfl
      · have hreached : reached world command (path :: later) state = 0 := by
          rw [reached, if_neg hfile]
        rw [visit_cons, if_neg hfile]
        simp only [verdict, hreached, List.getElem?_cons_zero, List.take_zero, turn_zero]
        rfl

/-- Everything that happens after the listing. -/
def visitEvents (paths : List Path) (state : σ) : List Event :=
  (paths.zipIdx.take (reached world command paths state)).flatMap
      (fun (path, i) => turnEvents style command path (childAt world command paths state i path)) ++
    paths[reached world command paths state]?.toList.map .examined

theorem visit_events (paths : List Path) (tally : Tally) (state : σ) :
    (visit world style command paths tally state).events =
      visitEvents world style command paths state := by
  rw [visit_eq, children_eq_zipIdx]
  unfold visitEvents
  dsimp only
  rw [← List.map_take, List.flatMap_map]

/-! ## The whole pass -/

variable {command} {config : Config} {paths : List Path} {state : σ}

theorem run_of_listed (hcommand : config.command = .ok command)
    (hentries : world.entries state config.testsDir = .ok paths) :
    run world style config state =
      ⟨.ok (visit world style command paths .empty state).value,
        .listed config.testsDir :: (visit world style command paths .empty state).events,
        (visit world style command paths .empty state).state⟩ := by
  unfold run
  rw [hcommand]
  dsimp only
  rw [Task.bind_apply, World.list_apply]
  dsimp only
  rw [hentries]
  dsimp only
  rw [Task.bind_apply]
  simp only [Task.pure_apply, List.append_nil, List.singleton_append]

theorem run_value_of_listed (hcommand : config.command = .ok command)
    (hentries : world.entries state config.testsDir = .ok paths) :
    (run world style config state).value = .ok (verdict world command paths .empty state) := by
  rw [run_of_listed world style hcommand hentries, visit_eq]

theorem run_events_of_listed (hcommand : config.command = .ok command)
    (hentries : world.entries state config.testsDir = .ok paths) :
    (run world style config state).events =
      .listed config.testsDir :: visitEvents world style command paths state := by
  rw [run_of_listed world style hcommand hentries, visit_events]

theorem run_of_unlisted {error : PassError} (hcommand : config.command = .ok command)
    (hentries : world.entries state config.testsDir = .error error) :
    run world style config state = ⟨.error error, [.listed config.testsDir], state⟩ := by
  unfold run
  rw [hcommand]
  dsimp only
  rw [Task.bind_apply, World.list_apply]
  dsimp only
  rw [hentries]
  rfl

theorem run_of_unparsed {error : PassError} (hcommand : config.command = .error error) :
    run world style config state = ⟨.error error, [], state⟩ := by
  unfold run
  rw [hcommand]
  rfl

/-- A pass has an outcome only when its template spells a command and its directory is listed. -/
theorem listed_of_run_ok {outcome : Outcome}
    (hrun : (run world style config state).value = .ok outcome) :
    ∃ command paths, config.command = .ok command ∧
      world.entries state config.testsDir = .ok paths ∧
      outcome = verdict world command paths .empty state := by
  cases hcommand : config.command with
  | error error =>
      rw [run_of_unparsed world style hcommand] at hrun
      cases hrun
  | ok command =>
      cases hentries : world.entries state config.testsDir with
      | error error =>
          rw [run_of_unlisted world style hcommand hentries] at hrun
          cases hrun
      | ok paths =>
          rw [run_value_of_listed world style hcommand hentries] at hrun
          exact ⟨command, paths, rfl, rfl, (Except.ok.inj hrun).symm⟩

/--
A directory in which every child fails and takes the last entry away: what is listed need not be
there at its turn.
-/
def shrinking : World (List Name) where
  names present _ := .ok (present.map .ok)
  stat present path :=
    if present.any fun name => path == Config.default.testsDir.entry name then .ok .regular
    else .error (.ofNumber 2 "No such file or directory")
  spawn present _ := (⟨.ended (.exited 1), [], []⟩, present.dropLast)

end Pass

end TestHarness
