import TestHarness.Proofs.Listing
import TestHarness.Proofs.Pass.Diagnostics
import TestHarness.Proofs.Pass.Influence
import TestHarness.Proofs.Pass.Requests

/-!
# Worlds whose children end alike

Two worlds are set side by side whose states are related: related states show the same directories
and the same kinds of files, and a child that is run in both ends in the same way and leaves related
states behind. What the children write may differ. Passes in two such worlds go through related
states turn by turn, so they ask for the same things in the same order, meet the same refusals and
have the same value, whatever the style of their diagnostics.
-/

namespace TestHarness

/-- States that are related look the same, and children keep them related and end alike. -/
structure World.Alike {σ τ : Type} (first : World σ) (second : World τ)
    (related : σ → τ → Prop) : Prop where
  names : ∀ {state start}, related state start → ∀ dir,
    first.names state dir = second.names start dir
  stat : ∀ {state start}, related state start → ∀ path,
    first.stat state path = second.stat start path
  ending : ∀ {state start}, related state start → ∀ call,
    (first.spawn state call).1.ending = (second.spawn start call).1.ending
  after : ∀ {state start}, related state start → ∀ call,
    related (first.spawn state call).2 (second.spawn start call).2

/-- An event without what a child wrote. -/
def Event.muted : Event → Event
  | .ended call child => .ended call ⟨child.ending, [], []⟩
  | .listed dir => .listed dir
  | .examined path => .examined path
  | .started call => .started call
  | .wrote stream text => .wrote stream text

namespace World.Alike

/-- A world beside itself, from one state. -/
theorem refl {σ : Type} (world : World σ) : world.Alike world Eq where
  names hsame dir := by rw [hsame]
  stat hsame path := by rw [hsame]
  ending hsame call := by rw [hsame]
  after hsame call := by rw [hsame]

variable {σ τ : Type} {first : World σ} {second : World τ} {related : σ → τ → Prop}
variable (halike : first.Alike second related) {state : σ} {start : τ}
variable (hrelated : related state start)
include halike hrelated

/-! ## One request -/

theorem entries_eq (dir : Path) : first.entries state dir = second.entries start dir :=
  second.entries_congr (halike.names hrelated dir)

theorem metadata_eq (path : Path) : first.metadata state path = second.metadata start path := by
  unfold metadata
  rw [halike.stat hrelated path]

theorem run_ending_eq (call : Invocation) :
    (first.run state call).1.ending = (second.run start call).1.ending := by
  unfold run
  split
  · rfl
  · exact halike.ending hrelated call

theorem run_after (call : Invocation) :
    related (first.run state call).2 (second.run start call).2 := by
  unfold run
  split
  · exact hrelated
  · exact halike.after hrelated call

/-! ## All turns -/

/-- Children run one after another on the same files keep the states related. -/
theorem foldl_next (command : Command) (ran : List Path) :
    related (ran.foldl (Pass.next first command) state)
      (ran.foldl (Pass.next second command) start) := by
  induction ran generalizing state start with
  | nil => exact hrelated
  | cons path ran ih => exact ih (halike.run_after hrelated (command.on path))

theorem turn (command : Command) (paths : List Path) (i : Nat) :
    related (Pass.turn first command paths state i) (Pass.turn second command paths start i) :=
  halike.foldl_next hrelated command (paths.take i)

theorem childAt_ending_eq (command : Command) (paths : List Path) (i : Nat) (path : Path) :
    (Pass.childAt first command paths state i path).ending =
      (Pass.childAt second command paths start i path).ending :=
  halike.run_ending_eq (halike.turn hrelated command paths i) (command.on path)

theorem regularAt_iff (command : Command) (paths : List Path) (i : Nat) (path : Path) :
    Pass.RegularAt first command paths state i path ↔
      Pass.RegularAt second command paths start i path := by
  unfold Pass.RegularAt
  rw [halike.metadata_eq (halike.turn hrelated command paths i) path]

theorem sameKinds (command : Command) (paths : List Path) :
    Pass.SameKinds first second command paths state start :=
  fun i path _ _ _ => halike.regularAt_iff hrelated command paths i path

theorem sameFailures (command : Command) (paths : List Path) :
    Pass.SameFailures first second command paths state start := by
  intro i path _ _ _
  unfold Pass.resultAt
  rw [halike.childAt_ending_eq hrelated command paths i path]

/-- Both passes stop at the same path. -/
theorem reached_eq (command : Command) (paths : List Path) :
    Pass.reached first command paths state = Pass.reached second command paths start :=
  (halike.sameKinds hrelated command paths).reached_eq

theorem verdict_eq (command : Command) (paths : List Path) :
    Pass.verdict first command paths .empty state =
      Pass.verdict second command paths .empty start :=
  (halike.sameFailures hrelated command paths).verdict_eq (halike.sameKinds hrelated command paths)

/-- The same is asked for, in the same order, and children end alike. -/
theorem visitRequests_muted_eq (command : Command) (paths : List Path) (n : Nat) :
    (Pass.visitRequests first command paths state n).map Event.muted =
      (Pass.visitRequests second command paths start n).map Event.muted := by
  unfold Pass.visitRequests
  rw [List.map_append, List.map_append, List.map_flatMap, List.map_flatMap]
  congr 2
  funext run
  simp only [List.map_cons, List.map_nil, Event.muted,
    halike.childAt_ending_eq hrelated command paths run.2 run.1]

theorem refusedRuns_eq (command : Command) (paths : List Path) (n : Nat) :
    Pass.refusedRuns first command paths state n =
      Pass.refusedRuns second command paths start n := by
  unfold Pass.refusedRuns
  congr 1
  funext run
  dsimp only
  rw [halike.childAt_ending_eq hrelated command paths run.2 run.1]

end World.Alike

end TestHarness
