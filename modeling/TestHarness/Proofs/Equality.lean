import TestHarness.Config
import TestHarness.Proofs.Path
import TestHarness.Tally

/-!
# Values that compare equal

`==` on settings, entries, tallies and outcomes compares paths by their components and everything
else as it is. A value compares equal to itself; tallies that compare equal still do after a run of
paths that compare equal, if both runs failed or neither did.
-/

namespace TestHarness

theorem Config.beq_iff (c d : Config) :
    (c == d) = true ↔ (c.testsDir == d.testsDir) = true ∧ c.runner = d.runner := by
  refine Bool.and_eq_true_iff.trans ?_
  rw [beq_iff_eq (a := c.runner)]

theorem Entry.beq_iff (a b : Entry) :
    (a == b) = true ↔ (a.path == b.path) = true ∧ a.isFile = b.isFile := by
  refine Bool.and_eq_true_iff.trans ?_
  rw [beq_iff_eq (a := a.isFile)]

theorem Tally.beq_iff (t u : Tally) :
    (t == u) = true ↔ t.processed = u.processed ∧ t.failureCount = u.failureCount ∧
      t.lastFailing.map Path.components = u.lastFailing.map Path.components ∧
      t.failing.map Path.components = u.failing.map Path.components := by
  refine Bool.and_eq_true_iff.trans ?_
  rw [Bool.and_eq_true_iff, Bool.and_eq_true_iff, beq_iff_eq, beq_iff_eq, Path.option_beq_iff,
    Path.list_beq_iff, and_assoc, and_assoc]

instance : ReflBEq Config where
  rfl := (Config.beq_iff _ _).mpr ⟨BEq.rfl, rfl⟩

instance : ReflBEq Entry where
  rfl := (Entry.beq_iff _ _).mpr ⟨BEq.rfl, rfl⟩

instance : ReflBEq Tally where
  rfl := (Tally.beq_iff _ _).mpr ⟨rfl, rfl, rfl, rfl⟩

instance : ReflBEq Outcome where
  rfl {outcome} := by
    cases outcome with
    | completed tally => exact (BEq.rfl : (tally == tally) = true)
    | aborted path => exact (BEq.rfl : (path == path) = true)

theorem Outcome.exitCode_eq_of_beq {o other : Outcome} (hsame : (o == other) = true) :
    o.exitCode = other.exitCode := by
  cases o with
  | completed t =>
      cases other with
      | completed u => rfl
      | aborted q => cases hsame
  | aborted p =>
      cases other with
      | completed u => cases hsame
      | aborted q => rfl

/-- Recording runs that fail alike, of paths that compare equal, keeps tallies comparing equal. -/
theorem Tally.record_beq {t u : Tally} {p q : Path} {result other : RunResult}
    (htally : (t == u) = true) (hpath : (p == q) = true)
    (hresult : result.isFailure = other.isFailure) :
    (t.record p result == u.record q other) = true := by
  rw [Tally.beq_iff] at htally ⊢
  rw [Path.beq_iff] at hpath
  obtain ⟨hprocessed, hcount, hlast, hfailing⟩ := htally
  unfold record
  rw [← hresult]
  cases result.isFailure with
  | true =>
      refine ⟨congrArg (· + 1) hprocessed, congrArg (· + 1) hcount, congrArg some hpath, ?_⟩
      simp only [if_true, List.map_append, List.map_cons, List.map_nil, hfailing, hpath]
  | false => exact ⟨congrArg (· + 1) hprocessed, hcount, hlast, hfailing⟩

end TestHarness
