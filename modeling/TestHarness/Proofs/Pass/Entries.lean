import TestHarness.Proofs.Pass.Influence
import TestHarness.Proofs.Pass.Refusals
import TestHarness.Proofs.Pass.Spelling
import TestHarness.Proofs.Path.Entry

/-!
# Entries are not taken for one another

A directory names each of its entries once. The paths that a pass makes of the names then differ in
their last components, so no two of them compare equal, and neither do two of the failing paths,
which are some of the listed ones in the same order.
-/

namespace TestHarness.Pass

variable {σ : Type} {world : World σ} {style : Style} {config : Config} {state : σ}
variable {names : List Name}

theorem distinct_listing (hnames : world.names state config.testsDir = .ok (names.map .ok))
    (hentry : ∀ name ∈ names, Path.IsEntryName name) (hnodup : names.Nodup) {paths : List Path}
    (hentries : world.entries state config.testsDir = .ok paths) : Path.Distinct paths := by
  obtain ⟨-, listed, hlisted, rfl⟩ := (world.entries_eq_ok_iff _ _ _).mp hentries
  obtain rfl := world.names_unique hnames hlisted
  exact Path.distinct_entries hentry hnodup config.testsDir

/-- The failing paths of a completed pass are among the listed ones, in the same order. -/
theorem failing_sublist_listing {tally : Tally}
    (hrun : (run world style config state).value = .ok (.completed tally)) :
    ∃ paths, world.entries state config.testsDir = .ok paths ∧ tally.failing.Sublist paths := by
  obtain ⟨command, paths, -, hentries, houtcome⟩ := listed_of_run_ok world style hrun
  obtain ⟨-, -, -, -, hfailing⟩ := completed_cases world command houtcome.symm
  refine ⟨paths, hentries, ?_⟩
  rw [hfailing]
  exact failingPaths_sublist world command paths state

/--
The path of an entry is spelled by the directory as it is, one separator unless the directory is
empty or ends in one, and the name as it is; its components are those of the directory and the name
as one component more. So entries of any two directories, however these are spelled, compare equal
exactly if the directories do and the names are the same octets. A directory that names no entry
twice therefore has a listing in which no two paths compare equal, and no two of the failing paths
of a completed pass over it do.
-/
theorem entries_distinct :
    (∀ (dir : Path) (name : Name), Path.IsEntryName name →
      (dir.entry name).octets =
        dir.octets ++
          (if dir.octets = [] ∨ dir.octets.getLast? = some Path.separator then []
            else [Path.separator]) ++
          name ∧
      (dir.entry name).components = dir.components ++ [.name name]) ∧
    (∀ (dir other : Path) (name name' : Name), Path.IsEntryName name → Path.IsEntryName name' →
      ((dir.entry name == other.entry name') = true ↔ (dir == other) = true ∧ name = name')) ∧
    ∀ (σ : Type) (world : World σ) (style : Style) (config : Config) (state : σ)
      (names : List Name),
      world.names state config.testsDir = .ok (names.map .ok) →
      (∀ name ∈ names, Path.IsEntryName name) → names.Nodup →
      (∀ paths, world.entries state config.testsDir = .ok paths → Path.Distinct paths) ∧
      ∀ tally, (run world style config state).value = .ok (.completed tally) →
        Path.Distinct tally.failing := by
  refine ⟨?_, ?_, ?_⟩
  · intro dir name hname
    exact ⟨Path.octets_entry dir name, hname.components_eq dir⟩
  · intro dir other name name' hname hname'
    exact hname.entry_beq_iff hname' dir other
  · intro σ world style config state names hnames hentry hnodup
    have hdistinct {paths : List Path}
        (hentries : world.entries state config.testsDir = .ok paths) : Path.Distinct paths :=
      distinct_listing hnames hentry hnodup hentries
    refine ⟨fun paths => hdistinct, ?_⟩
    intro tally hrun
    obtain ⟨paths, hentries, hsublist⟩ := failing_sublist_listing hrun
    exact (hdistinct hentries).sublist hsublist

/-- Two of four children fail, in a directory with a roundabout spelling. -/
theorem entries_distinct_roundabout :
    let endings : List Ending := [.ended (.exited 1), .ended (.exited 0), .ended (.exited 2)]
    let failing : List Path := [.ofString ".//tests/./a", .ofString ".//tests/./c"]
    (∀ name ∈ [[0x61], [0x62], [0x63], [0x64]], Path.IsEntryName name) ∧
    (run scripted .plain roundabout endings).value =
      .ok (.completed ⟨4, 2, failing.getLast?, failing⟩) ∧
    Path.Distinct failing := by
  intro endings failing
  have hentry : ∀ name ∈ [[0x61], [0x62], [0x63], [0x64]], Path.IsEntryName name := by decide
  have hrun : (run scripted .plain roundabout endings).value =
      .ok (.completed ⟨4, 2, failing.getLast?, failing⟩) := by decide +kernel
  obtain ⟨-, -, hpass⟩ := entries_distinct
  exact ⟨hentry, hrun, (hpass _ scripted .plain roundabout endings _ rfl hentry (by decide)).2 _ hrun⟩

end TestHarness.Pass
