import Mathlib.Data.List.Forall2
import TestHarness.Proofs.Equality
import TestHarness.Proofs.Pass.Errors
import TestHarness.Proofs.Report

/-!
# How the directory is spelled

Settings that compare equal may spell the tests directory differently, and then every path of the
pass is spelled differently as well. Two such passes are set side by side in one world, which may
change under its children but treats paths that compare equal alike. At every turn both passes are
in the same state, look at paths that compare equal and hold tallies that compare equal; so their
outcomes compare equal, and their lines differ in nothing but the spelling of the path they name.
-/

namespace TestHarness

/-! ## Worlds in which spelling does not matter -/

/--
Paths that compare equal have the same names in them, in the same order, and are regular files or
not alike; children on them give the same result and leave the same state.
-/
structure World.SpellingBlind {σ : Type} (world : World σ) : Prop where
  names : ∀ state {p q : Path}, (p == q) = true → world.names state p = world.names state q
  kind : ∀ state {p q : Path}, (p == q) = true →
    (world.stat state p = .ok .regular ↔ world.stat state q = .ok .regular)
  result : ∀ state (command : Command) {p q : Path}, (p == q) = true →
    RunResult.ofEnding (world.spawn state (command.on p)).1.ending =
      .ofEnding (world.spawn state (command.on q)).1.ending
  effect : ∀ state (command : Command) {p q : Path}, (p == q) = true →
    (world.spawn state (command.on p)).2 = (world.spawn state (command.on q)).2

/-- Listings whose entries compare equal one by one. -/
def Path.SameListing (paths others : List Path) : Prop :=
  List.Forall₂ (fun p q => (p == q) = true) paths others

/-- Whether a call is answered without asking does not depend on how its file is spelled. -/
theorem Command.words_any_zero_eq (command : Command) {p q : Path} (hpq : (p == q) = true) :
    ((command.on p).words.any fun word => word.contains 0) =
      (command.on q).words.any fun word => word.contains 0 := by
  have hnul : p.octets.contains 0 = q.octets.contains 0 := Path.hasNul_eq hpq
  simp only [Invocation.words, Command.on, List.any_append, List.any_cons, List.any_nil, hnul]

namespace World.SpellingBlind

variable {σ : Type} {world : World σ} (hblind : world.SpellingBlind)
include hblind

/-- What keeps a directory from being listed does so under every spelling. -/
theorem unlisted (state : σ) {dir other : Path} (hdir : (dir == other) = true) {error : PassError}
    (hunlisted : world.Unlisted state dir error) :
    ∃ error', world.Unlisted state other error' ∧
      error.cause = error'.cause ∧ error.fault? = error'.fault? := by
  have hnuls := Path.hasNul_eq hdir
  have hanswer := hblind.names state hdir
  cases hunlisted with
  | nul hnul => exact ⟨_, .nul (hnuls.symm.trans hnul), rfl, rfl⟩
  | directory hnul hnames =>
      exact ⟨_, .directory (hnuls.symm.trans hnul) (hanswer.symm.trans hnames), rfl, rfl⟩
  | entry hnul hnames =>
      exact ⟨_, .entry (hnuls.symm.trans hnul) (hanswer.symm.trans hnames), rfl, rfl⟩

/-- Directories that compare equal fail alike, or have entries that compare equal. -/
theorem listing_cases (state : σ) {dir other : Path} (hdir : (dir == other) = true) :
    (∃ error error', world.entries state dir = .error error ∧
      world.entries state other = .error error' ∧
      error.cause = error'.cause ∧ error.fault? = error'.fault?) ∨
    ∃ paths others, world.entries state dir = .ok paths ∧ world.entries state other = .ok others ∧
      Path.SameListing paths others := by
  rcases world.entries_cases state dir with
    ⟨names, hnul, hnames, hlisted⟩ | ⟨error, hunlisted, hfailed⟩
  · have hother : world.entries state other = .ok (names.map other.entry) :=
      (world.entries_eq_ok_iff _ _ _).mpr ⟨(Path.hasNul_eq hdir).symm.trans hnul, names,
        (hblind.names state hdir).symm.trans hnames, rfl⟩
    refine .inr ⟨_, _, hlisted, hother, ?_⟩
    rw [Path.SameListing, List.forall₂_map_left_iff, List.forall₂_map_right_iff, List.forall₂_same]
    intro name _
    exact Path.entry_beq hdir name
  · obtain ⟨error', hother, hcause, hfault⟩ := hblind.unlisted state hdir hunlisted
    exact .inl ⟨error, error', hfailed, hother.entries_eq, hcause, hfault⟩

theorem isFile_eq (state : σ) {p q : Path} (hpq : (p == q) = true) :
    (world.classify state p).isFile = (world.classify state q).isFile := by
  rw [Bool.eq_iff_iff, classify_isFile_iff, classify_isFile_iff]
  unfold metadata
  rw [Path.hasNul_eq hpq]
  split
  · exact Iff.rfl
  · exact hblind.kind state hpq

theorem run_result_eq (state : σ) (command : Command) {p q : Path} (hpq : (p == q) = true) :
    RunResult.ofEnding (world.run state (command.on p)).1.ending =
      .ofEnding (world.run state (command.on q)).1.ending := by
  unfold run
  rw [command.words_any_zero_eq hpq]
  split
  · rfl
  · exact hblind.result state command hpq

theorem next_eq (state : σ) (command : Command) {p q : Path} (hpq : (p == q) = true) :
    Pass.next world command state p = Pass.next world command state q := by
  unfold Pass.next run
  rw [command.words_any_zero_eq hpq]
  split
  · rfl
  · exact hblind.effect state command hpq

end World.SpellingBlind

/-! ## Lines up to the path they name -/

/-- The command is spelled by the runner alone. -/
theorem Config.command_eq_of_beq {config other : Config} (hconfig : (config == other) = true) :
    config.command = other.command := by
  unfold command
  rw [((beq_iff config other).mp hconfig).2]

namespace Pass

variable {σ : Type} {world : World σ} (style otherStyle : Style) {config other : Config}

/-- A pass that is completed with failures has a last one to name. -/
theorem exists_lastFailing {state : σ} {tally : Tally}
    (hrun : (run world style config state).value = .ok (.completed tally))
    (hclean : tally.isClean = false) : ∃ last, tally.lastFailing = some last := by
  obtain ⟨command, paths, -, -, houtcome⟩ := listed_of_run_ok world style hrun
  unfold verdict at houtcome
  split at houtcome
  · cases houtcome
  · obtain rfl := Outcome.completed.inj houtcome
    obtain ⟨last, -, hlast, -⟩ := Tally.exists_reported config hclean
    exact ⟨last, hlast⟩

/-- Outcomes that compare equal are reported by the same template. -/
theorem report_template {state : σ} {outcome result : Outcome}
    (hrun : (run world style config state).value = .ok outcome)
    (hconfig : (config.testsDir == other.testsDir) = true) (hsame : (outcome == result) = true) :
    ∃ (template : Report.Template) (p q : Path), (p == q) = true ∧
      Report.outcome config outcome = template.line p ∧
      Report.outcome other result = template.line q := by
  cases outcome with
  | aborted path =>
      cases result with
      | completed tally => cases hsame
      | aborted path' => exact ⟨.unknownFile, path, path', hsame, rfl, rfl⟩
  | completed tally =>
      cases result with
      | aborted path => cases hsame
      | completed tally' =>
          obtain ⟨-, hcount, hlasts, -⟩ := (Tally.beq_iff tally tally').mp hsame
          have hcleans : tally'.isClean = tally.isClean := by
            unfold Tally.isClean
            rw [hcount]
          cases hclean : tally.isClean with
          | true =>
              exact ⟨.success, config.testsDir, other.testsDir, hconfig,
                Report.outcome_of_clean config hclean,
                Report.outcome_of_clean other (hcleans.trans hclean)⟩
          | false =>
              obtain ⟨last, hlast⟩ := exists_lastFailing style hrun hclean
              rw [hlast] at hlasts
              obtain ⟨last', hlast', hcomponents⟩ := Option.map_eq_some_iff.mp hlasts.symm
              refine ⟨.failure tally.failureCount, last, last',
                (Path.beq_iff _ _).mpr hcomponents.symm,
                Report.outcome_of_last config hclean hlast, ?_⟩
              rw [hcount]
              exact Report.outcome_of_last other (hcleans.trans hclean) hlast'

/-! ## Two passes in step -/

/--
Taking two listings that differ in spelling, from one state and from tallies that compare equal,
gives outcomes that compare equal.
-/
theorem visit_beq (hblind : world.SpellingBlind) (command : Command) {paths others : List Path}
    (hpaths : Path.SameListing paths others) {tally tally' : Tally}
    (htally : (tally == tally') = true) (state : σ) :
    ((visit world style command paths tally state).value ==
      (visit world otherStyle command others tally' state).value) = true := by
  -- the state is the same on both sides at every turn, and the tallies compare equal
  induction hpaths generalizing tally tally' state with
  | nil => exact htally
  | @cons p q later later' hpq _ ih =>
      rw [visit_cons, visit_cons, hblind.isFile_eq state hpq]
      split
      · dsimp only
        rw [hblind.next_eq state command hpq]
        apply ih
        apply Tally.record_beq htally hpq
        rw [hblind.run_result_eq state command hpq]
      · exact hpq

/--
Settings that compare equal, in a world that treats paths that compare equal alike, whatever its
children do to it. Both passes fail, for the same cause and with the same fault behind it, or both
have an outcome; the outcomes then compare equal, with the same exit code, and are reported by the
same template with the same count, filled with paths that compare equal.
-/
theorem run_spelling (hblind : world.SpellingBlind) (hconfig : (config == other) = true)
    (state : σ) :
    (∃ error error',
      (run world style config state).value = .error error ∧
      (run world otherStyle other state).value = .error error' ∧
      error.cause = error'.cause ∧ error.fault? = error'.fault?) ∨
    ∃ outcome outcome',
      (run world style config state).value = .ok outcome ∧
      (run world otherStyle other state).value = .ok outcome' ∧
      (outcome == outcome') = true ∧ outcome.exitCode = outcome'.exitCode ∧
      ∃ (template : Report.Template) (p q : Path), (p == q) = true ∧
        Report.outcome config outcome = template.line p ∧
        Report.outcome other outcome' = template.line q := by
  have hdir := ((Config.beq_iff config other).mp hconfig).1
  have hcommands := Config.command_eq_of_beq hconfig
  cases hcommand : config.command with
  | error error =>
      rw [hcommand] at hcommands
      rw [run_of_unparsed world style hcommand, run_of_unparsed world otherStyle hcommands.symm]
      exact .inl ⟨error, error, rfl, rfl, rfl, rfl⟩
  | ok command =>
      rw [hcommand] at hcommands
      rcases hblind.listing_cases state hdir with
        ⟨error, error', hentries, hothers, hsame⟩ | ⟨paths, others, hentries, hothers, hpaths⟩
      · rw [run_of_unlisted world style hcommand hentries,
          run_of_unlisted world otherStyle hcommands.symm hothers]
        exact .inl ⟨error, error', rfl, rfl, hsame⟩
      · have hrun := run_of_listed world style hcommand hentries
        have hother := run_of_listed world otherStyle hcommands.symm hothers
        have hsame := visit_beq style otherStyle hblind command hpaths
          (BEq.rfl : (Tally.empty == Tally.empty) = true) state
        exact .inr ⟨_, _, congrArg Run.value hrun, congrArg Run.value hother, hsame,
          Outcome.exitCode_eq_of_beq hsame,
          report_template style (congrArg Run.value hrun) hdir hsame⟩

theorem shrinking_spellingBlind : shrinking.SpellingBlind where
  names _ _ _ _ := rfl
  kind present p q hpq := by
    have hany : (present.any fun name => p == Config.default.testsDir.entry name) =
        present.any fun name => q == Config.default.testsDir.entry name := by
      congr 1
      funext name
      exact BEq.congr_left hpq
    simp only [shrinking, hany]
  result _ _ _ _ _ := rfl
  effect _ _ _ _ _ := rfl

/-- The default settings, with another spelling of the directory. -/
def roundabout : Config := ⟨.ofString ".//tests/.", Config.defaultRunner⟩

theorem answering_spellingBlind : answering.SpellingBlind where
  names _ _ _ _ := rfl
  kind _ _ _ _ := Iff.rfl
  result _ _ _ _ _ := rfl
  effect _ _ _ _ _ := rfl

/--
The child of the first entry takes the second away, however the directory is spelled; and a
directory that cannot be read to its end cannot be under another spelling either.
-/
theorem run_spelling_roundabout :
    (Config.default == roundabout) = true ∧ Config.default ≠ roundabout ∧
    ((run shrinking .plain .default [[0x61], [0x62]]).value =
        .ok (.aborted (.ofString "./tests/b")) ∧
      (run shrinking .yellow roundabout [[0x61], [0x62]]).value =
        .ok (.aborted (.ofString ".//tests/./b")) ∧
      (Outcome.aborted (.ofString "./tests/b") == .aborted (.ofString ".//tests/./b")) = true ∧
      ∃ (template : Report.Template) (p q : Path), (p == q) = true ∧
        Report.outcome .default (.aborted (.ofString "./tests/b")) = template.line p ∧
        Report.outcome roundabout (.aborted (.ofString ".//tests/./b")) = template.line q) ∧
    ∃ error error',
      (run answering .plain .default halfRead).value = .error error ∧
      (run answering .yellow roundabout halfRead).value = .error error' ∧
      error ≠ error' ∧ error.cause = error'.cause ∧ error.fault? = error'.fault? := by
  have hconfig : (Config.default == roundabout) = true := by decide
  refine ⟨hconfig, by decide, ?_, ?_⟩
  · have hrun : (run shrinking .plain .default [[0x61], [0x62]]).value =
        .ok (.aborted (.ofString "./tests/b")) := by rfl
    have hother : (run shrinking .yellow roundabout [[0x61], [0x62]]).value =
        .ok (.aborted (.ofString ".//tests/./b")) := by rfl
    refine ⟨hrun, hother, ?_⟩
    rcases run_spelling .plain .yellow shrinking_spellingBlind hconfig [[0x61], [0x62]] with
      ⟨_, _, herror, -⟩ | ⟨_, _, houtcome, houtcome', hsame, -, htemplate⟩
    · cases hrun.symm.trans herror
    · obtain rfl := Except.ok.inj (hrun.symm.trans houtcome)
      obtain rfl := Except.ok.inj (hother.symm.trans houtcome')
      exact ⟨hsame, htemplate⟩
  · have hrun : (run answering .plain .default halfRead).value =
        .error (.unreadEntry Config.default.testsDir _) := rfl
    have hother : (run answering .yellow roundabout halfRead).value =
        .error (.unreadEntry roundabout.testsDir _) := rfl
    rcases run_spelling .plain .yellow answering_spellingBlind hconfig halfRead with
      ⟨_, _, herror, herror', hsame⟩ | ⟨_, _, houtcome, -⟩
    · obtain rfl := Except.error.inj (hrun.symm.trans herror)
      obtain rfl := Except.error.inj (hother.symm.trans herror')
      exact ⟨_, _, hrun, hother, by decide, hsame⟩
    · cases hrun.symm.trans houtcome

end Pass

end TestHarness
