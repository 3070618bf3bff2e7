import TestHarness.CommandLine
import TestHarness.Proofs.Listing
import TestHarness.Proofs.Pass.Outcome
import TestHarness.Proofs.Report.Reading
import TestHarness.Proofs.Text.Ascii

/-!
# Line breaks in the line

What ends a pass is meant as one line, and the templates have no line break in them. But the path is
put in as it is spelled, and an octet 0x0A in it is a line break in the text: it is the only octet
that can bring one in, and it always does. So the text is a single line exactly if there is no such
octet in the path that it shows, that is in the tests directory or in the name of the entry.
-/

namespace TestHarness

/-- The text ends with a line break and holds no other. -/
def OneLine (text : String) : Prop :=
  ∃ line : List Char, text.toList = line ++ ['\n'] ∧ '\n' ∉ line

theorem oneLine_append_iff (text : String) : OneLine (text ++ "\n") ↔ '\n' ∉ text.toList := by
  have hlist : (text ++ "\n").toList = text.toList ++ ['\n'] := String.toList_append
  constructor
  · rintro ⟨line, hline, hbreak⟩
    rw [hlist] at hline
    rwa [List.append_cancel_right hline]
  · intro hbreak
    exact ⟨text.toList, hlist, hbreak⟩

namespace Report

/-! ## Line breaks in a template -/

theorem Template.newline_not_mem_opening (template : Template) :
    '\n' ∉ template.opening.toList := by
  cases template with
  | unknownFile => decide
  | success => decide
  | failure count =>
      change '\n' ∉ ("[TESTS]: failed with `" ++ toString count ++ "` error(s) in `").toList
      have hcount : '\n' ∉ (toString count).toList := by
        intro hmem
        rw [Nat.toString_eq_ofList_toDigits, String.toList_ofList] at hmem
        have hdigit := Nat.isDigit_of_mem_toDigits (by decide) (by decide) hmem
        exact absurd hdigit (by decide)
      rw [String.toList_append, String.toList_append, List.mem_append, List.mem_append]
      rintro ((hbefore | hmem) | hafter)
      · exact absurd hbefore (by decide)
      · exact hcount hmem
      · exact absurd hafter (by decide)

/-- The line breaks of a line are those of the path in it. -/
theorem Template.count_newline_line (template : Template) (path : Path) :
    (template.line path).toList.count '\n' = path.octets.count 0x0A := by
  have hopening := List.count_eq_zero.mpr template.newline_not_mem_opening
  have hascii : (0x0A : UInt8).toNat < 0x80 := by decide
  have hpath : path.display.toList.count '\n' = path.octets.count 0x0A := by
    rw [Path.display, String.toList_ofList]
    exact Utf8.count_lossy hascii path.octets
  rw [line_eq, String.toList_append, String.toList_append, List.count_append, List.count_append,
    hopening, hpath]
  exact Nat.zero_add _

theorem Template.newline_mem_line_iff (template : Template) (path : Path) :
    '\n' ∈ (template.line path).toList ↔ 0x0A ∈ path.octets := by
  rw [← List.count_pos_iff, template.count_newline_line, List.count_pos_iff]

end Report

namespace Pass

variable {σ : Type} (world : World σ) (style : Style)
variable {config : Config} {state : σ} {outcome : Outcome}

/-! ## The path that a pass shows -/

theorem recorded_verdict (command : Command) (paths : List Path) (state : σ) :
    (verdict world command paths .empty state).Recorded := by
  intro tally htally
  unfold verdict at htally
  split at htally
  · cases htally
  · exact ⟨_, (Option.some.inj htally).symm⟩

/-- A pass shows the tests directory on success, and otherwise one of the paths it listed. -/
theorem success_or_listed_of_verdict {command : Command} {paths : List Path}
    {template : Report.Template} {path : Path}
    (hshows : Report.Shows config (verdict world command paths .empty state) template path) :
    template = .success ∧ path = config.testsDir ∨ path ∈ paths := by
  cases hpath : paths[reached world command paths state]? with
  | some unknown =>
      rw [verdict_of_firstUnknown world (firstUnknown_reached world command hpath)] at hshows
      cases hshows
      exact .inr (List.mem_of_getElem? hpath)
  | none =>
      rw [verdict_of_allRegular world (allRegular_of_reached world command hpath)] at hshows
      cases hshows with
      | clean => exact .inl ⟨rfl, rfl⟩
      | failing _ hlast =>
          have hmem := List.mem_of_getLast? hlast
          exact .inr ((failingPaths_sublist world command paths state).subset hmem)

theorem shown_of_verdict {command : Command} {paths : List Path} {template : Report.Template}
    {path : Path}
    (hshows : Report.Shows config (verdict world command paths .empty state) template path) :
    path = config.testsDir ∨ path ∈ paths :=
  (success_or_listed_of_verdict world hshows).imp And.right id

theorem name_of_entries {dir path : Path} {paths : List Path}
    (hentries : world.entries state dir = .ok paths) (hpath : path ∈ paths) :
    ∃ (names : List Name) (name : Name), world.names state dir = .ok (names.map .ok) ∧
      name ∈ names ∧ path = dir.entry name := by
  obtain ⟨-, names, hnames, rfl⟩ := (world.entries_eq_ok_iff _ _ _).mp hentries
  obtain ⟨name, hname, rfl⟩ := List.mem_map.mp hpath
  exact ⟨names, name, hnames, hname, rfl⟩

/--
The text that ends a pass has one of the three templates and a line break after it. It shows the
tests directory or the path of one of its entries, and has one line break more than there are octets
0x0A in that path; so it is exactly one line if and only if there is none in it.
-/
theorem run_line_breaks (hrun : (run world style config state).value = .ok outcome) :
    ∃ template path, Report.Shows config outcome template path ∧
      (path = config.testsDir ∨ ∃ (names : List Name) (name : Name),
        world.names state config.testsDir = .ok (names.map .ok) ∧
        name ∈ names ∧ path = config.testsDir.entry name) ∧
      Report.outcome config outcome = template.line path ∧
      (Report.outcome config outcome ++ "\n").toList.count '\n' = path.octets.count 0x0A + 1 ∧
      (OneLine (Report.outcome config outcome ++ "\n") ↔ 0x0A ∉ path.octets) := by
  obtain ⟨command, paths, -, hentries, rfl⟩ := listed_of_run_ok world style hrun
  obtain ⟨template, path, hshows⟩ :=
    Report.exists_shows config (recorded_verdict world command paths state)
  refine ⟨template, path, hshows, ?_, hshows.outcome_eq, ?_, ?_⟩
  · refine (shown_of_verdict world hshows).imp id fun hpath => ?_
    exact name_of_entries world hentries hpath
  · rw [hshows.outcome_eq, String.toList_append, List.count_append, template.count_newline_line]
    rfl
  · rw [oneLine_append_iff, hshows.outcome_eq, template.newline_mem_line_iff]

/-- With names that have no line break in them there is one line. -/
theorem run_line_breaks_shrinking :
    (run shrinking .plain .default [[0x61], [0x62]]).value =
      .ok (.aborted (.ofString "./tests/b")) ∧
    OneLine (Report.outcome .default (.aborted (.ofString "./tests/b")) ++ "\n") := by
  have hrun : (run shrinking .plain .default [[0x61], [0x62]]).value =
      .ok (.aborted (.ofString "./tests/b")) := by rfl
  obtain ⟨template, path, hshows, -, -, -, hline⟩ := run_line_breaks shrinking .plain hrun
  obtain ⟨-⟩ := hshows
  exact ⟨hrun, hline.mpr (by decide)⟩

/-- A directory with one entry, itself a directory, whose name has a line break in it. -/
def splitName : World Unit where
  names _ _ := .ok [.ok [0x61, 0x0A, 0x62]]
  stat _ _ := .ok .directory
  spawn state _ := (⟨.ended (.exited 0), [], []⟩, state)

/-- The program writes two lines where the name of the entry has a line break in it. -/
theorem run_writes_two_lines :
    (run splitName .plain .default ()).value = .ok (.aborted (.ofString "./tests/a\nb")) ∧
    (CommandLine.run splitName .plain [] ()).events =
      [.listed (.ofString "./tests"), .examined (.ofString "./tests/a\nb"),
        .wrote .out "[TESTS]: unknown file `./tests/a\nb`\n"] ∧
    Report.outcome .default (.aborted (.ofString "./tests/a\nb")) ++ "\n" =
      "[TESTS]: unknown file `./tests/a\nb`\n" ∧
    ¬ OneLine "[TESTS]: unknown file `./tests/a\nb`\n" := by
  refine ⟨rfl, rfl, rfl, ?_⟩
  have hline : ¬ OneLine ("[TESTS]: unknown file `./tests/a\nb`" ++ "\n") := by
    rw [oneLine_append_iff]
    decide
  exact hline

end Pass

end TestHarness
