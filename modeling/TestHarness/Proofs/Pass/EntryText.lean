import TestHarness.Proofs.Pass.LineBreaks
import TestHarness.Proofs.Pass.Spelling
import TestHarness.Proofs.Path.Entry
import TestHarness.Proofs.Text.Subparts

/-!
# The text of an entry

Octets that are put one after another need not be shown as they are shown apart: a sequence that one
part leaves open may be completed by the next, or the two be broken as one. In the path of an entry
this cannot happen. Between the directory and the name there is always a separator, put in or
already there, unless the directory is empty; it is ASCII, so it ends whatever the directory leaves
open, and the division starts afresh with the name.
-/

namespace TestHarness

namespace Path

/-! ## The division at the separator -/

/--
What the path of an entry has between the directory and the name: a separator, unless the directory
is empty or ends in one.
-/
def joint (dir : Path) : String :=
  if dir.octets = [] ∨ dir.octets.getLast? = some separator then "" else "/"

theorem separator_ascii : separator.toNat < 0x80 := by decide

/-- The directory is empty, or ends in a separator, or gets one. -/
theorem entry_cases (dir : Path) (name : Name) :
    (dir.octets = [] ∧ dir.joint = "" ∧ (dir.entry name).octets = name) ∨
    (∃ before, dir.octets = before ++ [separator] ∧ dir.joint = "" ∧
      (dir.entry name).octets = before ++ separator :: name) ∨
    (dir.joint = "/" ∧ (dir.entry name).octets = dir.octets ++ separator :: name) := by
  rw [octets_entry]
  unfold joint
  by_cases hnone : dir.octets = [] ∨ dir.octets.getLast? = some separator
  · rw [if_pos hnone, if_pos hnone, List.append_nil]
    rcases hnone with hempty | hlast
    · refine .inl ⟨hempty, rfl, ?_⟩
      rw [hempty, List.nil_append]
    · obtain ⟨before, hbefore⟩ := List.getLast?_eq_some_iff.mp hlast
      refine .inr (.inl ⟨before, hbefore, rfl, ?_⟩)
      rw [hbefore, List.append_assoc, List.singleton_append]
  · rw [if_neg hnone, if_neg hnone, List.append_assoc, List.singleton_append]
    exact .inr (.inr ⟨rfl, rfl⟩)

/-- No piece of the path of an entry has octets of the directory and of the name in it. -/
theorem pieces_entry (dir : Path) (name : Name) :
    Utf8.pieces (dir.entry name).octets =
      Utf8.pieces dir.octets ++ dir.joint.toList.map .char ++ Utf8.pieces name := by
  rcases entry_cases dir name with
    ⟨hempty, hjoint, hentry⟩ | ⟨before, hdir, hjoint, hentry⟩ | ⟨hjoint, hentry⟩
  · rw [hentry, hempty, hjoint]
    rfl
  · -- the separator that is there already is the last piece of the directory
    have hpieces : Utf8.pieces dir.octets =
        Utf8.pieces before ++ [.char (Utf8.charOf separator)] := by
      rw [hdir, Utf8.pieces_ascii separator_ascii]
      rfl
    rw [hentry, hjoint, hpieces, Utf8.pieces_ascii separator_ascii]
    simp
  · rw [hentry, hjoint, Utf8.pieces_ascii separator_ascii, List.append_assoc]
    rfl

/-- The division of the path of an entry is made of those of the directory and of the name. -/
theorem divided_entry (dir : Path) (name : Name) :
    ∃ found, (∀ other, Utf8.Divided (dir.entry name).octets other ↔ other = found) ∧
      (dir.entry name).display = String.ofList (found.map Utf8.Piece.shown) ∧
      ∃ inDir inName, Utf8.Divided dir.octets inDir ∧ Utf8.Divided name inName ∧
        found = inDir ++ dir.joint.toList.map .char ++ inName :=
  ⟨Utf8.pieces (dir.entry name).octets, Utf8.divided_iff _, rfl, _, _,
    Utf8.divided_pieces dir.octets, Utf8.divided_pieces name, pieces_entry dir name⟩

theorem display_entry (dir : Path) (name : Name) :
    (dir.entry name).display = dir.display ++ dir.joint ++ display ⟨name⟩ := by
  have hjoint : (dir.joint.toList.map Utf8.Piece.char).map Utf8.Piece.shown = dir.joint.toList := by
    rw [List.map_map]
    exact List.map_id _
  simp only [display, Utf8.lossy, pieces_entry, List.map_append, hjoint, String.ofList_append,
    String.ofList_toList]

/-- The name would complete what the directory leaves open; the separator keeps them apart. -/
example :
    display ⟨[0x74, 0xE2] ++ [0x82, 0xAC]⟩ = "t€" ∧
    (entry ⟨[0x74, 0xE2]⟩ [0x82, 0xAC]).display = "t\uFFFD/\uFFFD\uFFFD" := by
  decide

end Path

theorem Report.Template.line_entry (template : Template) (dir : Path) (name : Name) :
    template.line (dir.entry name) =
      template.opening ++ (dir.display ++ dir.joint ++ Path.display ⟨name⟩) ++ "`" := by
  rw [line_eq, Path.display_entry]

namespace Pass

/-! ## The entry that a line names -/

/-- A line other than the one on success shows the path of a name in the tests directory. -/
theorem exists_name_of_shows {σ : Type} {world : World σ} {style : Style} {config : Config}
    {state : σ} {outcome : Outcome} {template : Report.Template} {path : Path}
    (hrun : (run world style config state).value = .ok outcome)
    (hshows : Report.Shows config outcome template path) (htemplate : template ≠ .success) :
    ∃ (names : List Name) (name : Name),
      world.names state config.testsDir = .ok (names.map .ok) ∧ name ∈ names ∧
      path = config.testsDir.entry name := by
  obtain ⟨command, paths, -, hentries, rfl⟩ := listed_of_run_ok world style hrun
  rcases success_or_listed_of_verdict world hshows with ⟨hsuccess, -⟩ | hlisted
  · exact absurd hsuccess htemplate
  · exact name_of_entries world hentries hlisted

/--
How the path of an entry is shown, for any octets of the directory and of the name: as the directory
is, a separator unless the directory is empty or ends in one, and as the name is. The division into
characters and broken runs is that of the directory, the separator, and that of the name, so no
character and no replacement character stands for octets of both. What the lines on an unknown file
and on failures name is therefore the tests directory as the line on success shows it, the
separator, and the name of the entry as it is shown by itself.
-/
theorem run_display_entry :
    (∀ (dir : Path) (name : Name),
      (dir.entry name).display = dir.display ++ dir.joint ++ Path.display ⟨name⟩ ∧
      ∃ found, (∀ other, Utf8.Divided (dir.entry name).octets other ↔ other = found) ∧
        (dir.entry name).display = String.ofList (found.map Utf8.Piece.shown) ∧
        ∃ inDir inName, Utf8.Divided dir.octets inDir ∧ Utf8.Divided name inName ∧
          found = inDir ++ dir.joint.toList.map .char ++ inName) ∧
    ∀ (σ : Type) (world : World σ) (style : Style) (config : Config) (state : σ),
      Report.success config.testsDir =
        "[TESTS]: successfully ran all tests in `" ++ config.testsDir.display ++ "`" ∧
      (∀ path, (run world style config state).value = .ok (.aborted path) →
        ∃ (names : List Name) (name : Name),
          world.names state config.testsDir = .ok (names.map .ok) ∧ name ∈ names ∧
          path = config.testsDir.entry name ∧
          Report.outcome config (.aborted path) =
            "[TESTS]: unknown file `" ++
              (config.testsDir.display ++ config.testsDir.joint ++ Path.display ⟨name⟩) ++ "`") ∧
      ∀ tally, (run world style config state).value = .ok (.completed tally) →
        tally.isClean = false →
        ∃ (names : List Name) (name : Name),
          world.names state config.testsDir = .ok (names.map .ok) ∧ name ∈ names ∧
          tally.lastFailing = some (config.testsDir.entry name) ∧
          Report.outcome config (.completed tally) =
            "[TESTS]: failed with `" ++ toString tally.failureCount ++ "` error(s) in `" ++
              (config.testsDir.display ++ config.testsDir.joint ++ Path.display ⟨name⟩) ++ "`" := by
  refine ⟨?_, ?_⟩
  · intro dir name
    exact ⟨Path.display_entry dir name, Path.divided_entry dir name⟩
  · intro σ world style config state
    refine ⟨rfl, ?_, ?_⟩
    · intro path hrun
      have hshows : Report.Shows config (.aborted path) .unknownFile path := .aborted path
      obtain ⟨names, name, hnames, hname, rfl⟩ := exists_name_of_shows hrun hshows nofun
      refine ⟨names, name, hnames, hname, rfl, ?_⟩
      rw [hshows.outcome_eq, Report.Template.line_entry]
      rfl
    · intro tally hrun hclean
      obtain ⟨last, hlast⟩ := exists_lastFailing style hrun hclean
      have hshows : Report.Shows config (.completed tally) (.failure tally.failureCount) last :=
        .failing hclean hlast
      obtain ⟨names, name, hnames, hname, rfl⟩ := exists_name_of_shows hrun hshows nofun
      refine ⟨names, name, hnames, hname, hlast, ?_⟩
      rw [hshows.outcome_eq, Report.Template.line_entry]
      rfl

/-- A directory with one entry of the kind that the state says; its child fails. -/
def tornName : World FileKind where
  names _ _ := .ok [.ok [0x82, 0xAC]]
  stat kind _ := .ok kind
  spawn kind _ := (⟨.ended (.exited 1), [], []⟩, kind)

/--
The directory ends in the first octet of a character of which the name is the rest, in one pass with
a separator behind it and in the other without.
-/
theorem run_display_entry_torn :
    let bare : Config := ⟨⟨[0x74, 0xE2]⟩, Config.defaultRunner⟩
    let trailing : Config := ⟨⟨[0x74, 0xE2, 0x2F]⟩, Config.defaultRunner⟩
    let path : Path := ⟨[0x74, 0xE2, 0x2F, 0x82, 0xAC]⟩
    (run tornName .plain bare .directory).value = .ok (.aborted path) ∧
    Report.outcome bare (.aborted path) = "[TESTS]: unknown file `t\uFFFD/\uFFFD\uFFFD`" ∧
    (run tornName .plain trailing .regular).value = .ok (.completed ⟨1, 1, some path, [path]⟩) ∧
    Report.outcome trailing (.completed ⟨1, 1, some path, [path]⟩) =
      "[TESTS]: failed with `1` error(s) in `t\uFFFD/\uFFFD\uFFFD`" := by
  intro bare trailing path
  have haborted : (run tornName .plain bare .directory).value = .ok (.aborted path) := by
    decide +kernel
  have hfailed : (run tornName .plain trailing .regular).value =
      .ok (.completed ⟨1, 1, some path, [path]⟩) := by
    decide +kernel
  obtain ⟨-, hpass⟩ := run_display_entry
  obtain ⟨-, hunknown, -⟩ := hpass _ tornName .plain bare .directory
  obtain ⟨-, -, hfailure⟩ := hpass _ tornName .plain trailing .regular
  obtain ⟨names, name, hnames, hname, -, hline⟩ := hunknown path haborted
  obtain ⟨names', name', hnames', hname', -, hline'⟩ := hfailure _ hfailed rfl
  obtain rfl : [[0x82, 0xAC]] = names := tornName.names_unique rfl hnames
  obtain rfl : [[0x82, 0xAC]] = names' := tornName.names_unique rfl hnames'
  obtain rfl := List.mem_singleton.mp hname
  obtain rfl := List.mem_singleton.mp hname'
  exact ⟨haborted, hline.trans (by decide), hfailed, hline'.trans (by decide)⟩

end Pass

end TestHarness
