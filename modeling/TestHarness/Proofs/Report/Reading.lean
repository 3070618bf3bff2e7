import TestHarness.Proofs.Inspect
import TestHarness.Proofs.Report

/-!
# Reading a line back

A line is a fixed opening, in one case with a number in it, then a path as it is shown, and a
backquote. The path is not escaped and may hold anything, also the text of another line; but it
stands last, and what comes before it can be read from the front whatever follows. So a line tells
its template, its count and the text of its path, and nothing else of the outcome.
-/

namespace TestHarness

/-- The tally of the outcome, if there is one, was filled run by run. -/
def Outcome.Recorded (outcome : Outcome) : Prop :=
  ∀ tally, outcome.tally? = some tally → ∃ runs, tally = Tally.empty.recordAll runs

namespace Report

/-! ## What a line shows -/

/-- Which template is used for an outcome, and which path is put into it. -/
inductive Shows (config : Config) : Outcome → Template → Path → Prop where
  | aborted (path : Path) : Shows config (.aborted path) .unknownFile path
  | clean {tally : Tally} :
      tally.isClean = true → Shows config (.completed tally) .success config.testsDir
  | failing {tally : Tally} {last : Path} :
      tally.isClean = false → tally.lastFailing = some last →
        Shows config (.completed tally) (.failure tally.failureCount) last

theorem Shows.outcome_eq {config : Config} {result : Outcome} {template : Template} {path : Path}
    (hshows : Shows config result template path) :
    outcome config result = template.line path := by
  cases hshows with
  | aborted => rfl
  | clean hclean => exact outcome_of_clean config hclean
  | failing hclean hlast => exact outcome_of_last config hclean hlast

theorem exists_shows (config : Config) {result : Outcome} (hrecorded : result.Recorded) :
    ∃ template path, Shows config result template path := by
  cases result with
  | aborted path => exact ⟨_, _, .aborted path⟩
  | completed tally =>
      obtain ⟨runs, rfl⟩ := hrecorded tally rfl
      cases hclean : (Tally.empty.recordAll runs).isClean with
      | true => exact ⟨_, _, .clean hclean⟩
      | false =>
          obtain ⟨last, -, hlast, -⟩ := Tally.exists_reported config hclean
          exact ⟨_, _, .failing hclean hlast⟩

/-! ## Reading the opening of a line -/

/-- The text before the path. -/
def Template.opening : Template → String
  | unknownFile => "[TESTS]: unknown file `"
  | success => "[TESTS]: successfully ran all tests in `"
  | failure count => "[TESTS]: failed with `" ++ toString count ++ "` error(s) in `"

theorem Template.line_eq (template : Template) (path : Path) :
    template.line path = template.opening ++ path.display ++ "`" := by
  cases template with
  | _ => rfl

open Inspect (Reader Takes Refuses takes_expect takes_closing takes_number refuses_expect)

/-- Reads the template off the front of a line; what is left is the path and a backquote. -/
def Template.reader : Reader Template :=
  (do Reader.expect "[TESTS]: unknown file `"; return unknownFile) <|>
  (do Reader.expect "[TESTS]: successfully ran all tests in `"; return success) <|>
  (do
    Reader.expect "[TESTS]: failed with `"
    return failure (← Reader.number "` error(s) in `"))

theorem Template.takes_opening (template : Template) :
    Takes Template.reader template.opening.toList template := by
  cases template with
  | unknownFile => exact (takes_closing "[TESTS]: unknown file `" unknownFile).left
  | success =>
      refine .right ((refuses_expect ?_).bind _)
        (takes_closing "[TESTS]: successfully ran all tests in `" success).left
      decide
  | failure count =>
      change Takes Template.reader
        ("[TESTS]: failed with `" ++ toString count ++ "` error(s) in `").toList (failure count)
      rw [String.toList_append, String.toList_append, List.append_assoc]
      -- the first two templates differ from the third before the number
      refine .right (((refuses_expect ?_).append _).bind _)
        (.right (((refuses_expect ?_).append _).bind _) ?_)
      · decide
      · decide
      · exact (takes_expect _).bind ((takes_number count rfl rfl).map failure)

theorem Template.reader_line (template : Template) (path : Path) :
    Template.reader.run (template.line path).toList =
      some (template, path.display.toList ++ "`".toList) := by
  rw [line_eq, String.toList_append, String.toList_append, List.append_assoc]
  exact template.takes_opening _

/-- Two lines are the same text exactly if they show the same path in the same template. -/
theorem Template.line_eq_line_iff (template other : Template) (p q : Path) :
    template.line p = other.line q ↔ template = other ∧ p.display = q.display := by
  constructor
  · intro hline
    have hread := template.reader_line p
    rw [hline, other.reader_line] at hread
    obtain ⟨htemplate, hrest⟩ := Prod.mk.inj (Option.some.inj hread)
    exact ⟨htemplate.symm, (String.toList_injective (List.append_cancel_right hrest)).symm⟩
  · rintro ⟨rfl, hdisplay⟩
    rw [line_eq, line_eq, hdisplay]

/-! ## Outcomes with the same line -/

/-- Everything that a line tells of an outcome is the same in both. -/
inductive SameReport : Outcome → Outcome → Prop where
  | aborted {p q : Path} : p.display = q.display → SameReport (.aborted p) (.aborted q)
  | clean {tally other : Tally} :
      tally.isClean = true → other.isClean = true →
        SameReport (.completed tally) (.completed other)
  | failing {tally other : Tally} {p q : Path} :
      tally.isClean = false → other.isClean = false →
      tally.failureCount = other.failureCount →
      tally.lastFailing = some p → other.lastFailing = some q → p.display = q.display →
        SameReport (.completed tally) (.completed other)

theorem SameReport.exists_shows {result other : Outcome} (hsame : SameReport result other)
    (config : Config) :
    ∃ template p q, Shows config result template p ∧ Shows config other template q ∧
      p.display = q.display := by
  cases hsame with
  | aborted hdisplay => exact ⟨_, _, _, .aborted _, .aborted _, hdisplay⟩
  | clean hclean hclean' => exact ⟨_, _, _, .clean hclean, .clean hclean', rfl⟩
  | failing hclean hclean' hcount hlast hlast' hdisplay =>
      refine ⟨_, _, _, .failing hclean hlast, ?_, hdisplay⟩
      rw [hcount]
      exact .failing hclean' hlast'

/-- With the same template and the same text for the path there is nothing left to differ in. -/
theorem Shows.sameReport {config : Config} {result other : Outcome} {template : Template}
    {p q : Path} (hshows : Shows config result template p) (hother : Shows config other template q)
    (hdisplay : p.display = q.display) : SameReport result other := by
  cases hshows with
  | aborted =>
      cases hother
      exact .aborted hdisplay
  | clean hclean =>
      cases hother with
      | clean hclean' => exact .clean hclean hclean'
  | @failing tally last hclean hlast =>
      generalize htemplate : Template.failure tally.failureCount = template at hother
      cases hother with
      | aborted | clean => cases htemplate
      | failing hclean' hlast' =>
          exact .failing hclean hclean' (Template.failure.inj htemplate) hlast hlast' hdisplay

/--
Two outcomes have the same line exactly if both are aborted at paths with the same text, or both are
clean, or neither is and they agree in the number of failures and in the text of the last failing
path. No path can make the line of one kind look like that of another, or change a count.
-/
theorem outcome_eq_iff (config : Config) {result other : Outcome} (hresult : result.Recorded)
    (hother : other.Recorded) :
    outcome config result = outcome config other ↔ SameReport result other := by
  constructor
  · intro hline
    obtain ⟨template, p, hp⟩ := exists_shows config hresult
    obtain ⟨template', q, hq⟩ := exists_shows config hother
    rw [hp.outcome_eq, hq.outcome_eq, Template.line_eq_line_iff] at hline
    obtain ⟨rfl, hdisplay⟩ := hline
    exact hp.sameReport hq hdisplay
  · intro hsame
    obtain ⟨template, p, q, hp, hq, hdisplay⟩ := hsame.exists_shows config
    rw [hp.outcome_eq, hq.outcome_eq, Template.line_eq_line_iff]
    exact ⟨rfl, hdisplay⟩

/--
An aborted pass whose path holds the whole text of another line, and two failed ones whose paths are
spelled differently and shown alike.
-/
theorem outcome_eq_iff_hostile :
    let aborted : Outcome := .aborted (.ofString "a`\n[TESTS]: failed with `1` error(s) in `a")
    let failed (octets : List UInt8) : Outcome :=
      .completed (Tally.empty.recordAll [(⟨octets⟩, ⟨1⟩)])
    aborted.Recorded ∧ (∀ octets, (failed octets).Recorded) ∧
    outcome .default aborted ≠ outcome .default (failed [0x61]) ∧
    outcome .default (failed [0xFF]) = outcome .default (failed [0xFE]) ∧
    failed [0xFF] ≠ failed [0xFE] := by
  intro aborted failed
  have haborted : aborted.Recorded := nofun
  have hfailed (octets : List UInt8) : (failed octets).Recorded := by
    rintro tally ⟨⟩
    exact ⟨_, rfl⟩
  refine ⟨haborted, hfailed, ?_, ?_, by decide⟩
  · intro hsame
    have hreport : SameReport (.aborted _) (.completed _) :=
      (outcome_eq_iff .default haborted (hfailed [0x61])).mp hsame
    cases hreport
  · refine (outcome_eq_iff .default (hfailed [0xFF]) (hfailed [0xFE])).mpr ?_
    exact .failing rfl rfl rfl rfl rfl (by decide)

end Report

end TestHarness
