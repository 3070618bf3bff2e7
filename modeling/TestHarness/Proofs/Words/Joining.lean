import TestHarness.Proofs.Words.Grammar

/-!
# Templates one below the other

A complete template may end between two words, in a comment or in a word. A line break after it ends
the comment or the word, so that in the grammar it becomes a text after which a word could begin,
`Template.lead_newline`. The splitter never looks at the words it has finished, `read_behind`; so it
reads what stands below as if nothing stood above, and puts the words of both together.
-/

namespace TestHarness.Words

/-! ## Words that are finished -/

namespace State

variable {α : Type}

/-- The state with other words finished before its own. -/
def behind (before : List (List α)) (s : State α) : State α :=
  { s with done := before ++ s.done }

theorem finishWord_behind (before : List (List α)) (s : State α) :
    (s.behind before).finishWord = s.finishWord.behind before := by
  simp only [finishWord, behind, List.append_assoc]

theorem bare_behind (before : List (List α)) (s : State α) (mark : Mark) (symbol : α) :
    (s.behind before).bare mark symbol = (s.bare mark symbol).behind before := by
  cases mark with
  | blank | newline => exact finishWord_behind before s
  | single | double | backslash | hash | special | plain => rfl

theorem inDoubleEscape_behind (before : List (List α)) (s : State α) (slash : α) (mark : Mark)
    (symbol : α) :
    (s.behind before).inDoubleEscape slash mark symbol =
      (s.inDoubleEscape slash mark symbol).behind before := by
  cases mark with
  | _ => rfl

/-- One more symbol is read alike whichever words are finished. -/
theorem step_behind (slash : α) (mark : α → Mark) (before : List (List α)) (s : State α)
    (symbol : α) :
    (s.behind before).step slash mark symbol = (s.step slash mark symbol).behind before := by
  obtain ⟨done, current, mode⟩ := s
  unfold step
  cases mode with
  | word => exact bare_behind before _ (mark symbol) symbol
  | doubleEscape => exact inDoubleEscape_behind before _ slash (mark symbol) symbol
  | between | comment | escape | single | double =>
      cases mark symbol with
      | _ => rfl

theorem finish?_behind (before : List (List α)) (s : State α) :
    (s.behind before).finish? = s.finish?.map (before ++ ·) := by
  obtain ⟨done, current, mode⟩ := s
  cases mode with
  | word => exact congrArg some (List.append_assoc before done [current])
  | between | comment | escape | single | double | doubleEscape => rfl

end State

theorem read_behind (before : List (List Char)) (s : State Char) (text : List Char) :
    read (s.behind before) text = (read s text).behind before := by
  induction text generalizing s with
  | nil => rfl
  | cons c text ih =>
      have hstep : advance (s.behind before) c = (advance s c).behind before :=
        State.step_behind '\x5c' markOf before s c
      rw [read_cons, read_cons, hstep, ih]

/-- What follows a text after which a word could begin is split as if it stood alone. -/
theorem Lead.split?_append {lead : List Char} {words : List (List Char)} (hlead : Lead lead words)
    (text : List Char) : split? (lead ++ text) = (split? text).map (words ++ ·) := by
  have hread : read State.start lead = State.start.behind words := by
    rw [hlead.read_eq, State.behind, State.start, List.append_nil]
  rw [split?_eq, split?_eq, read_append, hread, read_behind, State.finish?_behind]

/-! ## A line break between two templates -/

/-- A line break ends whatever a complete template ends in. -/
theorem Template.lead_newline {text : List Char} {words : List (List Char)}
    (htemplate : Template text words) : Lead (text ++ ['\n']) words := by
  have hnewline : Blank '\n' := .inr (.inr rfl)
  cases htemplate with
  | lead hlead => exact hlead.blank hnewline
  | comment hlead hbody => exact hlead.comment hbody
  | word hlead hword => exact hlead.word hword hnewline

theorem split?_newline {first : List Char} {words : List (List Char)}
    (hfirst : split? first = some words) (second : List Char) :
    split? (first ++ '\n' :: second) = (split? second).map (words ++ ·) := by
  have hlead := ((split?_eq_some_iff first words).mp hfirst).lead_newline
  rw [← hlead.split?_append second, List.append_assoc, List.singleton_append]

end TestHarness.Words

namespace TestHarness

open Words

theorem toList_joined (first second : String) :
    (first ++ "\n" ++ second).toList = first.toList ++ '\n' :: second.toList := by
  rw [String.toList_append, String.toList_append, List.append_assoc]
  rfl

/--
Two templates with a line break between them, of which the first spells a command. Below it the
words of a second command become further arguments, a template without words adds nothing, and one
that cannot be parsed makes the whole unparsable, with the whole in the message. It does not matter
what the first ends in.
-/
theorem command_joined {dir : Path} {first : String} {program : String} {args : List String}
    (hfirst : (Config.mk dir first).command = .ok ⟨program, args⟩) (second : String) :
    (∀ name words, (Config.mk dir second).command = .ok ⟨name, words⟩ →
      (Config.mk dir (first ++ "\n" ++ second)).command =
        .ok ⟨program, args ++ [name] ++ words⟩) ∧
    ((Config.mk dir second).command = .error .noProgram →
      (Config.mk dir (first ++ "\n" ++ second)).command = .ok ⟨program, args⟩) ∧
    ((Config.mk dir second).command = .error (.unparsable second) →
      (Config.mk dir (first ++ "\n" ++ second)).command =
        .error (.unparsable (first ++ "\n" ++ second)) ∧
      (PassError.unparsable (first ++ "\n" ++ second)).message =
        "Failed to parse runner command: " ++ (first ++ "\n" ++ second)) := by
  rw [command_eq_ok_iff] at hfirst
  have hsplit : split? (Config.mk dir (first ++ "\n" ++ second)).runner.toList =
      (split? second.toList).map (program.toList :: args.map String.toList ++ ·) := by
    rw [toList_joined]
    exact split?_newline hfirst second.toList
  refine ⟨?_, ?_, ?_⟩
  · intro name words hsecond
    rw [command_eq_ok_iff] at hsecond
    rw [command_eq_ok_iff, hsplit, hsecond, Option.map_some]
    simp only [List.map_append, List.map_cons, List.cons_append, List.append_assoc,
      List.nil_append]
  · intro hsecond
    rw [command_eq_noProgram_iff] at hsecond
    rw [command_eq_ok_iff, hsplit, hsecond, Option.map_some, List.append_nil]
  · intro hsecond
    rw [command_eq_unparsable_iff] at hsecond
    refine ⟨(command_eq_unparsable_iff _).mpr ?_, rfl⟩
    rw [hsplit, hsecond, Option.map_none]

/--
The first template ends in a comment that holds a quote. Below it stand a word in quotes and another
one, nothing but a comment, and quotes that are not closed.
-/
theorem command_joined_comment :
    (Config.mk (.ofString "t") "a 'b c' # it's").command = .ok ⟨"a", ["b c"]⟩ ∧
    (Config.mk (.ofString "t") "a 'b c' # it's\n'd e' f").command =
      .ok ⟨"a", ["b c", "d e", "f"]⟩ ∧
    (Config.mk (.ofString "t") "a 'b c' # it's\n # g").command = .ok ⟨"a", ["b c"]⟩ ∧
    (Config.mk (.ofString "t") "a 'b c' # it's\n'd").command =
      .error (.unparsable "a 'b c' # it's\n'd") := by
  have hfirst : (Config.mk (.ofString "t") "a 'b c' # it's").command = .ok ⟨"a", ["b c"]⟩ := rfl
  refine ⟨hfirst, ?_, ?_, ?_⟩
  · exact (command_joined hfirst "'d e' f").1 "d e" ["f"] rfl
  · exact (command_joined hfirst " # g").2.1 rfl
  · exact ((command_joined hfirst "'d").2.2 rfl).1

end TestHarness
