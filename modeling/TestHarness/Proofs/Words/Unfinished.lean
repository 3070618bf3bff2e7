import TestHarness.Proofs.Words.Joining

/-!
# Templates that end too early

A template is turned down only when it ends inside a word: in quotes that are not closed, or right
after a backslash. `Unfinished text words` says this in terms of the grammar and gives the complete
words before the one that is cut off; `split?_eq_none_iff` ties it to the splitter.

What is cut off can be closed. The start of a piece and the text that closes it are a piece of the
grammar again, so the closed template is derived by the rules and need not be read a second time.
Whatever else may follow, the number of words begun never goes down, and the complete words stay the
first ones.
-/

namespace TestHarness.Words

/-! ## Texts that end inside a word -/

/-- The start of a piece, cut off by the end of the text, and a text that closes it. -/
inductive Open : List Char → String → Prop where
  | slash : Open ['\x5c'] "\x27"
  | single {body : List Char} : '\x27' ∉ body → Open ('\x27' :: body) "\x27"
  | double {body text : List Char} : Quoted body text → Open ('\x22' :: body) "\x22"
  | slashInDouble {body text : List Char} :
      Quoted body text → Open ('\x22' :: body ++ ['\x5c']) "\x22\x22"

/-- A text that ends inside a word, and the complete words before that one. -/
inductive Unfinished : List Char → List (List Char) → Prop where
  | mk {lead text value rest : List Char} {words : List (List Char)} {closing : String} :
      Lead lead words → Begun text value → Open rest closing →
        Unfinished (lead ++ text ++ rest) words

theorem Open.closing_mem {rest : List Char} {closing : String} (hopen : Open rest closing) :
    closing ∈ ["\x27", "\x22", "\x22\x22"] := by
  cases hopen with
  | slash | single => exact .head _
  | double => exact .tail _ (.head _)
  | slashInDouble => exact .tail _ (.tail _ (.head _))

/-- What opens a piece is neither a blank nor a `#`. -/
theorem Open.exists_cons {rest : List Char} {closing : String} (hopen : Open rest closing) :
    ∃ c later, rest = c :: later ∧ ¬ Blank c ∧ c ≠ '#' := by
  have hslash : ¬ Blank '\x5c' ∧ '\x5c' ≠ '#' := by unfold Blank; decide
  have hsingle : ¬ Blank '\x27' ∧ '\x27' ≠ '#' := by unfold Blank; decide
  have hdouble : ¬ Blank '\x22' ∧ '\x22' ≠ '#' := by unfold Blank; decide
  cases hopen with
  | slash => exact ⟨_, _, rfl, hslash⟩
  | single => exact ⟨_, _, rfl, hsingle⟩
  | double => exact ⟨_, _, rfl, hdouble⟩
  | slashInDouble => exact ⟨_, _, rfl, hdouble⟩

/-! ## Closing what is open -/

/-- The start of a piece and the text that closes it are a piece. -/
theorem Open.piece {rest : List Char} {closing : String} (hopen : Open rest closing) :
    ∃ part, Piece (rest ++ closing.toList) part := by
  cases hopen with
  | slash => exact ⟨_, .escaped (by decide)⟩
  | single hbody => exact ⟨_, .single hbody⟩
  | double hquoted => exact ⟨_, .double hquoted⟩
  | @slashInDouble body text hquoted =>
      -- the backslash takes the first of the two quotes, and the second closes
      have hescapable : Escapable '\x22' := .inr (.inr (.inl rfl))
      have hpiece := Piece.double (hquoted.escaped hescapable)
      refine ⟨text ++ ['\x22'], ?_⟩
      simpa [List.append_assoc] using hpiece

/-- One of three endings completes the word, and with it the template. -/
theorem Unfinished.exists_template {text : List Char} {words : List (List Char)}
    (hunfinished : Unfinished text words) :
    ∃ closing ∈ ["\x27", "\x22", "\x22\x22"], ∃ last,
      Template (text ++ closing.toList) (words ++ [last]) := by
  obtain @⟨lead, text, value, rest, words, closing, hlead, hbegun, hopen⟩ := hunfinished
  obtain ⟨part, hpiece⟩ := hopen.piece
  have hhash : rest ++ closing.toList ≠ ['#'] := by
    obtain ⟨c, later, rfl, -, hne⟩ := hopen.exists_cons
    intro heq
    exact hne (List.cons.inj heq).1
  refine ⟨closing, hopen.closing_mem, value ++ part, ?_⟩
  rw [List.append_assoc, List.append_assoc]
  exact .word hlead (hbegun.append hpiece hhash)

/-! ## The splitter inside a word -/

theorem Begun.read_cons {text value : List Char} (hbegun : Begun text value) {c : Char}
    (hblank : ¬ Blank c) (hhash : c ≠ '#') (done : List (List Char)) (later : List Char) :
    read ⟨done, [], .between⟩ (text ++ c :: later) = read ⟨done, value, .word⟩ (c :: later) := by
  cases hbegun with
  | nil =>
      rw [List.nil_append, Words.read_cons, advance_between_eq hblank hhash]
      rfl
  | word hword => rw [read_append, hword.read_eq]

theorem Open.read_eq {rest : List Char} {closing : String} (hopen : Open rest closing)
    (done : List (List Char)) (current : List Char) :
    (read ⟨done, current, .word⟩ rest).done = done ∧
      (read ⟨done, current, .word⟩ rest).finish? = none := by
  cases hopen with
  | slash =>
      rw [read_cons, Moves.slash.advance_eq, read_nil]
      exact ⟨rfl, rfl⟩
  | single hbody =>
      rw [read_cons, Moves.openSingle.advance_eq, read_single hbody]
      exact ⟨rfl, rfl⟩
  | double hquoted =>
      rw [read_cons, Moves.openDouble.advance_eq, hquoted.read_eq]
      exact ⟨rfl, rfl⟩
  | slashInDouble hquoted =>
      rw [List.cons_append, read_cons, Moves.openDouble.advance_eq, read_append, hquoted.read_eq,
        read_cons, Moves.slashInDouble.advance_eq, read_nil]
      exact ⟨rfl, rfl⟩

/-- At the end of such a text the splitter has finished just the complete words. -/
theorem Unfinished.read_eq {text : List Char} {words : List (List Char)}
    (hunfinished : Unfinished text words) :
    (read State.start text).done = words ∧ (read State.start text).finish? = none := by
  obtain @⟨lead, text, value, rest, words, closing, hlead, hbegun, hopen⟩ := hunfinished
  obtain ⟨c, later, rfl, hblank, hhash⟩ := hopen.exists_cons
  rw [List.append_assoc, read_append, hlead.read_eq, hbegun.read_cons hblank hhash]
  exact hopen.read_eq words value

theorem Spells.unfinished {before : List Char} {s : State Char} (hspells : Spells before s)
    (hfinish : s.finish? = none) : Unfinished before s.done := by
  cases hspells with
  | between | comment | word => cases hfinish
  | escape hlead hbegun => exact .mk hlead hbegun .slash
  | single hlead hbegun hbody => exact .mk hlead hbegun (.single hbody)
  | double hlead hbegun hquoted => exact .mk hlead hbegun (.double hquoted)
  | doubleEscape hlead hbegun hquoted =>
      rw [List.append_assoc]
      exact .mk hlead hbegun (.slashInDouble hquoted)

/-- The splitter turns a text down exactly if it ends inside a word. -/
theorem split?_eq_none_iff (text : List Char) :
    split? text = none ↔ ∃ words, Unfinished text words := by
  constructor
  · intro hsplit
    exact ⟨_, (spells_read (.between .nil) text).unfinished hsplit⟩
  · rintro ⟨words, hunfinished⟩
    exact hunfinished.read_eq.2

/-! ## Words that have begun -/

namespace State

variable {α : Type}

/-- How many words have begun, the finished ones included. -/
def begun (s : State α) : Nat :=
  match s.mode with
  | .between | .comment => s.done.length
  | .word | .escape | .single | .double | .doubleEscape => s.done.length + 1

theorem begun_bare (s : State α) (mark : Mark) (symbol : α) :
    (s.bare mark symbol).begun = s.done.length + 1 := by
  cases mark with
  | blank | newline => exact List.length_append
  | single | double | backslash | hash | special | plain => rfl

theorem begun_inDoubleEscape (s : State α) (slash : α) (mark : Mark) (symbol : α) :
    (s.inDoubleEscape slash mark symbol).begun = s.done.length + 1 := by
  cases mark with
  | _ => rfl

theorem begun_le_step (slash : α) (mark : α → Mark) (s : State α) (symbol : α) :
    s.begun ≤ (s.step slash mark symbol).begun := by
  obtain ⟨done, current, mode⟩ := s
  unfold step
  cases mode with
  | between =>
      cases mark symbol with
      | blank | newline | hash => exact Nat.le_refl _
      | single | double | backslash | special | plain => exact Nat.le_succ _
  | word => exact Nat.le_of_eq (begun_bare _ _ _).symm
  | doubleEscape => exact Nat.le_of_eq (begun_inDoubleEscape _ _ _ _).symm
  | comment | escape | single | double =>
      cases mark symbol with
      | _ => exact Nat.le_refl _

theorem length_of_finish? {s : State α} {words : List (List α)} (hfinish : s.finish? = some words) :
    words.length = s.begun := by
  obtain ⟨done, current, mode⟩ := s
  cases mode with
  | between | comment =>
      cases hfinish
      rfl
  | word =>
      cases hfinish
      exact List.length_append
  | escape | single | double | doubleEscape => cases hfinish

/-- A state that cannot be finished is inside a word. -/
theorem begun_of_finish? {s : State α} (hfinish : s.finish? = none) :
    s.begun = s.done.length + 1 := by
  obtain ⟨done, current, mode⟩ := s
  cases mode with
  | between | comment | word => cases hfinish
  | escape | single | double | doubleEscape => rfl

end State

theorem begun_le_read (s : State Char) (text : List Char) : s.begun ≤ (read s text).begun := by
  induction text generalizing s with
  | nil => exact Nat.le_refl _
  | cons c text ih =>
      exact Nat.le_trans (State.begun_le_step '\x5c' markOf s c) (ih (advance s c))

/-- However the text goes on, the complete words come first and the unfinished one after them. -/
theorem Unfinished.split?_append {text more : List Char} {words found : List (List Char)}
    (hunfinished : Unfinished text words) (hsplit : split? (text ++ more) = some found) :
    ∃ last later, found = words ++ last :: later := by
  obtain ⟨hdone, hfinish⟩ := hunfinished.read_eq
  rw [split?_eq, read_append] at hsplit
  have hlonger : words.length < found.length := by
    rw [State.length_of_finish? hsplit, ← hdone, ← Nat.succ_le_iff, Nat.succ_eq_add_one,
      ← State.begun_of_finish? hfinish]
    exact begun_le_read _ more
  have hbehind : read State.start text =
      State.behind words ⟨[], (read State.start text).current, (read State.start text).mode⟩ := by
    rw [State.behind, List.append_nil, ← hdone]
  rw [hbehind, read_behind, State.finish?_behind] at hsplit
  obtain ⟨rest, -, rfl⟩ := Option.map_eq_some_iff.mp hsplit
  cases rest with
  | nil => exact absurd hlonger (by simp)
  | cons last later => exact ⟨last, later, rfl⟩

/-- Every text can be completed to a template with a word in it. -/
theorem exists_completion (text : List Char) :
    ∃ (more : String) (words : List (List Char)),
      split? (text ++ more.toList) = some words ∧ words ≠ [] := by
  cases hsplit : split? text with
  | none =>
      obtain ⟨words, hunfinished⟩ := (split?_eq_none_iff text).mp hsplit
      obtain ⟨closing, -, last, htemplate⟩ := hunfinished.exists_template
      exact ⟨closing, words ++ [last], htemplate.split?_eq, List.concat_ne_nil last words⟩
  | some words =>
      by_cases hwords : words = []
      · subst hwords
        exact ⟨"\nx", [['x']], split?_newline hsplit ['x'], List.cons_ne_nil _ _⟩
      · refine ⟨"", words, ?_, hwords⟩
        rw [← hsplit, String.toList_empty, List.append_nil]

end TestHarness.Words

namespace TestHarness

open Words

theorem exists_command (config : Config) {words : List (List Char)}
    (hsplit : split? config.runner.toList = some words) (hwords : words ≠ []) :
    ∃ program args, config.command = .ok ⟨program, args⟩ ∧
      program.toList :: args.map String.toList = words := by
  obtain ⟨word, later, rfl⟩ := List.exists_cons_of_ne_nil hwords
  have hspelled : (String.ofList word).toList :: (later.map String.ofList).map String.toList =
      word :: later := by
    simp
  refine ⟨String.ofList word, later.map String.ofList, ?_, hspelled⟩
  rw [command_eq_ok_iff, hsplit, hspelled]

/-- One of three endings makes the runner a command, with the word that was cut off as its last. -/
theorem exists_closed_command {runner : String} {words : List (List Char)}
    (hunfinished : Unfinished runner.toList words) (dir : Path) :
    ∃ closing ∈ ["\x27", "\x22", "\x22\x22"], ∃ program args last,
      (Config.mk dir (runner ++ closing)).command = .ok ⟨program, args⟩ ∧
      program.toList :: args.map String.toList = words ++ [last] := by
  obtain ⟨closing, hclosing, last, htemplate⟩ := hunfinished.exists_template
  have hsplit := htemplate.split?_eq
  rw [← String.toList_append] at hsplit
  obtain ⟨program, args, hcommand, hspelled⟩ :=
    exists_command ⟨dir, runner ++ closing⟩ hsplit (List.concat_ne_nil last words)
  exact ⟨closing, hclosing, program, args, last, hcommand, hspelled⟩

theorem continued_ne_noProgram {runner : String} {words : List (List Char)}
    (hunfinished : Unfinished runner.toList words) (dir : Path) (more : String) :
    (Config.mk dir (runner ++ more)).command ≠ .error .noProgram := by
  intro hnone
  rw [command_eq_noProgram_iff, String.toList_append] at hnone
  obtain ⟨last, later, hfound⟩ := hunfinished.split?_append hnone
  exact absurd hfound.symm (List.append_ne_nil_of_right_ne_nil words (List.cons_ne_nil _ _))

theorem continued_words {runner more program : String} {args : List String}
    {words : List (List Char)} (hunfinished : Unfinished runner.toList words) {dir : Path}
    (hcommand : (Config.mk dir (runner ++ more)).command = .ok ⟨program, args⟩) :
    ∃ last later, program.toList :: args.map String.toList = words ++ last :: later := by
  rw [command_eq_ok_iff, String.toList_append] at hcommand
  exact hunfinished.split?_append hcommand

theorem exists_completed_command (dir : Path) (runner : String) :
    ∃ more command, (Config.mk dir (runner ++ more)).command = .ok command := by
  obtain ⟨more, words, hsplit, hwords⟩ := exists_completion runner.toList
  rw [← String.toList_append] at hsplit
  obtain ⟨program, args, hcommand, -⟩ := exists_command ⟨dir, runner ++ more⟩ hsplit hwords
  exact ⟨more, _, hcommand⟩

/--
A runner cannot be parsed exactly if it ends inside a word. One of three endings then completes it:
the command has the complete words first, as they were, and after them the word that was cut off.
Whatever else the runner is continued with, it is never taken for one without words, and if it can
be parsed the complete words come first. No runner is beyond repair.
-/
theorem command_unfinished (dir : Path) (runner : String) :
    ((Config.mk dir runner).command = .error (.unparsable runner) ↔
      ∃ words, Unfinished runner.toList words) ∧
    (∀ words, Unfinished runner.toList words →
      (∃ closing ∈ ["\x27", "\x22", "\x22\x22"], ∃ program args last,
        (Config.mk dir (runner ++ closing)).command = .ok ⟨program, args⟩ ∧
        program.toList :: args.map String.toList = words ++ [last]) ∧
      ∀ more, (Config.mk dir (runner ++ more)).command ≠ .error .noProgram ∧
        ∀ program args, (Config.mk dir (runner ++ more)).command = .ok ⟨program, args⟩ →
          ∃ last later, program.toList :: args.map String.toList = words ++ last :: later) ∧
    ∃ more command, (Config.mk dir (runner ++ more)).command = .ok command := by
  refine ⟨?_, ?_, exists_completed_command dir runner⟩
  · exact (command_eq_unparsable_iff ⟨dir, runner⟩).trans (split?_eq_none_iff runner.toList)
  · intro words hunfinished
    refine ⟨exists_closed_command hunfinished dir, fun more => ⟨?_, ?_⟩⟩
    · exact continued_ne_noProgram hunfinished dir more
    · intro program args hcommand
      exact continued_words hunfinished hcommand

/-- After a backslash in double quotes one more quote would be taken, so that it needs two. -/
example :
    (Config.mk (.ofString "t") "a \x22b\x5c").command = .error (.unparsable "a \x22b\x5c") ∧
    (Config.mk (.ofString "t") "a \x22b\x5c\x22").command =
      .error (.unparsable "a \x22b\x5c\x22") ∧
    (Config.mk (.ofString "t") "a \x22b\x5c\x22\x22").command = .ok ⟨"a", ["b\x22"]⟩ :=
  ⟨rfl, rfl, rfl⟩

end TestHarness
