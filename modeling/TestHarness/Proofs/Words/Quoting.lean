import TestHarness.Proofs.Words.Grammar

/-!
# Words in quotes

Every list of words can be written as a template: each word stands in single quotes, and a single
quote inside a word ends the quotes, follows a backslash and opens them again. One word thus becomes
several pieces, and blanks inside it stand next to blanks between words.

The splitter undoes this. Inside the quotes, `read_quoteBody` shows that whatever stands for a word
adds exactly that word; a gap after it then ends the word, and nothing else does.
-/

namespace TestHarness.Words

/-! ## Quoting -/

/-- What stands for a symbol between single quotes. -/
def quoteSymbol (c : Char) : List Char :=
  if c = '\x27' then ['\x27', '\x5c', '\x27', '\x27'] else [c]

def quote (word : List Char) : List Char := '\x27' :: word.flatMap quoteSymbol ++ ['\x27']

/-- The words of a command in quotes: blanks around them, and a gap before each but the first. -/
structure Quotation where
  lead : List Char
  program : String
  /-- Each argument with the gap before it. -/
  args : List (List Char × String)
  trail : List Char
  lead_blank : ∀ c ∈ lead, Blank c
  gap_blank : ∀ arg ∈ args, ∀ c ∈ arg.1, Blank c
  gap_ne_nil : ∀ arg ∈ args, arg.1 ≠ []
  trail_blank : ∀ c ∈ trail, Blank c

namespace Quotation

def text (quotation : Quotation) : List Char :=
  quotation.lead ++ quote quotation.program.toList ++
    quotation.args.flatMap (fun arg => arg.1 ++ quote arg.2.toList) ++ quotation.trail

def command (quotation : Quotation) : Command :=
  ⟨quotation.program, quotation.args.map Prod.snd⟩

/-- The plainest way to quote a command: one space between two words. -/
def ofCommand (command : Command) : Quotation where
  lead := []
  program := command.program
  args := command.args.map fun word => ([' '], word)
  trail := []
  lead_blank := by simp
  gap_blank := by simp [Blank]
  gap_ne_nil := by simp
  trail_blank := by simp

theorem command_ofCommand (command : Command) : (ofCommand command).command = command := by
  have hargs : (command.args.map fun word => ([' '], word)).map Prod.snd = command.args := by
    rw [List.map_map]
    exact List.map_id _
  rw [ofCommand, Quotation.command, hargs]

end Quotation

/-! ## Reading what was quoted -/

/-- What stands for a symbol adds that symbol, and the quotes are open again. -/
theorem read_quoteSymbol (c : Char) (done : List (List Char)) (current : List Char) :
    read ⟨done, current, .single⟩ (quoteSymbol c) = ⟨done, current ++ [c], .single⟩ := by
  unfold quoteSymbol
  split
  · next hquote =>
      subst hquote
      rw [read_cons, Moves.closeSingle.advance_eq, read_cons, Moves.slash.advance_eq, read_cons,
        (Moves.take (by decide)).advance_eq, read_cons, Moves.openSingle.advance_eq, read_nil]
      simp only [List.append_nil]
  · next hquote => rw [read_cons, (Moves.inSingle hquote).advance_eq, read_nil]

theorem read_quoteBody (word : List Char) (done : List (List Char)) (current : List Char) :
    read ⟨done, current, .single⟩ (word.flatMap quoteSymbol) =
      ⟨done, current ++ word, .single⟩ := by
  induction word generalizing current with
  | nil => rw [List.flatMap_nil, read_nil, List.append_nil]
  | cons c word ih =>
      rw [List.flatMap_cons, read_append, read_quoteSymbol, ih, List.append_assoc,
        List.singleton_append]

/-- A quoted word is read as that word, also when it is empty. -/
theorem read_quote (word : List Char) (done : List (List Char)) :
    read ⟨done, [], .between⟩ (quote word) = ⟨done, word, .word⟩ := by
  have hopen : advance ⟨done, [], .between⟩ '\x27' = ⟨done, [], .single⟩ := by
    rw [advance_between_eq (by unfold Blank; decide) (by decide), Moves.openSingle.advance_eq]
    rfl
  rw [quote, List.cons_append, read_cons, hopen, read_append, read_quoteBody, List.nil_append,
    read_cons, Moves.closeSingle.advance_eq, List.append_nil, read_nil]

theorem read_blanks {blanks : List Char} (hblanks : ∀ c ∈ blanks, Blank c)
    (done : List (List Char)) (current : List Char) :
    read ⟨done, current, .between⟩ blanks = ⟨done, current, .between⟩ := by
  induction blanks with
  | nil => rfl
  | cons c blanks ih =>
      rw [List.forall_mem_cons] at hblanks
      rw [read_cons, (Moves.skip hblanks.1).advance_eq, List.append_nil]
      exact ih hblanks.2

/-- A gap ends the word before it. -/
theorem read_gap {gap : List Char} (hblank : ∀ c ∈ gap, Blank c) (hgap : gap ≠ [])
    (done : List (List Char)) (current : List Char) :
    read ⟨done, current, .word⟩ gap = ⟨done ++ [current], [], .between⟩ := by
  cases gap with
  | nil => exact absurd rfl hgap
  | cons c gap =>
      rw [List.forall_mem_cons] at hblank
      rw [read_cons, advance_word_of_blank hblank.1, read_blanks hblank.2]

/-- After a word, each gap finishes the word before it and starts the next. -/
theorem read_args {args : List (List Char × String)} (hblank : ∀ arg ∈ args, ∀ c ∈ arg.1, Blank c)
    (hgap : ∀ arg ∈ args, arg.1 ≠ []) (done : List (List Char)) (current : List Char) :
    ∃ before last, before ++ [last] = done ++ current :: args.map (fun arg => arg.2.toList) ∧
      read ⟨done, current, .word⟩ (args.flatMap fun arg => arg.1 ++ quote arg.2.toList) =
        ⟨before, last, .word⟩ := by
  induction args generalizing done current with
  | nil => exact ⟨done, current, rfl, rfl⟩
  | cons arg args ih =>
      rw [List.forall_mem_cons] at hblank hgap
      obtain ⟨before, last, hwords, hread⟩ :=
        ih hblank.2 hgap.2 (done ++ [current]) arg.2.toList
      refine ⟨before, last, ?_, ?_⟩
      · rw [hwords, List.append_assoc, List.singleton_append, List.map_cons]
      · rw [List.flatMap_cons, read_append, read_append, read_gap hblank.1 hgap.1, read_quote,
          hread]

/-- Blanks after the last word change nothing. -/
theorem finish?_read_trail {trail : List Char} (htrail : ∀ c ∈ trail, Blank c)
    (done : List (List Char)) (current : List Char) :
    (read ⟨done, current, .word⟩ trail).finish? = some (done ++ [current]) := by
  by_cases hnil : trail = []
  · subst hnil
    rfl
  · rw [read_gap htrail hnil]
    rfl

theorem Quotation.split?_text (quotation : Quotation) :
    split? quotation.text =
      some (quotation.program.toList :: quotation.args.map fun arg => arg.2.toList) := by
  obtain ⟨before, last, hwords, hread⟩ :=
    read_args quotation.gap_blank quotation.gap_ne_nil [] quotation.program.toList
  rw [split?_eq, Quotation.text, read_append, read_append, read_append, State.start,
    read_blanks quotation.lead_blank, read_quote, hread, finish?_read_trail quotation.trail_blank,
    hwords]
  rfl

end TestHarness.Words

namespace TestHarness

open Words

/--
A template that quotes a command is read as that command, whatever symbols its words are made of and
whatever gaps stand between them; and since every command can be quoted, there is no program and no
list of arguments that a template cannot spell.
-/
theorem command_quotation (dir : Path) :
    (∀ quotation : Quotation,
      (Config.mk dir (String.ofList quotation.text)).command = .ok quotation.command) ∧
    ∀ command : Command, ∃ runner, (Config.mk dir runner).command = .ok command := by
  have hquoted (quotation : Quotation) :
      (Config.mk dir (String.ofList quotation.text)).command = .ok quotation.command := by
    rw [Quotation.command, command_eq_ok_iff, String.toList_ofList, quotation.split?_text,
      List.map_map]
    rfl
  refine ⟨hquoted, fun command => ⟨String.ofList (Quotation.ofCommand command).text, ?_⟩⟩
  rw [hquoted, Quotation.command_ofCommand]

/-- A quote inside a word, and a word with nothing in it. -/
example : (Config.mk (.ofString "t") " 'it'\x5c''s'\t''\n").command = .ok ⟨"it's", [""]⟩ := rfl

end TestHarness
