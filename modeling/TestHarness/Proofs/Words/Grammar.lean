import TestHarness.Config

/-!
# The grammar of templates

`Template text words` says that a template is made of words, blanks and comments, and which words it
spells. The rules build a text from the left; `Lead` holds the texts that end where a word could
begin, which is where a `#` starts a comment and a word its first piece.

`split?_eq_some_iff` ties the splitter to the grammar. Going from the grammar to the splitter, every
rule is read off as a step of the fold. Going back, `Spells` says for each mode what the symbols
read so far can be, and one more symbol keeps it.
-/

namespace TestHarness.Words

/-! ## The grammar -/

def Blank (c : Char) : Prop := c = ' ' ∨ c = '\t' ∨ c = '\n'

/-- The symbols before which a backslash takes effect in double quotes. -/
def Escapable (c : Char) : Prop := c = '$' ∨ c = '\x60' ∨ c = '\x22' ∨ c = '\x5c'

/-- What stands between double quotes, and the text it spells. -/
inductive Quoted : List Char → List Char → Prop where
  | nil : Quoted [] []
  | plain {body text : List Char} {c : Char} :
      Quoted body text → c ≠ '\x22' → c ≠ '\x5c' → Quoted (body ++ [c]) (text ++ [c])
  | escaped {body text : List Char} {c : Char} :
      Quoted body text → Escapable c → Quoted (body ++ ['\x5c', c]) (text ++ [c])
  | joined {body text : List Char} :
      Quoted body text → Quoted (body ++ ['\x5c', '\n']) text
  | kept {body text : List Char} {c : Char} :
      Quoted body text → ¬ Escapable c → c ≠ '\n' →
        Quoted (body ++ ['\x5c', c]) (text ++ ['\x5c', c])

/-- One piece of a word, and the text it spells. -/
inductive Piece : List Char → List Char → Prop where
  | bare {c : Char} : ¬ Blank c → c ≠ '\x27' → c ≠ '\x22' → c ≠ '\x5c' → Piece [c] [c]
  | escaped {c : Char} : c ≠ '\n' → Piece ['\x5c', c] [c]
  | joined : Piece ['\x5c', '\n'] []
  | single {body : List Char} : '\x27' ∉ body → Piece ('\x27' :: body ++ ['\x27']) body
  | double {body text : List Char} : Quoted body text → Piece ('\x22' :: body ++ ['\x22']) text

/-- A word is one piece or more; its first piece is not a bare `#`. -/
inductive Word : List Char → List Char → Prop where
  | first {piece part : List Char} : Piece piece part → piece ≠ ['#'] → Word piece part
  | more {text value piece part : List Char} :
      Word text value → Piece piece part → Word (text ++ piece) (value ++ part)

/-- A text that ends where a word could begin, and the words in it. -/
inductive Lead : List Char → List (List Char) → Prop where
  | nil : Lead [] []
  | blank {lead : List Char} {words : List (List Char)} {c : Char} :
      Lead lead words → Blank c → Lead (lead ++ [c]) words
  | comment {lead body : List Char} {words : List (List Char)} :
      Lead lead words → '\n' ∉ body → Lead (lead ++ '#' :: body ++ ['\n']) words
  | word {lead text value : List Char} {words : List (List Char)} {c : Char} :
      Lead lead words → Word text value → Blank c → Lead (lead ++ text ++ [c]) (words ++ [value])

/-- A template and its words; a last comment or a last word may go up to the end. -/
inductive Template : List Char → List (List Char) → Prop where
  | lead {text : List Char} {words : List (List Char)} : Lead text words → Template text words
  | comment {lead body : List Char} {words : List (List Char)} :
      Lead lead words → '\n' ∉ body → Template (lead ++ '#' :: body) words
  | word {lead text value : List Char} {words : List (List Char)} :
      Lead lead words → Word text value → Template (lead ++ text) (words ++ [value])

/-! ## Marks of characters -/

/-- The one character with a mark, where there is only one. -/
def Mark.only? : Mark → Option Char
  | .newline => some '\n'
  | .hash => some '#'
  | .single => some '\x27'
  | .double => some '\x22'
  | .backslash => some '\x5c'
  | .blank | .special | .plain => none

theorem markOf_eq_iff {mark : Mark} {d : Char} (honly : mark.only? = some d) (c : Char) :
    markOf c = mark ↔ c = d := by
  cases mark <;> cases honly <;> unfold markOf <;> grind

theorem blank_iff (c : Char) : Blank c ↔ markOf c = .blank ∨ markOf c = .newline := by
  unfold Blank markOf
  grind

theorem escapable_iff (c : Char) :
    Escapable c ↔ markOf c = .special ∨ markOf c = .double ∨ markOf c = .backslash := by
  unfold Escapable markOf
  grind

/-! ## Steps of the splitter -/

/-- The state after one more symbol. -/
def advance (s : State Char) (c : Char) : State Char := s.step '\x5c' markOf c

/-- The state after some more symbols. -/
def read (s : State Char) (text : List Char) : State Char := text.foldl advance s

theorem split?_eq (template : List Char) :
    split? template = (read State.start template).finish? := rfl

theorem read_append (s : State Char) (first second : List Char) :
    read s (first ++ second) = read (read s first) second := List.foldl_append

theorem read_cons (s : State Char) (c : Char) (later : List Char) :
    read s (c :: later) = read (advance s c) later := rfl

theorem read_nil (s : State Char) : read s [] = s := rfl

/--
A symbol that keeps to one word, or to no word at all: what it adds to the current word and the mode
it leads to. What is left is a blank after a word and the first symbol of a word.
-/
inductive Moves : Mode → Char → List Char → Mode → Prop where
  | skip {c : Char} : Blank c → Moves .between c [] .between
  | openComment : Moves .between '#' [] .comment
  | hide {c : Char} : c ≠ '\n' → Moves .comment c [] .comment
  | closeComment : Moves .comment '\n' [] .between
  | bare {c : Char} : ¬ Blank c → c ≠ '\x27' → c ≠ '\x22' → c ≠ '\x5c' → Moves .word c [c] .word
  | slash : Moves .word '\x5c' [] .escape
  | openSingle : Moves .word '\x27' [] .single
  | openDouble : Moves .word '\x22' [] .double
  | take {c : Char} : c ≠ '\n' → Moves .escape c [c] .word
  | join : Moves .escape '\n' [] .word
  | inSingle {c : Char} : c ≠ '\x27' → Moves .single c [c] .single
  | closeSingle : Moves .single '\x27' [] .word
  | inDouble {c : Char} : c ≠ '\x22' → c ≠ '\x5c' → Moves .double c [c] .double
  | slashInDouble : Moves .double '\x5c' [] .doubleEscape
  | closeDouble : Moves .double '\x22' [] .word
  | takeInDouble {c : Char} : Escapable c → Moves .doubleEscape c [c] .double
  | joinInDouble : Moves .doubleEscape '\n' [] .double
  | keepInDouble {c : Char} : ¬ Escapable c → c ≠ '\n' → Moves .doubleEscape c ['\x5c', c] .double

theorem Moves.advance_eq {mode next : Mode} {c : Char} {added : List Char}
    (hmoves : Moves mode c added next) (done : List (List Char)) (current : List Char) :
    advance ⟨done, current, mode⟩ c = ⟨done, current ++ added, next⟩ := by
  unfold advance State.step
  cases hmoves with
  | skip hblank =>
      rw [List.append_nil]
      rcases (blank_iff c).mp hblank with hmark | hmark <;> rw [hmark]
  | hide hnewline =>
      rw [List.append_nil]
      cases hmark : markOf c with
      | newline => exact absurd ((markOf_eq_iff rfl c).mp hmark) hnewline
      | _ => rfl
  | bare hblank hsingle hdouble hslash =>
      rw [blank_iff, not_or] at hblank
      cases hmark : markOf c with
      | blank => exact absurd hmark hblank.1
      | newline => exact absurd hmark hblank.2
      | single => exact absurd ((markOf_eq_iff rfl c).mp hmark) hsingle
      | double => exact absurd ((markOf_eq_iff rfl c).mp hmark) hdouble
      | backslash => exact absurd ((markOf_eq_iff rfl c).mp hmark) hslash
      | _ => rfl
  | take hnewline =>
      cases hmark : markOf c with
      | newline => exact absurd ((markOf_eq_iff rfl c).mp hmark) hnewline
      | _ => rfl
  | inSingle hsingle =>
      cases hmark : markOf c with
      | single => exact absurd ((markOf_eq_iff rfl c).mp hmark) hsingle
      | _ => rfl
  | inDouble hdouble hslash =>
      cases hmark : markOf c with
      | double => exact absurd ((markOf_eq_iff rfl c).mp hmark) hdouble
      | backslash => exact absurd ((markOf_eq_iff rfl c).mp hmark) hslash
      | _ => rfl
  | takeInDouble hescapable =>
      rcases (escapable_iff c).mp hescapable with hmark | hmark | hmark <;> rw [hmark] <;> rfl
  | keepInDouble hescapable hnewline =>
      rw [escapable_iff, not_or, not_or] at hescapable
      cases hmark : markOf c with
      | special => exact absurd hmark hescapable.1
      | double => exact absurd hmark hescapable.2.1
      | backslash => exact absurd hmark hescapable.2.2
      | newline => exact absurd ((markOf_eq_iff rfl c).mp hmark) hnewline
      | _ => rfl
  -- The symbols that are left have one mark each and only change the mode.
  | _ => rfl

/-- Where a word could begin, a symbol that is no blank and no `#` is read as in a word. -/
theorem advance_between_eq {c : Char} (hblank : ¬ Blank c) (hhash : c ≠ '#')
    (done : List (List Char)) (current : List Char) :
    advance ⟨done, current, .between⟩ c = advance ⟨done, current, .word⟩ c := by
  rw [blank_iff, not_or] at hblank
  unfold advance State.step
  cases hmark : markOf c with
  | blank => exact absurd hmark hblank.1
  | newline => exact absurd hmark hblank.2
  | hash => exact absurd ((markOf_eq_iff rfl c).mp hmark) hhash
  | _ => rfl

/-- A blank ends a word. -/
theorem advance_word_of_blank {c : Char} (hblank : Blank c) (done : List (List Char))
    (current : List Char) :
    advance ⟨done, current, .word⟩ c = ⟨done ++ [current], [], .between⟩ := by
  unfold advance State.step
  rcases (blank_iff c).mp hblank with hmark | hmark <;> rw [hmark] <;> rfl

/-! ## From the grammar to the splitter -/

theorem read_single {body : List Char} (hbody : '\x27' ∉ body) (done : List (List Char))
    (current : List Char) :
    read ⟨done, current, .single⟩ body = ⟨done, current ++ body, .single⟩ := by
  induction body generalizing current with
  | nil => rw [read_nil, List.append_nil]
  | cons c body ih =>
      rw [List.mem_cons, not_or] at hbody
      rw [read_cons, (Moves.inSingle (Ne.symm hbody.1)).advance_eq, ih hbody.2]
      simp only [List.append_assoc, List.singleton_append]

theorem read_comment {body : List Char} (hbody : '\n' ∉ body) (done : List (List Char))
    (current : List Char) :
    read ⟨done, current, .comment⟩ body = ⟨done, current, .comment⟩ := by
  induction body with
  | nil => rfl
  | cons c body ih =>
      rw [List.mem_cons, not_or] at hbody
      rw [read_cons, (Moves.hide (Ne.symm hbody.1)).advance_eq, List.append_nil]
      exact ih hbody.2

theorem Quoted.read_eq {body text : List Char} (hquoted : Quoted body text)
    (done : List (List Char)) (current : List Char) :
    read ⟨done, current, .double⟩ body = ⟨done, current ++ text, .double⟩ := by
  induction hquoted with
  | nil => rw [read_nil, List.append_nil]
  | plain _ hdouble hslash ih =>
      rw [read_append, ih, read_cons, (Moves.inDouble hdouble hslash).advance_eq, read_nil,
        List.append_assoc]
  | escaped _ hescapable ih =>
      rw [read_append, ih, read_cons, Moves.slashInDouble.advance_eq, read_cons,
        (Moves.takeInDouble hescapable).advance_eq, read_nil]
      simp only [List.append_nil, List.append_assoc]
  | joined _ ih =>
      rw [read_append, ih, read_cons, Moves.slashInDouble.advance_eq, read_cons,
        Moves.joinInDouble.advance_eq, read_nil]
      simp only [List.append_nil]
  | kept _ hescapable hnewline ih =>
      rw [read_append, ih, read_cons, Moves.slashInDouble.advance_eq, read_cons,
        (Moves.keepInDouble hescapable hnewline).advance_eq, read_nil]
      simp only [List.append_nil, List.append_assoc]

theorem Piece.read_eq {piece part : List Char} (hpiece : Piece piece part)
    (done : List (List Char)) (current : List Char) :
    read ⟨done, current, .word⟩ piece = ⟨done, current ++ part, .word⟩ := by
  cases hpiece with
  | bare hblank hsingle hdouble hslash =>
      rw [read_cons, (Moves.bare hblank hsingle hdouble hslash).advance_eq, read_nil]
  | escaped hnewline =>
      rw [read_cons, Moves.slash.advance_eq, read_cons, (Moves.take hnewline).advance_eq, read_nil,
        List.append_nil]
  | joined =>
      rw [read_cons, Moves.slash.advance_eq, read_cons, Moves.join.advance_eq, read_nil]
      simp only [List.append_nil]
  | single hbody =>
      rw [List.cons_append, read_cons, Moves.openSingle.advance_eq, read_append,
        read_single hbody, read_cons, Moves.closeSingle.advance_eq, read_nil]
      simp only [List.append_nil]
  | double hquoted =>
      rw [List.cons_append, read_cons, Moves.openDouble.advance_eq, read_append,
        hquoted.read_eq, read_cons, Moves.closeDouble.advance_eq, read_nil]
      simp only [List.append_nil]

/-- The first piece of a word is read the same whether a word has begun or not. -/
theorem Piece.read_between {piece part : List Char} (hpiece : Piece piece part)
    (hhash : piece ≠ ['#']) (done : List (List Char)) (current : List Char) :
    read ⟨done, current, .between⟩ piece = read ⟨done, current, .word⟩ piece := by
  have hfirst {c : Char} (later : List Char) (hblank : ¬ Blank c) (hne : c ≠ '#') :
      read ⟨done, current, .between⟩ (c :: later) = read ⟨done, current, .word⟩ (c :: later) := by
    rw [read_cons, advance_between_eq hblank hne]
    rfl
  have hslash : ¬ Blank '\x5c' := by unfold Blank; decide
  cases hpiece with
  | bare hblank _ _ _ => exact hfirst [] hblank fun heq => hhash (by rw [heq])
  | escaped _ => exact hfirst _ hslash (by decide)
  | joined => exact hfirst _ hslash (by decide)
  | single _ => exact hfirst _ (by unfold Blank; decide) (by decide)
  | double _ => exact hfirst _ (by unfold Blank; decide) (by decide)

theorem Word.read_eq {text value : List Char} (hword : Word text value)
    (done : List (List Char)) :
    read ⟨done, [], .between⟩ text = ⟨done, value, .word⟩ := by
  induction hword with
  | first hpiece hhash => rw [hpiece.read_between hhash, hpiece.read_eq, List.nil_append]
  | more _ hpiece ih => rw [read_append, ih, hpiece.read_eq]

theorem Lead.read_eq {lead : List Char} {words : List (List Char)} (hlead : Lead lead words) :
    read State.start lead = ⟨words, [], .between⟩ := by
  induction hlead with
  | nil => rfl
  | blank _ hblank ih => rw [read_append, ih, read_cons, (Moves.skip hblank).advance_eq]; rfl
  | comment _ hbody ih =>
      rw [List.append_assoc, read_append, ih, List.cons_append, read_cons,
        Moves.openComment.advance_eq, read_append, List.append_nil, read_comment hbody, read_cons,
        Moves.closeComment.advance_eq]
      rfl
  | word _ hword hblank ih =>
      rw [read_append, read_append, ih, hword.read_eq, read_cons, advance_word_of_blank hblank]
      rfl

/-- The splitter finds the words that a template spells. -/
theorem Template.split?_eq {text : List Char} {words : List (List Char)}
    (htemplate : Template text words) : split? text = some words := by
  rw [Words.split?_eq]
  cases htemplate with
  | lead hlead =>
      rw [hlead.read_eq]
      rfl
  | comment hlead hbody =>
      rw [read_append, hlead.read_eq, read_cons, Moves.openComment.advance_eq, List.append_nil,
        read_comment hbody]
      rfl
  | word hlead hword =>
      rw [read_append, hlead.read_eq, hword.read_eq]
      rfl

/-! ## From the splitter to the grammar -/

/-- Nothing of a word yet, or a word so far. -/
inductive Begun : List Char → List Char → Prop where
  | nil : Begun [] []
  | word {text value : List Char} : Word text value → Begun text value

/-- What the symbols read so far can be in each mode. -/
inductive Spells : List Char → State Char → Prop where
  | between {lead : List Char} {words : List (List Char)} :
      Lead lead words → Spells lead ⟨words, [], .between⟩
  | comment {lead body : List Char} {words : List (List Char)} :
      Lead lead words → '\n' ∉ body → Spells (lead ++ '#' :: body) ⟨words, [], .comment⟩
  | word {lead text value : List Char} {words : List (List Char)} :
      Lead lead words → Word text value → Spells (lead ++ text) ⟨words, value, .word⟩
  | escape {lead text value : List Char} {words : List (List Char)} :
      Lead lead words → Begun text value → Spells (lead ++ text ++ ['\x5c']) ⟨words, value, .escape⟩
  | single {lead text value body : List Char} {words : List (List Char)} :
      Lead lead words → Begun text value → '\x27' ∉ body →
        Spells (lead ++ text ++ '\x27' :: body) ⟨words, value ++ body, .single⟩
  | double {lead text value body inner : List Char} {words : List (List Char)} :
      Lead lead words → Begun text value → Quoted body inner →
        Spells (lead ++ text ++ '\x22' :: body) ⟨words, value ++ inner, .double⟩
  | doubleEscape {lead text value body inner : List Char} {words : List (List Char)} :
      Lead lead words → Begun text value → Quoted body inner →
        Spells (lead ++ text ++ '\x22' :: body ++ ['\x5c']) ⟨words, value ++ inner, .doubleEscape⟩

theorem Begun.append {text value piece part : List Char} (hbegun : Begun text value)
    (hpiece : Piece piece part) (hhash : piece ≠ ['#']) : Word (text ++ piece) (value ++ part) := by
  cases hbegun with
  | nil => exact .first hpiece hhash
  | word hword => exact .more hword hpiece

/-- A symbol of a word outside quotes goes on with the word or opens a longer piece. -/
theorem Begun.advance {lead text value : List Char} {words : List (List Char)}
    (hlead : Lead lead words) (hbegun : Begun text value) {c : Char} (hblank : ¬ Blank c)
    (hbare : Piece [c] [c] → Word (text ++ [c]) (value ++ [c])) :
    Spells (lead ++ text ++ [c]) (advance ⟨words, value, .word⟩ c) := by
  by_cases hsingle : c = '\x27'
  · subst hsingle
    rw [Moves.openSingle.advance_eq]
    exact .single hlead hbegun List.not_mem_nil
  by_cases hdouble : c = '\x22'
  · subst hdouble
    rw [Moves.openDouble.advance_eq]
    exact .double hlead hbegun .nil
  by_cases hslash : c = '\x5c'
  · subst hslash
    rw [Moves.slash.advance_eq, List.append_nil]
    exact .escape hlead hbegun
  rw [(Moves.bare hblank hsingle hdouble hslash).advance_eq, List.append_assoc]
  exact .word hlead (hbare (.bare hblank hsingle hdouble hslash))

/-- One more symbol keeps what the symbols read so far can be. -/
theorem Spells.advance {before : List Char} {s : State Char} (hspells : Spells before s)
    (c : Char) : Spells (before ++ [c]) (advance s c) := by
  cases hspells with
  | between hlead =>
      by_cases hblank : Blank c
      · rw [(Moves.skip hblank).advance_eq]
        exact .between (hlead.blank hblank)
      by_cases hhash : c = '#'
      · subst hhash
        rw [Moves.openComment.advance_eq]
        exact .comment hlead List.not_mem_nil
      rw [advance_between_eq hblank hhash, ← List.append_nil before]
      refine Begun.nil.advance hlead hblank fun hpiece => .first hpiece ?_
      intro heq
      exact hhash (List.cons.inj heq).1
  | @comment lead body words hlead hbody =>
      by_cases hnewline : c = '\n'
      · subst hnewline
        rw [Moves.closeComment.advance_eq]
        exact .between (hlead.comment hbody)
      · rw [(Moves.hide hnewline).advance_eq]
        have hmore : '\n' ∉ body ++ [c] := by
          rw [List.mem_append, List.mem_singleton, not_or]
          exact ⟨hbody, Ne.symm hnewline⟩
        simpa [List.append_assoc] using Spells.comment hlead hmore
  | @word lead text value words hlead hword =>
      by_cases hblank : Blank c
      · rw [advance_word_of_blank hblank]
        exact .between (hlead.word hword hblank)
      · exact (Begun.word hword).advance hlead hblank fun hpiece => .more hword hpiece
  | @escape lead text value words hlead hbegun =>
      by_cases hnewline : c = '\n'
      · subst hnewline
        rw [Moves.join.advance_eq]
        have hmore := hbegun.append .joined (by decide)
        simpa [List.append_assoc] using Spells.word hlead hmore
      · rw [(Moves.take hnewline).advance_eq]
        have hmore := hbegun.append (.escaped hnewline) (by simp)
        simpa [List.append_assoc] using Spells.word hlead hmore
  | @single lead text value body words hlead hbegun hbody =>
      by_cases hsingle : c = '\x27'
      · subst hsingle
        rw [Moves.closeSingle.advance_eq]
        have hmore := hbegun.append (.single hbody) (by simp)
        simpa [List.append_assoc] using Spells.word hlead hmore
      · rw [(Moves.inSingle hsingle).advance_eq]
        have hmore : '\x27' ∉ body ++ [c] := by
          rw [List.mem_append, List.mem_singleton, not_or]
          exact ⟨hbody, Ne.symm hsingle⟩
        simpa [List.append_assoc] using Spells.single hlead hbegun hmore
  | @double lead text value body inner words hlead hbegun hquoted =>
      by_cases hdouble : c = '\x22'
      · subst hdouble
        rw [Moves.closeDouble.advance_eq]
        have hmore := hbegun.append (.double hquoted) (by simp)
        simpa [List.append_assoc] using Spells.word hlead hmore
      by_cases hslash : c = '\x5c'
      · subst hslash
        rw [Moves.slashInDouble.advance_eq, List.append_nil]
        exact .doubleEscape hlead hbegun hquoted
      rw [(Moves.inDouble hdouble hslash).advance_eq]
      simpa [List.append_assoc] using Spells.double hlead hbegun (hquoted.plain hdouble hslash)
  | @doubleEscape lead text value body inner words hlead hbegun hquoted =>
      by_cases hescapable : Escapable c
      · rw [(Moves.takeInDouble hescapable).advance_eq]
        simpa [List.append_assoc] using Spells.double hlead hbegun (hquoted.escaped hescapable)
      by_cases hnewline : c = '\n'
      · subst hnewline
        rw [Moves.joinInDouble.advance_eq]
        simpa [List.append_assoc] using Spells.double hlead hbegun hquoted.joined
      rw [(Moves.keepInDouble hescapable hnewline).advance_eq]
      simpa [List.append_assoc] using
        Spells.double hlead hbegun (hquoted.kept hescapable hnewline)

/-- The symbols read so far are always what the state says. -/
theorem spells_read {before : List Char} {s : State Char} (hspells : Spells before s)
    (more : List Char) : Spells (before ++ more) (read s more) := by
  induction more generalizing before s with
  | nil => rwa [List.append_nil]
  | cons c more ih =>
      have hnext := ih (hspells.advance c)
      rwa [List.append_assoc, List.singleton_append] at hnext

theorem Spells.template {before : List Char} {s : State Char} {words : List (List Char)}
    (hspells : Spells before s) (hfinish : s.finish? = some words) : Template before words := by
  cases hspells with
  | between hlead =>
      cases hfinish
      exact .lead hlead
  | comment hlead hbody =>
      cases hfinish
      exact .comment hlead hbody
  | word hlead hword =>
      cases hfinish
      exact .word hlead hword
  | escape | single | double | doubleEscape => cases hfinish

/-- The splitter accepts exactly the templates of the grammar, each with the words it spells. -/
theorem split?_eq_some_iff (text : List Char) (words : List (List Char)) :
    split? text = some words ↔ Template text words := by
  constructor
  · intro hsplit
    exact (spells_read (.between .nil) text).template hsplit
  · intro htemplate
    exact htemplate.split?_eq

end TestHarness.Words

namespace TestHarness

open Words

theorem command_eq_ok_iff (config : Config) (program : String) (args : List String) :
    config.command = .ok ⟨program, args⟩ ↔
      split? config.runner.toList = some (program.toList :: args.map String.toList) := by
  unfold Config.command
  cases split? config.runner.toList with
  | none => simp only [reduceCtorEq]
  | some words =>
      cases words with
      | nil => simp only [reduceCtorEq, Option.some.injEq]
      | cons word later =>
          simp only [Except.ok.injEq, Command.mk.injEq, Option.some.injEq, List.cons.injEq]
          constructor
          · rintro ⟨rfl, rfl⟩
            simp
          · rintro ⟨rfl, rfl⟩
            simp

theorem command_eq_noProgram_iff (config : Config) :
    config.command = .error .noProgram ↔ split? config.runner.toList = some [] := by
  unfold Config.command
  cases split? config.runner.toList with
  | none => simp only [Except.error.injEq, reduceCtorEq]
  | some words =>
      cases words with
      | nil => simp only
      | cons word later => simp only [reduceCtorEq, Option.some.injEq]

theorem command_eq_unparsable_iff (config : Config) :
    config.command = .error (.unparsable config.runner) ↔ split? config.runner.toList = none := by
  unfold Config.command
  cases split? config.runner.toList with
  | none => simp only
  | some words =>
      cases words with
      | nil => simp only [Except.error.injEq, reduceCtorEq]
      | cons word later => simp only [reduceCtorEq]

/--
The command of a template is decided by the grammar: a program and its arguments exactly if the
template spells them in this order, no program exactly if it spells no word, and unparsable exactly
if the grammar does not derive it at all. No template spells two lists of words.
-/
theorem command_grammar (config : Config) :
    (∀ program args, config.command = .ok ⟨program, args⟩ ↔
      Template config.runner.toList (program.toList :: args.map String.toList)) ∧
    (config.command = .error .noProgram ↔ Template config.runner.toList []) ∧
    (config.command = .error (.unparsable config.runner) ↔
      ¬ ∃ words, Template config.runner.toList words) ∧
    ∀ words others, Template config.runner.toList words → Template config.runner.toList others →
      words = others := by
  simp only [← split?_eq_some_iff]
  refine ⟨command_eq_ok_iff config, command_eq_noProgram_iff config, ?_, ?_⟩
  · rw [command_eq_unparsable_iff, Option.eq_none_iff_forall_ne_some, not_exists]
  · intro words others hwords hothers
    exact Option.some.inj (hwords.symm.trans hothers)

end TestHarness
