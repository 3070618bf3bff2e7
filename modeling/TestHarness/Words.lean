/-!
# Splitting a template into words

Words are separated by blanks. A backslash outside quotes takes the next symbol as it is, and takes
a line break away; single quotes keep everything; in double quotes the backslash works only before
the few symbols that keep a meaning there, and stays where it stands before any other. A `#` where a
word could begin hides the rest of its line.

The splitter is a fold of `State.step` over the input followed by `State.finish?`, which fails when
the input ends inside quotes or right after a backslash. It reads symbols of any alphabet through
their marks; `split?` reads characters.
-/

namespace TestHarness.Words

/-- What a symbol means to the splitter. -/
inductive Mark where
  /-- Space or tab. -/
  | blank
  | newline
  | hash
  | single
  | double
  | backslash
  /-- `$` and the backquote: a backslash takes effect before them in double quotes too. -/
  | special
  | plain
  deriving DecidableEq

/-- Where the splitter stands between two symbols. -/
inductive Mode where
  | between
  | comment
  | word
  /-- After a backslash outside quotes. -/
  | escape
  | single
  | double
  /-- After a backslash in double quotes. -/
  | doubleEscape
  deriving DecidableEq

/-- The finished words, the symbols of the current one, and the mode. -/
structure State (α : Type) where
  done : List (List α)
  current : List α
  mode : Mode

namespace State

variable {α : Type}

def start : State α := ⟨[], [], .between⟩

def push (s : State α) (mode : Mode) (symbols : List α) : State α :=
  { s with current := s.current ++ symbols, mode := mode }

def enter (s : State α) (mode : Mode) : State α := s.push mode []

def finishWord (s : State α) : State α := ⟨s.done ++ [s.current], [], .between⟩

/-- A symbol of a word, outside quotes. -/
def bare (s : State α) (mark : Mark) (symbol : α) : State α :=
  match mark with
  | .blank | .newline => s.finishWord
  | .single => s.enter .single
  | .double => s.enter .double
  | .backslash => s.enter .escape
  | .hash | .special | .plain => s.push .word [symbol]

/-- A symbol after a backslash in double quotes; `slash` is that backslash. -/
def inDoubleEscape (s : State α) (slash : α) (mark : Mark) (symbol : α) : State α :=
  match mark with
  | .special | .double | .backslash => s.push .double [symbol]
  | .newline => s.enter .double
  | .blank | .hash | .single | .plain => s.push .double [slash, symbol]

def step (slash : α) (mark : α → Mark) (s : State α) (symbol : α) : State α :=
  match s.mode, mark symbol with
  | .between, .blank | .between, .newline => s
  | .between, .hash => s.enter .comment
  | .between, m => s.bare m symbol
  | .comment, .newline => s.enter .between
  | .comment, _ => s
  | .word, m => s.bare m symbol
  | .escape, .newline => s.enter .word
  | .escape, _ => s.push .word [symbol]
  | .single, .single => s.enter .word
  | .single, _ => s.push .single [symbol]
  | .double, .double => s.enter .word
  | .double, .backslash => s.enter .doubleEscape
  | .double, _ => s.push .double [symbol]
  | .doubleEscape, m => s.inDoubleEscape slash m symbol

/-- The words, unless the input ended inside one. -/
def finish? (s : State α) : Option (List (List α)) :=
  match s.mode with
  | .between | .comment => some s.done
  | .word => some (s.done ++ [s.current])
  | .escape | .single | .double | .doubleEscape => none

end State

/-- Splits symbols of any alphabet; `slash` is the symbol that a kept backslash is written as. -/
def splitBy? {α : Type} (slash : α) (mark : α → Mark) (input : List α) :
    Option (List (List α)) :=
  (input.foldl (State.step slash mark) State.start).finish?

def markOf (c : Char) : Mark :=
  if c = ' ' || c = '\t' then .blank
  else if c = '\n' then .newline
  else if c = '#' then .hash
  else if c = '\x27' then .single
  else if c = '\x22' then .double
  else if c = '\x5c' then .backslash
  else if c = '$' || c = '\x60' then .special
  else .plain

/-- The words of a template, or `none` if it ends inside quotes or after a backslash. -/
def split? (template : List Char) : Option (List (List Char)) :=
  splitBy? '\x5c' markOf template

end TestHarness.Words
