import TestHarness.Text.Octet

/-!
# Scripts

The form of a shell script: words, made of parts that are quoted or not, and commands. The text of a
command substitution is kept as it stands and read when it is run.
-/

namespace TestHarness.Machine.Shell

inductive Modifier where
  | plain
  | length
  /-- The next four apply to a missing parameter, or with a colon to an empty one as well. -/
  | fallback (colon : Bool)
  | assign (colon : Bool)
  | require (colon : Bool)
  | alternative (colon : Bool)
  | trimStart (longest : Bool)
  | trimEnd (longest : Bool)
  deriving DecidableEq

inductive Part where
  | text (c : Char)
  | quoted (text : Text)
  | parameter (quoted : Bool) (name : Text) (modifier : Modifier) (argument : List Part)
  | command (quoted : Bool) (source : Text)
  | arithmetic (quoted : Bool) (body : List Part)

abbrev Word := List Part

inductive Redirect where
  | input
  | output
  | append
  | duplicate
  deriving DecidableEq

structure Redirection where
  descriptor : Nat
  action : Redirect
  target : Word

inductive Command where
  | simple (line : Nat) (assignments : List (Text × Word)) (words : List Word)
      (redirections : List Redirection)
  | pipeline (negated : Bool) (stages : List Command)
  | both (first second : Command)
  | either (first second : Command)
  | sequence (commands : List Command)
  | background (body : Command)
  | choice (condition body : Command) (otherwise : Option Command)
  | loop (untilTrue : Bool) (condition body : Command)
  | each (name : Text) (items : Option (List Word)) (body : Command)
  | switch (subject : Word) (arms : List (List Word × Command))
  | subshell (body : Command)
  | redirected (body : Command) (redirections : List Redirection)
  | define (name : Text) (body : Command)

end TestHarness.Machine.Shell
