import TestHarness.Machine.Pattern

/-!
# Basic regular expressions

Characters, `.`, bracket expressions, `*` after any of them, and the two anchors.
-/

namespace TestHarness.Machine

open Pattern (Item)

/-- One character's worth of an expression, and whether it may repeat. -/
structure Regex.Atom where
  item : Item
  repeats : Bool

structure Regex where
  atStart : Bool
  atEnd : Bool
  atoms : List Regex.Atom

namespace Regex

/-- An expression for a text that stands for itself. -/
def ofText (text : Text) : Regex := ⟨false, false, text.map fun c => ⟨.char c, false⟩⟩

/-- One item of an expression, and what follows it. -/
def item : Text → Item × Text
  | [] => (.any, [])
  | '.' :: rest => (.any, rest)
  | '\x5c' :: c :: rest => (.char c, rest)
  | '[' :: rest =>
      let (negated, inner) := match rest with
        | '^' :: inner => (true, inner)
        | inner => (false, inner)
      match Pattern.ranges? true (inner.map fun c => (c, false)) with
      | some (ranges, later) => (.oneOf negated ranges, later.map Prod.fst)
      | none => (.char '[', rest)
  | c :: rest => (.char c, rest)

/-- The atoms of an expression, with a bound on its length, and whether it ends in an anchor. -/
def compile : Nat → Text → List Atom × Bool
  | 0, _ | _, [] => ([], false)
  | _, ['$'] => ([], true)
  | fuel + 1, text =>
      let (found, rest) := item text
      match rest with
      | '*' :: rest =>
          let (atoms, atEnd) := compile fuel rest
          (⟨found, true⟩ :: atoms, atEnd)
      | rest =>
          let (atoms, atEnd) := compile fuel rest
          (⟨found, false⟩ :: atoms, atEnd)

def ofSource (source : Text) : Regex :=
  let (atStart, body) := match source with
    | '^' :: body => (true, body)
    | body => (false, body)
  let (atoms, atEnd) := compile (body.length + 1) body
  ⟨atStart, atEnd, atoms⟩

/-- Whether atoms take a start of a text, or all of it. -/
def startsWith (whole : Bool) : List Atom → Text → Bool
  | [], text => !whole || text.isEmpty
  | atom :: atoms, text =>
      if atom.repeats then
        startsWith whole atoms text ||
          match text with
          | [] => false
          | c :: rest => atom.item.takes c && startsWith whole (atom :: atoms) rest
      else
        match text with
        | [] => false
        | c :: rest => atom.item.takes c && startsWith whole atoms rest
termination_by atoms text => atoms.length + text.length

/-- Whether an expression occurs in a line. -/
def occurs (regex : Regex) (line : Text) : Bool :=
  if regex.atStart then startsWith regex.atEnd regex.atoms line
  else (List.range (line.length + 1)).any fun n => startsWith regex.atEnd regex.atoms (line.drop n)

end Regex

end TestHarness.Machine
