import TestHarness.Text.Octet

/-!
# Patterns

A pattern is a row of items, each of which takes one character or, for `many`, any number of them.
Quoted characters of a pattern stand for themselves.
-/

namespace TestHarness.Machine.Pattern

inductive Item where
  | char (c : Char)
  | any
  | many
  /-- One character in (or, negated, outside) some ranges. -/
  | oneOf (negated : Bool) (ranges : List (Char × Char))
  deriving DecidableEq

/-- A character of a pattern's source, and whether it was quoted. -/
abbrev Source := List (Char × Bool)

/-- The ranges up to the closing bracket, which is not the first character, and what follows it. -/
def ranges? : Bool → Source → Option (List (Char × Char) × Source)
  | _, [] => none
  | first, (a, quoted) :: ('-', false) :: (b, last) :: later =>
      if a = ']' && !quoted && !first then some ([], ('-', false) :: (b, last) :: later)
      else if b = ']' && !last then
        (ranges? false (('-', false) :: (b, last) :: later)).map fun (rs, r) => ((a, a) :: rs, r)
      else (ranges? false later).map fun (rs, r) => ((a, b) :: rs, r)
  | first, (a, quoted) :: rest =>
      if a = ']' && !quoted && !first then some ([], rest)
      else (ranges? false rest).map fun (rs, r) => ((a, a) :: rs, r)

/-- The items that a source spells, with a bound on the number of brackets. -/
def compile (fuel : Nat) (source : Source) : List Item :=
  match fuel, source with
  | 0, _ | _, [] => []
  | fuel + 1, (c, quoted) :: rest =>
      if quoted then .char c :: compile fuel rest
      else if c = '*' then .many :: compile fuel rest
      else if c = '?' then .any :: compile fuel rest
      else if c = '[' then
        let (negated, inner) := match rest with
          | ('!', false) :: inner => (true, inner)
          | inner => (false, inner)
        match ranges? true inner with
        | some (ranges, later) => .oneOf negated ranges :: compile fuel later
        | none => .char c :: compile fuel rest
      else .char c :: compile fuel rest

def ofSource (source : Source) : List Item := compile (source.length + 1) source

/-- Whether an item other than `many` takes a character. -/
def Item.takes : Item → Char → Bool
  | .char a, c => a == c
  | .any, _ => true
  | .many, _ => false
  | .oneOf negated ranges, c => ranges.any (fun (lo, hi) => lo ≤ c && c ≤ hi) != negated

/-- Whether a pattern takes the whole of a text. -/
def accepts : List Item → Text → Bool
  | [], text => text.isEmpty
  | .many :: items, text =>
      accepts items text ||
        match text with
        | [] => false
        | _ :: rest => accepts (.many :: items) rest
  | _ :: _, [] => false
  | item :: items, c :: rest => item.takes c && accepts items rest
termination_by items text => items.length + text.length

/-- Whether a pattern is more than a plain text. -/
def isSpecial (items : List Item) : Bool :=
  items.any fun
    | .char _ => false
    | _ => true

/-- The plain text of a pattern that has nothing special. -/
def plainText (items : List Item) : Text :=
  items.filterMap fun
    | .char c => some c
    | _ => none

/-! ## Taking a match away -/

/-- The lengths from the shortest to the longest. -/
def lengths (text : Text) : List Nat := List.range (text.length + 1)

/-- Takes the shortest or longest matching start away. -/
def trimStart (longest : Bool) (items : List Item) (text : Text) : Text :=
  let order := if longest then (lengths text).reverse else lengths text
  match order.find? fun n => accepts items (text.take n) with
  | some n => text.drop n
  | none => text

/-- Takes the shortest or longest matching end away. -/
def trimEnd (longest : Bool) (items : List Item) (text : Text) : Text :=
  let order := if longest then lengths text else (lengths text).reverse
  match order.find? fun n => accepts items (text.drop n) with
  | some n => text.take n
  | none => text

end TestHarness.Machine.Pattern
