import TestHarness.Text.Utf8

/-!
# Octets as characters

Programs of the machine treat text octet by octet. Such a text is held as characters below 256, one
for each octet, so that it can be written and matched with character literals.
-/

namespace TestHarness

/-- A text whose characters stand for octets. -/
abbrev Text := List Char

namespace Octet

def text (octets : List UInt8) : Text := octets.map fun o => Char.ofNat o.toNat

def octets (text : Text) : List UInt8 := text.map fun c => UInt8.ofNat c.toNat

/-- The octets of a string, as a text. -/
def ofString (s : String) : Text := text (Utf8.encode s.toList)

/-- Whether a text does not come after another, octet by octet. -/
def inOrder (a b : Text) : Bool := !List.lex b a fun c d => c.toNat < d.toNat

/-- The lines of a text; a line end at the end of the text starts no further line. -/
def lines : List Char → List (List Char)
  | [] => []
  | c :: rest =>
      if c = '\n' then [] :: lines rest
      else
        match lines rest with
        | [] => [[c]]
        | line :: later => (c :: line) :: later

end Octet

end TestHarness
