/-!
# Octets as text

A sequence of octets is divided from left to right into pieces. A piece is a character, spelled by
a well-formed UTF-8 sequence, or a run of broken octets: the longest start of a well-formed sequence
that the next octet, or the end of the text, cuts off, or else one octet that starts no sequence.

`pieces` is the division and `lossy` the text with one replacement character for each broken run.
The division is made by a cursor that looks at one octet at a time and never goes back.
-/

namespace TestHarness.Utf8

/-- The octets `lo`, …, `hi`. -/
structure Span where
  lo : UInt8
  hi : UInt8
  deriving DecidableEq

def Span.contains (span : Span) (octet : UInt8) : Bool :=
  span.lo ≤ octet && octet ≤ span.hi

/-- The octets that continue a sequence where its first octet sets no narrower bound. -/
def tail : Span := ⟨0x80, 0xBF⟩

/--
What must follow a first octet; `none` if it starts no character. The narrowed second octets keep
out overlong spellings, surrogates and values above the last code point.
-/
def owed? (octet : UInt8) : Option (List Span) :=
  if octet < 0x80 then some []
  else if octet < 0xC2 then none
  else if octet < 0xE0 then some [tail]
  else if octet = 0xE0 then some [⟨0xA0, 0xBF⟩, tail]
  else if octet = 0xED then some [⟨0x80, 0x9F⟩, tail]
  else if octet < 0xF0 then some [tail, tail]
  else if octet = 0xF0 then some [⟨0x90, 0xBF⟩, tail, tail]
  else if octet < 0xF4 then some [tail, tail, tail]
  else if octet = 0xF4 then some [⟨0x80, 0x8F⟩, tail, tail]
  else none

/-- The character that a complete sequence spells. -/
def scalar : List UInt8 → Char
  | [a] => Char.ofNat a.toNat
  | [a, b] => Char.ofNat (a.toNat % 32 * 64 + b.toNat % 64)
  | [a, b, c] => Char.ofNat ((a.toNat % 16 * 64 + b.toNat % 64) * 64 + c.toNat % 64)
  | [a, b, c, d] =>
      Char.ofNat (((a.toNat % 8 * 64 + b.toNat % 64) * 64 + c.toNat % 64) * 64 + d.toNat % 64)
  | _ => Char.ofNat 0xFFFD

inductive Piece where
  | char (c : Char)
  | broken (octets : List UInt8)
  deriving DecidableEq

/-- The octets read of an unfinished character, and what it still owes. -/
structure Cursor where
  read : List UInt8
  owed : List Span
  deriving DecidableEq

namespace Cursor

/-- Between two pieces. -/
def idle : Cursor := ⟨[], []⟩

/-- Reads an octet between two pieces. -/
def first (octet : UInt8) : List Piece × Cursor :=
  match owed? octet with
  | none => ([.broken [octet]], idle)
  | some [] => ([.char (scalar [octet])], idle)
  | some (span :: owed) => ([], ⟨[octet], span :: owed⟩)

/-- Reads an octet; one that does not continue the unfinished character starts the next piece. -/
def step (cursor : Cursor) (octet : UInt8) : List Piece × Cursor :=
  match cursor.owed with
  | [] => first octet
  | span :: owed =>
      if span.contains octet then
        match owed with
        | [] => ([.char (scalar (cursor.read ++ [octet]))], idle)
        | next :: later => ([], ⟨cursor.read ++ [octet], next :: later⟩)
      else
        let (found, fresh) := first octet
        (.broken cursor.read :: found, fresh)

/-- What the end of the text leaves broken. -/
def close (cursor : Cursor) : List Piece :=
  if cursor.owed.isEmpty then [] else [.broken cursor.read]

/-- The pieces found from here to the end of the text. -/
def scan : Cursor → List UInt8 → List Piece
  | cursor, [] => cursor.close
  | cursor, octet :: rest =>
      let (found, next) := cursor.step octet
      found ++ scan next rest

end Cursor

def pieces (octets : List UInt8) : List Piece := Cursor.idle.scan octets

/-- A broken run is shown as one replacement character. -/
def Piece.shown : Piece → Char
  | .char c => c
  | .broken _ => Char.ofNat 0xFFFD

def lossy (octets : List UInt8) : List Char := (pieces octets).map Piece.shown

def encode (text : List Char) : List UInt8 := text.flatMap String.utf8EncodeChar

/-- The text that the octets spell, if none of them is broken. -/
def decode? (octets : List UInt8) : Option (List Char) :=
  (pieces octets).mapM fun
    | .char c => some c
    | .broken _ => none

end TestHarness.Utf8
