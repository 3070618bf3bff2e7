import TestHarness.Text.Utf8

/-!
# Paths

A path is a sequence of octets and keeps its spelling: `=` compares spellings. `==` compares
components, so that repeated and trailing separators and inner `.` segments make no difference,
while a leading `.`, every `..` and the case of letters do.
-/

namespace TestHarness

/-- The name of an entry in a directory. -/
abbrev Name := List UInt8

structure Path where
  octets : List UInt8
  deriving DecidableEq, Inhabited

namespace Path

def separator : UInt8 := 0x2F

/-- The segment `.`. -/
def dot : Name := [0x2E]

/-- The segment `..`. -/
def dots : Name := [0x2E, 0x2E]

def ofText (text : List Char) : Path := ⟨Utf8.encode text⟩

def ofString (text : String) : Path := ofText text.toList

inductive Component where
  | root
  | current
  | parent
  | name (octets : Name)
  deriving DecidableEq

/-- The stretches between separators, empty ones included. -/
def segments : List UInt8 → List Name
  | [] => [[]]
  | octet :: rest =>
      if octet = separator then [] :: segments rest
      else
        match segments rest with
        | [] => [[octet]]
        | segment :: later => (octet :: segment) :: later

/-- A segment after the start of a path: empty segments and `.` count for nothing. -/
def inner? (segment : Name) : Option Component :=
  if segment = [] || segment = dot then none
  else if segment = dots then some .parent
  else some (.name segment)

def isAbsolute (path : Path) : Bool := path.octets.head? == some separator

/-- Only at the start of a relative path is `.` a component. -/
def components (path : Path) : List Component :=
  if path.isAbsolute then .root :: (segments path.octets).filterMap inner?
  else
    match segments path.octets with
    | [] => []
    | first :: later =>
        (if first = dot then some Component.current else inner? first).toList ++
          later.filterMap inner?

instance : BEq Path := ⟨fun p q => p.components == q.components⟩

/-- The path of the entry `name` of a directory: one separator unless the directory needs none. -/
def entry (dir : Path) (name : Name) : Path :=
  if dir.octets = [] || dir.octets.getLast? = some separator then ⟨dir.octets ++ name⟩
  else ⟨dir.octets ++ separator :: name⟩

/-- The text of a path in a message. -/
def display (path : Path) : String := String.ofList (Utf8.lossy path.octets)

def hasNul (path : Path) : Bool := path.octets.contains 0

end Path

end TestHarness
