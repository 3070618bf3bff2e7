import TestHarness.Machine.Refusal
import TestHarness.Machine.Tool

/-!
# The machine's files

Files are kept under their locations, the names on the way from the root; a directory's entries are
the locations one name longer. Looking a path up walks along its segments: every segment but the
last needs a directory before it, links are followed up to a limit, and what the walk arrives at may
be missing only in its last name.
-/

namespace TestHarness.Machine

abbrev Location := List Name

inductive Node where
  | directory
  | file (mode : Nat) (content : List UInt8)
  | link (target : List UInt8)
  | fifo
  | device
  | tool (tool : Tool)
  deriving DecidableEq

def Node.isDirectory : Node → Bool
  | .directory => true
  | _ => false

def Node.isRegular : Node → Bool
  | .file _ _ | .tool _ => true
  | _ => false

/-- In the order in which they were made. -/
structure Files where
  nodes : List (Location × Node)

/-- Where a walk arrives. -/
inductive Place where
  | present (location : Location) (node : Node)
  | missing (location : Location)

namespace Files

def node? (files : Files) : Location → Option Node
  | [] => some .directory
  | location => files.nodes.lookup location

/-- The names in a directory. -/
def names (files : Files) (dir : Location) : List Name :=
  files.nodes.filterMap fun (location, _) =>
    if location.dropLast = dir then location.getLast? else none

/-- Puts a node at a location, in the place of what is there. -/
def put (files : Files) (location : Location) (node : Node) : Files :=
  if (files.nodes.lookup location).isSome then
    ⟨files.nodes.map fun (other, old) => (other, if other = location then node else old)⟩
  else ⟨files.nodes ++ [(location, node)]⟩

/-- Takes away a location and all that is below it. -/
def erase (files : Files) (location : Location) : Files :=
  ⟨files.nodes.filter fun (other, _) => !location.isPrefixOf other⟩

/-- Moves a location and all that is below it. -/
def move (files : Files) (source target : Location) : Files :=
  let cleared := if source = target then files else files.erase target
  ⟨cleared.nodes.map fun (other, node) =>
    (if source.isPrefixOf other then target ++ other.drop source.length else other, node)⟩

/-! ## Walking along a path -/

/-- The longest name of an entry. -/
def nameLimit : Nat := 255

/-- The longest path. -/
def pathLimit : Nat := 4095

/-- How many links one walk follows. -/
def linkLimit : Nat := 40

/-- Whether nothing but separators and `.` is left of a path. -/
def isSpent (segments : List Name) : Bool := segments.all fun s => s = [] || s = Path.dot

/--
Walks from a location along segments with a number of links left to follow. A link in the last place
is followed only on request.
-/
def walk (files : Files) (follow : Bool) (links : Nat) (here : Location) (segments : List Name) :
    Except Refusal Place :=
  match segments with
  | [] =>
      match files.node? here with
      | some node => .ok (.present here node)
      | none => .error .noEntry
  | segment :: later =>
      if !((files.node? here).any Node.isDirectory) then .error .notDirectory
      else if segment = [] || segment = Path.dot then files.walk follow links here later
      else if segment = Path.dots then files.walk follow links here.dropLast later
      else if nameLimit < segment.length then .error .nameTooLong
      else
        match files.node? (here ++ [segment]) with
        | none => if isSpent later then .ok (.missing (here ++ [segment])) else .error .noEntry
        | some (.link target) =>
            if later = [] && !follow then .ok (.present (here ++ [segment]) (.link target))
            else if target = [] then .error .noEntry
            else
              match links with
              | 0 => .error .linkLoop
              | links + 1 =>
                  let start := if target.head? = some Path.separator then [] else here
                  files.walk follow links start (Path.segments target ++ later)
        | some _ => files.walk follow links (here ++ [segment]) later
termination_by (links, segments.length)

/-- Where a path leads from a working directory. -/
def locate (files : Files) (cwd : Location) (follow : Bool) (path : List UInt8) :
    Except Refusal Place :=
  if path = [] then .error .noEntry
  else if pathLimit < path.length then .error .nameTooLong
  else
    let start := if path.head? = some Path.separator then [] else cwd
    files.walk follow linkLimit start (Path.segments path)

/-- What a path leads to, links followed. -/
def find (files : Files) (cwd : Location) (path : List UInt8) : Except Refusal (Location × Node) := do
  match ← files.locate cwd true path with
  | .present location node => .ok (location, node)
  | .missing _ => .error .noEntry

/-- What a path leads to, a link in the last place not followed. -/
def findLink (files : Files) (cwd : Location) (path : List UInt8) :
    Except Refusal (Location × Node) := do
  match ← files.locate cwd false path with
  | .present location node => .ok (location, node)
  | .missing _ => .error .noEntry

/-! ## Operations on paths -/

/-- The names in the directory that a path leads to. -/
def list (files : Files) (cwd : Location) (path : List UInt8) : Except Refusal (List Name) := do
  let (location, node) ← files.find cwd path
  if node.isDirectory then .ok (files.names location) else .error .notDirectory

/-- The content of the file that a path leads to; a device is empty. -/
def read (files : Files) (cwd : Location) (path : List UInt8) : Except Refusal (List UInt8) := do
  match ← files.find cwd path with
  | (_, .file _ content) => .ok content
  | (_, .directory) => .error .isDirectory
  | _ => .ok []

/-- Opens the file at a path for writing; gives its location, or `none` for a device. -/
def openFile (files : Files) (cwd : Location) (keep : Bool) (path : List UInt8) :
    Except Refusal (Files × Option Location) := do
  match ← files.locate cwd true path with
  | .missing location => .ok (files.put location (.file 0o644 []), some location)
  | .present location (.file mode content) =>
      .ok (files.put location (.file mode (if keep then content else [])), some location)
  | .present _ .directory => .error .isDirectory
  | .present _ _ => .ok (files, none)

/-- Adds octets to the end of a file. -/
def append (files : Files) (location : Location) (octets : List UInt8) : Files :=
  match files.node? location with
  | some (.file mode content) => files.put location (.file mode (content ++ octets))
  | _ => files

/-- Makes a node where nothing is. -/
def make (files : Files) (cwd : Location) (path : List UInt8) (node : Node) :
    Except Refusal Files := do
  match ← files.locate cwd false path with
  | .missing location => .ok (files.put location node)
  | .present _ _ => .error .taken

/-- Makes a directory and those that are missing above it. -/
def makeAll (files : Files) (cwd : Location) (path : List UInt8) : Except Refusal Files := do
  let segments := Path.segments path
  let starts := (List.range segments.length).map fun n =>
    List.intercalate [Path.separator] (segments.take (n + 1))
  (starts.filter (· ≠ [])).foldlM
    (fun files start => do
      match ← files.locate cwd true start with
      | .missing location => .ok (files.put location .directory)
      | .present _ node => if node.isDirectory then .ok files else .error .notDirectory)
    files

/-- Takes away what a path names, never what a link in the last place leads to. -/
def remove (files : Files) (cwd : Location) (path : List UInt8) : Except Refusal Files := do
  let (location, _) ← files.findLink cwd path
  .ok (files.erase location)

/-- Gives a file another name; a directory as the target takes it in only on request. -/
def rename (files : Files) (cwd : Location) (source target : List UInt8) : Except Refusal Files := do
  let (origin, node) ← files.findLink cwd source
  match ← files.locate cwd false target with
  | .missing goal => .ok (files.move origin goal)
  | .present goal old =>
      if old.isDirectory && !node.isDirectory then .error .isDirectory
      else if node.isDirectory && !old.isDirectory then .error .notDirectory
      else if old.isDirectory && !(files.names goal).isEmpty && origin ≠ goal then .error .notEmpty
      else .ok (files.move origin goal)

end Files

end TestHarness.Machine
