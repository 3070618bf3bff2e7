import TestHarness.Config
import TestHarness.Tally

/-!
# The world outside

A world is seen through three requests: the names in a directory, the kind of file that a path leads
to, and running a program on a file. Only the last may change it. A request whose words hold a zero
octet is answered without asking.

A directory is opened first and then read entry by entry, and either can fail. The first entry that
cannot be read ends the listing, with an error of its own.
-/

namespace TestHarness

/-- A program with its arguments and the file to run it on. -/
structure Invocation where
  program : String
  args : List String
  file : Path
  deriving DecidableEq

def Command.on (command : Command) (file : Path) : Invocation :=
  ⟨command.program, command.args, file⟩

/-- The words handed over, program first and file last. -/
def Invocation.words (call : Invocation) : List (List UInt8) :=
  (call.program :: call.args).map (fun word => Utf8.encode word.toList) ++ [call.file.octets]

/-- What a child leaves: how it ended and what it wrote. -/
structure Child where
  ending : Ending
  out : List UInt8
  err : List UInt8
  deriving DecidableEq

inductive FileKind where
  | regular
  | directory
  | special
  deriving DecidableEq

structure World (σ : Type) where
  /-- Opens a directory, and then reads one entry after another. -/
  names : σ → Path → Except Fault (List (Except Fault Name))
  /-- What stands at the end of all links. -/
  stat : σ → Path → Except Fault FileKind
  spawn : σ → Invocation → Child × σ

namespace World

/-- The path of an entry, if it could be read. -/
def entryOf (dir : Path) : Except Fault Name → Except PassError Path
  | .ok name => .ok (dir.entry name)
  | .error fault => .error (.unreadEntry dir fault)

variable {σ : Type} (world : World σ)

/-- The paths of a directory's entries, in the order in which the world gives the names. -/
def entries (state : σ) (dir : Path) : Except PassError (List Path) :=
  if dir.hasNul then .error (.unreadable dir .nulInPath)
  else match world.names state dir with
    | .error fault => .error (.unreadable dir fault)
    | .ok found => found.mapM (entryOf dir)

def metadata (state : σ) (path : Path) : Except Fault FileKind :=
  if path.hasNul then .error .nulInPath else world.stat state path

/-- A path that cannot be looked up is not a file. -/
def classify (state : σ) (path : Path) : Entry :=
  ⟨path, match world.metadata state path with
    | .ok kind => kind == .regular
    | .error _ => false⟩

theorem classify_isFile_iff (state : σ) (path : Path) :
    (world.classify state path).isFile = true ↔ world.metadata state path = .ok .regular := by
  unfold classify
  cases world.metadata state path with
  | error fault => simp
  | ok kind => simp

/-- Runs a program to its end. -/
def run (state : σ) (call : Invocation) : Child × σ :=
  if call.words.any (·.contains 0) then (⟨.refused .nulInCommand, [], []⟩, state)
  else world.spawn state call

end World

end TestHarness
