import TestHarness.Machine.Shell.Evaluation
import TestHarness.World

/-!
# A machine to run passes on

A machine is a set of files, a working directory and an environment, all held as values. It answers
the three requests of a pass, so that a pass can be run and its outcome looked at without touching
anything outside; `Edit` changes its files from outside.
-/

namespace TestHarness

structure Machine where
  files : Machine.Files
  cwd : Machine.Location
  environment : Machine.Environment

namespace Machine

/-- The location that an absolute path spells. -/
def locationOf (path : String) : Location :=
  (Path.segments (Path.ofString path).octets).filter (· ≠ [])

/-- The directories with programs. -/
def programDirs : List String := ["/usr/bin", "/bin"]

/-- A machine with its tools, the null device and an empty working directory. -/
def fresh (home : String) : Machine :=
  let dirs := (["/usr", "/dev", "/tmp"] ++ programDirs ++ [home]).map locationOf
  let tools := programDirs.flatMap fun dir => Tool.all.map fun tool =>
    (locationOf dir ++ [Utf8.encode tool.name.toList], Node.tool tool)
  let nodes := dirs.map (·, Node.directory) ++ tools ++ [(locationOf "/dev/null", .device)]
  ⟨⟨nodes⟩, locationOf home, []⟩

/-- Gives a variable of the environment a value. -/
def setVariable (machine : Machine) (name value : String) : Machine :=
  let key := Octet.ofString name
  { machine with
    environment := (key, Octet.ofString value) :: machine.environment.filter (·.1 ≠ key) }

/-- Goes to another directory. -/
def enter (machine : Machine) (dir : Path) : Except Refusal Machine := do
  match ← machine.files.find machine.cwd dir.octets with
  | (location, .directory) => .ok { machine with cwd := location }
  | _ => .error .notDirectory

/-! ## Changes from outside -/

inductive Edit where
  | write (path : Path) (content : List UInt8) (mode : Nat)
  | makeDirectory (path : Path)
  | link (path : Path) (target : List UInt8)
  | fifo (path : Path)
  | remove (path : Path)
  | rename (path target : Path)

def Edit.apply (edit : Edit) (files : Files) (cwd : Location) : Except Refusal Files :=
  match edit with
  | .write path content mode => do
      let (opened, location?) ← files.openFile cwd false path.octets
      return match location? with
        | some location => opened.put location (.file mode content)
        | none => opened
  | .makeDirectory path => files.makeAll cwd path.octets
  | .link path target => files.make cwd path.octets (.link target)
  | .fifo path => files.make cwd path.octets .fifo
  | .remove path => files.remove cwd path.octets
  | .rename path target => files.rename cwd path.octets target.octets

/-- Changes the files; relative paths start at the working directory. -/
def edit (machine : Machine) (change : Edit) : Except Refusal Machine := do
  return { machine with files := ← change.apply machine.files machine.cwd }

/-- The content of a file. -/
def read? (machine : Machine) (path : Path) : Option (List UInt8) :=
  (machine.files.read machine.cwd path.octets).toOption

/-! ## Requests -/

def Exit.status : Exit → WaitStatus
  | .code n => .exited (UInt8.ofNat n)
  | .signal n => .signaled n

def Node.kind (node : Node) : FileKind :=
  if node.isRegular then .regular else if node.isDirectory then .directory else .special

/-- Starts a program and waits for its end. -/
def spawn (machine : Machine) (call : Invocation) : Child × Machine :=
  let words := call.words.map Octet.text
  let search := (machine.environment.get? "PATH").getD []
  match Program.launch machine.files machine.cwd search words with
  | .error refusal => (⟨.refused refusal.fault, [], []⟩, machine)
  | .ok image =>
      let system : System := ⟨machine.files, #[[], [], []], 1⟩
      let channels : Channels := ⟨0, .buffer 1, .buffer 2⟩
      let (exit, after) := (Shell.process image
        ⟨image.words, machine.cwd, machine.environment, channels⟩).run system
      (⟨.ended exit.status, Octet.octets (after.buffer 1), Octet.octets (after.buffer 2)⟩,
        { machine with files := after.files })

def world : World Machine where
  names machine dir :=
    ((machine.files.list machine.cwd dir.octets).map (·.map .ok)).mapError Refusal.fault
  stat machine path :=
    ((machine.files.find machine.cwd path.octets).map fun (_, node) => node.kind).mapError Refusal.fault
  spawn := spawn

end Machine

end TestHarness
