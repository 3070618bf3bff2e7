import TestHarness.Machine.Files
import TestHarness.Text.Octet

/-!
# What processes share

Processes share the files and a row of buffers. A buffer holds what was written to a captured stream
or passed through a pipe, and what is still to be read from an input. A process has one input and
two sinks.
-/

namespace TestHarness.Machine

inductive Sink where
  | buffer (index : Nat)
  | file (location : Location)
  | nowhere
  deriving DecidableEq

structure Channels where
  input : Nat
  out : Sink
  err : Sink

structure System where
  files : Files
  buffers : Array Text
  /-- How many processes there have been. -/
  processes : Nat

namespace System

def buffer (system : System) (index : Nat) : Text := system.buffers.getD index []

/-- A new buffer with some content, and its index. -/
def newBuffer (system : System) (content : Text) : System × Nat :=
  ({ system with buffers := system.buffers.push content }, system.buffers.size)

def setBuffer (system : System) (index : Nat) (content : Text) : System :=
  { system with buffers := system.buffers.setIfInBounds index content }

def write (system : System) (sink : Sink) (text : Text) : System :=
  match sink with
  | .buffer index => system.setBuffer index (system.buffer index ++ text)
  | .file location => { system with files := system.files.append location (Octet.octets text) }
  | .nowhere => system

end System

abbrev Environment := List (Text × Text)

def Environment.get? (environment : Environment) (name : String) : Option Text :=
  environment.lookup (Octet.ofString name)

/-- How a program is started: its words, where, with which variables and channels. -/
structure Call where
  words : List Text
  cwd : Location
  environment : Environment
  channels : Channels

/-- The words after the program's name. -/
def Call.args (call : Call) : List Text := call.words.tail

/-- A location as an absolute path. -/
def Location.path (location : Location) : Text :=
  match location with
  | [] => ['/']
  | _ => location.flatMap fun name => '/' :: Octet.text name

end TestHarness.Machine
