import TestHarness.Machine.Shell.Script
import TestHarness.Machine.System

/-!
# The state of a shell

What a shell process holds, and the ways in which control can leave a command other than by its end.
-/

namespace TestHarness.Machine.Shell

structure State where
  /-- The name under which the script runs. -/
  name : Text
  parameters : List Text
  bindings : List (Text × Text)
  /-- The variables that programs started from here see. -/
  exported : List Text
  functions : List (Text × Command)
  /-- Actions for signals; 0 stands for the end of the shell. -/
  traps : List (Nat × Text)
  status : Nat
  line : Nat
  cwd : Location
  process : Nat
  channels : Channels
  exitOnError : Bool
  needSet : Bool
  noGlob : Bool
  trace : Bool
  /-- The status of the current command is being asked for, so that a failure ends nothing. -/
  tested : Bool

inductive Stop where
  | exit (status : Nat)
  | killed (signal : Nat)
  | leaveLoop (levels : Nat)
  | nextRound (levels : Nat)
  | leaveFunction (status : Nat)

structure Context where
  system : System
  shell : State

/-- The running of a shell: what it did stays done however control leaves. -/
abbrev Eval := ExceptT Stop (StateM Context)

namespace Eval

def shell : Eval State := return (← get).shell

def files : Eval Files := return (← get).system.files

def update (f : State → State) : Eval Unit := modify fun c => { c with shell := f c.shell }

def updateSystem (f : System → System) : Eval Unit := modify fun c => { c with system := f c.system }

def setStatus (status : Nat) : Eval Unit := update fun s => { s with status := status }

def say (text : Text) : Eval Unit := do
  let sink := (← shell).channels.out
  updateSystem fun s => s.write sink text

/-- Writes a complaint under the script's name and line. -/
def complain (message : Text) : Eval Unit := do
  let s ← shell
  updateSystem fun system => system.write s.channels.err
    (s.name ++ [':', ' '] ++ (toString s.line).toList ++ [':', ' '] ++ message ++ ['\n'])

/-- A mistake that ends the shell. -/
def abort {α : Type} (message : Text) : Eval α := do
  complain message
  throw (.exit 2)

def lookup (name : Text) : Eval (Option Text) := return (← shell).bindings.lookup name

def assign (name value : Text) : Eval Unit :=
  update fun s => { s with bindings := (name, value) :: s.bindings.filter (·.1 ≠ name) }

def unset (name : Text) : Eval Unit :=
  update fun s => { s with
    bindings := s.bindings.filter (·.1 ≠ name)
    exported := s.exported.filter (· ≠ name) }

def markExported (name : Text) : Eval Unit :=
  update fun s => if s.exported.contains name then s else { s with exported := name :: s.exported }

/-- Runs a piece with part of the state changed, and takes the change back however it ends. -/
def within {α : Type} (enter : State → State) (restore : State → State → State) (body : Eval α) :
    Eval α := fun c =>
  let (result, after) := body { c with shell := enter c.shell }
  (result, { after with shell := restore c.shell after.shell })

/-- Runs a piece with other channels. -/
def withChannels {α : Type} (channels : Channels) (body : Eval α) : Eval α :=
  within (fun s => { s with channels := channels })
    (fun old s => { s with channels := old.channels }) body

/-- Runs a piece whose status is asked for. -/
def asTest {α : Type} (body : Eval α) : Eval α :=
  within (fun s => { s with tested := true }) (fun old s => { s with tested := old.tested }) body

/--
Runs a piece in a copy of the shell: only the system keeps what it did. The copy ends with an exit
status; a fatal signal, which goes to the shell itself, passes through.
-/
def inCopy (body : Eval Unit) : Eval Unit := fun c =>
  let inside := { c with shell := { c.shell with traps := [] } }
  match body inside with
  | (.ok (), after) =>
      (.ok (), ⟨after.system, { c.shell with status := after.shell.status }⟩)
  | (.error (.killed signal), after) => (.error (.killed signal), ⟨after.system, c.shell⟩)
  | (.error (.exit status), after) | (.error (.leaveFunction status), after) =>
      (.ok (), ⟨after.system, { c.shell with status := status }⟩)
  | (.error _, after) => (.ok (), ⟨after.system, { c.shell with status := after.shell.status }⟩)

/-- What a piece writes to its standard output, run in a copy of the shell. -/
def capture (body : Eval Unit) : Eval Text := do
  let (system, index) := (← get).system.newBuffer []
  modify fun c => { c with system := system }
  let channels := { (← shell).channels with out := .buffer index }
  withChannels channels (inCopy body)
  return (← get).system.buffer index

end Eval

end TestHarness.Machine.Shell
