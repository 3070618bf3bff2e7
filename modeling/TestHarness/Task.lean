import TestHarness.World

/-!
# Tasks and what they leave behind

A task makes requests of a world and writes to the two streams. Running it in a state gives a value,
the state it leaves and a list of events. The events come from the requests themselves, so a task
can ask for nothing that does not stand among them; the octets on each stream are read off them.
-/

namespace TestHarness

inductive Stream where
  | out
  | err
  deriving DecidableEq

inductive Event where
  | listed (dir : Path)
  | examined (path : Path)
  /-- A program is being started: from here on its child may be alive. -/
  | started (call : Invocation)
  /-- The wait for the child is over, or its start was refused. -/
  | ended (call : Invocation) (child : Child)
  | wrote (stream : Stream) (text : String)
  deriving DecidableEq

/-- The octets that an event puts on a stream, those of children included. -/
def Event.octets (stream : Stream) : Event → List UInt8
  | .listed _ | .examined _ | .started _ => []
  | .ended _ child =>
      match stream with
      | .out => child.out
      | .err => child.err
  | .wrote target text => if target = stream then Utf8.encode text.toList else []

/-- All that stands on a stream after the events. -/
def transcript (stream : Stream) (events : List Event) : List UInt8 :=
  events.flatMap (Event.octets stream)

/-- What a task comes to: its value, its events and the state it leaves. -/
structure Run (σ α : Type) where
  value : α
  events : List Event
  state : σ

def Task (σ α : Type) : Type := σ → Run σ α

namespace Task

variable {σ α β : Type}

def done (value : α) : Task σ α := fun state => ⟨value, [], state⟩

/-- One task and then another, which starts in the state that the first one leaves. -/
def andThen (task : Task σ α) (next : α → Task σ β) : Task σ β := fun state =>
  let first := task state
  let second := next first.value first.state
  ⟨second.value, first.events ++ second.events, second.state⟩

instance : Monad (Task σ) where
  pure := done
  bind := andThen

@[simp]
theorem pure_apply (value : α) (state : σ) :
    (pure value : Task σ α) state = ⟨value, [], state⟩ := rfl

theorem bind_apply (task : Task σ α) (next : α → Task σ β) (state : σ) :
    (task >>= next) state =
      ⟨(next (task state).value (task state).state).value,
        (task state).events ++ (next (task state).value (task state).state).events,
        (next (task state).value (task state).state).state⟩ := rfl

theorem ite_apply (condition : Prop) [Decidable condition] (yes no : Task σ α) (state : σ) :
    (if condition then yes else no) state = if condition then yes state else no state := by
  split <;> rfl

def write (stream : Stream) (text : String) : Task σ Unit :=
  fun state => ⟨(), [.wrote stream text], state⟩

end Task

/-! ## Requests as tasks -/

namespace World

variable {σ : Type} (world : World σ)

def list (dir : Path) : Task σ (Except PassError (List Path)) :=
  fun state => ⟨world.entries state dir, [.listed dir], state⟩

def examine (path : Path) : Task σ Entry :=
  fun state => ⟨world.classify state path, [.examined path], state⟩

/-- Starts a program on a file and waits for its child. -/
def perform (call : Invocation) : Task σ Child := fun state =>
  let (child, after) := world.run state call
  ⟨child, [.started call, .ended call child], after⟩

theorem list_apply (dir : Path) (state : σ) :
    world.list dir state = ⟨world.entries state dir, [.listed dir], state⟩ := rfl

theorem examine_apply (path : Path) (state : σ) :
    world.examine path state = ⟨world.classify state path, [.examined path], state⟩ := rfl

theorem perform_apply (call : Invocation) (state : σ) :
    world.perform call state =
      ⟨(world.run state call).1, [.started call, .ended call (world.run state call).1],
        (world.run state call).2⟩ := rfl

end World

end TestHarness
