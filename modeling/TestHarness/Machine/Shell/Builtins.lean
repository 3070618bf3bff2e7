import TestHarness.Machine.Shell.CommandReader
import TestHarness.Machine.Shell.Expansion
import TestHarness.Machine.Signal
import TestHarness.Machine.Tools

/-!
# Commands that the shell itself carries out

Each of them takes its words and gives a status. Those that read scripts are handed the means to run
one.
-/

namespace TestHarness.Machine.Shell

namespace Builtin

/-- Complains in the name of a command. -/
def object (name : String) (message : Text) : Eval Unit :=
  Eval.complain (name.toList ++ [':', ' '] ++ message)

/-- Work of a tool done by the shell, in its own directory and with its own channels. -/
def byTool (work : Tools.Work Nat) (words : List Text) : Eval Nat := do
  let c ← get
  let call : Call := ⟨words, c.shell.cwd, [], c.shell.channels⟩
  let (status, system) := (work.run call).run c.system
  set { c with system := system }
  return status

/-- A whole number that a word must be. -/
def wholeNumber (name : String) (word : Text) : Eval Nat := do
  let (n, ok) := Format.number word
  if ok && 0 ≤ n then return n.toNat
  else Eval.abort (name.toList ++ ": Illegal number: ".toList ++ word)

/-- The first word as a number, or what is usual. -/
def count (name : String) (words : List Text) (usual : Nat) : Eval Nat :=
  match words with
  | [] => return usual
  | word :: _ => wholeNumber name word

def condition (name : String) (words : List Text) : Eval Nat := do
  match Condition.holds ⟨← Eval.files, (← Eval.shell).cwd⟩ words with
  | .ok true => return 0
  | .ok false => return 1
  | .error message =>
      object name (Octet.ofString message)
      return 2

def bracket (words : List Text) : Eval Nat := do
  if words.getLast? = some [']'] then condition "[" words.dropLast
  else
    object "[" "missing ]".toList
    return 2

/-! ## Input -/

/-- The next line of the input; the flag says that a line end closed it. -/
def takeLine : Eval (Text × Bool) := do
  let index := (← Eval.shell).channels.input
  let text := (← get).system.buffer index
  let line := text.takeWhile (· ≠ '\n')
  let rest := text.drop line.length
  Eval.updateSystem fun s => s.setBuffer index (rest.drop 1)
  return (line, !rest.isEmpty)

/-- Lines joined where a backslash stands before the line end, up to a bound. -/
def takeJoined : Nat → Eval (Text × Bool)
  | 0 => return ([], false)
  | fuel + 1 => do
      let (line, complete) ← takeLine
      if complete && line.getLast? = some '\x5c' then
        let (more, complete) ← takeJoined fuel
        return (line.dropLast ++ more, complete)
      else return (line, complete)

/-- Takes the backslashes of a line away. -/
def bare : Text → Text
  | '\x5c' :: c :: rest => c :: bare rest
  | ['\x5c'] => []
  | c :: rest => c :: bare rest
  | [] => []

/-- Gives each name a field and the last name all that is left. -/
def share (separators : Text) : List Text → Text → List (Text × Text)
  | [], _ => []
  | [name], text =>
      let blank (c : Char) : Bool := separators.contains c && c.isWhitespace
      [(name, ((text.dropWhile blank).reverse.dropWhile blank).reverse)]
  | name :: later, text =>
      let trimmed := text.dropWhile fun c => separators.contains c && c.isWhitespace
      let field := trimmed.takeWhile (!separators.contains ·)
      (name, field) :: share separators later (trimmed.drop (field.length + 1))

def readLine (words : List Text) : Eval Nat := do
  let raw := words.head? = some ['-', 'r']
  let names := if raw then words.tail else words
  if names.isEmpty then
    object "read" "arg count".toList
    return 2
  else
    let bound := ((← get).system.buffer (← Eval.shell).channels.input).length + 1
    let (line, complete) ← if raw then takeLine else takeJoined bound
    let text := if raw then line else bare line
    for (name, value) in share (← separators) names text do
      Eval.assign name value
    return if complete then 0 else 1

/-! ## Settings -/

/-- Turns the option of a letter on or off. -/
def setOption (on : Bool) (letter : Char) (s : State) : State :=
  match letter with
  | 'e' => { s with exitOnError := on }
  | 'u' => { s with needSet := on }
  | 'f' => { s with noGlob := on }
  | 'x' => { s with trace := on }
  | _ => s

def setOptions : List Text → Eval (Option (List Text))
  | [] => return none
  | ['-', '-'] :: rest => return some rest
  | ('-' :: c :: letters) :: rest => do
      Eval.update fun s => (c :: letters).foldl (fun s l => setOption true l s) s
      setOptions rest
  | ('+' :: c :: letters) :: rest => do
      Eval.update fun s => (c :: letters).foldl (fun s l => setOption false l s) s
      setOptions rest
  | rest => return some rest

/-- The name and the value of a word with an equals sign. -/
def assignment? (word : Text) : Option (Text × Text) :=
  let name := word.takeWhile (· ≠ '=')
  if name.length < word.length then some (name, word.drop (name.length + 1)) else none

def declare (exports : Bool) (words : List Text) : Eval Nat := do
  for word in words do
    let name ← match assignment? word with
      | some (name, value) => do
          Eval.assign name value
          pure name
      | none => pure word
    if exports then Eval.markExported name
  return 0

def changeDirectory (words : List Text) : Eval Nat := do
  let s ← Eval.shell
  let target := match words with
    | word :: _ => word
    | [] => (s.bindings.lookup "HOME".toList).getD ['/']
  match (← Eval.files).find s.cwd (Octet.octets target) with
  | .ok (location, .directory) =>
      Eval.update fun s => { s with cwd := location }
      return 0
  | _ =>
      object "cd" ("can't cd to ".toList ++ target)
      return 2

/-! ## Signals -/

def trap (words : List Text) : Eval Nat := do
  let words := if words.head? = some ['-', '-'] then words.tail else words
  let numbered (word : Text) : Bool := !word.isEmpty && word.all Char.isDigit
  let (action, signals) := match words with
    | [] => (none, [])
    | first :: rest =>
        if first = ['-'] then (none, rest)
        else if numbered first then (none, first :: rest)
        else (some first, rest)
  let mut status := 0
  for word in signals do
    match Signal.ofName? word with
    | none =>
        object "trap" (word ++ ": bad trap".toList)
        status := 1
    | some signal =>
        Eval.update fun s =>
          let others := s.traps.filter (·.1 ≠ signal)
          { s with traps := match action with
              | some action => (signal, action) :: others
              | none => others }
  return status

/-- What a signal to the shell itself does. -/
def receive (runText : Text → Eval Unit) (signal : Nat) : Eval Unit := do
  let action := (← Eval.shell).traps.lookup signal
  match if Signal.isSure signal then none else action with
  | some [] => return
  | some action =>
      let status := (← Eval.shell).status
      runText action
      Eval.setStatus status
  | none => if Signal.isFatal signal then throw (.killed signal)

def kill (runText : Text → Eval Unit) (words : List Text) : Eval Nat := do
  let (signal?, targets) := match words with
    | ['-', 's'] :: name :: targets => (Signal.ofName? name, targets)
    | ['-', '-'] :: targets => (some 15, targets)
    | ('-' :: name) :: targets => (Signal.ofName? name, targets)
    | targets => (some 15, targets)
  match signal? with
  | none =>
      object "kill" "Illegal number".toList
      return 2
  | some signal =>
      let mut status := 0
      for target in targets do
        if target = (toString (← Eval.shell).process).toList then
          Eval.setStatus 0
          receive runText signal
        else
          object "kill" Refusal.noProcess.text.toList
          status := 1
      return status

end Builtin

/-- The commands that the shell carries out itself. -/
def builtins : List String :=
  [":", "true", "false", "exit", "return", "break", "continue", "shift", "set", "unset", "export",
   "readonly", "local", "read", "echo", "printf", "test", "[", "cd", "pwd", "kill", "trap", "eval",
   ".", "wait", "umask"]

/-- Carries a command out; the script runner is for those that read text as commands. -/
def builtin (runText : Text → Eval Unit) (name : String) (words : List Text) : Eval Nat := do
  match name with
  | "false" => return 1
  | "exit" => throw (.exit ((← Builtin.count name words (← Eval.shell).status) % 256))
  | "return" => throw (.leaveFunction ((← Builtin.count name words (← Eval.shell).status) % 256))
  | "break" => throw (.leaveLoop (← Builtin.count name words 1))
  | "continue" => throw (.nextRound (← Builtin.count name words 1))
  | "shift" => do
      let n ← Builtin.count name words 1
      if (← Eval.shell).parameters.length < n then Eval.abort "shift: can't shift that many".toList
      Eval.update fun s => { s with parameters := s.parameters.drop n }
      return 0
  | "set" => do
      match ← Builtin.setOptions words with
      | some parameters => Eval.update fun s => { s with parameters := parameters }
      | none => pure ()
      return 0
  | "unset" => do
      for word in words do Eval.unset word
      return 0
  | "export" => Builtin.declare true words
  | "readonly" | "local" => Builtin.declare false words
  | "read" => Builtin.readLine words
  | "echo" => do
      Eval.say (Format.echo words)
      return 0
  | "printf" => do
      match words with
      | [] =>
          Builtin.object name "usage: printf format [arg ...]".toList
          return 2
      | format :: args =>
          let (text, failed) := Format.printf format args
          Eval.say text
          return if failed then 1 else 0
  | "test" => Builtin.condition name words
  | "[" => Builtin.bracket words
  | "cd" => Builtin.changeDirectory words
  | "pwd" => Builtin.byTool Tools.pwd (name.toList :: words)
  | "kill" => Builtin.kill runText words
  | "trap" => Builtin.trap words
  | "eval" => do
      runText (List.intercalate [' '] words)
      return (← Eval.shell).status
  | "." => do
      match words with
      | [] => return 0
      | path :: _ =>
          match (← Eval.files).read (← Eval.shell).cwd (Octet.octets path) with
          | .ok octets => do
              runText (Octet.text octets)
              return (← Eval.shell).status
          | .error _ => Eval.abort (".: cannot open ".toList ++ path ++ ": No such file".toList)
  | _ => return 0

end TestHarness.Machine.Shell
