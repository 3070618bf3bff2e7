import TestHarness.Machine.Program
import TestHarness.Machine.Shell.Builtins

/-!
# Running commands and programs

A command runs in a shell, a program in a process of its own; each may call for the other. One step
of both is written with the means to do the rest handed in, and the steps are tied together by a
bound on their depth: what exceeds it ends as a process does that has used up its time.
-/

namespace TestHarness.Machine.Shell

/-- The means to run what a step leaves to be run. -/
structure Means where
  command : Command → Eval Unit
  process : Image → Call → StateM System Exit

section

variable (means : Means)

/-! ## Scripts -/

/-- Reads and runs the commands of a source one by one, up to a bound on their number. -/
def runSource : Nat → Source → Eval Unit
  | 0, _ => return
  | fuel + 1, source => do
      match source.next? with
      | .error (misread, line) =>
          Eval.update fun s => { s with line := line }
          Eval.abort misread.message.toList
      | .ok none => return
      | .ok (some (command, rest)) =>
          means.command command
          runSource fuel rest

def runText (text : Text) : Eval Unit := runSource means (text.length + 1) ⟨text, 1⟩

/-- What a command substitution comes to. -/
def substitute (text : Text) : Eval Text := do
  let (value, status) ← do
    let value ← Eval.capture (do Eval.setStatus 0; runText means text)
    pure (value, (← Eval.shell).status)
  Eval.setStatus status
  return value

/-! ## Redirections -/

def setSink (descriptor : Nat) (sink : Sink) (channels : Channels) : Channels :=
  match descriptor with
  | 1 => { channels with out := sink }
  | 2 => { channels with err := sink }
  | _ => channels

/-- The channels after one more redirection; `none` after a complaint. -/
def redirect (channels : Channels) (r : Redirection) : Eval (Option Channels) := do
  let target ← single (substitute means) r.target
  let path := Octet.octets target
  let cwd := (← Eval.shell).cwd
  match r.action with
  | .duplicate =>
      match target with
      | ['1'] => return some (setSink r.descriptor channels.out channels)
      | ['2'] => return some (setSink r.descriptor channels.err channels)
      | ['-'] => return some (setSink r.descriptor .nowhere channels)
      | _ => return some channels
  | .input =>
      match (← Eval.files).read cwd path with
      | .ok octets =>
          let (system, index) := (← get).system.newBuffer (Octet.text octets)
          modify fun c => { c with system := system }
          return some { channels with input := index }
      | .error _ =>
          Eval.complain ("cannot open ".toList ++ target ++ ": No such file".toList)
          return none
  | .output | .append =>
      match (← Eval.files).openFile cwd (r.action = .append) path with
      | .ok (files, location?) =>
          Eval.updateSystem fun s => { s with files := files }
          let sink := match location? with
            | some location => .file location
            | none => .nowhere
          return some (setSink r.descriptor sink channels)
      | .error refusal =>
          let why := if refusal = .noEntry then "Directory nonexistent" else refusal.text
          Eval.complain ("cannot create ".toList ++ target ++ [':', ' '] ++ why.toList)
          return none

def redirectAll (redirections : List Redirection) : Eval (Option Channels) := do
  let start := (← Eval.shell).channels
  redirections.foldlM
    (fun channels? r => do
      match channels? with
      | some channels => redirect means channels r
      | none => return none)
    (some start)

/-- Runs a piece with redirections; if one fails, only the status shows it. -/
def redirected (redirections : List Redirection) (body : Eval Unit) : Eval Unit := do
  match ← redirectAll means redirections with
  | some channels => Eval.withChannels channels body
  | none => Eval.setStatus 2

/-! ## Programs -/

/-- The variables that a program sees. -/
def environmentOf (s : State) : Environment :=
  s.exported.filterMap fun name => (s.bindings.lookup name).map fun value => (name, value)

/-- Notes how a program ended, and says so of one that a signal ended. -/
def note (exit : Exit) : Eval Unit := do
  match exit with
  | .code status => Eval.setStatus status
  | .signal signal =>
      match Signal.remark? signal with
      | some remark =>
          let sink := (← Eval.shell).channels.err
          Eval.updateSystem fun s => s.write sink (remark.toList ++ ['\n'])
      | none => pure ()
      Eval.setStatus (128 + signal)

/-- Runs a program in a process of its own. -/
def runImage (image : Image) (extra : Environment) : Eval Unit := do
  let c ← get
  let visible := (environmentOf c.shell).filter fun (name, _) => (extra.lookup name).isNone
  let call : Call := ⟨image.words, c.shell.cwd, extra ++ visible, c.shell.channels⟩
  let (exit, system) := (means.process image call).run c.system
  set { c with system := system }
  note exit

/-- Finds a program and runs it; a file without an interpreter is taken for a script. -/
def runProgram (extra : Environment) (words : List Text) : Eval Unit := do
  let s ← Eval.shell
  let search := ((extra.lookup "PATH".toList).orElse fun _ => s.bindings.lookup "PATH".toList).getD []
  let name := words.headD []
  match Program.launch (← Eval.files) s.cwd search words with
  | .ok image => runImage means image extra
  | .error .badFormat => runImage means ⟨.sh, "sh".toList :: words⟩ extra
  | .error .accessDenied =>
      Eval.complain (name ++ ": Permission denied".toList)
      Eval.setStatus 126
  | .error _ =>
      Eval.complain (name ++ ": not found".toList)
      Eval.setStatus 127

/-! ## Simple commands -/

/-- Leaves the shell if a failure is to end it. -/
def checkFailure : Eval Unit := do
  let s ← Eval.shell
  if s.exitOnError && !s.tested && s.status ≠ 0 then throw (.exit s.status)

/-- Runs a function with its own parameters. -/
def callFunction (body : Command) (args : List Text) : Eval Unit := do
  let run := Eval.within (fun s => { s with parameters := args })
    (fun old s => { s with parameters := old.parameters }) (means.command body)
  tryCatch run fun
    | .leaveFunction status => Eval.setStatus status
    | stop => throw stop

/-- Gives variables values for the time of a piece. -/
def withVariables (assignments : List (Text × Text)) (body : Eval Unit) : Eval Unit :=
  if assignments.isEmpty then body
  else
    let given (entry : Text × Text) : Bool := (assignments.lookup entry.1).isSome
    Eval.within
      (fun s => { s with bindings := assignments.reverse ++ s.bindings })
      (fun old s =>
        let kept := s.bindings.filter (!given ·)
        { s with bindings := kept ++ old.bindings.filter given })
      body

def showTrace (fields : List Text) : Eval Unit := do
  let s ← Eval.shell
  if s.trace then
    Eval.updateSystem fun system =>
      system.write s.channels.err (['+', ' '] ++ List.intercalate [' '] fields ++ ['\n'])

/-- Does what a row of fields says. -/
def dispatch (assignments : List (Text × Text)) (redirections : List Redirection)
    (fields : List Text) : Eval Unit := do
  match fields with
  | [] =>
      for (name, value) in assignments do Eval.assign name value
      redirected means redirections (pure ())
  | name :: args =>
      let known := String.ofList name
      match (← Eval.shell).functions.lookup name with
      | some body =>
          redirected means redirections (withVariables assignments (callFunction means body args))
      | none =>
          if known = "exec" then
            match ← redirectAll means redirections with
            | none => throw (.exit 2)
            | some channels =>
                Eval.update fun s => { s with channels := channels }
                unless args.isEmpty do
                  runProgram means assignments args
                  throw (.exit (← Eval.shell).status)
          else if known = "command" then
            redirected means redirections (runProgram means assignments args)
          else if builtins.contains known then
            redirected means redirections (withVariables assignments do
              Eval.setStatus (← builtin (runText means) known args))
          else redirected means redirections (runProgram means assignments fields)

def runSimple (line : Nat) (assignments : List (Text × Word)) (words : List Word)
    (redirections : List Redirection) : Eval Unit := do
  Eval.update fun s => { s with line := line }
  let before := (← Eval.shell).status
  let substituted := words.isEmpty
  if substituted then Eval.setStatus 0
  let found ← fields (substitute means) words
  let mut values : List (Text × Text) := []
  for (name, word) in assignments do
    values := values ++ [(name, ← single (substitute means) word)]
  unless substituted do
    if found.isEmpty then Eval.setStatus 0 else Eval.setStatus before
  showTrace (values.map (fun (name, value) => name ++ '=' :: value) ++ found)
  dispatch means values redirections found
  checkFailure

/-! ## Compound commands -/

/-- Runs a round of a loop; gives whether the loop goes on. -/
def round (body : Eval Unit) : Eval Bool :=
  tryCatch (do body; return true) fun
    | .leaveLoop levels => if levels ≤ 1 then return false else throw (.leaveLoop (levels - 1))
    | .nextRound levels => if levels ≤ 1 then return true else throw (.nextRound (levels - 1))
    | stop => throw stop

/-- Repeats a body under a condition, up to a bound. -/
def repeatWhile (untilTrue : Bool) (condition body : Command) : Nat → Nat → Eval Unit
  | 0, _ => throw (.killed Signal.timeSpent)
  | fuel + 1, status => do
      Eval.asTest (means.command condition)
      if ((← Eval.shell).status = 0) = !untilTrue then
        if ← round (means.command body) then
          repeatWhile untilTrue condition body fuel (← Eval.shell).status
        else return
      else Eval.setStatus status

def repeatEach (name : Text) (body : Command) : List Text → Eval Unit
  | [] => return
  | item :: later => do
      Eval.assign name item
      if ← round (means.command body) then repeatEach name body later

/-- Runs stages side by side, each reading what the one before it wrote. -/
def runStages : List Command → Nat → Eval Unit
  | [], _ => return
  | [last], input => do
      Eval.withChannels { (← Eval.shell).channels with input := input }
        (Eval.inCopy (means.command last))
  | stage :: later, input => do
      let channels := (← Eval.shell).channels
      let written ← Eval.withChannels { channels with input := input }
        (Eval.capture (means.command stage))
      let (system, index) := (← get).system.newBuffer written
      modify fun c => { c with system := system }
      runStages later index

/-- The body of the first arm with a pattern that takes the subject. -/
def chosenArm (subject : Text) : List (List Word × Command) → Eval (Option Command)
  | [] => return none
  | (patterns, body) :: later => do
      let fits ← patterns.anyM fun word => do
        return Pattern.accepts (← pattern (substitute means) word) subject
      if fits then return some body else chosenArm subject later

/-- How often a loop may go round. -/
def roundLimit : Nat := 100000

def evaluate : Command → Eval Unit
  | .simple line assignments words redirections =>
      runSimple means line assignments words redirections
  | .sequence commands => commands.forM means.command
  | .both first second => do
      Eval.asTest (means.command first)
      if (← Eval.shell).status = 0 then means.command second
  | .either first second => do
      Eval.asTest (means.command first)
      if (← Eval.shell).status ≠ 0 then means.command second
  | .pipeline negated stages => do
      let body : Eval Unit := match stages with
        | [only] => means.command only
        | _ => do runStages means stages (← Eval.shell).channels.input
      if negated then
        Eval.asTest body
        Eval.setStatus (if (← Eval.shell).status = 0 then 1 else 0)
      else
        body
        checkFailure
  | .background body => do
      Eval.inCopy (means.command body)
      Eval.setStatus 0
  | .choice condition body otherwise => do
      Eval.asTest (means.command condition)
      if (← Eval.shell).status = 0 then means.command body
      else
        match otherwise with
        | some other => means.command other
        | none => Eval.setStatus 0
  | .loop untilTrue condition body => repeatWhile means untilTrue condition body roundLimit 0
  | .each name items body => do
      let values ← match items with
        | some words => fields (substitute means) words
        | none => pure (← Eval.shell).parameters
      Eval.setStatus 0
      repeatEach means name body values
  | .switch subject arms => do
      let text ← single (substitute means) subject
      match ← chosenArm means text arms with
      | some body => means.command body
      | none => Eval.setStatus 0
  | .subshell body => do
      Eval.inCopy (means.command body)
      checkFailure
  | .redirected body redirections => redirected means redirections (means.command body)
  | .define name body => do
      Eval.update fun s => { s with functions := (name, body) :: s.functions }
      Eval.setStatus 0

/-! ## Processes -/

/-- What a shell is told to do. -/
structure Orders where
  options : List Char
  /-- The text to run, or else the first operand is a script. -/
  text : Option Text
  operands : List Text

def orders : List Text → Orders
  | ['-', '-'] :: rest => ⟨[], none, rest⟩
  | ['-', 'c'] :: text :: rest => ⟨[], some text, rest⟩
  | ('-' :: c :: letters) :: rest =>
      let more := orders rest
      let all := c :: letters
      if all.contains 'c' && more.text.isNone then
        ⟨all ++ more.options, more.operands.head?, more.operands.tail⟩
      else ⟨all ++ more.options, more.text, more.operands⟩
  | rest => ⟨[], none, rest⟩

/-- A shell at its start. -/
def initial (call : Call) (process : Nat) (name : Text) (parameters : List Text) : State where
  name := name
  parameters := parameters
  bindings := call.environment
  exported := call.environment.map Prod.fst
  functions := []
  traps := []
  status := 0
  line := 0
  cwd := call.cwd
  process := process
  channels := call.channels
  exitOnError := false
  needSet := false
  noGlob := false
  trace := false
  tested := false

/-- Runs a body and then the action for the end of the shell. -/
def toTheEnd (body : Eval Unit) : StateM Context Exit := do
  let finish (status : Nat) : StateM Context Exit := do
    match (← get).shell.traps.lookup 0 with
    | none => return .code status
    | some action =>
        modify fun c => { c with shell := { c.shell with status := status, traps := [] } }
        match ← (runText means action).run with
        | .error (.exit status) => return .code status
        | .error (.killed signal) => return .signal signal
        | _ => return .code status
  match ← body.run with
  | .ok () => do finish (← get).shell.status
  | .error (.exit status) | .error (.leaveFunction status) => finish status
  | .error (.killed signal) => return .signal signal
  | .error _ => do finish (← get).shell.status

/-- The shell as a program. -/
def shellProcess (call : Call) : StateM System Exit := do
  let system ← get
  let process := system.processes + 1
  let given := orders call.args
  let own := call.words.headD []
  let (name, parameters) := match given.operands with
    | [] => (own, [])
    | first :: rest => (first, rest)
  let start := initial call process name parameters
  let start := given.options.foldl (fun s l => Builtin.setOption true l s) start
  let body : Eval Unit :=
    match given.text, given.operands with
    | some text, _ => runText means text
    | none, [] => do
        let text := (← get).system.buffer call.channels.input
        Eval.updateSystem fun s => s.setBuffer call.channels.input []
        runText means text
    | none, path :: _ => do
        match (← Eval.files).read call.cwd (Octet.octets path) with
        | .ok octets => runText means (Octet.text octets)
        | .error refusal =>
            Eval.update fun s => { s with name := own }
            let why := if refusal = .noEntry then "No such file" else refusal.text
            Eval.abort ("cannot open ".toList ++ path ++ [':', ' '] ++ why.toList)
  let (exit, after) := (toTheEnd means body).run ⟨{ system with processes := process }, start⟩
  set after.system
  return exit

/-- Runs a program with variables set for it. -/
def envProcess (call : Call) : StateM System Exit := do
  let isAssignment (word : Text) : Bool := (Builtin.assignment? word).isSome
  let extra := (call.args.takeWhile isAssignment).filterMap Builtin.assignment?
  let words := call.args.dropWhile isAssignment
  let kept := call.environment.filter fun (name, _) => (extra.lookup name).isNone
  let environment := extra ++ kept
  let system ← get
  match words with
  | [] =>
      let listing := environment.flatMap fun (name, value) => name ++ '=' :: value ++ ['\n']
      set (system.write call.channels.out listing)
      return .code 0
  | name :: _ =>
      match Program.launch system.files call.cwd ((environment.lookup "PATH".toList).getD []) words with
      | .ok image =>
          means.process image { call with words := image.words, environment := environment }
      | .error refusal =>
          set (system.write call.channels.err
            ("env: ".toList ++ Tools.quote name ++ Tools.reason refusal ++ ['\n']))
          return .code (if refusal = .noEntry then 127 else 126)

/-- Runs what was found under a program's name. -/
def runProcess (image : Image) (call : Call) : StateM System Exit :=
  match image.tool with
  | .sh => shellProcess means call
  | .env => envProcess means call
  | tool => do
      let status ← (Tools.work tool).run call
      return .code status

end

/-! ## Tying the steps together -/

mutual

def commandBy : Nat → Command → Eval Unit
  | 0, _ => throw (.killed Signal.timeSpent)
  | depth + 1, c => evaluate ⟨commandBy depth, processBy depth⟩ c

def processBy : Nat → Image → Call → StateM System Exit
  | 0, _, _ => return .signal Signal.timeSpent
  | depth + 1, image, call => runProcess ⟨commandBy depth, processBy depth⟩ image call

end

/-- How deep commands and programs may call for each other. -/
def depthLimit : Nat := 10000

/-- Runs a program to its end. -/
def process (image : Image) (call : Call) : StateM System Exit := processBy depthLimit image call

end TestHarness.Machine.Shell
