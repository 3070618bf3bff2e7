import TestHarness.Machine.Condition
import TestHarness.Machine.Regex

/-!
# What the tools do

A tool reads its words, changes the files, writes to its sinks and ends with an exit status. The
shell, which starts other programs, and `env`, which replaces itself by one, are not among them.
-/

namespace TestHarness.Machine.Tools

/-- The work of a tool: it changes the system and gives an exit status. -/
abbrev Work := ReaderT Call (StateM System)

def say (text : Text) : Work Unit := do
  let call ← read
  modify fun s => s.write call.channels.out text

/-- A complaint starts with the tool's name. -/
def complain (name : String) (message : Text) : Work Unit := do
  let call ← read
  modify fun s => s.write call.channels.err (Octet.ofString name ++ [':', ' '] ++ message ++ ['\n'])

def quote (word : Text) : Text := '\x27' :: word ++ ['\x27']

def reason (refusal : Refusal) : Text := [':', ' '] ++ refusal.text.toList

/-- Takes all that is left of the input. -/
def takeInput : Work Text := do
  let index := (← read).channels.input
  let text := (← get).buffer index
  modify fun s => s.setBuffer index []
  return text

/-- The letters of the options in front, and the operands after them. -/
def options : List Text → List Char × List Text
  | ['-', '-'] :: rest => ([], rest)
  | ('-' :: c :: letters) :: rest =>
      let (more, operands) := options rest
      (c :: letters ++ more, operands)
  | operands => ([], operands)

def find (path : Text) : Work (Except Refusal (Location × Node)) := do
  return (← get).files.find (← read).cwd (Octet.octets path)

def findLink (path : Text) : Work (Except Refusal (Location × Node)) := do
  return (← get).files.findLink (← read).cwd (Octet.octets path)

/-- Applies a change of the files that may be refused. -/
def change (f : Files → Location → Except Refusal Files) : Work (Option Refusal) := do
  let system ← get
  match f system.files (← read).cwd with
  | .ok files =>
      set { system with files := files }
      return none
  | .error refusal => return some refusal

/-- The highest status of some pieces of work, one for each operand. -/
def forEach (operands : List Text) (work : Text → Work Nat) : Work Nat :=
  operands.foldlM (fun worst operand => return max worst (← work operand)) 0

/-- The status of a change, with a complaint if it was refused. -/
def report (name : String) (doing : String) (operand : Text) (result : Option Refusal) :
    Work Nat := do
  match result with
  | none => return 0
  | some refusal =>
      complain name (doing.toList ++ [' '] ++ quote operand ++ reason refusal)
      return 1

def missingOperand (name : String) : Work Nat := do
  complain name (Octet.ofString "missing operand")
  return 1

/-! ## Text -/

def echo : Work Nat := do
  let args := (← read).args
  let isOption (word : Text) : Bool :=
    match word with
    | '-' :: c :: letters => (c :: letters).all fun l => l = 'n' || l = 'e' || l = 'E'
    | _ => false
  let letters := (args.takeWhile isOption).flatten
  let words := args.dropWhile isOption
  let escapes := (letters.filter fun l => l = 'e' || l = 'E').getLast? = some 'e'
  let text := List.intercalate [' '] words
  let (text, stop) := if escapes then Format.unescape text else (text, false)
  say (if letters.contains 'n' || stop then text else text ++ ['\n'])
  return 0

def printf : Work Nat := do
  match (← read).args with
  | [] => missingOperand "printf"
  | format :: words =>
      let (text, failed) := Format.printf format words
      say text
      return if failed then 1 else 0

def test (words : List Text) : Work Nat := do
  match Condition.holds ⟨(← get).files, (← read).cwd⟩ words with
  | .ok true => return 0
  | .ok false => return 1
  | .error message =>
      complain "test" (Octet.ofString message)
      return 2

def bracket : Work Nat := do
  let words := (← read).args
  if words.getLast? = some [']'] then test words.dropLast
  else
    complain "[" (Octet.ofString "missing ']'")
    return 2

/-- A path without its last name. -/
def directoryOf (path : Text) : Text :=
  let trimmed := (path.reverse.dropWhile (· = '/')).reverse
  if trimmed.isEmpty then (if path.isEmpty then ['.'] else ['/'])
  else if !trimmed.contains '/' then ['.']
  else
    let upper := ((trimmed.reverse.dropWhile (· ≠ '/')).dropWhile (· = '/')).reverse
    if upper.isEmpty then ['/'] else upper

/-- The last name of a path. -/
def lastName (path : Text) : Text :=
  let trimmed := (path.reverse.dropWhile (· = '/')).reverse
  if trimmed.isEmpty then (if path.isEmpty then [] else ['/'])
  else (trimmed.reverse.takeWhile (· ≠ '/')).reverse

def dirname : Work Nat := do
  match (options (← read).args).2 with
  | [] => missingOperand "dirname"
  | paths =>
      say (paths.flatMap fun path => directoryOf path ++ ['\n'])
      return 0

def basename : Work Nat := do
  match (options (← read).args).2 with
  | [] => missingOperand "basename"
  | [path] =>
      say (lastName path ++ ['\n'])
      return 0
  | path :: ending :: _ =>
      let name := lastName path
      let cut := ending ≠ name && ending.isSuffixOf name
      say ((if cut then name.take (name.length - ending.length) else name) ++ ['\n'])
      return 0

/-- The content of an operand, where `-` is the input. -/
def contentOf (operand : Text) : Work (Except Refusal Text) := do
  if operand = ['-'] then return .ok (← takeInput)
  else
    let octets := (← get).files.read (← read).cwd (Octet.octets operand)
    return octets.map Octet.text

def cat : Work Nat := do
  let (_, operands) := options (← read).args
  forEach (if operands.isEmpty then [['-']] else operands) fun operand => do
    match ← contentOf operand with
    | .ok text =>
        say text
        return 0
    | .error refusal =>
        complain "cat" (operand ++ reason refusal)
        return 1

def grep : Work Nat := do
  let (letters, operands) := options (← read).args
  match operands with
  | [] =>
      complain "grep" (Octet.ofString "no pattern")
      return 2
  | source :: files =>
      let regex := if letters.contains 'F' then Regex.ofText source else Regex.ofSource source
      let regex := if letters.contains 'x' then ⟨true, true, regex.atoms⟩ else regex
      let several := files.length > 1 && !letters.contains 'h'
      let mut found := false
      let mut failed := false
      for file in (if files.isEmpty then [['-']] else files) do
        match ← contentOf file with
        | .error refusal =>
            failed := true
            complain "grep" (file ++ reason refusal)
        | .ok text =>
            let hits := (Octet.lines text).filter fun l =>
              Regex.occurs regex l != letters.contains 'v'
            let label := if several then file ++ [':'] else []
            if !hits.isEmpty then found := true
            if letters.contains 'q' then pure ()
            else if letters.contains 'c' then
              say (label ++ (toString hits.length).toList ++ ['\n'])
            else if letters.contains 'l' then
              if !hits.isEmpty then say (file ++ ['\n'])
            else say (hits.flatMap fun l => label ++ l ++ ['\n'])
      return if failed then 2 else if found then 0 else 1

/-- The numbers of lines, words and octets that are asked for. -/
def wc : Work Nat := do
  let (letters, operands) := options (← read).args
  let countWords (text : Text) : Nat :=
    (text.foldl (fun (n, inside) c =>
      if c.isWhitespace then (n, false) else if inside then (n, true) else (n + 1, true))
      (0, false)).1
  let counts (text : Text) : List Nat :=
    let all := letters.isEmpty
    (if all || letters.contains 'l' then [text.count '\n'] else []) ++
      (if all || letters.contains 'w' then [countWords text] else []) ++
      (if all || letters.contains 'c' then [text.length] else [])
  forEach (if operands.isEmpty then [['-']] else operands) fun operand => do
    match ← contentOf operand with
    | .ok text =>
        let numbers := (counts text).map fun n => (toString n).toList
        let label := if operands.isEmpty then [] else [operand]
        say (List.intercalate [' '] (numbers ++ label) ++ ['\n'])
        return 0
    | .error refusal =>
        complain "wc" (operand ++ reason refusal)
        return 1

def pwd : Work Nat := do
  say ((← read).cwd.path ++ ['\n'])
  return 0

/-! ## Files -/

def rm : Work Nat := do
  let (letters, operands) := options (← read).args
  let force := letters.contains 'f'
  let deep := letters.contains 'r' || letters.contains 'R'
  if operands.isEmpty && !force then missingOperand "rm"
  else forEach operands fun operand => do
    match ← findLink operand with
    | .error refusal =>
        if force && (refusal = .noEntry || refusal = .notDirectory) then return 0
        else report "rm" "cannot remove" operand (some refusal)
    | .ok (_, node) =>
        if node.isDirectory && !deep then report "rm" "cannot remove" operand (some .isDirectory)
        else
          let result ← change fun files cwd => files.remove cwd (Octet.octets operand)
          report "rm" "cannot remove" operand result

def mkdir : Work Nat := do
  let (letters, operands) := options (← read).args
  if operands.isEmpty then missingOperand "mkdir"
  else forEach operands fun operand => do
    let result ← change fun files cwd =>
      if letters.contains 'p' then files.makeAll cwd (Octet.octets operand)
      else files.make cwd (Octet.octets operand) .directory
    report "mkdir" "cannot create directory" operand result

def rmdir : Work Nat := do
  let (_, operands) := options (← read).args
  if operands.isEmpty then missingOperand "rmdir"
  else forEach operands fun operand => do
    let result ← change fun files cwd => do
      let (location, node) ← files.findLink cwd (Octet.octets operand)
      if !node.isDirectory then .error .notDirectory
      else if !(files.names location).isEmpty then .error .notEmpty
      else .ok (files.erase location)
    match result with
    | none => return 0
    | some refusal =>
        complain "rmdir" (Octet.ofString "failed to remove " ++ quote operand ++ reason refusal)
        return 1

def touch : Work Nat := do
  let (_, operands) := options (← read).args
  if operands.isEmpty then
    complain "touch" (Octet.ofString "missing file operand")
    return 1
  else forEach operands fun operand => do
    let result ← change fun files cwd => do
      match ← files.locate cwd true (Octet.octets operand) with
      | .missing location => .ok (files.put location (.file 0o644 []))
      | .present _ _ => .ok files
    report "touch" "cannot touch" operand result

/-- Where an operand goes: into a directory under its own name, or to the path itself. -/
def destination (operand target : Text) : Work Text := do
  match ← find target with
  | .ok (_, .directory) =>
      let base := if target.getLast? = some '/' then target else target ++ ['/']
      return base ++ lastName operand
  | _ => return target

def cp : Work Nat := do
  let (letters, operands) := options (← read).args
  match operands.getLast? with
  | none => missingOperand "cp"
  | some target =>
      forEach operands.dropLast fun operand => do
        let goal ← destination operand target
        match ← find operand with
        | .error refusal => report "cp" "cannot stat" operand (some refusal)
        | .ok (source, node) =>
            if node.isDirectory && !letters.contains 'r' && !letters.contains 'R' then
              complain "cp" (Octet.ofString "-r not specified; omitting directory " ++ quote operand)
              return 1
            else
              let result ← change fun files cwd => do
                let location := match ← files.locate cwd true (Octet.octets goal) with
                  | .missing location => location
                  | .present location _ => location
                let below := files.nodes.filter fun (other, _) => source.isPrefixOf other
                return below.foldl
                  (fun files (other, node) => files.put (location ++ other.drop source.length) node)
                  files
              report "cp" "cannot create regular file" goal result

def mv : Work Nat := do
  let (_, operands) := options (← read).args
  match operands.getLast? with
  | none => missingOperand "mv"
  | some target =>
      forEach operands.dropLast fun operand => do
        let goal ← destination operand target
        match ← findLink operand with
        | .error refusal => report "mv" "cannot stat" operand (some refusal)
        | .ok _ =>
            let result ← change fun files cwd =>
              files.rename cwd (Octet.octets operand) (Octet.octets goal)
            report "mv" "cannot move" operand result

def ln : Work Nat := do
  let (letters, operands) := options (← read).args
  match operands with
  | [target, path] =>
      let goal ← destination target path
      let result ← change fun files cwd => do
        let files := if letters.contains 'f' then
          match files.remove cwd (Octet.octets goal) with
            | .ok cleared => cleared
            | .error _ => files
          else files
        if letters.contains 's' then files.make cwd (Octet.octets goal) (.link (Octet.octets target))
        else
          let (_, node) ← files.find cwd (Octet.octets target)
          files.make cwd (Octet.octets goal) node
      report "ln" "failed to create link" goal result
  | _ => missingOperand "ln"

def ls : Work Nat := do
  let (letters, operands) := options (← read).args
  let show_ (names : List Text) : Work Unit := do
    let visible := names.filter fun n => letters.contains 'a' || letters.contains 'A' || n.head? ≠ some '.'
    say ((visible.mergeSort Octet.inOrder).flatMap fun n => n ++ ['\n'])
  forEach (if operands.isEmpty then [['.']] else operands) fun operand => do
    match ← find operand with
    | .error refusal =>
        complain "ls" (Octet.ofString "cannot access " ++ quote operand ++ reason refusal)
        return 2
    | .ok (location, .directory) =>
        if letters.contains 'd' then say (operand ++ ['\n'])
        else
          if operands.length > 1 then say (operand ++ [':', '\n'])
          show_ (((← get).files.names location).map Octet.text)
        return 0
    | .ok _ =>
        say (operand ++ ['\n'])
        return 0

/-- The mode after a change such as `755`, `+x` or `u-w`. -/
def changedMode? (spelled : Text) (mode : Nat) : Option Nat :=
  if !spelled.isEmpty && spelled.all Format.isOctal then
    some (spelled.foldl (fun n d => n * 8 + (d.toNat - 48)) 0)
  else
    let who := spelled.takeWhile fun c => "ugoa".toList.contains c
    match spelled.drop who.length with
    | sign :: letters =>
        let classes : Nat :=
          if who.isEmpty || who.contains 'a' then 0o111
          else (if who.contains 'u' then 0o100 else 0) + (if who.contains 'g' then 0o010 else 0) +
            (if who.contains 'o' then 0o001 else 0)
        let bits : Nat := (if letters.contains 'r' then 4 else 0) +
          (if letters.contains 'w' then 2 else 0) + (if letters.contains 'x' then 1 else 0)
        let mask := classes * bits
        match sign with
        | '+' => some (mode ||| mask)
        | '-' => some (mode - (mode &&& mask))
        | '=' => some ((mode - (mode &&& (classes * 7))) ||| mask)
        | _ => none
    | [] => none

def chmod : Work Nat := do
  match (← read).args with
  | spelled :: operands =>
      forEach operands fun operand => do
        match ← find operand with
        | .error refusal =>
            complain "chmod" (Octet.ofString "cannot access " ++ quote operand ++ reason refusal)
            return 1
        | .ok (location, .file mode content) =>
            match changedMode? spelled mode with
            | some changed =>
                modify fun s =>
                  { s with files := s.files.put location (.file changed content) }
                return 0
            | none =>
                complain "chmod" (Octet.ofString "invalid mode: " ++ quote spelled)
                return 1
        | .ok _ => return 0
  | [] => missingOperand "chmod"

/-- The work of a tool that starts no other program. -/
def work : Tool → Work Nat
  | .succeed | .sleep => return 0
  | .fail => return 1
  | .echo => echo
  | .printf => printf
  | .test => do test (← read).args
  | .bracket => bracket
  | .rm => rm
  | .mkdir => mkdir
  | .rmdir => rmdir
  | .dirname => dirname
  | .basename => basename
  | .grep => grep
  | .cat => cat
  | .touch => touch
  | .cp => cp
  | .mv => mv
  | .ln => ln
  | .ls => ls
  | .wc => wc
  | .pwd => pwd
  | .chmod => chmod
  | .sh | .kill | .env => return 0

end TestHarness.Machine.Tools
