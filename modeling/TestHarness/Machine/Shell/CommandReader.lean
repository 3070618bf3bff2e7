import TestHarness.Machine.Shell.WordReader

/-!
# Reading commands

A script is read one complete command at a time, because commands run before what follows them has
been looked at. `next?` reads the next one.
-/

namespace TestHarness.Machine.Shell

namespace Reader

/-- The operator of a redirection that comes next: its length, its descriptor and what it does. -/
def redirect? : Reader (Option (Nat × Nat × Redirect)) := do
  let ahead ← upcoming
  let digits := ahead.takeWhile Char.isDigit
  let given := (String.ofList digits).toNat?
  let found := match ahead.drop digits.length with
    | '>' :: '>' :: _ => some (2, 1, Redirect.append)
    | '>' :: '&' :: _ => some (2, 1, Redirect.duplicate)
    | '>' :: '|' :: _ => some (2, 1, Redirect.output)
    | '>' :: _ => some (1, 1, Redirect.output)
    | '<' :: '<' :: _ => none
    | '<' :: '&' :: _ => some (2, 0, Redirect.duplicate)
    | '<' :: _ => some (1, 0, Redirect.input)
    | _ => none
  return found.map fun (length, usual, action) =>
    (digits.length + length, given.getD usual, action)

def word (fuel : Nat) : Reader Word := do
  blanks
  match ← upcoming with
  | [] => complain
  | c :: _ => if isMeta c then complain else parts fuel .bare

/-- The redirections that come next. -/
def redirections : Nat → Reader (List Redirection)
  | 0 => return []
  | fuel + 1 => do
      blanks
      match ← redirect? with
      | none => return []
      | some (length, descriptor, action) =>
          skip length
          let target ← word fuel
          return ⟨descriptor, action, target⟩ :: (← redirections fuel)

/-- The name of an assignment that comes next. -/
def assigned? : Reader (Option Text) := do
  let ahead ← upcoming
  let name := ahead.takeWhile isNameChar
  let isAssignment := name.head?.any isNameStart && (ahead.drop name.length).head? = some '='
  return if isAssignment then some name else none

/-- Words up to the end of the command. -/
def words : Nat → Reader (List Word)
  | 0 => return []
  | fuel + 1 => do
      blanks
      match ← upcoming with
      | [] => return []
      | c :: _ =>
          if isMeta c then return []
          else
            let first ← parts fuel .bare
            return first :: (← words fuel)

/-- Adds what comes next to a simple command: assignments, then words, and redirections anywhere. -/
def simple (line : Nat) : Nat → List (Text × Word) → List Word → List Redirection → Reader Command
  | 0, assignments, ws, rs => return .simple line assignments ws rs
  | fuel + 1, assignments, ws, rs => do
      blanks
      match ← redirect? with
      | some (length, descriptor, action) =>
          skip length
          let target ← word fuel
          simple line fuel assignments ws (rs ++ [⟨descriptor, action, target⟩])
      | none =>
          match ← upcoming with
          | [] => return .simple line assignments ws rs
          | c :: _ =>
              if isMeta c then return .simple line assignments ws rs
              else
                let name? ← if ws.isEmpty then assigned? else pure none
                match name? with
                | some name =>
                    skip (name.length + 1)
                    let value ← parts fuel .bare
                    simple line fuel (assignments ++ [(name, value)]) ws rs
                | none =>
                    let w ← parts fuel .bare
                    simple line fuel assignments (ws ++ [w]) rs

/-- The name of a function whose definition comes next, and the length of its head. -/
def defined? : Reader (Option (Text × Nat)) := do
  let ahead ← upcoming
  let name := ahead.takeWhile isNameChar
  let after := ahead.drop name.length
  let gap := (after.takeWhile fun c => c = ' ' || c = '\t').length
  let inner := after.drop (gap + 1)
  let space := (inner.takeWhile fun c => c = ' ' || c = '\t').length
  let isDefinition := name.head?.any isNameStart && (after.drop gap).head? = some '(' &&
    (inner.drop space).head? = some ')'
  return if isDefinition then some (name, name.length + gap + space + 2) else none

/-- The patterns of an arm, up to its closing bracket. -/
def patterns : Nat → Reader (List Word)
  | 0 => fail .endOfFile
  | fuel + 1 => do
      let first ← word fuel
      blanks
      if ← startsWith "|" then
        skip 1
        return first :: (← patterns fuel)
      else
        expect ")"
        return [first]

mutual

/-- Commands up to something that can only end them. -/
def list : Nat → Reader Command
  | 0 => fail .endOfFile
  | fuel + 1 => do
      let commands ← items fuel
      return .sequence commands

def items : Nat → Reader (List Command)
  | 0 => fail .endOfFile
  | fuel + 1 => do
      lineBreaks fuel
      if (← upcoming).isEmpty || (← startsWith ")") || (← startsWith ";;") ||
          (← keyword?).any closers.contains then return []
      else
        let first ← andOr fuel
        blanks
        if (← startsWith ";;") then return [first]
        else if (← startsWith ";") || (← startsWith "\n") then
          skip 1
          return first :: (← items fuel)
        else if ← startsWith "&" then
          skip 1
          return .background first :: (← items fuel)
        else return [first]

def andOr : Nat → Reader Command
  | 0 => fail .endOfFile
  | fuel + 1 => do
      let first ← pipeline fuel
      andOrRest fuel first

def andOrRest : Nat → Command → Reader Command
  | 0, _ => fail .endOfFile
  | fuel + 1, first => do
      blanks
      if ← startsWith "&&" then
        skip 2
        lineBreaks fuel
        let second ← pipeline fuel
        andOrRest fuel (.both first second)
      else if ← startsWith "||" then
        skip 2
        lineBreaks fuel
        let second ← pipeline fuel
        andOrRest fuel (.either first second)
      else return first

def pipeline : Nat → Reader Command
  | 0 => fail .endOfFile
  | fuel + 1 => do
      blanks
      let negated := (← keyword?) == some "!"
      if negated then skip 1
      let all ← stages fuel
      match negated, all with
      | false, [only] => return only
      | _, _ => return .pipeline negated all

def stages : Nat → Reader (List Command)
  | 0 => fail .endOfFile
  | fuel + 1 => do
      let first ← command fuel
      blanks
      if (← startsWith "|") && !(← startsWith "||") then
        skip 1
        lineBreaks fuel
        return first :: (← stages fuel)
      else return [first]

def command : Nat → Reader Command
  | 0 => fail .endOfFile
  | fuel + 1 => do
      blanks
      let line := (← get).line
      if ← startsWith "(" then
        skip 1
        let body ← list fuel
        expect ")"
        finish fuel (.subshell body)
      else
        match ← keyword? with
        | some "\x7b" =>
            skip 1
            let body ← list fuel
            expectKeyword "\x7d"
            finish fuel body
        | some "if" =>
            skip 2
            finish fuel (← branches fuel)
        | some "while" =>
            skip 5
            finish fuel (← loopBody fuel false)
        | some "until" =>
            skip 5
            finish fuel (← loopBody fuel true)
        | some "for" =>
            skip 3
            finish fuel (← eachBody fuel)
        | some "case" =>
            skip 4
            let subject ← word fuel
            lineBreaks fuel
            expectKeyword "in"
            let found ← arms fuel
            finish fuel (.switch subject found)
        | some _ => complain
        | none =>
            match ← defined? with
            | some (name, length) =>
                skip length
                lineBreaks fuel
                return .define name (← command fuel)
            | none =>
                match ← simple line fuel [] [] [] with
                | .simple _ [] [] [] => complain
                | found => return found

/-- Adds the redirections that follow a compound command. -/
def finish : Nat → Command → Reader Command
  | 0, _ => fail .endOfFile
  | fuel + 1, body => do
      match ← redirections fuel with
      | [] => return body
      | found => return .redirected body found

/-- A choice after its first word. -/
def branches : Nat → Reader Command
  | 0 => fail .endOfFile
  | fuel + 1 => do
      let condition ← list fuel
      expectKeyword "then"
      let body ← list fuel
      blanks
      match ← keyword? with
      | some "elif" =>
          skip 4
          return .choice condition body (some (← branches fuel))
      | some "else" =>
          skip 4
          let otherwise ← list fuel
          expectKeyword "fi"
          return .choice condition body (some otherwise)
      | _ =>
          expectKeyword "fi"
          return .choice condition body none

def loopBody : Nat → Bool → Reader Command
  | 0, _ => fail .endOfFile
  | fuel + 1, untilTrue => do
      let condition ← list fuel
      expectKeyword "do"
      let body ← list fuel
      expectKeyword "done"
      return .loop untilTrue condition body

def eachBody : Nat → Reader Command
  | 0 => fail .endOfFile
  | fuel + 1 => do
      blanks
      let name ← takeWhile isNameChar
      lineBreaks fuel
      let chosen ← do
        if (← keyword?) = some "in" then
          skip 2
          pure (some (← words fuel))
        else pure none
      blanks
      if ← startsWith ";" then skip 1
      lineBreaks fuel
      expectKeyword "do"
      let body ← list fuel
      expectKeyword "done"
      return .each name chosen body

def arms : Nat → Reader (List (List Word × Command))
  | 0 => fail .endOfFile
  | fuel + 1 => do
      lineBreaks fuel
      if (← keyword?) = some "esac" then
        skip 4
        return []
      else
        if ← startsWith "(" then skip 1
        let choices ← patterns fuel
        let body ← list fuel
        blanks
        if ← startsWith ";;" then
          skip 2
          return (choices, body) :: (← arms fuel)
        else
          expectKeyword "esac"
          return [(choices, body)]

end

/-- And-or lists up to the end of a line. -/
def line : Nat → Reader (List Command)
  | 0 => fail .endOfFile
  | fuel + 1 => do
      let first ← andOr fuel
      blanks
      if ← startsWith ";;" then complain
      else if ← startsWith ";" then
        skip 1
        return first :: (← lineRest fuel)
      else if ← startsWith "&" then
        skip 1
        return .background first :: (← lineRest fuel)
      else if (← upcoming).isEmpty || (← startsWith "\n") then return [first]
      else complain
where
  lineRest (fuel : Nat) : Reader (List Command) := do
    blanks
    if (← upcoming).isEmpty || (← startsWith "\n") then return [] else line fuel

end Reader

/-- A bound on the depth of calls that a source can need. -/
def Source.bound (source : Source) : Nat := 8 * source.rest.length + 16

/-- The next complete command of a script, and what follows it; `none` at the end. -/
def Source.next? (source : Source) : Except (Misread × Nat) (Option (Command × Source)) := do
  let ((), start) ← (Reader.lineBreaks source.bound).run source
  if start.rest.isEmpty then return none
  let (commands, after) ← (Reader.line start.bound).run start
  return some (.sequence commands, after)

end TestHarness.Machine.Shell
