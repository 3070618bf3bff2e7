import TestHarness.Machine.Shell.Script

/-!
# Reading words

A reader takes characters off a source and keeps count of lines. Words are read into their parts;
every reader that calls itself takes a bound on the depth of its calls, for which the length of the
source is enough.
-/

namespace TestHarness.Machine.Shell

/-- What is left to read, and the number of its first line. -/
structure Source where
  rest : Text
  line : Nat

inductive Misread where
  | unexpected (token : String)
  | endOfFile
  | openQuote
  | badSubstitution

def Misread.message : Misread → String
  | .unexpected token => "Syntax error: \"" ++ token ++ "\" unexpected"
  | .endOfFile => "Syntax error: end of file unexpected"
  | .openQuote => "Syntax error: Unterminated quoted string"
  | .badSubstitution => "Syntax error: Bad substitution"

/-- A reader fails with the line it has reached. -/
abbrev Reader := StateT Source (Except (Misread × Nat))

namespace Reader

def fail {α : Type} (misread : Misread) : Reader α := do throw (misread, (← get).line)

/-- Passes over a number of characters. -/
def skip (count : Nat) : Reader Unit :=
  modify fun s => ⟨s.rest.drop count, s.line + (s.rest.take count).count '\n'⟩

/-- Takes a run of characters. -/
def takeWhile (p : Char → Bool) : Reader Text := do
  let run := (← get).rest.takeWhile p
  skip run.length
  return run

def upcoming : Reader Text := return (← get).rest

def startsWith (token : String) : Reader Bool := return token.toList.isPrefixOf (← upcoming)

/-- What a blank stretch, with joined lines and comments, takes up. -/
def blankLength : Text → Nat
  | ' ' :: rest | '\t' :: rest => blankLength rest + 1
  | '\x5c' :: '\n' :: rest => blankLength rest + 2
  | '#' :: rest => (rest.takeWhile (· ≠ '\n')).length + 1
  | _ => 0

def blanks : Reader Unit := do skip (blankLength (← upcoming))

/-- Passes over blanks and line ends, up to a bound. -/
def lineBreaks : Nat → Reader Unit
  | 0 => pure ()
  | fuel + 1 => do
      blanks
      if ← startsWith "\n" then
        skip 1
        lineBreaks fuel

/-! ## Characters and names -/

def isMeta (c : Char) : Bool := " \t\n;&|<>()".toList.contains c

def isNameStart (c : Char) : Bool := c.isAlpha || c = '_'

def isNameChar (c : Char) : Bool := c.isAlphanum || c = '_'

def isSpecialParameter (c : Char) : Bool := "@*#?-$!".toList.contains c

def reserved : List String :=
  ["!", "\x7b", "\x7d", "if", "then", "else", "elif", "fi", "while", "until", "for", "in", "do",
   "done", "case", "esac"]

/-- The reserved words that can only end something. -/
def closers : List String := ["then", "else", "elif", "fi", "do", "done", "esac", "\x7d"]

/-- The reserved word that comes next, if one does. -/
def keyword? : Reader (Option String) := do
  let raw := String.ofList ((← upcoming).takeWhile (!isMeta ·))
  return if reserved.contains raw then some raw else none

/-- What a complaint about the next token calls it. -/
def complain {α : Type} : Reader α := do
  match ← upcoming with
  | [] => fail .endOfFile
  | '\n' :: _ => fail (.unexpected "newline")
  | ';' :: ';' :: _ => fail (.unexpected ";;")
  | '&' :: '&' :: _ => fail (.unexpected "&&")
  | '|' :: '|' :: _ => fail (.unexpected "||")
  | c :: rest =>
      if isMeta c then fail (.unexpected (String.ofList [c]))
      else fail (.unexpected (String.ofList (c :: rest.takeWhile (!isMeta ·))))

def expect (token : String) : Reader Unit := do
  if ← startsWith token then skip token.length else complain

def expectKeyword (word : String) : Reader Unit := do
  blanks
  if (← keyword?) = some word then skip word.length else complain

/-! ## Stretches taken as they stand -/

/-- The text before the bracket that closes `depth` open ones, and what follows that bracket. -/
def closing? : Nat → Option Char → Text → Option (Text × Text)
  | _, _, [] => none
  | depth, some '\x27', c :: rest =>
      (closing? depth (if c = '\x27' then none else some '\x27') rest).map fun (t, r) => (c :: t, r)
  | depth, quote, '\x5c' :: c :: rest =>
      (closing? depth quote rest).map fun (t, r) => ('\x5c' :: c :: t, r)
  | depth, some q, c :: rest =>
      (closing? depth (if c = q then none else some q) rest).map fun (t, r) => (c :: t, r)
  | depth, none, c :: rest =>
      if c = ')' && depth = 0 then some ([], rest)
      else
        let depth := if c = '(' then depth + 1 else if c = ')' then depth - 1 else depth
        let quote := if c = '\x27' || c = '\x22' then some c else none
        (closing? depth quote rest).map fun (t, r) => (c :: t, r)

/-- The command between backquotes, with the backslashes that only protect it taken away. -/
def backquoted? (quoted : Bool) : Text → Option (Text × Nat)
  | [] => none
  | '\x60' :: _ => some ([], 1)
  | '\x5c' :: c :: rest =>
      (backquoted? quoted rest).map fun (t, n) =>
        (if c = '$' || c = '\x60' || c = '\x5c' || (quoted && c = '\x22') then c :: t
          else '\x5c' :: c :: t, n + 2)
  | c :: rest => (backquoted? quoted rest).map fun (t, n) => (c :: t, n + 1)

/-! ## Words -/

/-- What surrounds a part of a word. -/
inductive Around where
  | bare
  | double
  | brace (quoted : Bool)
  /-- An arithmetic expression, which is all of the source. -/
  | whole

def Around.quotes : Around → Bool
  | .bare => false
  | .double | .whole => true
  | .brace quoted => quoted

def Around.endsAt : Around → Char → Bool
  | .bare, c => isMeta c
  | .double, c => c = '\x22'
  | .brace _, c => c = '\x7d'
  | .whole, _ => false

/-- A character that stands for itself. -/
def literal (around : Around) (c : Char) : Word :=
  if around.quotes then [.quoted [c]] else [.text c]

def parameterName : Reader Text := do
  match ← upcoming with
  | c :: _ =>
      if isNameStart c then takeWhile isNameChar
      else if c.isDigit then takeWhile Char.isDigit
      else if isSpecialParameter c then
        skip 1
        return [c]
      else fail .badSubstitution
  | [] => fail .endOfFile

/-- The modifier after a parameter's name; the flag says whether its word keeps outer quotes. -/
def modifier : Reader (Modifier × Bool) := do
  let colon ← startsWith ":"
  if colon then skip 1
  match ← upcoming with
  | '-' :: _ => skip 1; return (.fallback colon, true)
  | '=' :: _ => skip 1; return (.assign colon, true)
  | '?' :: _ => skip 1; return (.require colon, true)
  | '+' :: _ => skip 1; return (.alternative colon, true)
  | '#' :: '#' :: _ => skip 2; return (.trimStart true, false)
  | '#' :: _ => skip 1; return (.trimStart false, false)
  | '%' :: '%' :: _ => skip 2; return (.trimEnd true, false)
  | '%' :: _ => skip 1; return (.trimEnd false, false)
  | '\x7d' :: _ => return (.plain, true)
  | _ => fail .badSubstitution

mutual

/-- The parts up to where the surroundings end. -/
def parts : Nat → Around → Reader Word
  | 0, _ => fail .endOfFile
  | fuel + 1, around => do
      match ← upcoming with
      | [] =>
          match around with
          | .bare | .whole => return []
          | .double | .brace _ => fail .openQuote
      | c :: _ =>
          if around.endsAt c then return []
          else
            let first ← part fuel around c
            return first ++ (← parts fuel around)

/-- The parts that start with a given character. -/
def part : Nat → Around → Char → Reader Word
  | 0, _, _ => fail .endOfFile
  | fuel + 1, around, c => do
      skip 1
      if c = '\x5c' then
        match ← upcoming with
        | [] => return literal around c
        | '\n' :: _ => skip 1; return []
        | d :: _ =>
            skip 1
            if around.quotes && !("$\x60\x22\x5c\x7d".toList.contains d) then
              return [.quoted [c, d]]
            else return [.quoted [d]]
      else if c = '\x27' && !around.quotes then
        let inner ← takeWhile (· ≠ '\x27')
        if (← upcoming).isEmpty then fail .openQuote
        skip 1
        return [.quoted inner]
      else if c = '\x22' then
        let inner ← parts fuel .double
        skip 1
        return if inner.isEmpty then [.quoted []] else inner
      else if c = '$' then dollar fuel around
      else if c = '\x60' then
        match backquoted? around.quotes (← upcoming) with
        | none => fail .openQuote
        | some (source, length) =>
            skip length
            return [.command around.quotes source]
      else return literal around c

/-- What follows a dollar sign. -/
def dollar : Nat → Around → Reader Word
  | 0, _ => fail .endOfFile
  | fuel + 1, around => do
      let quoted := around.quotes
      match ← upcoming with
      | '\x7b' :: '#' :: c :: _ =>
          if c = '\x7d' then
            skip 3
            return [.parameter quoted ['#'] .plain []]
          else
            skip 2
            let name ← parameterName
            expect "\x7d"
            return [.parameter quoted name .length []]
      | '\x7b' :: _ =>
          skip 1
          let name ← parameterName
          let (m, keeps) ← modifier
          let argument ← parts fuel (.brace (keeps && quoted))
          expect "\x7d"
          return [.parameter quoted name m argument]
      | '(' :: '(' :: rest =>
          match closing? 1 none rest with
          | some (body, _) =>
              skip (body.length + 3)
              let outside ← get
              set (⟨body.dropLast, outside.line⟩ : Source)
              let inner ← parts fuel .whole
              set outside
              return [.arithmetic quoted inner]
          | none => fail .endOfFile
      | '(' :: rest =>
          match closing? 0 none rest with
          | some (source, _) =>
              skip (source.length + 2)
              return [.command quoted source]
          | none => fail .endOfFile
      | c :: _ =>
          if isNameStart c then
            return [.parameter quoted (← takeWhile isNameChar) .plain []]
          else if c.isDigit || isSpecialParameter c then
            skip 1
            return [.parameter quoted [c] .plain []]
          else return literal around '$'
      | [] => return literal around '$'

end

end Reader

end TestHarness.Machine.Shell
