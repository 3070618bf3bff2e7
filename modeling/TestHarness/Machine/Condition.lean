import TestHarness.Machine.Format
import TestHarness.Machine.System

/-!
# Conditions

The expressions of `test`: comparisons of texts and whole numbers, questions about files, negation,
conjunction, disjunction and brackets.
-/

namespace TestHarness.Machine.Condition

/-- What questions about files are asked of. -/
structure Setting where
  files : Files
  cwd : Location

def find? (s : Setting) (path : Text) : Option Node :=
  (s.files.find s.cwd (Octet.octets path)).toOption.map Prod.snd

def findLink? (s : Setting) (path : Text) : Option Node :=
  (s.files.findLink s.cwd (Octet.octets path)).toOption.map Prod.snd

def isExecutable : Node → Bool
  | .directory | .tool _ => true
  | .file mode _ => mode &&& 0o111 != 0
  | .link _ | .fifo | .device => false

/-- A question about one word. -/
def unary? (s : Setting) (operator : Text) : Option (Text → Bool) :=
  match operator with
  | ['-', 'n'] => some fun w => !w.isEmpty
  | ['-', 'z'] => some fun w => w.isEmpty
  | ['-', 'e'] | ['-', 'r'] | ['-', 'w'] => some fun w => (find? s w).isSome
  | ['-', 'f'] => some fun w => (find? s w).any Node.isRegular
  | ['-', 'd'] => some fun w => (find? s w).any Node.isDirectory
  | ['-', 'x'] => some fun w => (find? s w).any isExecutable
  | ['-', 'p'] => some fun w => find? s w = some .fifo
  | ['-', 'c'] => some fun w => find? s w = some .device
  | ['-', 'L'] | ['-', 'h'] => some fun w =>
      (findLink? s w).any fun
        | .link _ => true
        | _ => false
  | ['-', 's'] => some fun w =>
      (find? s w).any fun
        | .file _ content => !content.isEmpty
        | .directory | .tool _ => true
        | _ => false
  | ['-', 't'] => some fun _ => false
  | _ => none

def compare (a b : Text) (holds : Int → Int → Bool) : Except String Bool :=
  let read (t : Text) : Except String Int :=
    let trimmed := ((t.dropWhile (· = ' ')).reverse.dropWhile (· = ' ')).reverse
    let (n, ok) := Format.number trimmed
    if ok then .ok n else .error ("Illegal number: " ++ String.ofList t)
  do return holds (← read a) (← read b)

/-- A comparison of two words. -/
def binary? (operator : Text) : Option (Text → Text → Except String Bool) :=
  match operator with
  | ['='] => some fun a b => .ok (a == b)
  | ['!', '='] => some fun a b => .ok (a != b)
  | ['-', 'e', 'q'] => some fun a b => compare a b (· == ·)
  | ['-', 'n', 'e'] => some fun a b => compare a b (· != ·)
  | ['-', 'g', 't'] => some fun a b => compare a b (· > ·)
  | ['-', 'g', 'e'] => some fun a b => compare a b (· ≥ ·)
  | ['-', 'l', 't'] => some fun a b => compare a b (· < ·)
  | ['-', 'l', 'e'] => some fun a b => compare a b (· ≤ ·)
  | _ => none

def complain (word : Text) : Except String (Bool × List Text) :=
  .error (String.ofList word ++ ": unexpected operator")

mutual

def disjunction (s : Setting) : Nat → List Text → Except String (Bool × List Text)
  | 0, _ => .error "argument expected"
  | fuel + 1, words => do
      match ← conjunction s fuel words with
      | (a, ['-', 'o'] :: rest) =>
          let (b, rest) ← disjunction s fuel rest
          return (a || b, rest)
      | result => return result

def conjunction (s : Setting) : Nat → List Text → Except String (Bool × List Text)
  | 0, _ => .error "argument expected"
  | fuel + 1, words => do
      match ← primary s fuel words with
      | (a, ['-', 'a'] :: rest) =>
          let (b, rest) ← conjunction s fuel rest
          return (a && b, rest)
      | result => return result

def primary (s : Setting) : Nat → List Text → Except String (Bool × List Text)
  | 0, _ => .error "argument expected"
  | fuel + 1, words =>
      match words with
      | [] => .error "argument expected"
      | [word] => .ok (!word.isEmpty, [])
      | a :: operator :: rest =>
          match binary? operator, rest with
          | some holds, b :: rest => do return (← holds a b, rest)
          | _, _ =>
              if a = ['!'] then do
                let (b, rest) ← primary s fuel (operator :: rest)
                return (!b, rest)
              else if a = ['('] then do
                match ← disjunction s fuel (operator :: rest) with
                | (b, [')'] :: rest) => return (b, rest)
                | _ => .error "closing paren expected"
              else
                match unary? s a with
                | some holds => .ok (holds operator, rest)
                | none => .ok (!a.isEmpty, operator :: rest)

end

/-- Whether a condition holds, or what is wrong with it. -/
def holds (s : Setting) (words : List Text) : Except String Bool := do
  if words.isEmpty then return false
  let (value, rest) ← disjunction s (3 * words.length + 3) words
  match rest with
  | [] => return value
  | word :: _ => (complain word).map Prod.fst

end TestHarness.Machine.Condition
