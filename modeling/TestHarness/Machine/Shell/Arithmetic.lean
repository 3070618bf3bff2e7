import TestHarness.Text.Octet

/-!
# Arithmetic

Whole-number expressions as they stand in a script: constants, variables, brackets, signs, negation
and binary operators by precedence.
-/

namespace TestHarness.Machine.Shell.Arithmetic

inductive Mistake where
  | malformed
  | zeroDivisor

def Mistake.message : Mistake → String
  | .malformed => "arithmetic expression: expecting primary"
  | .zeroDivisor => "division by zero"

structure Operator where
  symbol : String
  precedence : Nat
  apply : Int → Int → Except Mistake Int

def truth (b : Bool) : Int := if b then 1 else 0

/-- Longer symbols stand before their beginnings. -/
def operators : List Operator :=
  [⟨"||", 1, fun a b => .ok (truth (a != 0 || b != 0))⟩,
   ⟨"&&", 2, fun a b => .ok (truth (a != 0 && b != 0))⟩,
   ⟨"==", 3, fun a b => .ok (truth (a == b))⟩,
   ⟨"!=", 3, fun a b => .ok (truth (a != b))⟩,
   ⟨"<=", 4, fun a b => .ok (truth (a ≤ b))⟩,
   ⟨">=", 4, fun a b => .ok (truth (a ≥ b))⟩,
   ⟨"<", 4, fun a b => .ok (truth (a < b))⟩,
   ⟨">", 4, fun a b => .ok (truth (a > b))⟩,
   ⟨"+", 5, fun a b => .ok (a + b)⟩,
   ⟨"-", 5, fun a b => .ok (a - b)⟩,
   ⟨"*", 6, fun a b => .ok (a * b)⟩,
   ⟨"/", 6, fun a b => if b = 0 then .error .zeroDivisor else .ok (Int.tdiv a b)⟩,
   ⟨"%", 6, fun a b => if b = 0 then .error .zeroDivisor else .ok (Int.tmod a b)⟩]

def skipBlanks (text : Text) : Text := text.dropWhile Char.isWhitespace

def decimal (digits : Text) : Int := ((digits.foldl (fun n d => n * 10 + (d.toNat - 48)) 0 : Nat) : Int)

mutual

/-- An operand, and what follows it. -/
def operand (value : Text → Int) : Nat → Text → Except Mistake (Int × Text)
  | 0, _ => .error .malformed
  | fuel + 1, text =>
      match skipBlanks text with
      | '-' :: rest => do
          let (n, rest) ← operand value fuel rest
          return (-n, rest)
      | '+' :: rest => operand value fuel rest
      | '!' :: rest => do
          let (n, rest) ← operand value fuel rest
          return (truth (n == 0), rest)
      | '(' :: rest => do
          let (n, rest) ← expression value fuel 1 rest
          match skipBlanks rest with
          | ')' :: rest => return (n, rest)
          | _ => .error .malformed
      | c :: rest =>
          if c.isDigit then
            let digits := (c :: rest).takeWhile Char.isDigit
            .ok (decimal digits, (c :: rest).drop digits.length)
          else if c.isAlpha || c = '_' then
            let name := (c :: rest).takeWhile fun d => d.isAlphanum || d = '_'
            .ok (value name, (c :: rest).drop name.length)
          else .error .malformed
      | [] => .error .malformed

/-- An expression whose operators bind at least as strongly as a bound. -/
def expression (value : Text → Int) : Nat → Nat → Text → Except Mistake (Int × Text)
  | 0, _, _ => .error .malformed
  | fuel + 1, least, text => do
      let (n, rest) ← operand value fuel text
      continuation value fuel least n rest

/-- Takes further operators and their right sides. -/
def continuation (value : Text → Int) : Nat → Nat → Int → Text → Except Mistake (Int × Text)
  | 0, _, _, _ => .error .malformed
  | fuel + 1, least, left, text =>
      let ahead := skipBlanks text
      match operators.find? fun o => o.symbol.toList.isPrefixOf ahead with
      | none => .ok (left, ahead)
      | some o =>
          if o.precedence < least then .ok (left, ahead)
          else do
            let (right, rest) ← expression value fuel (o.precedence + 1) (ahead.drop o.symbol.length)
            continuation value fuel least (← o.apply left right) rest

end

/-- The value of an expression, given the values of variables; nothing at all is zero. -/
def evaluate (value : Text → Int) (text : Text) : Except Mistake Int := do
  if (skipBlanks text).isEmpty then return 0
  let (n, rest) ← expression value (4 * text.length + 8) 1 text
  if (skipBlanks rest).isEmpty then return n else .error .malformed

end TestHarness.Machine.Shell.Arithmetic
