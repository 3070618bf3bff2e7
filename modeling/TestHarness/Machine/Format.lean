import TestHarness.Text.Octet

/-!
# Formatted output

Escapes with a backslash, as `echo` and `printf` take them, and the directives of `printf`.
-/

namespace TestHarness.Machine.Format

def isOctal (c : Char) : Bool := '0' ≤ c && c ≤ '7'

def octal (digits : Text) : Char :=
  Char.ofNat (digits.foldl (fun n d => n * 8 + (d.toNat - 48)) 0 % 256)

/-- The character for an escape, and how much of what follows the backslash it takes. -/
def escape (after : Text) : Char × Nat :=
  match after with
  | [] => ('\x5c', 0)
  | c :: _ =>
      if isOctal c then
        let digits := (after.take 3).takeWhile isOctal
        (octal digits, digits.length)
      else
        match c with
        | '\x5c' => ('\x5c', 1)
        | 'a' => ('\x07', 1)
        | 'b' => ('\x08', 1)
        | 'f' => ('\x0c', 1)
        | 'n' => ('\n', 1)
        | 'r' => ('\x0d', 1)
        | 't' => ('\t', 1)
        | 'v' => ('\x0b', 1)
        | _ => ('\x5c', 0)

/-- A text with its escapes taken; the flag says that `\c` ended all output. -/
def unescape (text : Text) : Text × Bool :=
  match text with
  | [] => ([], false)
  | '\x5c' :: 'c' :: _ => ([], true)
  | '\x5c' :: '0' :: d :: rest =>
      if isOctal d then
        let (c, taken) := escape (d :: rest)
        let (out, stop) := unescape ((d :: rest).drop (max taken 1))
        (c :: out, stop)
      else
        let (out, stop) := unescape (d :: rest)
        ('\x00' :: out, stop)
  | '\x5c' :: rest =>
      let (c, taken) := escape rest
      let (out, stop) := unescape (rest.drop taken)
      (c :: out, stop)
  | c :: rest =>
      let (out, stop) := unescape rest
      (c :: out, stop)
termination_by text.length
decreasing_by all_goals simp_wf <;> omega

/-- Words with blanks between them, escapes taken, and a line end unless told not to. -/
def echo (args : List Text) : Text :=
  let (quiet, words) := match args with
    | ['-', 'n'] :: words => (true, words)
    | words => (false, words)
  let rec go : List Text → Text
    | [] => if quiet then [] else ['\n']
    | word :: later =>
        let (out, stop) := unescape word
        if stop then out
        else if later.isEmpty then out ++ go later
        else out ++ ' ' :: go later
  go words

/-! ## Directives -/

/-- The value of a text as a whole number, and whether all of it was one. -/
def number (text : Text) : Int × Bool :=
  let (negative, digits) := match text with
    | '-' :: rest => (true, rest)
    | '+' :: rest => (false, rest)
    | rest => (false, rest)
  let run := digits.takeWhile Char.isDigit
  let n : Nat := run.foldl (fun n d => n * 10 + (d.toNat - 48)) 0
  (if negative then -(n : Int) else n, !run.isEmpty && run.length = digits.length)

/-- Fills a text up to a width. -/
def pad (left zero : Bool) (width : Nat) (text : Text) : Text :=
  let fill := List.replicate (width - text.length) (if zero && !left then '0' else ' ')
  if left then text ++ fill else fill ++ text

structure Directive where
  left : Bool
  zero : Bool
  width : Nat
  precision : Option Nat
  kind : Char

/-- The directive after a percent sign, and what follows it. -/
def directive? (text : Text) : Option (Directive × Text) :=
  let flags := text.takeWhile fun c => "-+ 0#".toList.contains c
  let rest := text.drop flags.length
  let width := rest.takeWhile Char.isDigit
  let rest := rest.drop width.length
  let (precision, rest) := match rest with
    | '.' :: rest =>
        let digits := rest.takeWhile Char.isDigit
        (some (number digits).1.toNat, rest.drop digits.length)
    | rest => (none, rest)
  match rest with
  | [] => none
  | kind :: rest =>
      some (⟨flags.contains '-', flags.contains '0', (number width).1.toNat, precision, kind⟩, rest)

/-- One directive applied to a word; the first flag says that output ends, the second an error. -/
def Directive.apply (d : Directive) (word : Text) : Text × Bool × Bool :=
  let cut (text : Text) := match d.precision with
    | some n => text.take n
    | none => text
  let whole (digits : Int → Text) : Text × Bool × Bool :=
    let (n, ok) := if word.isEmpty then (0, true) else number word
    (pad d.left d.zero d.width (digits n), false, !ok)
  match d.kind with
  | 's' => (pad d.left false d.width (cut word), false, false)
  | 'b' =>
      let (text, stop) := unescape word
      (pad d.left false d.width (cut text), stop, false)
  | 'c' => (pad d.left false d.width (word.take 1), false, false)
  | 'd' | 'i' | 'u' => whole fun n => (toString n).toList
  | 'x' => whole fun n => Nat.toDigits 16 n.toNat
  | 'X' => whole fun n => (Nat.toDigits 16 n.toNat).map Char.toUpper
  | 'o' => whole fun n => Nat.toDigits 8 n.toNat
  | _ => ([], true, true)

/-- What one reading of the format gives. -/
structure Pass where
  out : Text
  left : List Text
  stop : Bool
  failed : Bool

/-- Reads the format once, with a bound on its length. -/
def pass : Nat → Text → List Text → Pass
  | 0, _, words | _, [], words => ⟨[], words, false, false⟩
  | fuel + 1, '%' :: '%' :: rest, words =>
      let p := pass fuel rest words
      { p with out := '%' :: p.out }
  | fuel + 1, '%' :: rest, words =>
      match directive? rest with
      | none => ⟨[], words, true, true⟩
      | some (d, rest) =>
          let (text, stop, failed) := d.apply (words.headD [])
          if stop then ⟨text, words.tail, true, failed⟩
          else
            let p := pass fuel rest words.tail
            { p with out := text ++ p.out, failed := failed || p.failed }
  | fuel + 1, '\x5c' :: rest, words =>
      let (c, taken) := escape rest
      let p := pass fuel (rest.drop taken) words
      { p with out := c :: p.out }
  | fuel + 1, c :: rest, words =>
      let p := pass fuel rest words
      { p with out := c :: p.out }

/-- Reads the format again as long as it takes words and words are left. -/
def printfBy : Nat → Text → List Text → Text × Bool
  | 0, _, _ => ([], false)
  | fuel + 1, format, words =>
      let p := pass (format.length + 1) format words
      if p.stop || p.left.isEmpty || p.left.length = words.length then (p.out, p.failed)
      else
        let (more, failed) := printfBy fuel format p.left
        (p.out ++ more, p.failed || failed)

/-- The output, and whether a word was not what its directive wants. -/
def printf (format : Text) (words : List Text) : Text × Bool :=
  printfBy (words.length + 1) format words

end TestHarness.Machine.Format
