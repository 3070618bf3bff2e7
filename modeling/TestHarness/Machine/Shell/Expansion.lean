import TestHarness.Machine.Format
import TestHarness.Machine.Pattern
import TestHarness.Machine.Shell.Arithmetic
import TestHarness.Machine.Shell.State

/-!
# From words to fields

A word is expanded into glyphs, which remember what was quoted and what came from an expansion. The
glyphs are divided into fields at the field separators, and a field with pattern characters is
replaced by the paths that it matches, if there are any.
-/

namespace TestHarness.Machine.Shell

inductive Glyph where
  | char (c : Char) (quoted : Bool) (splits : Bool)
  /-- Quotes around nothing: a field, if nothing else is there. -/
  | nothing
  /-- The end of one positional parameter and the start of the next. -/
  | cut

namespace Glyph

/-- The glyphs of a value. -/
def ofValue (quoted : Bool) (value : Text) : List Glyph :=
  if quoted && value.isEmpty then [.nothing] else value.map fun c => .char c quoted (!quoted)

/-- The text of glyphs in a place where nothing is divided. -/
def text (glyphs : List Glyph) : Text :=
  glyphs.filterMap fun
    | .char c _ _ => some c
    | .nothing => none
    | .cut => some ' '

/-- The source of a pattern. -/
def source (glyphs : List Glyph) : Pattern.Source :=
  glyphs.filterMap fun
    | .char c quoted _ => some (c, quoted)
    | .nothing => none
    | .cut => some (' ', true)

/-- Lets unquoted characters be divided. -/
def loose (glyphs : List Glyph) : List Glyph :=
  glyphs.map fun
    | .char c false _ => .char c false true
    | glyph => glyph

/-- Adds glyphs to the fields so far, of which the last may be unfinished. -/
def divide (separators : Text) : List Glyph → Option Pattern.Source → List Pattern.Source
  | [], unfinished => unfinished.toList
  | .nothing :: rest, unfinished => divide separators rest (some (unfinished.getD []))
  | .cut :: rest, unfinished => unfinished.toList ++ divide separators rest none
  | .char c quoted splits :: rest, unfinished =>
      if splits && !quoted && separators.contains c then
        if c.isWhitespace then unfinished.toList ++ divide separators rest none
        else unfinished.getD [] :: divide separators rest none
      else divide separators rest (some (unfinished.getD [] ++ [(c, quoted)]))

end Glyph

/-! ## Parameters -/

def separators : Eval Text := return (← Eval.lookup "IFS".toList).getD [' ', '\t', '\n']

/-- The value of a parameter that is one text. -/
def parameter? (name : Text) : Eval (Option Text) := do
  let s ← Eval.shell
  let flags := (if s.exitOnError then ['e'] else []) ++ (if s.noGlob then ['f'] else []) ++
    (if s.needSet then ['u'] else []) ++ (if s.trace then ['x'] else [])
  match name with
  | ['#'] => return some (toString s.parameters.length).toList
  | ['?'] => return some (toString s.status).toList
  | ['$'] => return some (toString s.process).toList
  | ['-'] => return some flags
  | ['!'] => return none
  | ['0'] => return some s.name
  | ['@'] | ['*'] =>
      return if s.parameters.isEmpty then none else some (List.intercalate [' '] s.parameters)
  | _ =>
      if name.all Char.isDigit then
        return s.parameters[(Format.number name).1.toNat - 1]?
      else Eval.lookup name

/-- All positional parameters, each on its own. -/
def allParameters (quoted : Bool) (parameters : List Text) : List Glyph :=
  (parameters.map (Glyph.ofValue quoted)).intersperse [.cut] |>.flatten

def takeEnds (text : Text) : Text := (text.reverse.dropWhile (· = '\n')).reverse

/-- The value of a variable in an arithmetic expression. -/
def numberOf (s : State) (name : Text) : Int := (Format.number ((s.bindings.lookup name).getD [])).1

/-! ## Words -/

section

variable (substitute : Text → Eval Text)

mutual

def partGlyphs : Part → Eval (List Glyph)
  | .text c => return [.char c false false]
  | .quoted [] => return [.nothing]
  | .quoted text => return text.map fun c => .char c true false
  | .command quoted source => do
      return Glyph.ofValue quoted (takeEnds (← substitute source))
  | .arithmetic quoted body => do
      let text := Glyph.text (← wordGlyphs body)
      match Arithmetic.evaluate (numberOf (← Eval.shell)) text with
      | .ok n => return Glyph.ofValue quoted (toString n).toList
      | .error mistake => Eval.abort (mistake.message.toList ++ [':', ' ', '\x22'] ++ text ++ ['\x22'])
  | .parameter quoted name modifier argument => do
      let s ← Eval.shell
      let value? ← parameter? name
      let present (colon : Bool) : Bool := match value? with
        | none => false
        | some value => !(colon && value.isEmpty)
      let own : List Glyph :=
        if name = ['@'] then allParameters quoted s.parameters
        else if name = ['*'] && !quoted then allParameters false s.parameters
        else match value? with
          | some value => Glyph.ofValue quoted value
          | none => if quoted then [.nothing] else []
      match modifier with
      | .plain =>
          if value?.isNone && s.needSet && name ≠ ['@'] && name ≠ ['*'] then
            Eval.abort (name ++ ": parameter not set".toList)
          else if name = ['*'] && quoted then
            let joint := (← separators).take 1
            return Glyph.ofValue true (List.intercalate joint s.parameters)
          else return own
      | .length => return Glyph.ofValue quoted (toString (value?.getD []).length).toList
      | .fallback colon => if present colon then return own else chosen quoted argument
      | .alternative colon => if present colon then chosen quoted argument else return []
      | .assign colon =>
          if present colon then return own
          else
            let text := Glyph.text (← wordGlyphs argument)
            Eval.assign name text
            return Glyph.ofValue quoted text
      | .require colon =>
          if present colon then return own
          else
            let text := Glyph.text (← wordGlyphs argument)
            let usual := if colon then "parameter not set or null" else "parameter not set"
            Eval.abort (name ++ [':', ' '] ++ if text.isEmpty then usual.toList else text)
      | .trimStart longest =>
          let items := Pattern.ofSource (Glyph.source (← wordGlyphs argument))
          return Glyph.ofValue quoted (Pattern.trimStart longest items (value?.getD []))
      | .trimEnd longest =>
          let items := Pattern.ofSource (Glyph.source (← wordGlyphs argument))
          return Glyph.ofValue quoted (Pattern.trimEnd longest items (value?.getD []))

/-- The word that a modifier puts in the place of a parameter. -/
def chosen (quoted : Bool) (argument : List Part) : Eval (List Glyph) := do
  let glyphs ← wordGlyphs argument
  return if quoted then glyphs else Glyph.loose glyphs

def wordGlyphs : List Part → Eval (List Glyph)
  | [] => return []
  | part :: rest => do
      let first ← partGlyphs part
      return first ++ (← wordGlyphs rest)

end

/-- A word in a place where it is one text. -/
def single (word : Word) : Eval Text := return Glyph.text (← wordGlyphs substitute word)

/-- A word as a pattern. -/
def pattern (word : Word) : Eval (List Pattern.Item) :=
  return Pattern.ofSource (Glyph.source (← wordGlyphs substitute word))

/-! ## Paths that match -/

/-- The stretches of a pattern between separators. -/
def stretches : Pattern.Source → List Pattern.Source
  | [] => [[]]
  | (c, quoted) :: rest =>
      if c = '/' then [] :: stretches rest
      else
        match stretches rest with
        | [] => [[(c, quoted)]]
        | first :: later => ((c, quoted) :: first) :: later

/-- The ways to go on from a path by one stretch. -/
def goOn (files : Files) (cwd : Location) (stretch : Pattern.Source) (base : Text) : List Text :=
  let items := Pattern.ofSource stretch
  if !Pattern.isSpecial items then [base ++ Pattern.plainText items]
  else
    let dir := if base.isEmpty then ['.'] else base
    match files.list cwd (Octet.octets dir) with
    | .error _ => []
    | .ok names =>
        let hidden := items.head? = some (.char '.')
        (names.map Octet.text).filterMap fun name =>
          if Pattern.accepts items name && (hidden || name.head? ≠ some '.') then some (base ++ name)
          else none

/-- The paths that match, in order. -/
def matching (files : Files) (cwd : Location) (source : Pattern.Source) : List Text :=
  let rec go : List Pattern.Source → List Text → List Text
    | [], bases => bases
    | [last], bases => bases.flatMap (goOn files cwd last)
    | stretch :: later, bases => go later ((bases.flatMap (goOn files cwd stretch)).map (· ++ ['/']))
  let found := (go (stretches source) [[]]).filter fun path =>
    (files.findLink cwd (Octet.octets path)).toOption.isSome
  found.mergeSort Octet.inOrder

/-- A field after its pattern characters have been looked at. -/
def settle (field : Pattern.Source) : Eval (List Text) := do
  let s ← Eval.shell
  let plain := field.map Prod.fst
  if s.noGlob || !Pattern.isSpecial (Pattern.ofSource field) then return [plain]
  else
    match matching (← Eval.files) s.cwd field with
    | [] => return [plain]
    | paths => return paths

/-- The fields that words come to. -/
def fields (words : List Word) : Eval (List Text) := do
  let mut found : List Text := []
  for word in words do
    let glyphs ← wordGlyphs substitute word
    for field in Glyph.divide (← separators) glyphs none do
      found := found ++ (← settle field)
  return found

end

end TestHarness.Machine.Shell
