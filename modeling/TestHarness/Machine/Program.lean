import TestHarness.Machine.System

/-!
# Starting programs

A program is looked for as it is named if its name holds a separator, and in the directories of the
search path otherwise. What is found must be an executable file, and either a tool or a script whose
first line names an interpreter, which is then started in its place.
-/

namespace TestHarness.Machine

/-- A tool and the words it is started with. -/
structure Image where
  tool : Tool
  words : List Text

/-- How a process ended. -/
inductive Exit where
  | code (status : Nat)
  | signal (number : Nat)

namespace Program

/-- How many interpreters may stand one behind the other. -/
def interpreterLimit : Nat := 5

/-- The longest word that a program can be given. -/
def wordLimit : Nat := 131071

def isBlank (c : Char) : Bool := c = ' ' || c = '\t'

/-- The interpreter in a script's first line, with its one argument if there is one. -/
def interpreter? (content : Text) : Option (Text × List Text) :=
  match content with
  | '#' :: '!' :: rest =>
      let line := rest.takeWhile (· ≠ '\n')
      let trimmed := ((line.dropWhile isBlank).reverse.dropWhile isBlank).reverse
      let path := trimmed.takeWhile (!isBlank ·)
      let argument := (trimmed.drop path.length).dropWhile isBlank
      if path.isEmpty then none
      else some (path, if argument.isEmpty then [] else [argument])
  | _ => none

/-- What the file at a path starts, with a number of interpreters left. -/
def load (files : Files) (cwd : Location) : Nat → Text → List Text → Except Refusal Image
  | left, path, words => do
      match ← files.find cwd (Octet.octets path) with
      | (_, .tool tool) => return ⟨tool, words⟩
      | (_, .file mode content) =>
          if mode &&& 0o111 = 0 then .error .accessDenied
          else
            match interpreter? (Octet.text content), left with
            | none, _ => .error .badFormat
            | some _, 0 => .error .linkLoop
            | some (interpreter, argument), left + 1 =>
                load files cwd left interpreter (interpreter :: argument ++ path :: words.tail)
      | (_, .directory) | (_, .link _) | (_, .fifo) | (_, .device) => .error .accessDenied

/-- The directories of a search path; an empty one is the working directory. -/
def directories (search : Text) : List Text :=
  let stretches := search.foldr
    (fun c (found : List Text) =>
      if c = ':' then [] :: found
      else match found with
        | [] => [[c]]
        | first :: later => (c :: first) :: later)
    [[]]
  stretches.map fun dir => if dir.isEmpty then ['.'] else dir

/--
Tries directories in order. A file that is not there lets the search go on; so does one that may not
be executed, which is remembered.
-/
def searchIn (files : Files) (cwd : Location) (words : List Text) (name : Text) :
    List Text → Bool → Except Refusal Image
  | [], denied => .error (if denied then .accessDenied else .noEntry)
  | dir :: later, denied =>
      match load files cwd interpreterLimit (dir ++ '/' :: name) words with
      | .ok image => .ok image
      | .error .noEntry | .error .notDirectory => searchIn files cwd words name later denied
      | .error .accessDenied => searchIn files cwd words name later true
      | .error refusal => .error refusal

/-- What a row of words starts. -/
def launch (files : Files) (cwd : Location) (search : Text) (words : List Text) :
    Except Refusal Image :=
  match words with
  | [] | [] :: _ => .error .noEntry
  | name :: _ =>
      if words.any fun word => wordLimit < word.length then .error .listTooLong
      else if name.contains '/' then load files cwd interpreterLimit name words
      else if Files.nameLimit < name.length then .error .nameTooLong
      else searchIn files cwd words name (directories search) false

end Program

end TestHarness.Machine
