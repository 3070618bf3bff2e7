import Mathlib.Data.List.Basic
import TestHarness.Inspect
import TestHarness.Proofs.Equality
import TestHarness.Proofs.Text.Literal

/-!
# Reading inspected values back

The text of a value shows all there is to it. Readers take a text from the front and are put
together in the order in which the text is written; `Takes` says that a reader takes exactly what
was written for a value, whatever follows. Fixed texts, numbers, literals, options and lists each
have one such fact, and those about whole values are chained from them.
-/

namespace TestHarness.Inspect

/-! ## Readers -/

/-- Reads a value off the front of a text and leaves the rest. -/
abbrev Reader (α : Type) := StateT (List Char) Option α

namespace Reader

variable {α : Type}

/-- Reads a text that is known beforehand. -/
def expect (text : String) : Reader Unit := fun input =>
  (input.dropPrefix? text.toList).map fun rest => ((), rest)

def path : Reader Path := fun input =>
  (Literal.octets? input).map fun (octets, rest) => (⟨octets⟩, rest)

def string : Reader String := fun input =>
  (Literal.text? input).map fun (text, rest) => (String.ofList text, rest)

def bool : Reader Bool :=
  (do expect "true"; return true) <|> (do expect "false"; return false)

/-- Reads a number and the text after it, which shows where the number ends. -/
def number (after : String) : Reader Nat := fun input =>
  ((input.dropWhile Char.isDigit).dropPrefix? after.toList).map fun rest =>
    (Nat.ofDigitChars 10 (input.takeWhile Char.isDigit) 0, rest)

def optional (reader : Reader α) : Reader (Option α) :=
  (do expect "None"; return none) <|>
  (do expect "Some("; let value ← reader; expect ")"; return some value)

/-- Reads the values of a list after the first, at most so many. -/
def items (reader : Reader α) : Nat → Reader (List α)
  | 0 => failure
  | bound + 1 =>
      (do expect "]"; return []) <|>
      (do expect ", "; let value ← reader; let later ← items reader bound; return value :: later)

/-- Reads a list; it cannot have more values than symbols. -/
def list (reader : Reader α) : Reader (List α) := do
  expect "["
  (do expect "]"; return []) <|>
  (do
    let value ← reader
    let later ← fun input => items reader input.length input
    return value :: later)

def config : Reader Config := do
  expect "HarnessConfig \x7b tests_dir: "
  let testsDir ← path
  expect ", runner: "
  let runner ← string
  expect " \x7d"
  return ⟨testsDir, runner⟩

def entry : Reader Entry := do
  expect "TestEntry \x7b path: "
  let path ← path
  expect ", is_file: "
  let isFile ← bool
  expect " \x7d"
  return ⟨path, isFile⟩

def tally : Reader Tally := do
  expect "Tally \x7b processed: "
  let processed ← number ", failure_count: "
  let failureCount ← number ", last_failing_path: "
  let lastFailing ← optional path
  expect ", failing_paths: "
  let failing ← list path
  expect " \x7d"
  return ⟨processed, failureCount, lastFailing, failing⟩

def outcome : Reader Outcome :=
  (do expect "Completed("; let tally ← tally; expect ")"; return .completed tally) <|>
  (do expect "Aborted \x7b path: "; let path ← path; expect " \x7d"; return .aborted path)

end Reader

/-! ## Reading what was written -/

/-- The reader takes the text for the value, and nothing of what follows. -/
def Takes {α : Type} (reader : Reader α) (text : List Char) (value : α) : Prop :=
  ∀ rest, reader.run (text ++ rest) = some (value, rest)

/-- The reader takes nothing that begins with the text. -/
def Refuses {α : Type} (reader : Reader α) (text : List Char) : Prop :=
  ∀ rest, reader.run (text ++ rest) = none

variable {α β : Type}

theorem Takes.bind {reader : Reader α} {next : α → Reader β} {first second : List Char} {a : α}
    {b : β} (hfirst : Takes reader first a) (hsecond : Takes (next a) second b) :
    Takes (reader >>= next) (first ++ second) b := by
  intro rest
  rw [StateT.run_bind, List.append_assoc, hfirst]
  exact hsecond rest

theorem Takes.pure (value : α) : Takes (Pure.pure value : Reader α) [] value := fun _ => rfl

/-- What is made of a value takes no further text. -/
theorem Takes.map {reader : Reader α} {text : List Char} {a : α} (htakes : Takes reader text a)
    (make : α → β) : Takes (do return make (← reader)) text (make a) := by
  have hmade : Takes (do return make (← reader)) (text ++ []) (make a) :=
    htakes.bind (.pure (make a))
  rwa [List.append_nil] at hmade

theorem Takes.left {reader other : Reader α} {text : List Char} {value : α}
    (htakes : Takes reader text value) : Takes (reader <|> other) text value := by
  intro rest
  rw [StateT.run_orElse, htakes]
  rfl

theorem Takes.right {reader other : Reader α} {text : List Char} {value : α}
    (hrefuses : Refuses reader text) (htakes : Takes other text value) :
    Takes (reader <|> other) text value := by
  intro rest
  rw [StateT.run_orElse, hrefuses, htakes]
  rfl

theorem Refuses.bind {reader : Reader α} {text : List Char} (hrefuses : Refuses reader text)
    (next : α → Reader β) : Refuses (reader >>= next) text := by
  intro rest
  rw [StateT.run_bind, hrefuses]
  rfl

theorem Refuses.append {reader : Reader α} {text : List Char} (hrefuses : Refuses reader text)
    (more : List Char) : Refuses reader (text ++ more) := by
  intro rest
  rw [List.append_assoc]
  exact hrefuses _

theorem takes_expect (text : String) : Takes (Reader.expect text) text.toList () := by
  intro rest
  have hdrop := List.dropPrefix?_append_of_beq rest (BEq.rfl : text.toList == text.toList)
  exact congrArg _ hdrop

/-- A text known beforehand, after which the value is complete. -/
theorem takes_closing (text : String) (value : α) :
    Takes (do Reader.expect text; return value) text.toList value :=
  (takes_expect text).map fun _ => value

/-- Neither text begins the other. -/
def Apart (text other : String) : Prop :=
  ¬ text.toList <+: other.toList ∧ ¬ other.toList <+: text.toList

instance (text other : String) : Decidable (Apart text other) :=
  inferInstanceAs (Decidable (_ ∧ _))

theorem refuses_expect {text other : String} (hapart : Apart text other) :
    Refuses (Reader.expect text) other.toList := by
  intro rest
  cases hdrop : (other.toList ++ rest).dropPrefix? text.toList with
  | none => exact congrArg _ hdrop
  | some after =>
      obtain ⟨found, happend, hfound⟩ := List.dropPrefix?_eq_some_iff.mp hdrop
      obtain rfl := eq_of_beq hfound
      rcases List.prefix_or_prefix_of_prefix ⟨after, happend.symm⟩
        (List.prefix_append other.toList rest) with hle | hge
      · exact absurd hle hapart.1
      · exact absurd hge hapart.2

theorem takes_path (p : Path) : Takes .path (path p).toList p := by
  intro rest
  rw [path, String.toList_ofList]
  exact congrArg _ (Literal.octets?_ofOctets p.octets rest)

theorem takes_string (text : String) : Takes .string (string text).toList text := by
  intro rest
  rw [string, String.toList_ofList, StateT.run, Reader.string, Literal.text?_ofText,
    Option.map_some]
  exact congrArg (fun text => some (text, rest)) String.ofList_toList

theorem takes_bool (b : Bool) : Takes .bool (bool b).toList b := by
  cases b with
  | true => exact (takes_closing "true" true).left
  | false =>
      refine .right ?_ (takes_closing "false" false)
      exact (refuses_expect (by decide)).bind _

/-- A number ends where a symbol comes that is no digit. -/
theorem takes_number (n : Nat) {after : String} {c : Char} {later : List Char}
    (hafter : after.toList = c :: later) (hc : c.isDigit = false) :
    Takes (.number after) ((toString n).toList ++ after.toList) n := by
  intro rest
  have hdigits : ∀ d ∈ Nat.toDigits 10 n, d.isDigit = true := fun _ hd =>
    Nat.isDigit_of_mem_toDigits (by decide) (by decide) hd
  have hfront : (Nat.toDigits 10 n ++ (after.toList ++ rest)).takeWhile Char.isDigit =
      Nat.toDigits 10 n := by
    rw [List.takeWhile_append_of_pos hdigits, hafter, List.cons_append,
      List.takeWhile_cons_of_neg (by simp [hc]), List.append_nil]
  have hback : (Nat.toDigits 10 n ++ (after.toList ++ rest)).dropWhile Char.isDigit =
      after.toList ++ rest := by
    rw [List.dropWhile_append_of_pos hdigits, hafter, List.cons_append,
      List.dropWhile_cons_of_neg (by simp [hc])]
  have hdrop := List.dropPrefix?_append_of_beq rest (BEq.rfl : after.toList == after.toList)
  rw [Nat.toString_eq_ofList_toDigits, String.toList_ofList, List.append_assoc, StateT.run,
    Reader.number, hfront, hback, hdrop, Option.map_some, Nat.ofDigitChars_ten_toDigits]

theorem takes_optional {reader : Reader α} {write : α → String}
    (hreader : ∀ value, Takes reader (write value).toList value) (value : Option α) :
    Takes (.optional reader) (optional (value.map write)).toList value := by
  cases value with
  | none => exact (takes_closing "None" none).left
  | some value =>
      rw [Option.map_some, optional, String.toList_append, String.toList_append,
        List.append_assoc]
      refine .right ((Refuses.append ?_ _).bind _) ?_
      · exact refuses_expect (by decide)
      · exact (takes_expect "Some(").bind
          ((hreader value).bind (takes_closing ")" (some value)))

/-- The texts of a list after its first, each behind a comma. -/
def tailText (texts : List String) : List Char :=
  texts.flatMap fun text => ", ".toList ++ text.toList

theorem toList_intercalate (first : String) (later : List String) :
    (", ".intercalate (first :: later)).toList = first.toList ++ tailText later := by
  induction later generalizing first with
  | nil => rw [String.intercalate_singleton, tailText, List.flatMap_nil, List.append_nil]
  | cons second later ih =>
      rw [String.intercalate_cons_cons, String.toList_append, String.toList_append, ih, tailText,
        tailText, List.flatMap_cons, List.append_assoc, List.append_assoc]

theorem takes_items {reader : Reader α} {write : α → String}
    (hreader : ∀ value, Takes reader (write value).toList value) (values : List α) {bound : Nat}
    (hbound : values.length < bound) :
    Takes (.items reader bound) (tailText (values.map write) ++ "]".toList) values := by
  induction values generalizing bound with
  | nil =>
      obtain ⟨bound, rfl⟩ := Nat.exists_eq_add_of_lt hbound
      exact (takes_closing "]" []).left
  | cons value values ih =>
      obtain ⟨bound, rfl⟩ : ∃ smaller, bound = smaller + 1 :=
        Nat.exists_eq_add_one_of_ne_zero (Nat.ne_zero_of_lt hbound)
      have hlater := ih (Nat.lt_of_succ_lt_succ hbound)
      rw [List.map_cons, tailText, List.flatMap_cons, List.append_assoc, List.append_assoc]
      refine .right ((Refuses.append ?_ _).bind _) ?_
      · exact refuses_expect (by decide)
      · exact (takes_expect ", ").bind ((hreader value).bind (hlater.map (value :: ·)))

theorem length_le_tailText (texts : List String) : texts.length ≤ (tailText texts).length := by
  induction texts with
  | nil => exact Nat.zero_le _
  | cons text texts ih =>
      rw [tailText, List.flatMap_cons, List.length_append, List.length_append, List.length_cons]
      have hcomma : ", ".toList.length = 2 := rfl
      rw [tailText] at ih
      omega

/-- A list is read back if its values are and none of them is taken for the end of the list. -/
theorem takes_list {reader : Reader α} {write : α → String}
    (hreader : ∀ value, Takes reader (write value).toList value)
    (hend : ∀ value, Refuses (.expect "]") (write value).toList) (values : List α) :
    Takes (.list reader) (list (values.map write)).toList values := by
  rw [list, String.toList_append, String.toList_append, List.append_assoc]
  apply (takes_expect "[").bind
  cases values with
  | nil => exact (takes_closing "]" []).left
  | cons value values =>
      rw [List.map_cons, toList_intercalate, List.append_assoc]
      refine .right (((hend value).append _).bind _) ((hreader value).bind ?_)
      refine Takes.map ?_ (value :: ·)
      intro rest
      apply takes_items hreader values
      have hlength := length_le_tailText (values.map write)
      rw [List.length_map] at hlength
      rw [List.length_append, List.length_append]
      have hclose : "]".toList.length = 1 := rfl
      omega

/-! ## Whole values -/

theorem toList_config (c : Config) :
    (config c).toList = "HarnessConfig \x7b tests_dir: ".toList ++ ((path c.testsDir).toList ++
      (", runner: ".toList ++ ((string c.runner).toList ++ " \x7d".toList))) := by
  simp only [config, record, List.map_cons, List.map_nil, String.intercalate_cons_cons,
    String.intercalate_singleton, String.toList_append, List.append_assoc]
  rfl

theorem toList_entry (e : Entry) :
    (entry e).toList = "TestEntry \x7b path: ".toList ++ ((path e.path).toList ++
      (", is_file: ".toList ++ ((bool e.isFile).toList ++ " \x7d".toList))) := by
  simp only [entry, record, List.map_cons, List.map_nil, String.intercalate_cons_cons,
    String.intercalate_singleton, String.toList_append, List.append_assoc]
  rfl

theorem toList_tally (t : Tally) :
    (tally t).toList = "Tally \x7b processed: ".toList ++
      (((toString t.processed).toList ++ ", failure_count: ".toList) ++
      (((toString t.failureCount).toList ++ ", last_failing_path: ".toList) ++
      ((optional (t.lastFailing.map path)).toList ++ (", failing_paths: ".toList ++
      ((list (t.failing.map path)).toList ++ " \x7d".toList))))) := by
  simp only [tally, record, List.map_cons, List.map_nil, String.intercalate_cons_cons,
    String.intercalate_singleton, String.toList_append, List.append_assoc]
  rfl

theorem toList_completed (t : Tally) :
    (outcome (.completed t)).toList = "Completed(".toList ++ ((tally t).toList ++ ")".toList) := by
  rw [outcome, String.toList_append, String.toList_append, List.append_assoc]

theorem toList_aborted (p : Path) :
    (outcome (.aborted p)).toList =
      "Aborted \x7b path: ".toList ++ ((path p).toList ++ " \x7d".toList) := by
  simp only [outcome, record, List.map_cons, List.map_nil, String.intercalate_singleton,
    String.toList_append, List.append_assoc]
  rfl

theorem takes_config (c : Config) : Takes .config (config c).toList c := by
  rw [toList_config]
  exact (takes_expect _).bind ((takes_path _).bind ((takes_expect _).bind
    ((takes_string _).bind (takes_closing _ _))))

theorem takes_entry (e : Entry) : Takes .entry (entry e).toList e := by
  rw [toList_entry]
  exact (takes_expect _).bind ((takes_path _).bind ((takes_expect _).bind
    ((takes_bool _).bind (takes_closing _ _))))

theorem takes_tally (t : Tally) : Takes .tally (tally t).toList t := by
  have hend (p : Path) : Refuses (.expect "]") (path p).toList := by
    intro rest
    rw [path, String.toList_ofList]
    rfl
  have hprocessed : Takes (.number ", failure_count: ")
      ((toString t.processed).toList ++ ", failure_count: ".toList) t.processed :=
    takes_number t.processed rfl rfl
  have hfailures : Takes (.number ", last_failing_path: ")
      ((toString t.failureCount).toList ++ ", last_failing_path: ".toList) t.failureCount :=
    takes_number t.failureCount rfl rfl
  have hlast := takes_optional takes_path t.lastFailing
  have hfailing := takes_list takes_path hend t.failing
  rw [toList_tally]
  exact (takes_expect _).bind (hprocessed.bind (hfailures.bind (hlast.bind
    ((takes_expect _).bind (hfailing.bind (takes_closing _ _))))))

theorem takes_outcome (o : Outcome) : Takes .outcome (outcome o).toList o := by
  cases o with
  | completed t =>
      rw [toList_completed]
      refine .left ?_
      exact (takes_expect _).bind ((takes_tally t).bind (takes_closing _ _))
  | aborted p =>
      rw [toList_aborted]
      refine .right ((Refuses.append ?_ _).bind _) ?_
      · exact refuses_expect (by decide)
      · exact (takes_expect _).bind ((takes_path p).bind (takes_closing _ _))

/-- A reader that expects one opening turns down the texts that have another. -/
theorem refuses_opening {text more : List Char} {expected opening : String}
    (htext : text = opening.toList ++ more) (hapart : Apart expected opening)
    (next : Unit → Reader α) : Refuses (Reader.expect expected >>= next) text := by
  rw [htext]
  exact ((refuses_expect hapart).append more).bind next

theorem refuses_outcome {expected : String} (hcompleted : Apart expected "Completed(")
    (haborted : Apart expected "Aborted \x7b path: ") (next : Unit → Reader α) (o : Outcome) :
    Refuses (Reader.expect expected >>= next) (outcome o).toList := by
  cases o with
  | completed t => exact refuses_opening (toList_completed t) hcompleted next
  | aborted p => exact refuses_opening (toList_aborted p) haborted next

/-- A value of any kind that holds paths. -/
inductive Value where
  | config (c : Config)
  | entry (e : Entry)
  | tally (t : Tally)
  | outcome (o : Outcome)
  deriving DecidableEq

namespace Value

def text : Value → String
  | config c => Inspect.config c
  | entry e => Inspect.entry e
  | tally t => Inspect.tally t
  | outcome o => Inspect.outcome o

def same : Value → Value → Bool
  | config c, config d => c == d
  | entry a, entry b => a == b
  | tally t, tally u => t == u
  | outcome o, outcome p => o == p
  | _, _ => false

instance : BEq Value := ⟨same⟩

def reader : Reader Value :=
  (do return config (← Reader.config)) <|> (do return entry (← Reader.entry)) <|>
  (do return tally (← Reader.tally)) <|> (do return outcome (← Reader.outcome))

/-- The value that a text shows, from its first symbol to its last. -/
def ofText? (text : String) : Option Value :=
  match reader.run text.toList with
  | some (value, []) => some value
  | _ => none

theorem takes_text (value : Value) : Takes reader value.text.toList value := by
  cases value with
  | config c => exact .left ((takes_config c).map config)
  | entry e =>
      have hconfig : Refuses .config (Inspect.entry e).toList :=
        refuses_opening (toList_entry e) (by decide) _
      exact .right (hconfig.bind _) (.left ((takes_entry e).map entry))
  | tally t =>
      have hconfig : Refuses .config (Inspect.tally t).toList :=
        refuses_opening (toList_tally t) (by decide) _
      have hentry : Refuses .entry (Inspect.tally t).toList :=
        refuses_opening (toList_tally t) (by decide) _
      exact .right (hconfig.bind _) (.right (hentry.bind _) (.left ((takes_tally t).map tally)))
  | outcome o =>
      have hconfig : Refuses .config (Inspect.outcome o).toList :=
        refuses_outcome (by decide) (by decide) _ o
      have hentry : Refuses .entry (Inspect.outcome o).toList :=
        refuses_outcome (by decide) (by decide) _ o
      have htally : Refuses .tally (Inspect.outcome o).toList :=
        refuses_outcome (by decide) (by decide) _ o
      exact .right (hconfig.bind _) (.right (hentry.bind _)
        (.right (htally.bind _) ((takes_outcome o).map outcome)))

theorem ofText?_text (value : Value) : ofText? value.text = some value := by
  have hread := value.takes_text []
  rw [List.append_nil] at hread
  rw [ofText?, hread]

theorem same_self (value : Value) : (value == value) = true := by
  cases value with
  | config c => exact (BEq.rfl : (c == c) = true)
  | entry e => exact (BEq.rfl : (e == e) = true)
  | tally t => exact (BEq.rfl : (t == t) = true)
  | outcome o => exact (BEq.rfl : (o == o) = true)

/-- A text shows one value only. -/
theorem eq_of_text_eq {value other : Value} (htext : value.text = other.text) : value = other := by
  have hread := value.ofText?_text
  rw [htext, ofText?_text] at hread
  exact (Option.some.inj hread).symm

end Value

/-! ## No control characters -/

open Literal (Visible)

theorem visible_path (p : Path) : Visible (path p).toList := by
  rw [path, String.toList_ofList]
  exact Literal.visible_ofOctets p.octets

theorem visible_string (text : String) : Visible (string text).toList := by
  rw [string, String.toList_ofList]
  exact Literal.visible_ofText text.toList

theorem visible_bool (b : Bool) : Visible (bool b).toList := by
  cases b <;> decide

theorem visible_number (n : Nat) : Visible (toString n).toList := by
  rw [Nat.toString_eq_ofList_toDigits, String.toList_ofList]
  exact Literal.visible_toDigits (by decide) (by decide) n

theorem visible_optional (p? : Option Path) : Visible (optional (p?.map path)).toList := by
  cases p? with
  | none => decide
  | some p =>
      rw [Option.map_some, optional, String.toList_append, String.toList_append]
      exact (Visible.append (by decide) (visible_path p)).append (by decide)

theorem visible_list (ps : List Path) : Visible (list (ps.map path)).toList := by
  rw [list, String.toList_append, String.toList_append]
  refine (Visible.append (by decide) ?_).append (by decide)
  cases ps with
  | nil => decide
  | cons p ps =>
      rw [List.map_cons, toList_intercalate, tailText, List.flatMap_map]
      refine (visible_path p).append (Visible.flatMap (fun q => ?_) ps)
      exact Visible.append (by decide) (visible_path q)

theorem visible_tally (t : Tally) : Visible (tally t).toList := by
  rw [toList_tally]
  exact Visible.append (by decide)
    (((visible_number _).append (by decide)).append
    (((visible_number _).append (by decide)).append
    ((visible_optional _).append (Visible.append (by decide)
    ((visible_list _).append (by decide))))))

theorem visible_text (value : Value) : Visible value.text.toList := by
  cases value with
  | config c =>
      rw [Value.text, toList_config]
      exact Visible.append (by decide) ((visible_path _).append (Visible.append (by decide)
        ((visible_string _).append (by decide))))
  | entry e =>
      rw [Value.text, toList_entry]
      exact Visible.append (by decide) ((visible_path _).append (Visible.append (by decide)
        ((visible_bool _).append (by decide))))
  | tally t => exact visible_tally t
  | outcome o =>
      cases o with
      | completed t =>
          rw [Value.text, toList_completed]
          exact Visible.append (by decide) ((visible_tally t).append (by decide))
      | aborted p =>
          rw [Value.text, toList_aborted]
          exact Visible.append (by decide) ((visible_path p).append (by decide))

/--
The text of a value determines it. One reader gives back every value of every kind, with each path
and string spelled as it was, so values with the same text are the same value and compare equal; in
each kind there are values that compare equal and have different texts. No text holds a line break
or another control character of ASCII.
-/
theorem text_determines_value :
    (∀ value : Value, Value.ofText? value.text = some value) ∧
    (∀ value other : Value, value.text = other.text → value = other ∧ (value == other) = true) ∧
    ((∃ c d : Config, (c == d) = true ∧ config c ≠ config d) ∧
      (∃ a b : Entry, (a == b) = true ∧ entry a ≠ entry b) ∧
      (∃ t u : Tally, (t == u) = true ∧ tally t ≠ tally u) ∧
      ∃ o p : Outcome, (o == p) = true ∧ outcome o ≠ outcome p) ∧
    ∀ value : Value, ∀ c ∈ value.text.toList, 0x20 ≤ c.toNat ∧ c.toNat ≠ 0x7F := by
  refine ⟨Value.ofText?_text, ?_, ⟨?_, ?_, ?_, ?_⟩, ?_⟩
  · intro value other htext
    obtain rfl := Value.eq_of_text_eq htext
    exact ⟨rfl, value.same_self⟩
  -- two spellings of one path make different values of every kind
  · refine ⟨⟨.ofString "a", ""⟩, ⟨.ofString "a/", ""⟩, by decide, fun htext => ?_⟩
    have hsame : Value.config _ = .config _ := Value.eq_of_text_eq htext
    exact absurd hsame (by decide)
  · refine ⟨⟨.ofString "a", true⟩, ⟨.ofString "a/", true⟩, by decide, fun htext => ?_⟩
    have hsame : Value.entry _ = .entry _ := Value.eq_of_text_eq htext
    exact absurd hsame (by decide)
  · refine ⟨Tally.empty.record (.ofString "a") ⟨1⟩, Tally.empty.record (.ofString "a/") ⟨1⟩,
      by decide, fun htext => ?_⟩
    have hsame : Value.tally _ = .tally _ := Value.eq_of_text_eq htext
    exact absurd hsame (by decide)
  · refine ⟨.aborted (.ofString "a"), .aborted (.ofString "a/"), by decide, fun htext => ?_⟩
    have hsame : Value.outcome (.aborted (.ofString "a")) =
        .outcome (.aborted (.ofString "a/")) := Value.eq_of_text_eq htext
    exact absurd hsame (by decide)
  · intro value c hc
    have hvisible := visible_text value c hc
    rw [Text.isControl, Bool.or_eq_false_iff, decide_eq_false_iff_not, beq_eq_false_iff_ne,
      Nat.not_lt] at hvisible
    exact hvisible

end TestHarness.Inspect
