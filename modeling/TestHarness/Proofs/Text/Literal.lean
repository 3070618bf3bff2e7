import TestHarness.Proofs.Text.Division
import TestHarness.Text.Literal

/-!
# Reading literals back

A literal is read symbol by symbol up to the quote that closes it. Every escape, from its backslash
to its last symbol, gives one piece, and every other symbol stands for itself; a quote inside the
literal comes only after a backslash, so the first one that does not is the end.

`text?_ofText` and `octets?_ofOctets` say that what was written is read back, whatever follows the
literal. No literal holds a control character.
-/

namespace TestHarness.Literal

open Utf8 (Piece)

/-! ## The reader -/

/-- The characters that are written with a letter after a backslash, each with its letter. -/
def letters : List (Char × Char) :=
  [('\x22', '\x22'), ('\x5c', '\x5c'), ('\n', 'n'), ('\x0d', 'r'), ('\t', 't'), ('\x00', '0')]

/-- The character that a letter after a backslash stands for. -/
def ofLetter? (l : Char) : Option Char := (letters.find? fun pair => pair.2 == l).map Prod.fst

/-- The value of a hexadecimal digit of either case. -/
def digit? (c : Char) : Option Nat := (List.range 16).find? fun n =>
  Nat.digitChar n == c || upperDigit n == c

/-- Where a reader stands inside a literal. -/
inductive Stand where
  | plain
  /-- After a backslash. -/
  | slash
  /-- Before the brace of a code. -/
  | brace
  /-- Among the digits of a code, with the value so far. -/
  | code (value : Nat)
  /-- Before the first digit of an octet. -/
  | high
  /-- Before the second digit of an octet. -/
  | low (first : Nat)
  deriving DecidableEq

/-- Reads a symbol: the piece that it completes, and where the reader then stands. -/
def Stand.step? : Stand → Char → Option (List Piece × Stand)
  | .plain, c => if c = '\x5c' then some ([], .slash) else some ([.char c], .plain)
  | .slash, c =>
      if c = 'u' then some ([], .brace)
      else if c = 'x' then some ([], .high)
      else (ofLetter? c).map fun d => ([.char d], .plain)
  | .brace, c => if c = '\x7b' then some ([], .code 0) else none
  | .code value, c =>
      if c = '\x7d' then some ([.char (Char.ofNat value)], .plain)
      else (digit? c).map fun d => ([], .code (16 * value + d))
  | .high, c => (digit? c).map fun d => ([], .low d)
  | .low first, c => (digit? c).map fun d => ([.broken [UInt8.ofNat (16 * first + d)]], .plain)

/-- Puts pieces before those of a reading. -/
def prepend (found : List Piece) (reading : Option (List Piece × List Char)) :
    Option (List Piece × List Char) :=
  reading.map fun (later, after) => (found ++ later, after)

/-- Reads to the closing quote: the pieces, and what follows the literal. -/
def body? : Stand → List Char → Option (List Piece × List Char)
  | _, [] => none
  | stand, c :: rest =>
      if stand = .plain ∧ c = '\x22' then some ([], rest)
      else (stand.step? c).bind fun (found, next) => prepend found (body? next rest)

/-- Reads a literal that may hold broken octets. -/
def octets? : List Char → Option (List UInt8 × List Char)
  | '\x22' :: rest => do
      let (pieces, after) ← body? .plain rest
      return (pieces.flatMap Piece.octets, after)
  | _ => none

def char? : Piece → Option Char
  | .char c => some c
  | .broken _ => none

/-- Reads a literal of characters only. -/
def text? : List Char → Option (List Char × List Char)
  | '\x22' :: rest => do
      let (pieces, after) ← body? .plain rest
      return (← pieces.mapM char?, after)
  | _ => none

/-! ## Reading what was written -/

theorem prepend_nil (reading : Option (List Piece × List Char)) :
    prepend [] reading = reading := by
  cases reading with
  | none => rfl
  | some found => rfl

theorem prepend_append (first second : List Piece) (reading : Option (List Piece × List Char)) :
    prepend (first ++ second) reading = prepend first (prepend second reading) := by
  cases reading with
  | none => rfl
  | some found => simp only [prepend, Option.map_some, List.append_assoc]

theorem body?_quote (rest : List Char) : body? .plain ('\x22' :: rest) = some ([], rest) := rfl

/-- One step inside a literal. -/
theorem body?_cons {stand next : Stand} {c : Char} {found : List Piece}
    (hstep : stand.step? c = some (found, next)) (hopen : ¬ (stand = .plain ∧ c = '\x22'))
    (rest : List Char) : body? stand (c :: rest) = prepend found (body? next rest) := by
  rw [body?, if_neg hopen, hstep]
  rfl

/-- Symbols that give pieces when they are read outside an escape, and leave the reader there. -/
def Gives (symbols : List Char) (found : List Piece) : Prop :=
  ∀ rest, body? .plain (symbols ++ rest) = prepend found (body? .plain rest)

theorem Gives.append {first second : List Char} {found later : List Piece}
    (hfirst : Gives first found) (hsecond : Gives second later) :
    Gives (first ++ second) (found ++ later) := by
  intro rest
  rw [List.append_assoc, hfirst, hsecond, prepend_append]

theorem Gives.flatMap {α : Type} {write : α → List Char} {units : α → List Piece}
    (hgives : ∀ value, Gives (write value) (units value)) (values : List α) :
    Gives (values.flatMap write) (values.flatMap units) := by
  induction values with
  | nil => exact fun rest => (prepend_nil _).symm
  | cons value values ih =>
      rw [List.flatMap_cons, List.flatMap_cons]
      exact (hgives value).append ih

theorem gives_plain {c : Char} (hquote : c ≠ '\x22') (hslash : c ≠ '\x5c') :
    Gives [c] [.char c] := by
  intro rest
  apply body?_cons
  · rw [Stand.step?, if_neg hslash]
  · exact fun hclose => hquote hclose.2

/-- A backslash on its own only says what to make of the symbols after it. -/
theorem body?_slash (rest : List Char) : body? .plain ('\x5c' :: rest) = body? .slash rest :=
  (body?_cons rfl (by decide) rest).trans (prepend_nil _)

theorem mem_letters {c l : Char} (hletter : letter? c = some l) : (c, l) ∈ letters := by
  unfold letter? at hletter
  split at hletter
  · next hself =>
      cases hletter
      rw [Bool.or_eq_true, decide_eq_true_eq, decide_eq_true_eq] at hself
      rcases hself with rfl | rfl <;> decide
  repeat
    split at hletter
    · next hchar =>
        cases hletter
        rw [hchar]
        decide
  cases hletter

theorem ofLetter?_of_mem :
    ∀ pair ∈ letters, pair.2 ≠ 'u' ∧ pair.2 ≠ 'x' ∧ ofLetter? pair.2 = some pair.1 := by decide

theorem gives_letter {c l : Char} (hletter : letter? c = some l) :
    Gives ['\x5c', l] [.char c] := by
  intro rest
  obtain ⟨hcode, hoctet, hchar⟩ := ofLetter?_of_mem _ (mem_letters hletter)
  rw [List.cons_append, body?_slash]
  apply body?_cons
  · rw [Stand.step?, if_neg hcode, if_neg hoctet, hchar, Option.map_some]
  · simp

theorem digit?_digitChar : ∀ n < 16, digit? (Nat.digitChar n) = some n := by decide

theorem digit?_upperDigit : ∀ n < 16, digit? (upperDigit n) = some n := by decide

theorem digitChar_ne_brace : ∀ n < 16, Nat.digitChar n ≠ '\x7d' := by decide

theorem body?_digit {n : Nat} (hdigit : n < 16) (value : Nat) (rest : List Char) :
    body? (.code value) (Nat.digitChar n :: rest) = body? (.code (16 * value + n)) rest := by
  have hstep : (Stand.code value).step? (Nat.digitChar n) =
      some ([], .code (16 * value + n)) := by
    rw [Stand.step?, if_neg (digitChar_ne_brace n hdigit), digit?_digitChar n hdigit]
    rfl
  rw [body?_cons hstep (by simp), prepend_nil]

/-- The digits of a number, read one after another, add up to that number. -/
theorem body?_code (n : Nat) (rest : List Char) :
    body? (.code 0) (code n ++ rest) = body? (.code n) rest := by
  induction n using Nat.strongRecOn generalizing rest with
  | ind n ih =>
      unfold code at ih ⊢
      rcases Nat.lt_or_ge n 16 with hsmall | hlarge
      · rw [Nat.toDigits_of_lt_base hsmall, List.singleton_append, body?_digit hsmall,
          Nat.mul_zero, Nat.zero_add]
      · rw [Nat.toDigits_of_base_le (by decide) hlarge, List.append_assoc,
          ih _ (Nat.div_lt_self (by omega) (by decide)), List.singleton_append,
          body?_digit (Nat.mod_lt n (by decide)), Nat.div_add_mod]

theorem gives_code (c : Char) :
    Gives (['\x5c', 'u', '\x7b'] ++ code c.toNat ++ ['\x7d']) [.char c] := by
  intro rest
  have hbrace (after : List Char) :
      body? .plain ('\x5c' :: 'u' :: '\x7b' :: after) = body? (.code 0) after := by
    rw [body?_slash, body?_cons rfl (by decide), prepend_nil, body?_cons rfl (by decide),
      prepend_nil]
  have hclose : (Stand.code c.toNat).step? '\x7d' = some ([.char c], .plain) := by
    rw [Stand.step?, if_pos rfl, Char.ofNat_toNat]
  rw [List.append_assoc, List.append_assoc, List.singleton_append]
  exact (hbrace _).trans ((body?_code _ _).trans (body?_cons hclose (by simp) rest))

/-- However a character is written, it is read back. -/
theorem gives_escape (c : Char) : Gives (escape c) [.char c] := by
  unfold escape
  cases hletter : letter? c with
  | some l => exact gives_letter hletter
  | none =>
      dsimp only
      split
      · exact gives_code c
      · have hplain : c ≠ '\x22' ∧ c ≠ '\x5c' := by
          unfold letter? at hletter
          grind
        exact gives_plain hplain.1 hplain.2

theorem gives_escapeOctet (octet : UInt8) : Gives (escapeOctet octet) [.broken [octet]] := by
  intro rest
  have hhigh : octet.toNat / 16 < 16 := Nat.div_lt_of_lt_mul octet.toNat_lt
  have hlow : octet.toNat % 16 < 16 := Nat.mod_lt _ (by decide)
  have hfirst : Stand.high.step? (upperDigit (octet.toNat / 16)) =
      some ([], .low (octet.toNat / 16)) := by
    rw [Stand.step?, digit?_upperDigit _ hhigh, Option.map_some]
  have hsecond : (Stand.low (octet.toNat / 16)).step? (upperDigit (octet.toNat % 16)) =
      some ([.broken [octet]], .plain) := by
    rw [Stand.step?, digit?_upperDigit _ hlow, Option.map_some, Nat.div_add_mod,
      UInt8.ofNat_toNat]
  unfold escapeOctet
  simp only [List.cons_append, List.nil_append]
  rw [body?_slash, body?_cons rfl (by decide), prepend_nil, body?_cons hfirst (by simp),
    prepend_nil, body?_cons hsecond (by simp)]

/-- A piece, with the octets of a broken run taken one by one. -/
def single : Piece → List Piece
  | .char c => [.char c]
  | .broken octets => octets.map fun octet => .broken [octet]

theorem gives_escapePiece (piece : Piece) : Gives (escapePiece piece) (single piece) := by
  cases piece with
  | char c => exact gives_escape c
  | broken octets =>
      have hall := Gives.flatMap gives_escapeOctet octets
      rwa [← List.map_eq_flatMap] at hall

theorem octets_single (piece : Piece) : (single piece).flatMap Piece.octets = piece.octets := by
  cases piece with
  | char c => exact List.append_nil _
  | broken octets =>
      rw [single, List.flatMap_map]
      exact List.flatMap_singleton' octets

/-- A literal is read up to its own closing quote, and not beyond it. -/
theorem Gives.enclosed {symbols : List Char} {found : List Piece} (hgives : Gives symbols found)
    (rest : List Char) : body? .plain (symbols ++ '\x22' :: rest) = some (found, rest) := by
  rw [hgives, body?_quote]
  simp only [prepend, Option.map_some, List.append_nil]

/-- A literal of octets is read back, with every octet as it was. -/
theorem octets?_ofOctets (octets : List UInt8) (rest : List Char) :
    octets? (ofOctets octets ++ rest) = some (octets, rest) := by
  have hread := (Gives.flatMap gives_escapePiece (Utf8.pieces octets)).enclosed rest
  have hoctets : ((Utf8.pieces octets).flatMap single).flatMap Piece.octets = octets := by
    rw [List.flatMap_assoc]
    simp only [octets_single]
    exact Utf8.flatMap_pieces octets
  rw [ofOctets, enclose, List.cons_append, List.cons_append, List.append_assoc,
    List.singleton_append, octets?, hread]
  simp only [Option.pure_def, Option.bind_eq_bind, Option.bind_some, hoctets]

theorem mapM_char (text : List Char) :
    (text.flatMap fun c => [Piece.char c]).mapM char? = some text := by
  induction text with
  | nil => rfl
  | cons c text ih =>
      rw [List.flatMap_cons, List.singleton_append, List.mapM_cons, ih]
      rfl

/-- A literal of characters is read back. -/
theorem text?_ofText (text rest : List Char) : text? (ofText text ++ rest) = some (text, rest) := by
  have hread := (Gives.flatMap gives_escape text).enclosed rest
  rw [ofText, enclose, List.cons_append, List.cons_append, List.append_assoc,
    List.singleton_append, text?, hread]
  simp only [Option.pure_def, Option.bind_eq_bind, Option.bind_some, mapM_char]

/-! ## No control characters -/

/-- Symbols of which none is a control character. -/
def Visible (symbols : List Char) : Prop := ∀ c ∈ symbols, Text.isControl c = false

instance (symbols : List Char) : Decidable (Visible symbols) :=
  decidable_of_iff (symbols.all (fun c => !Text.isControl c) = true) (by simp [Visible])

theorem Visible.append {first second : List Char} (hfirst : Visible first)
    (hsecond : Visible second) : Visible (first ++ second) :=
  List.forall_mem_append.mpr ⟨hfirst, hsecond⟩

theorem Visible.flatMap {α : Type} {write : α → List Char}
    (hwrite : ∀ value, Visible (write value)) (values : List α) :
    Visible (values.flatMap write) := by
  intro c hc
  obtain ⟨value, -, hmem⟩ := List.mem_flatMap.mp hc
  exact hwrite value c hmem

theorem visible_digitChar : ∀ n < 16, Text.isControl (Nat.digitChar n) = false := by decide

theorem visible_upperDigit : ∀ n < 16, Text.isControl (upperDigit n) = false := by decide

theorem visible_toDigits {base : Nat} (hbase : 1 < base) (hsixteen : base ≤ 16) (n : Nat) :
    Visible (Nat.toDigits base n) := by
  induction n using Nat.strongRecOn with
  | ind n ih =>
      rcases Nat.lt_or_ge n base with hsmall | hlarge
      · rw [Nat.toDigits_of_lt_base hsmall]
        exact List.forall_mem_singleton.mpr (visible_digitChar n (by omega))
      · have hlast : n % base < base := Nat.mod_lt n (by omega)
        rw [Nat.toDigits_of_base_le hbase hlarge]
        exact (ih _ (Nat.div_lt_self (by omega) hbase)).append
          (List.forall_mem_singleton.mpr (visible_digitChar _ (by omega)))

theorem visible_letter : ∀ pair ∈ letters, Visible ['\x5c', pair.2] := by decide

theorem visible_escape (c : Char) : Visible (escape c) := by
  unfold escape
  cases hletter : letter? c with
  | some l => exact visible_letter _ (mem_letters hletter)
  | none =>
      dsimp only
      split
      · have hopening : Visible ['\x5c', 'u', '\x7b'] := by decide
        have hclosing : Visible ['\x7d'] := by decide
        exact (hopening.append (visible_toDigits (by decide) (by decide) c.toNat)).append hclosing
      · next hcoded =>
          rw [Text.isCoded, Bool.not_eq_true, Bool.or_eq_false_iff] at hcoded
          exact List.forall_mem_singleton.mpr hcoded.1

theorem visible_escapeOctet (octet : UInt8) : Visible (escapeOctet octet) := by
  have hhigh : octet.toNat / 16 < 16 := Nat.div_lt_of_lt_mul octet.toNat_lt
  have hlow : octet.toNat % 16 < 16 := Nat.mod_lt _ (by decide)
  have hmark : Visible ['\x5c', 'x'] := by decide
  have hdigits : Visible [upperDigit (octet.toNat / 16), upperDigit (octet.toNat % 16)] :=
    List.forall_mem_cons.mpr
      ⟨visible_upperDigit _ hhigh, List.forall_mem_singleton.mpr (visible_upperDigit _ hlow)⟩
  exact hmark.append hdigits

theorem visible_escapePiece (piece : Piece) : Visible (escapePiece piece) := by
  cases piece with
  | char c => exact visible_escape c
  | broken octets => exact Visible.flatMap visible_escapeOctet octets

theorem Visible.enclose {body : List Char} (hbody : Visible body) : Visible (enclose body) := by
  have hquote : Visible ['\x22'] := by decide
  exact (hquote.append hbody).append hquote

theorem visible_ofText (text : List Char) : Visible (ofText text) :=
  (Visible.flatMap visible_escape text).enclose

theorem visible_ofOctets (octets : List UInt8) : Visible (ofOctets octets) :=
  (Visible.flatMap visible_escapePiece _).enclose

end TestHarness.Literal
