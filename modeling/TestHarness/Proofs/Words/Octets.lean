import TestHarness.Proofs.Text.Ascii
import TestHarness.Proofs.Text.Decoding
import TestHarness.Proofs.Words.Grammar

/-!
# Templates octet by octet

The same splitter can read the octets of a template one at a time, where a backslash takes only one
octet and so only the start of a longer character. Nothing comes of it: an octet above the ASCII
range is plain in every mode, and after a plain symbol the next plain one goes to the same place.

`State.encoded` is the state over octets that goes with a state over characters. One character read
there, octet by octet, leads to the state that goes with the next one, `readOctets_utf8EncodeChar`.
-/

namespace TestHarness.Words

/-! ## The splitter over octets -/

/-- What an octet means to the splitter; all with a meaning are ASCII. -/
def markOfOctet (octet : UInt8) : Mark :=
  if octet = 0x20 || octet = 0x09 then .blank
  else if octet = 0x0A then .newline
  else if octet = 0x23 then .hash
  else if octet = 0x27 then .single
  else if octet = 0x22 then .double
  else if octet = 0x5C then .backslash
  else if octet = 0x24 || octet = 0x60 then .special
  else .plain

/-- The words of a template, each as octets, found by reading one octet at a time. -/
def splitOctets? (octets : List UInt8) : Option (List (List UInt8)) :=
  splitBy? 0x5C markOfOctet octets

/-- The state after some more octets. -/
def readOctets (s : State UInt8) (octets : List UInt8) : State UInt8 :=
  octets.foldl (State.step 0x5C markOfOctet) s

theorem readOctets_append (s : State UInt8) (first second : List UInt8) :
    readOctets s (first ++ second) = readOctets (readOctets s first) second := List.foldl_append

theorem markOfOctet_of_ascii {c : Char} (hascii : c.toNat < 0x80) :
    markOfOctet (UInt8.ofNat c.toNat) = markOf c := by
  have htable : ∀ n < 0x80, markOfOctet (UInt8.ofNat n) = markOf (Char.ofNat n) := by decide
  rw [htable c.toNat hascii, Char.ofNat_toNat]

theorem markOfOctet_of_high {octet : UInt8} (hhigh : 0x80 ≤ octet.toNat) :
    markOfOctet octet = .plain := by
  unfold markOfOctet
  simp only [← UInt8.toNat_inj, UInt8.reduceToNat, Bool.or_eq_true, decide_eq_true_eq]
  repeat rw [if_neg (by omega)]

theorem markOf_of_high {c : Char} (hhigh : 0x80 ≤ c.toNat) : markOf c = .plain := by
  have hne {d : Char} (hascii : d.toNat < 0x80) : c ≠ d := by
    rintro rfl
    exact absurd hascii (Nat.not_lt.mpr hhigh)
  unfold markOf
  simp [hne (d := ' ') (by decide), hne (d := '\t') (by decide), hne (d := '\n') (by decide),
    hne (d := '#') (by decide), hne (d := '\x27') (by decide), hne (d := '\x22') (by decide),
    hne (d := '\x5c') (by decide), hne (d := '$') (by decide), hne (d := '\x60') (by decide)]

/-! ## Plain symbols -/

/-- The mode after a plain symbol. -/
def Mode.afterPlain : Mode → Mode
  | .between | .word | .escape => .word
  | .comment => .comment
  | .single => .single
  | .double | .doubleEscape => .double

/-- What a run of plain symbols adds to the current word. -/
def Mode.addsPlain {α : Type} (slash : α) (symbols : List α) : Mode → List α
  | .comment => []
  | .doubleEscape => slash :: symbols
  | .between | .word | .escape | .single | .double => symbols

namespace State

variable {α : Type} {slash : α} {mark : α → Mark}

theorem step_of_plain {symbol : α} (hplain : mark symbol = .plain) (s : State α) :
    s.step slash mark symbol = s.push s.mode.afterPlain (s.mode.addsPlain slash [symbol]) := by
  obtain ⟨done, current, mode⟩ := s
  unfold step
  rw [hplain]
  cases mode with
  | comment => simp [push, Mode.afterPlain, Mode.addsPlain]
  | _ => rfl

theorem push_push (s : State α) (mode next : Mode) (first second : List α) :
    (s.push mode first).push next second = s.push next (first ++ second) := by
  simp only [push, List.append_assoc]

/-- After the first plain symbol of a run, the others go to the same place. -/
theorem foldl_step_of_plain {symbols : List α} (hplain : ∀ symbol ∈ symbols, mark symbol = .plain)
    (hsome : symbols ≠ []) (s : State α) :
    symbols.foldl (step slash mark) s =
      s.push s.mode.afterPlain (s.mode.addsPlain slash symbols) := by
  induction symbols generalizing s with
  | nil => exact absurd rfl hsome
  | cons symbol later ih =>
      obtain ⟨hsymbol, hlater⟩ := List.forall_mem_cons.mp hplain
      rw [List.foldl_cons, step_of_plain hsymbol]
      by_cases hlast : later = []
      · subst hlast
        rfl
      · rw [ih hlater hlast, push_push]
        obtain ⟨done, current, mode⟩ := s
        cases mode with
        | _ => rfl

/-! ## States over characters and over octets -/

/-- The state over octets that goes with a state over characters. -/
def encoded (s : State Char) : State UInt8 :=
  ⟨s.done.map Utf8.encode, Utf8.encode s.current, s.mode⟩

theorem encoded_push (s : State Char) (mode : Mode) (symbols : List Char) :
    (s.push mode symbols).encoded = s.encoded.push mode (Utf8.encode symbols) := by
  simp only [push, encoded, Utf8.encode_append]

theorem encoded_finishWord (s : State Char) :
    s.finishWord.encoded = s.encoded.finishWord := by
  simp only [finishWord, encoded, List.map_append]
  rfl

theorem encoded_finish? (s : State Char) :
    s.encoded.finish? = s.finish?.map (List.map Utf8.encode) := by
  obtain ⟨done, current, mode⟩ := s
  cases mode with
  | word =>
      simp only [finish?, encoded, Option.map_some, List.map_append, List.map_cons, List.map_nil]
  | between | comment | escape | single | double | doubleEscape => rfl

variable {c : Char} {octet : UInt8} (hencode : Utf8.encode [c] = [octet])
include hencode

theorem encoded_bare (s : State Char) (mark : Mark) :
    s.encoded.bare mark octet = (s.bare mark c).encoded := by
  cases mark with
  | blank | newline => exact (encoded_finishWord s).symm
  | single | double | backslash => exact (encoded_push s _ []).symm
  | hash | special | plain =>
      rw [bare, bare, encoded_push, hencode]

theorem encoded_inDoubleEscape (s : State Char) (mark : Mark) :
    s.encoded.inDoubleEscape 0x5C mark octet = (s.inDoubleEscape '\x5c' mark c).encoded := by
  have hkept : Utf8.encode ['\x5c', c] = [0x5C, octet] := by
    rw [Utf8.encode_cons, hencode]
    rfl
  cases mark with
  | newline => exact (encoded_push s _ []).symm
  | special | double | backslash => rw [inDoubleEscape, inDoubleEscape, encoded_push, hencode]
  | blank | hash | single | plain => rw [inDoubleEscape, inDoubleEscape, encoded_push, hkept]

/-- A character of one octet is read alike on both sides. -/
theorem encoded_step (hmark : markOfOctet octet = markOf c) (s : State Char) :
    s.encoded.step 0x5C markOfOctet octet = (advance s c).encoded := by
  have hpush (mode : Mode) : s.encoded.push mode [octet] = (s.push mode [c]).encoded := by
    rw [encoded_push, hencode]
  have henter (mode : Mode) : s.encoded.enter mode = (s.enter mode).encoded :=
    (encoded_push s mode []).symm
  have hbare := encoded_bare hencode s (markOf c)
  have hescape := encoded_inDoubleEscape hencode s (markOf c)
  obtain ⟨done, current, mode⟩ := s
  unfold advance step
  rw [hmark]
  cases mode with
  | word => exact hbare
  | doubleEscape => exact hescape
  | between =>
      cases hkind : markOf c with
      | blank | newline => rfl
      | hash => exact henter .comment
      | single | double | backslash | special | plain =>
          rw [hkind] at hbare
          exact hbare
  | comment =>
      cases markOf c with
      | newline => exact henter .between
      | _ => rfl
  | escape =>
      cases markOf c with
      | newline => exact henter .word
      | _ => exact hpush .word
  | single =>
      cases markOf c with
      | single => exact henter .word
      | _ => exact hpush .single
  | double =>
      cases markOf c with
      | double => exact henter .word
      | backslash => exact henter .doubleEscape
      | _ => exact hpush .double

end State

/-! ## One character, octet by octet -/

theorem encode_addsPlain (mode : Mode) (c : Char) :
    Utf8.encode (mode.addsPlain '\x5c' [c]) =
      mode.addsPlain 0x5C (String.utf8EncodeChar c) := by
  cases mode with
  | comment => rfl
  | doubleEscape =>
      rw [Mode.addsPlain, Utf8.encode_cons, Utf8.encode_singleton]
      rfl
  | _ => exact Utf8.encode_singleton c

/-- The octets of a character lead to the state that goes with reading the character. -/
theorem readOctets_utf8EncodeChar (s : State Char) (c : Char) :
    readOctets s.encoded (String.utf8EncodeChar c) = (advance s c).encoded := by
  by_cases hascii : c.toNat < 0x80
  · have hencode : Utf8.encode [c] = [UInt8.ofNat c.toNat] := by
      rw [Utf8.encode_singleton, Utf8.utf8EncodeChar_of_ascii hascii]
    rw [Utf8.utf8EncodeChar_of_ascii hascii]
    exact State.encoded_step hencode (markOfOctet_of_ascii hascii) s
  · -- a longer character: each of its octets is plain, and so is the character
    rw [Nat.not_lt] at hascii
    have hplain : ∀ octet ∈ String.utf8EncodeChar c, markOfOctet octet = .plain :=
      fun octet hoctet => markOfOctet_of_high (Utf8.high_utf8EncodeChar hascii octet hoctet)
    rw [readOctets, State.foldl_step_of_plain hplain String.utf8EncodeChar_ne_nil, advance,
      State.step_of_plain (markOf_of_high hascii), State.encoded_push, encode_addsPlain]
    rfl

/-! ## Whole templates -/

theorem readOctets_encode (s : State Char) (text : List Char) :
    readOctets s.encoded (Utf8.encode text) = (read s text).encoded := by
  induction text generalizing s with
  | nil => rfl
  | cons c text ih =>
      rw [Utf8.encode_cons, readOctets_append, readOctets_utf8EncodeChar, ih, read_cons]

/-- The octets of a template are split into the octets of its words, or cannot be split either. -/
theorem splitOctets?_encode (text : List Char) :
    splitOctets? (Utf8.encode text) = (split? text).map (List.map Utf8.encode) := by
  have hread := readOctets_encode State.start text
  calc splitOctets? (Utf8.encode text)
    _ = (readOctets State.start.encoded (Utf8.encode text)).finish? := rfl
    _ = (read State.start text).encoded.finish? := by rw [hread]
    _ = (split? text).map (List.map Utf8.encode) := State.encoded_finish? _

theorem splitOctets?_eq_none_iff (text : List Char) :
    splitOctets? (Utf8.encode text) = none ↔ split? text = none := by
  rw [splitOctets?_encode, Option.map_eq_none_iff]

/-- Words found octet by octet can be decoded, to the words found character by character. -/
theorem decoded_of_splitOctets? {text : List Char} {words : List (List UInt8)}
    (hsplit : splitOctets? (Utf8.encode text) = some words) :
    ∃ texts, split? text = some texts ∧ words.map Utf8.decode? = texts.map some := by
  rw [splitOctets?_encode, Option.map_eq_some_iff] at hsplit
  obtain ⟨texts, htexts, rfl⟩ := hsplit
  refine ⟨texts, htexts, ?_⟩
  rw [List.map_map, List.map_inj_left]
  intro word _
  exact (Utf8.decode?_eq_some_iff _ word).mpr rfl

theorem split?_eq_some_iff_decoded (text : List Char) (texts : List (List Char)) :
    split? text = some texts ↔
      ∃ words, splitOctets? (Utf8.encode text) = some words ∧
        words.map Utf8.decode? = texts.map some := by
  constructor
  · intro hsplit
    have hoctets : splitOctets? (Utf8.encode text) = some (texts.map Utf8.encode) := by
      rw [splitOctets?_encode, hsplit, Option.map_some]
    obtain ⟨others, hothers, hdecoded⟩ := decoded_of_splitOctets? hoctets
    obtain rfl := Option.some.inj (hsplit.symm.trans hothers)
    exact ⟨_, hoctets, hdecoded⟩
  · rintro ⟨words, hoctets, hdecoded⟩
    obtain ⟨others, hsplit, hothers⟩ := decoded_of_splitOctets? hoctets
    have htexts : others = texts :=
      (List.map_inj_right fun _ _ => Option.some.inj).mp (hothers.symm.trans hdecoded)
    rw [hsplit, htexts]

end TestHarness.Words

namespace TestHarness

open Words

/--
The octets of a template, read one at a time, give the same as its characters. They cannot be split
exactly if the characters cannot; otherwise each word found is the octets of a text, and these texts
are the words found among the characters. So a command is what its octets spell: nothing that a
backslash or a quote does next to a longer character can leave a word that is not a text.
-/
theorem command_octets (config : Config) :
    (splitOctets? (Utf8.encode config.runner.toList) = none ↔
      split? config.runner.toList = none) ∧
    (∀ words, splitOctets? (Utf8.encode config.runner.toList) = some words →
      ∃ texts, split? config.runner.toList = some texts ∧
        words.map Utf8.decode? = texts.map some) ∧
    (config.command = .error (.unparsable config.runner) ↔
      splitOctets? (Utf8.encode config.runner.toList) = none) ∧
    (config.command = .error .noProgram ↔
      splitOctets? (Utf8.encode config.runner.toList) = some []) ∧
    ∀ program args, config.command = .ok ⟨program, args⟩ ↔
      ∃ words, splitOctets? (Utf8.encode config.runner.toList) = some words ∧
        words.map Utf8.decode? = (program :: args).map fun word => some word.toList := by
  refine ⟨splitOctets?_eq_none_iff _, fun words => decoded_of_splitOctets?, ?_, ?_, ?_⟩
  · rw [command_eq_unparsable_iff, splitOctets?_eq_none_iff]
  · rw [command_eq_noProgram_iff, splitOctets?_encode, Option.map_eq_some_iff]
    simp
  · intro program args
    rw [command_eq_ok_iff, split?_eq_some_iff_decoded]
    simp only [List.map_cons, List.map_map]
    rfl

/-- In and outside double quotes a backslash takes the first of the two octets of a character. -/
example :
    splitOctets? [0x5C, 0xC3, 0xA9, 0x20, 0x22, 0x5C, 0xC3, 0xA9, 0x22] =
      some [[0xC3, 0xA9], [0x5C, 0xC3, 0xA9]] := by
  decide

end TestHarness
