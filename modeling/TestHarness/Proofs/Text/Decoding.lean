import TestHarness.Proofs.Text.Division

/-!
# Texts and the octets that spell them

The octets of a character are a complete sequence, and a complete sequence is found by the cursor as
one piece, whatever follows it. So dividing the octets of a text gives back its characters and
nothing broken: `decode?` undoes `encode`, and accepts nothing that `encode` does not write.
-/

namespace TestHarness.Utf8

theorem encode_append (first second : List Char) :
    encode (first ++ second) = encode first ++ encode second := List.flatMap_append

theorem encode_singleton (c : Char) : encode [c] = String.utf8EncodeChar c :=
  List.flatMap_singleton ..

theorem encode_cons (c : Char) (text : List Char) :
    encode (c :: text) = String.utf8EncodeChar c ++ encode text := List.flatMap_cons

/-! ## The octets of a character -/

/-- Below the ASCII bound an octet owes nothing. -/
theorem owed?_one {n : Nat} (hn : n < 0x80) : owed? (UInt8.ofNat n) = some [] := by
  apply owed?_of_ascii
  rwa [UInt8.toNat_ofNat_of_lt' (show n < 256 by omega)]

theorem owed?_two {n : Nat} (hn : 0xC2 ≤ n ∧ n < 0xE0) :
    owed? (UInt8.ofNat n) = some [tail] := by
  have hoctet : (UInt8.ofNat n).toNat = n := UInt8.toNat_ofNat_of_lt' (show n < 256 by omega)
  unfold owed?
  simp only [UInt8.lt_iff_toNat_lt, UInt8.reduceToNat, hoctet]
  rw [if_neg (by omega), if_neg (by omega), if_pos (by omega)]

/-- A second octet that spells nothing overlong and no surrogate lies in the span owed. -/
theorem owed?_three {n m : Nat} (hn : 0xE0 ≤ n ∧ n < 0xF0) (hm : 0x80 ≤ m ∧ m ≤ 0xBF)
    (hlong : n = 0xE0 → 0xA0 ≤ m) (hsurrogate : n = 0xED → m ≤ 0x9F) :
    ∃ span : Span, owed? (UInt8.ofNat n) = some [span, tail] ∧
      span.contains (UInt8.ofNat m) = true := by
  have hoctet : (UInt8.ofNat n).toNat = n := UInt8.toNat_ofNat_of_lt' (show n < 256 by omega)
  have hsecond : (UInt8.ofNat m).toNat = m := UInt8.toNat_ofNat_of_lt' (show m < 256 by omega)
  simp only [contains_iff, hsecond]
  unfold owed?
  simp only [UInt8.lt_iff_toNat_lt, ← UInt8.toNat_inj, UInt8.reduceToNat, hoctet]
  rw [if_neg (by omega), if_neg (by omega), if_neg (by omega)]
  split
  · next heq => exact ⟨_, rfl, hlong heq, hm.2⟩
  · split
    · next heq => exact ⟨_, rfl, hm.1, hsurrogate heq⟩
    · rw [if_pos hn.2]
      exact ⟨_, rfl, hm⟩

/-- A second octet that spells nothing overlong and no value too large lies in the span owed. -/
theorem owed?_four {n m : Nat} (hn : 0xF0 ≤ n ∧ n ≤ 0xF4) (hm : 0x80 ≤ m ∧ m ≤ 0xBF)
    (hlong : n = 0xF0 → 0x90 ≤ m) (hlarge : n = 0xF4 → m ≤ 0x8F) :
    ∃ span : Span, owed? (UInt8.ofNat n) = some [span, tail, tail] ∧
      span.contains (UInt8.ofNat m) = true := by
  have hoctet : (UInt8.ofNat n).toNat = n := UInt8.toNat_ofNat_of_lt' (show n < 256 by omega)
  have hsecond : (UInt8.ofNat m).toNat = m := UInt8.toNat_ofNat_of_lt' (show m < 256 by omega)
  simp only [contains_iff, hsecond]
  unfold owed?
  simp only [UInt8.lt_iff_toNat_lt, ← UInt8.toNat_inj, UInt8.reduceToNat, hoctet]
  rw [if_neg (by omega), if_neg (by omega), if_neg (by omega), if_neg (by omega),
    if_neg (by omega), if_neg (by omega)]
  split
  · next heq => exact ⟨_, rfl, hlong heq, hm.2⟩
  · split
    · exact ⟨_, rfl, hm⟩
    · rw [if_pos (by omega)]
      exact ⟨_, rfl, hm.1, hlarge (by omega)⟩

/-- An octet written with the mark of a continuation continues a sequence. -/
theorem tail_contains_ofNat (n : Nat) : tail.contains (UInt8.ofNat (n % 0x40 + 0x80)) = true := by
  rw [tail_contains_iff, UInt8.toNat_ofNat_of_lt' (show n % 0x40 + 0x80 < 256 by omega)]
  omega

/-- The octets of a character are a first octet and all that it owes. -/
theorem complete_utf8EncodeChar (c : Char) : Complete (String.utf8EncodeChar c) := by
  have hvalid : c.val.toNat < 0xD800 ∨ 0xDFFF < c.val.toNat ∧ c.val.toNat < 0x110000 := c.valid
  rw [String.utf8EncodeChar]
  generalize c.val.toNat = n at hvalid
  split
  · exact ⟨owed?_one (by omega), .nil⟩
  split
  · exact ⟨owed?_two (by omega), .cons (tail_contains_ofNat n) .nil⟩
  split
  · obtain ⟨span, howed, hspan⟩ := owed?_three (n := n / 0x1000 % 0x10 + 0xE0)
      (m := n / 0x40 % 0x40 + 0x80) (by omega) (by omega) (by omega) (by omega)
    exact ⟨howed, .cons hspan (.cons (tail_contains_ofNat n) .nil)⟩
  · obtain ⟨span, howed, hspan⟩ := owed?_four (n := n / 0x40000 % 0x08 + 0xF0)
      (m := n / 0x1000 % 0x40 + 0x80) (by omega) (by omega) (by omega) (by omega)
    exact ⟨howed,
      .cons hspan (.cons (tail_contains_ofNat _) (.cons (tail_contains_ofNat n) .nil))⟩

theorem utf8EncodeChar_injective : Function.Injective String.utf8EncodeChar := by
  intro c d hoctets
  have hencoded : [c].utf8Encode = [d].utf8Encode := by
    rw [List.utf8Encode_singleton, List.utf8Encode_singleton, hoctets]
  have hdecoded := List.utf8DecodeChar?_utf8Encode_singleton (c := c)
  rw [hencoded, List.utf8DecodeChar?_utf8Encode_singleton] at hdecoded
  exact (Option.some.inj hdecoded).symm

theorem scalar_utf8EncodeChar (c : Char) : scalar (String.utf8EncodeChar c) = c :=
  utf8EncodeChar_injective (encode_scalar (complete_utf8EncodeChar c))

/-! ## Dividing the octets of a text -/

/-- What is owed completes the character, and the cursor is idle again. -/
theorem Cursor.scan_owed {rest : List UInt8} {owed : List Span} (hmeet : Meet rest owed)
    (howed : owed ≠ []) (read more : List UInt8) :
    scan ⟨read, owed⟩ (rest ++ more) = .char (scalar (read ++ rest)) :: idle.scan more := by
  induction hmeet generalizing read with
  | nil => exact absurd rfl howed
  | @cons octet span rest owed hspan hmeet ih =>
      rw [List.cons_append, scan, step]
      dsimp only
      rw [if_pos hspan]
      cases owed with
      | nil =>
          cases hmeet
          rfl
      | cons next later =>
          dsimp only
          rw [List.nil_append, ih (List.cons_ne_nil _ _), List.append_assoc,
            List.singleton_append]

/-- A complete sequence is one piece, whatever follows it. -/
theorem Complete.scan_append {octets : List UInt8} (hcomplete : Complete octets)
    (more : List UInt8) :
    Cursor.idle.scan (octets ++ more) = .char (scalar octets) :: Cursor.idle.scan more := by
  obtain @⟨octet, rest, spans, howed, hmeet⟩ := hcomplete
  rw [List.cons_append, Cursor.scan, Cursor.step, Cursor.idle, Cursor.first, howed]
  cases spans with
  | nil =>
      cases hmeet
      rfl
  | cons span owed =>
      dsimp only
      rw [List.nil_append, Cursor.scan_owed hmeet (List.cons_ne_nil _ _)]
      rfl

/-- The division of an encoded text finds its characters and nothing broken. -/
theorem pieces_encode (text : List Char) : pieces (encode text) = text.map .char := by
  induction text with
  | nil => rfl
  | cons c text ih =>
      rw [encode_cons, pieces, (complete_utf8EncodeChar c).scan_append, scalar_utf8EncodeChar,
        List.map_cons, ← ih]
      rfl

/-! ## Decoding -/

/-- Octets can be decoded exactly if no piece of them is broken. -/
theorem decode?_eq_some_iff_pieces (octets : List UInt8) (text : List Char) :
    decode? octets = some text ↔ pieces octets = text.map .char := by
  unfold decode?
  generalize pieces octets = found
  induction found generalizing text with
  | nil => cases text <;> simp
  | cons piece found ih =>
      rw [List.mapM_cons]
      cases piece with
      | broken octets => cases text <;> simp
      | char c =>
          cases text with
          | nil => simp [Option.bind_eq_some_iff]
          | cons d text => simp [Option.bind_eq_some_iff, ih, and_comm]

/-- Octets are decoded to the text that they spell, and to no other. -/
theorem decode?_eq_some_iff (octets : List UInt8) (text : List Char) :
    decode? octets = some text ↔ encode text = octets := by
  rw [decode?_eq_some_iff_pieces]
  constructor
  · intro hpieces
    rw [← flatMap_pieces octets, hpieces, List.flatMap_map]
    rfl
  · rintro rfl
    exact pieces_encode text

end TestHarness.Utf8
