import Mathlib.Data.List.Forall2
import TestHarness.Text.Utf8

/-!
# The division of octets loses nothing

A cursor in the middle of a character holds a start of a well-formed sequence. When the sequence is
complete, the character it spells is written with just these octets; when it is cut off, the octets
are kept as they are. So the octets of the pieces, one after another, are the octets divided.
-/

namespace TestHarness.Utf8

/-- The octets that a piece stands for. -/
def Piece.octets : Piece → List UInt8
  | .char c => String.utf8EncodeChar c
  | .broken octets => octets

/-! ## Complete sequences -/

/-- The octets lie in the spans, one by one. -/
def Meet : List UInt8 → List Span → Prop :=
  List.Forall₂ fun octet span => span.contains octet = true

/-- A first octet and all that it owes. -/
inductive Complete : List UInt8 → Prop where
  | mk {octet : UInt8} {rest : List UInt8} {spans : List Span} :
      owed? octet = some spans → Meet rest spans → Complete (octet :: rest)

theorem contains_iff (span : Span) (octet : UInt8) :
    span.contains octet = true ↔ span.lo.toNat ≤ octet.toNat ∧ octet.toNat ≤ span.hi.toNat := by
  simp [Span.contains, UInt8.le_iff_toNat_le]

theorem tail_contains_iff (octet : UInt8) :
    tail.contains octet = true ↔ 0x80 ≤ octet.toNat ∧ octet.toNat ≤ 0xBF :=
  contains_iff tail octet

theorem val_ofNat {n : Nat} (hvalid : n.isValidChar) : (Char.ofNat n).val.toNat = n := by
  rw [Char.ofNat, dif_pos hvalid]
  rfl

theorem ofNat_eq {n : Nat} (octet : UInt8) (heq : n = octet.toNat) : UInt8.ofNat n = octet := by
  rw [heq, UInt8.ofNat_toNat]

theorem encode_scalar_one {a : UInt8} (ha : a.toNat < 0x80) :
    String.utf8EncodeChar (scalar [a]) = [a] := by
  have hvalue := val_ofNat (n := a.toNat) (by unfold Nat.isValidChar; omega)
  rw [scalar, String.utf8EncodeChar, hvalue, if_pos (by omega), UInt8.ofNat_toNat]

theorem encode_scalar_two {a b : UInt8} (ha : 0xC2 ≤ a.toNat ∧ a.toNat < 0xE0)
    (hb : 0x80 ≤ b.toNat ∧ b.toNat ≤ 0xBF) :
    String.utf8EncodeChar (scalar [a, b]) = [a, b] := by
  have hvalue := val_ofNat (n := a.toNat % 32 * 64 + b.toNat % 64)
    (by unfold Nat.isValidChar; omega)
  rw [scalar, String.utf8EncodeChar, hvalue, if_neg (by omega), if_pos (by omega)]
  rw [ofNat_eq a (by omega), ofNat_eq b (by omega)]

/-- The bounds on the second octet keep out overlong spellings and surrogates. -/
theorem encode_scalar_three {a b c : UInt8} (ha : 0xE0 ≤ a.toNat ∧ a.toNat < 0xF0)
    (hb : 0x80 ≤ b.toNat ∧ b.toNat ≤ 0xBF) (hc : 0x80 ≤ c.toNat ∧ c.toNat ≤ 0xBF)
    (hlong : a.toNat = 0xE0 → 0xA0 ≤ b.toNat) (hsurrogate : a.toNat = 0xED → b.toNat ≤ 0x9F) :
    String.utf8EncodeChar (scalar [a, b, c]) = [a, b, c] := by
  have hvalue := val_ofNat (n := (a.toNat % 16 * 64 + b.toNat % 64) * 64 + c.toNat % 64)
    (by unfold Nat.isValidChar; omega)
  rw [scalar, String.utf8EncodeChar, hvalue, if_neg (by omega), if_neg (by omega),
    if_pos (by omega)]
  rw [ofNat_eq a (by omega), ofNat_eq b (by omega),
    ofNat_eq c (by omega)]

/-- The bounds on the second octet keep out overlong spellings and values that are too large. -/
theorem encode_scalar_four {a b c d : UInt8} (ha : 0xF0 ≤ a.toNat ∧ a.toNat ≤ 0xF4)
    (hb : 0x80 ≤ b.toNat ∧ b.toNat ≤ 0xBF) (hc : 0x80 ≤ c.toNat ∧ c.toNat ≤ 0xBF)
    (hd : 0x80 ≤ d.toNat ∧ d.toNat ≤ 0xBF) (hlong : a.toNat = 0xF0 → 0x90 ≤ b.toNat)
    (hlarge : a.toNat = 0xF4 → b.toNat ≤ 0x8F) :
    String.utf8EncodeChar (scalar [a, b, c, d]) = [a, b, c, d] := by
  have hvalue := val_ofNat
    (n := ((a.toNat % 8 * 64 + b.toNat % 64) * 64 + c.toNat % 64) * 64 + d.toNat % 64)
    (by unfold Nat.isValidChar; omega)
  rw [scalar, String.utf8EncodeChar, hvalue, if_neg (by omega), if_neg (by omega),
    if_neg (by omega)]
  rw [ofNat_eq a (by omega), ofNat_eq b (by omega),
    ofNat_eq c (by omega), ofNat_eq d (by omega)]

theorem owed?_of_ascii {octet : UInt8} (hascii : octet.toNat < 0x80) : owed? octet = some [] := by
  rw [owed?, if_pos (UInt8.lt_iff_toNat_lt.mpr hascii)]

/-- What a first octet owes: nothing, one octet, or a narrowed one and then one or two more. -/
theorem owed?_cases {octet : UInt8} {spans : List Span} (howed : owed? octet = some spans) :
    (octet.toNat < 0x80 ∧ spans = []) ∨
    ((0xC2 ≤ octet.toNat ∧ octet.toNat < 0xE0) ∧ spans = [tail]) ∨
    ∃ second : Span, (0x80 ≤ second.lo.toNat ∧ second.hi.toNat ≤ 0xBF) ∧
      (((0xE0 ≤ octet.toNat ∧ octet.toNat < 0xF0) ∧ spans = [second, tail] ∧
        (octet.toNat = 0xE0 → 0xA0 ≤ second.lo.toNat) ∧
        (octet.toNat = 0xED → second.hi.toNat ≤ 0x9F)) ∨
      ((0xF0 ≤ octet.toNat ∧ octet.toNat ≤ 0xF4) ∧ spans = [second, tail, tail] ∧
        (octet.toNat = 0xF0 → 0x90 ≤ second.lo.toNat) ∧
        (octet.toNat = 0xF4 → second.hi.toNat ≤ 0x8F))) := by
  unfold owed? at howed
  simp only [UInt8.lt_iff_toNat_lt, ← UInt8.toNat_inj, UInt8.reduceToNat] at howed
  have htail : 0x80 ≤ tail.lo.toNat ∧ tail.hi.toNat ≤ 0xBF := by decide
  -- one case for each row of the table; the rows without a sequence go away
  repeat' split at howed
  all_goals
    cases howed
  · exact .inl ⟨by assumption, rfl⟩
  · exact .inr (.inl ⟨⟨by omega, by omega⟩, rfl⟩)
  · exact .inr (.inr ⟨_, by decide, .inl ⟨⟨by omega, by omega⟩, rfl, by simp, by omega⟩⟩)
  · exact .inr (.inr ⟨_, by decide, .inl ⟨⟨by omega, by omega⟩, rfl, by omega, by simp⟩⟩)
  · exact .inr (.inr ⟨_, htail, .inl ⟨⟨by omega, by omega⟩, rfl, by omega, by omega⟩⟩)
  · exact .inr (.inr ⟨_, by decide, .inr ⟨⟨by omega, by omega⟩, rfl, by simp, by omega⟩⟩)
  · exact .inr (.inr ⟨_, htail, .inr ⟨⟨by omega, by omega⟩, rfl, by omega, by omega⟩⟩)
  · exact .inr (.inr ⟨_, by decide, .inr ⟨⟨by omega, by omega⟩, rfl, by omega, by simp⟩⟩)

/-- The character that a complete sequence spells is written with that sequence. -/
theorem encode_scalar {octets : List UInt8} (hcomplete : Complete octets) :
    String.utf8EncodeChar (scalar octets) = octets := by
  obtain @⟨octet, rest, spans, howed, hmeet⟩ := hcomplete
  rcases owed?_cases howed with
    ⟨hfirst, rfl⟩ | ⟨hfirst, rfl⟩ |
      ⟨second, hsecond, ⟨hfirst, rfl, hlow, hhigh⟩ | ⟨hfirst, rfl, hlow, hhigh⟩⟩
  · cases hmeet with
    | nil => exact encode_scalar_one hfirst
  · obtain ⟨b, _, hb, hnone, rfl⟩ := List.forall₂_cons_right_iff.mp hmeet
    cases hnone
    exact encode_scalar_two hfirst ((tail_contains_iff b).mp hb)
  · obtain ⟨b, _, hb, hmore, rfl⟩ := List.forall₂_cons_right_iff.mp hmeet
    obtain ⟨c, _, hc, hnone, rfl⟩ := List.forall₂_cons_right_iff.mp hmore
    cases hnone
    rw [contains_iff] at hb
    exact encode_scalar_three hfirst (by omega) ((tail_contains_iff c).mp hc) (by omega) (by omega)
  · obtain ⟨b, _, hb, hmore, rfl⟩ := List.forall₂_cons_right_iff.mp hmeet
    obtain ⟨c, _, hc, hlast, rfl⟩ := List.forall₂_cons_right_iff.mp hmore
    obtain ⟨d, _, hd, hnone, rfl⟩ := List.forall₂_cons_right_iff.mp hlast
    cases hnone
    rw [contains_iff] at hb
    exact encode_scalar_four hfirst (by omega) ((tail_contains_iff c).mp hc)
      ((tail_contains_iff d).mp hd) (by omega) (by omega)

/-! ## The cursor -/

/-- The octets read are a start of a complete sequence, and what is owed would complete it. -/
inductive Cursor.Opened : Cursor → Prop where
  | idle : Opened .idle
  | unfinished {octet : UInt8} {rest : List UInt8} {seen owed : List Span} :
      owed? octet = some (seen ++ owed) → Meet rest seen → owed ≠ [] →
        Opened ⟨octet :: rest, owed⟩

namespace Cursor

theorem scan_cons (cursor : Cursor) (octet : UInt8) (rest : List UInt8) :
    cursor.scan (octet :: rest) = (cursor.step octet).1 ++ (cursor.step octet).2.scan rest := rfl

/-- An octet that does not continue what was begun breaks it off and is read afresh. -/
theorem step_of_not_contains {span : Span} {octet : UInt8} (hspan : ¬ span.contains octet = true)
    (read : List UInt8) (owed : List Span) :
    step ⟨read, span :: owed⟩ octet = (.broken read :: (first octet).1, (first octet).2) := by
  rw [step]
  exact if_neg hspan

theorem first_opened (octet : UInt8) : (first octet).2.Opened := by
  unfold first
  split
  · exact .idle
  · exact .idle
  · next span owed howed => exact @Opened.unfinished octet [] [] _ howed .nil (List.cons_ne_nil _ _)

theorem first_octets (octet : UInt8) :
    (first octet).1.flatMap Piece.octets ++ (first octet).2.read = [octet] := by
  unfold first
  split
  · rfl
  · next howed =>
      have hcomplete : Complete [octet] := ⟨howed, .nil⟩
      simp only [List.flatMap_singleton, Piece.octets, encode_scalar hcomplete]
      rfl
  · rfl

/-- One octet: the pieces found and the octets still held are those held before and the new one. -/
theorem Opened.step {cursor : Cursor} (hopened : cursor.Opened) (octet : UInt8) :
    (cursor.step octet).2.Opened ∧
      (cursor.step octet).1.flatMap Piece.octets ++ (cursor.step octet).2.read =
        cursor.read ++ [octet] := by
  cases hopened with
  | idle => exact ⟨first_opened octet, first_octets octet⟩
  | @unfinished head rest seen owed howed hmeet hsome =>
      cases owed with
      | nil => exact absurd rfl hsome
      | cons span owed =>
          unfold Cursor.step
          dsimp only
          split
          · next hspan =>
              have hlonger : Meet (rest ++ [octet]) (seen ++ [span]) :=
                List.rel_append hmeet (.cons hspan .nil)
              cases owed with
              | nil =>
                  have hcomplete : Complete (head :: (rest ++ [octet])) := ⟨howed, hlonger⟩
                  refine ⟨.idle, ?_⟩
                  simp only [List.flatMap_singleton, Piece.octets, List.cons_append,
                    encode_scalar hcomplete]
                  exact congrArg (head :: ·) (List.append_nil _)
              | cons next later =>
                  refine ⟨.unfinished ?_ hlonger ?_, rfl⟩
                  · rw [howed, List.append_assoc, List.singleton_append]
                  · exact List.cons_ne_nil _ _
          · refine ⟨first_opened octet, ?_⟩
            rw [List.flatMap_cons, List.append_assoc, first_octets]
            rfl

theorem Opened.close {cursor : Cursor} (hopened : cursor.Opened) :
    cursor.close.flatMap Piece.octets = cursor.read := by
  cases hopened with
  | idle => rfl
  | @unfinished head rest seen owed howed hmeet hsome =>
      cases owed with
      | nil => exact absurd rfl hsome
      | cons span owed => exact List.append_nil _

theorem Opened.scan {cursor : Cursor} (hopened : cursor.Opened) (octets : List UInt8) :
    (cursor.scan octets).flatMap Piece.octets = cursor.read ++ octets := by
  induction octets generalizing cursor with
  | nil => rw [Cursor.scan, hopened.close, List.append_nil]
  | cons octet octets ih =>
      obtain ⟨hnext, hoctets⟩ := hopened.step octet
      rw [Cursor.scan, List.flatMap_append, ih hnext, ← List.append_assoc, hoctets,
        List.append_assoc, List.singleton_append]

end Cursor

/-- The octets of the pieces are the octets that were divided. -/
theorem flatMap_pieces (octets : List UInt8) :
    (pieces octets).flatMap Piece.octets = octets :=
  Cursor.Opened.idle.scan octets

end TestHarness.Utf8
