import Mathlib.Data.List.Count
import TestHarness.Proofs.Text.Division

/-!
# ASCII octets in a text

An octet below 0x80 is a character of its own: it is no part of a longer sequence, and a sequence
that it cuts off does not take it along. Neither can it stand in a broken run. So the ASCII
characters of a text, as it is shown, are the ASCII octets behind it, in the same order.
-/

namespace TestHarness.Utf8

/-! ## Broken runs hold no ASCII octet -/

/-- The octets of a broken run are above the ASCII range. -/
def Piece.High : Piece → Prop
  | .char _ => True
  | .broken octets => ∀ octet ∈ octets, 0x80 ≤ octet.toNat

/-- What has been read is above the ASCII range, and so is all that is owed. -/
structure Cursor.High (cursor : Cursor) : Prop where
  read : ∀ octet ∈ cursor.read, 0x80 ≤ octet.toNat
  owed : ∀ span ∈ cursor.owed, 0x80 ≤ span.lo.toNat

theorem high_of_owed?_eq_none {octet : UInt8} (howed : owed? octet = none) :
    0x80 ≤ octet.toNat := by
  by_contra hhigh
  rw [owed?_of_ascii (Nat.not_le.mp hhigh)] at howed
  cases howed

/-- A first octet that owes something is above the ASCII range, as is what it owes. -/
theorem high_of_owed?_eq_some {octet : UInt8} {span : Span} {later : List Span}
    (howed : owed? octet = some (span :: later)) :
    0x80 ≤ octet.toNat ∧ ∀ owed ∈ span :: later, 0x80 ≤ owed.lo.toNat := by
  have htail : 0x80 ≤ tail.lo.toNat := by decide
  rcases owed?_cases howed with
    ⟨-, hnone⟩ | ⟨hfirst, hspans⟩ | ⟨second, hsecond, ⟨hfirst, hspans, -⟩ | ⟨hfirst, hspans, -⟩⟩
  · cases hnone
  · rw [hspans]
    exact ⟨by omega, by simp [htail]⟩
  · rw [hspans]
    exact ⟨by omega, by simp [htail, hsecond.1]⟩
  · rw [hspans]
    exact ⟨by omega, by simp [htail, hsecond.1]⟩

namespace Cursor

theorem high_idle : idle.High := ⟨nofun, nofun⟩

theorem high_first (octet : UInt8) :
    (first octet).2.High ∧ ∀ piece ∈ (first octet).1, piece.High := by
  unfold first
  split
  · next howed =>
      refine ⟨high_idle, ?_⟩
      simpa [Piece.High] using high_of_owed?_eq_none howed
  · exact ⟨high_idle, by simp [Piece.High]⟩
  · next span owed howed =>
      obtain ⟨hoctet, howes⟩ := high_of_owed?_eq_some howed
      exact ⟨⟨by simpa using hoctet, howes⟩, nofun⟩

/-- One octet: the runs it breaks off and the sequence it leaves are above the ASCII range. -/
theorem High.step {cursor : Cursor} (hhigh : cursor.High) (octet : UInt8) :
    (cursor.step octet).2.High ∧ ∀ piece ∈ (cursor.step octet).1, piece.High := by
  obtain ⟨read, owed⟩ := cursor
  obtain ⟨hread, howed⟩ := hhigh
  cases owed with
  | nil => exact high_first octet
  | cons span owed =>
      obtain ⟨hspan, hlater⟩ := List.forall_mem_cons.mp howed
      unfold Cursor.step
      dsimp only
      split
      · next hcontains =>
          cases owed with
          | nil => exact ⟨high_idle, by simp [Piece.High]⟩
          | cons next later =>
              have hoctet : 0x80 ≤ octet.toNat :=
                Nat.le_trans hspan ((contains_iff span octet).mp hcontains).1
              refine ⟨⟨?_, hlater⟩, nofun⟩
              rw [List.forall_mem_append]
              exact ⟨hread, by simpa using hoctet⟩
      · obtain ⟨hfresh, hfound⟩ := high_first octet
        exact ⟨hfresh, List.forall_mem_cons.mpr ⟨hread, hfound⟩⟩

theorem High.close {cursor : Cursor} (hhigh : cursor.High) :
    ∀ piece ∈ cursor.close, piece.High := by
  unfold Cursor.close
  split
  · exact nofun
  · exact List.forall_mem_cons.mpr ⟨hhigh.read, nofun⟩

theorem High.scan {cursor : Cursor} (hhigh : cursor.High) (octets : List UInt8) :
    ∀ piece ∈ cursor.scan octets, piece.High := by
  induction octets generalizing cursor with
  | nil => exact hhigh.close
  | cons octet octets ih =>
      obtain ⟨hnext, hfound⟩ := hhigh.step octet
      rw [Cursor.scan, List.forall_mem_append]
      exact ⟨hfound, ih hnext⟩

end Cursor

/-! ## The ASCII part of a text -/

/-- The octets that are characters of their own. -/
def asciiOctets (octets : List UInt8) : List UInt8 :=
  octets.filter fun octet => octet.toNat < 0x80

/-- The characters that are spelled by one octet. -/
def asciiChars (text : List Char) : List Char :=
  text.filter fun c => c.toNat < 0x80

def charOf (octet : UInt8) : Char := Char.ofNat octet.toNat

theorem toNat_charOf (octet : UInt8) : (charOf octet).toNat = octet.toNat := by
  have hbound : octet.toNat < 256 := octet.toNat_lt
  exact val_ofNat (by unfold Nat.isValidChar; omega)

theorem charOf_injective : Function.Injective charOf := by
  intro octet other hchars
  apply UInt8.toNat_inj.mp
  rw [← toNat_charOf, hchars, toNat_charOf]

theorem utf8EncodeChar_of_ascii {c : Char} (hascii : c.toNat < 0x80) :
    String.utf8EncodeChar c = [UInt8.ofNat c.toNat] := by
  rw [String.utf8EncodeChar]
  exact if_pos (Nat.le_of_lt_succ hascii)

/-- A longer character is spelled without ASCII octets. -/
theorem high_utf8EncodeChar {c : Char} (hhigh : 0x80 ≤ c.toNat) :
    ∀ octet ∈ String.utf8EncodeChar c, 0x80 ≤ octet.toNat := by
  have hvalue : 0x80 ≤ c.val.toNat := hhigh
  rw [String.utf8EncodeChar]
  split_ifs <;> simp <;> omega

theorem asciiOctets_of_high {octets : List UInt8} (hhigh : ∀ octet ∈ octets, 0x80 ≤ octet.toNat) :
    asciiOctets octets = [] := by
  rw [asciiOctets, List.filter_eq_nil_iff]
  intro octet hoctet
  simpa using hhigh octet hoctet

theorem ascii_utf8EncodeChar (c : Char) :
    (asciiOctets (String.utf8EncodeChar c)).map charOf = asciiChars [c] := by
  by_cases hascii : c.toNat < 0x80
  · have hvalue : (UInt8.ofNat c.toNat).toNat = c.toNat := by
      rw [UInt8.toNat_ofNat']
      omega
    rw [utf8EncodeChar_of_ascii hascii]
    simp [asciiOctets, asciiChars, charOf, hvalue, hascii]
  · rw [asciiOctets_of_high (high_utf8EncodeChar (Nat.not_lt.mp hascii))]
    simp [asciiChars, hascii]

theorem Piece.High.ascii {piece : Piece} (hhigh : piece.High) :
    (asciiOctets piece.octets).map charOf = asciiChars [piece.shown] := by
  cases piece with
  | char c => exact ascii_utf8EncodeChar c
  | broken octets =>
      rw [Piece.octets, asciiOctets_of_high hhigh]
      rfl

theorem asciiChars_shown {found : List Piece} (hhigh : ∀ piece ∈ found, piece.High) :
    asciiChars (found.map Piece.shown) =
      (asciiOctets (found.flatMap Piece.octets)).map charOf := by
  induction found with
  | nil => rfl
  | cons piece found ih =>
      obtain ⟨hpiece, hfound⟩ := List.forall_mem_cons.mp hhigh
      have hcons : asciiChars (piece.shown :: found.map Piece.shown) =
          asciiChars [piece.shown] ++ asciiChars (found.map Piece.shown) :=
        List.filter_append [piece.shown] _
      rw [List.map_cons, hcons, ← hpiece.ascii, ih hfound, List.flatMap_cons, ← List.map_append]
      exact congrArg _ (List.filter_append piece.octets _).symm

/-- The ASCII characters of a text are the ASCII octets behind it, in the same order. -/
theorem asciiChars_lossy (octets : List UInt8) :
    asciiChars (lossy octets) = (asciiOctets octets).map charOf := by
  have hhigh : ∀ piece ∈ pieces octets, piece.High := Cursor.high_idle.scan octets
  rw [lossy, asciiChars_shown hhigh, flatMap_pieces]

/-! ## Texts around an ASCII octet -/

theorem Cursor.first_of_ascii {octet : UInt8} (hascii : octet.toNat < 0x80) :
    first octet = ([.char (charOf octet)], idle) := by
  rw [first, owed?_of_ascii hascii]
  rfl

/-- An ASCII octet ends whatever was begun before it, and is a character of its own. -/
theorem Cursor.High.step_of_ascii {cursor : Cursor} (hhigh : cursor.High) {octet : UInt8}
    (hascii : octet.toNat < 0x80) :
    cursor.step octet = (cursor.close ++ [.char (charOf octet)], idle) := by
  obtain ⟨read, owed⟩ := cursor
  cases owed with
  | nil => exact first_of_ascii hascii
  | cons span owed =>
      have hspan : ¬ span.contains octet = true := by
        rw [contains_iff]
        have hlow := hhigh.owed span List.mem_cons_self
        omega
      rw [step_of_not_contains hspan, first_of_ascii hascii]
      rfl

theorem Cursor.High.scan_ascii {cursor : Cursor} (hhigh : cursor.High) {octet : UInt8}
    (hascii : octet.toNat < 0x80) (before after : List UInt8) :
    cursor.scan (before ++ octet :: after) =
      cursor.scan before ++ .char (charOf octet) :: idle.scan after := by
  induction before generalizing cursor with
  | nil =>
      rw [List.nil_append, scan_cons, hhigh.step_of_ascii hascii, List.append_assoc]
      rfl
  | cons first before ih =>
      rw [List.cons_append, scan_cons, scan_cons, ih (hhigh.step first).1, List.append_assoc]

/-- What stands before an ASCII octet and what stands after it are divided each on its own. -/
theorem pieces_ascii {octet : UInt8} (hascii : octet.toNat < 0x80) (before after : List UInt8) :
    pieces (before ++ octet :: after) =
      pieces before ++ .char (charOf octet) :: pieces after :=
  Cursor.high_idle.scan_ascii hascii before after

/-- What stands before an ASCII octet and what stands after it are shown each on its own. -/
theorem lossy_ascii {octet : UInt8} (hascii : octet.toNat < 0x80) (before after : List UInt8) :
    lossy (before ++ octet :: after) = lossy before ++ charOf octet :: lossy after := by
  rw [lossy, pieces_ascii hascii, List.map_append, List.map_cons]
  rfl

/-- An ASCII character is shown as often as its octet stands there. -/
theorem count_lossy {octet : UInt8} (hascii : octet.toNat < 0x80) (octets : List UInt8) :
    (lossy octets).count (charOf octet) = octets.count octet := by
  calc (lossy octets).count (charOf octet)
    _ = (asciiChars (lossy octets)).count (charOf octet) :=
        (List.count_filter (by simpa [toNat_charOf] using hascii)).symm
    _ = ((asciiOctets octets).map charOf).count (charOf octet) := by rw [asciiChars_lossy]
    _ = (asciiOctets octets).count octet :=
        List.count_map_of_injective _ charOf charOf_injective octet
    _ = octets.count octet := List.count_filter (by simpa using hascii)

end TestHarness.Utf8
