import TestHarness.Proofs.Pass.Diagnostics

/-!
# Diagnostics without their colour

Colour puts the opening of a diagnostic between two escape sequences. `unpaint` takes them away from
every opening in a sequence of octets that stands between them. The text of a fault may hold escape
sequences of its own, even a whole painted opening; but a painted opening holds no line break, and
every diagnostic ends in one, so none can reach from one diagnostic into the next.
-/

namespace TestHarness.Pass

/-- How a diagnostic opens in a style, as octets. -/
def openingIn (style : Style) : List UInt8 := Utf8.encode style.diagnosticOpening.toList

/-- The opening of a diagnostic. -/
def opening : List UInt8 := openingIn .plain

/-- The opening between the sequences that turn yellow on and off. -/
def paintedOpening : List UInt8 := openingIn .yellow

/-- Puts the opening for each painted one, after leaving out some octets. -/
def unpaintFrom : Nat → List UInt8 → List UInt8
  | _, [] => []
  | skip + 1, _ :: rest => unpaintFrom skip rest
  | 0, octet :: rest =>
      if paintedOpening <+: octet :: rest then
        -- the first octet of the painted opening is this one
        opening ++ unpaintFrom (paintedOpening.length - 1) rest
      else octet :: unpaintFrom 0 rest

/-- Puts the opening for each painted one. -/
def unpaint (octets : List UInt8) : List UInt8 := unpaintFrom 0 octets

theorem paintedOpening_eq_cons : paintedOpening = 0x1B :: paintedOpening.tail := by decide

theorem unpaint_of_painted {octet : UInt8} {rest : List UInt8}
    (hpainted : paintedOpening <+: octet :: rest) :
    unpaint (octet :: rest) = opening ++ unpaintFrom (paintedOpening.length - 1) rest := by
  rw [unpaint, unpaintFrom, if_pos hpainted]

theorem unpaint_of_not_painted {octet : UInt8} {rest : List UInt8}
    (hpainted : ¬ paintedOpening <+: octet :: rest) :
    unpaint (octet :: rest) = octet :: unpaint rest := by
  rw [unpaint, unpaintFrom, if_neg hpainted, unpaint]

theorem unpaintFrom_length_append (skipped rest : List UInt8) :
    unpaintFrom skipped.length (skipped ++ rest) = unpaint rest := by
  induction skipped with
  | nil => rfl
  | cons octet skipped ih => exact ih

theorem unpaint_paintedOpening_append (rest : List UInt8) :
    unpaint (paintedOpening ++ rest) = opening ++ unpaint rest := by
  have hpainted : paintedOpening <+: 0x1B :: (paintedOpening.tail ++ rest) := by
    rw [← List.cons_append, ← paintedOpening_eq_cons]
    exact List.prefix_append _ rest
  calc unpaint (paintedOpening ++ rest)
    _ = unpaint (0x1B :: (paintedOpening.tail ++ rest)) := by
      rw [← List.cons_append, ← paintedOpening_eq_cons]
    _ = opening ++ unpaintFrom paintedOpening.tail.length (paintedOpening.tail ++ rest) := by
      rw [unpaint_of_painted hpainted, List.length_tail]
    _ = opening ++ unpaint rest := by rw [unpaintFrom_length_append]

/-- Octets other than the one that begins escape sequences stay as they are. -/
theorem unpaint_cons {octet : UInt8} (hoctet : octet ≠ 0x1B) (rest : List UInt8) :
    unpaint (octet :: rest) = octet :: unpaint rest := by
  apply unpaint_of_not_painted
  intro hpainted
  rw [paintedOpening_eq_cons, List.cons_prefix_cons] at hpainted
  exact hoctet hpainted.1.symm

theorem unpaint_append {text : List UInt8} (htext : 0x1B ∉ text) (rest : List UInt8) :
    unpaint (text ++ rest) = text ++ unpaint rest := by
  induction text with
  | nil => rfl
  | cons octet text ih =>
      rw [List.mem_cons, not_or] at htext
      rw [List.cons_append, unpaint_cons (Ne.symm htext.1), ih htext.2, List.cons_append]

/-! ## Line by line -/

/-- A painted opening ends before the next line break. -/
theorem paintedOpening_prefix_iff (text rest : List UInt8) :
    paintedOpening <+: text ++ 0x0A :: rest ↔ paintedOpening <+: text := by
  have hbreak : (0x0A : UInt8) ∉ paintedOpening := by decide
  constructor
  · intro hpainted
    rcases List.prefix_or_prefix_of_prefix hpainted (List.prefix_append text _) with hshort | hlong
    · exact hshort
    · -- a painted opening that is longer than the text would go on with the line break
      obtain ⟨later, hlater⟩ := hlong
      rw [← hlater, List.prefix_append_right_inj] at hpainted
      cases later with
      | nil =>
          have hwhole : paintedOpening = text := hlater.symm.trans (List.append_nil text)
          exact ⟨[], (List.append_nil _).trans hwhole⟩
      | cons octet later =>
          rw [(List.cons_prefix_cons.mp hpainted).1] at hlater
          rw [← hlater] at hbreak
          exact absurd (List.mem_append_right text List.mem_cons_self) hbreak
  · intro hpainted
    exact hpainted.trans (List.prefix_append _ _)

/-- What stands behind a line break is unpainted on its own. -/
theorem unpaintFrom_break {skip : Nat} {text : List UInt8} (hskip : skip ≤ text.length)
    (rest : List UInt8) :
    unpaintFrom skip (text ++ 0x0A :: rest) =
      unpaintFrom skip (text ++ [0x0A]) ++ unpaint rest := by
  induction text generalizing skip with
  | nil =>
      obtain rfl : skip = 0 := Nat.le_zero.mp hskip
      exact unpaint_cons (by decide) rest
  | cons octet text ih =>
      cases skip with
      | succ skip => exact ih (Nat.le_of_succ_le_succ hskip)
      | zero =>
          have hiff (rest : List UInt8) : paintedOpening <+: octet :: (text ++ 0x0A :: rest) ↔
              paintedOpening <+: octet :: text := paintedOpening_prefix_iff (octet :: text) rest
          by_cases hpainted : paintedOpening <+: octet :: text
          · have hlength : paintedOpening.length - 1 ≤ text.length :=
              Nat.sub_le_of_le_add hpainted.length_le
            calc unpaint (octet :: (text ++ 0x0A :: rest))
              _ = opening ++ unpaintFrom (paintedOpening.length - 1) (text ++ 0x0A :: rest) :=
                unpaint_of_painted ((hiff rest).mpr hpainted)
              _ = opening ++ unpaintFrom (paintedOpening.length - 1) (text ++ [0x0A]) ++
                  unpaint rest := by rw [ih hlength, List.append_assoc]
              _ = unpaint (octet :: (text ++ [0x0A])) ++ unpaint rest := by
                rw [unpaint_of_painted ((hiff []).mpr hpainted)]
          · calc unpaint (octet :: (text ++ 0x0A :: rest))
              _ = octet :: unpaint (text ++ 0x0A :: rest) :=
                unpaint_of_not_painted fun h => hpainted ((hiff rest).mp h)
              _ = octet :: (unpaint (text ++ [0x0A]) ++ unpaint rest) :=
                congrArg _ (ih (Nat.zero_le _))
              _ = unpaint (octet :: (text ++ [0x0A])) ++ unpaint rest := by
                rw [unpaint_of_not_painted fun h => hpainted ((hiff []).mp h), List.cons_append]

/-! ## Diagnostics -/

/-- What a diagnostic says after its opening, without the line break at its end. -/
def refusalDetail (program : String) (fault : Fault) : List UInt8 :=
  Utf8.encode (" `" ++ program ++ "`: " ++ fault.text).toList

theorem encode_refusal (style : Style) (program : String) (fault : Fault) :
    Utf8.encode (refusal style program fault).toList =
      openingIn style ++ (refusalDetail program fault ++ [0x0A]) := by
  have hbreak : Utf8.encode "\n".toList = [0x0A] := by decide
  unfold Utf8.encode at hbreak
  simp only [refusal_eq, openingIn, refusalDetail, Utf8.encode, String.toList_append,
    List.flatMap_append, List.append_assoc, hbreak]

/-- A diagnostic is unpainted apart from what follows it, and then its style no longer shows. -/
theorem unpaint_refusal_append (style : Style) (program : String) (fault : Fault)
    (rest : List UInt8) :
    unpaint (Utf8.encode (refusal style program fault).toList ++ rest) =
      opening ++ unpaint (refusalDetail program fault ++ [0x0A]) ++ unpaint rest := by
  have hopening (later : List UInt8) :
      unpaint (openingIn style ++ later) = opening ++ unpaint later := by
    cases style with
    | plain => exact unpaint_append (by decide) later
    | yellow => exact unpaint_paintedOpening_append later
  have hbreak := unpaintFrom_break (Nat.zero_le (refusalDetail program fault).length) rest
  rw [encode_refusal, List.append_assoc, List.append_assoc, List.singleton_append, hopening,
    List.append_assoc]
  exact congrArg (opening ++ ·) hbreak

/-- Once unpainted, diagnostics on the same faults are the same in every style. -/
theorem unpaint_refusals_eq (style otherStyle : Style) (program : String)
    (runs : List (Path × Fault)) :
    unpaint ((runs.map fun run => refusal style program run.2).flatMap fun text =>
        Utf8.encode text.toList) =
      unpaint ((runs.map fun run => refusal otherStyle program run.2).flatMap fun text =>
        Utf8.encode text.toList) := by
  induction runs with
  | nil => rfl
  | cons run runs ih =>
      rw [List.map_cons, List.map_cons, List.flatMap_cons, List.flatMap_cons,
        unpaint_refusal_append, unpaint_refusal_append, ih]

end TestHarness.Pass
