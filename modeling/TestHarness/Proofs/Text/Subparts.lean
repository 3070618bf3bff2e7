import TestHarness.Path
import TestHarness.Proofs.Text.Ascii
import TestHarness.Proofs.Text.Decoding

/-!
# Well-formed sequences and maximal ill-formed subparts

The octets of a character are a well-formed sequence. Where no such sequence stands, the longest
start of one is ill-formed as a whole, or else a single octet is. `Divided` says from left to right
what a division into these two kinds of parts is, without a cursor and without a table of octets;
`divided_iff` says that there is exactly one, and that it is the one the cursor finds.
-/

namespace TestHarness

namespace Utf8

/-- The octets are the start of a well-formed sequence, or all of it. -/
def Opens (octets : List UInt8) : Prop := ∃ c : Char, octets <+: String.utf8EncodeChar c

/--
The maximal ill-formed part where `rest` follows it: no character begins there, and nothing longer
starts a well-formed sequence.
-/
structure Subpart (octets rest : List UInt8) : Prop where
  nonempty : octets ≠ []
  unspelled : ∀ c : Char, ¬ String.utf8EncodeChar c <+: octets ++ rest
  start : Opens octets ∨ octets.length = 1
  longest : ∀ longer, longer <+: octets ++ rest → Opens longer → longer.length ≤ octets.length

/-- The division of octets into characters and maximal ill-formed parts, from left to right. -/
inductive Divided : List UInt8 → List Piece → Prop where
  | done : Divided [] []
  | char (c : Char) {rest : List UInt8} {found : List Piece} :
      Divided rest found → Divided (String.utf8EncodeChar c ++ rest) (.char c :: found)
  | broken {octets rest : List UInt8} {found : List Piece} :
      Subpart octets rest → Divided rest found → Divided (octets ++ rest) (.broken octets :: found)

/-! ## Starts of sequences, by what the first octet owes -/

/-- Every span owed holds some octet. -/
theorem contains_lo_of_owed? {octet : UInt8} {spans : List Span}
    (howed : owed? octet = some spans) : ∀ span ∈ spans, span.contains span.lo = true := by
  unfold owed? at howed
  repeat' split at howed
  all_goals
    cases howed
  all_goals decide

theorem Meet.getElem? {octets : List UInt8} {spans : List Span} (hmeet : Meet octets spans)
    {i : Nat} {octet : UInt8} (hoctet : octets[i]? = some octet) :
    ∃ span, spans[i]? = some span ∧ span.contains octet = true := by
  induction hmeet generalizing i with
  | nil => cases hoctet
  | @cons first span octets spans hspan _ ih =>
      cases i with
      | zero =>
          cases hoctet
          exact ⟨span, rfl, hspan⟩
      | succ i => exact ih hoctet

/-- A start of a sequence meets some of what its first octet owes, and the rest can be found. -/
theorem opens_cons_iff (octet : UInt8) (rest : List UInt8) :
    Opens (octet :: rest) ↔
      ∃ seen owed, owed? octet = some (seen ++ owed) ∧ Meet rest seen := by
  constructor
  · rintro ⟨c, more, hmore⟩
    have hcomplete := complete_utf8EncodeChar c
    rw [← hmore, List.cons_append] at hcomplete
    obtain @⟨_, _, spans, howed, hmeet⟩ := hcomplete
    refine ⟨spans.take rest.length, spans.drop rest.length, ?_, ?_⟩
    · rw [howed, List.take_append_drop]
    · have htake := List.forall₂_take rest.length hmeet
      rwa [List.take_left] at htake
  · rintro ⟨seen, owed, howed, hmeet⟩
    have hlow : Meet (owed.map Span.lo) owed := by
      rw [Meet, List.forall₂_map_left_iff, List.forall₂_same]
      intro span hspan
      exact contains_lo_of_owed? howed span (List.mem_append_right seen hspan)
    have hcomplete : Complete (octet :: (rest ++ owed.map Span.lo)) :=
      ⟨howed, List.rel_append hmeet hlow⟩
    refine ⟨scalar (octet :: (rest ++ owed.map Span.lo)), ?_⟩
    rw [encode_scalar hcomplete, ← List.cons_append]
    exact List.prefix_append _ _

theorem opens_utf8EncodeChar (c : Char) : Opens (String.utf8EncodeChar c) := ⟨c, List.prefix_rfl⟩

/-- The octet with which a begun sequence goes on is one that it owes. -/
theorem contains_of_opens {octet next : UInt8} {read more : List UInt8} {seen owed : List Span}
    {span : Span} (howed : owed? octet = some (seen ++ span :: owed)) (hmeet : Meet read seen)
    (hopens : Opens (octet :: (read ++ next :: more))) : span.contains next = true := by
  obtain ⟨seen', owed', howed', hmeet'⟩ := (opens_cons_iff _ _).mp hopens
  have hread : (read ++ next :: more)[read.length]? = some next := by simp
  obtain ⟨span', hspan', hnext⟩ := hmeet'.getElem? hread
  have hlength : read.length = seen.length := hmeet.length_eq
  have hspans : seen' ++ owed' = seen ++ span :: owed := Option.some.inj (howed'.symm.trans howed)
  have howes : (seen' ++ owed')[read.length]? = some span' := by
    rw [List.getElem?_append_left (List.getElem?_eq_some_iff.mp hspan').1, hspan']
  rw [hspans, hlength, List.getElem?_append_right (Nat.le_refl _), Nat.sub_self] at howes
  cases howes
  exact hnext

/-- A character is not spelled by less than its first octet and all that this one owes. -/
theorem length_utf8EncodeChar {c : Char} {octet : UInt8} {rest : List UInt8} {spans : List Span}
    (hfront : String.utf8EncodeChar c <+: octet :: rest) (howed : owed? octet = some spans) :
    (String.utf8EncodeChar c).length = spans.length + 1 := by
  have hcomplete := complete_utf8EncodeChar c
  generalize String.utf8EncodeChar c = spelling at hfront hcomplete
  obtain @⟨first, later, spans', howed', hmeet⟩ := hcomplete
  obtain ⟨rfl, -⟩ := List.cons_prefix_cons.mp hfront
  obtain rfl := Option.some.inj (howed'.symm.trans howed)
  rw [List.length_cons, hmeet.length_eq]

/-! ## Parts that the cursor breaks off -/

/-- An octet that starts no sequence is a part of its own. -/
theorem subpart_of_owed?_eq_none {octet : UInt8} (howed : owed? octet = none)
    (rest : List UInt8) : Subpart [octet] rest := by
  have hnone {longer : List UInt8} (hfront : longer <+: [octet] ++ rest)
      (hopens : Opens longer) : longer = [] := by
    cases longer with
    | nil => rfl
    | cons first longer =>
        obtain ⟨rfl, -⟩ := List.cons_prefix_cons.mp hfront
        obtain ⟨seen, owed, hsome, -⟩ := (opens_cons_iff first longer).mp hopens
        cases howed.symm.trans hsome
  constructor
  · exact List.cons_ne_nil _ _
  · intro c hfront
    exact String.utf8EncodeChar_ne_nil (hnone hfront (opens_utf8EncodeChar c))
  · exact .inr rfl
  · intro longer hfront hopens
    rw [hnone hfront hopens]
    exact Nat.zero_le _

/-- A begun sequence is a part if nothing that it owes follows. -/
theorem subpart_of_cut {octet : UInt8} {read rest : List UInt8} {seen owed : List Span}
    {span : Span} (howed : owed? octet = some (seen ++ span :: owed)) (hmeet : Meet read seen)
    (hcut : ∀ next later, rest = next :: later → ¬ span.contains next = true) :
    Subpart (octet :: read) rest := by
  have hlongest : ∀ longer, longer <+: octet :: read ++ rest → Opens longer →
      longer.length ≤ (octet :: read).length := by
    intro longer hfront hopens
    rcases Nat.le_total longer.length (octet :: read).length with hshort | hlong
    · exact hshort
    · obtain ⟨more, rfl⟩ :=
        List.prefix_of_prefix_length_le (List.prefix_append _ rest) hfront hlong
      cases more with
      | nil => simp
      | cons next more =>
          -- a longer start would go on with the octet that follows, which is not owed
          obtain ⟨later, hlater⟩ := (List.prefix_append_right_inj _).mp hfront
          exact absurd (contains_of_opens howed hmeet hopens) (hcut next _ hlater.symm)
  constructor
  · exact List.cons_ne_nil _ _
  · intro c hfront
    have hshort := hlongest _ hfront (opens_utf8EncodeChar c)
    have hlength : read.length = seen.length := hmeet.length_eq
    rw [length_utf8EncodeChar hfront howed, List.length_cons, List.length_append,
      List.length_cons] at hshort
    omega
  · exact .inl ((opens_cons_iff octet read).mpr ⟨seen, span :: owed, howed, hmeet⟩)
  · exact hlongest

namespace Cursor

/-- An octet read between two pieces, with what is found after it. -/
theorem divided_first {rest : List UInt8}
    (hrest : ∀ cursor : Cursor, cursor.Opened → Divided (cursor.read ++ rest) (cursor.scan rest))
    (octet : UInt8) : Divided (octet :: rest) ((first octet).1 ++ (first octet).2.scan rest) := by
  have hfirst := first_opened octet
  unfold first at hfirst ⊢
  split at hfirst
  · next howed => exact .broken (subpart_of_owed?_eq_none howed rest) (hrest idle .idle)
  · next howed =>
      have hchar := Divided.char (scalar [octet]) (hrest idle .idle)
      rwa [encode_scalar ⟨howed, .nil⟩] at hchar
  · exact hrest _ hfirst

/-- What the cursor finds is a division of the octets it holds and those to come. -/
theorem Opened.divided {cursor : Cursor} (hopened : cursor.Opened) (octets : List UInt8) :
    Divided (cursor.read ++ octets) (cursor.scan octets) := by
  induction octets generalizing cursor with
  | nil =>
      cases hopened with
      | idle => exact .done
      | @unfinished octet rest seen owed howed hmeet hsome =>
          obtain ⟨span, owed, rfl⟩ := List.exists_cons_of_ne_nil hsome
          exact .broken (subpart_of_cut howed hmeet nofun) .done
  | cons octet octets ih =>
      cases hopened with
      | idle => exact divided_first (fun _ => ih) octet
      | @unfinished head rest seen owed howed hmeet hsome =>
          obtain ⟨span, owed, rfl⟩ := List.exists_cons_of_ne_nil hsome
          by_cases hspan : span.contains octet = true
          · have hlonger : Meet (rest ++ [octet]) (seen ++ [span]) :=
              List.rel_append hmeet (.cons hspan .nil)
            have hoctets :
                head :: rest ++ octet :: octets = head :: (rest ++ [octet]) ++ octets := by simp
            rw [hoctets, scan_cons, Cursor.step]
            dsimp only
            rw [if_pos hspan]
            cases owed with
            | nil =>
                have hchar := Divided.char (scalar (head :: (rest ++ [octet]))) (ih .idle)
                rwa [encode_scalar ⟨howed, hlonger⟩] at hchar
            | cons next later =>
                refine ih (.unfinished ?_ hlonger (List.cons_ne_nil next later))
                rw [howed, List.append_assoc, List.singleton_append]
          · rw [scan_cons, step_of_not_contains hspan]
            refine .broken (subpart_of_cut howed hmeet ?_) (divided_first (fun _ => ih) octet)
            rintro next later ⟨rfl, rfl⟩
            exact hspan

end Cursor

/-! ## There is one division -/

theorem divided_pieces (octets : List UInt8) : Divided octets (pieces octets) :=
  Cursor.Opened.idle.divided octets

/-- No character is the start of another, or of what begins with another. -/
theorem utf8EncodeChar_append_inj {c d : Char} {rest rest' : List UInt8}
    (hoctets : String.utf8EncodeChar c ++ rest = String.utf8EncodeChar d ++ rest') :
    c = d ∧ rest = rest' := by
  have hscan := congrArg Cursor.idle.scan hoctets
  rw [(complete_utf8EncodeChar c).scan_append, (complete_utf8EncodeChar d).scan_append,
    scalar_utf8EncodeChar, scalar_utf8EncodeChar] at hscan
  obtain rfl := Piece.char.inj (List.cons.inj hscan).1
  exact ⟨rfl, List.append_cancel_left hoctets⟩

/-- Neither of two maximal ill-formed parts at one place is longer. -/
theorem Subpart.length_le {octets rest octets' rest' : List UInt8} (hpart : Subpart octets rest)
    (hpart' : Subpart octets' rest') (hsame : octets ++ rest = octets' ++ rest') :
    octets.length ≤ octets'.length := by
  rcases hpart.start with hopens | hsingle
  · apply hpart'.longest octets _ hopens
    rw [← hsame]
    exact List.prefix_append _ _
  · rw [hsingle]
    exact List.length_pos_iff.mpr hpart'.nonempty

theorem divided_cases {octets : List UInt8} {found : List Piece} (hdivided : Divided octets found) :
    (octets = [] ∧ found = []) ∨
    (∃ c rest later, octets = String.utf8EncodeChar c ++ rest ∧ found = .char c :: later ∧
      Divided rest later) ∨
    ∃ part rest later, octets = part ++ rest ∧ found = .broken part :: later ∧
      Subpart part rest ∧ Divided rest later := by
  cases hdivided with
  | done => exact .inl ⟨rfl, rfl⟩
  | char c hrest => exact .inr (.inl ⟨c, _, _, rfl, rfl, hrest⟩)
  | broken hpart hrest => exact .inr (.inr ⟨_, _, _, rfl, rfl, hpart, hrest⟩)

theorem Divided.unique {octets : List UInt8} {found other : List Piece}
    (hfound : Divided octets found) (hother : Divided octets other) : found = other := by
  induction hfound generalizing other with
  | done =>
      rcases divided_cases hother with
        ⟨-, rfl⟩ | ⟨c, rest, later, hoctets, -⟩ | ⟨part, rest, later, hoctets, -, hpart, -⟩
      · rfl
      · exact absurd (List.append_eq_nil_iff.mp hoctets.symm).1 String.utf8EncodeChar_ne_nil
      · exact absurd (List.append_eq_nil_iff.mp hoctets.symm).1 hpart.nonempty
  | @char c rest found _ ih =>
      rcases divided_cases hother with
        ⟨hoctets, -⟩ | ⟨d, rest', later, hoctets, rfl, hlater⟩ |
          ⟨part, rest', later, hoctets, -, hpart, -⟩
      · exact absurd (List.append_eq_nil_iff.mp hoctets).1 String.utf8EncodeChar_ne_nil
      · obtain ⟨rfl, rfl⟩ := utf8EncodeChar_append_inj hoctets
        rw [ih hlater]
      · refine absurd ?_ (hpart.unspelled c)
        rw [← hoctets]
        exact List.prefix_append _ _
  | @broken part rest found hpart _ ih =>
      rcases divided_cases hother with
        ⟨hoctets, -⟩ | ⟨d, rest', later, hoctets, -, -⟩ |
          ⟨part', rest', later, hoctets, rfl, hpart', hlater⟩
      · exact absurd (List.append_eq_nil_iff.mp hoctets).1 hpart.nonempty
      · refine absurd ?_ (hpart.unspelled d)
        rw [hoctets]
        exact List.prefix_append _ _
      · have hlength : part.length = part'.length :=
          Nat.le_antisymm (hpart.length_le hpart' hoctets) (hpart'.length_le hpart hoctets.symm)
        obtain ⟨rfl, rfl⟩ := List.append_inj hoctets hlength
        rw [ih hlater]

/-- Octets have one division, and it is the one the cursor finds. -/
theorem divided_iff (octets : List UInt8) (found : List Piece) :
    Divided octets found ↔ found = pieces octets := by
  constructor
  · intro hfound
    exact hfound.unique (divided_pieces octets)
  · rintro rfl
    exact divided_pieces octets

/-! ## Texts as they are shown -/

theorem lossy_encode (text : List Char) : lossy (encode text) = text := by
  rw [lossy, pieces_encode, List.map_map]
  exact List.map_id text

theorem encode_lossy_eq_iff (octets : List UInt8) :
    encode (lossy octets) = octets ↔ octets.toByteArray.IsValidUTF8 := by
  constructor
  · intro hencode
    exact ⟨lossy octets, congrArg List.toByteArray hencode.symm⟩
  · rintro ⟨text, htext⟩
    obtain rfl : octets = encode text := List.toByteArray_inj.mp htext
    rw [lossy_encode]

end Utf8

/--
How a path is shown. Its octets have one division, from left to right, into well-formed sequences
and maximal ill-formed parts; each of the former is shown as the character that it spells, and each
of the latter as one replacement character. So the text spells the path again exactly if the path is
valid UTF-8, and a text that was shown is shown as it is. What stands before an ASCII octet, even a
sequence that it cuts off, and what stands after it are shown each on its own with that character
between them, so that the ASCII characters of the text are the ASCII octets of the path in order.
-/
theorem Path.display_division (path : Path) :
    (∃ found, Utf8.Divided path.octets found ∧
      (∀ other, Utf8.Divided path.octets other → other = found) ∧
      path.display = String.ofList (found.map Utf8.Piece.shown)) ∧
    (Path.ofString path.display = path ↔ path.octets.toByteArray.IsValidUTF8) ∧
    (Path.ofString path.display).display = path.display ∧
    (∀ before octet after, path.octets = before ++ octet :: after → octet.toNat < 0x80 →
      path.display = Path.display ⟨before⟩ ++ String.ofList [Utf8.charOf octet] ++
        Path.display ⟨after⟩) ∧
    Utf8.asciiChars path.display.toList = (Utf8.asciiOctets path.octets).map Utf8.charOf := by
  obtain ⟨octets⟩ := path
  have htext : Path.ofString (Path.display ⟨octets⟩) = ⟨Utf8.encode (Utf8.lossy octets)⟩ := by
    rw [Path.display, Path.ofString, String.toList_ofList, Path.ofText]
  refine ⟨⟨Utf8.pieces octets, Utf8.divided_pieces octets, ?_, rfl⟩, ?_, ?_, ?_, ?_⟩
  · intro other hother
    exact (Utf8.divided_iff octets other).mp hother
  · rw [htext, Path.mk.injEq, Utf8.encode_lossy_eq_iff]
  · rw [htext, Path.display, Path.display, Utf8.lossy_encode]
  · rintro before octet after rfl hascii
    simp only [Path.display, Utf8.lossy_ascii hascii, ← String.ofList_append, List.append_assoc,
      List.singleton_append]
  · rw [Path.display, String.toList_ofList, Utf8.asciiChars_lossy]

/-- A sequence cut off by a separator, the start of a surrogate, and a cut at the end. -/
example :
    Path.display ⟨[0x61, 0xF0, 0x9F, 0x92, 0x2F, 0xED, 0xA0, 0xC3, 0xA9, 0xE2, 0x82]⟩ =
      "a\uFFFD/\uFFFD\uFFFDé\uFFFD" := by
  decide

end TestHarness
