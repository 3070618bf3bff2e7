import Mathlib.Data.List.Forall2
import TestHarness.Proofs.Equality
import TestHarness.Proofs.Path.Names

/-!
# Normal forms

The octets of a path can be rewritten until nothing is left that `==` passes over: a run of
separators becomes one, a `.` goes unless a relative path begins with it, and so does a separator at
the end, unless it is the root. Nothing else is touched. Paths compare equal exactly if they are
rewritten to the same octets, and the values made of paths do if all their paths are.
-/

namespace TestHarness

namespace Path

/-! ## Rewriting octets -/

/-- Makes one separator of every run of them. -/
def collapse : List UInt8 → List UInt8
  | [] => []
  | octet :: rest =>
      if octet = separator ∧ rest.head? = some separator then collapse rest
      else octet :: collapse rest

/--
Takes out every `.` between two separators, with the second of them, or between a separator and the
end. `fresh` says that the octet before is a separator.
-/
def dropDots : Bool → List UInt8 → List UInt8
  | _, [] => []
  | fresh, octet :: rest =>
      if fresh = true ∧ octet = 0x2E then
        match rest with
        | [] => []
        | next :: later =>
            if next = separator then dropDots true later
            else octet :: dropDots false (next :: later)
      else octet :: dropDots (octet = separator) rest

/-- Takes off a separator at the end, unless there is nothing else. -/
def trim (octets : List UInt8) : List UInt8 :=
  if octets.getLast? = some separator ∧ octets ≠ [separator] then octets.dropLast else octets

def normal (path : Path) : Path := ⟨trim (dropDots false (collapse path.octets))⟩

theorem collapse_append {name : Name} (hname : separator ∉ name) (rest : List UInt8) :
    collapse (name ++ rest) = name ++ collapse rest := by
  induction name with
  | nil => rfl
  | cons octet name ih =>
      rw [List.mem_cons, not_or] at hname
      rw [List.cons_append, collapse, if_neg (fun h => hname.1 h.1.symm), ih hname.2,
        List.cons_append]

theorem head?_collapse (octets : List UInt8) : (collapse octets).head? = octets.head? := by
  induction octets with
  | nil => rfl
  | cons octet rest ih =>
      unfold collapse
      split
      · next hrun => rw [ih, hrun.1, hrun.2, List.head?_cons]
      · rfl

/-- Only a `.` after a separator can go. -/
theorem dropDots_cons {fresh : Bool} {octet : UInt8} (hstays : ¬ (fresh = true ∧ octet = 0x2E))
    (rest : List UInt8) :
    dropDots fresh (octet :: rest) = octet :: dropDots (octet = separator) rest := by
  rw [dropDots.eq_def]
  exact if_neg hstays

theorem dropDots_separator (fresh : Bool) (rest : List UInt8) :
    dropDots fresh (separator :: rest) = separator :: dropDots true rest :=
  dropDots_cons (fun h => absurd h.2 (by decide)) rest

theorem dropDots_append {name : Name} (hname : separator ∉ name) (rest : List UInt8) :
    dropDots false (name ++ rest) = name ++ dropDots false rest := by
  induction name with
  | nil => rfl
  | cons octet name ih =>
      rw [List.mem_cons, not_or] at hname
      rw [List.cons_append, dropDots_cons (fun h => Bool.false_ne_true h.1),
        decide_eq_false (Ne.symm hname.1), ih hname.2, List.cons_append]

/-- What can stand after a segment: nothing, or a separator. -/
def Ends (rest : List UInt8) : Prop := rest = [] ∨ rest.head? = some separator

theorem Ends.dropDots_eq {rest : List UInt8} (hends : Ends rest) :
    dropDots true rest = dropDots false rest := by
  rcases hends with rfl | hhead
  · rfl
  · obtain ⟨later, rfl⟩ := List.head?_eq_some_iff.mp hhead
    rw [dropDots_separator, dropDots_separator]

/-- A segment other than `.` stays, also after a separator. -/
theorem dropDots_segment {name : Name} (hname : separator ∉ name) (hdot : name ≠ dot)
    {rest : List UInt8} (hends : Ends rest) :
    dropDots true (name ++ rest) = name ++ dropDots false rest := by
  cases name with
  | nil => exact hends.dropDots_eq
  | cons octet name =>
      rw [List.mem_cons, not_or] at hname
      by_cases hoctet : octet = 0x2E
      · cases name with
        | nil => exact absurd (congrArg (fun o => [o]) hoctet) hdot
        | cons next name =>
            have hnext : next ≠ separator := fun h => hname.2 (by simp [h])
            have hlater := dropDots_append hname.2 rest
            rw [List.cons_append] at hlater
            rw [List.cons_append, List.cons_append, dropDots, if_pos ⟨rfl, hoctet⟩]
            rw [if_neg hnext, hlater]
            rfl
      · rw [List.cons_append, dropDots_cons (fun h => hoctet h.2),
          decide_eq_false (Ne.symm hname.1), dropDots_append hname.2, List.cons_append]

theorem dropDots_dot_separator (rest : List UInt8) :
    dropDots true (dot ++ separator :: rest) = dropDots true rest := rfl

/-! ## The part after the first segment -/

theorem ends_trailed (names : List Name) : Ends (trailed names) := by
  cases names with
  | nil => exact .inl rfl
  | cons name names => exact .inr (by rw [trailed_cons, List.head?_cons])

theorem Ends.collapse {rest : List UInt8} (hends : Ends rest) : Ends (collapse rest) := by
  rcases hends with rfl | hhead
  · exact .inl rfl
  · exact .inr ((head?_collapse rest).trans hhead)

theorem collapse_trailed_cons {name : Name} (hname : separator ∉ name) (hnil : name ≠ [])
    (names : List Name) :
    collapse (trailed (name :: names)) = separator :: (name ++ collapse (trailed names)) := by
  obtain ⟨octet, rest, rfl⟩ := List.exists_cons_of_ne_nil hnil
  have hoctet : octet ≠ separator := fun h => hname (by simp [h])
  rw [trailed_cons, collapse, if_neg (fun h => hoctet (Option.some.inj h.2)),
    collapse_append hname]

theorem collapse_trailed_nil_cons (name : Name) (names : List Name) :
    collapse (trailed ([] :: name :: names)) = collapse (trailed (name :: names)) := by
  rw [trailed_cons, List.nil_append, collapse, if_pos ⟨rfl, by rw [trailed_cons, List.head?_cons]⟩]

/--
Of the later segments, those that count stay; a separator may be left at the end, and is when there
were segments and none of them counts.
-/
theorem exists_rewritten {names : List Name} (hnames : Unbroken names) :
    ∃ rest, (rest = [] ∨ rest = [separator]) ∧
      dropDots false (collapse (trailed names)) = trailed (names.filter isKept) ++ rest ∧
      (names ≠ [] → names.filter isKept = [] → rest = [separator]) := by
  induction names with
  | nil => exact ⟨[], .inl rfl, rfl, fun h => absurd rfl h⟩
  | cons name names ih =>
      obtain ⟨hname, hlater⟩ := List.forall_mem_cons.mp hnames
      obtain ⟨rest, hrest, hrewritten, hroot⟩ := ih hlater
      cases hkept : isKept name with
      | true =>
          obtain ⟨hnil, hdot⟩ := (isKept_iff name).mp hkept
          refine ⟨rest, hrest, ?_, ?_⟩
          · rw [collapse_trailed_cons hname hnil, dropDots_separator,
              dropDots_segment hname hdot (ends_trailed names).collapse, hrewritten,
              List.filter_cons_of_pos hkept, trailed_cons, List.cons_append, List.append_assoc]
          · intro _ hnone
            rw [List.filter_cons_of_pos hkept] at hnone
            cases hnone
      | false =>
          rw [List.filter_cons_of_neg (by simp [hkept])]
          cases names with
          | nil =>
              -- the last segment: its separator is left
              refine ⟨[separator], .inr rfl, ?_, fun _ _ => rfl⟩
              rcases (isKept_eq_false_iff name).mp hkept with rfl | rfl
              · rfl
              · rfl
          | cons next names =>
              refine ⟨rest, hrest, ?_, fun _ => hroot (List.cons_ne_nil _ _)⟩
              rcases (isKept_eq_false_iff name).mp hkept with rfl | rfl
              · rw [collapse_trailed_nil_cons, hrewritten]
              · obtain ⟨more, hmore⟩ : ∃ more, collapse (trailed (next :: names)) =
                    separator :: more := by
                  rw [← List.head?_eq_some_iff, head?_collapse, trailed_cons, List.head?_cons]
                rw [hmore, dropDots_separator] at hrewritten
                rw [collapse_trailed_cons hname (by decide), hmore, dropDots_separator,
                  dropDots_dot_separator, hrewritten]

/-! ## The whole path -/

theorem getLast?_trailed {first : Name} {names : List Name} (hfirst : separator ∉ first)
    (hnames : Unbroken names) (hkept : ∀ name ∈ names, isKept name = true) :
    (first ++ trailed names).getLast? ≠ some separator := by
  rcases List.eq_nil_or_concat names with rfl | ⟨before, last, rfl⟩
  · rw [trailed_nil, List.append_nil]
    exact fun h => hfirst (List.mem_of_getLast? h)
  · rw [List.concat_eq_append] at hnames hkept ⊢
    have hlast : last ∈ before ++ [last] := by simp
    have hnil : last ≠ [] := ((isKept_iff last).mp (hkept last hlast)).1
    rw [trailed_concat, ← List.append_assoc, List.getLast?_append_of_ne_nil _ (by simp),
      List.getLast?_cons_of_ne_nil hnil]
    exact fun h => hnames last hlast (List.mem_of_getLast? h)

/-- A separator at the end goes, unless it is all there is. -/
theorem trim_append {body rest : List UInt8} (hbody : body.getLast? ≠ some separator)
    (hrest : rest = [] ∨ rest = [separator]) :
    trim (body ++ rest) = if body = [] then rest else body := by
  unfold trim
  rcases hrest with rfl | rfl
  · rw [List.append_nil, if_neg (fun h => hbody h.1)]
    split
    · assumption
    · rfl
  · by_cases hnil : body = []
    · simp [hnil]
    · rw [if_neg hnil, if_pos ⟨List.getLast?_concat, by simpa using hnil⟩, List.dropLast_concat]

/-- The octets that the beginning of a path and its names are spelled by. -/
def spell (absolute leads : Bool) (names : List Name) : List UInt8 :=
  if absolute then if names = [] then [separator] else trailed names
  else if leads then dot ++ trailed names
  else
    match names with
    | [] => []
    | first :: later => first ++ trailed later

/-- Rewriting keeps the first segment and the later ones that count. -/
theorem octets_normal_of_segments {path : Path} {first : Name} {later : List Name}
    (hsegments : segments path.octets = first :: later) :
    ∃ rest, (later ≠ [] → later.filter isKept = [] → rest = [separator]) ∧
      path.normal.octets = if first ++ trailed (later.filter isKept) = [] then rest
        else first ++ trailed (later.filter isKept) := by
  have hunbroken := unbroken_segments path.octets
  rw [hsegments] at hunbroken
  obtain ⟨hfirst, hlater⟩ := List.forall_mem_cons.mp hunbroken
  obtain ⟨rest, hrest, hrewritten, hroot⟩ := exists_rewritten hlater
  have hnames : Unbroken (later.filter isKept) := fun name hname =>
    hlater name (List.mem_of_mem_filter hname)
  have hlast := getLast?_trailed hfirst hnames fun name hname => (List.mem_filter.mp hname).2
  refine ⟨rest, hroot, ?_⟩
  rw [normal, octets_eq_of_segments hsegments, collapse_append hfirst, dropDots_append hfirst,
    hrewritten, ← List.append_assoc, trim_append hlast hrest]

/-- Only an absolute path has an empty first segment, if there are octets at all. -/
theorem isAbsolute_of_segments {path : Path} {later : List Name}
    (hsegments : segments path.octets = [] :: later) (hoctets : path.octets ≠ []) :
    path.isAbsolute = true := by
  have htrailed := octets_eq_of_segments hsegments
  rw [List.nil_append] at htrailed
  rw [isAbsolute, beq_iff_eq, htrailed]
  rcases ends_trailed later with hnone | hhead
  · exact absurd (htrailed.trans hnone) hoctets
  · exact hhead

/-- The normal form spells how the path begins and the names in it, and nothing else. -/
theorem octets_normal (path : Path) :
    path.normal.octets = spell path.isAbsolute path.leadsWithDot path.names := by
  by_cases hempty : path.octets = []
  · obtain ⟨octets⟩ := path
    obtain rfl : octets = [] := hempty
    rfl
  · obtain ⟨first, later, hsegments⟩ := exists_segments path.octets
    obtain ⟨rest, hroot, hnormal⟩ := octets_normal_of_segments hsegments
    rw [hnormal, names_of_segments hsegments]
    unfold spell
    by_cases habsolute : path.isAbsolute = true
    · obtain rfl := first_eq_nil habsolute hsegments
      have hsome : later ≠ [] := by
        rintro rfl
        exact hempty (octets_eq_of_segments hsegments)
      rw [if_pos habsolute, List.nil_append, List.filter_cons_of_neg (by decide)]
      cases hkept : later.filter isKept with
      | nil => simp [hroot hsome hkept]
      | cons name names => simp
    · have hnil : first ≠ [] := by
        rintro rfl
        exact habsolute (isAbsolute_of_segments hsegments hempty)
      rw [if_neg habsolute, if_neg (by simp [hnil])]
      by_cases hdot : first = dot
      · subst hdot
        rw [if_pos ((leadsWithDot_iff hsegments).mpr rfl), List.filter_cons_of_neg (by decide)]
      · rw [if_neg (mt (leadsWithDot_iff hsegments).mp hdot),
          List.filter_cons_of_pos ((isKept_iff first).mpr ⟨hnil, hdot⟩)]

/-- What was spelled is read again. -/
theorem spell_read {absolute leads : Bool} {names : List Name}
    (hlead : absolute = true → leads = false) (hnames : Unbroken names)
    (hkept : ∀ name ∈ names, isKept name = true) :
    isAbsolute ⟨spell absolute leads names⟩ = absolute ∧
      leadsWithDot ⟨spell absolute leads names⟩ = leads ∧
      Path.names ⟨spell absolute leads names⟩ = names := by
  have hfilter : names.filter isKept = names := List.filter_eq_self.mpr hkept
  cases absolute with
  | true =>
      obtain rfl := hlead rfl
      cases names with
      | nil => exact ⟨rfl, rfl, rfl⟩
      | cons name later =>
          have hsegments : segments (spell true false (name :: later)) = [] :: name :: later :=
            segments_trailed List.not_mem_nil hnames
          refine ⟨by simp [spell, isAbsolute], by simp [leadsWithDot, hsegments, dot], ?_⟩
          rw [Path.names, hsegments, List.filter_cons_of_neg (by decide), hfilter]
  | false =>
      cases leads with
      | true =>
          have hsegments : segments (spell false true names) = dot :: names :=
            segments_trailed (by decide) hnames
          refine ⟨rfl, by simp [leadsWithDot, hsegments], ?_⟩
          rw [Path.names, hsegments, List.filter_cons_of_neg (by decide), hfilter]
      | false =>
          cases names with
          | nil => exact ⟨rfl, rfl, rfl⟩
          | cons first later =>
              obtain ⟨hfirst, hlater⟩ := List.forall_mem_cons.mp hnames
              obtain ⟨hnil, hdot⟩ := (isKept_iff first).mp (hkept first List.mem_cons_self)
              have hsegments : segments (spell false false (first :: later)) = first :: later :=
                segments_trailed hfirst hlater
              refine ⟨?_, by simp [leadsWithDot, hsegments, hdot], ?_⟩
              · rw [isAbsolute, beq_eq_false_iff_ne]
                change (first ++ trailed later).head? ≠ some separator
                rw [List.head?_append_of_ne_nil _ hnil]
                exact fun h => hfirst (List.mem_of_mem_head? h)
              · rw [Path.names, hsegments, hfilter]

theorem normal_beq (path : Path) : (path.normal == path) = true := by
  have hnormal : path.normal = ⟨spell path.isAbsolute path.leadsWithDot path.names⟩ :=
    congrArg Path.mk path.octets_normal
  rw [beq_iff_names, hnormal]
  exact spell_read leadsWithDot_of_isAbsolute (unbroken_names path) fun _ => isKept_of_mem_names

/-- Paths compare equal exactly if their normal forms are the same octets. -/
theorem beq_iff_normal_eq (p q : Path) : (p == q) = true ↔ p.normal = q.normal := by
  constructor
  · intro hsame
    obtain ⟨habsolute, hleads, hnames⟩ := (beq_iff_names p q).mp hsame
    have hoctets : p.normal.octets = q.normal.octets := by
      rw [octets_normal, octets_normal, habsolute, hleads, hnames]
    exact congrArg Path.mk hoctets
  · intro hnormal
    have hq := normal_beq q
    rw [← hnormal] at hq
    exact BEq.trans (BEq.symm (normal_beq p)) hq

theorem normal_normal (path : Path) : path.normal.normal = path.normal :=
  (beq_iff_normal_eq path.normal path).mp (normal_beq path)

/-! ## What is not passed over -/

/-- Neither of the octets, or both, are separators, and so for dots. -/
def Alike (a b : UInt8) : Prop := (a = separator ↔ b = separator) ∧ (a = 0x2E ↔ b = 0x2E)

/-- The paths differ at most in octets that are neither separators nor dots, such as letters. -/
def SameShape (p q : Path) : Prop := List.Forall₂ Alike p.octets q.octets

theorem forall₂_alike_segments {octets others : List UInt8}
    (halike : List.Forall₂ Alike octets others) :
    List.Forall₂ (List.Forall₂ Alike) (segments octets) (segments others) := by
  induction halike with
  | nil => exact .cons .nil .nil
  | @cons a b rest rest' hab _ ih =>
      by_cases ha : a = separator
      · rw [ha, hab.1.mp ha, segments_separator, segments_separator]
        exact .cons .nil ih
      · have hb : b ≠ separator := mt hab.1.mpr ha
        obtain ⟨segment, later, hrest⟩ := exists_segments rest
        obtain ⟨segment', later', hrest'⟩ := exists_segments rest'
        rw [hrest, hrest'] at ih
        rw [segments_cons ha hrest, segments_cons hb hrest']
        cases ih with
        | cons hsegment hlater => exact .cons (.cons hab hsegment) hlater

/-- Segments that do not count have no other octets to differ in. -/
theorem eq_of_alike {segment other : Name} (halike : List.Forall₂ Alike segment other)
    (hdropped : isKept segment = false ∨ isKept other = false) : segment = other := by
  rw [isKept_eq_false_iff, isKept_eq_false_iff] at hdropped
  rcases hdropped with (rfl | rfl) | (rfl | rfl)
  · cases halike
    rfl
  · obtain ⟨b, rest, hb, hrest, rfl⟩ := List.forall₂_cons_left_iff.mp halike
    cases hrest
    rw [hb.2.mp rfl, dot]
  · cases halike
    rfl
  · obtain ⟨a, rest, ha, hrest, rfl⟩ := List.forall₂_cons_right_iff.mp halike
    cases hrest
    rw [ha.2.mpr rfl, dot]

theorem eq_of_filter_isKept {names others : List Name}
    (halike : List.Forall₂ (List.Forall₂ Alike) names others)
    (hkept : names.filter isKept = others.filter isKept) : names = others := by
  induction halike with
  | nil => rfl
  | @cons name other names others hname _ ih =>
      by_cases hboth : isKept name = true ∧ isKept other = true
      · rw [List.filter_cons_of_pos hboth.1, List.filter_cons_of_pos hboth.2] at hkept
        obtain ⟨hsame, hlater⟩ := List.cons.inj hkept
        rw [hsame, ih hlater]
      · have hdropped : isKept name = false ∨ isKept other = false := by
          rw [← Bool.not_eq_true, ← Bool.not_eq_true]
          exact Decidable.not_and_iff_not_or_not.mp hboth
        obtain rfl := eq_of_alike hname hdropped
        rw [or_self] at hdropped
        have hnot : ¬ isKept name = true := by simp [hdropped]
        rw [List.filter_cons_of_neg hnot, List.filter_cons_of_neg hnot] at hkept
        rw [ih hkept]

/-- No exchange of letters makes another path of the same: case counts, to take an instance. -/
theorem SameShape.beq_iff_eq {p q : Path} (hshape : SameShape p q) :
    (p == q) = true ↔ p = q := by
  constructor
  · intro hsame
    obtain ⟨-, -, hnames⟩ := (beq_iff_names p q).mp hsame
    have hsegments := eq_of_filter_isKept (forall₂_alike_segments hshape) hnames
    obtain ⟨first, later, hp⟩ := exists_segments p.octets
    have hoctets : p.octets = q.octets := by
      rw [octets_eq_of_segments hp, octets_eq_of_segments (hsegments.symm.trans hp)]
    exact congrArg Path.mk hoctets
  · rintro rfl
    exact BEq.rfl

theorem count_dots_names (path : Path) :
    path.names.count dots = (segments path.octets).count dots :=
  List.count_filter (by decide)

/-- A `..` is never worked off against the name before it, nor dropped after the root. -/
theorem beq_eq_false_of_count_dots {p q : Path}
    (hcount : (segments q.octets).count dots < (segments p.octets).count dots) :
    (p == q) = false := by
  rw [Bool.eq_false_iff]
  intro hsame
  obtain ⟨-, -, hnames⟩ := (beq_iff_names p q).mp hsame
  rw [← count_dots_names, ← count_dots_names, hnames] at hcount
  exact Nat.lt_irrefl _ hcount

theorem leadsWithDot_dot_separator (octets : List UInt8) :
    leadsWithDot ⟨dot ++ separator :: octets⟩ = true := by
  have hsegments : segments (dot ++ separator :: octets) = dot :: segments octets :=
    segments_append dot octets
  exact (leadsWithDot_iff hsegments).mpr rfl

/-- A `.` at the start of a relative path counts. -/
theorem dot_separator_beq_eq_false {path : Path} (hleads : path.leadsWithDot = false) :
    ((⟨dot ++ separator :: path.octets⟩ : Path) == path) = false := by
  rw [Bool.eq_false_iff]
  intro hsame
  obtain ⟨-, hsame, -⟩ := (beq_iff_names _ path).mp hsame
  rw [leadsWithDot_dot_separator, hleads] at hsame
  cases hsame

theorem map_components_eq_iff_normal (ps qs : List Path) :
    ps.map components = qs.map components ↔ ps.map normal = qs.map normal := by
  induction ps generalizing qs with
  | nil => cases qs <;> simp
  | cons p ps ih =>
      cases qs with
      | nil => simp
      | cons q qs => simp only [List.map_cons, List.cons.injEq, ih, ← beq_iff, beq_iff_normal_eq]

theorem option_components_eq_iff_normal (p? q? : Option Path) :
    p?.map components = q?.map components ↔ p?.map normal = q?.map normal := by
  cases p? <;> cases q? <;> simp [← beq_iff, beq_iff_normal_eq]

end Path

/-! ## Values made of paths -/

def Config.normal (config : Config) : Config := { config with testsDir := config.testsDir.normal }

def Entry.normal (entry : Entry) : Entry := { entry with path := entry.path.normal }

def Tally.normal (tally : Tally) : Tally :=
  { tally with
    lastFailing := tally.lastFailing.map Path.normal
    failing := tally.failing.map Path.normal }

def Outcome.normal : Outcome → Outcome
  | completed tally => completed tally.normal
  | aborted path => aborted path.normal

theorem Config.beq_iff_normal_eq (c d : Config) : (c == d) = true ↔ c.normal = d.normal := by
  rw [Config.beq_iff, Path.beq_iff_normal_eq, normal, normal, Config.mk.injEq]

theorem Entry.beq_iff_normal_eq (a b : Entry) : (a == b) = true ↔ a.normal = b.normal := by
  rw [Entry.beq_iff, Path.beq_iff_normal_eq, normal, normal, Entry.mk.injEq]

theorem Tally.beq_iff_normal_eq (t u : Tally) : (t == u) = true ↔ t.normal = u.normal := by
  rw [Tally.beq_iff, Path.option_components_eq_iff_normal, Path.map_components_eq_iff_normal,
    normal, normal, Tally.mk.injEq]

theorem Outcome.beq_iff_normal_eq (o other : Outcome) :
    (o == other) = true ↔ o.normal = other.normal := by
  cases o with
  | completed t =>
      cases other with
      | completed u => exact (t.beq_iff_normal_eq u).trans (by simp [normal])
      | aborted q => exact iff_of_false Bool.false_ne_true (by simp [normal])
  | aborted p =>
      cases other with
      | completed u => exact iff_of_false Bool.false_ne_true (by simp [normal])
      | aborted q => exact (p.beq_iff_normal_eq q).trans (by simp [normal])

/--
Comparing paths is comparing normal forms. Paths compare equal exactly if they are rewritten to the
same octets; rewriting twice changes nothing more, and the normal form compares equal to the path.
Nothing else is passed over: a path is known, as far as `==` goes, by whether it is absolute, by
whether it begins with `.`, and by its names to the octet. So paths that differ in letters only do
not compare equal, nor does a path with a `..` to one with fewer, nor one with `.` put before it to
one without. Settings, entries, tallies and outcomes compare equal exactly if they are the same
after all their paths are rewritten.
-/
theorem Path.normal_decides_beq (p q : Path) :
    ((p == q) = true ↔ p.normal = q.normal) ∧
    p.normal.normal = p.normal ∧
    (p.normal == p) = true ∧
    ((p == q) = true ↔
      p.isAbsolute = q.isAbsolute ∧ p.leadsWithDot = q.leadsWithDot ∧ p.names = q.names) ∧
    (SameShape p q → ((p == q) = true ↔ p = q)) ∧
    ((segments q.octets).count dots < (segments p.octets).count dots → (p == q) = false) ∧
    (p.leadsWithDot = false → ((⟨dot ++ separator :: p.octets⟩ : Path) == p) = false) ∧
    (∀ c d : Config, (c == d) = true ↔ c.normal = d.normal) ∧
    (∀ a b : Entry, (a == b) = true ↔ a.normal = b.normal) ∧
    (∀ t u : Tally, (t == u) = true ↔ t.normal = u.normal) ∧
    ∀ o other : Outcome, (o == other) = true ↔ o.normal = other.normal :=
  ⟨beq_iff_normal_eq p q, normal_normal p, normal_beq p, beq_iff_names p q,
    SameShape.beq_iff_eq, beq_eq_false_of_count_dots, dot_separator_beq_eq_false,
    Config.beq_iff_normal_eq, Entry.beq_iff_normal_eq, Tally.beq_iff_normal_eq,
    Outcome.beq_iff_normal_eq⟩

example :
    ["//./", "./.", ".//a/./", "/./..", "..a//.b/"].map (fun text => (Path.ofString text).normal) =
      ["/", ".", "./a", "/..", "..a/.b"].map Path.ofString := by
  decide +kernel

end TestHarness
