import TestHarness.Path

/-!
# Components of paths

Paths that compare equal have the same components, though their spellings may differ. The path of an
entry has the components of its directory and then those of the name, so entries of the same name in
directories that compare equal compare equal as well; and whether a path holds a zero octet shows in
its components.
-/

namespace TestHarness.Path

theorem beq_iff (p q : Path) : (p == q) = true ↔ p.components = q.components :=
  beq_iff_eq (a := p.components) (b := q.components)

instance : EquivBEq Path where
  rfl := (beq_iff _ _).mpr rfl
  symm hpq := (beq_iff _ _).mpr ((beq_iff _ _).mp hpq).symm
  trans hpq hqr := (beq_iff _ _).mpr (((beq_iff _ _).mp hpq).trans ((beq_iff _ _).mp hqr))

theorem option_beq_iff (p? q? : Option Path) :
    (p? == q?) = true ↔ p?.map components = q?.map components := by
  cases p? <;> cases q? <;> simp [beq_iff]

theorem list_beq_iff (ps qs : List Path) :
    (ps == qs) = true ↔ ps.map components = qs.map components := by
  induction ps generalizing qs with
  | nil => cases qs <;> simp
  | cons p ps ih =>
      cases qs with
      | nil => simp
      | cons q qs =>
          rw [List.cons_beq_cons, Bool.and_eq_true_iff, beq_iff, ih, List.map_cons, List.map_cons,
            List.cons.injEq]

/-! ## Segments -/

theorem segments_separator (rest : List UInt8) :
    segments (separator :: rest) = [] :: segments rest := by
  rw [segments, if_pos rfl]

theorem exists_segments (octets : List UInt8) :
    ∃ first later, segments octets = first :: later := by
  cases octets with
  | nil => exact ⟨[], [], rfl⟩
  | cons octet rest =>
      unfold segments
      split
      · exact ⟨_, _, rfl⟩
      · split
        · exact ⟨_, _, rfl⟩
        · exact ⟨_, _, rfl⟩

theorem segments_cons {octet : UInt8} (hoctet : octet ≠ separator) {rest : List UInt8}
    {first : Name} {later : List Name} (hrest : segments rest = first :: later) :
    segments (octet :: rest) = (octet :: first) :: later := by
  rw [segments, if_neg hoctet, hrest]

theorem segments_of_not_mem {name : Name} (hname : separator ∉ name) : segments name = [name] := by
  induction name with
  | nil => rfl
  | cons octet rest ih =>
      rw [List.mem_cons, not_or] at hname
      exact segments_cons (Ne.symm hname.1) (ih hname.2)

/-- A separator keeps apart what stands on its two sides. -/
theorem segments_append (before after : List UInt8) :
    segments (before ++ separator :: after) = segments before ++ segments after := by
  induction before with
  | nil => exact segments_separator after
  | cons octet before ih =>
      by_cases hoctet : octet = separator
      · rw [hoctet, List.cons_append, segments_separator, segments_separator, ih, List.cons_append]
      · obtain ⟨first, later, hbefore⟩ := exists_segments before
        rw [hbefore] at ih
        rw [segments_cons hoctet hbefore, List.cons_append, segments_cons hoctet ih]
        rfl

theorem mem_segments_iff {octet : UInt8} (hoctet : octet ≠ separator) (octets : List UInt8) :
    octet ∈ octets ↔ ∃ segment ∈ segments octets, octet ∈ segment := by
  induction octets with
  | nil => simp [segments]
  | cons first rest ih =>
      by_cases hfirst : first = separator
      · rw [hfirst, segments_separator]
        simp [hoctet, ih]
      · obtain ⟨segment, later, hrest⟩ := exists_segments rest
        rw [segments_cons hfirst hrest]
        rw [hrest] at ih
        simp only [List.mem_cons, ih, exists_eq_or_imp, or_assoc]

/-! ## Components -/

/-- What the first segment of a path is a component for. -/
def opening (path : Path) (first : Name) : List Component :=
  if path.isAbsolute then [.root]
  else (if first = dot then some Component.current else inner? first).toList

theorem first_eq_nil {path : Path} {first : Name} {later : List Name}
    (habsolute : path.isAbsolute = true) (hsegments : segments path.octets = first :: later) :
    first = [] := by
  rw [isAbsolute, beq_iff_eq, List.head?_eq_some_iff] at habsolute
  obtain ⟨rest, hrest⟩ := habsolute
  rw [hrest, segments_separator] at hsegments
  exact (List.cons.inj hsegments).1.symm

theorem components_eq {path : Path} {first : Name} {later : List Name}
    (hsegments : segments path.octets = first :: later) :
    path.components = path.opening first ++ later.filterMap inner? := by
  unfold components opening
  by_cases habsolute : path.isAbsolute = true
  · rw [if_pos habsolute, if_pos habsolute, hsegments, first_eq_nil habsolute hsegments]
    rfl
  · rw [if_neg habsolute, if_neg habsolute, hsegments]

/-- What follows a separator adds its own components and changes none before it. -/
theorem components_append (before name : List UInt8) :
    components ⟨before ++ separator :: name⟩ =
      components ⟨before ++ [separator]⟩ ++ (segments name).filterMap inner? := by
  obtain ⟨first, later, hbefore⟩ := exists_segments before
  have hname : segments (before ++ separator :: name) = first :: (later ++ segments name) := by
    rw [segments_append, hbefore, List.cons_append]
  have hbare : segments (before ++ [separator]) = first :: (later ++ [[]]) := by
    rw [segments_append, hbefore]
    rfl
  have habsolute : isAbsolute ⟨before ++ separator :: name⟩ =
      isAbsolute ⟨before ++ [separator]⟩ := by
    simp only [isAbsolute, List.head?_append, List.head?_cons]
  rw [components_eq hname, components_eq hbare, opening, opening, habsolute, List.filterMap_append,
    List.filterMap_append, List.append_assoc, List.append_assoc]
  rfl

/-- A separator at the end of a path changes nothing. -/
theorem components_trailing {before : List UInt8} (hbefore : before ≠ []) :
    components ⟨before ++ [separator]⟩ = components ⟨before⟩ := by
  obtain ⟨octet, rest, rfl⟩ := List.exists_cons_of_ne_nil hbefore
  obtain ⟨first, later, hsegments⟩ := exists_segments (octet :: rest)
  have htrailing : segments (octet :: rest ++ [separator]) = first :: (later ++ [[]]) := by
    rw [segments_append, hsegments]
    rfl
  rw [components_eq hsegments, components_eq htrailing, List.filterMap_append]
  exact congrArg _ (List.append_nil _)

theorem components_entry {dir : Path} (hdir : dir.octets ≠ []) (name : Name) :
    (dir.entry name).components = dir.components ++ (segments name).filterMap inner? := by
  unfold entry
  by_cases hlast : dir.octets.getLast? = some separator
  · obtain ⟨before, hbefore⟩ := List.getLast?_eq_some_iff.mp hlast
    rw [if_pos (by simp [hlast]), hbefore, List.append_assoc, List.singleton_append,
      components_append, ← hbefore]
  · rw [if_neg (by simp [hlast, hdir]), components_append, components_trailing hdir]

theorem inner?_eq_none_iff (segment : Name) :
    inner? segment = none ↔ segment = [] ∨ segment = dot := by
  unfold inner?
  split
  · next hskip => simpa using hskip
  · next hskip =>
      have hkept : ¬ (segment = [] ∨ segment = dot) := by simpa using hskip
      split <;> simp [hkept]

/-- Only the empty path has no components: one that begins with a separator has the root. -/
theorem components_eq_nil_iff (path : Path) : path.components = [] ↔ path.octets = [] := by
  obtain ⟨octets⟩ := path
  cases octets with
  | nil => exact iff_of_true rfl rfl
  | cons octet rest =>
      refine iff_of_false ?_ (List.cons_ne_nil octet rest)
      intro hnone
      by_cases hoctet : octet = separator
      · rw [hoctet, components_eq (segments_separator rest)] at hnone
        cases hnone
      · obtain ⟨first, later, hrest⟩ := exists_segments rest
        have hrelative : isAbsolute ⟨octet :: rest⟩ = false := by simp [isAbsolute, hoctet]
        rw [components_eq (segments_cons hoctet hrest), opening, hrelative] at hnone
        have hopening := (List.append_eq_nil_iff.mp hnone).1
        split at hopening
        · cases hopening
        · split at hopening
          · cases hopening
          · next hdot =>
              rw [Option.toList_eq_nil_iff, inner?_eq_none_iff] at hopening
              exact hopening.elim (List.cons_ne_nil _ _) hdot

/-- Entries of the same name in directories that compare equal compare equal. -/
theorem entry_beq {dir other : Path} (hdir : (dir == other) = true) (name : Name) :
    (dir.entry name == other.entry name) = true := by
  rw [beq_iff] at hdir ⊢
  by_cases hnone : dir.octets = []
  · have hother : other.octets = [] := by
      rw [← components_eq_nil_iff, ← hdir, components_eq_nil_iff]
      exact hnone
    rw [entry, entry, hnone, hother]
  · have hother : other.octets ≠ [] := by
      rw [ne_eq, ← components_eq_nil_iff, ← hdir, components_eq_nil_iff]
      exact hnone
    rw [components_entry hnone, components_entry hother, hdir]

/-! ## Zero octets -/

theorem inner?_eq_name_iff (segment name : Name) :
    inner? segment = some (.name name) ↔
      segment = name ∧ name ≠ [] ∧ name ≠ dot ∧ name ≠ dots := by
  unfold inner?
  split
  · next hskip =>
      have hskipped : segment = [] ∨ segment = dot := by simpa using hskip
      refine iff_of_false nofun ?_
      rintro ⟨rfl, hnil, hdot, -⟩
      exact hskipped.elim hnil hdot
  · next hskip =>
      have hkept : segment ≠ [] ∧ segment ≠ dot := by simpa using hskip
      split
      · next hdots =>
          refine iff_of_false (by simp) ?_
          rintro ⟨rfl, -, -, hne⟩
          exact hne hdots
      · next hdots =>
          rw [Option.some.injEq, Component.name.injEq]
          constructor
          · rintro rfl
            exact ⟨rfl, hkept.1, hkept.2, hdots⟩
          · exact And.left

theorem name_mem_opening_iff {path : Path} {first : Name} {later : List Name}
    (hsegments : segments path.octets = first :: later) (name : Name) :
    .name name ∈ path.opening first ↔ inner? first = some (.name name) := by
  unfold opening
  by_cases habsolute : path.isAbsolute = true
  · rw [if_pos habsolute, first_eq_nil habsolute hsegments]
    exact iff_of_false (by simp) nofun
  · rw [if_neg habsolute]
    split
    · next hdot =>
        rw [hdot]
        exact iff_of_false (by simp) nofun
    · exact Option.mem_toList

/-- The names among the components are the segments that are neither empty nor made of dots. -/
theorem name_mem_components_iff (path : Path) (name : Name) :
    .name name ∈ path.components ↔
      name ∈ segments path.octets ∧ name ≠ [] ∧ name ≠ dot ∧ name ≠ dots := by
  obtain ⟨first, later, hsegments⟩ := exists_segments path.octets
  rw [components_eq hsegments, List.mem_append, name_mem_opening_iff hsegments, hsegments,
    List.mem_filterMap, List.mem_cons]
  simp only [inner?_eq_name_iff]
  constructor
  · rintro (⟨rfl, hname⟩ | ⟨segment, hsegment, rfl, hname⟩)
    · exact ⟨.inl rfl, hname⟩
    · exact ⟨.inr hsegment, hname⟩
  · rintro ⟨rfl | hsegment, hname⟩
    · exact .inl ⟨rfl, hname⟩
    · exact .inr ⟨name, hsegment, rfl, hname⟩

/-- A zero octet can only stand in a name. -/
theorem hasNul_iff (path : Path) :
    path.hasNul = true ↔ ∃ name, .name name ∈ path.components ∧ 0 ∈ name := by
  rw [hasNul, List.contains_iff_mem, mem_segments_iff (by decide)]
  constructor
  · rintro ⟨segment, hsegment, hnul⟩
    refine ⟨segment, (name_mem_components_iff path segment).mpr ⟨hsegment, ?_, ?_, ?_⟩, hnul⟩
    all_goals
      rintro rfl
      revert hnul
      decide
  · rintro ⟨name, hname, hnul⟩
    exact ⟨name, ((name_mem_components_iff path name).mp hname).1, hnul⟩

theorem hasNul_eq {p q : Path} (hpq : (p == q) = true) : p.hasNul = q.hasNul := by
  rw [Bool.eq_iff_iff, hasNul_iff, hasNul_iff, (beq_iff p q).mp hpq]

end TestHarness.Path
