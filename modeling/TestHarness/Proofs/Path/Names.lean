import TestHarness.Proofs.Path

/-!
# What `==` looks at

A path is its segments with separators between them, and two things can be told apart among these:
how the path begins, and the names in it, which are all segments but the empty ones and `.`. The
name `..` is one of them, as any other. `beq_iff_names` says that paths compare equal exactly if
they begin alike and have the same names, octet for octet and in the same order.
-/

namespace TestHarness.Path

/-! ## Segments and separators -/

/-- Names, each after a separator. -/
def trailed (names : List Name) : List UInt8 := names.flatMap (separator :: ·)

@[simp]
theorem trailed_nil : trailed [] = [] := rfl

@[simp]
theorem trailed_cons (name : Name) (names : List Name) :
    trailed (name :: names) = separator :: (name ++ trailed names) := by
  simp [trailed]

theorem trailed_concat (names : List Name) (name : Name) :
    trailed (names ++ [name]) = trailed names ++ separator :: name := by
  simp [trailed]

/-- No separator stands in any of the names. -/
def Unbroken (names : List Name) : Prop := ∀ name ∈ names, separator ∉ name

/-- The octets are the first segment, and the later ones each after a separator. -/
theorem octets_eq_of_segments {octets : List UInt8} {first : Name} {later : List Name}
    (hsegments : segments octets = first :: later) : octets = first ++ trailed later := by
  induction octets generalizing first later with
  | nil =>
      cases hsegments
      rfl
  | cons octet rest ih =>
      obtain ⟨segment, more, hrest⟩ := exists_segments rest
      by_cases hoctet : octet = separator
      · rw [hoctet, segments_separator, hrest] at hsegments
        cases hsegments
        simp [hoctet, ih hrest]
      · rw [segments_cons hoctet hrest] at hsegments
        cases hsegments
        simp [ih hrest]

theorem unbroken_segments (octets : List UInt8) : Unbroken (segments octets) := by
  induction octets with
  | nil => simp [Unbroken, segments]
  | cons octet rest ih =>
      obtain ⟨segment, more, hrest⟩ := exists_segments rest
      by_cases hoctet : octet = separator
      · rw [hoctet, segments_separator]
        exact List.forall_mem_cons.mpr ⟨List.not_mem_nil, ih⟩
      · rw [hrest] at ih
        obtain ⟨hsegment, hmore⟩ := List.forall_mem_cons.mp ih
        rw [segments_cons hoctet hrest]
        refine List.forall_mem_cons.mpr ⟨?_, hmore⟩
        rw [List.mem_cons, not_or]
        exact ⟨Ne.symm hoctet, hsegment⟩

/-- Names without separators, put together with separators, are found again. -/
theorem segments_trailed {first : Name} {later : List Name} (hfirst : separator ∉ first)
    (hlater : Unbroken later) : segments (first ++ trailed later) = first :: later := by
  induction later generalizing first with
  | nil => rw [trailed_nil, List.append_nil, segments_of_not_mem hfirst]
  | cons name more ih =>
      obtain ⟨hname, hmore⟩ := List.forall_mem_cons.mp hlater
      rw [trailed_cons, segments_append, segments_of_not_mem hfirst, ih hname hmore,
        List.singleton_append]

/-! ## Names and beginnings -/

/-- The segments that count wherever they stand. -/
def isKept (segment : Name) : Bool := segment ≠ [] && segment ≠ dot

theorem isKept_iff (segment : Name) : isKept segment = true ↔ segment ≠ [] ∧ segment ≠ dot := by
  simp [isKept]

theorem isKept_eq_false_iff (segment : Name) :
    isKept segment = false ↔ segment = [] ∨ segment = dot := by
  rw [← Bool.not_eq_true, isKept_iff, ← not_or, Decidable.not_not]

/-- The names in a path, `..` among them. -/
def names (path : Path) : List Name := (segments path.octets).filter isKept

/-- The first segment is `.`; the path is then relative. -/
def leadsWithDot (path : Path) : Bool := (segments path.octets).head? == some dot

theorem isKept_of_mem_names {path : Path} {name : Name} (hname : name ∈ path.names) :
    isKept name = true := (List.mem_filter.mp hname).2

theorem unbroken_names (path : Path) : Unbroken path.names := fun name hname =>
  unbroken_segments path.octets name (List.mem_filter.mp hname).1

theorem names_of_segments {path : Path} {first : Name} {later : List Name}
    (hsegments : segments path.octets = first :: later) :
    path.names = (first :: later).filter isKept := by
  rw [names, hsegments]

theorem leadsWithDot_iff {path : Path} {first : Name} {later : List Name}
    (hsegments : segments path.octets = first :: later) :
    path.leadsWithDot = true ↔ first = dot := by
  simp [leadsWithDot, hsegments]

theorem leadsWithDot_of_isAbsolute {path : Path} (habsolute : path.isAbsolute = true) :
    path.leadsWithDot = false := by
  obtain ⟨first, later, hsegments⟩ := exists_segments path.octets
  rw [← Bool.not_eq_true, leadsWithDot_iff hsegments, first_eq_nil habsolute hsegments]
  decide

/-! ## Components as beginning and names -/

/-- How a path begins. -/
def lead (path : Path) : List Component :=
  if path.isAbsolute then [.root] else if path.leadsWithDot then [.current] else []

/-- The octets that a component is spelled by. -/
def Component.spelled : Component → Name
  | .root => []
  | .current => dot
  | .parent => dots
  | .name octets => octets

theorem spelled_of_inner? {segment : Name} {component : Component}
    (hinner : inner? segment = some component) : component.spelled = segment := by
  unfold inner? at hinner
  split at hinner
  · cases hinner
  · split at hinner
    · next hdots =>
        cases hinner
        exact hdots.symm
    · cases hinner
      rfl

/-- The components after the beginning spell the names. -/
theorem map_spelled_inner? (segments : List Name) :
    (segments.filterMap inner?).map Component.spelled = segments.filter isKept := by
  induction segments with
  | nil => rfl
  | cons segment later ih =>
      cases hinner : inner? segment with
      | none =>
          have hdropped : isKept segment = false :=
            (isKept_eq_false_iff segment).mpr ((inner?_eq_none_iff segment).mp hinner)
          rw [List.filterMap_cons_none hinner, ih, List.filter_cons_of_neg (by simp [hdropped])]
      | some component =>
          have hkept : isKept segment = true := by
            rw [isKept_iff, ← not_or, ← inner?_eq_none_iff, hinner]
            exact nofun
          rw [List.filterMap_cons_some hinner, List.map_cons, ih, spelled_of_inner? hinner,
            List.filter_cons_of_pos hkept]

theorem filterMap_inner?_filter (segments : List Name) :
    (segments.filter isKept).filterMap inner? = segments.filterMap inner? := by
  rw [List.filterMap_filter]
  congr 1
  funext segment
  cases hkept : isKept segment with
  | true => rfl
  | false => exact ((inner?_eq_none_iff segment).mpr ((isKept_eq_false_iff segment).mp hkept)).symm

theorem components_eq_lead (path : Path) :
    path.components = path.lead ++ path.names.filterMap inner? := by
  obtain ⟨first, later, hsegments⟩ := exists_segments path.octets
  rw [components_eq hsegments, names_of_segments hsegments, filterMap_inner?_filter]
  unfold opening lead
  by_cases habsolute : path.isAbsolute = true
  · rw [if_pos habsolute, if_pos habsolute, first_eq_nil habsolute hsegments]
    rfl
  · rw [if_neg habsolute, if_neg habsolute]
    by_cases hdot : first = dot
    · rw [if_pos hdot, if_pos ((leadsWithDot_iff hsegments).mpr hdot), hdot]
      rfl
    · rw [if_neg hdot, if_neg (mt (leadsWithDot_iff hsegments).mp hdot)]
      cases hinner : inner? first with
      | none => simp [hinner]
      | some component => simp [hinner]

/-- What is neither the root nor the current directory. -/
def Component.isInner : Component → Bool
  | .root | .current => false
  | .parent | .name _ => true

theorem isInner_of_inner? {segment : Name} {component : Component}
    (hinner : inner? segment = some component) : component.isInner = true := by
  unfold inner? at hinner
  split at hinner
  · cases hinner
  · split at hinner
    · cases hinner
      rfl
    · cases hinner
      rfl

theorem components_filter_isInner (path : Path) :
    path.components.filter Component.isInner = path.names.filterMap inner? := by
  have hlead : path.lead.filter Component.isInner = [] := by
    unfold lead
    split
    · rfl
    · split <;> rfl
  have hnames : (path.names.filterMap inner?).filter Component.isInner =
      path.names.filterMap inner? := by
    rw [List.filter_eq_self]
    intro component hcomponent
    obtain ⟨segment, -, hinner⟩ := List.mem_filterMap.mp hcomponent
    exact isInner_of_inner? hinner
  rw [components_eq_lead, List.filter_append, hlead, hnames, List.nil_append]

theorem lead_eq_iff (p q : Path) :
    p.lead = q.lead ↔ p.isAbsolute = q.isAbsolute ∧ p.leadsWithDot = q.leadsWithDot := by
  have hp : p.isAbsolute = true → p.leadsWithDot = false := leadsWithDot_of_isAbsolute
  have hq : q.isAbsolute = true → q.leadsWithDot = false := leadsWithDot_of_isAbsolute
  revert hp hq
  unfold lead
  cases p.isAbsolute <;> cases q.isAbsolute <;> cases p.leadsWithDot <;>
    cases q.leadsWithDot <;> simp

/-- Paths compare equal exactly if they begin alike and have the same names in the same order. -/
theorem beq_iff_names (p q : Path) :
    (p == q) = true ↔
      p.isAbsolute = q.isAbsolute ∧ p.leadsWithDot = q.leadsWithDot ∧ p.names = q.names := by
  rw [beq_iff, ← and_assoc, ← lead_eq_iff]
  constructor
  · intro hcomponents
    have hinner := congrArg (List.filter Component.isInner) hcomponents
    rw [components_filter_isInner, components_filter_isInner] at hinner
    have hnames := congrArg (List.map Component.spelled) hinner
    have hkept (path : Path) : path.names.filter isKept = path.names :=
      List.filter_eq_self.mpr fun _ => isKept_of_mem_names
    rw [map_spelled_inner?, map_spelled_inner?, hkept, hkept] at hnames
    rw [components_eq_lead, components_eq_lead, hinner] at hcomponents
    exact ⟨List.append_cancel_right hcomponents, hnames⟩
  · rintro ⟨hlead, hnames⟩
    rw [components_eq_lead, components_eq_lead, hlead, hnames]

end TestHarness.Path
