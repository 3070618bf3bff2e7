import TestHarness.Proofs.Path

/-!
# Paths of entries

A directory gives names that are one component each. Such a name is the last component of the path
of its entry, and the components before it are those of the directory, however the directory is
spelled: no spelling takes the name apart, drops it or makes one with it. So the path of an entry
tells its directory, as far as `==` does, and its name to the octet.
-/

namespace TestHarness.Path

/--
A name as a directory gives it: it is not empty, holds no separator, and is neither of the two names
that stand for directories themselves. A zero octet would not matter here.
-/
structure IsEntryName (name : Name) : Prop where
  nonempty : name ≠ []
  unbroken : separator ∉ name
  notCurrent : name ≠ dot
  notParent : name ≠ dots

instance (name : Name) : Decidable (IsEntryName name) :=
  decidable_of_iff (name ≠ [] ∧ separator ∉ name ∧ name ≠ dot ∧ name ≠ dots)
    ⟨fun ⟨hnil, hseparator, hdot, hdots⟩ => ⟨hnil, hseparator, hdot, hdots⟩,
      fun ⟨hnil, hseparator, hdot, hdots⟩ => ⟨hnil, hseparator, hdot, hdots⟩⟩

/-- The path of an entry: the directory, a separator if one is missing, and the name. -/
theorem octets_entry (dir : Path) (name : Name) :
    (dir.entry name).octets =
      dir.octets ++
        (if dir.octets = [] ∨ dir.octets.getLast? = some separator then [] else [separator]) ++
        name := by
  unfold entry
  by_cases hnone : dir.octets = [] ∨ dir.octets.getLast? = some separator
  · rw [if_pos (by simpa using hnone), if_pos hnone, List.append_nil]
  · rw [if_neg (by simpa using hnone), if_neg hnone, List.append_assoc, List.singleton_append]

namespace IsEntryName

variable {name : Name} (hname : IsEntryName name)
include hname

theorem inner?_eq : inner? name = some (.name name) :=
  (inner?_eq_name_iff name name).mpr ⟨rfl, hname.nonempty, hname.notCurrent, hname.notParent⟩

/-- The name as a path of its own, as it is taken when the directory is spelled by nothing. -/
theorem components_alone : components ⟨name⟩ = [.name name] := by
  have hsegments : segments name = [name] := segments_of_not_mem hname.unbroken
  have hrelative : isAbsolute ⟨name⟩ = false := by
    rw [isAbsolute, beq_eq_false_iff_ne]
    intro hhead
    exact hname.unbroken (List.mem_of_mem_head? hhead)
  rw [components_eq hsegments, opening, hrelative, if_neg Bool.false_ne_true,
    if_neg hname.notCurrent, hname.inner?_eq]
  rfl

/-- The name is one component, after those of the directory. -/
theorem components_eq (dir : Path) :
    (dir.entry name).components = dir.components ++ [.name name] := by
  by_cases hdir : dir.octets = []
  · have hentry : dir.entry name = ⟨name⟩ := by
      simp [entry, hdir]
    rw [hentry, hname.components_alone, (components_eq_nil_iff dir).mpr hdir, List.nil_append]
  · rw [components_entry hdir, segments_of_not_mem hname.unbroken,
      List.filterMap_cons_some hname.inner?_eq, List.filterMap_nil]

/-- Entries compare equal exactly if their directories do and their names are the same. -/
theorem entry_beq_iff {name' : Name} (hname' : IsEntryName name') (dir other : Path) :
    (dir.entry name == other.entry name') = true ↔ (dir == other) = true ∧ name = name' := by
  rw [beq_iff, beq_iff, hname.components_eq, hname'.components_eq]
  constructor
  · intro hcomponents
    obtain ⟨hdir, hlast⟩ := List.append_inj' hcomponents rfl
    exact ⟨hdir, Component.name.inj (List.cons.inj hlast).1⟩
  · rintro ⟨hdir, rfl⟩
    rw [hdir]

end IsEntryName

/-- No two of the paths compare equal. -/
def Distinct (paths : List Path) : Prop := paths.Pairwise fun p q => (p == q) = false

theorem distinct_entries {names : List Name} (hnames : ∀ name ∈ names, IsEntryName name)
    (hnodup : names.Nodup) (dir : Path) : Distinct (names.map dir.entry) := by
  rw [Distinct, List.pairwise_map]
  refine List.Pairwise.imp_of_mem ?_ hnodup
  intro name name' hname hname' hne
  rw [Bool.eq_false_iff]
  intro hsame
  exact hne (((hnames name hname).entry_beq_iff (hnames name' hname') dir dir).mp hsame).2

end TestHarness.Path
