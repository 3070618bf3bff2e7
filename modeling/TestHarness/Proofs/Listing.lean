import TestHarness.World

/-!
# Listings

A listing has either all names that the directory was read with, in their order, or none: the path
of the directory holds a zero octet, the directory cannot be opened, or an entry cannot be read.
`World.Unlisted` says this by the answers of the world alone, without the listing that is made of
them; `entries_cases` sets the two side by side.
-/

namespace TestHarness.World

variable {σ : Type} (world : World σ)

/-- Why a directory cannot be listed, as an error. -/
inductive Unlisted (state : σ) (dir : Path) : PassError → Prop where
  | nul : dir.hasNul = true → Unlisted state dir (.unreadable dir .nulInPath)
  | directory {fault : Fault} : dir.hasNul = false → world.names state dir = .error fault →
      Unlisted state dir (.unreadable dir fault)
  /-- All names before the entry could be read; those behind it do not count. -/
  | entry {names : List Name} {fault : Fault} {later : List (Except Fault Name)} :
      dir.hasNul = false → world.names state dir = .ok (names.map .ok ++ .error fault :: later) →
      Unlisted state dir (.unreadEntry dir fault)

/-! ## Entry by entry -/

theorem mapM_entryOf_ok (dir : Path) (names : List Name) :
    List.mapM (entryOf dir) (names.map .ok) = .ok (names.map dir.entry) := by
  induction names with
  | nil => rfl
  | cons name names ih =>
      rw [List.map_cons, List.mapM_cons, ih]
      rfl

theorem mapM_entryOf_error (dir : Path) (names : List Name) (fault : Fault)
    (later : List (Except Fault Name)) :
    List.mapM (entryOf dir) (names.map .ok ++ .error fault :: later) =
      .error (.unreadEntry dir fault) := by
  induction names with
  | nil => rfl
  | cons name names ih =>
      rw [List.map_cons, List.cons_append, List.mapM_cons, ih]
      rfl

/-- Every entry could be read, or there is a first that could not. -/
theorem found_cases (found : List (Except Fault Name)) :
    (∃ names : List Name, found = names.map .ok) ∨
    ∃ (names : List Name) (fault : Fault) (later : List (Except Fault Name)),
      found = names.map .ok ++ .error fault :: later := by
  induction found with
  | nil => exact .inl ⟨[], rfl⟩
  | cons answer found ih =>
      cases answer with
      | error fault => exact .inr ⟨[], fault, found, rfl⟩
      | ok name =>
          rcases ih with ⟨names, rfl⟩ | ⟨names, fault, later, rfl⟩
          · exact .inl ⟨name :: names, rfl⟩
          · exact .inr ⟨name :: names, fault, later, rfl⟩

/-! ## The whole listing -/

/-- The directory is listed with all its names in order, or there is a reason why it is not. -/
theorem entries_cases (state : σ) (dir : Path) :
    (∃ names : List Name, dir.hasNul = false ∧ world.names state dir = .ok (names.map .ok) ∧
      world.entries state dir = .ok (names.map dir.entry)) ∨
    ∃ error, world.Unlisted state dir error ∧ world.entries state dir = .error error := by
  unfold entries
  cases hnul : dir.hasNul with
  | true => exact .inr ⟨_, .nul hnul, rfl⟩
  | false =>
      cases hnames : world.names state dir with
      | error fault => exact .inr ⟨_, .directory hnul hnames, rfl⟩
      | ok found =>
          rcases found_cases found with ⟨names, rfl⟩ | ⟨names, fault, later, rfl⟩
          · exact .inl ⟨names, rfl, rfl, mapM_entryOf_ok dir names⟩
          · exact .inr ⟨_, .entry hnul hnames, mapM_entryOf_error dir names fault later⟩

/-- The paths of a listing are those of the names, in the same order. -/
theorem entries_eq_ok_iff (state : σ) (dir : Path) (paths : List Path) :
    world.entries state dir = .ok paths ↔
      dir.hasNul = false ∧ ∃ names : List Name, world.names state dir = .ok (names.map .ok) ∧
        paths = names.map dir.entry := by
  constructor
  · intro hentries
    rcases world.entries_cases state dir with ⟨names, hnul, hnames, hlisted⟩ | ⟨_, _, hfailed⟩
    · exact ⟨hnul, names, hnames, Except.ok.inj (hentries.symm.trans hlisted)⟩
    · cases hentries.symm.trans hfailed
  · rintro ⟨hnul, names, hnames, rfl⟩
    rw [entries, hnul, hnames]
    exact mapM_entryOf_ok dir names

theorem Unlisted.entries_eq {world : World σ} {state : σ} {dir : Path} {error : PassError}
    (hunlisted : world.Unlisted state dir error) : world.entries state dir = .error error := by
  cases hunlisted with
  | nul hnul =>
      rw [entries, hnul]
      rfl
  | directory hnul hnames =>
      rw [entries, hnul, hnames]
      rfl
  | entry hnul hnames =>
      rw [entries, hnul, hnames]
      exact mapM_entryOf_error dir _ _ _

theorem entries_eq_error_iff (state : σ) (dir : Path) (error : PassError) :
    world.entries state dir = .error error ↔ world.Unlisted state dir error := by
  constructor
  · intro hentries
    rcases world.entries_cases state dir with ⟨_, _, _, hlisted⟩ | ⟨other, hunlisted, hfailed⟩
    · cases hentries.symm.trans hlisted
    · rwa [Except.error.inj (hentries.symm.trans hfailed)]
  · exact Unlisted.entries_eq

/-- There is only one list of names that a directory is read with. -/
theorem names_unique {state : σ} {dir : Path} {names others : List Name}
    (hnames : world.names state dir = .ok (names.map .ok))
    (hothers : world.names state dir = .ok (others.map .ok)) : names = others := by
  have hsame := Except.ok.inj (hnames.symm.trans hothers)
  exact (List.map_inj_right fun _ _ => Except.ok.inj).mp hsame

/-- A directory cannot be listed for a zero octet in its path, or as a whole, or for an entry. -/
theorem exists_unlisted_iff (state : σ) (dir : Path) :
    (∃ error, world.Unlisted state dir error) ↔
      dir.hasNul = true ∨ (∃ fault, world.names state dir = .error fault) ∨
        ∃ found fault, world.names state dir = .ok found ∧ .error fault ∈ found := by
  constructor
  · rintro ⟨error, hunlisted⟩
    cases hunlisted with
    | nul hnul => exact .inl hnul
    | directory _ hnames => exact .inr (.inl ⟨_, hnames⟩)
    | entry _ hnames =>
        exact .inr (.inr ⟨_, _, hnames, List.mem_append_right _ List.mem_cons_self⟩)
  · intro hfails
    rcases world.entries_cases state dir with ⟨names, hnul, hnames, -⟩ | ⟨error, hunlisted, -⟩
    · rcases hfails with hzero | ⟨fault, hfault⟩ | ⟨found, fault, hfound, hmem⟩
      · cases hnul.symm.trans hzero
      · cases hnames.symm.trans hfault
      · obtain rfl := Except.ok.inj (hnames.symm.trans hfound)
        obtain ⟨name, -, hname⟩ := List.mem_map.mp hmem
        cases hname
    · exact ⟨error, hunlisted⟩

/-- A listing is made of the answer on that directory and of nothing else. -/
theorem entries_congr {τ : Type} {other : World τ} {state : σ} {start : τ} {dir : Path}
    (hnames : other.names start dir = world.names state dir) :
    other.entries start dir = world.entries state dir := by
  unfold entries
  rw [hnames]

end TestHarness.World
