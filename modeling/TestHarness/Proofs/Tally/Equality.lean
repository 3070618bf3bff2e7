import TestHarness.Proofs.Equality
import TestHarness.Proofs.Tally

/-!
# Tallies that compare equal

`==` looks at all four fields of a tally. In a tally that was filled run by run two of them are read
off the list of failing paths, so there the number of runs and that list decide alone. One more run
on both sides, failing on both or on neither, then changes nothing: the tallies compare equal after
it exactly if they did before, and the paths do if they were added.
-/

namespace TestHarness.Tally

instance : EquivBEq Tally where
  rfl := BEq.rfl
  symm htu := by
    rw [beq_iff] at htu ⊢
    obtain ⟨hprocessed, hcount, hlast, hfailing⟩ := htu
    exact ⟨hprocessed.symm, hcount.symm, hlast.symm, hfailing.symm⟩
  trans htu huv := by
    rw [beq_iff] at htu huv ⊢
    obtain ⟨hprocessed, hcount, hlast, hfailing⟩ := htu
    obtain ⟨hprocessed', hcount', hlast', hfailing'⟩ := huv
    exact ⟨hprocessed.trans hprocessed', hcount.trans hcount', hlast.trans hlast',
      hfailing.trans hfailing'⟩

/-! ## What a tally holds twice -/

/-- The count of failures and the last failing path are those of the list of failing paths. -/
structure Coherent (tally : Tally) : Prop where
  count : tally.failureCount = tally.failing.length
  last : tally.lastFailing = tally.failing.getLast?

theorem coherent_empty : empty.Coherent := ⟨rfl, rfl⟩

theorem record_of_failure {result : RunResult} (hresult : result.isFailure = true) (tally : Tally)
    (path : Path) :
    tally.record path result =
      ⟨tally.processed + 1, tally.failureCount + 1, some path, tally.failing ++ [path]⟩ := by
  rw [record, if_pos hresult]

theorem record_of_success {result : RunResult} (hresult : result.isFailure = false)
    (tally : Tally) (path : Path) :
    tally.record path result = { tally with processed := tally.processed + 1 } := by
  rw [record, hresult, if_neg Bool.false_ne_true]

/-- One more run keeps the two fields in agreement with the list. -/
theorem Coherent.record {tally : Tally} (hcoherent : tally.Coherent) (path : Path)
    (result : RunResult) : (tally.record path result).Coherent := by
  cases hresult : result.isFailure with
  | true =>
      rw [record_of_failure hresult]
      constructor
      · simp [hcoherent.count]
      · simp
  | false =>
      rw [record_of_success hresult]
      exact ⟨hcoherent.count, hcoherent.last⟩

theorem Coherent.recordAll {tally : Tally} (hcoherent : tally.Coherent)
    (runs : List (Path × RunResult)) : (tally.recordAll runs).Coherent := by
  induction runs generalizing tally with
  | nil => exact hcoherent
  | cons run runs ih => exact ih (hcoherent.record run.1 run.2)

/-- Between tallies of this kind the number of runs and the failing paths decide. -/
theorem Coherent.beq_iff {t u : Tally} (ht : t.Coherent) (hu : u.Coherent) :
    (t == u) = true ↔ t.processed = u.processed ∧
      t.failing.map Path.components = u.failing.map Path.components := by
  rw [Tally.beq_iff, ht.count, hu.count, ht.last, hu.last, ← List.getLast?_map,
    ← List.getLast?_map]
  constructor
  · rintro ⟨hprocessed, -, -, hfailing⟩
    exact ⟨hprocessed, hfailing⟩
  · rintro ⟨hprocessed, hfailing⟩
    have hlength := congrArg List.length hfailing
    rw [List.length_map, List.length_map] at hlength
    exact ⟨hprocessed, hlength, congrArg List.getLast? hfailing, hfailing⟩

/-! ## One more run on both sides -/

/-- A run that fails on both sides adds a path, and the rest is as before. -/
theorem Coherent.record_failure_beq_iff {t u : Tally} (ht : t.Coherent) (hu : u.Coherent)
    {a b : RunResult} (ha : a.isFailure = true) (hb : b.isFailure = true) (p q : Path) :
    (t.record p a == u.record q b) = true ↔ (t == u) = true ∧ (p == q) = true := by
  rw [(ht.record p a).beq_iff (hu.record q b), ht.beq_iff hu, Path.beq_iff,
    record_of_failure ha, record_of_failure hb]
  simp only [List.map_append, List.map_cons, List.map_nil, Nat.add_right_cancel_iff]
  constructor
  · rintro ⟨hprocessed, hfailing⟩
    obtain ⟨hbefore, hlast⟩ := List.append_inj' hfailing rfl
    exact ⟨⟨hprocessed, hbefore⟩, (List.cons.inj hlast).1⟩
  · rintro ⟨⟨hprocessed, hbefore⟩, hlast⟩
    exact ⟨hprocessed, by rw [hbefore, hlast]⟩

theorem Coherent.record_success_beq_iff {t u : Tally} (ht : t.Coherent) (hu : u.Coherent)
    {a b : RunResult} (ha : a.isFailure = false) (hb : b.isFailure = false) (p q : Path) :
    (t.record p a == u.record q b) = true ↔ (t == u) = true := by
  rw [(ht.record p a).beq_iff (hu.record q b), ht.beq_iff hu, record_of_success ha,
    record_of_success hb]
  simp only [Nat.add_right_cancel_iff]

theorem isFailure_eq_iff (a b : RunResult) :
    a.isFailure = b.isFailure ↔ (a.exitCode = 0 ↔ b.exitCode = 0) := by
  rw [Bool.eq_iff_iff, isFailure_iff, isFailure_iff]
  exact Decidable.not_iff_not

/-- Both codes are zero or neither is: then equality is kept, and was there before. -/
theorem Coherent.record_beq_iff {t u : Tally} (ht : t.Coherent) (hu : u.Coherent)
    {a b : RunResult} (halike : a.exitCode = 0 ↔ b.exitCode = 0) (p q : Path) :
    (t.record p a == u.record q b) = true ↔
      (t == u) = true ∧ (a.exitCode ≠ 0 → (p == q) = true) := by
  have hsame := (isFailure_eq_iff a b).mpr halike
  rw [← isFailure_iff]
  cases ha : a.isFailure with
  | true => simp [ht.record_failure_beq_iff hu ha (hsame.symm.trans ha)]
  | false => simp [ht.record_success_beq_iff hu ha (hsame.symm.trans ha)]

/-! ## Paths taken one by one -/

theorem map_components_eq_iff (ps qs : List Path) :
    ps.map Path.components = qs.map Path.components ↔
      ps.length = qs.length ∧
        ∀ (i : Nat) (p q : Path), ps[i]? = some p → qs[i]? = some q → (p == q) = true := by
  constructor
  · intro hmap
    refine ⟨by simpa using congrArg List.length hmap, ?_⟩
    intro i p q hp hq
    have hcomponents := congrArg (·[i]?) hmap
    simpa [hp, hq, Path.beq_iff] using hcomponents
  · rintro ⟨hlength, hpairs⟩
    apply List.ext_getElem (by simpa using hlength)
    intro i hi hi'
    rw [List.length_map] at hi hi'
    simpa [Path.beq_iff] using
      hpairs i _ _ (List.getElem?_eq_getElem hi) (List.getElem?_eq_getElem hi')

/--
Equality of tallies that were filled run by run. They compare equal exactly if they count as many
runs and have as many failing paths, which compare equal one by one; the count of failures and the
last failing path add nothing. Comparing equal is an equivalence. A run recorded on each side, with
codes that are both zero or both not, keeps it if the paths compare equal as well, and shows that it
was there before.
-/
theorem recordAll_beq_recordAll (runs others : List (Path × RunResult)) :
    let t := empty.recordAll runs
    let u := empty.recordAll others
    ((t == u) = true ↔
      t.processed = u.processed ∧ t.failing.length = u.failing.length ∧
        ∀ (i : Nat) (p q : Path), t.failing[i]? = some p → u.failing[i]? = some q →
          (p == q) = true) ∧
    Equivalence (fun t u : Tally => (t == u) = true) ∧
    ∀ (p q : Path) (a b : RunResult), (a.exitCode = 0 ↔ b.exitCode = 0) →
      ((t == u) = true → (p == q) = true → (t.record p a == u.record q b) = true) ∧
      ((t.record p a == u.record q b) = true → (t == u) = true) := by
  intro t u
  have ht : t.Coherent := coherent_empty.recordAll runs
  have hu : u.Coherent := coherent_empty.recordAll others
  refine ⟨?_, ⟨fun _ => BEq.rfl, BEq.symm, BEq.trans⟩, ?_⟩
  · rw [ht.beq_iff hu, map_components_eq_iff]
  · intro p q a b halike
    have hrecord := ht.record_beq_iff hu halike p q
    exact ⟨fun hsame hpath => hrecord.mpr ⟨hsame, fun _ => hpath⟩,
      fun hsame => (hrecord.mp hsame).1⟩

/-- In a tally that no runs lead to, a failure can cover up what was there before it. -/
example :
    let t : Tally := ⟨0, 0, some (.ofString "a"), []⟩
    let result : RunResult := ⟨1⟩
    (t.record (.ofString "b") result == empty.record (.ofString "b") result) = true ∧
      (t == empty) = false := by
  decide

end TestHarness.Tally
