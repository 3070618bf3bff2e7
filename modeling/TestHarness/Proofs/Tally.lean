import TestHarness.Tally

/-!
# Tallies over whole sequences of runs

A tally is filled by recording one run after another. `recordAll_eq` gives all four fields after any
sequence of runs at once; that the counts, the last path and the list of failing paths belong
together is read off from it.
-/

namespace TestHarness.Tally

/-- The paths whose runs failed, in the order of the runs. -/
def failures (runs : List (Path × RunResult)) : List Path :=
  (runs.filter fun run => run.2.isFailure).map Prod.fst

/-- Records runs one after another. -/
def recordAll (tally : Tally) (runs : List (Path × RunResult)) : Tally :=
  runs.foldl (fun tally run => tally.record run.1 run.2) tally

theorem failures_cons_of_failure {path : Path} {result : RunResult}
    (hresult : result.isFailure = true) (runs : List (Path × RunResult)) :
    failures ((path, result) :: runs) = path :: failures runs := by
  simp [failures, hresult]

theorem failures_cons_of_success {path : Path} {result : RunResult}
    (hresult : result.isFailure = false) (runs : List (Path × RunResult)) :
    failures ((path, result) :: runs) = failures runs := by
  simp [failures, hresult]

/-- All four fields after any sequence of runs. -/
theorem recordAll_eq (tally : Tally) (runs : List (Path × RunResult)) :
    tally.recordAll runs =
      { processed := tally.processed + runs.length
        failureCount := tally.failureCount + (failures runs).length
        lastFailing := (failures runs).getLast?.or tally.lastFailing
        failing := tally.failing ++ failures runs } := by
  induction runs generalizing tally with
  | nil => simp [recordAll, failures]
  | cons run runs ih =>
      obtain ⟨path, result⟩ := run
      have hstep : tally.recordAll ((path, result) :: runs) =
          (tally.record path result).recordAll runs := rfl
      rw [hstep, ih]
      cases hresult : result.isFailure with
      | true =>
          rw [failures_cons_of_failure hresult]
          simp only [record, hresult, if_true, List.length_cons, List.append_assoc,
            List.singleton_append, mk.injEq, and_true]
          refine ⟨by omega, by omega, ?_⟩
          cases hlast : (failures runs).getLast? with
          | none =>
              rw [List.getLast?_eq_none_iff] at hlast
              simp [hlast]
          | some last =>
              rw [List.getLast?_cons, hlast]
              rfl
      | false =>
          rw [failures_cons_of_success hresult]
          simp only [record, hresult, Bool.false_eq_true, if_false, List.length_cons, mk.injEq,
            and_true]
          omega

/-- The tally of a sequence of runs, read off the paths that failed. -/
theorem recordAll_empty (runs : List (Path × RunResult)) :
    empty.recordAll runs =
      { processed := runs.length
        failureCount := (failures runs).length
        lastFailing := (failures runs).getLast?
        failing := failures runs } := by
  rw [recordAll_eq]
  simp [empty]

/-! ## The latest failure -/

/-- A run of the path failed, and every run after it gave the code zero. -/
def LatestFailure (runs : List (Path × RunResult)) (path : Path) : Prop :=
  ∃ before result after, runs = before ++ (path, result) :: after ∧ result.exitCode ≠ 0 ∧
    ∀ run ∈ after, run.2.exitCode = 0

theorem isFailure_iff (result : RunResult) : result.isFailure = true ↔ result.exitCode ≠ 0 :=
  bne_iff_ne

theorem failures_append (before after : List (Path × RunResult)) :
    failures (before ++ after) = failures before ++ failures after := by
  simp [failures]

theorem failures_eq_nil_iff (runs : List (Path × RunResult)) :
    failures runs = [] ↔ ∀ run ∈ runs, run.2.exitCode = 0 := by
  unfold failures
  rw [List.map_eq_nil_iff, List.filter_eq_nil_iff]
  simp only [isFailure_iff, ne_eq, Decidable.not_not]

theorem LatestFailure.getLast?_failures {runs : List (Path × RunResult)} {path : Path}
    (hlatest : LatestFailure runs path) : (failures runs).getLast? = some path := by
  obtain ⟨before, result, after, rfl, hresult, hafter⟩ := hlatest
  rw [failures_append, failures_cons_of_failure ((isFailure_iff result).mpr hresult),
    (failures_eq_nil_iff after).mpr hafter]
  exact List.getLast?_concat

/-- Among runs that did not all succeed there is a latest failure. -/
theorem exists_latestFailure {runs : List (Path × RunResult)} (hruns : failures runs ≠ []) :
    ∃ path, LatestFailure runs path := by
  induction runs with
  | nil => exact absurd rfl hruns
  | cons run later ih =>
      by_cases hlater : failures later = []
      · -- nothing fails later, so the first run is the one that failed
        refine ⟨run.1, [], run.2, later, rfl, ?_, (failures_eq_nil_iff later).mp hlater⟩
        intro hzero
        apply hruns
        rw [failures_eq_nil_iff] at hlater ⊢
        exact List.forall_mem_cons.mpr ⟨hzero, hlater⟩
      · obtain ⟨path, before, result, after, rfl, hresult, hafter⟩ := ih hlater
        exact ⟨path, run :: before, result, after, rfl, hresult, hafter⟩

end TestHarness.Tally
