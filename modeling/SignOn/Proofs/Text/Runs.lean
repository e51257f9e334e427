import SignOn.Text.Split

/-!
# Maximal runs

`HasRuns` says which runs a list has: separators are passed over, and a run reaches to the next
separator or to the end.  Every list has one list of runs, and `runs` gives it.
-/

namespace SignOn.Split

variable {α : Type} {isSeparator : α → Bool} {xs run rest : List α} {pieces : List (List α)}

inductive HasRuns (isSeparator : α → Bool) : List α → List (List α) → Prop
  | nil : HasRuns isSeparator [] []
  | skip {x : α} {xs : List α} {pieces : List (List α)} (hx : isSeparator x = true)
      (h : HasRuns isSeparator xs pieces) : HasRuns isSeparator (x :: xs) pieces
  | run {run rest : List α} {pieces : List (List α)} (hne : run ≠ [])
      (hrun : ∀ x ∈ run, isSeparator x = false) (hend : ∀ x ∈ rest.head?, isSeparator x = true)
      (hrest : HasRuns isSeparator rest pieces) : HasRuns isSeparator (run ++ rest) (run :: pieces)

theorem HasRuns.exists_cons {x : α} (hx : isSeparator x = false)
    (h : HasRuns isSeparator xs pieces) : ∃ more, HasRuns isSeparator (x :: xs) more := by
  have hsingle : ∀ y ∈ [x], isSeparator y = false := by simpa using hx
  cases h with
  | nil => exact ⟨_, .run (List.cons_ne_nil x []) hsingle nofun .nil⟩
  | skip hy hrest =>
      exact ⟨_, .run (List.cons_ne_nil x []) hsingle (by simpa using hy) (.skip hy hrest)⟩
  | run hne hrun hend hrest =>
      exact ⟨_, .run (List.cons_ne_nil x _) (List.forall_mem_cons.mpr ⟨hx, hrun⟩) hend hrest⟩

theorem exists_hasRuns (isSeparator : α → Bool) (xs : List α) :
    ∃ pieces, HasRuns isSeparator xs pieces := by
  induction xs with
  | nil => exact ⟨[], .nil⟩
  | cons x xs ih =>
      obtain ⟨pieces, hpieces⟩ := ih
      cases hx : isSeparator x with
      | true => exact ⟨pieces, .skip hx hpieces⟩
      | false => exact hpieces.exists_cons hx

theorem runs_cons {x : α} (hx : isSeparator x = true) (xs : List α) :
    runs isSeparator (x :: xs) = runs isSeparator xs :=
  runs_append hx [] xs

theorem splitWhere_of_forall (hrun : ∀ x ∈ run, isSeparator x = false) :
    splitWhere isSeparator run = [run] := by
  induction run with
  | nil => rfl
  | cons x run ih =>
      obtain ⟨hx, hrun⟩ := List.forall_mem_cons.mp hrun
      simp [splitWhere, hx, ih hrun]

theorem runs_of_forall (hne : run ≠ []) (hrun : ∀ x ∈ run, isSeparator x = false) :
    runs isSeparator run = [run] := by
  simp [runs, splitWhere_of_forall hrun, hne]

theorem runs_run_append (hne : run ≠ []) (hrun : ∀ x ∈ run, isSeparator x = false)
    (hend : ∀ x ∈ rest.head?, isSeparator x = true) :
    runs isSeparator (run ++ rest) = run :: runs isSeparator rest := by
  cases rest with
  | nil =>
      rw [List.append_nil, runs_of_forall hne hrun]
      rfl
  | cons x rest =>
      have hx : isSeparator x = true := hend x rfl
      rw [runs_append hx, runs_of_forall hne hrun, runs_cons hx]
      rfl

theorem HasRuns.eq_runs (h : HasRuns isSeparator xs pieces) : pieces = runs isSeparator xs := by
  induction h with
  | nil => rfl
  | skip hx h ih => rw [runs_cons hx, ih]
  | run hne hrun hend hrest ih => rw [runs_run_append hne hrun hend, ih]

theorem hasRuns_runs (isSeparator : α → Bool) (xs : List α) :
    HasRuns isSeparator xs (runs isSeparator xs) := by
  obtain ⟨pieces, hpieces⟩ := exists_hasRuns isSeparator xs
  rw [← hpieces.eq_runs]
  exact hpieces

theorem HasRuns.of_mem (h : HasRuns isSeparator xs pieces) (hmem : run ∈ pieces) :
    run ≠ [] ∧ ∀ x ∈ run, isSeparator x = false := by
  induction h with
  | nil => contradiction
  | skip hx h ih => exact ih hmem
  | run hne hrun hend hrest ih =>
      rcases List.mem_cons.mp hmem with rfl | hlater
      · exact ⟨hne, hrun⟩
      · exact ih hlater

end SignOn.Split
