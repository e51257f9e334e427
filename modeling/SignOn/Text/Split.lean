import SignOn.Text.Basic

/-!
# Cutting lists at a separator

`cutFirst?` and `cutLast?` cut once, `splitOn` cuts at every separator and `runs` keeps the
maximal runs between separators.  Joining what `splitOn` gives returns the list.
-/

namespace SignOn.Split

variable {α : Type}

def cutFirst? [DecidableEq α] (separator : α) : List α → Option (List α × List α)
  | [] => none
  | x :: rest =>
      if x = separator then some ([], rest)
      else (cutFirst? separator rest).map fun cut => (x :: cut.1, cut.2)

def cutLast? [DecidableEq α] (separator : α) (xs : List α) : Option (List α × List α) :=
  (cutFirst? separator xs.reverse).map fun cut => (cut.2.reverse, cut.1.reverse)

/-- The pieces between separators, empty ones included: one more than there are separators. -/
def splitWhere (isSeparator : α → Bool) : List α → List (List α)
  | [] => [[]]
  | x :: rest =>
      if isSeparator x then [] :: splitWhere isSeparator rest
      else
        match splitWhere isSeparator rest with
        | [] => [[x]]
        | piece :: pieces => (x :: piece) :: pieces

def splitOn [DecidableEq α] (separator : α) (xs : List α) : List (List α) :=
  splitWhere (fun x => decide (x = separator)) xs

/-- The maximal runs without a separator, none of them empty. -/
def runs (isSeparator : α → Bool) (xs : List α) : List (List α) :=
  (splitWhere isSeparator xs).filter fun piece => !piece.isEmpty

def trimStart (drop : α → Bool) (xs : List α) : List α := xs.dropWhile drop

def trimEnd (drop : α → Bool) (xs : List α) : List α := (xs.reverse.dropWhile drop).reverse

def trim (drop : α → Bool) (xs : List α) : List α := trimEnd drop (trimStart drop xs)

theorem cutFirst?_eq_some [DecidableEq α] {separator : α} {xs before rest : List α}
    (h : cutFirst? separator xs = some (before, rest)) :
    xs = before ++ separator :: rest ∧ separator ∉ before := by
  induction xs generalizing before rest with
  | nil => simp [cutFirst?] at h
  | cons x xs ih =>
      unfold cutFirst? at h
      split at h
      · next hx => simp_all
      · next hx =>
          obtain ⟨⟨b, r⟩, hcut, heq⟩ := Option.map_eq_some_iff.1 h
          obtain ⟨rfl, rfl⟩ := Prod.mk.injEq .. ▸ heq
          obtain ⟨hxs, hmem⟩ := ih hcut
          exact ⟨by simp [hxs], by simp [hmem, Ne.symm hx]⟩

theorem cutFirst?_append [DecidableEq α] {separator : α} {before : List α}
    (h : separator ∉ before) (rest : List α) :
    cutFirst? separator (before ++ separator :: rest) = some (before, rest) := by
  induction before with
  | nil => simp [cutFirst?]
  | cons x before ih =>
      have hx : x ≠ separator := fun e => h (by simp [e])
      have hb : separator ∉ before := fun e => h (by simp [e])
      simp [cutFirst?, hx, ih hb]

theorem cutFirst?_of_not_mem [DecidableEq α] {separator : α} {xs : List α}
    (h : separator ∉ xs) : cutFirst? separator xs = none := by
  induction xs with
  | nil => rfl
  | cons x xs ih =>
      have hx : x ≠ separator := fun e => h (by simp [e])
      have hxs : separator ∉ xs := fun e => h (by simp [e])
      simp [cutFirst?, hx, ih hxs]

theorem cutLast?_eq_some [DecidableEq α] {separator : α} {xs before rest : List α}
    (h : cutLast? separator xs = some (before, rest)) : xs = before ++ separator :: rest := by
  obtain ⟨⟨after, start⟩, hcut, hsides⟩ := Option.map_eq_some_iff.mp h
  simp only [Prod.mk.injEq] at hsides
  obtain ⟨rfl, rfl⟩ := hsides
  have hreverse := congrArg List.reverse (cutFirst?_eq_some hcut).1
  simpa using hreverse

theorem cutLast?_append [DecidableEq α] {separator : α} {rest : List α}
    (h : separator ∉ rest) (before : List α) :
    cutLast? separator (before ++ separator :: rest) = some (before, rest) := by
  have hreverse : (before ++ separator :: rest).reverse =
      rest.reverse ++ separator :: before.reverse := by simp
  have hrest : separator ∉ rest.reverse := by simpa using h
  simp [cutLast?, hreverse, cutFirst?_append hrest]

theorem splitWhere_ne_nil (isSeparator : α → Bool) (xs : List α) :
    splitWhere isSeparator xs ≠ [] := by
  induction xs with
  | nil => simp [splitWhere]
  | cons x xs ih =>
      unfold splitWhere
      split
      · simp
      · split <;> simp

theorem splitWhere_append {isSeparator : α → Bool} {x : α} (h : isSeparator x = true)
    (xs rest : List α) :
    splitWhere isSeparator (xs ++ x :: rest) =
      splitWhere isSeparator xs ++ splitWhere isSeparator rest := by
  induction xs with
  | nil => simp [splitWhere, h]
  | cons y xs ih =>
      rw [List.cons_append, splitWhere, splitWhere, ih]
      split
      · rfl
      · obtain ⟨piece, pieces, hpieces⟩ :=
          List.exists_cons_of_ne_nil (splitWhere_ne_nil isSeparator xs)
        rw [hpieces]
        rfl

theorem runs_append {isSeparator : α → Bool} {x : α} (h : isSeparator x = true)
    (xs rest : List α) :
    runs isSeparator (xs ++ x :: rest) = runs isSeparator xs ++ runs isSeparator rest := by
  rw [runs, splitWhere_append h, List.filter_append]
  rfl

end SignOn.Split
