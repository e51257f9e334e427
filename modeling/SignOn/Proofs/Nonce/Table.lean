import SignOn.Nonce.Table

/-!
# What the operations of the table do to its rows

A save that succeeds adds a row for a nonce that had none, and a deletion takes all rows of a nonce
away.  A look-up gives the row of the nonce that is asked for.  Only a nonce that has a form to be
stored in comes into a table.
-/

namespace SignOn.Nonce.Table

variable {table next : Table} {now : Int} {nonce other : Text} {row : Row}

theorem nonce_of_row? (h : table.row? nonce = some row) : row.nonce = nonce := by
  simpa [row?] using List.find?_some h

theorem row?_of_find {found : Option Row} (h : table.find nonce = .ok found) :
    found = table.row? nonce := by
  unfold find at h
  cases hreach : table.reach nonce with
  | error fault => simp [hreach, bind, Except.bind] at h
  | ok _ => simpa [hreach, bind, Except.bind, eq_comm] using h

theorem of_save (h : table.save now nonce = .ok (row, next)) :
    row = ⟨nonce, now⟩ ∧ table.row? nonce = none ∧
      next = { table with rows := table.rows ++ [⟨nonce, now⟩] } := by
  unfold save at h
  cases hreach : table.reach nonce with
  | error fault => simp [hreach, bind, Except.bind] at h
  | ok _ =>
      simp only [hreach, bind, Except.bind] at h
      split at h
      · contradiction
      next hfree =>
        simp only [Bool.or_eq_true, not_or, Bool.not_eq_true, Option.isSome_eq_false_iff,
          Option.isNone_iff_eq_none] at hfree
        simp only [Except.ok.injEq, Prod.mk.injEq] at h
        obtain ⟨rfl, rfl⟩ := h
        exact ⟨rfl, hfree.2, rfl⟩

theorem of_delete? (h : table.delete? nonce = some next) :
    next = { table with rows := table.rows.filter fun row => row.nonce ≠ nonce } := by
  unfold delete? at h
  split at h
  · contradiction
  · split at h
    · contradiction
    · exact (Option.some.inj h).symm

theorem find_of_hidden (h : table.hidden = true) : table.find nonce = .error .refused := by
  rw [find, reach, h]
  rfl

theorem find_of_fault (h : table.hidden = false) {fault : Codec.EncodeFault}
    (hfault : Utf8.encodeStrict nonce = .error fault) :
    table.find nonce = .error (.notEncodable fault) := by
  rw [find, reach, h, hfault]
  rfl

theorem find_of_bytes (h : table.hidden = false) {bytes : Bytes}
    (hbytes : Utf8.encodeStrict nonce = .ok bytes) : table.find nonce = .ok (table.row? nonce) := by
  rw [find, reach, h, hbytes]
  rfl

theorem delete?_of_row? (h : table.hidden = false) (hrow : table.row? nonce = some row) :
    table.delete? nonce =
      if table.deletesFail then none
      else some { table with rows := table.rows.filter fun row => row.nonce ≠ nonce } := by
  simp [delete?, h, hrow]

theorem row?_save (h : table.save now nonce = .ok (row, next)) (other : Text) :
    next.row? other = if other = nonce then some row else table.row? other := by
  obtain ⟨rfl, hnone, rfl⟩ := of_save h
  unfold row? at hnone ⊢
  rw [List.find?_append]
  by_cases hother : other = nonce
  · subst hother
    simp [hnone]
  · simp [hother, Ne.symm hother]

theorem row?_delete? (h : table.delete? nonce = some next) (other : Text) :
    next.row? other = if other = nonce then none else table.row? other := by
  obtain rfl := of_delete? h
  unfold row?
  rw [List.find?_filter]
  by_cases hother : other = nonce
  · subst hother
    simp
  · rw [if_neg hother]
    congr 1
    funext row
    by_cases hrow : row.nonce = other
    · simp [hrow, hother]
    · simp [hrow]

def IsEncodable (table : Table) : Prop :=
  ∀ row ∈ table.rows, ∃ bytes, Utf8.encodeStrict row.nonce = .ok bytes

theorem IsEncodable.of_row? (h : table.IsEncodable) (hrow : table.row? nonce = some row) :
    ∃ bytes, Utf8.encodeStrict nonce = .ok bytes :=
  nonce_of_row? hrow ▸ h row (List.mem_of_find?_eq_some hrow)

theorem isEncodable_empty : empty.IsEncodable := nofun

theorem IsEncodable.of_rows (h : table.IsEncodable) (hrows : ∀ row ∈ next.rows, row ∈ table.rows) :
    next.IsEncodable :=
  fun row hrow => h row (hrows row hrow)

theorem exists_bytes_of_save (h : table.save now nonce = .ok (row, next)) :
    ∃ bytes, Utf8.encodeStrict nonce = .ok bytes := by
  unfold save reach at h
  cases hencode : Utf8.encodeStrict nonce with
  | ok bytes => exact ⟨bytes, rfl⟩
  | error fault =>
      rw [hencode] at h
      split at h <;> cases h

theorem IsEncodable.save (h : table.IsEncodable) (hsave : table.save now nonce = .ok (row, next)) :
    next.IsEncodable := by
  obtain ⟨-, -, rfl⟩ := of_save hsave
  intro stored hstored
  rcases List.mem_append.mp hstored with hold | hnew
  · exact h stored hold
  · rw [List.mem_singleton.mp hnew]
    exact exists_bytes_of_save hsave

end SignOn.Nonce.Table
