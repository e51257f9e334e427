import SignOn.Cache.Shelf

/-!
# What stands on a shelf

Entries are put on a shelf by writing only.  Everything else that is done to a shelf leaves some of
its entries, and so does a write, besides the one that it adds.
-/

namespace SignOn.Cache.Shelf

variable {α : Type} {shelf : Shelf α} {clock : Ticks} {key : Text} {entry : Entry α}

theorem mem_without (h : entry ∈ (shelf.without key).entries) :
    entry ∈ shelf.entries ∧ entry.key ≠ key := by
  simpa [without, keep] using h

theorem mem_withRoom (h : entry ∈ (shelf.withRoom key).entries) : entry ∈ shelf.entries := by
  unfold withRoom at h
  split at h
  · exact h
  · exact List.mem_of_mem_drop h

theorem mem_read (h : entry ∈ (shelf.read clock key).2.entries) : entry ∈ shelf.entries := by
  unfold read at h
  split at h
  next => exact h
  next found hfound =>
    rcases List.mem_append.mp h with hrest | hlast
    · exact (mem_without hrest).1
    · rw [List.mem_singleton.mp hlast]
      exact mem_of_find? hfound

theorem mem_remove (h : entry ∈ (shelf.remove clock key).2.entries) : entry ∈ shelf.entries := by
  unfold remove at h
  split at h
  · exact h
  · exact (mem_without h).1

theorem of_remove_eq_some {value : α} (h : (shelf.remove clock key).1 = some value) :
    (∃ entry ∈ shelf.entries, entry.key = key ∧ entry.value = value) ∧
      ∀ entry ∈ (shelf.remove clock key).2.entries, entry.key ≠ key := by
  unfold remove at h ⊢
  cases hlive : shelf.live? clock key with
  | none => simp [hlive] at h
  | some found =>
      simp only [hlive, Option.some.injEq] at h ⊢
      have hfind : shelf.find? key = some found := (Option.filter_eq_some_iff.mp hlive).1
      exact ⟨⟨found, mem_of_find? hfind, key_eq_of_find? hfind, h⟩,
        fun entry hentry => (mem_without hentry).2⟩

theorem mem_write {value : α} (h : entry ∈ (shelf.write clock key value).2.entries) :
    entry ∈ shelf.entries ∨
      (shelf.write clock key value).1 = true ∧ entry.key = key ∧ entry.value = value := by
  have hcleared : ∀ other ∈ (shelf.cleared clock).entries, other ∈ shelf.entries :=
    fun other hother => (List.mem_filter.mp hother).1
  by_cases hcapacity : (shelf.cleared clock).capacity = 0
  · simp only [write, hcapacity, ↓reduceDIte] at h
    exact .inl (hcleared entry h)
  · simp only [write, hcapacity, ↓reduceDIte] at h ⊢
    rcases List.mem_append.mp h with hrest | hlast
    · exact .inl (hcleared entry (mem_withRoom (mem_without hrest).1))
    · rw [List.mem_singleton.mp hlast]
      exact .inr ⟨trivial, rfl, rfl⟩

end SignOn.Cache.Shelf
