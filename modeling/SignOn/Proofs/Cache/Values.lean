import SignOn.Proofs.Cache.Visible

/-!
# Values of a shelf

Where an entry stands on a shelf, whether it is live and when it goes depends on its key and its
deadline, and never on its value.  So changing the values of all entries commutes with every
operation of a shelf.
-/

namespace SignOn.Cache

variable {α β : Type}

def Entry.map (f : α → β) (entry : Entry α) : Entry β := ⟨entry.key, f entry.value, entry.deadline⟩

namespace Shelf

@[ext] theorem ext {shelf other : Shelf α} (hcapacity : shelf.capacity = other.capacity)
    (hlifetime : shelf.lifetime = other.lifetime) (hentries : shelf.entries = other.entries) :
    shelf = other := by
  cases shelf
  cases other
  simp_all

def map (f : α → β) (shelf : Shelf α) : Shelf β where
  capacity := shelf.capacity
  lifetime := shelf.lifetime
  entries := shelf.entries.map (Entry.map f)
  distinct := by
    rw [List.map_map]
    exact shelf.distinct
  bounded := by
    rw [List.length_map]
    exact shelf.bounded

variable (f : α → β) (shelf : Shelf α) (clock : Ticks) (key : Text)

@[simp] theorem capacity_map : (shelf.map f).capacity = shelf.capacity := rfl

@[simp] theorem lifetime_map : (shelf.map f).lifetime = shelf.lifetime := rfl

@[simp] theorem entries_map : (shelf.map f).entries = shelf.entries.map (Entry.map f) := rfl

theorem find?_map : (shelf.map f).find? key = (shelf.find? key).map (Entry.map f) := by
  simp only [find?, entries_map, List.find?_map]
  rfl

theorem live?_map : (shelf.map f).live? clock key = (shelf.live? clock key).map (Entry.map f) := by
  rw [live?, live?, find?_map]
  cases shelf.find? key with
  | none => rfl
  | some entry =>
      simp only [Option.map_some, Option.filter_some]
      change (if entry.isLive clock then _ else _) = _
      cases entry.isLive clock <;> rfl

theorem contains_map : (shelf.map f).contains clock key = shelf.contains clock key := by
  rw [contains, contains, live?_map, Option.isSome_map]

theorem without_map : (shelf.map f).without key = (shelf.without key).map f := by
  ext1
  · rfl
  · rfl
  · simp only [without, keep, entries_map, List.filter_map]
    rfl

theorem cleared_map : (shelf.map f).cleared clock = (shelf.cleared clock).map f := by
  ext1
  · rfl
  · rfl
  · simp only [cleared, keep, entries_map, List.filter_map]
    rfl

theorem withRoom_map : (shelf.map f).withRoom key = (shelf.withRoom key).map f := by
  simp only [withRoom, find?_map, Option.isSome_map, capacity_map, entries_map, List.length_map]
  split
  · rfl
  · ext1
    · rfl
    · rfl
    · exact List.map_drop.symm

theorem entries_read :
    (shelf.read clock key).2.entries =
      match shelf.find? key with
      | none => shelf.entries
      | some entry => (shelf.without key).entries ++ [entry] := by
  unfold read
  split
  next h => simp only [h]
  next entry h =>
    simp only [h]
    rfl

theorem read_map :
    (shelf.map f).read clock key =
      ((shelf.read clock key).1.map f, (shelf.read clock key).2.map f) := by
  have hvalue : ((shelf.map f).read clock key).1 = (shelf.read clock key).1.map f := by
    rw [read_fst, read_fst, ← live?_eq_find?, ← live?_eq_find?, live?_map, Option.map_map,
      Option.map_map]
    rfl
  refine Prod.ext hvalue ?_
  ext1
  · simp
  · rw [lifetime_read, lifetime_map, lifetime_map, lifetime_read]
  · rw [entries_map, entries_read, entries_read, find?_map]
    cases shelf.find? key with
    | none => rfl
    | some entry => simp [without_map]

theorem remove_map :
    (shelf.map f).remove clock key =
      ((shelf.remove clock key).1.map f, (shelf.remove clock key).2.map f) := by
  rw [remove, remove, live?_map]
  cases shelf.live? clock key with
  | none => rfl
  | some entry => exact congrArg (Prod.mk _) (without_map f shelf key)

theorem write_map (value : α) :
    (shelf.map f).write clock key (f value) =
      ((shelf.write clock key value).1, (shelf.write clock key value).2.map f) := by
  have htaken : ((shelf.map f).write clock key (f value)).1 = (shelf.write clock key value).1 := by
    rw [write_fst, write_fst, capacity_map]
  refine Prod.ext htaken ?_
  by_cases hcapacity : shelf.capacity = 0
  · have hclears : ∀ {γ : Type} (other : Shelf γ) (v : γ), other.capacity = 0 →
        (other.write clock key v).2 = other.cleared clock := by
      intro γ other v h
      simp only [write]
      rw [dif_pos (by simpa using h)]
    rw [hclears _ _ hcapacity, hclears _ _ (by simpa using hcapacity), cleared_map]
  · ext1
    · simp
    · rw [lifetime_write, lifetime_map, lifetime_map, lifetime_write]
    · rw [entries_map, entries_write_of_ne _ _ _ _ hcapacity,
        entries_write_of_ne _ _ _ _ (by simpa using hcapacity), cleared_map, withRoom_map,
        without_map]
      simp [Entry.map]

variable {f shelf clock key} {other : Shelf α}

theorem read_of_map (h : shelf.map f = other.map f) :
    (shelf.read clock key).1.map f = (other.read clock key).1.map f ∧
      (shelf.read clock key).2.map f = (other.read clock key).2.map f := by
  have hread : (shelf.map f).read clock key = (other.map f).read clock key := by rw [h]
  rw [read_map, read_map] at hread
  exact Prod.mk.inj hread

theorem remove_of_map (h : shelf.map f = other.map f) :
    (shelf.remove clock key).1.map f = (other.remove clock key).1.map f ∧
      (shelf.remove clock key).2.map f = (other.remove clock key).2.map f := by
  have hremove : (shelf.map f).remove clock key = (other.map f).remove clock key := by rw [h]
  rw [remove_map, remove_map] at hremove
  exact Prod.mk.inj hremove

theorem write_of_map {value otherValue : α} (h : shelf.map f = other.map f)
    (hvalue : f value = f otherValue) :
    (shelf.write clock key value).1 = (other.write clock key otherValue).1 ∧
      (shelf.write clock key value).2.map f = (other.write clock key otherValue).2.map f := by
  have hwrite : (shelf.map f).write clock key (f value) =
      (other.map f).write clock key (f otherValue) := by rw [h, hvalue]
  rw [write_map, write_map] at hwrite
  exact Prod.mk.inj hwrite

end Shelf

end SignOn.Cache
