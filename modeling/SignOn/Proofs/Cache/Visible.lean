import SignOn.Cache.Eager

/-!
# What is visible of a shelf

Whoever asks a shelf at some clock sees its live entries only, in the order of their last use.
Every operation of a shelf treats what is visible as if nothing else stood on the shelf, and
answers from it alone.
-/

namespace SignOn.Cache

open Eager (others)

variable {α : Type}

/-! ## Lists of entries -/

theorem isLive_of_le {entry : Entry α} {clock later : Ticks} (h : clock ≤ later)
    (hlive : entry.isLive later) : entry.isLive clock := by
  simp only [Entry.isLive, decide_eq_true_eq] at hlive ⊢
  exact Int.lt_of_le_of_lt h hlive

theorem others_eq_self {key : Text} {entries : List (Entry α)}
    (h : Eager.find? key entries = none) : others key entries = entries := by
  simpa [others, Eager.find?, List.filter_eq_self] using h

theorem others_comm (p : Entry α → Bool) (key : Text) (entries : List (Entry α)) :
    (others key entries).filter p = others key (entries.filter p) := by
  simp only [others, List.filter_filter]
  congr 1
  funext entry
  exact Bool.and_comm _ _

theorem find?_filter {entries : List (Entry α)} (h : (entries.map (·.key)).Nodup)
    (p : Entry α → Bool) (key : Text) :
    Eager.find? key (entries.filter p) = (Eager.find? key entries).filter p := by
  induction entries with
  | nil => rfl
  | cons entry entries ih =>
      obtain ⟨hnot, hrest⟩ := List.nodup_cons.mp h
      have hih := ih hrest
      by_cases hkey : entry.key = key
      · subst hkey
        cases hp : p entry with
        | true => simp [Eager.find?, Option.filter_some, hp]
        | false =>
            have hnone : Eager.find? entry.key (entries.filter p) = none := by
              refine List.find?_eq_none.mpr fun other hother heq => ?_
              have hmem := List.mem_map_of_mem (f := (·.key)) (List.mem_filter.mp hother).1
              rw [of_decide_eq_true heq] at hmem
              exact hnot hmem
            rw [List.filter_cons_of_neg (by simp [hp]), hnone]
            simp [Eager.find?, Option.filter_some, hp]
      · have hfind : Eager.find? key (entry :: entries) = Eager.find? key entries := by
          simp [Eager.find?, hkey]
        rw [hfind, ← hih]
        cases hp : p entry with
        | true => simp [Eager.find?, hp, hkey]
        | false => simp [hp]

theorem find?_others (key other : Text) (entries : List (Entry α)) :
    Eager.find? key (others other entries) =
      if key = other then none else Eager.find? key entries := by
  induction entries with
  | nil => simp [Eager.find?, others]
  | cons entry entries ih =>
      by_cases hentry : entry.key = other <;> by_cases hkey : entry.key = key <;>
        by_cases h : key = other <;>
        simp_all [Eager.find?, others]

theorem find?_append (key : Text) (entries : List (Entry α)) (entry : Entry α) :
    Eager.find? key (entries ++ [entry]) =
      (Eager.find? key entries).or (if entry.key = key then some entry else none) := by
  by_cases h : entry.key = key <;> simp [Eager.find?, List.find?_append, h]

theorem find?_tail_of_none {key : Text} {entries : List (Entry α)}
    (h : Eager.find? key entries = none) : Eager.find? key entries.tail = none :=
  List.find?_eq_none.mpr fun entry hentry =>
    List.find?_eq_none.mp h entry (List.mem_of_mem_tail hentry)

theorem find?_insert_self (capacity : Nat) (entry : Entry α) (entries : List (Entry α)) :
    Eager.find? entry.key (Eager.insert capacity entry entries) = some entry := by
  unfold Eager.insert
  split
  next => simp [find?_append, find?_others]
  next hnone =>
    have hkept : Eager.find? entry.key
        (if capacity ≤ entries.length then entries.tail else entries) = none := by
      split
      · exact find?_tail_of_none hnone
      · exact hnone
    rw [find?_append, hkept, if_pos rfl, Option.none_or]

theorem find?_insert_of_ne (capacity : Nat) (entry : Entry α) {entries : List (Entry α)}
    {key : Text} (hdistinct : (entries.map (·.key)).Nodup) (h : key ≠ entry.key) :
    Eager.find? key (Eager.insert capacity entry entries) = Eager.find? key entries ∨
      Eager.find? key (Eager.insert capacity entry entries) = none ∧
        Eager.find? entry.key entries = none ∧ capacity ≤ entries.length ∧
        entries.head?.map (·.key) = some key := by
  have hsnoc : ∀ kept : List (Entry α),
      Eager.find? key (kept ++ [entry]) = Eager.find? key kept := fun kept => by
    rw [find?_append, if_neg (Ne.symm h), Option.or_none]
  unfold Eager.insert
  split
  next => exact .inl (by rw [hsnoc, find?_others, if_neg h])
  next hnone =>
    rw [hsnoc]
    by_cases hfull : capacity ≤ entries.length
    · rw [if_pos hfull]
      cases entries with
      | nil => exact .inl rfl
      | cons first rest =>
          by_cases hfirst : first.key = key
          · subst hfirst
            have hnot : Eager.find? first.key rest = none := by
              refine List.find?_eq_none.mpr fun other hother hkey => ?_
              have hmem := List.mem_map_of_mem (f := (·.key)) hother
              rw [of_decide_eq_true hkey] at hmem
              exact (List.nodup_cons.mp hdistinct).1 hmem
            exact .inr ⟨hnot, hnone, hfull, rfl⟩
          · exact .inl (by simp [Eager.find?, hfirst])
    · exact .inl (by rw [if_neg hfull])

namespace Shelf

def visible (shelf : Shelf α) (clock : Ticks) : List (Entry α) :=
  shelf.entries.filter (Entry.isLive clock)

/-! ## Looking -/

theorem live?_eq_find? (shelf : Shelf α) (clock : Ticks) (key : Text) :
    shelf.live? clock key = Eager.find? key (shelf.visible clock) :=
  (find?_filter shelf.distinct _ key).symm

theorem contains_eq (shelf : Shelf α) (clock : Ticks) (key : Text) :
    shelf.contains clock key = (Eager.find? key (shelf.visible clock)).isSome := by
  rw [contains, live?_eq_find?]

theorem visible_of_le (shelf : Shelf α) {clock later : Ticks} (h : clock ≤ later) :
    shelf.visible later = (shelf.visible clock).filter (Entry.isLive later) := by
  simp only [visible, List.filter_filter]
  refine List.filter_congr fun entry _ => ?_
  cases hlater : entry.isLive later with
  | false => simp
  | true => simp [isLive_of_le h hlater]

theorem length_visible_le (shelf : Shelf α) (clock : Ticks) :
    (shelf.visible clock).length ≤ shelf.capacity :=
  Nat.le_trans (List.length_filter_le _ _) shelf.bounded

/-! ## Capacity and lifetime -/

@[simp] theorem capacity_read (shelf : Shelf α) (clock : Ticks) (key : Text) :
    (shelf.read clock key).2.capacity = shelf.capacity := by
  unfold read
  split <;> rfl

@[simp] theorem lifetime_read (shelf : Shelf α) (clock : Ticks) (key : Text) :
    (shelf.read clock key).2.lifetime = shelf.lifetime := by
  unfold read
  split <;> rfl

@[simp] theorem capacity_remove (shelf : Shelf α) (clock : Ticks) (key : Text) :
    (shelf.remove clock key).2.capacity = shelf.capacity := by
  unfold remove
  split <;> rfl

@[simp] theorem lifetime_remove (shelf : Shelf α) (clock : Ticks) (key : Text) :
    (shelf.remove clock key).2.lifetime = shelf.lifetime := by
  unfold remove
  split <;> rfl

@[simp] theorem lifetime_withRoom (shelf : Shelf α) (key : Text) :
    (shelf.withRoom key).lifetime = shelf.lifetime := by
  unfold withRoom
  split <;> rfl

@[simp] theorem capacity_write (shelf : Shelf α) (clock : Ticks) (key : Text) (value : α) :
    (shelf.write clock key value).2.capacity = shelf.capacity := by
  by_cases h : shelf.capacity = 0 <;> simp [write, h, push]

@[simp] theorem lifetime_write (shelf : Shelf α) (clock : Ticks) (key : Text) (value : α) :
    (shelf.write clock key value).2.lifetime = shelf.lifetime := by
  by_cases h : shelf.capacity = 0 <;> simp [write, h, push, without, keep, cleared]

/-! ## Operations -/

theorem visible_without (shelf : Shelf α) (clock : Ticks) (key : Text) :
    (shelf.without key).visible clock = others key (shelf.visible clock) :=
  others_comm _ key shelf.entries

theorem read_fst (shelf : Shelf α) (clock : Ticks) (key : Text) :
    (shelf.read clock key).1 = (Eager.find? key (shelf.visible clock)).map (·.value) := by
  rw [← live?_eq_find?]
  unfold read
  split
  next h => simp [live?, h]
  next => rfl

theorem visible_read (shelf : Shelf α) (clock : Ticks) (key : Text) :
    (shelf.read clock key).2.visible clock =
      match Eager.find? key (shelf.visible clock) with
      | none => shelf.visible clock
      | some entry => others key (shelf.visible clock) ++ [entry] := by
  rw [← live?_eq_find?]
  unfold read
  split
  next h => simp [live?, h]
  next entry h =>
    have hpush : ∀ room fresh,
        ((shelf.without key).push entry room fresh).visible clock =
          others key (shelf.visible clock) ++ [entry].filter (Entry.isLive clock) := by
      intro room fresh
      rw [← visible_without]
      exact List.filter_append ..
    rw [hpush, live?, h, Option.filter_some]
    cases hlive : entry.isLive clock with
    | true => simp [hlive]
    | false =>
        have hnone : Eager.find? key (shelf.visible clock) = none := by
          rw [← live?_eq_find?, live?, h, Option.filter_some, hlive]
          rfl
        simp [hlive, others_eq_self hnone]

theorem remove_fst (shelf : Shelf α) (clock : Ticks) (key : Text) :
    (shelf.remove clock key).1 = (Eager.find? key (shelf.visible clock)).map (·.value) := by
  rw [← live?_eq_find?]
  unfold remove
  split
  next h => simp [h]
  next h => simp [h]

theorem visible_remove (shelf : Shelf α) (clock : Ticks) (key : Text) :
    (shelf.remove clock key).2.visible clock = others key (shelf.visible clock) := by
  unfold remove
  split
  next h =>
    rw [live?_eq_find?] at h
    exact (others_eq_self h).symm
  next => exact visible_without shelf clock key

theorem entries_withRoom (shelf : Shelf α) (key : Text) :
    (shelf.withRoom key).entries =
      if (shelf.find? key).isSome || shelf.entries.length < shelf.capacity then shelf.entries
      else shelf.entries.drop (shelf.entries.length + 1 - shelf.capacity) := by
  unfold withRoom
  split <;> rfl

theorem entries_room_of_some (shelf : Shelf α) {clock : Ticks} {key : Text} {entry : Entry α}
    (h : Eager.find? key (shelf.visible clock) = some entry) :
    (((shelf.cleared clock).withRoom key).without key).entries =
      others key (shelf.visible clock) := by
  change others key ((shelf.cleared clock).withRoom key).entries = _
  have hfind : (shelf.cleared clock).find? key = some entry := h
  have hentries : (shelf.cleared clock).entries = shelf.visible clock := rfl
  rw [entries_withRoom, hfind, hentries]
  simp

theorem entries_room_of_none (shelf : Shelf α) {clock : Ticks} {key : Text}
    (h : Eager.find? key (shelf.visible clock) = none) :
    (((shelf.cleared clock).withRoom key).without key).entries =
      if shelf.capacity ≤ (shelf.visible clock).length then (shelf.visible clock).tail
      else shelf.visible clock := by
  have hbounded := shelf.length_visible_le clock
  change others key ((shelf.cleared clock).withRoom key).entries = _
  have hfind : (shelf.cleared clock).find? key = none := h
  have hentries : (shelf.cleared clock).entries = shelf.visible clock := rfl
  rw [entries_withRoom, hfind, hentries, capacity_cleared]
  by_cases hfull : shelf.capacity ≤ (shelf.visible clock).length
  · have hlength : (shelf.visible clock).length + 1 - shelf.capacity = 1 := by omega
    have htail := find?_tail_of_none h
    have hnot : ¬ (shelf.visible clock).length < shelf.capacity := by omega
    simp [hnot, hfull, hlength, others_eq_self htail]
  · have hlt : (shelf.visible clock).length < shelf.capacity := by omega
    simp [hlt, hfull, others_eq_self h]

theorem entries_write_of_ne (shelf : Shelf α) (clock : Ticks) (key : Text) (value : α)
    (h : shelf.capacity ≠ 0) :
    (shelf.write clock key value).2.entries =
      (((shelf.cleared clock).withRoom key).without key).entries ++
        [⟨key, value, clock + shelf.lifetime⟩] := by
  simp only [write]
  rw [dif_neg (by simpa using h)]
  rfl

theorem entries_write (shelf : Shelf α) (clock : Ticks) (key : Text) (value : α)
    (h : shelf.capacity ≠ 0) :
    (shelf.write clock key value).2.entries =
      Eager.insert shelf.capacity ⟨key, value, clock + shelf.lifetime⟩ (shelf.visible clock) := by
  rw [entries_write_of_ne shelf clock key value h, Eager.insert]
  cases hvisible : Eager.find? key (shelf.visible clock) with
  | some entry => rw [entries_room_of_some shelf hvisible]
  | none => rw [entries_room_of_none shelf hvisible]

theorem visible_write (shelf : Shelf α) (clock : Ticks) (key : Text) (value : α)
    (h : shelf.capacity ≠ 0) :
    (shelf.write clock key value).2.visible clock =
      (Eager.insert shelf.capacity ⟨key, value, clock + shelf.lifetime⟩
        (shelf.visible clock)).filter (Entry.isLive clock) := by
  rw [visible, entries_write shelf clock key value h]

theorem write_fst (shelf : Shelf α) (clock : Ticks) (key : Text) (value : α) :
    (shelf.write clock key value).1 = decide (shelf.capacity ≠ 0) := by
  by_cases h : shelf.capacity = 0 <;> simp [write, h]

/-! ## The live entry of a key -/

theorem distinct_visible (shelf : Shelf α) (clock : Ticks) :
    ((shelf.visible clock).map (·.key)).Nodup :=
  shelf.distinct.sublist (List.filter_sublist.map _)

theorem live?_of_le (shelf : Shelf α) {clock later : Ticks} (h : clock ≤ later) (key : Text) :
    shelf.live? later key = (shelf.live? clock key).filter (Entry.isLive later) := by
  rw [live?, live?, Option.filter_filter]
  congr 1
  funext entry
  cases hlater : entry.isLive later with
  | false => simp
  | true => simp [isLive_of_le h hlater]

theorem live?_read (shelf : Shelf α) (clock : Ticks) (key other : Text) :
    (shelf.read clock key).2.live? clock other = shelf.live? clock other := by
  rw [live?_eq_find?, live?_eq_find?, visible_read]
  cases hfind : Eager.find? key (shelf.visible clock) with
  | none => rfl
  | some entry =>
      have hkey : entry.key = key := by simpa using List.find?_some hfind
      simp only [find?_append, find?_others, hkey]
      by_cases h : other = key
      · subst h
        simp [hfind]
      · simp [h, Ne.symm h]

theorem live?_remove (shelf : Shelf α) (clock : Ticks) (key other : Text) :
    (shelf.remove clock key).2.live? clock other =
      if other = key then none else shelf.live? clock other := by
  rw [live?_eq_find?, live?_eq_find?, visible_remove, find?_others]

theorem live?_write (shelf : Shelf α) (clock : Ticks) (key other : Text) (value : α)
    (h : shelf.capacity ≠ 0) :
    (shelf.write clock key value).2.live? clock other =
      (Eager.find? other (Eager.insert shelf.capacity ⟨key, value, clock + shelf.lifetime⟩
        (shelf.visible clock))).filter (Entry.isLive clock) := by
  rw [← entries_write shelf clock key value h]
  rfl

theorem live?_write_self (shelf : Shelf α) (clock : Ticks) (key : Text) (value : α)
    (h : shelf.capacity ≠ 0) :
    (shelf.write clock key value).2.live? clock key =
      if 0 < shelf.lifetime then some ⟨key, value, clock + shelf.lifetime⟩ else none := by
  have hself := find?_insert_self shelf.capacity ⟨key, value, clock + shelf.lifetime⟩
    (shelf.visible clock)
  have hlive : clock < clock + shelf.lifetime ↔ 0 < shelf.lifetime := by
    rw [← Int.add_lt_add_iff_left (b := 0) clock, Int.add_zero]
  rw [live?_write shelf clock key key value h, hself, Option.filter_some]
  simp [Entry.isLive, hlive]

theorem live?_write_of_ne (shelf : Shelf α) (clock : Ticks) {key other : Text} (value : α)
    (hother : other ≠ key) :
    (shelf.write clock key value).2.live? clock other = shelf.live? clock other ∨
      (shelf.write clock key value).2.live? clock other = none ∧ shelf.live? clock key = none ∧
        (shelf.visible clock).length = shelf.capacity ∧
        (shelf.visible clock).head?.map (·.key) = some other := by
  have hlive : (shelf.live? clock other).filter (Entry.isLive clock) = shelf.live? clock other :=
    (shelf.live?_of_le (Int.le_refl clock) other).symm
  by_cases hcapacity : shelf.capacity = 0
  · left
    simp only [write, capacity_cleared, hcapacity, ↓reduceDIte]
    rw [live?, ← hlive, live?_eq_find?]
    rfl
  · rw [live?_write shelf clock key other value hcapacity]
    rcases find?_insert_of_ne shelf.capacity ⟨key, value, clock + shelf.lifetime⟩
        (shelf.distinct_visible clock) hother with hsame | ⟨hgone, hkey, hfull, hfirst⟩
    · rw [hsame, ← live?_eq_find?, hlive]
      exact .inl rfl
    · rw [← live?_eq_find?] at hkey
      rw [hgone]
      exact .inr ⟨rfl, hkey, Nat.le_antisymm (shelf.length_visible_le clock) hfull, hfirst⟩

/-! ## Which keys have an entry -/

theorem contains_iff (shelf : Shelf α) (clock : Ticks) (key : Text) :
    shelf.contains clock key ↔ ∃ entry ∈ shelf.visible clock, entry.key = key := by
  rw [contains_eq, Eager.find?, List.find?_isSome]
  simp

theorem contains_of_le (shelf : Shelf α) {clock later : Ticks} (h : clock ≤ later) {key : Text}
    (hlater : shelf.contains later key) : shelf.contains clock key := by
  rw [contains_iff, visible_of_le shelf h] at hlater
  obtain ⟨entry, hentry, hkey⟩ := hlater
  exact (shelf.contains_iff clock key).mpr ⟨entry, (List.mem_filter.mp hentry).1, hkey⟩

theorem contains_read (shelf : Shelf α) (clock : Ticks) (key other : Text) :
    (shelf.read clock key).2.contains clock other = shelf.contains clock other := by
  rw [contains, contains, live?_read]

theorem contains_remove (shelf : Shelf α) (clock : Ticks) (key other : Text) :
    (shelf.remove clock key).2.contains clock other =
      (decide (other ≠ key) && shelf.contains clock other) := by
  rw [contains, contains, live?_remove]
  by_cases h : other = key <;> simp [h]

theorem mem_insert {capacity : Nat} {entry other : Entry α} {entries : List (Entry α)}
    (h : other ∈ Eager.insert capacity entry entries) : other = entry ∨ other ∈ entries := by
  unfold Eager.insert at h
  split at h
  · rcases List.mem_append.mp h with hold | hnew
    · exact .inr (List.mem_filter.mp hold).1
    · exact .inl (List.mem_singleton.mp hnew)
  · rcases List.mem_append.mp h with hold | hnew
    · split at hold
      · exact .inr (List.mem_of_mem_tail hold)
      · exact .inr hold
    · exact .inl (List.mem_singleton.mp hnew)

theorem contains_of_write {shelf : Shelf α} {clock : Ticks} {key other : Text} {value : α}
    (h : (shelf.write clock key value).2.contains clock other) :
    other = key ∨ shelf.contains clock other := by
  obtain ⟨entry, hentry, rfl⟩ := (contains_iff _ _ _).mp h
  obtain ⟨hentry, hlive⟩ := List.mem_filter.mp hentry
  by_cases hcapacity : shelf.capacity = 0
  · simp only [write, capacity_cleared, hcapacity, ↓reduceDIte] at hentry
    exact .inr ((contains_iff _ _ _).mpr ⟨entry, hentry, rfl⟩)
  · rw [entries_write shelf clock key value hcapacity] at hentry
    rcases mem_insert hentry with rfl | hold
    · exact .inl rfl
    · exact .inr ((contains_iff _ _ _).mpr ⟨entry, hold, rfl⟩)

theorem full_of_write {shelf : Shelf α} {clock : Ticks} {key other : Text} {value : α}
    (hother : other ≠ key) (h : shelf.contains clock other)
    (hgone : ¬ (shelf.write clock key value).2.contains clock other) :
    (shelf.visible clock).length = shelf.capacity ∧
      (shelf.visible clock).head?.map (·.key) = some other := by
  rcases shelf.live?_write_of_ne clock value hother with hsame | ⟨-, -, hfull⟩
  · rw [contains, hsame] at hgone
    exact absurd h hgone
  · exact hfull

end Shelf

end SignOn.Cache
