import SignOn.ExchangeLock
import Mathlib.Data.List.Nodup

/-!
# The locks that a registry has

In a sound registry each code has at most one lock, and each lock is the lock of one code.  What
each operation does is told by the locks that the codes have after it.
-/

namespace SignOn.ExchangeLock.Registry

variable {registry : Registry} {code : Text} {lock : Lock}

def Has (registry : Registry) (code : Text) (lock : Lock) : Prop :=
  (code, lock.number) ∈ registry.entries ∧ lock ∈ registry.locks

structure IsSound (registry : Registry) : Prop where
  codes : (registry.entries.map (·.1)).Nodup
  numbers : (registry.entries.map (·.2)).Nodup
  locks : registry.locks.map (·.number) = registry.entries.map (·.2)
  fresh : ∀ lock ∈ registry.locks, lock.number < registry.next

theorem isSound_empty : empty.IsSound := ⟨.nil, .nil, rfl, nofun⟩

namespace IsSound

theorem eq_lock (h : registry.IsSound) {other : Lock} (hlock : lock ∈ registry.locks)
    (hother : other ∈ registry.locks) (hnumber : lock.number = other.number) : lock = other :=
  List.inj_on_of_nodup_map (h.locks ▸ h.numbers) hlock hother hnumber

theorem unique (h : registry.IsSound) {other : Lock} (hlock : registry.Has code lock)
    (hother : registry.Has code other) : lock = other := by
  have hentry := List.inj_on_of_nodup_map h.codes hlock.1 hother.1 rfl
  exact h.eq_lock hlock.2 hother.2 (congrArg Prod.snd hentry)

theorem eq_code (h : registry.IsSound) {other : Text} {otherLock : Lock}
    (hlock : registry.Has code lock) (hother : registry.Has other otherLock)
    (hnumber : lock.number = otherLock.number) : code = other :=
  congrArg Prod.fst (List.inj_on_of_nodup_map h.numbers hlock.1 hother.1 hnumber)

theorem exists_lock (h : registry.IsSound) {number : Nat}
    (hentry : (code, number) ∈ registry.entries) :
    ∃ lock, registry.Has code lock ∧ lock.number = number := by
  have hmem : number ∈ registry.locks.map (·.number) :=
    h.locks ▸ List.mem_map_of_mem (f := Prod.snd) hentry
  obtain ⟨lock, hlock, rfl⟩ := List.mem_map.mp hmem
  exact ⟨lock, ⟨hentry, hlock⟩, rfl⟩

theorem exists_code (h : registry.IsSound) (hlock : lock ∈ registry.locks) :
    ∃ code, registry.Has code lock := by
  have hmem : lock.number ∈ registry.entries.map (·.2) :=
    h.locks ▸ List.mem_map_of_mem (f := Lock.number) hlock
  obtain ⟨⟨code, number⟩, hentry, hnumber⟩ := List.mem_map.mp hmem
  exact ⟨code, by simpa [← hnumber] using hentry, hlock⟩

end IsSound

theorem find?_entry (h : registry.IsSound) {number : Nat}
    (hentry : (code, number) ∈ registry.entries) :
    (registry.entries.find? fun entry => entry.1 = code) = some (code, number) := by
  cases hfind : registry.entries.find? fun entry => entry.1 = code with
  | none => exact absurd (decide_eq_true rfl) (List.find?_eq_none.mp hfind _ hentry)
  | some entry =>
      have hkey : entry.1 = code := by simpa using List.find?_some hfind
      exact congrArg some
        (List.inj_on_of_nodup_map h.codes (List.mem_of_find?_eq_some hfind) hentry hkey)

theorem lock?_number (h : registry.IsSound) (hlock : lock ∈ registry.locks) :
    registry.lock? lock.number = some lock := by
  unfold lock?
  cases hfind : registry.locks.find? fun other => other.number = lock.number with
  | none => exact absurd (decide_eq_true rfl) (List.find?_eq_none.mp hfind _ hlock)
  | some other =>
      have hnumber : other.number = lock.number := by simpa using List.find?_some hfind
      exact congrArg some (h.eq_lock (List.mem_of_find?_eq_some hfind) hlock hnumber)

theorem lockOfCode?_eq_some (h : registry.IsSound) :
    registry.lockOfCode? code = some lock ↔ registry.Has code lock := by
  constructor
  · intro hlock
    obtain ⟨entry, hentry, hnumber⟩ := Option.bind_eq_some_iff.mp hlock
    have hcode : entry.1 = code := by simpa using List.find?_some hentry
    have hlock : lock.number = entry.2 := by simpa using List.find?_some hnumber
    refine ⟨?_, List.mem_of_find?_eq_some hnumber⟩
    rw [← hcode, hlock]
    exact List.mem_of_find?_eq_some hentry
  · rintro ⟨hentry, hlock⟩
    rw [lockOfCode?, find?_entry h hentry]
    exact lock?_number h hlock

theorem lockOfCode?_eq_none (h : registry.IsSound) :
    registry.lockOfCode? code = none ↔ code ∉ registry.entries.map (·.1) := by
  rw [← not_iff_not, not_not, ← ne_eq, Option.ne_none_iff_exists', List.mem_map]
  constructor
  · rintro ⟨lock, hlock⟩
    exact ⟨_, ((lockOfCode?_eq_some h).mp hlock).1, rfl⟩
  · rintro ⟨⟨other, number⟩, hentry, rfl⟩
    obtain ⟨lock, hlock, -⟩ := h.exists_lock hentry
    exact ⟨lock, (lockOfCode?_eq_some h).mpr hlock⟩

theorem of_lockOfTask? {task : Nat} (h : registry.lockOfTask? task = some lock) :
    lock ∈ registry.locks ∧ task ∈ lock.tasks :=
  ⟨List.mem_of_find?_eq_some h, by simpa using List.find?_some h⟩

theorem lockOfTask?_eq_none {task : Nat} :
    registry.lockOfTask? task = none ↔ ∀ lock ∈ registry.locks, task ∉ lock.tasks := by
  simp [lockOfTask?]

theorem mem_locks_setLock {next other : Lock} :
    other ∈ (registry.setLock next).locks ↔
      (other = next ∧ ∃ old ∈ registry.locks, old.number = next.number) ∨
        (other.number ≠ next.number ∧ other ∈ registry.locks) := by
  simp only [setLock, List.mem_map]
  constructor
  · rintro ⟨old, hold, rfl⟩
    by_cases hnumber : old.number = next.number
    · exact .inl ⟨if_pos hnumber, old, hold, hnumber⟩
    · rw [if_neg hnumber]
      exact .inr ⟨hnumber, hold⟩
  · rintro (⟨rfl, old, hold, hnumber⟩ | ⟨hnumber, hold⟩)
    · exact ⟨old, hold, if_pos hnumber⟩
    · exact ⟨other, hold, if_neg hnumber⟩

theorem has_setLock (h : registry.IsSound) {next : Lock} (hlock : registry.Has code lock)
    (hnumber : next.number = lock.number) {other : Text} {otherLock : Lock} :
    (registry.setLock next).Has other otherLock ↔
      (other = code ∧ otherLock = next) ∨ (other ≠ code ∧ registry.Has other otherLock) := by
  constructor
  · rintro ⟨hentry, hmem⟩
    rcases mem_locks_setLock.mp hmem with ⟨rfl, old, hold, heq⟩ | ⟨hne, hold⟩
    · refine .inl ⟨?_, rfl⟩
      have hold : registry.Has other old := ⟨heq ▸ hentry, hold⟩
      exact h.eq_code hold hlock (heq.trans hnumber)
    · refine .inr ⟨?_, hentry, hold⟩
      rintro rfl
      exact hne (hnumber ▸ congrArg Lock.number (h.unique ⟨hentry, hold⟩ hlock))
  · rintro (⟨rfl, rfl⟩ | ⟨hne, hentry, hold⟩)
    · refine ⟨?_, mem_locks_setLock.mpr (.inl ⟨rfl, lock, hlock.2, hnumber.symm⟩)⟩
      rw [hnumber]
      exact hlock.1
    · refine ⟨hentry, mem_locks_setLock.mpr (.inr ⟨fun heq => hne ?_, hold⟩)⟩
      exact h.eq_code ⟨hentry, hold⟩ hlock (heq.trans hnumber)

theorem isSound_setLock (h : registry.IsSound) {next : Lock} (hlock : lock ∈ registry.locks)
    (hnumber : next.number = lock.number) : (registry.setLock next).IsSound where
  codes := h.codes
  numbers := h.numbers
  locks := by
    rw [← show registry.entries = (registry.setLock next).entries from rfl, ← h.locks, setLock,
      List.map_map]
    refine List.map_congr_left fun other _ => ?_
    by_cases heq : other.number = next.number <;> simp [heq]
  fresh := by
    intro other hother
    rcases mem_locks_setLock.mp hother with ⟨rfl, -⟩ | ⟨-, hold⟩
    · rw [hnumber]
      exact h.fresh lock hlock
    · exact h.fresh other hold

theorem has_makeLock (h : registry.IsSound) {task : Nat} (hcode : registry.lockOfCode? code = none)
    {other : Text} {otherLock : Lock} :
    (registry.makeLock code task).Has other otherLock ↔
      (other = code ∧ otherLock = ⟨registry.next, none, [task]⟩) ∨
        (other ≠ code ∧ registry.Has other otherLock) := by
  have hnot := (lockOfCode?_eq_none h).mp hcode
  have hfresh : ∀ number, (other, number) ∈ registry.entries → number < registry.next := by
    intro number hentry
    obtain ⟨old, hold, rfl⟩ := h.exists_lock hentry
    exact h.fresh old hold.2
  simp only [Has, makeLock, List.mem_append, List.mem_singleton]
  constructor
  · rintro ⟨hentry | hentry, hlock | hlock⟩
    · refine .inr ⟨?_, hentry, hlock⟩
      rintro rfl
      exact hnot (List.mem_map_of_mem hentry)
    · subst hlock
      exact absurd (hfresh _ hentry) (Nat.lt_irrefl _)
    · have := h.fresh otherLock hlock
      have := congrArg Prod.snd hentry
      omega
    · exact .inl ⟨congrArg Prod.fst hentry, hlock⟩
  · rintro (⟨rfl, rfl⟩ | ⟨-, hentry, hlock⟩)
    · exact ⟨.inr rfl, .inr rfl⟩
    · exact ⟨.inl hentry, .inl hlock⟩

theorem isSound_makeLock (h : registry.IsSound) {task : Nat}
    (hcode : registry.lockOfCode? code = none) : (registry.makeLock code task).IsSound where
  codes := by
    rw [makeLock, List.map_append, List.map_singleton, ← List.concat_eq_append]
    exact h.codes.concat ((lockOfCode?_eq_none h).mp hcode)
  numbers := by
    rw [makeLock, List.map_append, List.map_singleton, ← List.concat_eq_append]
    refine h.numbers.concat fun hmem => ?_
    obtain ⟨lock, hlock, hnumber⟩ := List.mem_map.mp (h.locks ▸ hmem)
    exact absurd (h.fresh lock hlock) (hnumber ▸ Nat.lt_irrefl _)
  locks := by simp [makeLock, h.locks]
  fresh := by
    intro lock hlock
    rcases List.mem_append.mp hlock with hold | hnew
    · exact Nat.lt_succ_of_lt (h.fresh lock hold)
    · rw [List.mem_singleton.mp hnew]
      exact Nat.lt_succ_self _

theorem has_dropLock (h : registry.IsSound) (hlock : registry.Has code lock) {other : Text}
    {otherLock : Lock} :
    (registry.dropLock lock.number).Has other otherLock ↔
      other ≠ code ∧ registry.Has other otherLock := by
  simp only [Has, dropLock, List.mem_filter, decide_eq_true_eq]
  constructor
  · rintro ⟨⟨hentry, hne⟩, hold, -⟩
    refine ⟨?_, hentry, hold⟩
    rintro rfl
    exact hne (congrArg Lock.number (h.unique ⟨hentry, hold⟩ hlock))
  · rintro ⟨hne, hentry, hold⟩
    have hnumber : otherLock.number ≠ lock.number :=
      fun heq => hne (h.eq_code ⟨hentry, hold⟩ hlock heq)
    exact ⟨⟨hentry, hnumber⟩, hold, hnumber⟩

theorem isSound_dropLock (h : registry.IsSound) (number : Nat) :
    (registry.dropLock number).IsSound where
  codes := h.codes.sublist (List.filter_sublist.map _)
  numbers := h.numbers.sublist (List.filter_sublist.map _)
  locks := by
    have hfilter := congrArg (List.filter fun other => other ≠ number) h.locks
    rwa [List.filter_map, List.filter_map] at hfilter
  fresh lock hlock := h.fresh lock (List.mem_filter.mp hlock).1

end SignOn.ExchangeLock.Registry
