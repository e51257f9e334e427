import SignOn.Text.Basic
import SignOn.Ticks

/-!
# Shelves

A shelf keeps a value for each of a bounded number of keys, each for the same lifetime.  Its
entries stand in the order of their last use, the least recent first.  An entry that is past its
deadline is out of sight at once, but stays where it is until the next write clears it away.
Clocks, lifetimes and deadlines are in ticks.
-/

namespace SignOn

namespace Cache

structure Entry (α : Type) where
  key : Text
  value : α
  deadline : Ticks
  deriving DecidableEq, Repr

def Entry.isLive {α : Type} (clock : Ticks) (entry : Entry α) : Bool := clock < entry.deadline

structure Shelf (α : Type) where
  capacity : Nat
  lifetime : Ticks
  entries : List (Entry α)
  distinct : (entries.map (·.key)).Nodup
  bounded : entries.length ≤ capacity
  deriving DecidableEq, Repr

namespace Shelf

variable {α : Type}

def empty (capacity : Nat) (lifetime : Ticks) : Shelf α :=
  ⟨capacity, lifetime, [], .nil, Nat.zero_le _⟩

def find? (shelf : Shelf α) (key : Text) : Option (Entry α) :=
  shelf.entries.find? fun entry => entry.key = key

def live? (shelf : Shelf α) (clock : Ticks) (key : Text) : Option (Entry α) :=
  (shelf.find? key).filter (Entry.isLive clock)

def contains (shelf : Shelf α) (clock : Ticks) (key : Text) : Bool :=
  (shelf.live? clock key).isSome

def keep (shelf : Shelf α) (entries : List (Entry α)) (h : entries.Sublist shelf.entries) :
    Shelf α where
  capacity := shelf.capacity
  lifetime := shelf.lifetime
  entries := entries
  distinct := shelf.distinct.sublist (h.map _)
  bounded := Nat.le_trans h.length_le shelf.bounded

def without (shelf : Shelf α) (key : Text) : Shelf α :=
  shelf.keep (shelf.entries.filter fun entry => entry.key ≠ key) List.filter_sublist

def cleared (shelf : Shelf α) (clock : Ticks) : Shelf α :=
  shelf.keep (shelf.entries.filter (Entry.isLive clock)) List.filter_sublist

def withRoom (shelf : Shelf α) (key : Text) : Shelf α :=
  if (shelf.find? key).isSome || shelf.entries.length < shelf.capacity then shelf
  else
    shelf.keep (shelf.entries.drop (shelf.entries.length + 1 - shelf.capacity))
      (List.drop_sublist _ _)

def push (shelf : Shelf α) (entry : Entry α) (room : shelf.entries.length < shelf.capacity)
    (fresh : entry.key ∉ shelf.entries.map (·.key)) : Shelf α where
  capacity := shelf.capacity
  lifetime := shelf.lifetime
  entries := shelf.entries ++ [entry]
  distinct := by
    rw [List.map_append, List.nodup_append]
    refine ⟨shelf.distinct, by simp, ?_⟩
    intro key hkey other hother
    simp only [List.map_cons, List.map_nil, List.mem_singleton] at hother
    rintro rfl
    exact fresh (hother ▸ hkey)
  bounded := by
    rw [List.length_append]
    exact room

theorem key_eq_of_find? {shelf : Shelf α} {key : Text} {entry : Entry α}
    (h : shelf.find? key = some entry) : entry.key = key := by
  simpa using List.find?_some h

theorem mem_of_find? {shelf : Shelf α} {key : Text} {entry : Entry α}
    (h : shelf.find? key = some entry) : entry ∈ shelf.entries :=
  List.mem_of_find?_eq_some h

theorem not_mem_keys_without (shelf : Shelf α) (key : Text) :
    key ∉ (shelf.without key).entries.map (·.key) := by
  simp [without, keep]

theorem length_without_lt {shelf : Shelf α} {key : Text}
    (h : (shelf.find? key).isSome) :
    (shelf.without key).entries.length < shelf.entries.length := by
  obtain ⟨entry, hentry⟩ := Option.isSome_iff_exists.mp h
  refine List.length_filter_lt_length_iff_exists.mpr ⟨entry, mem_of_find? hentry, ?_⟩
  simp [key_eq_of_find? hentry]

theorem length_withRoom_without_lt {shelf : Shelf α} (key : Text) (h : shelf.capacity ≠ 0) :
    ((shelf.withRoom key).without key).entries.length < shelf.capacity := by
  have hsub : ∀ other : Shelf α, (other.without key).entries.length ≤ other.entries.length :=
    fun other => List.length_filter_le _ _
  have hbounded := shelf.bounded
  unfold withRoom
  split
  next hroom =>
    rcases Bool.or_eq_true_iff.mp hroom with hsome | hlt
    · have := length_without_lt hsome
      omega
    · have := hsub shelf
      have := of_decide_eq_true hlt
      omega
  next =>
    refine Nat.lt_of_le_of_lt (hsub _) ?_
    simp only [keep, List.length_drop]
    omega

@[simp] theorem capacity_without (shelf : Shelf α) (key : Text) :
    (shelf.without key).capacity = shelf.capacity := rfl

@[simp] theorem capacity_cleared (shelf : Shelf α) (clock : Ticks) :
    (shelf.cleared clock).capacity = shelf.capacity := rfl

@[simp] theorem capacity_withRoom (shelf : Shelf α) (key : Text) :
    (shelf.withRoom key).capacity = shelf.capacity := by
  unfold withRoom
  split <;> rfl

/-- The value of a live entry.  Looking an entry up is a use of it, live or not. -/
def read (shelf : Shelf α) (clock : Ticks) (key : Text) : Option α × Shelf α :=
  match h : shelf.find? key with
  | none => (none, shelf)
  | some entry =>
      ((shelf.live? clock key).map (·.value),
        (shelf.without key).push entry
          (Nat.lt_of_lt_of_le (length_without_lt (by simp [h])) shelf.bounded)
          (key_eq_of_find? h ▸ shelf.not_mem_keys_without key))

def remove (shelf : Shelf α) (clock : Ticks) (key : Text) : Option α × Shelf α :=
  match shelf.live? clock key with
  | none => (none, shelf)
  | some entry => (some entry.value, shelf.without key)

/-- What a key stands for from now on, until its deadline, and whether it was taken.  A shelf
without capacity takes nothing, and only clears away what is past its deadline. -/
def write (shelf : Shelf α) (clock : Ticks) (key : Text) (value : α) : Bool × Shelf α :=
  let shelf := shelf.cleared clock
  if h : shelf.capacity = 0 then (false, shelf)
  else
    (true,
      ((shelf.withRoom key).without key).push ⟨key, value, clock + shelf.lifetime⟩
        (by
          rw [capacity_without, capacity_withRoom]
          exact length_withRoom_without_lt key h)
        (not_mem_keys_without _ _))

theorem remove_snd_of_none {shelf : Shelf α} {clock : Ticks} {key : Text}
    (h : (shelf.remove clock key).1 = none) : (shelf.remove clock key).2 = shelf := by
  unfold remove at h ⊢
  split at h <;> simp_all

end Shelf

end Cache

end SignOn
