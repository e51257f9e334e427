import Mathlib.Data.Finset.Card
import SignOn.Proofs.Cache.Steps

/-!
# What stands behind an entry

A shelf has its entries in the order of their last use, so those behind an entry are of keys that
were used more recently.  An entry gives way only when it is the first of a full shelf; then all
other entries stand behind it, and the number of recent keys is that of the places.
-/

namespace SignOn.Cache

variable {α : Type}

namespace Shelf

variable {shelf after : Shelf α} {clock later : Ticks} {key : Text} {entry : Entry α}
  {recent used : Finset Text} {new : List (Entry α)}

theorem visible_sublist_of_le (shelf : Shelf α) (h : clock ≤ later) :
    (shelf.visible later).Sublist (shelf.visible clock) := by
  rw [visible_of_le shelf h]
  exact List.filter_sublist

theorem visible_remove_sublist (shelf : Shelf α) (clock : Ticks) (key : Text) :
    ((shelf.remove clock key).2.visible clock).Sublist (shelf.visible clock) := by
  rw [visible_remove]
  exact List.filter_sublist

theorem visible_read_sublist (shelf : Shelf α) (clock : Ticks) (key : Text) :
    ((shelf.read clock key).2.visible clock).Sublist
      (shelf.visible clock ++ (shelf.live? clock key).toList) := by
  rw [visible_read, live?_eq_find?]
  cases Eager.find? key (shelf.visible clock) with
  | none => exact List.sublist_append_left _ _
  | some found => exact List.filter_sublist.append_right [found]

theorem insert_sublist (capacity : Nat) (entry : Entry α) (entries : List (Entry α)) :
    (Eager.insert capacity entry entries).Sublist (entries ++ [entry]) := by
  unfold Eager.insert
  split
  · exact List.filter_sublist.append_right [entry]
  · split
    · exact (List.tail_sublist entries).append_right [entry]
    · exact List.Sublist.refl _

theorem visible_write_sublist (shelf : Shelf α) (clock : Ticks) (key : Text) (value : α)
    (h : shelf.capacity ≠ 0) :
    ((shelf.write clock key value).2.visible clock).Sublist
      (shelf.visible clock ++ [⟨key, value, clock + shelf.lifetime⟩]) := by
  rw [visible_write shelf clock key value h]
  exact List.filter_sublist.trans (insert_sublist _ _ _)

theorem exists_insert_eq (capacity : Nat) (entry : Entry α) (entries : List (Entry α)) :
    ∃ rest, Eager.insert capacity entry entries = rest ++ [entry] ∧
      ∀ other ∈ rest, other.key ≠ entry.key := by
  unfold Eager.insert
  cases hfind : Eager.find? entry.key entries with
  | some found =>
      refine ⟨_, rfl, fun other hother => ?_⟩
      simpa using (List.mem_filter.mp hother).2
  | none =>
      have hnone : ∀ other ∈ entries, other.key ≠ entry.key := by
        simpa [Eager.find?] using hfind
      refine ⟨_, rfl, fun other hother => ?_⟩
      split at hother
      · exact hnone other (List.mem_of_mem_tail hother)
      · exact hnone other hother

theorem pair_sublist_append {other : Entry α} {front back : List (Entry α)}
    (h : [entry, other].Sublist (front ++ back)) :
    [entry, other].Sublist front ∨ entry ∈ front ∧ other ∈ back ∨
      [entry, other].Sublist back := by
  obtain ⟨early, late, heq, hearly, hlate⟩ := List.sublist_append_iff.mp h
  rcases early with _ | ⟨first, _ | ⟨second, rest⟩⟩
  · exact .inr (.inr (heq ▸ hlate))
  · obtain ⟨rfl, rfl⟩ := List.cons_eq_cons.mp heq
    exact .inr (.inl ⟨hearly.subset (by simp), hlate.subset (by simp)⟩)
  · obtain ⟨rfl, htail⟩ := List.cons_eq_cons.mp heq
    obtain ⟨rfl, -⟩ := List.cons_eq_cons.mp htail
    exact .inl ((List.sublist_append_left [entry, other] rest).trans hearly)

theorem not_sublist_of_last {rest : List (Entry α)} (h : ∀ other ∈ rest, other.key ≠ entry.key)
    (other : Entry α) : ¬[entry, other].Sublist (rest ++ [entry]) := by
  intro hsub
  rcases pair_sublist_append hsub with hrest | ⟨hrest, -⟩ | hlast
  · exact h entry (hrest.subset (by simp)) rfl
  · exact h entry hrest rfl
  · exact absurd hlast.length_le (by simp)

/-- An entry is live, and what stands behind it on the shelf are recent codes. -/
structure Stands (shelf : Shelf α) (clock : Ticks) (entry : Entry α) (recent : Finset Text) :
    Prop where
  live : shelf.live? clock entry.key = some entry
  behind : ∀ other, [entry, other].Sublist (shelf.visible clock) → other.key ∈ recent

theorem Stands.kept (h : shelf.Stands clock entry recent)
    (hlive : after.live? later entry.key = some entry)
    (hsub : (after.visible later).Sublist (shelf.visible clock ++ new))
    (hnew : ∀ other ∈ new, other.key ≠ entry.key ∧ other.key ∈ used) :
    after.Stands later entry (recent ∪ used) where
  live := hlive
  behind other hother := by
    rcases pair_sublist_append (hother.trans hsub) with hold | ⟨-, hlast⟩ | hboth
    · exact Finset.mem_union_left _ (h.behind other hold)
    · exact Finset.mem_union_right _ (hnew other hlast).2
    · exact absurd rfl (hnew entry (hboth.subset (by simp))).1

theorem Stands.of_le (h : shelf.Stands clock entry recent) (hle : clock ≤ later)
    (hlive : shelf.live? later entry.key = some entry) : shelf.Stands later entry recent := by
  have hsub : (shelf.visible later).Sublist (shelf.visible clock ++ []) := by
    simpa using shelf.visible_sublist_of_le hle
  have hkept : shelf.Stands later entry (recent ∪ ∅) := h.kept hlive hsub nofun
  simpa using hkept

/-- When an entry has to give way to another key, there are as many recent codes besides its own as
the shelf has room for. -/
theorem Stands.capacity_le_card (h : shelf.Stands clock entry recent)
    (hcrowded : Timed.IsCrowded shelf clock entry.key) {other : Text}
    (hother : shelf.live? clock other = none) :
    shelf.capacity ≤ ((insert other recent).erase entry.key).card := by
  have hdistinct := shelf.distinct_visible clock
  obtain ⟨hfull, hfirst⟩ := hcrowded
  have hlive := h.live
  rw [live?_eq_find?] at hlive hother
  have hbehind := h.behind
  cases hvisible : shelf.visible clock with
  | nil =>
      rw [hvisible] at hfirst
      contradiction
  | cons first rest =>
      rw [hvisible] at hfull hfirst hlive hother hbehind hdistinct
      have hkey : first.key = entry.key := Option.some.inj hfirst
      obtain rfl : first = entry := by simpa [Eager.find?, hkey] using hlive
      obtain ⟨hfresh, hrest⟩ := List.nodup_cons.mp hdistinct
      have habsent : ∀ found ∈ first :: rest, found.key ≠ other := by
        simpa [Eager.find?] using hother
      have hsub : insert other (rest.map (·.key)).toFinset ⊆
          (insert other recent).erase first.key := by
        intro code hcode
        rcases Finset.mem_insert.mp hcode with rfl | hcode
        · exact Finset.mem_erase.mpr
            ⟨(habsent first (by simp)).symm, Finset.mem_insert_self _ _⟩
        · obtain ⟨found, hfound, rfl⟩ := List.mem_map.mp (List.mem_toFinset.mp hcode)
          have hne : found.key ≠ first.key :=
            fun heq => hfresh (List.mem_map.mpr ⟨found, hfound, heq⟩)
          have hrecent := hbehind found ((List.singleton_sublist.mpr hfound).cons_cons first)
          exact Finset.mem_erase.mpr ⟨hne, Finset.mem_insert_of_mem hrecent⟩
      have hnot : other ∉ (rest.map (·.key)).toFinset := by
        intro hmem
        obtain ⟨found, hfound, hsame⟩ := List.mem_map.mp (List.mem_toFinset.mp hmem)
        exact habsent found (by simp [hfound]) hsame
      have hcard := Finset.card_le_card hsub
      rw [Finset.card_insert_of_notMem hnot, List.toFinset_card_of_nodup hrest,
        List.length_map] at hcard
      rw [← hfull]
      exact hcard

/-- An entry is there, or its time is up, or so many other codes were used that it lost its
place. -/
def Keeps (shelf : Shelf α) (clock : Ticks) (entry : Entry α) (recent : Finset Text) : Prop :=
  shelf.Stands clock entry recent ∨
    shelf.live? clock entry.key = none ∧
      (entry.deadline ≤ clock ∨ shelf.capacity ≤ (recent.erase entry.key).card)

theorem Keeps.stands (h : shelf.Keeps clock entry recent) (hclock : clock < entry.deadline)
    (hfew : (recent.erase entry.key).card < shelf.capacity) :
    shelf.Stands clock entry recent := by
  rcases h with hstands | ⟨-, hdeadline | hmany⟩
  · exact hstands
  · exact absurd hclock (Int.not_lt.mpr hdeadline)
  · exact absurd hfew (Nat.not_lt.mpr hmany)

theorem Keeps.eq_of_live? (h : shelf.Keeps clock entry recent) {found : Entry α}
    (hlive : shelf.live? clock entry.key = some found) : found = entry := by
  rcases h with hstands | ⟨hnone, -⟩
  · exact Option.some.inj (hlive.symm.trans hstands.live)
  · cases hnone.symm.trans hlive

theorem keeps_write (shelf : Shelf α) (clock : Ticks) (key : Text) (value : α)
    (h : shelf.capacity ≠ 0) :
    (shelf.write clock key value).2.Keeps clock ⟨key, value, clock + shelf.lifetime⟩ ∅ := by
  have hlive := shelf.live?_write_self clock key value h
  by_cases hlifetime : 0 < shelf.lifetime
  · refine .inl ⟨hlive.trans (if_pos hlifetime), fun other hother => ?_⟩
    obtain ⟨rest, hinsert, hrest⟩ := exists_insert_eq shelf.capacity
      ⟨key, value, clock + shelf.lifetime⟩ (shelf.visible clock)
    rw [visible_write shelf clock key value h, hinsert] at hother
    exact absurd (hother.trans List.filter_sublist) (not_sublist_of_last hrest other)
  · exact .inr ⟨hlive.trans (if_neg hlifetime),
      .inl (Int.add_le_of_le_sub_left (by simpa using hlifetime))⟩

theorem Keeps.read (h : shelf.Keeps clock entry recent) :
    (shelf.read clock entry.key).2.Keeps clock entry
      (if (shelf.live? clock entry.key).isSome then ∅ else recent) := by
  rcases h with hstands | ⟨hnone, hreason⟩
  · left
    rw [hstands.live]
    refine ⟨(live?_read shelf clock _ _).trans hstands.live, fun other hother => ?_⟩
    have hfind := hstands.live
    rw [live?_eq_find?] at hfind
    simp only [visible_read, hfind] at hother
    refine absurd hother (not_sublist_of_last (fun found hfound => ?_) other)
    simpa using (List.mem_filter.mp hfound).2
  · right
    rw [live?_read, hnone, capacity_read]
    exact ⟨rfl, hreason⟩

/-- An entry is kept by whatever takes no more than its time, and by a write that needs room. -/
theorem Keeps.step (h : shelf.Keeps clock entry recent) (hle : clock ≤ later)
    (hcapacity : after.capacity = shelf.capacity)
    (hsub : (after.visible later).Sublist (shelf.visible clock ++ new))
    (hnew : ∀ other ∈ new, other.key ≠ entry.key ∧ other.key ∈ used)
    (hchange : after.live? later entry.key = shelf.live? later entry.key ∨
      after.live? later entry.key = none ∧ ∃ other ∈ used, shelf.live? later other = none ∧
        Timed.IsCrowded shelf later entry.key) :
    after.Keeps later entry (recent ∪ used) := by
  have hlater := shelf.live?_of_le hle entry.key
  rcases h with hstands | ⟨hnone, hreason⟩
  · rw [hstands.live, Option.filter_some] at hlater
    rcases hchange with hsame | ⟨hgone, other, hother, habsent, hcrowded⟩
    · by_cases hlive : entry.isLive later
      · rw [if_pos hlive] at hlater
        exact .inl (hstands.kept (hsame.trans hlater) hsub hnew)
      · rw [if_neg hlive] at hlater
        refine .inr ⟨hsame.trans hlater, .inl ?_⟩
        simpa [Entry.isLive] using hlive
    · -- The entry that gives way is live still.
      obtain ⟨first, hfirst, hkey⟩ := Option.map_eq_some_iff.mp hcrowded.2
      have hsome : (shelf.live? later entry.key).isSome :=
        (shelf.contains_iff later entry.key).mpr ⟨first, List.mem_of_head? hfirst, hkey⟩
      have hlive : shelf.live? later entry.key = some entry := by
        rw [hlater] at hsome ⊢
        split at hsome
        · rename_i hlive
          rw [if_pos hlive]
        · contradiction
      have hcard := (hstands.of_le hle hlive).capacity_le_card hcrowded habsent
      have hsubset : (insert other recent).erase entry.key ⊆ (recent ∪ used).erase entry.key :=
        Finset.erase_subset_erase _ (Finset.insert_subset (Finset.mem_union_right _ hother)
          Finset.subset_union_left)
      exact .inr ⟨hgone, .inr (hcapacity ▸ hcard.trans (Finset.card_le_card hsubset))⟩
  · rw [hnone, Option.filter_none] at hlater
    have hgone : after.live? later entry.key = none :=
      hchange.elim (fun hsame => hsame.trans hlater) (·.1)
    refine .inr ⟨hgone, hreason.imp (fun hdeadline => Int.le_trans hdeadline hle) fun hmany => ?_⟩
    rw [hcapacity]
    exact hmany.trans (Finset.card_le_card
      (Finset.erase_subset_erase _ Finset.subset_union_left))

end Shelf

end SignOn.Cache
