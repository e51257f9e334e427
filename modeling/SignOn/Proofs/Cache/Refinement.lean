import SignOn.Proofs.Cache.Visible

/-!
# The cache keeps the eager account

An entry past its deadline stays in a cache until a write clears it away, and being looked up
moves it there.  Nobody can tell: `Cache.account` forgets all such entries, and every step of a
cache is, seen through it, the step of the eager account.
-/

namespace SignOn.Cache

def account (cache : Cache) (clock : Ticks) : Eager where
  capacity := cache.identities.capacity
  lifetime := cache.identities.lifetime
  clock := clock
  identities := cache.identities.visible clock
  markers := cache.markers.visible clock

structure IsUniform (cache : Cache) : Prop where
  capacity : cache.markers.capacity = cache.identities.capacity
  lifetime : cache.markers.lifetime = cache.identities.lifetime
  room : cache.identities.capacity ≠ 0

theorem isUniform_empty {capacity : Nat} (h : 1 ≤ capacity) (lifetime : Ticks) :
    (empty capacity lifetime).IsUniform :=
  ⟨rfl, rfl, Nat.one_le_iff_ne_zero.mp h⟩

def shape (cache : Cache) : (Nat × Ticks) × Nat × Ticks :=
  ((cache.identities.capacity, cache.identities.lifetime),
    cache.markers.capacity, cache.markers.lifetime)

theorem IsUniform.of_shape {cache other : Cache} (h : cache.IsUniform)
    (hshape : other.shape = cache.shape) : other.IsUniform := by
  simp only [shape, Prod.mk.injEq] at hshape
  obtain ⟨⟨hcapacity, hlifetime⟩, hmarkers, hmarkerLifetime⟩ := hshape
  exact ⟨by rw [hmarkers, hcapacity, h.capacity], by rw [hmarkerLifetime, hlifetime, h.lifetime],
    hcapacity ▸ h.room⟩

theorem shape_take (cache : Cache) (check removal : Ticks) (code : Text) :
    (cache.take check removal code).2.shape = cache.shape := by
  unfold take
  split
  · rfl
  · rfl
  · split
    next => rfl
    next identity identities hremove =>
      have hidentities : identities = (cache.identities.remove removal code).2 := by rw [hremove]
      subst hidentities
      simp [shape]

def Step.IsForward : Step → Prop
  | .take _ delay => 0 ≤ delay
  | .advance ticks => 0 ≤ ticks
  | _ => True

instance (s : Step) : Decidable s.IsForward := by
  cases s <;> unfold Step.IsForward <;> infer_instance

theorem account_pass (cache : Cache) (clock : Ticks) {ticks : Ticks} (h : 0 ≤ ticks) :
    (cache.account clock).pass ticks = cache.account (clock + ticks) := by
  have hle : clock ≤ clock + ticks := Int.le_add_of_nonneg_right h
  simp only [account, Eager.pass]
  rw [← Shelf.visible_of_le _ hle, ← Shelf.visible_of_le _ hle]

theorem account_pass_zero (cache : Cache) (clock : Ticks) :
    (cache.account clock).pass 0 = cache.account clock := by
  rw [account_pass cache clock (Int.le_refl 0), Int.add_zero]

theorem account_phase (cache : Cache) (clock : Ticks) (code : Text) :
    (cache.account clock).phase code = cache.phase clock code := by
  simp only [Eager.phase, phase, account, Shelf.contains_eq]
  rfl

theorem account_get (cache : Cache) (clock : Ticks) (code : Text) :
    (cache.account clock).get code =
      ((cache.get clock code).1, (cache.get clock code).2.account clock) := by
  simp only [Eager.get, get, account, Shelf.read_fst, Shelf.visible_read, Shelf.capacity_read,
    Shelf.lifetime_read]
  cases Eager.find? code (cache.identities.visible clock) <;> rfl

theorem account_invalidate (cache : Cache) (clock : Ticks) (code : Text) :
    (cache.account clock).invalidate code = (cache.invalidate clock code).account clock := by
  simp only [Eager.invalidate, invalidate, account, Shelf.visible_remove, Shelf.capacity_remove,
    Shelf.lifetime_remove]

theorem account_put {cache : Cache} (h : cache.IsUniform) (clock : Ticks) (code : Text)
    (identity : Identity) :
    ((cache.account clock).put code identity).pass 0 =
      (cache.put clock code identity).2.account clock := by
  have hmarkers : (Eager.others code (cache.markers.visible clock)).filter (Entry.isLive clock) =
      Eager.others code (cache.markers.visible clock) := by
    rw [others_comm, ← Shelf.visible_of_le _ (Int.le_refl clock)]
  simp only [Eager.put, Eager.pass, Eager.deadline, put, account, Int.add_zero,
    Shelf.visible_remove, Shelf.visible_write _ _ _ _ h.room, Shelf.capacity_write,
    Shelf.lifetime_write, hmarkers]

theorem account_remove_some {cache : Cache} (h : cache.IsUniform) (clock : Ticks) (code : Text)
    {identity : Identity} (hidentity : (cache.identities.remove clock code).1 = some identity) :
    ((cache.account clock).remove code).1 = some identity ∧
      ((cache.account clock).remove code).2.pass 0 = account
        ⟨(cache.identities.remove clock code).2, (cache.markers.write clock code ()).2⟩ clock := by
  rw [Shelf.remove_fst, Option.map_eq_some_iff] at hidentity
  obtain ⟨entry, hentry, rfl⟩ := hidentity
  have hmarkers := Shelf.visible_write cache.markers clock code () (h.capacity ▸ h.room)
  rw [h.capacity, h.lifetime] at hmarkers
  have hidentities :
      (Eager.others code (cache.identities.visible clock)).filter (Entry.isLive clock) =
        Eager.others code (cache.identities.visible clock) := by
    rw [others_comm, ← Shelf.visible_of_le _ (Int.le_refl clock)]
  constructor
  · simp only [Eager.remove, account, hentry]
  · simp only [Eager.remove, Eager.pass, Eager.deadline, account, hentry, Int.add_zero,
      Shelf.visible_remove, hmarkers, Shelf.capacity_remove, Shelf.lifetime_remove, hidentities]

theorem account_remove_none (cache : Cache) (clock : Ticks) (code : Text)
    (hnone : (cache.identities.remove clock code).1 = none) :
    (cache.account clock).remove code = (none, cache.account clock) := by
  rw [Shelf.remove_fst, Option.map_eq_none_iff] at hnone
  simp only [Eager.remove, account, hnone]

theorem account_take {cache : Cache} (h : cache.IsUniform) (clock : Ticks) (code : Text)
    {delay : Ticks} (hdelay : 0 ≤ delay) :
    (cache.account clock).step (.take code delay) =
      let (result, next) := Timed.step ⟨clock, cache⟩ (.take code delay)
      (result, next.cache.account next.clock) := by
  have hpass := account_pass cache clock hdelay
  simp only [Eager.step, Eager.operate, Eager.take, Timed.step, take, account_phase, hpass]
  cases cache.phase clock code with
  | redeemed => simp only [account_pass_zero]
  | initiated => simp only [account_pass_zero]
  | exchanged =>
      cases hremove : (cache.identities.remove (clock + delay) code).1 with
      | none =>
          have hnone := account_remove_none cache (clock + delay) code hremove
          rcases hshelf : cache.identities.remove (clock + delay) code with ⟨found, identities⟩
          rw [hshelf] at hremove
          subst hremove
          simp only [hnone, account_pass_zero]
      | some identity =>
          obtain ⟨hfst, hsnd⟩ := account_remove_some h (clock + delay) code hremove
          rcases hshelf : cache.identities.remove (clock + delay) code with ⟨found, identities⟩
          rcases hnext : (cache.account (clock + delay)).remove code with ⟨removed, next⟩
          rw [hshelf] at hremove hsnd
          rw [hnext] at hfst hsnd
          subst hremove hfst
          simpa using hsnd

namespace Timed

def account (timed : Timed) : Eager := timed.cache.account timed.clock

theorem shape_step (timed : Timed) (s : Step) :
    (timed.step s).2.cache.shape = timed.cache.shape := by
  cases s with
  | put code identity => simp [step, put, Cache.shape]
  | get code => simp [step, get, Cache.shape]
  | invalidate code => simp [step, invalidate, Cache.shape]
  | phase code => rfl
  | advance ticks => rfl
  | take code delay =>
      have htaken := shape_take timed.cache timed.clock (timed.clock + delay) code
      simp only [step]
      split <;> next heq =>
        rw [heq] at htaken
        exact htaken

theorem isUniform_step {timed : Timed} (h : timed.cache.IsUniform) (s : Step) :
    (timed.step s).2.cache.IsUniform :=
  h.of_shape (shape_step timed s)

theorem account_step {timed : Timed} (h : timed.cache.IsUniform) {s : Step} (hs : s.IsForward) :
    timed.account.step s = ((timed.step s).1, (timed.step s).2.account) := by
  cases s with
  | put code identity =>
      have htaken : (timed.cache.put timed.clock code identity).1 = true := by
        simp [put, Shelf.write_fst, h.room]
      have hput := account_put h timed.clock code identity
      simp [account, Eager.step, Eager.operate, step, htaken, hput]
  | get code =>
      simp [account, Eager.step, Eager.operate, step, account_get, account_pass_zero]
  | invalidate code =>
      simp [account, Eager.step, Eager.operate, step, account_invalidate, account_pass_zero]
  | phase code =>
      simp [account, Eager.step, Eager.operate, step, phase, account_phase, account_pass_zero]
  | take code delay => exact account_take h timed.clock code hs
  | advance ticks =>
      simp [account, Eager.step, Eager.operate, step, account_pass _ _ hs, account_pass_zero]

theorem account_run {timed : Timed} (h : timed.cache.IsUniform) {steps : List Step}
    (hsteps : ∀ s ∈ steps, s.IsForward) :
    timed.account.run steps = ((timed.run steps).1, (timed.run steps).2.account) := by
  induction steps generalizing timed with
  | nil => rfl
  | cons s rest ih =>
      obtain ⟨hs, hrest⟩ := List.forall_mem_cons.mp hsteps
      have hstep := account_step h hs
      have hnext := ih (isUniform_step h s) hrest
      simp only [Eager.run, run, hstep, hnext]

/-- A cache of any capacity but zero and any lifetime answers every sequence of steps as the eager
account does, and at its end every code is in the phase that the account has it in; the account
lists exactly what is visible, in the same order. -/
theorem run_eq_eager_run (capacity : Nat) (lifetime : Ticks) (hcapacity : 1 ≤ capacity)
    (steps : List Step) (hsteps : ∀ s ∈ steps, s.IsForward) :
    let kept := (start (empty capacity lifetime)).run steps
    let told := (Eager.start capacity lifetime).run steps
    kept.1 = told.1 ∧ (∀ code, kept.2.phase code = told.2.phase code) ∧
      kept.2.cache.identities.visible kept.2.clock = told.2.identities ∧
      kept.2.cache.markers.visible kept.2.clock = told.2.markers := by
  have huniform : (start (empty capacity lifetime)).cache.IsUniform :=
    isUniform_empty hcapacity lifetime
  have hrun := account_run huniform hsteps
  have hstart : (start (empty capacity lifetime)).account = Eager.start capacity lifetime := rfl
  rw [hstart] at hrun
  intro kept told
  have htold : told = (kept.1, kept.2.account) := hrun
  rw [htold]
  refine ⟨rfl, fun code => ?_, rfl, rfl⟩
  exact (account_phase kept.2.cache kept.2.clock code).symm

/-- One place, an entry that ends on it, and another code that is taken twice. -/
theorem run_eq_eager_run_in_one_place :
    let steps : List Step := [.put ['a'] ⟨['n'], ['r'], ['e']⟩, .advance 5, .get ['a'],
      .put ['b'] ⟨['m'], ['s'], ['f']⟩, .take ['b'] 0, .take ['b'] 4]
    (1 ≤ 1 ∧ ∀ s ∈ steps, s.IsForward) ∧
      ((start (empty 1 5)).run steps).1 = ((Eager.start 1 5).run steps).1 ∧
      ((Eager.start 1 5).run steps).1 = [.done, .done, .identity none, .done,
        .identity (some ⟨['m'], ['s'], ['f']⟩), .refused .alreadyRedeemed] := by
  intro steps
  have hsteps : ∀ s ∈ steps, s.IsForward := by decide
  have hkept := run_eq_eager_run 1 5 (by decide) steps hsteps
  exact ⟨⟨by decide, hsteps⟩, hkept.1, by decide⟩

end Timed

end SignOn.Cache
