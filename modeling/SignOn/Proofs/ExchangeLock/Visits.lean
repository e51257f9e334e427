import SignOn.Proofs.ExchangeLock.Lookup

/-!
# Visits

A visit is a task between its arrival at the lock of a code and its leaving.  Which visits are
under way, and in which order they began, follows from the steps alone.  A registry keeps up with
them: it has a lock for just the codes that are visited, and at the lock stand the visits of its
code, the first to arrive first.
-/

namespace SignOn.ExchangeLock

structure Visit where
  task : Nat
  code : Text
  entered : Bool
  deriving DecidableEq, Repr

namespace Visit

def enter (task : Nat) (visit : Visit) : Visit :=
  if visit.task = task then { visit with entered := true } else visit

/-- The visits under way after a step, in the order of arrival. -/
def record (visits : List Visit) : Step → List Visit
  | .arrive task code => visits ++ [⟨task, code, false⟩]
  | .enter task => visits.map (enter task)
  | .leave task => visits.filter fun visit => visit.task ≠ task

def queue (code : Text) (visits : List Visit) : List Visit :=
  visits.filter fun visit => visit.code = code

@[simp] theorem task_enter (task : Nat) (visit : Visit) : (enter task visit).task = visit.task := by
  unfold enter
  split <;> rfl

@[simp] theorem code_enter (task : Nat) (visit : Visit) : (enter task visit).code = visit.code := by
  unfold enter
  split <;> rfl

theorem enter_of_ne {task : Nat} {visit : Visit} (h : visit.task ≠ task) :
    enter task visit = visit :=
  if_neg h

theorem mem_queue {code : Text} {visits : List Visit} {visit : Visit} :
    visit ∈ queue code visits ↔ visit ∈ visits ∧ visit.code = code := by
  simp [queue]

theorem queue_arrive {code other : Text} (task : Nat) (visits : List Visit) (h : other ≠ code) :
    queue other (record visits (.arrive task code)) = queue other visits := by
  simp [record, queue, h.symm]

theorem queue_arrive_self (task : Nat) (code : Text) (visits : List Visit) :
    queue code (record visits (.arrive task code)) =
      queue code visits ++ [⟨task, code, false⟩] := by
  simp [record, queue]

theorem queue_enter (code : Text) (task : Nat) (visits : List Visit) :
    queue code (record visits (.enter task)) = (queue code visits).map (enter task) := by
  simp [record, queue, List.filter_map, Function.comp_def]

theorem queue_leave (code : Text) (task : Nat) (visits : List Visit) :
    queue code (record visits (.leave task)) =
      (queue code visits).filter fun visit => visit.task ≠ task := by
  simp [record, queue, List.filter_filter, Bool.and_comm]

end Visit

open Visit (record queue mem_queue queue_arrive queue_arrive_self queue_enter queue_leave)

def Lock.visits (lock : Lock) (code : Text) : List Visit :=
  lock.holder.toList.map (⟨·, code, true⟩) ++ lock.waiting.map (⟨·, code, false⟩)

theorem Lock.map_task_visits (lock : Lock) (code : Text) :
    (lock.visits code).map (·.task) = lock.tasks := by
  simp [tasks, visits, Function.comp_def]

theorem Lock.exists_visit (lock : Lock) (code : Text) (task : Nat) :
    task ∈ lock.tasks ↔ ∃ visit ∈ lock.visits code, visit.task = task := by
  rw [← lock.map_task_visits code, List.mem_map]

structure Registry.Reflects (registry : Registry) (visits : List Visit) : Prop where
  sound : registry.IsSound
  queues : ∀ code lock, registry.Has code lock → queue code visits = lock.visits code
  occupied : ∀ code lock, registry.Has code lock → lock.visits code ≠ []
  known : ∀ visit ∈ visits, ∃ lock, registry.Has visit.code lock
  distinct : (visits.map (·.task)).Nodup

namespace Registry.Reflects

variable {registry next : Registry} {visits : List Visit} {task : Nat} {code : Text}

theorem nil : Registry.empty.Reflects [] where
  sound := isSound_empty
  queues _ _ hlock := nomatch hlock.1
  occupied _ _ hlock := nomatch hlock.1
  known := nofun
  distinct := .nil

theorem eq_of_task (h : registry.Reflects visits) {visit other : Visit} (hvisit : visit ∈ visits)
    (hother : other ∈ visits) (htask : visit.task = other.task) : visit = other :=
  List.inj_on_of_nodup_map h.distinct hvisit hother htask

theorem exists_of_lockOfTask? (h : registry.Reflects visits) {lock : Lock}
    (hlock : registry.lockOfTask? task = some lock) :
    ∃ code, registry.Has code lock ∧ ∃ visit ∈ queue code visits, visit.task = task := by
  obtain ⟨hmem, htask⟩ := of_lockOfTask? hlock
  obtain ⟨code, hcode⟩ := h.sound.exists_code hmem
  refine ⟨code, hcode, ?_⟩
  rw [h.queues code lock hcode]
  exact (lock.exists_visit code task).mp htask

theorem nodup_tasks (h : registry.Reflects visits) {lock : Lock} (hlock : registry.Has code lock) :
    lock.tasks.Nodup := by
  rw [← lock.map_task_visits code, ← h.queues code lock hlock]
  exact h.distinct.sublist (List.filter_sublist.map _)

theorem lockOfTask?_eq_none (h : registry.Reflects visits) :
    registry.lockOfTask? task = none ↔ task ∉ visits.map (·.task) := by
  rw [Registry.lockOfTask?_eq_none, List.mem_map]
  constructor
  · rintro hnot ⟨visit, hvisit, rfl⟩
    obtain ⟨lock, hlock⟩ := h.known visit hvisit
    refine hnot lock hlock.2 ((lock.exists_visit visit.code visit.task).mpr ⟨visit, ?_, rfl⟩)
    rw [← h.queues visit.code lock hlock]
    exact mem_queue.mpr ⟨hvisit, rfl⟩
  · intro hnot lock hmem htask
    obtain ⟨code, hcode⟩ := h.sound.exists_code hmem
    obtain ⟨visit, hvisit, rfl⟩ := (lock.exists_visit code task).mp htask
    rw [← h.queues code lock hcode] at hvisit
    exact hnot ⟨visit, (mem_queue.mp hvisit).1, rfl⟩

/-! ## Steps -/

theorem change (h : registry.Reflects visits) (hsound : next.IsSound) {lock : Lock}
    {later : List Visit}
    (hhas : ∀ other otherLock, next.Has other otherLock ↔
      (other = code ∧ otherLock = lock) ∨ (other ≠ code ∧ registry.Has other otherLock))
    (hqueue : queue code later = lock.visits code) (hne : lock.visits code ≠ [])
    (hothers : ∀ other, other ≠ code → queue other later = queue other visits)
    (hdistinct : (later.map (·.task)).Nodup) : next.Reflects later where
  sound := hsound
  queues := by
    intro other otherLock hlock
    rcases (hhas other otherLock).mp hlock with ⟨rfl, rfl⟩ | ⟨hother, hlock⟩
    · exact hqueue
    · rw [hothers other hother, h.queues other otherLock hlock]
  occupied := by
    intro other otherLock hlock
    rcases (hhas other otherLock).mp hlock with ⟨rfl, rfl⟩ | ⟨-, hlock⟩
    · exact hne
    · exact h.occupied other otherLock hlock
  known := by
    intro visit hvisit
    by_cases hcode : visit.code = code
    · exact ⟨lock, (hhas _ _).mpr (.inl ⟨hcode, rfl⟩)⟩
    · have hmem : visit ∈ queue visit.code visits :=
        hothers visit.code hcode ▸ mem_queue.mpr ⟨hvisit, rfl⟩
      obtain ⟨old, hold⟩ := h.known visit (mem_queue.mp hmem).1
      exact ⟨old, (hhas _ _).mpr (.inr ⟨hcode, hold⟩)⟩
  distinct := hdistinct

theorem changeTo (h : registry.Reflects visits) {lock nextLock : Lock} {later : List Visit}
    (hlock : registry.Has code lock) (hnumber : nextLock.number = lock.number)
    (hqueue : queue code later = nextLock.visits code) (hne : nextLock.visits code ≠ [])
    (hothers : ∀ other, other ≠ code → queue other later = queue other visits)
    (hdistinct : (later.map (·.task)).Nodup) : (registry.setLock nextLock).Reflects later :=
  h.change (isSound_setLock h.sound hlock.2 hnumber)
    (fun _ _ => has_setLock h.sound hlock hnumber) hqueue hne hothers hdistinct

theorem drop (h : registry.Reflects visits) {lock : Lock} {later : List Visit}
    (hlock : registry.Has code lock) (hqueue : queue code later = [])
    (hothers : ∀ other, other ≠ code → queue other later = queue other visits)
    (hdistinct : (later.map (·.task)).Nodup) :
    (registry.dropLock lock.number).Reflects later where
  sound := isSound_dropLock h.sound _
  queues := by
    intro other otherLock hother
    obtain ⟨hne, hhas⟩ := (has_dropLock h.sound hlock).mp hother
    rw [hothers other hne, h.queues other otherLock hhas]
  occupied := by
    intro other otherLock hother
    exact h.occupied other otherLock ((has_dropLock h.sound hlock).mp hother).2
  known := by
    intro visit hvisit
    have hmem : visit ∈ queue visit.code later := mem_queue.mpr ⟨hvisit, rfl⟩
    have hne : visit.code ≠ code := by
      rintro rfl
      rw [hqueue] at hmem
      contradiction
    rw [hothers visit.code hne] at hmem
    obtain ⟨old, hold⟩ := h.known visit (mem_queue.mp hmem).1
    exact ⟨old, (has_dropLock h.sound hlock).mpr ⟨hne, hold⟩⟩
  distinct := hdistinct

theorem arrive (h : registry.Reflects visits) (hstep : registry.arrive? task code = some next) :
    next.Reflects (record visits (.arrive task code)) := by
  unfold arrive? at hstep
  split at hstep
  · contradiction
  next hfree =>
    have hnew : task ∉ visits.map (·.task) :=
      h.lockOfTask?_eq_none.mp (Option.not_isSome_iff_eq_none.mp hfree)
    have hdistinct : ((record visits (.arrive task code)).map (·.task)).Nodup := by
      rw [record, List.map_append, List.map_singleton, ← List.concat_eq_append]
      exact h.distinct.concat hnew
    have hothers : ∀ other, other ≠ code →
        queue other (record visits (.arrive task code)) = queue other visits :=
      fun other hother => queue_arrive task visits hother
    cases hlock : registry.lockOfCode? code with
    | some lock =>
        rw [hlock, Option.some.injEq] at hstep
        subst hstep
        have hhas := (lockOfCode?_eq_some h.sound).mp hlock
        refine h.changeTo hhas rfl ?_ ?_ hothers hdistinct
        · rw [queue_arrive_self, h.queues code lock hhas]
          simp [Lock.visits]
        · simp [Lock.visits]
    | none =>
        rw [hlock, Option.some.injEq] at hstep
        subst hstep
        have hempty : queue code visits = [] := by
          refine List.eq_nil_iff_forall_not_mem.mpr fun visit hvisit => ?_
          obtain ⟨hmem, rfl⟩ := mem_queue.mp hvisit
          obtain ⟨lock, hhas⟩ := h.known visit hmem
          exact nomatch hlock.symm.trans ((lockOfCode?_eq_some h.sound).mpr hhas)
        refine h.change (isSound_makeLock h.sound hlock)
          (fun _ _ => has_makeLock h.sound hlock) ?_ ?_ hothers hdistinct
        · rw [queue_arrive_self, hempty]
          rfl
        · simp [Lock.visits]

/-- A task has one visit, so visits of other codes than the one it visits are not its own. -/
theorem task_ne (h : registry.Reflects visits) {visit : Visit} (hvisit : visit ∈ queue code visits)
    {other : Text} (hother : other ≠ code) : ∀ v ∈ queue other visits, v.task ≠ visit.task := by
  intro v hv heq
  obtain ⟨hmem, rfl⟩ := mem_queue.mp hv
  obtain ⟨hown, rfl⟩ := mem_queue.mp hvisit
  exact hother (congrArg Visit.code (h.eq_of_task hmem hown heq))

theorem enter (h : registry.Reflects visits) (hstep : registry.enter? task = some next) :
    next.Reflects (record visits (.enter task)) := by
  unfold enter? at hstep
  split at hstep
  next number first waiting hlock =>
    split at hstep
    next hfirst =>
      subst hfirst
      rw [Option.some.injEq] at hstep
      subst hstep
      obtain ⟨code, hhas, visit, hvisit, rfl⟩ := h.exists_of_lockOfTask? hlock
      have hqueue := h.queues code _ hhas
      have hwaiting : visit.task ∉ waiting :=
        (List.nodup_cons.mp (h.nodup_tasks hhas)).1
      refine h.changeTo hhas rfl ?_ (by simp [Lock.visits]) (fun other hother => ?_) ?_
      · have hrest : ∀ other ∈ waiting, Visit.enter visit.task ⟨other, code, false⟩ =
            ⟨other, code, false⟩ :=
          fun other hother => Visit.enter_of_ne fun heq => hwaiting (heq ▸ hother)
        rw [queue_enter, hqueue]
        simpa [Lock.visits, Visit.enter] using hrest
      · rw [queue_enter]
        have hsame : ∀ v ∈ queue other visits, Visit.enter visit.task v = v :=
          fun v hv => Visit.enter_of_ne (h.task_ne hvisit hother v hv)
        exact (List.map_congr_left hsame).trans (List.map_id' _)
      · simpa [record, Function.comp_def] using h.distinct
    next => contradiction
  next => contradiction

theorem leave (h : registry.Reflects visits) (hstep : registry.leave? task = some next) :
    next.Reflects (record visits (.leave task)) := by
  unfold leave? at hstep
  split at hstep
  · contradiction
  next lock hlock =>
    obtain ⟨code, hhas, visit, hvisit, rfl⟩ := h.exists_of_lockOfTask? hlock
    split at hstep
    · contradiction
    next hholder =>
      obtain ⟨number, holder, waiting⟩ := lock
      obtain rfl : holder = some visit.task := by simpa using hholder
      have hqueue := h.queues code _ hhas
      have hwaiting : visit.task ∉ waiting :=
        (List.nodup_cons.mp (h.nodup_tasks hhas)).1
      have hself : queue code (record visits (.leave visit.task)) =
          waiting.map (⟨·, code, false⟩) := by
        rw [queue_leave, hqueue]
        have hrest : ∀ other ∈ waiting, ¬ other = visit.task :=
          fun other hother heq => hwaiting (heq ▸ hother)
        simpa [Lock.visits] using hrest
      have hothers : ∀ other, other ≠ code →
          queue other (record visits (.leave visit.task)) = queue other visits := by
        intro other hother
        rw [queue_leave, List.filter_eq_self]
        exact fun v hv => decide_eq_true (h.task_ne hvisit hother v hv)
      have hdistinct : ((record visits (.leave visit.task)).map (·.task)).Nodup :=
        h.distinct.sublist (List.filter_sublist.map _)
      cases waiting with
      | nil =>
          obtain rfl : registry.dropLock number = next := by simpa using hstep
          exact h.drop hhas hself hothers hdistinct
      | cons first rest =>
          obtain rfl : registry.setLock ⟨number, none, first :: rest⟩ = next := by
            simpa using hstep
          refine h.changeTo hhas rfl ?_ (by simp [Lock.visits]) hothers hdistinct
          rw [hself]
          rfl

end Registry.Reflects

end SignOn.ExchangeLock
