import SignOn.Proofs.ExchangeLock.Visits

/-!
# First come, first served

At most one task at a time is between entering and leaving for a code.  Tasks enter in the order
in which they arrived, and a task waits only for tasks of its own code that arrived before it.
-/

namespace SignOn.ExchangeLock

open Visit (record queue mem_queue queue_arrive queue_arrive_self queue_enter queue_leave)

namespace Registry.Reflects

variable {registry : Registry} {visits : List Visit} {task : Nat} {code : Text} {visit : Visit}

theorem holder_eq_iff (h : registry.Reflects visits) {lock : Lock} (hvisit : visit ∈ visits)
    (hlock : registry.Has visit.code lock) : lock.holder = some visit.task ↔ visit.entered := by
  have hmem : visit ∈ lock.visits visit.code :=
    h.queues visit.code lock hlock ▸ mem_queue.mpr ⟨hvisit, rfl⟩
  have hdisjoint := (List.nodup_append.mp (h.nodup_tasks hlock)).2.2
  rcases List.mem_append.mp hmem with hholder | hwaiting
  · obtain ⟨holder, hin, heq⟩ := List.mem_map.mp hholder
    rw [← heq]
    exact ⟨fun _ => rfl, fun _ => by simpa using hin⟩
  · obtain ⟨waiting, hin, heq⟩ := List.mem_map.mp hwaiting
    rw [← heq]
    refine ⟨fun hholder => ?_, nofun⟩
    exact absurd rfl (hdisjoint waiting (by simp [hholder]) waiting hin)

theorem eq_of_entered (h : registry.Reflects visits) {other : Visit} (hvisit : visit ∈ visits)
    (hother : other ∈ visits) (hcode : visit.code = other.code) (hentered : visit.entered)
    (hotherEntered : other.entered) : visit = other := by
  obtain ⟨lock, hlock⟩ := h.known visit hvisit
  have hfirst := (h.holder_eq_iff hvisit hlock).mpr hentered
  have hsecond := (h.holder_eq_iff hother (hcode ▸ hlock)).mpr hotherEntered
  exact h.eq_of_task hvisit hother (Option.some.inj (hfirst.symm.trans hsecond))

theorem lockOfCode?_isSome (h : registry.Reflects visits) :
    (registry.lockOfCode? code).isSome ↔ ∃ visit ∈ visits, visit.code = code := by
  rw [Option.isSome_iff_exists]
  constructor
  · rintro ⟨lock, hlock⟩
    have hhas := (lockOfCode?_eq_some h.sound).mp hlock
    obtain ⟨visit, hvisit⟩ := List.exists_mem_of_ne_nil _ (h.occupied code lock hhas)
    rw [← h.queues code lock hhas] at hvisit
    exact ⟨visit, mem_queue.mp hvisit⟩
  · rintro ⟨visit, hvisit, rfl⟩
    obtain ⟨lock, hlock⟩ := h.known visit hvisit
    exact ⟨lock, (lockOfCode?_eq_some h.sound).mpr hlock⟩

theorem lockOfTask?_eq_some (h : registry.Reflects visits) {lock : Lock} (hvisit : visit ∈ visits)
    (hlock : registry.Has visit.code lock) : registry.lockOfTask? visit.task = some lock := by
  cases hfind : registry.lockOfTask? visit.task with
  | none =>
      exact absurd (List.mem_map_of_mem hvisit) (h.lockOfTask?_eq_none.mp hfind)
  | some other =>
      obtain ⟨code, hcode, own, hown, htask⟩ := h.exists_of_lockOfTask? hfind
      obtain ⟨hmem, rfl⟩ := mem_queue.mp hown
      obtain rfl := h.eq_of_task hmem hvisit htask
      rw [h.sound.unique hcode hlock]

theorem enter?_isSome (h : registry.Reflects visits) (hvisit : visit ∈ visits) :
    (registry.enter? visit.task).isSome ↔
      visit.entered = false ∧ (queue visit.code visits).head? = some visit := by
  obtain ⟨lock, hlock⟩ := h.known visit hvisit
  have hqueue := h.queues visit.code lock hlock
  have hmem : visit ∈ lock.visits visit.code := hqueue ▸ mem_queue.mpr ⟨hvisit, rfl⟩
  rw [hqueue, enter?, h.lockOfTask?_eq_some hvisit hlock]
  obtain ⟨task, code, entered⟩ := visit
  obtain ⟨number, holder, waiting⟩ := lock
  cases holder with
  | some holder => cases entered <;> simp [Lock.visits]
  | none =>
      cases waiting with
      | nil => simp [Lock.visits] at hmem
      | cons first rest =>
          have hentered : entered = false := by
            obtain ⟨other, -, heq⟩ := List.mem_map.mp (show _ ∈ List.map _ _ from hmem)
            exact (congrArg Visit.entered heq).symm
          subst hentered
          by_cases hfirst : first = task <;> simp [Lock.visits, hfirst]

theorem exists_before_of_enter? (h : registry.Reflects visits) (hvisit : visit ∈ visits)
    (hwaits : visit.entered = false) (hnone : registry.enter? visit.task = none) :
    ∃ other, other.code = visit.code ∧ [other, visit].Sublist visits := by
  have hhead : (queue visit.code visits).head? ≠ some visit := by
    intro hhead
    have hsome := (h.enter?_isSome hvisit).mpr ⟨hwaits, hhead⟩
    rw [hnone] at hsome
    contradiction
  have hmem : visit ∈ queue visit.code visits := mem_queue.mpr ⟨hvisit, rfl⟩
  cases hqueue : queue visit.code visits with
  | nil => exact absurd (hqueue ▸ hmem) List.not_mem_nil
  | cons other rest =>
      have hother := mem_queue.mp (hqueue ▸ List.mem_cons_self : other ∈ queue visit.code visits)
      have hrest : visit ∈ rest := by
        rw [hqueue] at hmem hhead
        refine (List.mem_cons.mp hmem).resolve_left fun heq => hhead ?_
        rw [heq, List.head?_cons]
      have hpair : [other, visit].Sublist (queue visit.code visits) := by
        rw [hqueue]
        exact (List.singleton_sublist.mpr hrest).cons_cons other
      exact ⟨other, hother.2, hpair.trans List.filter_sublist⟩

theorem leave?_isSome (h : registry.Reflects visits) (hvisit : visit ∈ visits) :
    (registry.leave? visit.task).isSome ↔ visit.entered := by
  obtain ⟨lock, hlock⟩ := h.known visit hvisit
  rw [← h.holder_eq_iff hvisit hlock, leave?, h.lockOfTask?_eq_some hvisit hlock]
  by_cases hholder : lock.holder = some visit.task
  · cases hwaiting : lock.waiting <;> simp [hholder, hwaiting]
  · simp [hholder]

theorem exists_of_enter? (h : registry.Reflects visits) {next : Registry}
    (hstep : registry.enter? task = some next) :
    ∃ visit ∈ visits, visit.task = task ∧ visit.entered = false ∧
      (queue visit.code visits).head? = some visit := by
  by_cases hmem : task ∈ visits.map (·.task)
  · obtain ⟨visit, hvisit, rfl⟩ := List.mem_map.mp hmem
    exact ⟨visit, hvisit, rfl, (h.enter?_isSome hvisit).mp (by rw [hstep]; rfl)⟩
  · rw [enter?, h.lockOfTask?_eq_none.mpr hmem] at hstep
    contradiction

theorem exists_of_leave? (h : registry.Reflects visits) {next : Registry}
    (hstep : registry.leave? task = some next) :
    ∃ visit ∈ visits, visit.task = task ∧ visit.entered := by
  by_cases hmem : task ∈ visits.map (·.task)
  · obtain ⟨visit, hvisit, rfl⟩ := List.mem_map.mp hmem
    exact ⟨visit, hvisit, rfl, (h.leave?_isSome hvisit).mp (by rw [hstep]; rfl)⟩
  · rw [leave?, h.lockOfTask?_eq_none.mpr hmem] at hstep
    contradiction

theorem step (h : registry.Reflects visits) {s : Step} {next : Registry}
    (hstep : registry.step? s = some next) : next.Reflects (record visits s) := by
  cases s with
  | arrive task code => exact h.arrive hstep
  | enter task => exact h.enter hstep
  | leave task => exact h.leave hstep

end Registry.Reflects

def Visit.waiting (code : Text) (visits : List Visit) : List Nat :=
  ((queue code visits).filter fun visit => !visit.entered).map (·.task)

def Step.arrivals (code : Text) : Step → List Nat
  | .arrive task other => if other = code then [task] else []
  | _ => []

def Step.entrances (code : Text) (visits : List Visit) : Step → List Nat
  | .enter task => if ⟨task, code, false⟩ ∈ visits then [task] else []
  | _ => []

def entrances (code : Text) (visits : List Visit) : List Step → List Nat
  | [] => []
  | s :: rest => s.entrances code visits ++ entrances code (record visits s) rest

open Visit (waiting)

namespace Registry.Reflects

variable {registry next : Registry} {visits : List Visit} {s : Step}

theorem waiting_arrive (visits : List Visit) (task : Nat) (other code : Text) :
    waiting code visits ++ Step.arrivals code (.arrive task other) =
      waiting code (record visits (.arrive task other)) := by
  by_cases hcode : other = code
  · subst hcode
    simp [Step.arrivals, waiting, queue_arrive_self]
  · simp [Step.arrivals, waiting, queue_arrive _ _ (Ne.symm hcode), hcode]

theorem waiting_enter (h : registry.Reflects visits) {visit : Visit} (hvisit : visit ∈ visits)
    (hentered : visit.entered = false) (hhead : (queue visit.code visits).head? = some visit)
    (code : Text) :
    waiting code visits =
      Step.entrances code visits (.enter visit.task) ++
        waiting code (record visits (.enter visit.task)) := by
  have hmem : visit ∈ queue visit.code visits := mem_queue.mpr ⟨hvisit, rfl⟩
  by_cases hcode : visit.code = code
  · subst hcode
    obtain ⟨rest, hqueue⟩ := List.head?_eq_some_iff.mp hhead
    have hnodup : ((visit :: rest).map (·.task)).Nodup :=
      hqueue ▸ h.distinct.sublist (List.filter_sublist.map _)
    have hkept : ∀ v ∈ rest, Visit.enter visit.task v = v := by
      refine fun v hv => Visit.enter_of_ne fun heq => ?_
      exact (List.nodup_cons.mp hnodup).1 (List.mem_map.mpr ⟨v, hv, heq⟩)
    have hrest : rest.map (Visit.enter visit.task) = rest :=
      (List.map_congr_left hkept).trans (List.map_id' _)
    have hself : (⟨visit.task, visit.code, false⟩ : Visit) = visit := by
      rw [← hentered]
    have hin : ⟨visit.task, visit.code, false⟩ ∈ visits := hself ▸ hvisit
    simp [Step.entrances, waiting, queue_enter, hqueue, hrest, hin, hentered, Visit.enter]
  · -- Whoever enters for another code has no visit of this one.
    have hnot : ⟨visit.task, code, false⟩ ∉ visits := by
      intro hother
      exact hcode (congrArg Visit.code (h.eq_of_task hvisit hother rfl))
    have hkept : ∀ v ∈ queue code visits, Visit.enter visit.task v = v :=
      fun v hv => Visit.enter_of_ne (h.task_ne hmem (Ne.symm hcode) v hv)
    have hsame : (queue code visits).map (Visit.enter visit.task) = queue code visits :=
      (List.map_congr_left hkept).trans (List.map_id' _)
    simp [Step.entrances, waiting, queue_enter, hnot, hsame]

theorem waiting_leave (h : registry.Reflects visits) {visit : Visit} (hvisit : visit ∈ visits)
    (hentered : visit.entered) (code : Text) :
    waiting code visits = waiting code (record visits (.leave visit.task)) := by
  have hsame : ((queue code visits).filter fun v => v.task ≠ visit.task).filter
      (fun v => !v.entered) = (queue code visits).filter fun v => !v.entered := by
    rw [List.filter_filter]
    refine List.filter_congr fun v hv => ?_
    cases hwaiting : v.entered with
    | true => simp
    | false =>
        have hne : v.task ≠ visit.task := by
          intro heq
          obtain rfl := h.eq_of_task (mem_queue.mp hv).1 hvisit heq
          simp [hentered] at hwaiting
        simp [hne]
  simp only [waiting, queue_leave, hsame]

theorem waiting_step (h : registry.Reflects visits) (hstep : registry.step? s = some next)
    (code : Text) :
    waiting code visits ++ s.arrivals code =
      s.entrances code visits ++ waiting code (record visits s) := by
  cases s with
  | arrive task other => exact waiting_arrive visits task other code
  | enter task =>
      obtain ⟨visit, hvisit, rfl, hentered, hhead⟩ := h.exists_of_enter? hstep
      exact (List.append_nil _).trans (h.waiting_enter hvisit hentered hhead code)
  | leave task =>
      obtain ⟨visit, hvisit, rfl, hentered⟩ := h.exists_of_leave? hstep
      exact (List.append_nil _).trans (h.waiting_leave hvisit hentered code)

theorem run (h : registry.Reflects visits) {steps : List Step}
    (hrun : registry.run? steps = some next) :
    next.Reflects (steps.foldl record visits) ∧ ∀ code,
      waiting code visits ++ steps.flatMap (Step.arrivals code) =
        entrances code visits steps ++ waiting code (steps.foldl record visits) := by
  induction steps generalizing registry visits with
  | nil =>
      cases hrun
      exact ⟨h, fun code => by simp [entrances]⟩
  | cons s rest ih =>
      obtain ⟨middle, hstep, hrest⟩ := Option.bind_eq_some_iff.mp hrun
      obtain ⟨hreflects, horder⟩ := ih (h.step hstep) hrest
      refine ⟨hreflects, fun code => ?_⟩
      rw [List.flatMap_cons, ← List.append_assoc, h.waiting_step hstep, List.append_assoc,
        horder, ← List.append_assoc]
      rfl

end Registry.Reflects

end SignOn.ExchangeLock
