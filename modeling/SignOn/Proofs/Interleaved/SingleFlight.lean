import SignOn.Proofs.Interleaved.Stages

/-!
# One request for a code

Exchanges of one code enter one after another.  The first to enter asks the provider for tokens, and
if it succeeds the others find what it stored, as long as that stays live.
-/

namespace SignOn.Service

open ExchangeLock (Registry Visit)

variable {client : Client} {initial : State} {run after : Interleaved} {seats later : Nat → Seat}
  {visits : List Visit} {move : Move} {past : List Moment} {code : Text} {first : Nat}

theorem firstEntrance?_append (code : Text) (past : List Moment) (moment : Moment) :
    firstEntrance? code (past ++ [moment]) =
      (firstEntrance? code past).or (moment.entrance? code) := by
  simp [firstEntrance?, List.findSome?_append]

theorem stage_start (initial : State) (hphase : initial.phase code = .initiated)
    (seats : Nat → Seat) : Stage code initial [] (.start initial) seats where
  outside n task htask := by simp [Interleaved.start] at htask
  identity := (State.phase_eq_initiated.mp hphase).1
  asks := rfl

theorem Stage.moved (h : Stage code initial past run seats) (hseated : Seated run seats visits)
    {visits' : List Visit} (hafter : Seated after later visits')
    (hmoved : Moved client run seats move after later)
    (hstays : StaysExchanged code (past ++ [⟨run, move⟩])) :
    Stage code initial (past ++ [⟨run, move⟩]) after later := by
  unfold Stage at h ⊢
  rw [firstEntrance?_append]
  cases hfirst : firstEntrance? code past with
  | none =>
      rw [hfirst] at h
      rw [Option.none_or]
      cases hentrance : Moment.entrance? code ⟨run, move⟩ with
      | none => exact h.moved hseated hmoved hentrance
      | some first => exact .inl (h.entered hseated hmoved hentrance)
  | some first =>
      rw [hfirst] at h
      rw [Option.some_or]
      rcases h with hworking | ⟨identity, hsettled⟩ | hfailed
      · exact hworking.moved hseated hafter hmoved
      · obtain ⟨moment, hmoment, hstores⟩ := hsettled.stored
        have hexchanged := (List.pairwise_append.mp hstays).2.2 moment hmoment _
          (List.mem_singleton_self _) hstores
        exact .inr (.inl ⟨identity, hsettled.moved hseated hexchanged hmoved⟩)
      · exact .inr (.inr (hfailed.moved hmoved))

theorem eq_of_isFinding {p : Point} {identity : Identity} {result : Except Failure Text}
    (h : p.IsFinding identity) (hresult : p.Accepts result) : result = .ok identity.email := by
  cases p with
  | left asked email =>
      match asked, email, result with
      | false, some email, .ok value =>
          obtain rfl : email = identity.email := h
          exact congrArg _ hresult
      | false, some email, .error failure => exact hresult.elim
      | false, none, result => exact h.elim
      | true, email, result => exact h.elim
  | checking => exact hresult.elim
  | unmarked => exact hresult.elim
  | found other => exact hresult.elim
  | _ => exact h.elim

theorem Stage.of_done (h : Stage code initial past run seats) (hseated : Seated run seats visits)
    (hcast : Cast past run seats) (hfirst : firstEntrance? code past = some first) {email : Text}
    (hdone : run.tasks[first]? = some (.ready (.done (.ok email)))) :
    asks code run.state.sent = asks code initial.sent + 1 ∧
      ∀ (n : Nat) result, (begun past)[n]? = some (.exchange code) →
        run.tasks[n]? = some (.ready (.done result)) → result = .ok email := by
  unfold Stage at h
  rw [hfirst] at h
  have haccepts : (seats first).point.Accepts (.ok email) := hseated.holds first _ hdone
  rcases h with hworking | ⟨identity, hsettled⟩ | hfailed
  · have hpoint := hworking.point
    generalize (seats first).point = p at haccepts hpoint
    cases p <;> contradiction
  · have hemail : email = identity.email := by
      rcases hsettled.point with hpoint | hpoint <;> rw [hpoint] at haccepts
      · exact haccepts.elim
      · exact haccepts
    refine ⟨hsettled.asks, fun n result hcall htask => ?_⟩
    by_cases hne : n = first
    · rw [hne, hdone] at htask
      cases htask
      rfl
    · obtain ⟨hcode, hkind⟩ := hcast.calls n _ hcall
      have hresult : (seats n).point.Accepts result := hseated.holds n _ htask
      have hfinds := hsettled.finding n _ hne htask hcode
      unfold IsOutside at hfinds
      generalize (seats n).point = p at hresult hkind hfinds
      rcases hfinds with (hoff | harriving | hentering) | hfinding
      · exact nomatch hoff.symm.trans hkind
      · rw [harriving] at hresult
        exact hresult.elim
      · contradiction
      · rw [hemail]
        exact eq_of_isFinding hfinding hresult
  · have hpoint := hfailed.point
    generalize (seats first).point = p at haccepts hpoint
    cases p with
    | left asked found => cases found <;> contradiction
    | _ => contradiction

theorem exists_steps_of_callLocks? {locks next : Registry} {n : Nat} {action : Action}
    (h : Interleaved.callLocks? locks n action = some next) :
    ∃ steps, locks.run? steps = some next := by
  cases action with
  | enter code => exact ⟨[.arrive n code], (bind_pure _).trans h⟩
  | leave code => exact ⟨[.leave n], (bind_pure _).trans h⟩
  | _ => exact ⟨[], h⟩

theorem exists_steps_of_returnLocks? {locks next : Registry} {n : Nat} {action : Action}
    (h : Interleaved.returnLocks? locks n action = some next) :
    ∃ steps, locks.run? steps = some next := by
  cases action with
  | enter code => exact ⟨[.enter n], (bind_pure _).trans h⟩
  | _ => exact ⟨[], h⟩

theorem exists_lockSteps_of_step? (hstep : run.step? (move.step client) = some after) :
    ∃ steps, run.locks.run? steps = some after.locks := by
  cases move with
  | begin call =>
      obtain rfl := Option.some.inj hstep
      exact ⟨[], rfl⟩
  | advance ticks =>
      obtain rfl := Option.some.inj hstep
      exact ⟨[], rfl⟩
  | proceed n =>
      obtain ⟨task, htask, hrest⟩ := Option.bind_eq_some_iff.mp hstep
      split at hrest
      · contradiction
      split at hrest
      next => contradiction
      next => exact exists_steps_of_callLocks? (of_call? hrest).1
      next => exact exists_steps_of_returnLocks? (of_return? hrest).1

theorem Reaches.exists_lockSteps (h : Reaches client initial past run) :
    ∃ steps, Registry.empty.run? steps = some run.locks := by
  induction h with
  | start => exact ⟨[], rfl⟩
  | move h move hstep ih =>
      obtain ⟨steps, hsteps⟩ := ih
      obtain ⟨others, hothers⟩ := exists_lockSteps_of_step? hstep
      refine ⟨steps ++ others, ?_⟩
      rw [Registry.run?] at hsteps ⊢
      rw [List.foldlM_append, hsteps]
      exact hothers

/-- Whatever the steps of the registry, at most one task for each code is between entering and
leaving, tasks of a code enter in the order in which they arrived, whoever cannot enter has one of
the same code before it, and a code has a lock as long as somebody visits it.  So whatever the
schedule of calls, at most one request for the tokens of a code is under way; and if the first
exchange of a code that is neither exchanged nor redeemed succeeds, and the code stays exchanged,
then there is one request for its tokens, and all exchanges come to the same email. -/
theorem single_flight (client : Client) (initial : State) :
    (∀ steps registry, Registry.empty.run? steps = some registry →
      let visits := steps.foldl Visit.record []
      (∀ visit ∈ visits, ∀ other ∈ visits, visit.code = other.code → visit.entered →
        other.entered → visit = other) ∧
      (∀ code, steps.flatMap (ExchangeLock.Step.arrivals code) =
        ExchangeLock.entrances code [] steps ++ Visit.waiting code visits) ∧
      (∀ visit ∈ visits, visit.entered = false → registry.enter? visit.task = none →
        ∃ other, other.code = visit.code ∧ [other, visit].Sublist visits) ∧
      ∀ code, (registry.lockOfCode? code).isSome ↔ ∃ visit ∈ visits, visit.code = code) ∧
    ∀ past run, Reaches client initial past run →
      (∃ steps, Registry.empty.run? steps = some run.locks) ∧
      (∀ code m n, IsOutstanding run code m → IsOutstanding run code n → m = n) ∧
      ∀ code first email, initial.phase code = .initiated → firstEntrance? code past = some first →
        run.tasks[first]? = some (.ready (.done (.ok email))) → StaysExchanged code past →
        asks code run.state.sent = asks code initial.sent + 1 ∧
          ∀ (n : Nat) result, (begun past)[n]? = some (.exchange code) →
            run.tasks[n]? = some (.ready (.done result)) → result = .ok email := by
  constructor
  · intro steps registry hrun
    obtain ⟨hreflects, horder⟩ := Registry.Reflects.run .nil hrun
    refine ⟨fun visit hvisit other hother => hreflects.eq_of_entered hvisit hother, fun code => ?_,
      fun visit => hreflects.exists_before_of_enter?, fun code => hreflects.lockOfCode?_isSome⟩
    exact horder code
  intro past run h
  refine ⟨h.exists_lockSteps, ?_, ?_⟩
  · obtain ⟨seats, visits, hseated, -⟩ := h.exists_seats (P := fun _ _ _ => True)
      (fun _ => trivial) fun _ _ _ _ _ _ _ _ _ _ _ _ => trivial
    exact fun code m n hm hn => hseated.eq_of_isOutstanding hm hn
  · intro code first email hphase hfirst hdone hstays
    obtain ⟨seats, visits, hseated, hcast, hstage⟩ := h.exists_seats
      (P := fun past run seats =>
        Cast past run seats ∧ (StaysExchanged code past → Stage code initial past run seats))
      (fun seats => ⟨cast_start initial seats, fun _ => stage_start initial hphase seats⟩)
      fun _ _ _ _ _ _ _ _ hseated hafter hmoved hbefore => ⟨hbefore.1.moved hmoved,
        fun hstays => (hbefore.2 (List.pairwise_append.mp hstays).1).moved hseated hafter hmoved
          hstays⟩
    exact (hstage hstays).of_done hseated hcast hfirst hdone

def sampleMovesTogether : List Move :=
  .begin (.exchange sampleCode) :: List.replicate 7 (.proceed 0) ++
    .begin (.exchange sampleCode) :: .proceed 1 ::
      (List.replicate 5 (.proceed 0) ++ List.replicate 4 (.proceed 1))

theorem single_flight_in_sample :
    let past := moments sampleClient (.start sampleState) sampleMovesTogether
    ∃ run, Reaches sampleClient sampleState past run ∧ (begun past).length = 2 ∧
      (∀ n < 2, (value? run n).isSome) ∧ asks sampleCode run.state.sent = 1 ∧
      ∀ (n : Nat) result, (begun past)[n]? = some (.exchange sampleCode) →
        run.tasks[n]? = some (.ready (.done result)) → result = .ok "e" := by
  have hruns : ∃ run ∈ (Interleaved.start sampleState).run?
      (sampleMovesTogether.map (Move.step sampleClient)),
      value? run 0 = some "e" ∧ ∀ n < 2, (value? run n).isSome := by
    decide +kernel
  obtain ⟨run, hrun, hvalue, hdone⟩ := hruns
  have h : Reaches sampleClient sampleState _ run := reaches_moments hrun
  have hpast : (begun (moments sampleClient (.start sampleState) sampleMovesTogether)).length = 2 ∧
      firstEntrance? sampleCode
        (moments sampleClient (.start sampleState) sampleMovesTogether) = some 0 ∧
      StaysExchanged sampleCode
        (moments sampleClient (.start sampleState) sampleMovesTogether) := by
    decide +kernel
  obtain ⟨hlength, hfirst, hstays⟩ := hpast
  exact ⟨run, h, hlength, hdone, ((single_flight sampleClient sampleState).2 _ run h).2.2
    sampleCode 0 "e" rfl hfirst (value?_eq_some.mp hvalue) hstays⟩

end SignOn.Service
