import SignOn.Proofs.Cache.Separation

/-!
# A code is taken whole or not at all

Taking a code checks its phase first and removes its identity later, and its time can run out in
between.  Either the identity of the last put is given and a marker left in its place, or nothing
happens but that time passes.  So a code that is taken twice was put in between.
-/

namespace SignOn.Cache.Timed

variable {origin timed before : Timed} {steps early mid : List Step} {code : Text}
  {entry : Entry Identity} {ticks delay : Ticks}

/-- The identity that a code is put with for the last time, and the clock then. -/
def LastPut (origin : Timed) (steps : List Step) (code : Text) (identity : Identity)
    (clock : Ticks) : Prop :=
  ∃ early late, steps = early ++ .put code identity :: late ∧
    (origin.run early).2.clock = clock ∧ ∀ s ∈ late, s.stored? ≠ some code

theorem LastPut.concat {identity : Identity} {clock : Ticks} {s : Step}
    (h : origin.LastPut steps code identity clock) (hs : s.stored? ≠ some code) :
    origin.LastPut (steps ++ [s]) code identity clock := by
  obtain ⟨early, late, rfl, hclock, hlate⟩ := h
  refine ⟨early, late ++ [s], by simp, hclock, fun other hother => ?_⟩
  rcases List.mem_append.mp hother with hold | hnew
  · exact hlate other hold
  · rw [List.mem_singleton.mp hnew]
    exact hs

theorem capacity_ne_zero_of_identity? (h : timed.identity? code = some entry) :
    timed.cache.identities.capacity ≠ 0 := by
  have hfind := (Option.filter_eq_some_iff.mp h).1
  have hpos := List.length_pos_of_mem (Shelf.mem_of_find? hfind)
  have hbounded := timed.cache.identities.bounded
  omega

theorem eq_of_identity?_put {identity : Identity}
    (h : (timed.step (.put code identity)).2.identity? code = some entry) :
    entry = ⟨code, identity, timed.clock + timed.cache.identities.lifetime⟩ := by
  have hsame : (timed.step (.put code identity)).2.cache.identities.capacity =
      timed.cache.identities.capacity := congrArg (·.1.1) (shape_step timed _)
  have hcapacity : timed.cache.identities.capacity ≠ 0 :=
    hsame ▸ capacity_ne_zero_of_identity? h
  rw [identity?_put timed code identity hcapacity] at h
  split at h
  · exact (Option.some.inj h).symm
  · contradiction

theorem eq_put_of_stored? {s : Step} (h : s.stored? = some code) :
    ∃ identity, s = .put code identity := by
  cases s with
  | put other identity =>
      obtain rfl : other = code := Option.some.inj h
      exact ⟨identity, rfl⟩
  | _ => contradiction

theorem identity?_of_step_of_ne {s : Step} (hforward : s.IsForward) (hs : s.stored? ≠ some code)
    (h : (timed.step s).2.identity? code = some entry) : timed.identity? code = some entry := by
  rcases identity?_of_step h with hold | ⟨identity, rfl⟩
  · exact identity?_of_pass (Step.ticks_nonneg hforward) hold
  · exact absurd rfl hs

theorem identity?_of_run (hsteps : ∀ s ∈ steps, s.IsForward)
    (hnot : ∀ s ∈ steps, s.stored? ≠ some code)
    (h : (timed.run steps).2.identity? code = some entry) : timed.identity? code = some entry := by
  induction steps generalizing timed with
  | nil => exact h
  | cons s rest ih =>
      obtain ⟨hs, hrest⟩ := List.forall_mem_cons.mp hsteps
      obtain ⟨hne, hother⟩ := List.forall_mem_cons.mp hnot
      exact identity?_of_step_of_ne hs hne (ih hrest hother h)

theorem identity?_run_eq_none (hsteps : ∀ s ∈ steps, s.IsForward)
    (hnot : ∀ s ∈ steps, s.stored? ≠ some code) (h : timed.identity? code = none) :
    (timed.run steps).2.identity? code = none := by
  refine Option.eq_none_iff_forall_ne_some.mpr fun entry hentry => ?_
  cases h.symm.trans (identity?_of_run hsteps hnot hentry)

/-- The induction goes from the end of the steps: the last one is the put that is asked for, or
leaves the entry as it found it. -/
theorem exists_lastPut (hsteps : ∀ s ∈ steps, s.IsForward) (hstart : origin.identity? code = none)
    (h : (origin.run steps).2.identity? code = some entry) :
    ∃ clock, origin.LastPut steps code entry.value clock ∧
      entry.deadline = clock + origin.cache.identities.lifetime ∧
      0 < origin.cache.identities.lifetime := by
  induction steps using List.reverseRecOn with
  | nil =>
      cases hstart.symm.trans h
  | append_singleton steps s ih =>
      have hforward := List.forall_mem_append.mp hsteps
      rw [snd_run_concat] at h
      by_cases hs : s.stored? = some code
      · obtain ⟨identity, rfl⟩ := eq_put_of_stored? hs
        have hlifetime : (origin.run steps).2.cache.identities.lifetime =
            origin.cache.identities.lifetime := congrArg (·.1.2) (shape_run origin steps)
        obtain rfl := eq_of_identity?_put h
        have hlive : (origin.run steps).2.clock <
            (origin.run steps).2.clock + (origin.run steps).2.cache.identities.lifetime :=
          of_decide_eq_true (Option.filter_eq_some_iff.mp h).2
        rw [hlifetime] at hlive ⊢
        have hpos : 0 < origin.cache.identities.lifetime :=
          Int.lt_of_add_lt_add_left (by rwa [Int.add_zero])
        exact ⟨_, ⟨steps, [], rfl, rfl, by simp⟩, rfl, hpos⟩
      · obtain ⟨clock, hput, hdeadline⟩ :=
          ih hforward.1 (identity?_of_step_of_ne (hforward.2 s (by simp)) hs h)
        exact ⟨clock, hput.concat hs, hdeadline⟩

def Gives (timed : Timed) (code : Text) (delay : Ticks) : Prop :=
  ∃ identity, (timed.step (.take code delay)).1 = .identity (some identity)

/-- What taking a code comes to: an identity that outlasts the delay is given, and a marker takes
its place; otherwise only time passes. -/
structure TakesWhole (before : Timed) (lifetime : Ticks) (code : Text) (delay : Ticks) : Prop where
  given_iff : ∀ identity, (before.step (.take code delay)).1 = .identity (some identity) ↔
    before.phase code = .exchanged ∧ ∃ entry, before.identity? code = some entry ∧
      before.clock + delay < entry.deadline ∧ entry.value = identity
  marked : before.Gives code delay →
    (before.step (.take code delay)).2.identity? code = none ∧
      (before.step (.take code delay)).2.marker? code =
        some ⟨code, (), before.clock + delay + lifetime⟩
  refused : ¬before.Gives code delay →
    (before.step (.take code delay)).1 = .refused
        (if before.phase code = .redeemed then .alreadyRedeemed else .notExchanged) ∧
      (before.step (.take code delay)).2 = (before.step (.advance delay)).2

theorem identity?_pass_eq_some_iff (hticks : 0 ≤ ticks) :
    (timed.pass ticks).identity? code = some entry ↔
      timed.identity? code = some entry ∧ timed.clock + ticks < entry.deadline := by
  rw [identity?_pass timed hticks, Option.filter_eq_some_iff, Entry.isLive, decide_eq_true_eq]

theorem take_eq_identity_iff (hdelay : 0 ≤ delay) (identity : Identity) :
    (timed.step (.take code delay)).1 = .identity (some identity) ↔
      timed.phase code = .exchanged ∧ ∃ entry, timed.identity? code = some entry ∧
        timed.clock + delay < entry.deadline ∧ entry.value = identity := by
  rcases timed.take_cases code delay with ⟨fault, hfault, hstep⟩ | ⟨entry, hphase, hentry, hstep⟩
  · rw [hstep]
    refine iff_of_false nofun ?_
    rintro ⟨hphase, entry, hentry, hlive, -⟩
    cases hfault with
    | redeemed hother => simp [hphase] at hother
    | initiated hother => simp [hphase] at hother
    | lapsed _ hgone =>
        have hstill := (identity?_pass_eq_some_iff hdelay).mpr ⟨hentry, hlive⟩
        rw [hgone] at hstill
        contradiction
  · obtain ⟨hnow, hlive⟩ := (identity?_pass_eq_some_iff hdelay).mp hentry
    rw [hstep]
    constructor
    · rintro ⟨⟩
      exact ⟨hphase, entry, hnow, hlive, rfl⟩
    · rintro ⟨-, other, hother, -, rfl⟩
      obtain rfl := Option.some.inj (hnow.symm.trans hother)
      rfl

theorem takesWhole (hshape : before.cache.shape.1 = before.cache.shape.2)
    (hlasting : ∀ entry, before.identity? code = some entry →
      0 < before.cache.identities.lifetime)
    (hdelay : 0 ≤ delay) :
    before.TakesWhole before.cache.identities.lifetime code delay where
  given_iff := take_eq_identity_iff hdelay
  marked := by
    rintro ⟨identity, hgiven⟩
    rcases before.take_cases code delay with ⟨fault, -, hstep⟩ | ⟨entry, -, hentry, hstep⟩
    · rw [hstep] at hgiven
      contradiction
    · have hnow := identity?_of_pass hdelay hentry
      have hcapacity : before.cache.identities.capacity = before.cache.markers.capacity :=
        congrArg Prod.fst hshape
      have hroom : before.cache.markers.capacity ≠ 0 :=
        hcapacity ▸ capacity_ne_zero_of_identity? hnow
      have hlifetime : before.cache.identities.lifetime = before.cache.markers.lifetime :=
        congrArg Prod.snd hshape
      rw [hstep, identity?_taken, marker?_taken (before.pass delay) code hroom, hlifetime]
      exact ⟨rfl, if_pos (hlifetime ▸ hlasting entry hnow)⟩
  refused hnot := by
    rcases before.take_cases code delay with ⟨fault, hfault, hstep⟩ | ⟨entry, -, -, hstep⟩
    · rw [hstep]
      refine ⟨congrArg Result.refused ?_, rfl⟩
      cases hfault with
      | redeemed hphase => rw [if_pos hphase]
      | initiated hphase => simp [hphase]
      | lapsed hphase _ => simp [hphase]
    · exact absurd ⟨entry.value, by rw [hstep]⟩ hnot

theorem identity?_of_gives (h : timed.Gives code delay) :
    (timed.step (.take code delay)).2.identity? code = none := by
  obtain ⟨identity, hgiven⟩ := h
  rcases timed.take_cases code delay with ⟨fault, -, hstep⟩ | ⟨entry, -, -, hstep⟩
  · rw [hstep] at hgiven
    contradiction
  · rw [hstep, identity?_taken]

theorem exists_put_of_gives_again {first second : Ticks} (hmid : ∀ s ∈ mid, s.IsForward)
    (hsecond : 0 ≤ second) (hfirst : timed.Gives code first)
    (hagain : ((timed.step (.take code first)).2.run mid).2.Gives code second) :
    ∃ identity, Step.put code identity ∈ mid := by
  by_contra hnone
  have hnot : ∀ s ∈ mid, s.stored? ≠ some code := by
    intro s hs hstored
    obtain ⟨identity, rfl⟩ := eq_put_of_stored? hstored
    exact hnone ⟨identity, hs⟩
  have hgone := identity?_run_eq_none hmid hnot (identity?_of_gives hfirst)
  obtain ⟨identity, hgiven⟩ := hagain
  obtain ⟨hphase, -⟩ := (take_eq_identity_iff hsecond identity).mp hgiven
  rw [phase_eq_exchanged_iff, hgone] at hphase
  contradiction

/-- Whatever steps a cache has taken, a code is taken whole or not at all: the identity of its last
put is given if that is there at the check and its time is not up at the removal.  Of two times that
a code is given, there is a put in between. -/
theorem taken_whole_after_run (capacity : Nat) (lifetime : Ticks) (steps : List Step)
    (hsteps : ∀ s ∈ steps, s.IsForward) (code : Text) (delay : Ticks) (hdelay : 0 ≤ delay) :
    let origin := start (empty capacity lifetime)
    let before := (origin.run steps).2
    before.TakesWhole lifetime code delay ∧
    (∀ entry, before.identity? code = some entry →
      ∃ clock, origin.LastPut steps code entry.value clock ∧
        entry.deadline = clock + lifetime) ∧
    ∀ early mid late first second,
      steps = early ++ .take code first :: (mid ++ .take code second :: late) →
      (origin.run early).2.Gives code first →
      (origin.run (early ++ .take code first :: mid)).2.Gives code second →
      ∃ identity, Step.put code identity ∈ mid := by
  intro origin before
  have hshape : before.cache.shape = origin.cache.shape := shape_run origin steps
  have hlifetime : before.cache.identities.lifetime = lifetime := congrArg (·.1.2) hshape
  have hput : ∀ entry, before.identity? code = some entry →
      ∃ clock, origin.LastPut steps code entry.value clock ∧ entry.deadline = clock + lifetime ∧
        0 < lifetime := fun entry => exists_lastPut hsteps rfl
  refine ⟨?_, fun entry hentry => ?_, ?_⟩
  · have hlasting : ∀ entry, before.identity? code = some entry →
        0 < before.cache.identities.lifetime := by
      intro entry hentry
      obtain ⟨-, -, -, hpos⟩ := hput entry hentry
      rwa [hlifetime]
    exact hlifetime ▸ takesWhole (by rw [hshape]; rfl) hlasting hdelay
  · obtain ⟨clock, hlast, hdeadline, -⟩ := hput entry hentry
    exact ⟨clock, hlast, hdeadline⟩
  · intro early mid late first second hsplit hfirst hagain
    have hmid : ∀ s ∈ mid, s.IsForward := fun s hs => hsteps s (by simp [hsplit, hs])
    have hsecond : (Step.take code second).IsForward := hsteps _ (by simp [hsplit])
    rw [snd_run_append] at hagain
    exact exists_put_of_gives_again hmid hsecond hfirst hagain

/-- A code that is taken, put anew, and taken again: in time, and one tick too late. -/
theorem taken_whole_after_first_take :
    let steps : List Step := [.put ['a'] ⟨['n'], ['r'], ['e']⟩, .take ['a'] 1,
      .put ['a'] ⟨['m'], ['s'], ['f']⟩, .advance 3, .take ['a'] 1]
    let origin := start (empty 1 5)
    let before := (origin.run (steps.take 4)).2
    ((∀ s ∈ steps, s.IsForward) ∧ (0 : Ticks) ≤ 0) ∧
      ((origin.run steps).2.step (.take ['a'] 0)).1 = .refused .alreadyRedeemed ∧
      (∃ identity, Step.put ['a'] identity ∈ (steps.drop 2).take 2) ∧
      before.Gives ['a'] 1 ∧ (before.step (.take ['a'] 2)).1 = .refused .notExchanged := by
  intro steps origin before
  have hsteps : ∀ s ∈ steps, s.IsForward := by decide
  obtain ⟨htakes, -, hput⟩ := taken_whole_after_run 1 5 steps hsteps ['a'] 0 (by decide)
  have hgiven : before.Gives ['a'] 1 := ⟨⟨['m'], ['s'], ['f']⟩, by decide⟩
  have hrefused := (htakes.refused (by rintro ⟨identity, hgives⟩; exact nomatch hgives)).1
  have hbetween := hput [.put ['a'] ⟨['n'], ['r'], ['e']⟩] _ [] 1 1 rfl
    ⟨⟨['n'], ['r'], ['e']⟩, by decide⟩ hgiven
  exact ⟨⟨hsteps, by decide⟩, hrefused, hbetween, hgiven, by decide⟩

end SignOn.Cache.Timed
