import SignOn.Proofs.Cache.Steps

/-!
# How codes pass from phase to phase

A code comes to be exchanged by being put, and redeemed by being taken.  It falls back to its
initial phase when its time is up, when it is invalidated, or when another code needs its place.
Nothing else changes the phase of a code, and one step needs the place of at most one.
-/

namespace SignOn.Cache.Timed

variable {timed before : Timed} {s : Step} {code : Text} {ticks : Ticks}

/-! ## What is true of every cache that is reached -/

/-- An identity and a marker do not go together, and there is neither without a time to live. -/
structure IsCoherent (lifetime : Ticks) (identity : Option (Entry Identity))
    (marker : Option (Entry Unit)) : Prop where
  exclusive : identity = none ∨ marker = none
  lasting : identity.isSome ∨ marker.isSome → 0 < lifetime

structure IsSound (timed : Timed) : Prop where
  uniform : timed.cache.IsUniform
  coherent : ∀ code,
    IsCoherent timed.cache.identities.lifetime (timed.identity? code) (timed.marker? code)

theorem IsCoherent.fewer {lifetime : Ticks} {identity fewer : Option (Entry Identity)}
    {marker fewerMarker : Option (Entry Unit)} (h : IsCoherent lifetime identity marker)
    (hidentity : ∀ entry, fewer = some entry → identity = some entry)
    (hmarker : ∀ entry, fewerMarker = some entry → marker = some entry) :
    IsCoherent lifetime fewer fewerMarker where
  exclusive := by
    refine h.exclusive.imp (fun hnone => ?_) fun hnone => ?_
    · exact Option.eq_none_iff_forall_ne_some.mpr fun entry hentry => by
        simp [hidentity entry hentry] at hnone
    · exact Option.eq_none_iff_forall_ne_some.mpr fun entry hentry => by
        simp [hmarker entry hentry] at hnone
  lasting hlive := by
    refine h.lasting (hlive.imp (fun hsome => ?_) fun hsome => ?_)
    · obtain ⟨entry, hentry⟩ := Option.isSome_iff_exists.mp hsome
      simp [hidentity entry hentry]
    · obtain ⟨entry, hentry⟩ := Option.isSome_iff_exists.mp hsome
      simp [hmarker entry hentry]

theorem isSound_start {capacity : Nat} (h : 1 ≤ capacity) (lifetime : Ticks) :
    (start (empty capacity lifetime)).IsSound :=
  ⟨isUniform_empty h lifetime, fun _ => ⟨.inl rfl, by rintro (h | h) <;> contradiction⟩⟩

theorem IsSound.pass (h : timed.IsSound) (hticks : 0 ≤ ticks) : (timed.pass ticks).IsSound :=
  ⟨h.uniform, fun code => (h.coherent code).fewer (fun _ => identity?_of_pass hticks)
    fun _ => marker?_of_pass hticks⟩

theorem IsSound.coherent_put (h : timed.IsSound) (code : Text) (identity : Identity) :
    IsCoherent timed.cache.identities.lifetime
      ((timed.step (.put code identity)).2.identity? code)
      ((timed.step (.put code identity)).2.marker? code) := by
  rw [identity?_put timed code identity h.uniform.room, marker?_put]
  refine ⟨.inr rfl, fun hlive => ?_⟩
  split at hlive
  next hlifetime => exact hlifetime
  next => simp at hlive

theorem IsSound.coherent_taken (h : timed.IsSound) (code : Text) :
    IsCoherent timed.cache.identities.lifetime ((timed.taken code).identity? code)
      ((timed.taken code).marker? code) := by
  have hroom : timed.cache.markers.capacity ≠ 0 := h.uniform.capacity ▸ h.uniform.room
  rw [identity?_taken, marker?_taken timed code hroom, h.uniform.lifetime]
  refine ⟨.inl rfl, fun hlive => ?_⟩
  split at hlive
  next hlifetime => exact hlifetime
  next => simp at hlive

theorem IsSound.coherent_of_eq (h : timed.IsSound) (hs : s.IsForward)
    (hcode : s.code? = some code) :
    IsCoherent timed.cache.identities.lifetime ((timed.step s).2.identity? code)
      ((timed.step s).2.marker? code) := by
  have hnow := h.coherent code
  cases s with
  | put other identity =>
      obtain rfl : other = code := Option.some.inj hcode
      exact h.coherent_put other identity
  | get other =>
      rw [identity?_get]
      exact hnow
  | invalidate other =>
      obtain rfl : other = code := Option.some.inj hcode
      rw [identity?_invalidate]
      exact hnow.fewer nofun fun _ hmarker => hmarker
  | phase other => exact hnow
  | take other delay =>
      obtain rfl : other = code := Option.some.inj hcode
      have hlater := h.pass hs
      rcases timed.take_cases other delay with ⟨fault, -, hstep⟩ | ⟨entry, -, -, hstep⟩
      · rw [hstep]
        exact hlater.coherent other
      · rw [hstep]
        exact hlater.coherent_taken other
  | advance ticks => contradiction

theorem IsSound.step (h : timed.IsSound) (hs : s.IsForward) : (timed.step s).2.IsSound := by
  refine ⟨isUniform_step h.uniform s, fun code => ?_⟩
  have hlifetime : (timed.step s).2.cache.identities.lifetime =
      timed.cache.identities.lifetime := congrArg (·.1.2) (shape_step timed s)
  rw [hlifetime]
  by_cases hcode : s.code? = some code
  · exact h.coherent_of_eq hs hcode
  · refine ((h.pass (Step.ticks_nonneg hs)).coherent code).fewer (fun entry hentry => ?_)
      fun entry hentry => ?_
    · rcases identity?_step_of_ne hcode with hsame | ⟨hgone, -⟩
      · rwa [hsame] at hentry
      · simp [hgone] at hentry
    · rcases marker?_step_of_ne hcode with hsame | ⟨hgone, -⟩
      · rwa [hsame] at hentry
      · simp [hgone] at hentry

theorem IsSound.run (h : timed.IsSound) {steps : List Step} (hsteps : ∀ s ∈ steps, s.IsForward) :
    (timed.run steps).2.IsSound :=
  holds_run (fun _ _ => IsSound.step) h hsteps

/-! ## Passages -/

def deadline? (timed : Timed) (code : Text) : Option Ticks :=
  ((timed.identity? code).map (·.deadline)).or ((timed.marker? code).map (·.deadline))

inductive Passes (before : Timed) (s : Step) (code : Text) : Phase → Phase → Prop
  | stored (phase : Phase) (identity : Identity) (h : s = .put code identity) :
      Passes before s code phase .exchanged
  | taken (delay : Ticks) (identity : Identity) (h : s = .take code delay)
      (hresult : (before.step s).1 = .identity (some identity)) :
      Passes before s code .exchanged .redeemed
  | expired (phase : Phase) (deadline : Ticks) (h : before.deadline? code = some deadline)
      (hlive : before.clock < deadline) (hreached : deadline ≤ before.clock + s.ticks) :
      Passes before s code phase .initiated
  | invalidated (h : s = .invalidate code) : Passes before s code .exchanged .initiated
  | displaced (other : Text) (identity : Identity) (hother : other ≠ code)
      (h : s = .put other identity) : Passes before s code .exchanged .initiated
  | crowdedOut (other : Text) (delay : Ticks) (identity : Identity) (hother : other ≠ code)
      (h : s = .take other delay) (hresult : (before.step s).1 = .identity (some identity)) :
      Passes before s code .redeemed .initiated

theorem isLive_of_identity? {entry : Entry Identity} (h : timed.identity? code = some entry) :
    timed.clock < entry.deadline :=
  of_decide_eq_true (Option.filter_eq_some_iff.mp h).2

theorem isLive_of_marker? {entry : Entry Unit} (h : timed.marker? code = some entry) :
    timed.clock < entry.deadline :=
  of_decide_eq_true (Option.filter_eq_some_iff.mp h).2

theorem IsSound.phase_pass (h : timed.IsSound) (hticks : 0 ≤ ticks) (code : Text) :
    (timed.pass ticks).phase code = timed.phase code ∨
      (timed.pass ticks).phase code = .initiated ∧
        ∃ deadline, timed.deadline? code = some deadline ∧ timed.clock < deadline ∧
          deadline ≤ timed.clock + ticks := by
  have hexclusive := (h.coherent code).exclusive
  rw [phase_eq, phase_eq, identity?_pass timed hticks, marker?_pass timed hticks, deadline?]
  cases hidentity : timed.identity? code with
  | some entry =>
      have hmarker : timed.marker? code = none := by simpa [hidentity] using hexclusive
      have hlive := isLive_of_identity? hidentity
      by_cases hstill : timed.clock + ticks < entry.deadline
      · simp [Option.filter_some, Entry.isLive, hstill]
      · exact .inr (by
          simpa [Option.filter_some, Entry.isLive, hstill, hmarker, hlive] using
            Int.not_lt.mp hstill)
  | none =>
      cases hmarker : timed.marker? code with
      | none => simp
      | some entry =>
          have hlive := isLive_of_marker? hmarker
          by_cases hstill : timed.clock + ticks < entry.deadline
          · simp [Option.filter_some, Entry.isLive, hstill]
          · exact .inr (by
              simpa [Option.filter_some, Entry.isLive, hstill, hlive] using Int.not_lt.mp hstill)

/-- A step leaves a code in its phase, or takes it to another in one of these ways. -/
def KeepsOrder (before : Timed) (s : Step) (code : Text) : Prop :=
  (before.step s).2.phase code = before.phase code ∨
    before.Passes s code (before.phase code) ((before.step s).2.phase code)

/-! ## Codes that a step is not about -/

theorem IsSound.keepsOrder_of_pass (h : before.IsSound) (hs : s.IsForward)
    (hidentity : (before.step s).2.identity? code = (before.pass s.ticks).identity? code)
    (hmarker : (before.step s).2.marker? code = (before.pass s.ticks).marker? code) :
    before.KeepsOrder s code := by
  have hphase : (before.step s).2.phase code = (before.pass s.ticks).phase code := by
    rw [phase_eq, phase_eq, hidentity, hmarker]
  rw [KeepsOrder, hphase]
  refine (h.phase_pass (Step.ticks_nonneg hs) code).imp_right ?_
  rintro ⟨hinitiated, deadline, hdeadline, hlive, hreached⟩
  rw [hinitiated]
  exact .expired _ deadline hdeadline hlive hreached

theorem IsSound.keepsOrder_of_displaced (h : before.IsSound) {other : Text} {identity : Identity}
    (hother : other ≠ code) (hgone : (before.step (.put other identity)).2.identity? code = none) :
    before.KeepsOrder (.put other identity) code := by
  have hmarker : (before.step (.put other identity)).2.marker? code = before.marker? code :=
    (before.cache.markers.live?_remove before.clock other code).trans (if_neg (Ne.symm hother))
  rw [KeepsOrder, phase_eq, phase_eq, hgone, hmarker]
  cases hidentity : before.identity? code with
  | none => exact .inl rfl
  | some entry =>
      have hnone : before.marker? code = none := by
        simpa [hidentity] using (h.coherent code).exclusive
      rw [hnone]
      exact .inr (.displaced other identity hother rfl)

theorem IsSound.keepsOrder_of_crowdedOut (h : before.IsSound) {other : Text} {delay : Ticks}
    {identity : Identity} (hdelay : 0 ≤ delay) (hother : other ≠ code)
    (hresult : (before.step (.take other delay)).1 = .identity (some identity))
    (hidentity : (before.step (.take other delay)).2.identity? code =
      (before.pass delay).identity? code)
    (hgone : (before.step (.take other delay)).2.marker? code = none) :
    before.KeepsOrder (.take other delay) code := by
  cases hlater : (before.pass delay).marker? code with
  | none => exact h.keepsOrder_of_pass hdelay hidentity (hgone.trans hlater.symm)
  | some entry =>
      have hmarker := marker?_of_pass hdelay hlater
      have hnone : before.identity? code = none := by
        simpa [hmarker] using (h.coherent code).exclusive
      have hnever : (before.pass delay).identity? code = none := by
        rw [identity?_pass before hdelay, hnone, Option.filter_none]
      rw [KeepsOrder, phase_eq, phase_eq, hidentity, hnever, hgone, hnone, hmarker]
      exact .inr (.crowdedOut other delay identity hother rfl hresult)

theorem IsSound.keepsOrder_of_ne (h : before.IsSound) (hs : s.IsForward)
    (hcode : s.code? ≠ some code) : before.KeepsOrder s code := by
  rcases identity?_step_of_ne hcode with hidentity | ⟨hgone, other, identity, hother, hput, -⟩
  · rcases marker?_step_of_ne hcode with
      hmarker | ⟨hgone, other, delay, identity, hother, htake, hresult, -⟩
    · exact h.keepsOrder_of_pass hs hidentity hmarker
    · subst htake
      exact h.keepsOrder_of_crowdedOut hs hother hresult hidentity hgone
  · subst hput
    exact h.keepsOrder_of_displaced hother hgone

/-! ## The code that a step is about -/

theorem IsSound.phase_put (h : before.IsSound) (code : Text) (identity : Identity) :
    (before.step (.put code identity)).2.phase code =
      if 0 < before.cache.identities.lifetime then .exchanged else .initiated := by
  rw [phase_eq, identity?_put before code identity h.uniform.room, marker?_put]
  split <;> rfl

theorem IsSound.phase_taken (h : before.IsSound) {code : Text} {entry : Entry Identity}
    (hlive : before.identity? code = some entry) : (before.taken code).phase code = .redeemed := by
  have hroom : before.cache.markers.capacity ≠ 0 := h.uniform.capacity ▸ h.uniform.room
  have hlifetime := (h.coherent code).lasting (.inl (by rw [hlive]; rfl))
  rw [phase_eq, identity?_taken, marker?_taken before code hroom, h.uniform.lifetime,
    if_pos hlifetime]
  rfl

theorem IsSound.phase_take (h : before.IsSound) {code : Text} {delay : Ticks} (hdelay : 0 ≤ delay)
    (hphase : before.phase code = .exchanged) :
    (∃ identity, (before.step (.take code delay)).1 = .identity (some identity) ∧
      (before.step (.take code delay)).2.phase code = .redeemed) ∨
    (before.step (.take code delay)).1 = .refused .notExchanged ∧
      (before.step (.take code delay)).2.phase code = .initiated := by
  have hlater := h.pass hdelay
  rcases before.take_cases code delay with ⟨fault, hfault, hstep⟩ | ⟨entry, -, hentry, hstep⟩
  · rw [hstep]
    cases hfault with
    | redeemed hother => simp [hphase] at hother
    | initiated hother => simp [hphase] at hother
    | lapsed _ hgone =>
        rcases h.phase_pass hdelay code with hsame | ⟨hinitiated, -⟩
        · rw [hphase, phase_eq_exchanged_iff, hgone] at hsame
          contradiction
        · exact .inr ⟨rfl, hinitiated⟩
  · rw [hstep]
    exact .inl ⟨entry.value, rfl, hlater.phase_taken hentry⟩

theorem IsSound.keepsOrder_of_eq (h : before.IsSound) (hs : s.IsForward)
    (hcode : s.code? = some code) : before.KeepsOrder s code := by
  cases s with
  | put other identity =>
      obtain rfl : other = code := Option.some.inj hcode
      rw [KeepsOrder, h.phase_put]
      by_cases hlifetime : 0 < before.cache.identities.lifetime
      · rw [if_pos hlifetime]
        exact .inr (.stored _ identity rfl)
      · have hnone := mt (h.coherent other).lasting hlifetime
        have hphase : before.phase other = .initiated := by
          rw [phase_eq, if_neg fun hsome => hnone (.inl hsome),
            if_neg fun hsome => hnone (.inr hsome)]
        rw [if_neg hlifetime, hphase]
        exact .inl rfl
  | get other =>
      left
      rw [phase_eq, phase_eq, identity?_get, marker?_get]
  | invalidate other =>
      obtain rfl : other = code := Option.some.inj hcode
      rw [KeepsOrder, phase_eq, phase_eq, identity?_invalidate, marker?_invalidate]
      cases hidentity : before.identity? other with
      | none => exact .inl rfl
      | some entry =>
          have hnone : before.marker? other = none := by
            simpa [hidentity] using (h.coherent other).exclusive
          rw [hnone]
          exact .inr (.invalidated rfl)
  | phase other => exact .inl rfl
  | take other delay =>
      obtain rfl : other = code := Option.some.inj hcode
      rcases before.take_cases other delay with ⟨fault, -, hstep⟩ | ⟨entry, hphase, hentry, hstep⟩
      · refine h.keepsOrder_of_pass hs ?_ ?_ <;> rw [hstep] <;> rfl
      · have hredeemed : (before.step (.take other delay)).2.phase other = .redeemed := by
          rw [hstep]
          exact (h.pass hs).phase_taken hentry
        rw [KeepsOrder, hphase, hredeemed]
        exact .inr (.taken delay entry.value rfl (by rw [hstep]))
  | advance ticks => contradiction

theorem IsSound.keepsOrder (h : before.IsSound) (hs : s.IsForward) (code : Text) :
    before.KeepsOrder s code := by
  by_cases hcode : s.code? = some code
  · exact h.keepsOrder_of_eq hs hcode
  · exact h.keepsOrder_of_ne hs hcode

/-! ## What one code costs others -/

/-- The identity of a code would be live still, had the step only taken its time. -/
def LosesIdentity (before : Timed) (s : Step) (code : Text) : Prop :=
  ((before.pass s.ticks).identity? code).isSome ∧ (before.step s).2.identity? code = none

def LosesMarker (before : Timed) (s : Step) (code : Text) : Prop :=
  ((before.pass s.ticks).marker? code).isSome ∧ (before.step s).2.marker? code = none

theorem crowded_of_losesIdentity (hcode : s.code? ≠ some code) (h : before.LosesIdentity s code) :
    (∃ other identity, s = .put other identity) ∧
      IsCrowded before.cache.identities before.clock code := by
  obtain ⟨hlive, hgone⟩ := h
  rcases identity?_step_of_ne hcode with hsame | ⟨-, other, identity, -, hput, -, hcrowded⟩
  · rw [← hsame, hgone] at hlive
    contradiction
  · exact ⟨⟨other, identity, hput⟩, hcrowded⟩

theorem crowded_of_losesMarker (hcode : s.code? ≠ some code) (h : before.LosesMarker s code) :
    (∃ other delay, s = .take other delay) ∧
      IsCrowded before.cache.markers (before.clock + s.ticks) code := by
  obtain ⟨hlive, hgone⟩ := h
  rcases marker?_step_of_ne hcode with hsame | ⟨-, other, delay, -, -, htake, -, -, -, hcrowded⟩
  · rw [← hsame, hgone] at hlive
    contradiction
  · subst htake
    exact ⟨⟨other, delay, rfl⟩, hcrowded⟩

/-- What a step of a cache can do to the phases of codes. -/
structure IsLawful (before : Timed) (s : Step) : Prop where
  exclusive : ∀ code, ¬ ((before.identity? code).isSome ∧ (before.marker? code).isSome)
  keepsOrder : ∀ code, before.KeepsOrder s code
  stores : ∀ code identity, s = .put code identity → 0 < before.cache.identities.lifetime →
    (before.step s).2.phase code = .exchanged
  takes : ∀ code delay, s = .take code delay → before.phase code = .exchanged →
    (∃ identity, (before.step s).1 = .identity (some identity) ∧
      (before.step s).2.phase code = .redeemed) ∨
    (before.step s).1 = .refused .notExchanged ∧ (before.step s).2.phase code = .initiated
  displacesOne : ∀ code identity, s = .put code identity → ∀ other another,
    other ≠ code → another ≠ code → before.LosesIdentity s other →
      before.LosesIdentity s another → other = another
  keepsMarkers : ∀ code identity, s = .put code identity → ∀ other, other ≠ code →
    ¬ before.LosesMarker s other
  crowdsOutOne : ∀ code delay, s = .take code delay → ∀ other another,
    other ≠ code → another ≠ code → before.LosesMarker s other →
      before.LosesMarker s another → other = another
  keepsIdentities : ∀ code delay, s = .take code delay → ∀ other, other ≠ code →
    ¬ before.LosesIdentity s other
  looks : ∀ code, s = .get code ∨ s = .phase code → ∀ other,
    (before.step s).2.phase other = before.phase other

theorem code?_ne {other : Text} (h : s.code? = some code) (hother : other ≠ code) :
    s.code? ≠ some other := fun heq => hother (Option.some.inj (heq.symm.trans h))

theorem IsSound.isLawful (h : before.IsSound) (hs : s.IsForward) : before.IsLawful s where
  exclusive code := by
    rintro ⟨hidentity, hmarker⟩
    rcases (h.coherent code).exclusive with hnone | hnone
    · simp [hnone] at hidentity
    · simp [hnone] at hmarker
  keepsOrder := h.keepsOrder hs
  stores code identity hput hlifetime := by
    rw [hput, h.phase_put, if_pos hlifetime]
  takes code delay htake hphase := by
    subst htake
    exact h.phase_take hs hphase
  displacesOne code identity hput other another hother hanother hlost hlostToo := by
    have hcode : s.code? = some code := by rw [hput]; rfl
    exact (crowded_of_losesIdentity (code?_ne hcode hother) hlost).2.eq
      (crowded_of_losesIdentity (code?_ne hcode hanother) hlostToo).2
  keepsMarkers code identity hput other hother hlost := by
    have hcode : s.code? = some code := by rw [hput]; rfl
    obtain ⟨⟨_, _, htake⟩, -⟩ := crowded_of_losesMarker (code?_ne hcode hother) hlost
    rw [hput] at htake
    contradiction
  crowdsOutOne code delay htake other another hother hanother hlost hlostToo := by
    have hcode : s.code? = some code := by rw [htake]; rfl
    exact (crowded_of_losesMarker (code?_ne hcode hother) hlost).2.eq
      (crowded_of_losesMarker (code?_ne hcode hanother) hlostToo).2
  keepsIdentities code delay htake other hother hlost := by
    have hcode : s.code? = some code := by rw [htake]; rfl
    obtain ⟨⟨_, _, hput⟩, -⟩ := crowded_of_losesIdentity (code?_ne hcode hother) hlost
    rw [htake] at hput
    contradiction
  looks code hlooks other := by
    rcases hlooks with rfl | rfl
    · rw [phase_eq, phase_eq, identity?_get, marker?_get]
    · rfl

/-- Whatever steps a cache of any capacity but zero has taken, the next one is lawful. -/
theorem isLawful_after_run (capacity : Nat) (lifetime : Ticks) (hcapacity : 1 ≤ capacity)
    (steps : List Step) (hsteps : ∀ s ∈ steps, s.IsForward) (s : Step) (hs : s.IsForward) :
    ((start (empty capacity lifetime)).run steps).2.IsLawful s :=
  ((isSound_start hcapacity lifetime).run hsteps).isLawful hs

/-- One place, which the code that is put last takes from another one. -/
theorem isLawful_in_one_place :
    let steps : List Step := [.put ['a'] ⟨['n'], ['r'], ['e']⟩, .take ['a'] 0,
      .put ['b'] ⟨['m'], ['s'], ['f']⟩]
    let before := ((start (empty 1 5)).run steps).2
    let s : Step := .put ['c'] ⟨['o'], ['t'], ['g']⟩
    (1 ≤ 1 ∧ (∀ s ∈ steps, s.IsForward) ∧ s.IsForward) ∧ before.IsLawful s ∧
      before.phase ['a'] = .redeemed ∧ (before.step s).2.phase ['a'] = .redeemed ∧
      before.phase ['b'] = .exchanged ∧ (before.step s).2.phase ['b'] = .initiated := by
  intro steps before s
  have hsteps : ∀ s ∈ steps, s.IsForward := by decide
  have hlawful := isLawful_after_run 1 5 (by decide) steps hsteps s trivial
  exact ⟨⟨by decide, hsteps, trivial⟩, hlawful, by decide, by decide, by decide, by decide⟩

end SignOn.Cache.Timed
