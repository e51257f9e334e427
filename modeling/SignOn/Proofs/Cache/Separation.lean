import Mathlib.Data.Finset.Card
import SignOn.Proofs.Cache.Steps

/-!
# Codes do not get in each other's way

While no more codes are put than there is room for, whoever asks about one code is answered as if
nobody asked about any other: only the time that other steps take is left of them.  So steps on
different codes can change places.
-/

namespace SignOn.Cache

def Step.stored? : Step → Option Text
  | .put code _ => some code
  | _ => none

/-- What is left of a step where only one code counts: a step on another code takes its time. -/
def Step.alone? (code : Text) (s : Step) : Option Step :=
  match s.code? with
  | none => some s
  | some other =>
      if other = code then some s
      else if s.ticks = 0 then none
      else some (.advance s.ticks)

def answersTo (code : Text) (steps : List Step) (results : List Result) : List Result :=
  ((steps.zip results).filter fun answered => answered.1.code? = some code).map (·.2)

namespace Timed

variable {timed x y z : Timed} {s : Step} {code : Text} {ticks : Ticks} {codes : Finset Text}

/-! ## Caches that are alike to one code -/

/-- One code has the same live entries in two caches of one clock and one shape. -/
structure Alike (code : Text) (x y : Timed) : Prop where
  clock : x.clock = y.clock
  shape : x.cache.shape = y.cache.shape
  identity : x.identity? code = y.identity? code
  marker : x.marker? code = y.marker? code

theorem Alike.refl (code : Text) (x : Timed) : Alike code x x := ⟨rfl, rfl, rfl, rfl⟩

theorem Alike.symm (h : Alike code x y) : Alike code y x :=
  ⟨h.clock.symm, h.shape.symm, h.identity.symm, h.marker.symm⟩

theorem Alike.trans (h : Alike code x y) (hnext : Alike code y z) : Alike code x z :=
  ⟨h.clock.trans hnext.clock, h.shape.trans hnext.shape, h.identity.trans hnext.identity,
    h.marker.trans hnext.marker⟩

theorem Alike.phase (h : Alike code x y) : x.phase code = y.phase code := by
  rw [phase_eq, phase_eq, h.identity, h.marker]

theorem Alike.pass (h : Alike code x y) (hticks : 0 ≤ ticks) :
    Alike code (x.pass ticks) (y.pass ticks) where
  clock := congrArg (· + ticks) h.clock
  shape := h.shape
  identity := by
    rw [identity?_pass x hticks, identity?_pass y hticks, h.identity, h.clock]
  marker := by
    rw [marker?_pass x hticks, marker?_pass y hticks, h.marker, h.clock]

/-! ## Room for all codes -/

structure Fits (codes : Finset Text) (s : Step) : Prop where
  forward : s.IsForward
  stored : ∀ code, s.stored? = some code → code ∈ codes

structure HasRoom (codes : Finset Text) (timed : Timed) : Prop where
  shape : timed.cache.shape.1 = timed.cache.shape.2
  fits : codes.card ≤ timed.cache.identities.capacity
  identities : ∀ code, (timed.identity? code).isSome → code ∈ codes
  markers : ∀ code, (timed.marker? code).isSome → code ∈ codes

theorem hasRoom_start {capacity : Nat} (lifetime : Ticks) (h : codes.card ≤ capacity) :
    HasRoom codes (start (empty capacity lifetime)) :=
  ⟨rfl, h, nofun, nofun⟩

theorem HasRoom.capacity_ne_zero (h : HasRoom codes timed) (hcode : code ∈ codes) :
    timed.cache.identities.capacity ≠ 0 := by
  have hpos := Finset.card_pos.mpr ⟨code, hcode⟩
  have hfits := h.fits
  omega

theorem HasRoom.marker_capacity (h : HasRoom codes timed) :
    timed.cache.markers.capacity = timed.cache.identities.capacity :=
  (congrArg Prod.fst h.shape).symm

theorem HasRoom.pass (h : HasRoom codes timed) (hticks : 0 ≤ ticks) :
    HasRoom codes (timed.pass ticks) where
  shape := h.shape
  fits := h.fits
  identities code hsome := by
    obtain ⟨entry, hentry⟩ := Option.isSome_iff_exists.mp hsome
    exact h.identities code (Option.isSome_iff_exists.mpr ⟨entry, identity?_of_pass hticks hentry⟩)
  markers code hsome := by
    obtain ⟨entry, hentry⟩ := Option.isSome_iff_exists.mp hsome
    exact h.markers code (Option.isSome_iff_exists.mpr ⟨entry, marker?_of_pass hticks hentry⟩)

theorem HasRoom.step (h : HasRoom codes timed) (hs : Fits codes s) :
    HasRoom codes (timed.step s).2 := by
  have hshape := shape_step timed s
  have hlater := h.pass (Step.ticks_nonneg hs.forward)
  have hcapacity : (timed.step s).2.cache.identities.capacity =
      timed.cache.identities.capacity := congrArg (·.1.1) hshape
  refine ⟨by rw [hshape, h.shape], hcapacity ▸ h.fits, fun code hsome => ?_, fun code hsome => ?_⟩
  · obtain ⟨entry, hentry⟩ := Option.isSome_iff_exists.mp hsome
    rcases identity?_of_step hentry with hold | ⟨identity, rfl⟩
    · exact hlater.identities code (by rw [hold]; rfl)
    · exact hs.stored code rfl
  · obtain ⟨entry, hentry⟩ := Option.isSome_iff_exists.mp hsome
    rcases marker?_of_step hentry with hold | htaken
    · exact hlater.markers code (by rw [hold]; rfl)
    · exact hlater.identities code htaken

theorem length_visible_lt {α : Type} {shelf : Shelf α} {clock : Ticks} {other : Text}
    (hkeys : ∀ key, (shelf.live? clock key).isSome → key ∈ codes) (hother : other ∈ codes)
    (hnone : shelf.live? clock other = none) : (shelf.visible clock).length < codes.card := by
  have hsub : ((shelf.visible clock).map (·.key)).toFinset ⊆ codes.erase other := by
    intro key hkey
    obtain ⟨entry, hentry, rfl⟩ := List.mem_map.mp (List.mem_toFinset.mp hkey)
    have hlive : (shelf.live? clock entry.key).isSome :=
      (shelf.contains_iff clock entry.key).mpr ⟨entry, hentry, rfl⟩
    refine Finset.mem_erase.mpr ⟨?_, hkeys entry.key hlive⟩
    intro heq
    rw [heq, hnone] at hlive
    contradiction
  have hcard := Finset.card_le_card hsub
  rw [List.toFinset_card_of_nodup (shelf.distinct_visible clock), List.length_map,
    Finset.card_erase_of_mem hother] at hcard
  have hpos := Finset.card_pos.mpr ⟨other, hother⟩
  omega

/-! ## Steps on other codes -/

theorem HasRoom.alike_pass (h : HasRoom codes timed) (hs : Fits codes s)
    (hcode : s.code? ≠ some code) :
    Alike code (timed.step s).2 (timed.pass s.ticks) where
  clock := clock_step timed s
  shape := shape_step timed s
  identity := by
    rcases identity?_step_of_ne hcode with hsame | ⟨-, other, identity, -, hput, hnone, hfull, -⟩
    · exact hsame
    · have hlt := length_visible_lt h.identities (hs.stored other (hput ▸ rfl)) hnone
      have hfits := h.fits
      omega
  marker := by
    rcases marker?_step_of_ne hcode with
      hsame | ⟨-, other, delay, identity, -, htake, -, hsome, hnone, hfull, -⟩
    · exact hsame
    · subst htake
      have hlater := h.pass hs.forward
      have hlt := length_visible_lt hlater.markers (hlater.identities other hsome) hnone
      have hfits := h.fits
      have hcapacity := h.marker_capacity
      have hvisible : ((timed.pass delay).cache.markers.visible (timed.pass delay).clock).length =
          timed.cache.markers.capacity := hfull
      omega

theorem HasRoom.alike_self (h : HasRoom codes timed) (hs : Fits codes s)
    (hcode : s.code? ≠ some code) (hticks : s.ticks = 0) :
    Alike code (timed.step s).2 timed := by
  have halike := h.alike_pass hs hcode
  rwa [hticks, pass_zero] at halike

/-! ## Steps on the code itself -/

theorem Alike.put (h : Alike code x y) (identity : Identity)
    (hroom : x.cache.identities.capacity ≠ 0) :
    (x.step (.put code identity)).1 = (y.step (.put code identity)).1 ∧
      Alike code (x.step (.put code identity)).2 (y.step (.put code identity)).2 := by
  have hcapacity : x.cache.identities.capacity = y.cache.identities.capacity :=
    congrArg (·.1.1) h.shape
  have hlifetime : x.cache.identities.lifetime = y.cache.identities.lifetime :=
    congrArg (·.1.2) h.shape
  have htaken : (x.cache.put x.clock code identity).1 = (y.cache.put y.clock code identity).1 := by
    simp only [Cache.put, Shelf.write_fst, hcapacity]
  refine ⟨congrArg (fun taken => if taken then Result.done else Result.full) htaken,
    h.clock, ?_, ?_, ?_⟩
  · rw [shape_step, shape_step, h.shape]
  · rw [identity?_put x code identity hroom, identity?_put y code identity (hcapacity ▸ hroom),
      hlifetime, h.clock]
  · rw [marker?_put, marker?_put]

theorem Alike.taken (h : Alike code x y) (hroom : x.cache.markers.capacity ≠ 0) :
    Alike code (x.taken code) (y.taken code) := by
  have hcapacity : x.cache.markers.capacity = y.cache.markers.capacity :=
    congrArg (·.2.1) h.shape
  have hlifetime : x.cache.markers.lifetime = y.cache.markers.lifetime :=
    congrArg (·.2.2) h.shape
  refine ⟨h.clock, ?_, ?_, ?_⟩
  · rw [shape_taken, shape_taken, h.shape]
  · rw [identity?_taken, identity?_taken]
  · rw [marker?_taken x code hroom, marker?_taken y code (hcapacity ▸ hroom), hlifetime, h.clock]

theorem Alike.take (h : Alike code x y) (hx : HasRoom codes x) {delay : Ticks}
    (hdelay : 0 ≤ delay) :
    (x.step (.take code delay)).1 = (y.step (.take code delay)).1 ∧
      Alike code (x.step (.take code delay)).2 (y.step (.take code delay)).2 := by
  have hlater := h.pass hdelay
  rw [take_eq, take_eq, h.phase, hlater.identity]
  cases hphase : y.phase code with
  | initiated => exact ⟨rfl, hlater⟩
  | redeemed => exact ⟨rfl, hlater⟩
  | exchanged =>
      cases hentry : (y.pass delay).identity? code with
      | none => exact ⟨rfl, hlater⟩
      | some entry =>
          have hcode : code ∈ codes :=
            (hx.pass hdelay).identities code (by rw [hlater.identity, hentry]; rfl)
          have hroom : x.cache.markers.capacity ≠ 0 :=
            hx.marker_capacity ▸ hx.capacity_ne_zero hcode
          exact ⟨rfl, hlater.taken hroom⟩

theorem Alike.step (h : Alike code x y) (hx : HasRoom codes x) (hs : Fits codes s)
    (hcode : s.code? = some code) :
    (x.step s).1 = (y.step s).1 ∧ Alike code (x.step s).2 (y.step s).2 := by
  cases s with
  | put other identity =>
      obtain rfl : other = code := Option.some.inj hcode
      exact h.put identity (hx.capacity_ne_zero (hs.stored other rfl))
  | get other =>
      obtain rfl : other = code := Option.some.inj hcode
      refine ⟨by rw [result_get, result_get, h.identity], h.clock, ?_, ?_, h.marker⟩
      · rw [shape_step, shape_step, h.shape]
      · rw [identity?_get, identity?_get, h.identity]
  | invalidate other =>
      obtain rfl : other = code := Option.some.inj hcode
      refine ⟨rfl, h.clock, ?_, ?_, h.marker⟩
      · rw [shape_step, shape_step, h.shape]
      · rw [identity?_invalidate, identity?_invalidate]
  | phase other =>
      obtain rfl : other = code := Option.some.inj hcode
      exact ⟨congrArg Result.phase h.phase, h⟩
  | take other delay =>
      obtain rfl : other = code := Option.some.inj hcode
      exact h.take hx hs.forward
  | advance ticks => contradiction

/-! ## One code alone -/

theorem answersTo_cons (code : Text) (timed : Timed) (s : Step) (rest : List Step) :
    answersTo code (s :: rest) (timed.run (s :: rest)).1 =
      if s.code? = some code then
        (timed.step s).1 :: answersTo code rest ((timed.step s).2.run rest).1
      else answersTo code rest ((timed.step s).2.run rest).1 := by
  by_cases hcode : s.code? = some code <;> simp [answersTo, run, hcode]

theorem alone?_of_eq (h : s.code? = some code) : s.alone? code = some s := by
  simp [Step.alone?, h]

theorem alone?_of_ne (h : s.code? ≠ some code) :
    s.alone? code = some (.advance s.ticks) ∨ s.alone? code = none ∧ s.ticks = 0 := by
  unfold Step.alone?
  cases hcode : s.code? with
  | none =>
      cases s with
      | advance ticks => exact .inl rfl
      | _ => contradiction
  | some other =>
      have hne : other ≠ code := fun heq => h (hcode.trans (congrArg some heq))
      by_cases hticks : s.ticks = 0
      · exact .inr ⟨by simp [hne, hticks], hticks⟩
      · exact .inl (by simp [hne, hticks])

theorem Alike.answersTo_run (h : Alike code x y) (hx : HasRoom codes x) {steps : List Step}
    (hsteps : ∀ s ∈ steps, Fits codes s) :
    answersTo code steps (x.run steps).1 =
      answersTo code (steps.filterMap (Step.alone? code))
        (y.run (steps.filterMap (Step.alone? code))).1 := by
  induction steps generalizing x y with
  | nil => rfl
  | cons s rest ih =>
      obtain ⟨hs, hrest⟩ := List.forall_mem_cons.mp hsteps
      have hnext := hx.step hs
      rw [answersTo_cons]
      by_cases hcode : s.code? = some code
      · obtain ⟨hresult, halike⟩ := h.step hx hs hcode
        rw [List.filterMap_cons_some (alone?_of_eq hcode), answersTo_cons, if_pos hcode,
          if_pos hcode, hresult, ih halike hnext hrest]
      · have halike := (hx.alike_pass hs hcode).trans (h.pass (Step.ticks_nonneg hs.forward))
        have hlater := ih halike hnext hrest
        rw [if_neg hcode, hlater]
        rcases alone?_of_ne hcode with hsome | ⟨hnone, hticks⟩
        · rw [List.filterMap_cons_some hsome, answersTo_cons, if_neg nofun]
          rfl
        · rw [List.filterMap_cons_none hnone, hticks, pass_zero]

/-! ## Steps that change places -/

theorem HasRoom.run (h : HasRoom codes timed) {steps : List Step}
    (hsteps : ∀ s ∈ steps, Fits codes s) : HasRoom codes (timed.run steps).2 :=
  holds_run (fun _ _ => HasRoom.step) h hsteps

theorem run_of_alike (h : ∀ code, Alike code x y) (hx : HasRoom codes x) (hy : HasRoom codes y)
    {steps : List Step} (hsteps : ∀ s ∈ steps, Fits codes s) :
    (x.run steps).1 = (y.run steps).1 := by
  induction steps generalizing x y with
  | nil => rfl
  | cons s rest ih =>
      obtain ⟨hs, hrest⟩ := List.forall_mem_cons.mp hsteps
      have hresult : (x.step s).1 = (y.step s).1 := by
        cases hcode : s.code? with
        | some code => exact ((h code).step hx hs hcode).1
        | none =>
            cases s with
            | advance ticks => rfl
            | _ => contradiction
      have hnext : ∀ code, Alike code (x.step s).2 (y.step s).2 := by
        intro code
        by_cases hcode : s.code? = some code
        · exact ((h code).step hx hs hcode).2
        · have hpass := (h code).pass (Step.ticks_nonneg hs.forward)
          exact ((hx.alike_pass hs hcode).trans hpass).trans (hy.alike_pass hs hcode).symm
      rw [run_cons, run_cons, hresult, ih hnext (hx.step hs) (hy.step hs) hrest]

section Swap

variable {first second : Step} {a b : Text}

/-- Two steps that take no time, each on a code of its own. -/
structure AreApart (codes : Finset Text) (first second : Step) (a b : Text) : Prop where
  firstFits : Fits codes first
  secondFits : Fits codes second
  firstCode : first.code? = some a
  secondCode : second.code? = some b
  ne : a ≠ b
  firstTicks : first.ticks = 0
  secondTicks : second.ticks = 0

theorem AreApart.symm (h : AreApart codes first second a b) : AreApart codes second first b a :=
  ⟨h.secondFits, h.firstFits, h.secondCode, h.firstCode, h.ne.symm, h.secondTicks, h.firstTicks⟩

theorem AreApart.alike_second (h : AreApart codes first second a b) (hx : HasRoom codes x)
    (hcode : code ≠ b) : Alike code (x.step second).2 x := by
  refine hx.alike_self h.secondFits ?_ h.secondTicks
  rw [h.secondCode]
  exact fun heq => hcode (Option.some.inj heq).symm

theorem AreApart.answer_first (h : AreApart codes first second a b) (hx : HasRoom codes x) :
    (x.step first).1 = ((x.step second).2.step first).1 ∧
      Alike a ((x.step first).2.step second).2 ((x.step second).2.step first).2 := by
  obtain ⟨hresult, halike⟩ := (h.alike_second hx h.ne).symm.step hx h.firstFits h.firstCode
  exact ⟨hresult, (h.alike_second (hx.step h.firstFits) h.ne).trans halike⟩

theorem AreApart.alike_swap (h : AreApart codes first second a b) (hx : HasRoom codes x)
    (code : Text) :
    Alike code ((x.step first).2.step second).2 ((x.step second).2.step first).2 := by
  by_cases ha : code = a
  · rw [ha]
    exact (h.answer_first hx).2
  · by_cases hb : code = b
    · rw [hb]
      exact (h.symm.answer_first hx).2.symm
    · have hfirst := (h.alike_second (hx.step h.firstFits) hb).trans (h.symm.alike_second hx ha)
      have hsecond := (h.symm.alike_second (hx.step h.secondFits) ha).trans (h.alike_second hx hb)
      exact hfirst.trans hsecond.symm

theorem AreApart.run_swap (h : AreApart codes first second a b) (hx : HasRoom codes x)
    {late : List Step} (hlate : ∀ s ∈ late, Fits codes s) :
    ∃ one other later, (x.run (first :: second :: late)).1 = one :: other :: later ∧
      (x.run (second :: first :: late)).1 = other :: one :: later := by
  refine ⟨(x.step first).1, ((x.step first).2.step second).1,
    (((x.step first).2.step second).2.run late).1, rfl, ?_⟩
  have hfirst := (h.answer_first hx).1
  have hsecond := (h.symm.answer_first hx).1
  have hlater := run_of_alike (h.alike_swap hx) ((hx.step h.firstFits).step h.secondFits)
    ((hx.step h.secondFits).step h.firstFits) hlate
  rw [run_cons, run_cons, hsecond, ← hfirst, ← hlater]

theorem AreApart.run_swap_after (h : AreApart codes first second a b) (hx : HasRoom codes x)
    {early late : List Step} (hearly : ∀ s ∈ early, Fits codes s)
    (hlate : ∀ s ∈ late, Fits codes s) :
    ∃ earlier one other later, earlier.length = early.length ∧
      (x.run (early ++ first :: second :: late)).1 = earlier ++ one :: other :: later ∧
      (x.run (early ++ second :: first :: late)).1 = earlier ++ other :: one :: later := by
  obtain ⟨one, other, later, hrun, hswapped⟩ := h.run_swap (hx.run hearly) hlate
  refine ⟨(x.run early).1, one, other, later, length_run x early, ?_, ?_⟩
  · rw [run_append, hrun]
  · rw [run_append, hswapped]

end Swap

/-- While no more codes are put than a cache has room for, the steps on each code are answered as
they are when only the time of all other steps is left, and two steps on different codes, neither
of which takes time, can change places without any answer changing. -/
theorem answers_alone (capacity : Nat) (lifetime : Ticks) (steps : List Step)
    (hsteps : ∀ s ∈ steps, s.IsForward)
    (hfew : (steps.filterMap Step.stored?).toFinset.card ≤ capacity) :
    let cache := start (empty capacity lifetime)
    (∀ code, let alone := steps.filterMap (Step.alone? code)
      answersTo code steps (cache.run steps).1 = answersTo code alone (cache.run alone).1) ∧
    ∀ early first second late a b, steps = early ++ first :: second :: late →
      first.code? = some a → second.code? = some b → a ≠ b →
      first.ticks = 0 → second.ticks = 0 →
      ∃ earlier one other later, earlier.length = early.length ∧
        (cache.run steps).1 = earlier ++ one :: other :: later ∧
        (cache.run (early ++ second :: first :: late)).1 = earlier ++ other :: one :: later := by
  intro cache
  -- The set of codes that there has to be room for is that of all codes that are put.
  have hfits : ∀ s ∈ steps, Fits (steps.filterMap Step.stored?).toFinset s :=
    fun s hs => ⟨hsteps s hs, fun code hcode =>
      List.mem_toFinset.mpr (List.mem_filterMap.mpr ⟨s, hs, hcode⟩)⟩
  have hroom : HasRoom (steps.filterMap Step.stored?).toFinset cache := hasRoom_start lifetime hfew
  refine ⟨fun code => (Alike.refl code cache).answersTo_run hroom hfits, ?_⟩
  intro early first second late a b hsplit ha hb hab hfirst hsecond
  have hmem : ∀ s, s ∈ early ∨ s = first ∨ s = second ∨ s ∈ late →
      Fits (steps.filterMap Step.stored?).toFinset s :=
    fun s hs => hfits s (by simpa [hsplit] using hs)
  have hapart : AreApart (steps.filterMap Step.stored?).toFinset first second a b :=
    ⟨hmem first (.inr (.inl rfl)), hmem second (.inr (.inr (.inl rfl))), ha, hb, hab, hfirst,
      hsecond⟩
  obtain ⟨earlier, one, other, later, hlength, hrun, hswapped⟩ :=
    hapart.run_swap_after hroom (fun s hs => hmem s (.inl hs))
      fun s hs => hmem s (.inr (.inr (.inr hs)))
  exact ⟨earlier, one, other, later, hlength, hsplit ▸ hrun, hswapped⟩

/-- Two codes in a cache with room for both, of which one is looked up, and the other is taken while
the first one's time runs out. -/
theorem answers_alone_in_two_places :
    let steps : List Step := [.put ['a'] ⟨['n'], ['r'], ['e']⟩, .advance 3,
      .put ['b'] ⟨['m'], ['s'], ['f']⟩, .get ['a'], .take ['b'] 2, .get ['a']]
    let cache := start (empty 2 5)
    let alone := steps.filterMap (Step.alone? ['a'])
    ((∀ s ∈ steps, s.IsForward) ∧ (steps.filterMap Step.stored?).toFinset.card ≤ 2) ∧
      answersTo ['a'] steps (cache.run steps).1 = answersTo ['a'] alone (cache.run alone).1 ∧
      alone = [.put ['a'] ⟨['n'], ['r'], ['e']⟩, .advance 3, .get ['a'], .advance 2, .get ['a']] ∧
      answersTo ['a'] steps (cache.run steps).1 =
        [.done, .identity (some ⟨['n'], ['r'], ['e']⟩), .identity none] := by
  intro steps cache alone
  have hsteps : ∀ s ∈ steps, s.IsForward := by decide
  have hfew : (steps.filterMap Step.stored?).toFinset.card ≤ 2 := by decide
  have halone := (answers_alone 2 5 steps hsteps hfew).1 ['a']
  exact ⟨⟨hsteps, hfew⟩, halone, by decide, by decide⟩

end Timed

end SignOn.Cache
