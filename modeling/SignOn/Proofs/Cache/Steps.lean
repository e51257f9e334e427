import SignOn.Proofs.Cache.Refinement

/-!
# What a step does to the entries of a code

A step takes its time, and an entry that comes to its deadline in that time is gone.  Besides that,
a step changes the entries of the code that it is about, and of another code only where it needs
the room: an identity goes when a full cache is given one more, a marker when a full cache gets one
more marker.
-/

namespace SignOn.Cache

def Step.ticks : Step → Ticks
  | .take _ delay => delay
  | .advance ticks => ticks
  | _ => 0

def Step.code? : Step → Option Text
  | .put code _ | .get code | .invalidate code | .phase code | .take code _ => some code
  | .advance _ => none

theorem Step.ticks_nonneg {s : Step} (h : s.IsForward) : 0 ≤ s.ticks := by
  cases s with
  | take code delay => exact h
  | advance ticks => exact h
  | _ => exact Int.le_refl 0

namespace Timed

variable {timed : Timed} {s : Step} {code : Text} {ticks : Ticks}

def pass (timed : Timed) (ticks : Ticks) : Timed := { timed with clock := timed.clock + ticks }

def identity? (timed : Timed) (code : Text) : Option (Entry Identity) :=
  timed.cache.identities.live? timed.clock code

def marker? (timed : Timed) (code : Text) : Option (Entry Unit) :=
  timed.cache.markers.live? timed.clock code

theorem phase_eq (timed : Timed) (code : Text) :
    timed.phase code =
      if (timed.identity? code).isSome then .exchanged
      else if (timed.marker? code).isSome then .redeemed
      else .initiated := rfl

theorem phase_eq_exchanged_iff : timed.phase code = .exchanged ↔ (timed.identity? code).isSome := by
  rw [phase_eq]
  cases timed.identity? code <;> cases timed.marker? code <;> simp

/-! ## Time -/

theorem pass_zero (timed : Timed) : timed.pass 0 = timed := by
  rw [pass, Int.add_zero]

theorem identity?_pass (timed : Timed) (h : 0 ≤ ticks) (code : Text) :
    (timed.pass ticks).identity? code =
      (timed.identity? code).filter (Entry.isLive (timed.clock + ticks)) :=
  timed.cache.identities.live?_of_le (Int.le_add_of_nonneg_right h) code

theorem marker?_pass (timed : Timed) (h : 0 ≤ ticks) (code : Text) :
    (timed.pass ticks).marker? code =
      (timed.marker? code).filter (Entry.isLive (timed.clock + ticks)) :=
  timed.cache.markers.live?_of_le (Int.le_add_of_nonneg_right h) code

theorem identity?_of_pass (h : 0 ≤ ticks) {entry : Entry Identity}
    (hlater : (timed.pass ticks).identity? code = some entry) :
    timed.identity? code = some entry := by
  rw [identity?_pass timed h] at hlater
  exact (Option.filter_eq_some_iff.mp hlater).1

theorem marker?_of_pass (h : 0 ≤ ticks) {entry : Entry Unit}
    (hlater : (timed.pass ticks).marker? code = some entry) :
    timed.marker? code = some entry := by
  rw [marker?_pass timed h] at hlater
  exact (Option.filter_eq_some_iff.mp hlater).1

/-! ## The code that a step is about -/

theorem identity?_put (timed : Timed) (code : Text) (identity : Identity)
    (h : timed.cache.identities.capacity ≠ 0) :
    (timed.step (.put code identity)).2.identity? code =
      if 0 < timed.cache.identities.lifetime then
        some ⟨code, identity, timed.clock + timed.cache.identities.lifetime⟩
      else none :=
  timed.cache.identities.live?_write_self timed.clock code identity h

theorem marker?_put (timed : Timed) (code : Text) (identity : Identity) :
    (timed.step (.put code identity)).2.marker? code = none :=
  (timed.cache.markers.live?_remove timed.clock code code).trans (if_pos rfl)

theorem identity?_get (timed : Timed) (key code : Text) :
    (timed.step (.get key)).2.identity? code = timed.identity? code :=
  timed.cache.identities.live?_read timed.clock key code

theorem marker?_get (timed : Timed) (key code : Text) :
    (timed.step (.get key)).2.marker? code = timed.marker? code := rfl

theorem result_get (timed : Timed) (code : Text) :
    (timed.step (.get code)).1 = .identity ((timed.identity? code).map (·.value)) := by
  rw [identity?, Shelf.live?_eq_find?, ← Shelf.read_fst]
  rfl

theorem identity?_invalidate (timed : Timed) (code : Text) :
    (timed.step (.invalidate code)).2.identity? code = none :=
  (timed.cache.identities.live?_remove timed.clock code code).trans (if_pos rfl)

theorem marker?_invalidate (timed : Timed) (key code : Text) :
    (timed.step (.invalidate key)).2.marker? code = timed.marker? code := rfl

def taken (timed : Timed) (code : Text) : Timed :=
  { timed with
    cache :=
      ⟨(timed.cache.identities.remove timed.clock code).2,
        (timed.cache.markers.write timed.clock code ()).2⟩ }

theorem shape_taken (timed : Timed) (code : Text) :
    (timed.taken code).cache.shape = timed.cache.shape := by
  simp [taken, Cache.shape]

theorem identity?_taken (timed : Timed) (code : Text) : (timed.taken code).identity? code = none :=
  (timed.cache.identities.live?_remove timed.clock code code).trans (if_pos rfl)

theorem marker?_taken (timed : Timed) (code : Text) (h : timed.cache.markers.capacity ≠ 0) :
    (timed.taken code).marker? code =
      if 0 < timed.cache.markers.lifetime then
        some ⟨code, (), timed.clock + timed.cache.markers.lifetime⟩
      else none :=
  timed.cache.markers.live?_write_self timed.clock code () h

/-- Why an identity is not given: the code was redeemed when its phase was checked, or it had no
identity then, or none any more at the removal. -/
inductive Refuses (timed : Timed) (code : Text) (delay : Ticks) : TakeFault → Prop
  | redeemed (h : timed.phase code = .redeemed) : Refuses timed code delay .alreadyRedeemed
  | initiated (h : timed.phase code = .initiated) : Refuses timed code delay .notExchanged
  | lapsed (h : timed.phase code = .exchanged) (hgone : (timed.pass delay).identity? code = none) :
      Refuses timed code delay .notExchanged

/-- A code that is exchanged and still has its identity at the removal gives it up; of any other,
only time passes. -/
theorem take_eq (timed : Timed) (code : Text) (delay : Ticks) :
    timed.step (.take code delay) =
      match timed.phase code, (timed.pass delay).identity? code with
      | .exchanged, some entry => (.identity (some entry.value), (timed.pass delay).taken code)
      | .exchanged, none => (.refused .notExchanged, timed.pass delay)
      | .initiated, _ => (.refused .notExchanged, timed.pass delay)
      | .redeemed, _ => (.refused .alreadyRedeemed, timed.pass delay) := by
  have hlive : (timed.pass delay).identity? code =
      timed.cache.identities.live? (timed.clock + delay) code := rfl
  have hphase : timed.phase code = timed.cache.phase timed.clock code := rfl
  simp only [step, take, hphase, hlive]
  cases timed.cache.phase timed.clock code with
  | redeemed => rfl
  | initiated => rfl
  | exchanged =>
      cases hentry : timed.cache.identities.live? (timed.clock + delay) code with
      | none =>
          have hremove : timed.cache.identities.remove (timed.clock + delay) code =
              (none, timed.cache.identities) := by rw [Shelf.remove, hentry]
          rw [hremove]
          rfl
      | some entry =>
          have hremove : timed.cache.identities.remove (timed.clock + delay) code =
              (some entry.value, (timed.cache.identities.remove (timed.clock + delay) code).2) := by
            rw [Shelf.remove, hentry]
          rw [hremove]
          rfl

theorem take_cases (timed : Timed) (code : Text) (delay : Ticks) :
    (∃ fault, timed.Refuses code delay fault ∧
      timed.step (.take code delay) = (.refused fault, timed.pass delay)) ∨
    ∃ entry, timed.phase code = .exchanged ∧ (timed.pass delay).identity? code = some entry ∧
      timed.step (.take code delay) =
        (.identity (some entry.value), (timed.pass delay).taken code) := by
  rw [take_eq]
  cases hphase : timed.phase code with
  | redeemed => exact .inl ⟨_, .redeemed hphase, rfl⟩
  | initiated => exact .inl ⟨_, .initiated hphase, rfl⟩
  | exchanged =>
      cases hlive : (timed.pass delay).identity? code with
      | none => exact .inl ⟨_, .lapsed hphase hlive, rfl⟩
      | some entry => exact .inr ⟨entry, rfl, rfl, rfl⟩

/-! ## Other codes -/

/-- A shelf is full, and a code is the one of it that was used least recently. -/
def IsCrowded {α : Type} (shelf : Shelf α) (clock : Ticks) (code : Text) : Prop :=
  (shelf.visible clock).length = shelf.capacity ∧
    (shelf.visible clock).head?.map (·.key) = some code

theorem IsCrowded.eq {α : Type} {shelf : Shelf α} {clock : Ticks} {other : Text}
    (h : IsCrowded shelf clock code) (hother : IsCrowded shelf clock other) : code = other :=
  Option.some.inj (h.2.symm.trans hother.2)

theorem identity?_step_of_ne (h : s.code? ≠ some code) :
    (timed.step s).2.identity? code = (timed.pass s.ticks).identity? code ∨
      (timed.step s).2.identity? code = none ∧
        ∃ other identity, other ≠ code ∧ s = .put other identity ∧ timed.identity? other = none ∧
          IsCrowded timed.cache.identities timed.clock code := by
  have hne : ∀ other, s.code? = some other → code ≠ other := by
    rintro other hother rfl
    exact h hother
  cases s with
  | put other identity =>
      have hother := hne other rfl
      simp only [Step.ticks, pass_zero]
      rcases timed.cache.identities.live?_write_of_ne timed.clock identity hother with
        hsame | ⟨hgone, hnone, hfull⟩
      · exact .inl hsame
      · exact .inr ⟨hgone, other, identity, Ne.symm hother, rfl, hnone, hfull⟩
  | get other =>
      left
      simp only [Step.ticks, pass_zero]
      exact identity?_get timed other code
  | invalidate other =>
      left
      simp only [Step.ticks, pass_zero]
      exact (timed.cache.identities.live?_remove timed.clock other code).trans
        (if_neg (hne other rfl))
  | phase other => exact .inl (by simp only [Step.ticks, pass_zero, step])
  | take other delay =>
      left
      rcases timed.take_cases other delay with ⟨fault, -, hstep⟩ | ⟨entry, -, -, hstep⟩
      · rw [hstep]
        rfl
      · rw [hstep]
        exact ((timed.pass delay).cache.identities.live?_remove _ other code).trans
          (if_neg (hne other rfl))
  | advance ticks => exact .inl rfl

theorem marker?_step_of_ne (h : s.code? ≠ some code) :
    (timed.step s).2.marker? code = (timed.pass s.ticks).marker? code ∨
      (timed.step s).2.marker? code = none ∧
        ∃ other delay identity, other ≠ code ∧ s = .take other delay ∧
          (timed.step s).1 = .identity (some identity) ∧
          ((timed.pass delay).identity? other).isSome ∧ (timed.pass delay).marker? other = none ∧
          IsCrowded timed.cache.markers (timed.clock + delay) code := by
  have hne : ∀ other, s.code? = some other → code ≠ other := by
    rintro other hother rfl
    exact h hother
  cases s with
  | put other identity =>
      left
      simp only [Step.ticks, pass_zero]
      exact (timed.cache.markers.live?_remove timed.clock other code).trans
        (if_neg (hne other rfl))
  | get other => exact .inl (by simp only [Step.ticks, pass_zero, marker?_get])
  | invalidate other => exact .inl (by simp only [Step.ticks, pass_zero, marker?_invalidate])
  | phase other => exact .inl (by simp only [Step.ticks, pass_zero, step])
  | take other delay =>
      have hother := hne other rfl
      rcases timed.take_cases other delay with ⟨fault, -, hstep⟩ | ⟨entry, -, hentry, hstep⟩
      · rw [hstep]
        exact .inl rfl
      · rw [hstep]
        rcases timed.cache.markers.live?_write_of_ne (timed.clock + delay) () hother with
          hsame | ⟨hgone, hnone, hfull⟩
        · exact .inl hsame
        · exact .inr ⟨hgone, other, delay, entry.value, Ne.symm hother, rfl, rfl,
            by rw [hentry]; rfl, hnone, hfull⟩
  | advance ticks => exact .inl rfl

/-! ## Entries that are there after a step -/

theorem identity?_of_step {entry : Entry Identity}
    (h : (timed.step s).2.identity? code = some entry) :
    (timed.pass s.ticks).identity? code = some entry ∨ ∃ identity, s = .put code identity := by
  by_cases hcode : s.code? = some code
  · cases s with
    | put other identity =>
        obtain rfl : other = code := Option.some.inj hcode
        exact .inr ⟨identity, rfl⟩
    | get other =>
        rw [identity?_get] at h
        exact .inl (by simpa only [Step.ticks, pass_zero] using h)
    | invalidate other =>
        obtain rfl : other = code := Option.some.inj hcode
        rw [identity?_invalidate] at h
        contradiction
    | phase other => exact .inl (by simpa only [Step.ticks, pass_zero, step] using h)
    | take other delay =>
        obtain rfl : other = code := Option.some.inj hcode
        rcases timed.take_cases other delay with ⟨fault, -, hstep⟩ | ⟨taken, -, -, hstep⟩
        · rw [hstep] at h
          exact .inl h
        · rw [hstep, identity?_taken] at h
          contradiction
    | advance ticks => contradiction
  · rcases identity?_step_of_ne hcode with hsame | ⟨hgone, -⟩
    · exact .inl (hsame ▸ h)
    · rw [hgone] at h
      contradiction

theorem marker?_of_step {entry : Entry Unit} (h : (timed.step s).2.marker? code = some entry) :
    (timed.pass s.ticks).marker? code = some entry ∨
      ((timed.pass s.ticks).identity? code).isSome := by
  by_cases hcode : s.code? = some code
  · cases s with
    | put other identity =>
        obtain rfl : other = code := Option.some.inj hcode
        rw [marker?_put] at h
        contradiction
    | get other =>
        rw [marker?_get] at h
        exact .inl (by simpa only [Step.ticks, pass_zero] using h)
    | invalidate other =>
        rw [marker?_invalidate] at h
        exact .inl (by simpa only [Step.ticks, pass_zero] using h)
    | phase other => exact .inl (by simpa only [Step.ticks, pass_zero, step] using h)
    | take other delay =>
        obtain rfl : other = code := Option.some.inj hcode
        rcases timed.take_cases other delay with ⟨fault, -, hstep⟩ | ⟨taken, -, htaken, hstep⟩
        · rw [hstep] at h
          exact .inl h
        · exact .inr (Option.isSome_iff_exists.mpr ⟨taken, htaken⟩)
    | advance ticks => contradiction
  · rcases marker?_step_of_ne hcode with hsame | ⟨hgone, -⟩
    · exact .inl (hsame ▸ h)
    · rw [hgone] at h
      contradiction

/-! ## The clock -/

theorem clock_step (timed : Timed) (s : Step) :
    (timed.step s).2.clock = timed.clock + s.ticks := by
  cases s with
  | take code delay =>
      rcases timed.take_cases code delay with ⟨fault, -, hstep⟩ | ⟨entry, -, -, hstep⟩ <;>
        · rw [hstep]
          rfl
  | advance ticks => rfl
  | _ => exact (Int.add_zero timed.clock).symm

/-! ## Runs -/

theorem holds_run {holds : Timed → Prop} {allowed : Step → Prop}
    (hstep : ∀ timed s, holds timed → allowed s → holds (timed.step s).2) (hstart : holds timed)
    {steps : List Step} (hsteps : ∀ s ∈ steps, allowed s) : holds (timed.run steps).2 := by
  induction steps generalizing timed with
  | nil => exact hstart
  | cons s rest ih =>
      obtain ⟨hs, hrest⟩ := List.forall_mem_cons.mp hsteps
      exact ih (hstep timed s hstart hs) hrest

theorem run_cons (timed : Timed) (s : Step) (rest : List Step) :
    (timed.run (s :: rest)).1 = (timed.step s).1 :: ((timed.step s).2.run rest).1 := rfl

theorem run_append (timed : Timed) (early late : List Step) :
    (timed.run (early ++ late)).1 = (timed.run early).1 ++ ((timed.run early).2.run late).1 := by
  induction early generalizing timed with
  | nil => rfl
  | cons s rest ih => exact congrArg ((timed.step s).1 :: ·) (ih (timed.step s).2)

theorem snd_run_append (timed : Timed) (early late : List Step) :
    (timed.run (early ++ late)).2 = ((timed.run early).2.run late).2 := by
  induction early generalizing timed with
  | nil => rfl
  | cons s rest ih => exact ih (timed.step s).2

theorem snd_run_concat (timed : Timed) (steps : List Step) (s : Step) :
    (timed.run (steps ++ [s])).2 = ((timed.run steps).2.step s).2 :=
  snd_run_append timed steps [s]

theorem shape_run (timed : Timed) (steps : List Step) :
    (timed.run steps).2.cache.shape = timed.cache.shape := by
  induction steps generalizing timed with
  | nil => rfl
  | cons s rest ih => exact (ih (timed.step s).2).trans (shape_step timed s)

theorem length_run (timed : Timed) (steps : List Step) :
    (timed.run steps).1.length = steps.length := by
  induction steps generalizing timed with
  | nil => rfl
  | cons s rest ih => exact congrArg (· + 1) (ih (timed.step s).2)

end Timed

end SignOn.Cache
