import Mathlib.Data.Finset.Option
import SignOn.Proofs.Cache.Standing
import SignOn.Proofs.Cache.Taking

/-!
# How long a code is kept

An identity is kept for its lifetime while fewer other codes are used than there is room for, and so
is the marker that stays when it is taken.  What counts is how many different codes were used since
the code itself was, whatever else was done and however often.
-/

namespace SignOn.Cache.Timed

variable {timed : Timed} {s : Step} {steps late : List Step} {code : Text} {entry : Entry Identity}
  {recent : Finset Text}

/-! ## Uses -/

def lookedAt? : Step → Result → Option Text
  | .put code _, _ => some code
  | .get code, .identity (some _) => some code
  | _, _ => none

def redeemed? : Step → Result → Option Text
  | .take code _, .identity (some _) => some code
  | _, _ => none

def uses (use? : Step → Result → Option Text) (timed : Timed) (steps : List Step) : List Text :=
  (steps.zip (timed.run steps).1).filterMap fun answered => use? answered.1 answered.2

def since (code : Text) (codes : List Text) : Finset Text :=
  (codes.reverse.takeWhile (· ≠ code)).toFinset

/-- What a use makes of the codes used since the last use of one. -/
def usedAfter (code : Text) (recent : Finset Text) (used : Option Text) : Finset Text :=
  if used = some code then ∅ else recent ∪ used.toFinset

theorem uses_concat (use? : Step → Result → Option Text) (timed : Timed) (steps : List Step)
    (s : Step) :
    uses use? timed (steps ++ [s]) =
      uses use? timed steps ++ (use? s ((timed.run steps).2.step s).1).toList := by
  have hlength : steps.length = (timed.run steps).1.length := (length_run timed steps).symm
  rw [uses, run_append, List.zip_append hlength, List.filterMap_append]
  rfl

theorem since_append (code : Text) (codes : List Text) (used : Option Text) :
    since code (codes ++ used.toList) = usedAfter code (since code codes) used := by
  cases used with
  | none => simp [usedAfter]
  | some other => by_cases h : other = code <;> simp [since, usedAfter, h, Finset.union_comm]

theorem code?_of_lookedAt? {result : Result} (h : lookedAt? s result = some code) :
    s.code? = some code := by
  cases s with
  | put other identity => exact h
  | get other =>
      cases result with
      | identity found =>
          cases found with
          | none => contradiction
          | some found => exact h
      | _ => contradiction
  | _ => contradiction

theorem code?_of_redeemed? {result : Result} (h : redeemed? s result = some code) :
    s.code? = some code := by
  cases s with
  | take other delay =>
      cases result with
      | identity found =>
          cases found with
          | none => contradiction
          | some found => exact h
      | _ => contradiction
  | _ => contradiction

/-! ## What one step leaves -/

theorem clock_le_of_isForward (timed : Timed) (hs : s.IsForward) :
    timed.clock ≤ timed.clock + s.ticks :=
  Int.le_add_of_nonneg_right (Step.ticks_nonneg hs)

theorem exists_new_of_sublist {α : Type} {left entries : List (Entry α)} {p : Entry α → Prop}
    (h : left.Sublist entries) :
    ∃ new : List (Entry α), (∀ other ∈ new, p other) ∧ left.Sublist (entries ++ new) :=
  ⟨[], by simp, by rwa [List.append_nil]⟩

theorem exists_visible_identities_step (hroom : timed.cache.identities.capacity ≠ 0)
    (hs : s.IsForward) :
    ∃ new : List (Entry Identity),
      (∀ other ∈ new, lookedAt? s (timed.step s).1 = some other.key) ∧
      ((timed.step s).2.cache.identities.visible (timed.step s).2.clock).Sublist
        (timed.cache.identities.visible timed.clock ++ new) := by
  have hpass := timed.cache.identities.visible_sublist_of_le (clock_le_of_isForward timed hs)
  cases s with
  | put other identity =>
      exact ⟨_, by simp [lookedAt?], Shelf.visible_write_sublist _ timed.clock other identity hroom⟩
  | get other =>
      refine ⟨_, fun found hfound => ?_, timed.cache.identities.visible_read_sublist _ other⟩
      have hlive : timed.identity? other = some found := Option.mem_toList.mp hfound
      have hkey := Shelf.key_eq_of_find? (Option.filter_eq_some_iff.mp hlive).1
      rw [result_get, hlive, hkey]
      rfl
  | invalidate other =>
      exact exists_new_of_sublist (timed.cache.identities.visible_remove_sublist _ other)
  | phase other => exact exists_new_of_sublist (List.Sublist.refl _)
  | take other delay =>
      rcases timed.take_cases other delay with ⟨fault, -, hstep⟩ | ⟨found, -, -, hstep⟩
      · rw [hstep]
        exact exists_new_of_sublist hpass
      · rw [hstep]
        exact exists_new_of_sublist ((Shelf.visible_remove_sublist _ _ other).trans hpass)
  | advance ticks => exact exists_new_of_sublist hpass

theorem exists_visible_markers_step (hroom : timed.cache.markers.capacity ≠ 0)
    (hs : s.IsForward) :
    ∃ new : List (Entry Unit),
      (∀ other ∈ new, redeemed? s (timed.step s).1 = some other.key) ∧
      ((timed.step s).2.cache.markers.visible (timed.step s).2.clock).Sublist
        (timed.cache.markers.visible timed.clock ++ new) := by
  have hpass := timed.cache.markers.visible_sublist_of_le (clock_le_of_isForward timed hs)
  cases s with
  | put other identity =>
      exact exists_new_of_sublist (timed.cache.markers.visible_remove_sublist _ other)
  | take other delay =>
      rcases timed.take_cases other delay with ⟨fault, -, hstep⟩ | ⟨found, -, -, hstep⟩
      · rw [hstep]
        exact exists_new_of_sublist hpass
      · rw [hstep]
        exact ⟨_, by simp [redeemed?], (Shelf.visible_write_sublist _ _ other () hroom).trans
          (hpass.append_right _)⟩
  | advance ticks => exact exists_new_of_sublist hpass
  | _ => exact exists_new_of_sublist (List.Sublist.refl _)

/-! ## An identity -/

theorem capacity_identities_step (timed : Timed) (s : Step) :
    (timed.step s).2.cache.identities.capacity = timed.cache.identities.capacity :=
  congrArg (·.1.1) (shape_step timed s)

/-- A step on the code itself only looks at it, and makes it the one last used if it is there. -/
theorem keeps_identity_of_looking (h : timed.cache.identities.Keeps timed.clock entry recent)
    (hlooks : s = .get entry.key ∨ s = .phase entry.key) :
    (timed.step s).2.cache.identities.Keeps (timed.step s).2.clock entry
      (usedAfter entry.key recent (lookedAt? s (timed.step s).1)) := by
  rcases hlooks with rfl | rfl
  · have hread : (timed.step (.get entry.key)).2.cache.identities.Keeps timed.clock entry
        (if (timed.identity? entry.key).isSome then ∅ else recent) := h.read
    have hclock : (timed.step (.get entry.key)).2.clock = timed.clock := rfl
    rw [result_get, hclock]
    cases hfound : timed.identity? entry.key with
    | none => simpa [hfound, lookedAt?, usedAfter] using hread
    | some found => simpa [hfound, lookedAt?, usedAfter] using hread
  · have hsame : timed.cache.identities.Keeps timed.clock entry
        (usedAfter entry.key recent none) := by simpa [usedAfter] using h
    exact hsame

theorem keeps_identity_step (h : timed.cache.identities.Keeps timed.clock entry recent)
    (hroom : timed.cache.identities.capacity ≠ 0) (hs : s.IsForward)
    (hown : s.code? = some entry.key → s = .get entry.key ∨ s = .phase entry.key) :
    (timed.step s).2.cache.identities.Keeps (timed.step s).2.clock entry
      (usedAfter entry.key recent (lookedAt? s (timed.step s).1)) := by
  by_cases hcode : s.code? = some entry.key
  · exact keeps_identity_of_looking h (hown hcode)
  · obtain ⟨new, hnew, hsub⟩ := exists_visible_identities_step hroom hs
    have hunused : lookedAt? s (timed.step s).1 ≠ some entry.key :=
      fun hused => hcode (code?_of_lookedAt? hused)
    rw [clock_step] at hsub ⊢
    rw [usedAfter, if_neg hunused]
    refine h.step (clock_le_of_isForward timed hs) (capacity_identities_step timed s) hsub
      (fun other hother => ?_) ?_
    · have hused := hnew other hother
      exact ⟨fun heq => hunused (heq ▸ hused), Option.mem_toFinset.mpr hused⟩
    · have hchange : (timed.step s).2.identity? entry.key = _ ∨ _ := identity?_step_of_ne hcode
      rw [identity?, clock_step] at hchange
      refine hchange.imp_right ?_
      rintro ⟨hgone, other, identity, -, rfl, hnone, hcrowded⟩
      rw [← pass_zero timed] at hnone hcrowded
      exact ⟨hgone, other, by simp [lookedAt?], hnone, hcrowded⟩

theorem keeps_identity_run (h : timed.cache.identities.Keeps timed.clock entry ∅)
    (hroom : timed.cache.identities.capacity ≠ 0) (hlate : ∀ s ∈ late, s.IsForward)
    (hown : ∀ s ∈ late, s.code? = some entry.key → s = .get entry.key ∨ s = .phase entry.key) :
    (timed.run late).2.cache.identities.Keeps (timed.run late).2.clock entry
      (since entry.key (uses lookedAt? timed late)) := by
  induction late using List.reverseRecOn with
  | nil => exact h
  | append_singleton late s ih =>
      have hforward := List.forall_mem_append.mp hlate
      have hlooks := List.forall_mem_append.mp hown
      have hcapacity : (timed.run late).2.cache.identities.capacity =
          timed.cache.identities.capacity := congrArg (·.1.1) (shape_run timed late)
      rw [snd_run_concat, uses_concat, since_append]
      exact keeps_identity_step (ih hforward.1 hlooks.1) (hcapacity ▸ hroom)
        (hforward.2 s (by simp)) (hlooks.2 s (by simp))

/-! ## A marker -/

theorem redeemed?_ne_of_none (hs : s.IsForward) (hnone : timed.identity? code = none) :
    redeemed? s (timed.step s).1 ≠ some code := by
  intro hused
  have hcode := code?_of_redeemed? hused
  cases s with
  | take other delay =>
      obtain rfl : other = code := Option.some.inj hcode
      rcases timed.take_cases other delay with ⟨fault, -, hstep⟩ | ⟨found, -, hfound, hstep⟩
      · rw [hstep] at hused
        contradiction
      · cases hnone.symm.trans (identity?_of_pass hs hfound)
  | _ => contradiction

theorem marker?_step_of_none (hcode : s.code? = some code) (hput : s.stored? ≠ some code)
    (hs : s.IsForward) (hnone : timed.identity? code = none) :
    (timed.step s).2.marker? code = (timed.pass s.ticks).marker? code := by
  cases s with
  | put other identity => exact absurd hcode hput
  | get other => simp only [Step.ticks, pass_zero, marker?_get]
  | invalidate other => simp only [Step.ticks, pass_zero, marker?_invalidate]
  | phase other => simp only [Step.ticks, pass_zero, step]
  | take other delay =>
      obtain rfl : other = code := Option.some.inj hcode
      rcases timed.take_cases other delay with ⟨fault, -, hstep⟩ | ⟨found, -, hfound, hstep⟩
      · rw [hstep]
        rfl
      · cases hnone.symm.trans (identity?_of_pass hs hfound)
  | advance ticks => contradiction

theorem keeps_marker_step {marker : Entry Unit}
    (h : timed.cache.markers.Keeps timed.clock marker recent)
    (hroom : timed.cache.markers.capacity ≠ 0) (hs : s.IsForward)
    (hnone : timed.identity? marker.key = none) (hput : s.stored? ≠ some marker.key) :
    (timed.step s).2.cache.markers.Keeps (timed.step s).2.clock marker
      (recent ∪ (redeemed? s (timed.step s).1).toFinset) := by
  obtain ⟨new, hnew, hsub⟩ := exists_visible_markers_step hroom hs
  have hcapacity : (timed.step s).2.cache.markers.capacity = timed.cache.markers.capacity :=
    congrArg (·.2.1) (shape_step timed s)
  rw [clock_step] at hsub ⊢
  refine h.step (clock_le_of_isForward timed hs) hcapacity hsub (fun other hother => ?_) ?_
  · have hused := hnew other hother
    exact ⟨fun heq => redeemed?_ne_of_none hs hnone (heq ▸ hused), Option.mem_toFinset.mpr hused⟩
  · by_cases hcode : s.code? = some marker.key
    · have hsame := marker?_step_of_none hcode hput hs hnone
      rw [marker?, clock_step] at hsame
      exact .inl hsame
    · have hchange : (timed.step s).2.marker? marker.key = _ ∨ _ := marker?_step_of_ne hcode
      rw [marker?, clock_step] at hchange
      refine hchange.imp_right ?_
      rintro ⟨hgone, other, delay, identity, -, rfl, hresult, -, hmissing, hcrowded⟩
      exact ⟨hgone, other, by rw [hresult]; simp [redeemed?], hmissing, hcrowded⟩

theorem keeps_marker_run {marker : Entry Unit}
    (h : timed.cache.markers.Keeps timed.clock marker ∅)
    (hroom : timed.cache.markers.capacity ≠ 0) (hnone : timed.identity? marker.key = none)
    (hlate : ∀ s ∈ late, s.IsForward) (hput : ∀ s ∈ late, s.stored? ≠ some marker.key) :
    (timed.run late).2.cache.markers.Keeps (timed.run late).2.clock marker
      (uses redeemed? timed late).toFinset := by
  induction late using List.reverseRecOn with
  | nil => exact h
  | append_singleton late s ih =>
      have hforward := List.forall_mem_append.mp hlate
      have hother := List.forall_mem_append.mp hput
      have hcapacity : (timed.run late).2.cache.markers.capacity =
          timed.cache.markers.capacity := congrArg (·.2.1) (shape_run timed late)
      have hstep := keeps_marker_step (ih hforward.1 hother.1) (hcapacity ▸ hroom)
        (hforward.2 s (by simp)) (identity?_run_eq_none hforward.1 hother.1 hnone)
        (hother.2 s (by simp))
      rw [snd_run_concat, uses_concat, List.toFinset_append]
      cases hused : redeemed? s ((timed.run late).2.step s).1 <;> simpa [hused] using hstep

/-! ## Guarantees -/

def Spares (code : Text) (s : Step) : Prop :=
  s.code? = some code → s = .get code ∨ s = .phase code

instance (code : Text) (s : Step) : Decidable (Spares code s) :=
  inferInstanceAs (Decidable (s.code? = some code → s = .get code ∨ s = .phase code))

theorem retained_of_put (hroom : timed.cache.identities.capacity ≠ 0) (identity : Identity)
    (hlate : ∀ s ∈ late, s.IsForward) (hspares : ∀ s ∈ late, Spares code s)
    (hclock : ((timed.step (.put code identity)).2.run late).2.clock <
      timed.clock + timed.cache.identities.lifetime)
    (hfew : (since code (uses lookedAt? (timed.step (.put code identity)).2 late)).card <
      timed.cache.identities.capacity) :
    ((timed.step (.put code identity)).2.run late).2.identity? code =
      some ⟨code, identity, timed.clock + timed.cache.identities.lifetime⟩ := by
  have hput : (timed.step (.put code identity)).2.cache.identities.Keeps
      (timed.step (.put code identity)).2.clock
      ⟨code, identity, timed.clock + timed.cache.identities.lifetime⟩ ∅ :=
    timed.cache.identities.keeps_write timed.clock code identity hroom
  have hcapacity := capacity_identities_step timed (.put code identity)
  have hlater : ((timed.step (.put code identity)).2.run late).2.cache.identities.capacity =
      timed.cache.identities.capacity := (congrArg (·.1.1) (shape_run _ late)).trans hcapacity
  have hkept := keeps_identity_run hput (hcapacity ▸ hroom) hlate hspares
  refine (hkept.stands hclock ?_).live
  rw [hlater]
  exact Nat.lt_of_le_of_lt (Finset.card_erase_le) hfew

theorem clock_lt_of_exchanged (identity : Identity) (hlate : ∀ s ∈ late, s.IsForward)
    (hput : ∀ s ∈ late, s.stored? ≠ some code)
    (h : ((timed.step (.put code identity)).2.run late).2.phase code = .exchanged) :
    ((timed.step (.put code identity)).2.run late).2.clock <
      timed.clock + timed.cache.identities.lifetime := by
  obtain ⟨entry, hentry⟩ := Option.isSome_iff_exists.mp (phase_eq_exchanged_iff.mp h)
  have hstored := eq_of_identity?_put (identity?_of_run hlate hput hentry)
  have hlive : _ < entry.deadline := of_decide_eq_true (Option.filter_eq_some_iff.mp hentry).2
  rwa [hstored] at hlive

theorem keeps_marker_of_gives {delay : Ticks} (hroom : timed.cache.markers.capacity ≠ 0)
    (hgives : timed.Gives code delay) (hlate : ∀ s ∈ late, s.IsForward)
    (hput : ∀ s ∈ late, s.stored? ≠ some code) :
    ((timed.step (.take code delay)).2.run late).2.identity? code = none ∧
      ((timed.step (.take code delay)).2.run late).2.cache.markers.Keeps
        ((timed.step (.take code delay)).2.run late).2.clock
        ⟨code, (), timed.clock + delay + timed.cache.markers.lifetime⟩
        (uses redeemed? (timed.step (.take code delay)).2 late).toFinset := by
  have hnone := identity?_of_gives hgives
  have hmarked : (timed.step (.take code delay)).2.cache.markers.Keeps
      (timed.step (.take code delay)).2.clock
      ⟨code, (), timed.clock + delay + timed.cache.markers.lifetime⟩ ∅ := by
    obtain ⟨identity, hgiven⟩ := hgives
    rcases timed.take_cases code delay with ⟨fault, -, hstep⟩ | ⟨entry, -, -, hstep⟩
    · rw [hstep] at hgiven
      contradiction
    · rw [hstep]
      exact timed.cache.markers.keeps_write (timed.clock + delay) code () hroom
  have hcapacity : (timed.step (.take code delay)).2.cache.markers.capacity =
      timed.cache.markers.capacity := congrArg (·.2.1) (shape_step timed _)
  exact ⟨identity?_run_eq_none hlate hput hnone,
    keeps_marker_run hmarked (hcapacity ▸ hroom) hnone hlate hput⟩

theorem phase_eq_redeemed_iff (h : timed.identity? code = none) :
    timed.phase code = .redeemed ↔ (timed.marker? code).isSome := by
  rw [phase_eq, h]
  cases timed.marker? code <;> simp

/-- Whatever steps come before and after: a code that is put can be looked up until its time is up
while fewer other codes are used after it than there is room for, and a code that is taken is known
to be redeemed until then while fewer other codes are redeemed.  Neither outlasts its time without
another put. -/
theorem kept_below_capacity (capacity : Nat) (lifetime : Ticks) (hcapacity : 1 ≤ capacity)
    (early late : List Step) (hlate : ∀ s ∈ late, s.IsForward) (code : Text) :
    let before := ((start (empty capacity lifetime)).run early).2
    (∀ identity,
      let put := (before.step (.put code identity)).2
      let now := (put.run late).2
      ((∀ s ∈ late, Spares code s) → now.clock < before.clock + lifetime →
        (since code (uses lookedAt? put late)).card < capacity →
        now.phase code = .exchanged ∧
          (now.step (.get code)).1 = .identity (some identity)) ∧
      ((∀ s ∈ late, s.stored? ≠ some code) → before.clock + lifetime ≤ now.clock →
        now.phase code ≠ .exchanged)) ∧
    ∀ delay, before.Gives code delay →
      let taken := (before.step (.take code delay)).2
      let now := (taken.run late).2
      (∀ s ∈ late, s.stored? ≠ some code) →
        (now.clock < before.clock + delay + lifetime →
          ((uses redeemed? taken late).toFinset.erase code).card < capacity →
          now.phase code = .redeemed ∧
            ∀ wait, (now.step (.take code wait)).1 = .refused .alreadyRedeemed) ∧
        (before.clock + delay + lifetime ≤ now.clock → now.phase code ≠ .redeemed) := by
  intro before
  have hshape : before.cache.shape = ((capacity, lifetime), capacity, lifetime) :=
    shape_run (start (empty capacity lifetime)) early
  have hroom : before.cache.identities.capacity = capacity := congrArg (·.1.1) hshape
  have hlifetime : before.cache.identities.lifetime = lifetime := congrArg (·.1.2) hshape
  have hmarkerRoom : before.cache.markers.capacity = capacity := congrArg (·.2.1) hshape
  have hmarkerLifetime : before.cache.markers.lifetime = lifetime := congrArg (·.2.2) hshape
  have hpositive : capacity ≠ 0 := Nat.one_le_iff_ne_zero.mp hcapacity
  refine ⟨fun identity => ⟨fun hspares hclock hfew => ?_, fun hput hover hphase => ?_⟩,
    fun delay hgives => ?_⟩
  · have hretained := retained_of_put (hroom ▸ hpositive) identity hlate hspares
      (hlifetime ▸ hclock) (hroom ▸ hfew)
    refine ⟨phase_eq_exchanged_iff.mpr (by rw [hretained]; rfl), ?_⟩
    rw [result_get, hretained]
    rfl
  · have hclock := clock_lt_of_exchanged identity hlate hput hphase
    rw [hlifetime] at hclock
    exact absurd hover (Int.not_le.mpr hclock)
  · intro taken now hput
    obtain ⟨hnone, hkept⟩ := keeps_marker_of_gives (hmarkerRoom ▸ hpositive) hgives hlate hput
    have hlater : now.cache.markers.capacity = capacity :=
      (congrArg (·.2.1) ((shape_run taken late).trans (shape_step before _))).trans hmarkerRoom
    rw [hmarkerLifetime] at hkept
    refine ⟨fun hclock hfew => ?_, fun hover hphase => ?_⟩
    · have hmarker := (hkept.stands hclock (hlater ▸ hfew)).live
      have hphase : now.phase code = .redeemed :=
        (phase_eq_redeemed_iff hnone).mpr (Option.isSome_iff_exists.mpr ⟨_, hmarker⟩)
      refine ⟨hphase, fun wait => ?_⟩
      rw [take_eq, hphase]
    · obtain ⟨marker, hmarker⟩ :=
        Option.isSome_iff_exists.mp ((phase_eq_redeemed_iff hnone).mp hphase)
      have hlive : now.clock < marker.deadline :=
        of_decide_eq_true (Option.filter_eq_some_iff.mp hmarker).2
      rw [hkept.eq_of_live? hmarker] at hlive
      exact absurd hover (Int.not_le.mpr hlive)

/-- Two places.  Two more codes are put, but only one after the code was looked up again; and one
other code is redeemed. -/
theorem kept_in_two_places :
    let late : List Step := [.put ['b'] ⟨['m'], ['s'], ['f']⟩, .take ['b'] 0, .get ['a'],
      .put ['d'] ⟨['o'], ['t'], ['g']⟩, .advance 2]
    let before := ((start (empty 2 5)).run [.put ['a'] ⟨['n'], ['r'], ['e']⟩]).2
    let put := (before.step (.put ['a'] ⟨['p'], ['u'], ['h']⟩)).2
    let taken := (before.step (.take ['a'] 1)).2
    (1 ≤ 2 ∧ ∀ s ∈ late, s.IsForward) ∧
      ((put.run late).2.step (.get ['a'])).1 = .identity (some ⟨['p'], ['u'], ['h']⟩) ∧
      (since ['a'] (uses lookedAt? put late)).card = 1 ∧
      ((taken.run late).2.step (.take ['a'] 0)).1 = .refused .alreadyRedeemed ∧
      ((uses redeemed? taken late).toFinset.erase ['a']).card = 1 := by
  intro late before put taken
  have hlate : ∀ s ∈ late, s.IsForward := by decide
  obtain ⟨hput, htaken⟩ := kept_below_capacity 2 5 (by decide)
    [.put ['a'] ⟨['n'], ['r'], ['e']⟩] late hlate ['a']
  have hfound := ((hput ⟨['p'], ['u'], ['h']⟩).1 (by decide) (by decide) (by decide)).2
  have hredeemed := ((htaken 1 ⟨⟨['n'], ['r'], ['e']⟩, by decide⟩ (by decide)).1
    (by decide) (by decide)).2 0
  exact ⟨⟨by decide, hlate⟩, hfound, by decide, hredeemed, by decide⟩

end SignOn.Cache.Timed
