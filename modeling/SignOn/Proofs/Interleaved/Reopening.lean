import SignOn.Proofs.Cache.Visible
import SignOn.Proofs.Interleaved.Moves

/-!
# No way back from redemption

An exchange asks the cache twice about a code, then waits for the provider, and clears the code's
marker when it stores the identity.  Meanwhile redemptions go on without the lock, and entries end
at any moment.  Still, wherever an exchange is about to store, the code has neither an identity nor
a marker: a code that an exchange has found to have neither stays so until the exchange is done with
it.
-/

namespace SignOn

namespace State

variable {state : State} {action : Action} {code : Text}

def hasIdentity (state : State) (code : Text) : Bool :=
  state.cache.identities.contains state.clock code

def hasMarker (state : State) (code : Text) : Bool :=
  state.cache.markers.contains state.clock code

theorem phase_eq_initiated :
    state.phase code = .initiated ↔ ¬ state.hasIdentity code ∧ ¬ state.hasMarker code := by
  unfold phase Cache.phase hasIdentity hasMarker
  split
  next h => simp [h]
  next h => split <;> simp_all

theorem phase_eq_exchanged : state.phase code = .exchanged ↔ state.hasIdentity code := by
  unfold phase Cache.phase hasIdentity
  split
  next h => simp [h]
  next h => split <;> simp_all

theorem phase_eq_redeemed :
    state.phase code = .redeemed ↔ ¬ state.hasIdentity code ∧ state.hasMarker code := by
  unfold phase Cache.phase hasIdentity hasMarker
  split
  next h => simp [h]
  next h => split <;> simp_all

theorem hasIdentity_perform (h : (state.perform action).2.hasIdentity code) :
    state.hasIdentity code ∨ ∃ identity, action = .store code identity := by
  cases action with
  | lookUp other =>
      exact .inl (by
        simpa [perform, lookUp, hasIdentity, Cache.get, Cache.Shelf.contains_read] using h)
  | withdraw other =>
      simp [perform, withdraw, hasIdentity, setIdentities, Cache.Shelf.contains_remove] at h
      exact .inl h.2
  | store other identity =>
      rcases Cache.Shelf.contains_of_write h with rfl | hold
      · exact .inr ⟨identity, rfl⟩
      · exact .inl hold
  | send request => exact .inl (by simpa [perform, hasIdentity] using h)
  | saveNonce nonce => exact .inl (by simpa [perform, hasIdentity] using h)
  | deleteNonce row => exact .inl (by simpa [perform, hasIdentity] using h)
  | _ => exact .inl h

theorem hasMarker_perform (h : (state.perform action).2.hasMarker code) :
    state.hasMarker code ∨ action = .mark code := by
  cases action with
  | unmark other =>
      simp [perform, unmark, hasMarker, setMarkers, Cache.Shelf.contains_remove] at h
      exact .inl h.2
  | mark other =>
      rcases Cache.Shelf.contains_of_write h with rfl | hold
      · exact .inr rfl
      · exact .inl hold
  | send request => exact .inl (by simpa [perform, hasMarker] using h)
  | saveNonce nonce => exact .inl (by simpa [perform, hasMarker] using h)
  | deleteNonce row => exact .inl (by simpa [perform, hasMarker] using h)
  | _ => exact .inl h

theorem lost_marker (h : state.hasMarker code) (hlost : ¬ (state.perform action).2.hasMarker code) :
    action = .unmark code ∨ ∃ other, action = .mark other ∧ (code ≠ other →
      (state.cache.markers.visible state.clock).length = state.cache.markers.capacity ∧
        (state.cache.markers.visible state.clock).head?.map (·.key) = some code) := by
  cases action with
  | unmark other =>
      by_cases hcode : code = other
      · exact .inl (hcode ▸ rfl)
      · refine absurd ?_ hlost
        simpa [perform, unmark, hasMarker, setMarkers, Cache.Shelf.contains_remove, hcode] using h
  | mark other => exact .inr ⟨other, rfl, fun hcode => Cache.Shelf.full_of_write hcode h hlost⟩
  | send request => exact absurd (by simpa [perform, hasMarker] using h) hlost
  | saveNonce nonce => exact absurd (by simpa [perform, hasMarker] using h) hlost
  | deleteNonce row => exact absurd (by simpa [perform, hasMarker] using h) hlost
  | _ => exact absurd h hlost

theorem lookUp_eq_none : (state.lookUp code).1 = none ↔ ¬ state.hasIdentity code := by
  simp [lookUp, Cache.get, Cache.Shelf.read_fst, hasIdentity, Cache.Shelf.contains_eq]

theorem withdraw_eq_none : (state.withdraw code).1 = none ↔ ¬ state.hasIdentity code := by
  simp [withdraw, Cache.Shelf.remove_fst, hasIdentity, Cache.Shelf.contains_eq]

theorem not_hasIdentity_withdraw : ¬ (state.withdraw code).2.hasIdentity code := by
  simp [withdraw, hasIdentity, setIdentities, Cache.Shelf.contains_remove]

end State

namespace Service

open ExchangeLock (Visit)

namespace Point

/-- An exchange has found that its code has neither an identity nor a marker, and others may have
the turn. -/
def isVacant : Point → Bool
  | asking | asked .. | checked .. => true
  | _ => false

def lacksIdentity : Point → Bool
  | unexchanged | asking | asked .. | checked .. | storing .. | withdrawn _ => true
  | _ => false

def lacksMarker : Point → Bool
  | unmarked | asking | asked .. | checked .. | storing .. | withdrawn _ => true
  | _ => false

theorem isVacant_or_isBrief {p : Point} (h : p.lacksIdentity ∨ p.lacksMarker) :
    p.isVacant ∨ p.isBrief := by
  cases p <;> simp_all [lacksIdentity, lacksMarker, isVacant, isBrief]

theorem lacksIdentity_of_isVacant {p : Point} (h : p.isVacant) : p.lacksIdentity := by
  cases p <;> simp_all [isVacant, lacksIdentity]

theorem isVisiting_of_isVacant {p : Point} (h : p.isVacant) : p.isVisiting := by
  cases p <;> simp_all [isVacant, isVisiting]

end Point

variable {client : Client} {run after : Interleaved} {seats later : Nat → Seat}
  {visits : List Visit} {code : Text} {p q : Point} {state : State} {action : Action}

/-- What the points say is true of the cache, and no code has both an identity and a marker. -/
structure Vouches (run : Interleaved) (seats : Nat → Seat) : Prop where
  exclusive : ∀ code, run.state.hasIdentity code → ¬ run.state.hasMarker code
  identity : ∀ (n : Nat) task, run.tasks[n]? = some task → (seats n).point.lacksIdentity →
    ¬ run.state.hasIdentity (seats n).code
  marker : ∀ (n : Nat) task, run.tasks[n]? = some task → (seats n).point.lacksMarker →
    ¬ run.state.hasMarker (seats n).code
  apart : ∀ (m n : Nat) task other identity, run.tasks[m]? = some task →
    run.tasks[n]? = some other → (seats m).point = .withdrawn identity →
    (seats n).point.isVacant → (seats m).code ≠ (seats n).code

/-! ## One task -/

theorem of_store (h : Progress code p action (state.perform action).1 q) {other : Text}
    {identity : Identity} (haction : action = .store other identity) :
    other = code ∧ ∃ request outcome now, p = .storing request outcome now := by
  subst haction
  generalize (state.perform (.store other identity)).1 = answer at h
  cases h <;> exact ⟨rfl, _, _, _, rfl⟩

theorem of_mark (h : Progress code p action (state.perform action).1 q) {other : Text}
    (haction : action = .mark other) : other = code ∧ ∃ identity, p = .withdrawn identity := by
  subst haction
  generalize (state.perform (.mark other)).1 = answer at h
  cases h
  exact ⟨rfl, _, rfl⟩

theorem hasIdentity_of_withdrawn {identity : Identity}
    (h : Progress code p action (state.perform action).1 (.withdrawn identity)) :
    state.hasIdentity code := by
  generalize hanswer : (state.perform action).1 = answer at h
  cases h with
  | withdraw =>
      by_contra hnone
      exact nomatch hanswer.symm.trans (State.withdraw_eq_none.mpr hnone)
  | document hopen => contradiction
  | keep hopen => contradiction
  | fetch hopen => contradiction

theorem not_hasIdentity_perform (h : Progress code p action (state.perform action).1 q)
    (hbefore : p.lacksIdentity → ¬ state.hasIdentity code) (hq : q.lacksIdentity) :
    ¬ (state.perform action).2.hasIdentity code := by
  intro hidentity
  rcases State.hasIdentity_perform hidentity with hold | ⟨identity, rfl⟩
  · generalize hanswer : (state.perform action).1 = answer at h
    cases h with
    | hasNone => exact Bool.false_ne_true (hanswer.symm.trans hold)
    | findNone => exact State.lookUp_eq_none.mp hanswer hold
    | withdraw identity => exact State.not_hasIdentity_withdraw hidentity
    | document hopen => exact hbefore hq hold
    | keep hopen => exact hbefore hq hold
    | fetch hopen => exact hbefore hq hold
    | ask => exact hbefore rfl hold
    | check => exact hbefore rfl hold
    | unmark => exact hbefore rfl hold
    | _ => contradiction
  · generalize (state.perform (.store code identity)).1 = answer at h
    cases h <;> contradiction

theorem not_hasMarker_perform (h : Progress code p action (state.perform action).1 q)
    (hexclusive : state.hasIdentity code → ¬ state.hasMarker code)
    (hbefore : p.lacksMarker → ¬ state.hasMarker code) (hq : q.lacksMarker) :
    ¬ (state.perform action).2.hasMarker code := by
  intro hmarker
  have hwithdrawn : ∀ identity, q = .withdrawn identity → state.hasIdentity code := by
    rintro identity rfl
    exact hasIdentity_of_withdrawn h
  rcases State.hasMarker_perform hmarker with hold | rfl
  · generalize hanswer : (state.perform action).1 = answer at h
    cases h with
    | hasIdentity => exact hexclusive hanswer hold
    | hasNeither => exact Bool.false_ne_true (hanswer.symm.trans hold)
    | findNone => exact hbefore rfl hold
    | withdraw identity =>
        exact hexclusive (hwithdrawn identity rfl) hold
    | document hopen => exact hbefore hq hold
    | keep hopen => exact hbefore hq hold
    | fetch hopen => exact hbefore hq hold
    | ask => exact hbefore rfl hold
    | check => exact hbefore rfl hold
    | unmark => exact hbefore rfl hold
    | _ => contradiction
  · generalize (state.perform (.mark code)).1 = answer at h
    cases h
    contradiction

/-! ## All tasks -/

theorem Seat.not_isEntering_of_isVacant {seat : Seat} {task : Task} (h : seat.Holds task)
    (hvacant : seat.point.isVacant) : task.isEntering = false := by
  cases hentering : task.isEntering with
  | false => rfl
  | true =>
      rw [Seat.point_of_isEntering h hentering] at hvacant
      contradiction

theorem Seated.ne_store_of_isVacant (hseated : Seated run seats visits) {n : Nat}
    {next : action.Answer → Flow Text}
    (htask : run.tasks[n]? = some (.ready (.act action next)))
    (hprogress : Progress (seats n).code (seats n).point action (run.state.perform action).1 q)
    {m : Nat} {other : Task} (hne : m ≠ n) (hm : run.tasks[m]? = some other)
    (hvacant : (seats m).point.isVacant) (identity : Identity) :
    action ≠ .store (seats m).code identity := by
  intro haction
  obtain ⟨hcode, request, outcome, now, hstoring⟩ := of_store hprogress haction
  have hvisiting : (seats n).point.isVisiting := by
    rw [hstoring]
    rfl
  have hentered := Seat.not_isEntering_of_isVacant (hseated.holds m other hm) hvacant
  exact hne (hseated.eq_of_entered hm htask hcode (Point.isVisiting_of_isVacant hvacant)
    hvisiting hentered rfl)

theorem Vouches.exclusive_perform (h : Vouches run seats) {n : Nat}
    {next : action.Answer → Flow Text}
    (htask : run.tasks[n]? = some (.ready (.act action next)))
    (hprogress : Progress (seats n).code (seats n).point action (run.state.perform action).1 q)
    (hidentity : (run.state.perform action).2.hasIdentity code) :
    ¬ (run.state.perform action).2.hasMarker code := by
  intro hmarker
  rcases State.hasIdentity_perform hidentity with hi | ⟨identity, haction⟩ <;>
    rcases State.hasMarker_perform hmarker with hm | haction'
  · exact h.exclusive code hi hm
  · obtain ⟨rfl, identity, hpoint⟩ := of_mark hprogress haction'
    exact h.identity n _ htask (by rw [hpoint]; rfl) hi
  · obtain ⟨rfl, request, outcome, now, hpoint⟩ := of_store hprogress haction
    exact h.marker n _ htask (by rw [hpoint]; rfl) hm
  · exact nomatch haction.symm.trans haction'

theorem Vouches.call (h : Vouches run seats) (hseated : Seated run seats visits) {n : Nat}
    {next : action.Answer → Flow Text}
    (htask : run.tasks[n]? = some (.ready (.act action next)))
    (hturn : run.turn = none ∨ run.turn = some n)
    (hprogress : Progress (seats n).code (seats n).point action (run.state.perform action).1 q)
    (hstate : after.state = (run.state.perform action).2) {task : Task}
    (htasks : after.tasks = run.tasks.set n task) :
    Vouches after (Function.update seats n ⟨(seats n).code, q⟩) := by
  have hrest : ∀ (m : Nat) other, m ≠ n → after.tasks[m]? = some other →
      run.tasks[m]? = some other := by
    intro m other hne hm
    rwa [htasks, List.getElem?_set_ne (Ne.symm hne)] at hm
  -- A point that says something of the cache is brief, and then its task has the turn, or vacant,
  -- and then only the lock and `apart` keep others from making it untrue.
  have hvacant : ∀ (m : Nat) other, m ≠ n → run.tasks[m]? = some other →
      ((seats m).point.lacksIdentity ∨ (seats m).point.lacksMarker) →
      (seats m).point.isVacant := by
    intro m other hne hm hlacks
    refine (Point.isVacant_or_isBrief hlacks).resolve_right ?_
    simp [hseated.not_isBrief hturn hne hm]
  constructor
  case exclusive =>
    intro code hidentity
    rw [hstate] at hidentity ⊢
    exact h.exclusive_perform htask hprogress hidentity
  case identity =>
    intro m other hm hlacks
    rw [hstate]
    by_cases hne : m = n
    · subst hne
      rw [Function.update_self] at hlacks ⊢
      exact not_hasIdentity_perform hprogress (h.identity m _ htask) hlacks
    · rw [Function.update_of_ne hne] at hlacks ⊢
      intro hidentity
      have hold := hrest m other hne hm
      rcases State.hasIdentity_perform hidentity with hi | ⟨identity, haction⟩
      · exact h.identity m other hold hlacks hi
      · exact hseated.ne_store_of_isVacant htask hprogress hne hold
          (hvacant m other hne hold (.inl hlacks)) identity haction
  case marker =>
    intro m other hm hlacks
    rw [hstate]
    by_cases hne : m = n
    · subst hne
      rw [Function.update_self] at hlacks ⊢
      exact not_hasMarker_perform hprogress (h.exclusive _) (h.marker m _ htask) hlacks
    · rw [Function.update_of_ne hne] at hlacks ⊢
      intro hmarker
      have hold := hrest m other hne hm
      rcases State.hasMarker_perform hmarker with hm' | haction
      · exact h.marker m other hold hlacks hm'
      · obtain ⟨hcode, identity, hpoint⟩ := of_mark hprogress haction
        exact h.apart n m _ other identity htask hold hpoint
          (hvacant m other hne hold (.inr hlacks)) hcode.symm
  case apart =>
    intro m k other another identity hm hk hpoint hkvacant
    by_cases hmn : m = n
    · subst hmn
      rw [Function.update_self] at hpoint ⊢
      obtain rfl : q = .withdrawn identity := hpoint
      by_cases hkm : k = m
      · subst hkm
        rw [Function.update_self] at hkvacant
        contradiction
      · rw [Function.update_of_ne hkm] at hkvacant ⊢
        have hidentity := hasIdentity_of_withdrawn hprogress
        have hlacks := Point.lacksIdentity_of_isVacant hkvacant
        exact fun heq => h.identity k another (hrest k another hkm hk) hlacks (heq ▸ hidentity)
    · rw [Function.update_of_ne hmn] at hpoint
      have hbrief := hseated.not_isBrief hturn hmn (hrest m other hmn hm)
      rw [hpoint] at hbrief
      contradiction

theorem vouches_start (initial : State) (seats : Nat → Seat)
    (h : ∀ code, initial.hasIdentity code → ¬ initial.hasMarker code) :
    Vouches (.start initial) seats where
  exclusive := h
  identity n task htask := by simp [Interleaved.start] at htask
  marker n task htask := by simp [Interleaved.start] at htask
  apart m n task other identity hm := by simp [Interleaved.start] at hm

theorem Vouches.fewer (h : Vouches run seats)
    (hidentity : ∀ code, after.state.hasIdentity code → run.state.hasIdentity code)
    (hmarker : ∀ code, after.state.hasMarker code → run.state.hasMarker code)
    (htasks : ∀ (n : Nat) task, after.tasks[n]? = some task →
      (∃ call : Call, later n = call.seat) ∨
        later n = seats n ∧ ∃ old, run.tasks[n]? = some old) :
    Vouches after later where
  exclusive code hi hm := h.exclusive code (hidentity code hi) (hmarker code hm)
  identity := by
    intro n task hn hlacks hi
    rcases htasks n task hn with ⟨call, hseat⟩ | ⟨hsame, old, hold⟩
    · rw [hseat] at hlacks
      cases call <;> contradiction
    · rw [hsame] at hlacks hi
      exact h.identity n old hold hlacks (hidentity _ hi)
  marker := by
    intro n task hn hlacks hm
    rcases htasks n task hn with ⟨call, hseat⟩ | ⟨hsame, old, hold⟩
    · rw [hseat] at hlacks
      cases call <;> contradiction
    · rw [hsame] at hlacks hm
      exact h.marker n old hold hlacks (hmarker _ hm)
  apart := by
    intro m n task other identity hm hn hpoint hvacant
    rcases htasks m task hm with ⟨call, hseat⟩ | ⟨hmsame, mold, hmold⟩
    · rw [hseat] at hpoint
      cases call <;> contradiction
    rcases htasks n other hn with ⟨call, hseat⟩ | ⟨hnsame, nold, hnold⟩
    · rw [hseat] at hvacant
      cases call <;> contradiction
    rw [hmsame] at hpoint ⊢
    rw [hnsame] at hvacant ⊢
    exact h.apart m n mold nold identity hmold hnold hpoint hvacant

theorem Vouches.moved (h : Vouches run seats) (hseated : Seated run seats visits) {move : Move}
    (hmoved : Moved client run seats move after later) : Vouches after later := by
  have hseats : (∀ n action next, move = .proceed n →
        run.tasks[n]? ≠ some (.ready (.act action next))) →
      ∀ (n : Nat) task, after.tasks[n]? = some task →
        (∃ call : Call, later n = call.seat) ∨
          later n = seats n ∧ ∃ old, run.tasks[n]? = some old := by
    intro hnot n task hn
    rcases hmoved.task_cases hn with hnew | ⟨hseat, hold⟩ |
      ⟨action, next, q, hmove, htask, -⟩ | ⟨action, answer, next, -, hold, hseat, -⟩
    · exact .inl hnew
    · exact .inr ⟨hseat, task, hold⟩
    · exact absurd htask (hnot n action next hmove)
    · exact .inr ⟨hseat, _, hold⟩
  cases hmoved with
  | begin call => exact h.fewer (fun _ hi => hi) (fun _ hm => hm) (hseats nofun)
  | call htask hturn hprogress hstate htasks =>
      exact h.call hseated htask hturn hprogress hstate htasks
  | resume htask hstate htasks =>
      refine h.fewer (fun _ hi => hstate ▸ hi) (fun _ hm => hstate ▸ hm) (hseats ?_)
      rintro n action next ⟨⟩ hready
      exact nomatch htask.symm.trans hready
  | advance ticks =>
      have hle : run.state.clock ≤ run.state.clock + ticks :=
        Int.le_add_of_nonneg_right (Int.natCast_nonneg ticks)
      exact h.fewer (fun code hi => Cache.Shelf.contains_of_le _ hle hi)
        (fun code hm => Cache.Shelf.contains_of_le _ hle hm) (hseats nofun)

/-! ## What follows -/

def isPut (code : Text) : Action → Prop
  | .unmark other | .store other _ => other = code
  | _ => False

theorem Vouches.initiated_of_isPut (h : Vouches run seats) (hseated : Seated run seats visits)
    {n : Nat} {next : action.Answer → Flow Text}
    (htask : run.tasks[n]? = some (.ready (.act action next))) (hput : isPut code action) :
    run.state.phase code = .initiated := by
  obtain ⟨q, hprogress, -⟩ := hseated.holds n _ htask (run.state.perform action).1
  have hpoint : (seats n).code = code ∧ (seats n).point.lacksIdentity ∧
      (seats n).point.lacksMarker := by
    generalize (run.state.perform action).1 = answer at hprogress
    generalize (seats n).point = p at hprogress ⊢
    cases hprogress with
    | unmark => exact ⟨hput, rfl, rfl⟩
    | store hgranted => exact ⟨hput, rfl, rfl⟩
    | storeNot => exact ⟨hput, rfl, rfl⟩
    | _ => exact hput.elim
  obtain ⟨rfl, hidentity, hmarker⟩ := hpoint
  exact State.phase_eq_initiated.mpr
    ⟨h.identity n _ htask hidentity, h.marker n _ htask hmarker⟩

def Expires (run : Interleaved) (move : Move) (code : Text) : Prop :=
  ∃ ticks, move = .advance ticks ∧ ∃ entry ∈ run.state.cache.markers.entries,
    entry.key = code ∧ entry.deadline ≤ run.state.clock + ticks

/-- Another code's marker takes the place of the code's, the least recently used of a full
shelf. -/
def IsEvicted (run : Interleaved) (move : Move) (code : Text) : Prop :=
  ∃ n other next, move = .proceed n ∧ run.tasks[n]? = some (.ready (.act (.mark other) next)) ∧
    other ≠ code ∧
    (run.state.cache.markers.visible run.state.clock).length = run.state.cache.markers.capacity ∧
    (run.state.cache.markers.visible run.state.clock).head?.map (·.key) = some code

theorem Vouches.leaves_redeemed (h : Vouches run seats) (hseated : Seated run seats visits)
    {move : Move}
    (hmoved : Moved client run seats move after later)
    (hredeemed : run.state.phase code = .redeemed) (hleft : after.state.phase code ≠ .redeemed) :
    Expires run move code ∨ IsEvicted run move code := by
  obtain ⟨hidentity, hmarker⟩ := State.phase_eq_redeemed.mp hredeemed
  cases hmoved with
  | begin call => exact absurd hredeemed hleft
  | resume htask hstate htasks => exact absurd (hstate ▸ hredeemed) hleft
  | advance ticks =>
      left
      obtain ⟨entry, hentry, hkey⟩ := (Cache.Shelf.contains_iff _ _ _).mp hmarker
      have hentry := (List.mem_filter.mp hentry).1
      refine ⟨ticks, rfl, entry, hentry, hkey, ?_⟩
      by_contra hlive
      refine hleft (State.phase_eq_redeemed.mpr ⟨?_, ?_⟩)
      · have hle : run.state.clock ≤ run.state.clock + ticks :=
          Int.le_add_of_nonneg_right (Int.natCast_nonneg ticks)
        exact fun hi => hidentity (Cache.Shelf.contains_of_le _ hle hi)
      · refine (Cache.Shelf.contains_iff _ _ _).mpr ⟨entry, List.mem_filter.mpr ⟨hentry, ?_⟩, hkey⟩
        exact decide_eq_true (Int.not_le.mp hlive)
  | @call n action next q after htask hturn hprogress hstate htasks =>
      right
      have hstays : ¬ after.state.hasIdentity code := by
        rw [hstate]
        intro hi
        rcases State.hasIdentity_perform hi with hold | ⟨identity, haction⟩
        · exact hidentity hold
        · obtain ⟨rfl, request, outcome, now, hpoint⟩ := of_store hprogress haction
          exact h.marker n _ htask (by rw [hpoint]; rfl) hmarker
      have hlost : ¬ (run.state.perform action).2.hasMarker code := by
        rw [← hstate]
        exact fun hm => hleft (State.phase_eq_redeemed.mpr ⟨hstays, hm⟩)
      rcases State.lost_marker hmarker hlost with rfl | ⟨other, rfl, hfull⟩
      · have hinitiated := h.initiated_of_isPut hseated htask (rfl : isPut code (.unmark code))
        exact nomatch hinitiated.symm.trans hredeemed
      · have hne : other ≠ code := by
          rintro rfl
          obtain ⟨rfl, identity, hpoint⟩ := of_mark hprogress rfl
          exact h.marker n _ htask (by rw [hpoint]; rfl) hmarker
        exact ⟨n, other, next, rfl, htask, hne, hfull hne.symm⟩

end Service

end SignOn
