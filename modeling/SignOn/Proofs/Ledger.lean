import SignOn.Text.Basic

/-!
# Giving and taking

Things happen in order; some give a value to a key, others take one from it.  If whatever is taken
has been given before, and nothing is kept of a key from which something was taken, then all that
is taken has an origin of its own among the things that gave.
-/

namespace SignOn

structure Ledger (τ α : Type) where
  gives : τ → Text → α → Prop
  takes : τ → Text → α → Prop

namespace Ledger

variable {τ α : Type} {ledger : Ledger τ α} {past : List τ} {t : τ} {key : Text} {value : α}
  {held next : Text → α → Prop}

def IsOwed (ledger : Ledger τ α) (past : List τ) (key : Text) (value : α) : Prop :=
  ∃ (k : Nat) (giver : τ), past[k]? = some giver ∧ ledger.gives giver key value ∧
    ∀ (i : Nat) (taker : τ) taken, k < i → past[i]? = some taker → ¬ ledger.takes taker key taken

/-- Whatever is held is owed, and whatever was taken was owed at that time. -/
structure IsBalanced (ledger : Ledger τ α) (past : List τ) (held : Text → α → Prop) : Prop where
  kept : ∀ key value, held key value → ledger.IsOwed past key value
  taken : ∀ (i : Nat) (taker : τ) key value, past[i]? = some taker →
    ledger.takes taker key value → ledger.IsOwed (past.take i) key value

structure Turns (ledger : Ledger τ α) (t : τ) (held next : Text → α → Prop) : Prop where
  kept : ∀ key value, next key value → held key value ∨ ledger.gives t key value
  taken : ∀ key value, ledger.takes t key value → held key value ∧ ∀ other, ¬ next key other

theorem isOwed_append (h : ledger.IsOwed past key value)
    (ht : ∀ taken, ¬ ledger.takes t key taken) : ledger.IsOwed (past ++ [t]) key value := by
  obtain ⟨k, giver, hk, hgives, hsince⟩ := h
  have hlength := (List.getElem?_eq_some_iff.mp hk).1
  refine ⟨k, giver, by rw [List.getElem?_append_left hlength, hk], hgives, ?_⟩
  intro i taker taken hlt htaker
  rcases Nat.lt_or_ge i past.length with hi | hi
  · rw [List.getElem?_append_left hi] at htaker
    exact hsince i taker taken hlt htaker
  · rw [List.getElem?_append_right hi, List.getElem?_singleton] at htaker
    split at htaker
    · cases htaker
      exact ht taken
    · contradiction

theorem isOwed_of_gives (past : List τ) (h : ledger.gives t key value) :
    ledger.IsOwed (past ++ [t]) key value := by
  refine ⟨past.length, t, by simp, h, ?_⟩
  intro i taker taken hlt htaker
  have hlength := (List.getElem?_eq_some_iff.mp htaker).1
  rw [List.length_append, List.length_singleton] at hlength
  omega

theorem isBalanced_nil (h : ∀ key value, ¬ held key value) : ledger.IsBalanced [] held where
  kept key value hheld := absurd hheld (h key value)
  taken := by simp

theorem IsBalanced.append (h : ledger.IsBalanced past held) (ht : ledger.Turns t held next) :
    ledger.IsBalanced (past ++ [t]) next where
  kept := by
    intro key value hnext
    rcases ht.kept key value hnext with hheld | hgives
    · refine isOwed_append (h.kept key value hheld) fun taken htakes => ?_
      exact (ht.taken key taken htakes).2 value hnext
    · exact isOwed_of_gives past hgives
  taken := by
    intro i taker key value htaker htakes
    rcases Nat.lt_or_ge i past.length with hi | hi
    · rw [List.getElem?_append_left hi] at htaker
      rw [List.take_append_of_le_length (Nat.le_of_lt hi)]
      exact h.taken i taker key value htaker htakes
    · rw [List.getElem?_append_right hi, List.getElem?_singleton] at htaker
      split at htaker
      next hzero =>
        cases htaker
        have hlast : i = past.length := by omega
        rw [hlast, List.take_left]
        exact h.kept key value (ht.taken key value htakes).1
      next => contradiction

/-- Something gave what another takes, and nothing between them takes from the key. -/
structure IsOrigin (ledger : Ledger τ α) (past : List τ) (k i : Nat) (key : Text) (value : α) :
    Prop where
  earlier : k < i
  gives : ∃ giver : τ, past[k]? = some giver ∧ ledger.gives giver key value
  between : ∀ (j : Nat) (taker : τ) taken, k < j → j < i → past[j]? = some taker →
    ¬ ledger.takes taker key taken

theorem IsBalanced.exists_isOrigin {i : Nat} (h : ledger.IsBalanced past held)
    (ht : past[i]? = some t) (htakes : ledger.takes t key value) :
    ∃ k, ledger.IsOrigin past k i key value := by
  obtain ⟨k, giver, hk, hgives, hsince⟩ := h.taken i t key value ht htakes
  have hlt : k < i := by
    have := (List.getElem?_eq_some_iff.mp hk).1
    rw [List.length_take] at this
    omega
  rw [List.getElem?_take_of_lt hlt] at hk
  refine ⟨k, hlt, ⟨giver, hk, hgives⟩, fun j taker taken hkj hji htaker => ?_⟩
  exact hsince j taker taken hkj (by rw [List.getElem?_take_of_lt hji, htaker])

structure IsSimple (ledger : Ledger τ α) : Prop where
  gives : ∀ t key value other otherValue, ledger.gives t key value →
    ledger.gives t other otherValue → key = other
  takes : ∀ t key value other otherValue, ledger.takes t key value →
    ledger.takes t other otherValue → key = other ∧ value = otherValue

theorem IsOrigin.eq (hsimple : ledger.IsSimple) {k i j : Nat} {other : Text} {otherValue : α}
    {u : τ} (hi : ledger.IsOrigin past k i key value)
    (hj : ledger.IsOrigin past k j other otherValue)
    (ht : past[i]? = some t) (httakes : ledger.takes t key value)
    (hu : past[j]? = some u) (hutakes : ledger.takes u other otherValue) : i = j := by
  obtain rfl : key = other := by
    obtain ⟨giver, hgiver, hgives⟩ := hi.gives
    obtain ⟨again, hagain, hgives'⟩ := hj.gives
    obtain rfl : giver = again := Option.some.inj (hgiver.symm.trans hagain)
    exact hsimple.gives giver key value other otherValue hgives hgives'
  -- The earlier of the two would take from the key between the origin and the later one.
  rcases Nat.lt_trichotomy i j with hlt | heq | hgt
  · exact absurd httakes (hj.between i t value hi.earlier hlt ht)
  · exact heq
  · exact absurd hutakes (hi.between j u otherValue hj.earlier hgt hu)

def IsTaker (ledger : Ledger τ α) (past : List τ) (i : Nat) : Prop :=
  ∃ (t : τ) (key : Text) (value : α), past[i]? = some t ∧ ledger.takes t key value

/-- An origin for each time at which something is taken, and another for each. -/
def HasOrigins (ledger : Ledger τ α) (past : List τ) : Prop :=
  ∃ origin : Nat → Nat,
    (∀ (i : Nat) (t : τ) key value, past[i]? = some t → ledger.takes t key value →
      origin i < i ∧ ∃ giver : τ, past[origin i]? = some giver ∧ ledger.gives giver key value) ∧
    ∀ i j, ledger.IsTaker past i → ledger.IsTaker past j → origin i = origin j → i = j

theorem IsBalanced.hasOrigins (h : ledger.IsBalanced past held) (hsimple : ledger.IsSimple) :
    ledger.HasOrigins past := by
  have hchoice : ∀ i, ∃ k, ∀ (t : τ) key value, past[i]? = some t →
      ledger.takes t key value → ledger.IsOrigin past k i key value := by
    intro i
    by_cases htaker : ledger.IsTaker past i
    · obtain ⟨t, key, value, ht, htakes⟩ := htaker
      obtain ⟨k, hk⟩ := h.exists_isOrigin ht htakes
      refine ⟨k, fun u other otherValue hu hutakes => ?_⟩
      obtain rfl : t = u := Option.some.inj (ht.symm.trans hu)
      obtain ⟨rfl, rfl⟩ := hsimple.takes t key value other otherValue htakes hutakes
      exact hk
    · exact ⟨0, fun t key value ht htakes => absurd ⟨t, key, value, ht, htakes⟩ htaker⟩
  obtain ⟨origin, horigin⟩ := Classical.axiomOfChoice hchoice
  refine ⟨origin, fun i t key value ht htakes => ?_, ?_⟩
  · have hk := horigin i t key value ht htakes
    exact ⟨hk.earlier, hk.gives⟩
  · rintro i j ⟨t, key, value, ht, httakes⟩ ⟨u, other, otherValue, hu, hutakes⟩ heq
    have hi := horigin i t key value ht httakes
    have hj := horigin j u other otherValue hu hutakes
    rw [heq] at hi
    exact hi.eq hsimple hj ht httakes hu hutakes

end Ledger

end SignOn
