import Mathlib.Data.List.TakeWhile
import SignOn.Url.Origin

/-!
# Origins and their hosts

The scheme and the authority of a URL of the web do not depend on the slashes at its end.  An
authority that is not empty names a host, unless it is a user name, a port, or both; a user name may
also take up the one pair of brackets that is looked at.
-/

namespace SignOn.Url

variable {t base slashes authority : Text} {origin : Origin}

theorem cleaned_append (hslashes : ∀ c ∈ slashes, c = CodePoint.ofChar '/')
    (hbase : CodePoint.ofChar ':' ∈ base) :
    cleaned (base ++ slashes) = cleaned base ++ slashes := by
  have hdrop : ¬(base.dropWhile fun c => decide (c.val ≤ 0x20)).isEmpty = true := by
    rw [List.isEmpty_iff, List.dropWhile_eq_nil_iff]
    exact fun hall => absurd (hall _ hbase) (by decide)
  unfold cleaned
  rw [List.dropWhile_append, if_neg hdrop, List.filter_append]
  refine congrArg (_ ++ ·) (List.filter_eq_self.mpr fun c hc => ?_)
  rw [hslashes c hc]
  decide

theorem mem_of_mem_cleaned {c : CodePoint} (h : c ∈ cleaned t) : c ∈ t :=
  (List.dropWhile_sublist _).subset (List.mem_filter.mp h).1

theorem colon_mem_of_leadingScheme (h : (leadingScheme t).1 ≠ []) : CodePoint.ofChar ':' ∈ t := by
  unfold leadingScheme at h
  split at h
  next c rest after hcut =>
    rw [(Split.cutFirst?_eq_some hcut).1]
    simp
  · exact absurd rfl h

theorem leadingScheme_append (hslashes : ∀ c ∈ slashes, c = CodePoint.ofChar '/')
    (h : (leadingScheme (base ++ slashes)).1 ≠ []) :
    leadingScheme (base ++ slashes) =
      ((leadingScheme base).1, (leadingScheme base).2 ++ slashes) := by
  have hcolon : CodePoint.ofChar ':' ∈ base := by
    refine (List.mem_append.mp (colon_mem_of_leadingScheme h)).resolve_right fun hmem => ?_
    exact absurd (hslashes _ hmem) (by decide)
  obtain ⟨before, after, rfl, hbefore⟩ := List.eq_append_cons_of_mem hcolon
  unfold leadingScheme at h ⊢
  rw [List.append_assoc, List.cons_append, Split.cutFirst?_append hbefore] at h ⊢
  rw [Split.cutFirst?_append hbefore]
  cases before with
  | nil => exact absurd rfl h
  | cons c rest =>
      dsimp only at h ⊢
      by_cases hscheme : c.isLetter && rest.all isSchemePoint
      · simp only [if_pos hscheme]
      · simp only [if_neg hscheme] at h
        exact absurd rfl h

theorem authorityOf_append (hslashes : ∀ c ∈ slashes, c = CodePoint.ofChar '/')
    (h : authorityOf (t ++ slashes) ≠ []) : authorityOf (t ++ slashes) = authorityOf t := by
  have hnone : ∀ n, (slashes.drop n).takeWhile (fun c => !endsAuthority c) = [] := by
    intro n
    refine List.takeWhile_eq_nil_iff.mpr fun hpos => ?_
    rw [hslashes _ (List.mem_of_mem_drop (List.get_mem _ _))]
    decide
  unfold authorityOf at h ⊢
  dsimp only at h ⊢
  -- The two slashes before an authority stand in the text itself, or else nothing comes after them.
  match t with
  | [] =>
      rw [List.nil_append, hnone 2, ite_self] at h
      exact absurd rfl h
  | [c] =>
      rw [List.singleton_append, List.drop_succ_cons, hnone 1, ite_self] at h
      exact absurd rfl h
  | c :: d :: rest =>
      have hstarts : (Text.ofString "//").isPrefixOf (c :: d :: rest ++ slashes) =
          (Text.ofString "//").isPrefixOf (c :: d :: rest) := rfl
      have hpart : (rest ++ slashes).takeWhile (fun c => !endsAuthority c) =
          rest.takeWhile fun c => !endsAuthority c := by
        rw [List.takeWhile_append]
        split
        next hall =>
          have hslashesNone := hnone 0
          rw [List.drop_zero] at hslashesNone
          rw [hslashesNone, List.append_nil]
          exact (List.takeWhile_prefix _).eq_of_length hall |>.symm
        · rfl
      rw [hstarts]
      exact congrArg (ite _ · _) hpart

theorem origin?_eq_ok_iff :
    origin? t = .ok origin ↔
      (leadingScheme (cleaned t)).1 = origin.scheme ∧
        authorityOf (leadingScheme (cleaned t)).2 = origin.authority ∧
        checkBrackets origin.authority = .ok () ∧ checkCompatibility origin.authority = .ok () := by
  obtain ⟨scheme, authority⟩ := origin
  unfold origin?
  dsimp only
  constructor
  · intro h
    cases hbrackets : checkBrackets (authorityOf (leadingScheme (cleaned t)).2) with
    | error fault => simp [hbrackets, bind, Except.bind] at h
    | ok u =>
        cases hforms : checkCompatibility (authorityOf (leadingScheme (cleaned t)).2) with
        | error fault => simp [hbrackets, hforms, bind, Except.bind] at h
        | ok v =>
            simp only [hbrackets, hforms, bind, Except.bind, Except.ok.injEq, Origin.mk.injEq] at h
            obtain ⟨rfl, rfl⟩ := h
            exact ⟨rfl, rfl, hbrackets, hforms⟩
  · rintro ⟨rfl, rfl, hbrackets, hforms⟩
    simp [hbrackets, hforms, bind, Except.bind]

theorem Origin.scheme_of_isWeb (h : origin.isWeb) :
    origin.scheme = Text.ofString "http" ∨ origin.scheme = Text.ofString "https" := by
  simp only [isWeb, Bool.and_eq_true, Bool.or_eq_true, decide_eq_true_eq] at h
  exact h.1

theorem Origin.authority_of_isWeb (h : origin.isWeb) : origin.authority ≠ [] := by
  simp only [isWeb, Bool.and_eq_true, Bool.not_eq_true', List.isEmpty_eq_false_iff] at h
  exact h.2

theorem origin?_of_append (hslashes : ∀ c ∈ slashes, c = CodePoint.ofChar '/')
    (h : origin? (base ++ slashes) = .ok origin) (hweb : origin.isWeb) :
    origin? base = .ok origin := by
  obtain ⟨hscheme, hauthority, hbrackets, hforms⟩ := origin?_eq_ok_iff.mp h
  have hsome : (leadingScheme (cleaned (base ++ slashes))).1 ≠ [] := by
    rw [hscheme]
    rcases Origin.scheme_of_isWeb hweb with hequal | hequal <;> rw [hequal] <;> decide
  have hcolon : CodePoint.ofChar ':' ∈ base := by
    have hmem := mem_of_mem_cleaned (colon_mem_of_leadingScheme hsome)
    refine (List.mem_append.mp hmem).resolve_right fun hslash => ?_
    exact absurd (hslashes _ hslash) (by decide)
  rw [cleaned_append hslashes hcolon] at hscheme hauthority hsome
  rw [leadingScheme_append hslashes hsome] at hscheme hauthority
  have hplace : authorityOf ((leadingScheme (cleaned base)).2 ++ slashes) ≠ [] := by
    rw [hauthority]
    exact Origin.authority_of_isWeb hweb
  rw [authorityOf_append hslashes hplace] at hauthority
  exact origin?_eq_ok_iff.mpr ⟨hscheme, hauthority, hbrackets, hforms⟩

def Origin.place (origin : Origin) : Text :=
  ((Split.cutLast? (CodePoint.ofChar '@') origin.authority).getD ([], origin.authority)).2

/-- The host that an authority names: what stands in brackets after the user name, or else what
stands there up to the port. -/
def Origin.host (origin : Origin) : Text :=
  if CodePoint.ofChar '[' ∈ origin.place then bracketed origin.place
  else origin.place.takeWhile (· ≠ CodePoint.ofChar ':')

/-- An authority that need not name a host. -/
inductive Hostless : Text → Prop
  | user (name : Text) : Hostless (name ++ [CodePoint.ofChar '@'])
  | port (port : Text) : Hostless (CodePoint.ofChar ':' :: port)
  | userAndPort (name port : Text) :
      Hostless (name ++ CodePoint.ofChar '@' :: CodePoint.ofChar ':' :: port)
  | userInBrackets (name place : Text) (hname : CodePoint.ofChar '[' ∈ name)
      (hplace : CodePoint.ofChar '[' ∈ place) : Hostless (name ++ CodePoint.ofChar '@' :: place)

theorem bracketed_ne_nil (h : checkBrackets authority = .ok ())
    (hopens : CodePoint.ofChar '[' ∈ authority) : bracketed authority ≠ [] := by
  intro hnil
  have hopens : authority.contains (CodePoint.ofChar '[') = true := List.contains_iff_mem.mpr hopens
  have hoctets : Address.isFourOctets [] = false := by decide
  have hgroups : Address.isEightGroups [] = false := by decide
  unfold checkBrackets at h
  simp only [hopens, hnil, hoctets, hgroups] at h
  split at h <;> simp at h

theorem bracketed_append {name : Text} (hname : CodePoint.ofChar '[' ∉ name) (place : Text) :
    bracketed (name ++ CodePoint.ofChar '@' :: place) = bracketed place := by
  have hpassed : ∀ c ∈ name ++ [CodePoint.ofChar '@'],
      decide (c ≠ CodePoint.ofChar '[') = true := by
    intro c hc
    rw [decide_eq_true_eq]
    rintro rfl
    rcases List.mem_append.mp hc with hmem | hmem
    · exact hname hmem
    · exact absurd (List.mem_singleton.mp hmem) (by decide)
  unfold bracketed
  rw [List.append_cons, List.dropWhile_append_of_pos hpassed]

theorem eq_of_takeWhile_eq_nil {place : Text}
    (h : place.takeWhile (· ≠ CodePoint.ofChar ':') = []) :
    place = [] ∨ ∃ port, place = CodePoint.ofChar ':' :: port := by
  cases place with
  | nil => exact .inl rfl
  | cons c port =>
      have hcolon : c = CodePoint.ofChar ':' := by simpa using List.takeWhile_eq_nil_iff.mp h
      exact .inr ⟨port, by rw [hcolon]⟩

theorem hostless_of_host_eq_nil (h : checkBrackets origin.authority = .ok ())
    (hauthority : origin.authority ≠ []) (hhost : origin.host = []) :
    Hostless origin.authority := by
  unfold Origin.host Origin.place at hhost
  cases hcut : Split.cutLast? (CodePoint.ofChar '@') origin.authority with
  | none =>
      simp only [hcut, Option.getD_none] at hhost
      split at hhost
      next hopens => exact absurd hhost (bracketed_ne_nil h hopens)
      · obtain hnil | ⟨port, hport⟩ := eq_of_takeWhile_eq_nil hhost
        · exact absurd hnil hauthority
        · rw [hport]
          exact .port port
  | some cut =>
      obtain ⟨name, place⟩ := cut
      have hequal := Split.cutLast?_eq_some hcut
      simp only [hcut, Option.getD_some] at hhost
      rw [hequal] at h ⊢
      split at hhost
      next hopens =>
        -- Only the first pair of brackets is checked, wherever it stands.
        by_cases hname : CodePoint.ofChar '[' ∈ name
        · exact .userInBrackets name place hname hopens
        · have hbracketed := bracketed_ne_nil h (by simp [hopens])
          rw [bracketed_append hname] at hbracketed
          exact absurd hhost hbracketed
      · obtain rfl | ⟨port, rfl⟩ := eq_of_takeWhile_eq_nil hhost
        · exact .user name
        · exact .userAndPort name port

end SignOn.Url
