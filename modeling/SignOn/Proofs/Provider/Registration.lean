import SignOn.Proofs.Checks
import SignOn.Proofs.Provider.Discovery
import SignOn.Proofs.Text.Quoted
import SignOn.Proofs.Url.Origin

/-!
# Registrations

A registration is accepted, and gives a client that can be used; it is refused as a configuration
that is wrong; or it is interrupted, by a URL of which it cannot be told where its authority ends.
`Misstates` and `Obscures` say when it is refused and when it is interrupted.
-/

namespace SignOn.Client

variable {client : Client} {registration : Registration} {refusal : Refusal}
  {interruption : Interruption}

def IsOfWeb (t : Text) : Prop := ∃ origin, Url.origin? t = .ok origin ∧ origin.isWeb = true

theorem checkUrl_of_error {refused : Option Text → Refusal} {given : Option Text}
    {fault : Url.OriginFault} (h : Url.origin? (given.getD []) = .error fault) :
    checkUrl refused given = .error (.interrupted (.origin fault)) := by
  simp only [checkUrl, h]

theorem checkUrl_of_ok {refused : Option Text → Refusal} {given : Option Text}
    {origin : Url.Origin} (h : Url.origin? (given.getD []) = .ok origin) :
    checkUrl refused given =
      if origin.isWeb then .ok (given.getD []) else .error (.refused (refused given)) := by
  simp only [checkUrl, h]

theorem checkUrl_eq_ok_iff {refused : Option Text → Refusal} {given : Option Text} {value : Text} :
    checkUrl refused given = .ok value ↔ value = given.getD [] ∧ IsOfWeb (given.getD []) := by
  unfold IsOfWeb
  cases hread : Url.origin? (given.getD []) with
  | error fault => simp [checkUrl_of_error hread]
  | ok origin =>
      rw [checkUrl_of_ok hread, eq_comm (a := value)]
      by_cases hweb : origin.isWeb <;> simp [hweb]

theorem checkUrl_refused_iff {refused : Option Text → Refusal} {given : Option Text} :
    checkUrl refused given = .error (.refused refusal) ↔
      refusal = refused given ∧
        ∃ origin, Url.origin? (given.getD []) = .ok origin ∧ origin.isWeb = false := by
  cases hread : Url.origin? (given.getD []) with
  | error fault => simp [checkUrl_of_error hread]
  | ok origin =>
      rw [checkUrl_of_ok hread, eq_comm (a := refusal)]
      by_cases hweb : origin.isWeb <;> simp [hweb]

theorem checkUrl_interrupted_iff {refused : Option Text → Refusal} {given : Option Text} :
    checkUrl refused given = .error (.interrupted interruption) ↔
      ∃ fault, interruption = .origin fault ∧ Url.origin? (given.getD []) = .error fault := by
  cases hread : Url.origin? (given.getD []) with
  | error fault => simp [checkUrl_of_error hread, eq_comm (a := interruption)]
  | ok origin =>
      rw [checkUrl_of_ok hread]
      by_cases hweb : origin.isWeb <;> simp [hweb]

theorem checkId_eq_error_iff {given : Option Text} {failure : Failure} :
    checkId given = .error failure ↔ failure = .refused .clientId ∧ given.getD [] = [] := by
  rw [eq_comm (a := failure)]
  rcases given with _ | (_ | ⟨c, rest⟩) <;> simp [checkId]

theorem checkId_eq_ok_iff {given : Option Text} {value : Text} :
    checkId given = .ok value ↔ value = given.getD [] ∧ value ≠ [] := by
  rcases given with _ | (_ | ⟨c, rest⟩)
  · simp [checkId]
  · simp [checkId]
  · simp only [checkId, Except.ok.injEq, Option.getD_some]
    constructor
    · rintro rfl
      exact ⟨rfl, by simp⟩
    · exact fun h => h.1.symm

/-- What is wrong with a registration, all that is looked at before it being in order. -/
inductive Misstates (registration : Registration) : Refusal → Prop
  | issuer {origin : Url.Origin}
      (h : Url.origin? (registration.issuerUrl.getD []) = .ok origin)
      (hweb : origin.isWeb = false) : Misstates registration (.issuerUrl registration.issuerUrl)
  | redirect {origin : Url.Origin} (hissuer : IsOfWeb (registration.issuerUrl.getD []))
      (h : Url.origin? (registration.redirectUrl.getD []) = .ok origin)
      (hweb : origin.isWeb = false) : Misstates registration (.redirectUrl registration.redirectUrl)
  | clientId (hissuer : IsOfWeb (registration.issuerUrl.getD []))
      (hredirect : IsOfWeb (registration.redirectUrl.getD []))
      (h : registration.clientId.getD [] = []) : Misstates registration .clientId

/-- Why it cannot be told what a registration states. -/
inductive Obscures (registration : Registration) (fault : Url.OriginFault) : Prop
  | issuer (h : Url.origin? (registration.issuerUrl.getD []) = .error fault)
  | redirect (hissuer : IsOfWeb (registration.issuerUrl.getD []))
      (h : Url.origin? (registration.redirectUrl.getD []) = .error fault)

theorem register_eq_error_iff {failure : Failure} :
    register registration = .error failure ↔
      checkUrl .issuerUrl registration.issuerUrl = .error failure ∨
        IsOfWeb (registration.issuerUrl.getD []) ∧
          (checkUrl .redirectUrl registration.redirectUrl = .error failure ∨
            IsOfWeb (registration.redirectUrl.getD []) ∧
              checkId registration.clientId = .error failure) := by
  unfold register
  simp only [bind_eq_error_iff, checkUrl_eq_ok_iff]
  constructor
  · rintro (h | ⟨_, ⟨-, hissuer⟩, h | ⟨_, ⟨-, hredirect⟩, h | ⟨_, -, ⟨⟩⟩⟩⟩)
    · exact .inl h
    · exact .inr ⟨hissuer, .inl h⟩
    · exact .inr ⟨hissuer, .inr ⟨hredirect, h⟩⟩
  · rintro (h | ⟨hissuer, h | ⟨hredirect, h⟩⟩)
    · exact .inl h
    · exact .inr ⟨_, ⟨rfl, hissuer⟩, .inl h⟩
    · exact .inr ⟨_, ⟨rfl, hissuer⟩, .inr ⟨_, ⟨rfl, hredirect⟩, .inl h⟩⟩

theorem register_refused_iff :
    register registration = .error (.refused refusal) ↔ Misstates registration refusal := by
  simp only [register_eq_error_iff, checkUrl_refused_iff, checkId_eq_error_iff,
    Failure.refused.injEq]
  constructor
  · rintro (⟨rfl, origin, h, hweb⟩ | ⟨hissuer, ⟨rfl, origin, h, hweb⟩ | ⟨hredirect, rfl, h⟩⟩)
    · exact .issuer h hweb
    · exact .redirect hissuer h hweb
    · exact .clientId hissuer hredirect h
  · rintro (⟨h, hweb⟩ | ⟨hissuer, h, hweb⟩ | ⟨hissuer, hredirect, h⟩)
    · exact .inl ⟨rfl, _, h, hweb⟩
    · exact .inr ⟨hissuer, .inl ⟨rfl, _, h, hweb⟩⟩
    · exact .inr ⟨hissuer, .inr ⟨hredirect, rfl, h⟩⟩

theorem register_interrupted_iff :
    register registration = .error (.interrupted interruption) ↔
      ∃ fault, interruption = .origin fault ∧ Obscures registration fault := by
  simp only [register_eq_error_iff, checkUrl_interrupted_iff, checkId_eq_error_iff, reduceCtorEq,
    false_and, and_false, or_false]
  constructor
  · rintro (⟨fault, rfl, h⟩ | ⟨hissuer, fault, rfl, h⟩)
    · exact ⟨fault, rfl, .issuer h⟩
    · exact ⟨fault, rfl, .redirect hissuer h⟩
  · rintro ⟨fault, rfl, h | ⟨hissuer, h⟩⟩
    · exact .inl ⟨fault, rfl, h⟩
    · exact .inr ⟨hissuer, fault, rfl, h⟩

theorem Misstates.isConfiguration (h : Misstates registration refusal) :
    refusal.kind = .configuration ∧ refusal.status = 500 ∧ refusal.message.IsScalar := by
  have hquoted : ∀ given, (Refusal.quotedOrNone given).IsScalar := by
    rintro (_ | t)
    · decide
    · exact t.isScalar_quoted
  cases h with
  | issuer => exact ⟨rfl, rfl, Text.isScalar_append.mpr ⟨by decide, hquoted _⟩⟩
  | redirect => exact ⟨rfl, rfl, Text.isScalar_append.mpr ⟨by decide, hquoted _⟩⟩
  | clientId => exact ⟨rfl, rfl, by decide⟩

/-- A URL of the web, which names a host unless its authority is one that need not. -/
structure ReadsAs (t : Text) (origin : Url.Origin) : Prop where
  read : Url.origin? t = .ok origin
  scheme : origin.scheme = Text.ofString "http" ∨ origin.scheme = Text.ofString "https"
  authority : origin.authority ≠ []
  host : origin.host ≠ [] ∨ Url.Hostless origin.authority

structure IsUsable (client : Client) : Prop where
  issuer : ∃ origin, ReadsAs client.issuer origin
  redirectUrl : ∃ origin, ReadsAs client.redirectUrl origin
  trimmed : client.issuer.getLast? ≠ some (CodePoint.ofChar '/')
  clientId : client.clientId ≠ []

theorem exists_readsAs {t : Text} (h : IsOfWeb t) : ∃ origin, ReadsAs t origin := by
  obtain ⟨origin, hread, hweb⟩ := h
  have hauthority := Url.Origin.authority_of_isWeb hweb
  refine ⟨origin, hread, Url.Origin.scheme_of_isWeb hweb, hauthority, ?_⟩
  by_cases hhost : origin.host = []
  · obtain ⟨-, -, hbrackets, -⟩ := Url.origin?_eq_ok_iff.mp hread
    exact .inr (Url.hostless_of_host_eq_nil hbrackets hauthority hhost)
  · exact .inl hhost

theorem exists_slashes (t : Text) :
    ∃ slashes, t = withoutTrailingSlashes t ++ slashes ∧
      ∀ c ∈ slashes, c = CodePoint.ofChar '/' := by
  refine ⟨(t.reverse.takeWhile fun c => c = CodePoint.ofChar '/').reverse, ?_, fun c hc => ?_⟩
  · unfold withoutTrailingSlashes Split.trimEnd
    rw [← List.reverse_append, List.takeWhile_append_dropWhile, List.reverse_reverse]
  · simpa using List.mem_takeWhile_imp (List.mem_reverse.mp hc)

theorem getLast?_withoutTrailingSlashes (t : Text) :
    (withoutTrailingSlashes t).getLast? ≠ some (CodePoint.ofChar '/') := by
  intro h
  have hhead := List.head?_dropWhile_not (fun c => decide (c = CodePoint.ofChar '/')) t.reverse
  unfold withoutTrailingSlashes Split.trimEnd at h
  rw [List.getLast?_reverse] at h
  rw [h] at hhead
  simp at hhead

theorem isOfWeb_withoutTrailingSlashes {t : Text} (h : IsOfWeb t) :
    IsOfWeb (withoutTrailingSlashes t) := by
  obtain ⟨origin, hread, hweb⟩ := h
  obtain ⟨slashes, hequal, hslashes⟩ := exists_slashes t
  rw [hequal] at hread
  exact ⟨origin, Url.origin?_of_append hslashes hread hweb, hweb⟩

theorem isUsable_of_register (h : register registration = .ok client) : client.IsUsable := by
  simp only [register, bind_eq_ok_iff, checkUrl_eq_ok_iff, checkId_eq_ok_iff,
    Except.ok.injEq] at h
  obtain ⟨_, ⟨rfl, hissuer⟩, _, ⟨rfl, hredirect⟩, _, ⟨rfl, hid⟩, rfl⟩ := h
  exact ⟨exists_readsAs (isOfWeb_withoutTrailingSlashes hissuer), exists_readsAs hredirect,
    getLast?_withoutTrailingSlashes _, hid⟩

end SignOn.Client
