import SignOn.Http.Delivery
import SignOn.Proofs.Checks
import SignOn.Proofs.Text.Utf8

/-!
# Requests that are made and answers that are received

A request is made exactly when its URL can be used and what it carries can be written, and it is
then known in full.
-/

namespace SignOn.Http

variable {target : Text} {authorization : Option Text} {form : Percent.Form} {request : Request}
  {url : Url}

theorem checkEncodable_eq_ok_iff {t : Text} {u : Unit} :
    checkEncodable t = .ok u ↔ t.IsScalar := by
  unfold checkEncodable
  rw [map_eq_ok_iff]
  constructor
  · rintro ⟨bytes, hbytes, -⟩
    exact Utf8.isScalar_of_encodeStrict (mapError_eq_ok_iff.mp hbytes)
  · intro h
    exact ⟨_, mapError_eq_ok_iff.mpr (Utf8.encodeStrict_of_isScalar h), rfl⟩

theorem checkForm_eq_ok_iff {u : Unit} :
    checkForm form = .ok u ↔ ∀ pair ∈ form, pair.2.IsScalar := by
  induction form with
  | nil => simp [checkForm, pure, Except.pure]
  | cons pair form ih =>
      change (checkEncodable pair.2 >>= fun _ => checkForm form) = .ok u ↔ _
      simp [bind_eq_ok_iff, checkEncodable_eq_ok_iff, ih]

theorem checkHeader_eq_ok_iff {value : Text} {u : Unit} :
    checkHeader (some value) = .ok u ↔ ∀ c ∈ value, c.isAscii = true := by
  rw [checkHeader, map_eq_ok_iff, Codec.asciiBytes]
  cases hfault : Codec.firstFault? .ascii (fun c => !c.isAscii) value with
  | some fault =>
      refine iff_of_false ?_ fun hall => ?_
      · rintro ⟨bytes, hbytes, -⟩
        exact nomatch mapError_eq_ok_iff.mp hbytes
      · rw [Codec.firstFault?_eq_none_iff.mpr (by simpa using hall)] at hfault
        contradiction
  | none =>
      refine iff_of_true ⟨_, mapError_eq_ok_iff.mpr rfl, rfl⟩ ?_
      simpa using Codec.firstFault?_eq_none_iff.mp hfault

theorem siteUrl_eq_ok_iff :
    siteUrl target = .ok url ↔ targetUrl target = .ok url ∧ checkHost url = .ok () := by
  simp only [siteUrl, bind_eq_ok_iff, Except.ok.injEq]
  constructor
  · rintro ⟨url, hurl, ⟨⟩, hhost, rfl⟩
    exact ⟨hurl, hhost⟩
  · rintro ⟨hurl, hhost⟩
    exact ⟨url, hurl, (), hhost, rfl⟩

theorem getRequest_eq_ok_iff :
    getRequest target authorization = .ok request ↔
      checkHeader authorization = .ok () ∧ ∃ url, siteUrl target = .ok url ∧
        request = ⟨.get, url, credentials url authorization, "*/*", none, []⟩ := by
  simp only [getRequest, bind_eq_ok_iff, siteUrl_eq_ok_iff, Except.ok.injEq]
  constructor
  · rintro ⟨url, hurl, ⟨⟩, hheader, ⟨⟩, hhost, rfl⟩
    exact ⟨hheader, url, ⟨hurl, hhost⟩, rfl⟩
  · rintro ⟨hheader, url, ⟨hurl, hhost⟩, rfl⟩
    exact ⟨url, hurl, (), hheader, (), hhost, rfl⟩

theorem postRequest_eq_ok_iff :
    postRequest target authorization form = .ok request ↔
      (∀ pair ∈ form, pair.2.IsScalar) ∧ ∃ url, siteUrl target = .ok url ∧
        request = ⟨.post, url, authorization.orElse fun _ => credentials url none,
          "application/json", some "application/x-www-form-urlencoded",
          Percent.formEncode form⟩ := by
  simp only [postRequest, bind_eq_ok_iff, checkForm_eq_ok_iff, siteUrl_eq_ok_iff, Except.ok.injEq]
  constructor
  · rintro ⟨url, hurl, ⟨⟩, hform, ⟨⟩, hhost, rfl⟩
    exact ⟨hform, url, ⟨hurl, hhost⟩, rfl⟩
  · rintro ⟨hform, url, ⟨hurl, hhost⟩, rfl⟩
    exact ⟨url, hurl, (), hform, (), hhost, rfl⟩

/-- What is sent to a target: a request that is as it should be, where the target is a URL that
can be gone to and all that is to be said can be written, and else nothing. -/
inductive Sends (target : Text) (writable : Prop) (fits : Request → Prop) : Option Request → Prop
  | request {request : Request} (hurl : siteUrl target = .ok request.url) (hwritable : writable)
      (hfits : fits request) : Sends target writable fits (some request)
  | nothing (hnot : ¬((∃ url, siteUrl target = .ok url) ∧ writable)) :
      Sends target writable fits none

theorem sends_toOption {made : Except Fault Request} {writable : Prop} {fits : Request → Prop}
    (hmade : ∀ request, made = .ok request →
      siteUrl target = .ok request.url ∧ writable ∧ fits request)
    (hmakes : ∀ url, siteUrl target = .ok url → writable → ∃ request, made = .ok request) :
    Sends target writable fits made.toOption := by
  cases made with
  | ok request =>
      obtain ⟨hurl, hwritable, hfits⟩ := hmade request rfl
      exact .request hurl hwritable hfits
  | error fault =>
      refine .nothing ?_
      rintro ⟨⟨url, hurl⟩, hwritable⟩
      obtain ⟨request, hrequest⟩ := hmakes url hurl hwritable
      contradiction

theorem eq_answered_of_receive {outcome : Outcome} {answer : Answer}
    (h : receive request outcome = .ok answer) : outcome = .answered answer := by
  cases outcome with
  | failed message => contradiction
  | urlRefused message => contradiction
  | answered given =>
      obtain ⟨⟨⟩, -, hreceived⟩ := bind_eq_ok_iff.mp h
      split at hreceived
      · contradiction
      · split at hreceived
        · exact congrArg Outcome.answered (Except.ok.inj hreceived)
        · obtain ⟨url, -, heq⟩ := map_eq_ok_iff.mp hreceived
          exact congrArg Outcome.answered heq

end SignOn.Http
