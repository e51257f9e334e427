import SignOn.Http.Delivery
import SignOn.Proofs.Checks

/-!
# Requests that cannot be carried through

A request is made, and its outcome is received, unless a fault comes up.  The faults on the way are
those that anyone who asks has to reckon with.  Everything else that comes up is named here: a URL
that is none, a host whose name cannot be read, a value that cannot be written, an answer that
belongs to no site and a location that cannot be gone to.
-/

namespace SignOn.Http

variable {α β : Type} {request : Except Fault Request} {outcome : Outcome} {target : Text}
  {fault : Fault}

def ChecksWriting (check : Except Fault α) : Prop :=
  ∀ fault, check = .error fault → ∃ cause, fault = .notEncodable cause

namespace ChecksWriting

theorem ok (a : α) : ChecksWriting (.ok a : Except Fault α) := nofun

theorem encode (bytes : Except Codec.EncodeFault β) (f : β → α) :
    ChecksWriting ((bytes.mapError .notEncodable).map f) := by
  intro fault h
  rw [map_eq_error_iff, mapError_eq_error_iff] at h
  obtain ⟨cause, -, rfl⟩ := h
  exact ⟨cause, rfl⟩

theorem bind {check : Except Fault α} {next : α → Except Fault β} (hcheck : ChecksWriting check)
    (hnext : ∀ a, ChecksWriting (next a)) : ChecksWriting (check >>= next) := by
  intro fault h
  rcases bind_eq_error_iff.mp h with hfirst | ⟨a, -, hlast⟩
  · exact hcheck fault hfirst
  · exact hnext a fault hlast

theorem forM {check : α → Except Fault Unit} {values : List α}
    (h : ∀ value ∈ values, ChecksWriting (check value)) : ChecksWriting (values.forM check) := by
  induction values with
  | nil => exact ok ()
  | cons value rest ih =>
      obtain ⟨hvalue, hrest⟩ := List.forall_mem_cons.mp h
      exact hvalue.bind fun _ => ih hrest

end ChecksWriting

theorem checksWriting_checkEncodable (t : Text) : ChecksWriting (checkEncodable t) := .encode _ _

theorem checksWriting_checkForm (form : Percent.Form) : ChecksWriting (checkForm form) :=
  .forM fun pair _ => checksWriting_checkEncodable pair.2

theorem checksWriting_checkHeader (value : Option Text) : ChecksWriting (checkHeader value) := by
  cases value with
  | none => exact .ok ()
  | some value => exact .encode _ _

theorem checksWriting_checkHeaders (answer : Answer) : ChecksWriting (checkHeaders answer) :=
  .forM fun header _ => (checksWriting_checkHeader (some header.1)).bind fun _ =>
    checksWriting_checkHeader (some header.2)

theorem ofParse_eq (cause : Url.ParseFault) :
    (∃ fault, Fault.ofParse cause = .url fault) ∨
      ∃ fault, Fault.ofParse cause = .notEncodable fault := by
  cases cause with
  | invalid fault => exact .inl ⟨fault, rfl⟩
  | notEncodable fault => exact .inr ⟨fault, rfl⟩

theorem targetUrl_eq_error (h : targetUrl target = .error fault) :
    (∃ cause, fault = .url cause) ∨ ∃ cause, fault = .notEncodable cause := by
  have hparse : ∀ {β : Type} {x : Except Url.ParseFault β},
      x.mapError Fault.ofParse = .error fault →
        (∃ cause, fault = .url cause) ∨ ∃ cause, fault = .notEncodable cause := by
    intro β x hx
    obtain ⟨cause, -, rfl⟩ := mapError_eq_error_iff.mp hx
    exact ofParse_eq cause
  rcases bind_eq_error_iff.mp h with hfirst | ⟨url, -, hrest⟩
  · exact hparse hfirst
  · split at hrest
    · contradiction
    · exact hparse hrest

/-- A request to a target that can be made unless the target is no URL, its host has a name that
cannot be read, or something cannot be written. -/
def GoesTo (target : Text) (request : Except Fault Request) : Prop :=
  ∀ fault, request = .error fault →
    (∃ cause, fault = .url cause ∧ targetUrl target = .error (.url cause)) ∨
      (∃ cause, fault = .host cause ∧ siteUrl target = .error (.host cause)) ∨
        ∃ cause, fault = .notEncodable cause

theorem goesTo_ok (actual : Request) : GoesTo target (.ok actual) := nofun

theorem ChecksWriting.bind_goesTo {check : Except Fault α} {next : α → Except Fault Request}
    (hcheck : ChecksWriting check) (hnext : ∀ a, GoesTo target (next a)) :
    GoesTo target (check >>= next) := by
  intro fault h
  rcases bind_eq_error_iff.mp h with hfirst | ⟨a, -, hlast⟩
  · exact .inr (.inr (hcheck fault hfirst))
  · exact hnext a fault hlast

theorem goesTo_checkHost_bind {url : Url} {next : Unit → Except Fault Request}
    (hurl : targetUrl target = .ok url) (hnext : ∀ u, GoesTo target (next u)) :
    GoesTo target (checkHost url >>= next) := by
  intro fault h
  rcases bind_eq_error_iff.mp h with hhost | ⟨u, -, hlast⟩
  · obtain ⟨cause, -, rfl⟩ := mapError_eq_error_iff.mp (map_eq_error_iff.mp hhost)
    refine .inr (.inl ⟨cause, rfl, ?_⟩)
    exact bind_eq_error_iff.mpr (.inr ⟨url, hurl, bind_eq_error_iff.mpr (.inl hhost)⟩)
  · exact hnext u fault hlast

theorem goesTo_targetUrl_bind {next : Url → Except Fault Request}
    (hnext : ∀ url, targetUrl target = .ok url → GoesTo target (next url)) :
    GoesTo target (targetUrl target >>= next) := by
  intro fault h
  rcases bind_eq_error_iff.mp h with hfirst | ⟨url, hurl, hlast⟩
  · rcases targetUrl_eq_error hfirst with ⟨cause, rfl⟩ | ⟨cause, rfl⟩
    · exact .inl ⟨cause, rfl, hfirst⟩
    · exact .inr (.inr ⟨cause, rfl⟩)
  · exact hnext url hurl fault hlast

theorem goesTo_getRequest (target : Text) (authorization : Option Text) :
    GoesTo target (getRequest target authorization) :=
  goesTo_targetUrl_bind fun _ hurl => (checksWriting_checkHeader authorization).bind_goesTo
    fun _ => goesTo_checkHost_bind hurl fun _ => goesTo_ok _

theorem goesTo_postRequest (target : Text) (authorization : Option Text) (form : Percent.Form) :
    GoesTo target (postRequest target authorization form) :=
  goesTo_targetUrl_bind fun _ hurl => (checksWriting_checkForm form).bind_goesTo
    fun _ => goesTo_checkHost_bind hurl fun _ => goesTo_ok _

def attempt (request : Except Fault Request) (outcome : Outcome) : Except Fault Answer :=
  request >>= fun actual => receive actual outcome

/-- What keeps a request to a target from being carried through, besides the faults on the way. -/
inductive Obstructs (target : Text) (request : Except Fault Request) (outcome : Outcome) :
    Fault → Prop
  | target {fault : Url.Fault} (h : request = .error (.url fault))
      (htarget : targetUrl target = .error (.url fault)) :
      Obstructs target request outcome (.url fault)
  | host {fault : Idna.Fault} (h : request = .error (.host fault))
      (htarget : siteUrl target = .error (.host fault)) :
      Obstructs target request outcome (.host fault)
  | unwritable {fault : Codec.EncodeFault} (h : request = .error (.notEncodable fault)) :
      Obstructs target request outcome (.notEncodable fault)
  | refused {actual : Request} {message : Text} (h : request = .ok actual)
      (houtcome : outcome = .urlRefused message) :
      Obstructs target request outcome (.urlRefused message)
  | header {actual : Request} {answer : Answer} {fault : Fault} (h : request = .ok actual)
      (houtcome : outcome = .answered answer) (hheaders : checkHeaders answer = .error fault) :
      Obstructs target request outcome fault
  | siteless {actual : Request} {answer : Answer} (h : request = .ok actual)
      (houtcome : outcome = .answered answer) (hheaders : checkHeaders answer = .ok ())
      (hscheme : actual.url.scheme = []) :
      Obstructs target request outcome (.noSite actual.url.text)
  | location {actual : Request} {answer : Answer} {location : Text} {fault : Fault}
      (h : request = .ok actual) (houtcome : outcome = .answered answer)
      (hheaders : checkHeaders answer = .ok ()) (hscheme : actual.url.scheme ≠ [])
      (hredirect : answer.redirect? = some location)
      (hlocation : redirectUrl actual.url location = .error fault) (hfamily : fault.family ≠ .way) :
      Obstructs target request outcome fault

theorem receive_answered_eq_error_iff {actual : Request} {answer : Answer} :
    receive actual (.answered answer) = .error fault ↔
      checkHeaders answer = .error fault ∨
        checkHeaders answer = .ok () ∧
          (actual.url.scheme = [] ∧ fault = .noSite actual.url.text ∨
            actual.url.scheme ≠ [] ∧ ∃ location, answer.redirect? = some location ∧
              redirectUrl actual.url location = .error fault) := by
  change checkHeaders answer >>= _ = _ ↔ _
  cases checkHeaders answer with
  | error cause => simp [bind_eq_error_iff]
  | ok u =>
      by_cases hscheme : actual.url.scheme = []
      · simp [bind_eq_error_iff, hscheme, eq_comm (a := fault)]
      · cases answer.redirect? with
        | none => simp [bind_eq_error_iff, hscheme]
        | some location => simp [bind_eq_error_iff, hscheme, map_eq_error_iff]

/-- A request meets a fault that does not lie on the way exactly when something obstructs it. -/
theorem attempt_eq_error_iff (hgoes : GoesTo target request) :
    attempt request outcome = .error fault ∧ fault.family ≠ .way ↔
      Obstructs target request outcome fault := by
  constructor
  · rintro ⟨h, hfamily⟩
    rcases bind_eq_error_iff.mp h with hrequest | ⟨actual, hrequest, hreceive⟩
    · rcases hgoes fault hrequest with
        ⟨cause, rfl, htarget⟩ | ⟨cause, rfl, htarget⟩ | ⟨cause, rfl⟩
      · exact .target hrequest htarget
      · exact .host hrequest htarget
      · exact .unwritable hrequest
    · cases outcome with
      | failed message =>
          obtain rfl := Except.error.inj hreceive
          exact absurd rfl hfamily
      | urlRefused message =>
          obtain rfl := Except.error.inj hreceive
          exact .refused hrequest rfl
      | answered answer =>
          rcases receive_answered_eq_error_iff.mp hreceive with hheaders |
            ⟨hheaders, ⟨hscheme, rfl⟩ | ⟨hscheme, location, hredirect, hlocation⟩⟩
          · exact .header hrequest rfl hheaders
          · exact .siteless hrequest rfl hheaders hscheme
          · exact .location hrequest rfl hheaders hscheme hredirect hlocation hfamily
  · intro h
    cases h with
    | target h => exact ⟨bind_eq_error_iff.mpr (.inl h), nofun⟩
    | host h => exact ⟨bind_eq_error_iff.mpr (.inl h), nofun⟩
    | unwritable h => exact ⟨bind_eq_error_iff.mpr (.inl h), nofun⟩
    | refused h houtcome =>
        subst houtcome
        exact ⟨bind_eq_error_iff.mpr (.inr ⟨_, h, rfl⟩), nofun⟩
    | header h houtcome hheaders =>
        subst houtcome
        obtain ⟨cause, rfl⟩ := checksWriting_checkHeaders _ _ hheaders
        exact ⟨bind_eq_error_iff.mpr
          (.inr ⟨_, h, receive_answered_eq_error_iff.mpr (.inl hheaders)⟩), nofun⟩
    | siteless h houtcome hheaders hscheme =>
        subst houtcome
        exact ⟨bind_eq_error_iff.mpr (.inr ⟨_, h, receive_answered_eq_error_iff.mpr
          (.inr ⟨hheaders, .inl ⟨hscheme, rfl⟩⟩)⟩), nofun⟩
    | location h houtcome hheaders hscheme hredirect hlocation hfamily =>
        subst houtcome
        exact ⟨bind_eq_error_iff.mpr (.inr ⟨_, h, receive_answered_eq_error_iff.mpr
          (.inr ⟨hheaders, .inr ⟨hscheme, _, hredirect, hlocation⟩⟩)⟩), hfamily⟩

end SignOn.Http
