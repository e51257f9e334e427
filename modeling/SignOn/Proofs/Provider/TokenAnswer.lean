import SignOn.Proofs.Http.Request
import SignOn.Provider.Exchange

/-!
# What an answer of the token endpoint states

Tokens that are accepted are those that the answer's JSON object names.
-/

namespace SignOn

def Json.Fields.text? (fields : Json.Fields) (name : Text) : Option Text :=
  match fields.get? name with
  | some (.str t) => some t
  | _ => none

namespace Record

theorem Checked.apply_eq_ok {α β : Type} {f : Checked (α → β)} {x : Checked α} {b : β}
    (h : f.apply x = .ok b) : ∃ g a, f = .ok g ∧ x = .ok a ∧ b = g a := by
  cases f <;> cases x <;> simp_all [Checked.apply, Checked.both, Except.map]

theorem optional_string_eq_ok {fields : Json.Fields} {name : Text} {value : Option Text}
    (h : optional fields name string = .ok value) : value = fields.text? name := by
  unfold optional withDefault at h
  unfold Json.Fields.text?
  cases hget : fields.get? name with
  | none => simp_all
  | some json =>
      rw [hget] at h
      have hread : nullable string json = .ok value := mapError_eq_ok_iff.mp h
      cases json <;> simp_all [nullable, string, Checked.refuse, Except.map]

end Record

theorem TokenAnswer.of_ofFields {fields : Json.Fields} {tokens : TokenAnswer}
    (h : TokenAnswer.ofFields fields = .ok tokens) :
    tokens.refreshToken = Json.Fields.text? fields "refresh_token" ∧
      tokens.idToken = Json.Fields.text? fields "id_token" := by
  unfold ofFields at h
  obtain ⟨g₄, expiresIn, h₄, -, rfl⟩ := Record.Checked.apply_eq_ok h
  obtain ⟨g₃, idToken, h₃, hid, rfl⟩ := Record.Checked.apply_eq_ok h₄
  obtain ⟨g₂, refreshToken, h₂, hrefresh, rfl⟩ := Record.Checked.apply_eq_ok h₃
  obtain ⟨g₁, tokenType, h₁, -, rfl⟩ := Record.Checked.apply_eq_ok h₂
  obtain ⟨g₀, accessToken, h₀, -, rfl⟩ := Record.Checked.apply_eq_ok h₁
  cases h₀
  exact ⟨Record.optional_string_eq_ok hrefresh, Record.optional_string_eq_ok hid⟩

theorem TokenAnswer.of_readDocument {answer : Http.Answer} {tokens : TokenAnswer}
    (h : readDocument model ofJson answer = .ok tokens) :
    ∃ fields, Json.readBytes answer.body = .ok (.obj fields) ∧
      tokens.refreshToken = Json.Fields.text? fields "refresh_token" ∧
      tokens.idToken = Json.Fields.text? fields "id_token" := by
  unfold readDocument at h
  cases hbody : Json.readBytes answer.body with
  | error fault =>
      rw [hbody] at h
      contradiction
  | ok document =>
      rw [hbody] at h
      have hread : ofJson document = .ok tokens := mapError_eq_ok_iff.mp h
      cases document with
      | obj fields => exact ⟨fields, rfl, of_ofFields hread⟩
      | _ => simp [ofJson, Record.ofObject, Record.Checked.refuse] at hread

theorem Client.of_tokensOf {request : Http.Request} {outcome : Http.Outcome}
    {tokens : TokenAnswer} (h : tokensOf request outcome = .ok tokens) :
    ∃ answer fields, outcome = .answered answer ∧ answer.status = 200 ∧
      Json.readBytes answer.body = .ok (.obj fields) ∧
      tokens.refreshToken = Json.Fields.text? fields "refresh_token" ∧
      tokens.idToken = Json.Fields.text? fields "id_token" := by
  unfold tokensOf at h
  cases hreceive : Http.receive request outcome with
  | error fault => simp [hreceive] at h
  | ok answer =>
      simp only [hreceive] at h
      by_cases hstatus : answer.status = 200
      · rw [if_pos hstatus] at h
        obtain ⟨fields, hfields⟩ := TokenAnswer.of_readDocument (mapError_eq_ok_iff.mp h)
        exact ⟨answer, fields, Http.eq_answered_of_receive hreceive, hstatus, hfields⟩
      · rw [if_neg hstatus] at h
        split at h <;> contradiction

end SignOn
