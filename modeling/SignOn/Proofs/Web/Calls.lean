import SignOn.Service.Step
import SignOn.Web.App

/-!
# Calls that requests make

A request to the application is a call to the service, or none.  A body makes a call when it is sent
as a document and states a code; then, and only then, an endpoint that asks for a code gets one.
-/

namespace SignOn.Web

/-- The code that an object states: a text that has a UTF-8 form, of 1 to 2048 characters. -/
def statedCode? (fields : Json.Fields) : Option Text :=
  match fields.get? "code" with
  | some (.str code) =>
      if code.IsScalar ∧ 1 ≤ code.length ∧ code.length ≤ 2048 then some code else none
  | _ => none

def Request.code? (request : Request) : Option Text :=
  if namesDocument ((Headers.get? request.headers "content-type").getD []) then
    match Json.readBytes request.body with
    | .ok (.obj fields) => statedCode? fields
    | _ => none
  else none

def Request.call? (request : Request) : Option Service.Step :=
  match route request.method request.path with
  | .endpoint .authorize => some .authorize
  | .endpoint .exchange => request.code?.map .exchange
  | .endpoint .redeem => request.code?.map .redeem
  | _ => none

def needsSession : Service.Step → Bool
  | .authorize | .redeem _ => true
  | _ => false

/-- What a step asks of the service.  A call that needs a session is none where none can be
opened. -/
def Step.call? (settings : Settings) : Step → Option Service.Step
  | .request given =>
      given.call?.filter fun call =>
        (Database.fault? settings.databaseUrl).isNone || !needsSession call
  | .advance ticks => some (.advance ticks)
  | .setWall seconds => some (.setWall seconds)
  | .change fault => some (.change fault)
  | .supply outcomes => some (.supply outcomes)

section Input

variable {request : Request} {code : Text}

theorem toOption_boundedString (least most : Nat) (t : Text) :
    (Record.boundedString least most (.str t)).toOption =
      if t.IsScalar ∧ least ≤ t.length ∧ t.length ≤ most then some t else none := by
  simp only [Record.boundedString]
  split
  next hscalar =>
    rw [if_neg fun h => hscalar h.1]
    rfl
  next hscalar =>
    split
    next hshort =>
      rw [if_neg fun h => Nat.not_le_of_lt hshort h.2.1]
      rfl
    next hshort =>
      split
      next hlong =>
        rw [if_neg fun h => Nat.not_le_of_lt hlong h.2.2]
        rfl
      next hlong =>
        have hfits : t.IsScalar ∧ least ≤ t.length ∧ t.length ≤ most :=
          ⟨Decidable.not_not.mp hscalar, Nat.le_of_not_lt hshort, Nat.le_of_not_lt hlong⟩
        rw [if_pos hfits]
        rfl

theorem toOption_ofFields (fields : Json.Fields) :
    (CodeRequest.ofFields fields).toOption.map (·.code) = statedCode? fields := by
  unfold CodeRequest.ofFields Record.required statedCode?
  cases fields.get? "code" with
  | none => rfl
  | some value =>
      cases value with
      | str t =>
          refine Eq.trans ?_ (toOption_boundedString 1 2048 t)
          change (((Record.boundedString 1 2048 (.str t)).under (.field "code")).map
            CodeRequest.mk).toOption.map (·.code) = _
          cases Record.boundedString 1 2048 (.str t) <;> rfl
      | _ => rfl

theorem toOption_code (request : Request) :
    (request.input.mapError Stop.response >>= Input.code).toOption = request.code? := by
  unfold Request.input Request.code?
  by_cases hempty : request.body.isEmpty
  · rw [if_pos hempty, List.isEmpty_iff.mp hempty]
    split <;> rfl
  · rw [if_neg hempty]
    split
    · cases Json.readBytes request.body with
      | error fault => rfl
      | ok document =>
          cases document with
          | obj fields =>
              change (Input.code (.document (.obj fields))).toOption = statedCode? fields
              rw [← toOption_ofFields, Input.code]
              cases CodeRequest.ofFields fields <;> rfl
          | _ => rfl
    · change (Input.code (.raw request.body)).toOption = none
      rw [Input.code]
      cases Utf8.decode request.body <;> rfl

theorem of_code?_eq_some (h : request.code? = some code) :
    ∃ input, request.input = .ok input ∧ input.code = .ok code := by
  rw [← toOption_code] at h
  cases hinput : request.input with
  | error response =>
      rw [hinput] at h
      contradiction
  | ok input =>
      rw [hinput] at h
      refine ⟨input, rfl, ?_⟩
      change input.code.toOption = some code at h
      cases hcode : input.code with
      | error stop =>
          rw [hcode] at h
          contradiction
      | ok stated =>
          rw [hcode] at h
          exact congrArg Except.ok (Option.some.inj h)

theorem of_code?_eq_none (h : request.code? = none) {input : Input}
    (hinput : request.input = .ok input) : ∃ stop, input.code = .error stop := by
  rw [← toOption_code, hinput] at h
  change input.code.toOption = none at h
  cases hcode : input.code with
  | error stop => exact ⟨stop, rfl⟩
  | ok stated =>
      rw [hcode] at h
      contradiction

end Input

end SignOn.Web
