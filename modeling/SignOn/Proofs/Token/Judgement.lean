import SignOn.Proofs.Token.Payload

/-!
# What comes of a payload

The claims of a payload are looked at one after another, and the first that is wrong decides.
`Concludes` says what comes of a payload from what its claims state, without regard to how they are
checked: an integer that a value stands for, the clock's distance from it, a value that is no
string.  The bytes are read as a document first.  The reader refuses what is no JSON, a mark of the
byte order in front, and an integer with more digits than its limit; a document that is nested
deeper than the stack has room for it fails on.
-/

namespace SignOn

/-! ## The record of an identity -/

namespace IdentityClaims

variable {fields : Json.Fields} {claims : IdentityClaims}

def endIssues (fields : Json.Fields) : List Record.Issue :=
  match (fields.get? "exp").map Record.integer with
  | none => [⟨[.field "exp"], .missing, .obj fields⟩]
  | some (.error issues) => issues.map (·.under (.field "exp"))
  | some (.ok _) => []

def emailIssues (fields : Json.Fields) : List Record.Issue :=
  match fields.get? "email" with
  | none | some .null | some (.str _) => []
  | some value => [⟨[.field "email"], .notString, value⟩]

def nonceIssues (fields : Json.Fields) : List Record.Issue :=
  match fields.get? "nonce" with
  | none => [⟨[.field "nonce"], .missing, .obj fields⟩]
  | some (.str _) => []
  | some value => [⟨[.field "nonce"], .notString, value⟩]

def issues (fields : Json.Fields) : List Record.Issue :=
  endIssues fields ++ emailIssues fields ++ nonceIssues fields

structure AreRead (claims : IdentityClaims) (fields : Json.Fields) : Prop where
  exp : ∃ value, fields.get? "exp" = some value ∧ Record.integer value = .ok claims.exp
  email : fields.get? "email" = claims.email.map .str ∨
    claims.email = none ∧ fields.get? "email" = some .null
  nonce : fields.get? "nonce" = some (.str claims.nonce)

end IdentityClaims

namespace Token

/-! ## Claims that are wrong -/

/-- What a claim is looked at for, in this order. -/
inductive Claim where
  | issuedAt
  | notBefore
  | expiry
  | subject
  | identifier
  | record
  deriving DecidableEq, Repr

namespace Claim

def earlier : Claim → List Claim
  | .issuedAt => []
  | .notBefore => [.issuedAt]
  | .expiry => [.issuedAt, .notBefore]
  | .subject => [.issuedAt, .notBefore, .expiry]
  | .identifier => [.issuedAt, .notBefore, .expiry, .subject]
  | .record => [.issuedAt, .notBefore, .expiry, .subject, .identifier]

/-- The name of a claim that states an integer, and why a token with another value is rejected. -/
def integer? : Claim → Option (Text × Reason)
  | .issuedAt => some ("iat", .issuedAtNotInteger)
  | .notBefore => some ("nbf", .notBeforeNotInteger)
  | .expiry => some ("exp", .expiryNotInteger)
  | _ => none

def string? : Claim → Option (Text × Reason)
  | .subject => some ("sub", .subjectNotString)
  | .identifier => some ("jti", .identifierNotString)
  | _ => none

end Claim

/-- A value stands for an integer: as one, as a flag, as a number without what is behind its point,
or as a text. -/
inductive StatesInteger : Json → Int → Prop
  | int (n : Int) : StatesInteger (.int n) n
  | flag (b : Bool) : StatesInteger (.bool b) (if b then 1 else 0)
  | number {x : Binary64} {n : Int} (h : x.truncated? = some n) : StatesInteger (.float x) n
  | text {t : Text} {n : Int} (h : Number.anyInteger? t = some n) : StatesInteger (.str t) n

/-- How a token fails at a value that is asked for an integer and stands for none. -/
inductive StatesNone (reason : Reason) (value : Json) : Failure → Prop
  | shape {interruption : Interruption} (h : obstacle? value = some interruption) :
      StatesNone reason value (.interrupted interruption)
  | rejected (h : obstacle? value = none) (hnone : ∀ n, ¬StatesInteger value n) :
      StatesNone reason value (.rejected reason)

/-- A claim at fault, and how a token fails at it. -/
inductive IsWrong (leeway now : Int) (fields : Json.Fields) : Claim → Failure → Prop
  | noInteger {claim : Claim} {name : Text} {reason : Reason} {value : Json} {failure : Failure}
      (hclaim : claim.integer? = some (name, reason)) (h : fields.get? name = some value)
      (hnone : StatesNone reason value failure) : IsWrong leeway now fields claim failure
  | early {value : Json} {start : Int} (h : fields.get? "nbf" = some value)
      (hstart : StatesInteger value start) (hearly : now + leeway < start) :
      IsWrong leeway now fields .notBefore (.rejected .notYetValid)
  | late {value : Json} {stop : Int} (h : fields.get? "exp" = some value)
      (hstop : StatesInteger value stop) (hlate : stop + leeway < now) :
      IsWrong leeway now fields .expiry (.rejected .expired)
  | noString {claim : Claim} {name : Text} {reason : Reason} {value : Json}
      (hclaim : claim.string? = some (name, reason)) (h : fields.get? name = some value)
      (hnone : ∀ t, value ≠ .str t) : IsWrong leeway now fields claim (.rejected reason)
  | record (h : IdentityClaims.issues fields ≠ []) :
      IsWrong leeway now fields .record (.incomplete (IdentityClaims.issues fields))

/-- What comes of a payload at a clock. -/
inductive Concludes (leeway now : Int) (payload : Bytes) : Checked IdentityClaims → Prop
  | nested {container : Json.Container} (h : NestsTooDeep payload container) :
      Concludes leeway now payload (.error (.interrupted (.nesting container)))
  | unreadable {fault : Json.ReadFault} (h : Json.readUtf8 payload = .error fault)
      (hnot : ∀ container, ¬NestsTooDeep payload container) :
      Concludes leeway now payload (.error (.rejected (.payloadUnreadable fault)))
  | notObject {value : Json} (h : Json.readUtf8 payload = .ok value)
      (hnot : ∀ fields, value ≠ .obj fields) :
      Concludes leeway now payload (.error (.rejected .payloadNotObject))
  | endless {fields : Json.Fields} (h : Json.readUtf8 payload = .ok (.obj fields))
      (hnone : fields.get? "exp" = none) :
      Concludes leeway now payload (.error (.rejected .expiryMissing))
  | wrong {fields : Json.Fields} {exp : Json} {claim : Claim} {failure : Failure}
      (h : Json.readUtf8 payload = .ok (.obj fields)) (hexp : fields.get? "exp" = some exp)
      (hwrong : IsWrong leeway now fields claim failure)
      (hearlier : ∀ before ∈ claim.earlier, ∀ other, ¬IsWrong leeway now fields before other) :
      Concludes leeway now payload (.error failure)
  | accepted {fields : Json.Fields} {claims : IdentityClaims}
      (h : Json.readUtf8 payload = .ok (.obj fields))
      (hright : ∀ claim failure, ¬IsWrong leeway now fields claim failure)
      (hread : claims.AreRead fields) : Concludes leeway now payload (.ok claims)

variable {leeway now : Int} {fields : Json.Fields} {claims : IdentityClaims} {failure : Failure}

/-! ## Checks of single claims -/

theorem claimInteger_eq_ok_iff_states {reason : Reason} {value : Json} {n : Int} :
    claimInteger reason value = .ok n ↔ StatesInteger value n := by
  constructor
  · intro h
    unfold claimInteger at h
    split at h
    · cases h
      exact .int _
    · cases h
      exact .flag _
    · contradiction
    next x hfinite =>
      split at h
      next m hm =>
        cases h
        exact .number hm
      · contradiction
    next t =>
      split at h
      next m hm =>
        cases h
        exact .text hm
      · contradiction
    all_goals contradiction
  · intro h
    cases h with
    | int => rfl
    | flag => rfl
    | @number x _ h =>
        cases x with
        | finite negative mantissa exponent =>
            simp only [claimInteger, h]
        | infinity negative => contradiction
        | nan => contradiction
    | text h => simp only [claimInteger, h]

theorem claimInteger_eq_error_iff {reason : Reason} {value : Json} :
    claimInteger reason value = .error failure ↔ StatesNone reason value failure := by
  have hnone : (∀ n, ¬StatesInteger value n) ↔ ∀ n, claimInteger reason value ≠ .ok n :=
    forall_congr' fun n => not_congr claimInteger_eq_ok_iff_states.symm
  have hcases : StatesNone reason value failure ↔
      (∃ interruption, obstacle? value = some interruption ∧
        failure = .interrupted interruption) ∨
      obstacle? value = none ∧ (∀ n, ¬StatesInteger value n) ∧ failure = .rejected reason := by
    constructor
    · rintro (h | ⟨h, hstates⟩)
      · exact .inl ⟨_, h, rfl⟩
      · exact .inr ⟨h, hstates, rfl⟩
    · rintro (⟨interruption, h, rfl⟩ | ⟨h, hstates, rfl⟩)
      · exact .shape h
      · exact .rejected h hstates
  rw [hcases, hnone]
  cases value with
  | float x =>
      cases x with
      | infinity negative => simp [claimInteger, obstacle?, interrupt, eq_comm]
      | _ =>
          simp only [claimInteger, obstacle?]
          split <;> simp [reject, eq_comm]
  | str t =>
      simp only [claimInteger, obstacle?]
      split <;> simp [reject, eq_comm]
  | _ => simp [claimInteger, obstacle?, interrupt, eq_comm]

theorem checkIssuedAt_eq_error_iff :
    checkIssuedAt fields = .error failure ↔ IsWrong leeway now fields .issuedAt failure := by
  unfold checkIssuedAt
  constructor
  · intro h
    split at h
    · contradiction
    next value hvalue =>
      exact .noInteger rfl hvalue (claimInteger_eq_error_iff.mp (map_eq_error_iff.mp h))
  · rintro (⟨⟨⟩, hvalue, hnone⟩ | _ | _ | ⟨⟨⟩, _⟩)
    rw [hvalue]
    exact map_eq_error_iff.mpr (claimInteger_eq_error_iff.mpr hnone)

theorem checkNotBefore_eq_error_iff :
    checkNotBefore leeway now fields = .error failure ↔
      IsWrong leeway now fields .notBefore failure := by
  unfold checkNotBefore
  constructor
  · intro h
    split at h
    · contradiction
    next value hvalue =>
      rcases bind_eq_error_iff.mp h with hread | ⟨start, hstart, hlast⟩
      · exact .noInteger rfl hvalue (claimInteger_eq_error_iff.mp hread)
      · split at hlast
        next hearly =>
          cases hlast
          exact .early hvalue (claimInteger_eq_ok_iff_states.mp hstart) hearly
        · contradiction
  · rintro (⟨⟨⟩, hvalue, hnone⟩ | ⟨hvalue, hstart, hearly⟩ | _ | ⟨⟨⟩, _⟩)
    · rw [hvalue]
      exact bind_eq_error_iff.mpr (.inl (claimInteger_eq_error_iff.mpr hnone))
    · rw [hvalue]
      exact bind_eq_error_iff.mpr
        (.inr ⟨_, claimInteger_eq_ok_iff_states.mpr hstart, if_pos hearly⟩)

theorem checkExpiry_eq_error_iff {exp : Json} (hexp : fields.get? "exp" = some exp) :
    checkExpiry leeway now exp = .error failure ↔ IsWrong leeway now fields .expiry failure := by
  unfold checkExpiry
  constructor
  · intro h
    rcases bind_eq_error_iff.mp h with hread | ⟨stop, hstop, hlast⟩
    · exact .noInteger rfl hexp (claimInteger_eq_error_iff.mp hread)
    · split at hlast
      next hlate =>
        cases hlast
        exact .late hexp (claimInteger_eq_ok_iff_states.mp hstop) (by omega)
      · contradiction
  · rintro (⟨⟨⟩, hvalue, hnone⟩ | _ | ⟨hvalue, hstop, hlate⟩ | ⟨⟨⟩, _⟩)
    · obtain rfl := Option.some.inj (hexp.symm.trans hvalue)
      exact bind_eq_error_iff.mpr (.inl (claimInteger_eq_error_iff.mpr hnone))
    · obtain rfl := Option.some.inj (hexp.symm.trans hvalue)
      exact bind_eq_error_iff.mpr
        (.inr ⟨_, claimInteger_eq_ok_iff_states.mpr hstop, if_pos (by omega)⟩)

theorem checkString_eq_error_iff {name : Text} {reason : Reason} :
    checkString fields name reason = .error failure ↔
      ∃ value, fields.get? name = some value ∧ (∀ t, value ≠ .str t) ∧
        failure = .rejected reason := by
  unfold checkString
  split
  next hnone => simp [hnone]
  next t ht =>
    refine iff_of_false nofun ?_
    rintro ⟨value, hvalue, hnot, -⟩
    exact hnot t (Option.some.inj (hvalue.symm.trans ht))
  next value hnot hvalue =>
    simp only [hvalue, Option.some.injEq, exists_eq_left', reject, Except.error.injEq,
      eq_comm (a := failure)]
    exact (and_iff_right hnot).symm

end Token

/-! ## Checks of a record -/

namespace Record

def Checked.issues {α : Type} : Checked α → List Issue
  | .ok _ => []
  | .error issues => issues

theorem Checked.issues_apply {α β : Type} (f : Checked (α → β)) (x : Checked α) :
    (f.apply x).issues = f.issues ++ x.issues := by
  cases f <;> cases x <;> simp [Checked.apply, Checked.both, Checked.issues, Except.map]

theorem Checked.apply_ne_error_nil {α β : Type} {f : Checked (α → β)} {x : Checked α}
    (hf : f ≠ .error []) (hx : x ≠ .error []) : f.apply x ≠ .error [] := by
  cases f <;> cases x <;> simp_all [Checked.apply, Checked.both, Except.map]

theorem Checked.under_ne_error_nil {α : Type} {step : Step} {x : Checked α} (h : x ≠ .error []) :
    x.under step ≠ .error [] := by
  intro hnil
  obtain ⟨issues, hissues, hmap⟩ := mapError_eq_error_iff.mp hnil
  exact h (hissues.trans (by rw [List.map_eq_nil_iff.mp hmap]))

theorem integer_ne_error_nil (value : Json) : integer value ≠ .error [] := by
  cases value with
  | float x =>
      simp only [integer, integerOfNumber]
      split
      · exact nofun
      · split
        · exact nofun
        · split <;> exact nofun
  | str t =>
      simp only [integer, integerOfText]
      split <;> exact nofun
  | _ => exact nofun

theorem string_ne_error_nil (value : Json) : string value ≠ .error [] := by
  cases value <;> exact nofun

end Record

namespace IdentityClaims

variable {fields : Json.Fields} {claims : IdentityClaims}

theorem issues_ofFields (fields : Json.Fields) : (ofFields fields).issues = issues fields := by
  have hend : (Record.required fields "exp" Record.integer).issues = endIssues fields := by
    unfold Record.required endIssues
    cases fields.get? "exp" with
    | none => rfl
    | some value =>
        simp only [Option.map_some]
        cases Record.integer value <;> rfl
  have hemail : (Record.optional fields "email" Record.string).issues = emailIssues fields := by
    unfold Record.optional Record.withDefault emailIssues
    cases fields.get? "email" with
    | none => rfl
    | some value => cases value <;> rfl
  have hnonce : (Record.required fields "nonce" Record.string).issues = nonceIssues fields := by
    unfold Record.required nonceIssues
    cases fields.get? "nonce" with
    | none => rfl
    | some value => cases value <;> rfl
  rw [ofFields, Record.Checked.issues_apply, Record.Checked.issues_apply,
    Record.Checked.issues_apply, hend, hemail, hnonce]
  rfl

theorem ofFields_ne_error_nil (fields : Json.Fields) : ofFields fields ≠ .error [] := by
  have hrequired : ∀ {α : Type} (name : Text) (read : Json → Record.Checked α),
      (∀ value, read value ≠ .error []) → Record.required fields name read ≠ .error [] := by
    intro α name read hread
    unfold Record.required
    split
    · exact nofun
    · exact Record.Checked.under_ne_error_nil (hread _)
  have hemail : Record.optional fields "email" Record.string ≠ .error [] := by
    unfold Record.optional Record.withDefault
    split
    · exact nofun
    next value _ =>
      refine Record.Checked.under_ne_error_nil ?_
      cases value <;> exact nofun
  exact Record.Checked.apply_ne_error_nil (Record.Checked.apply_ne_error_nil
    (Record.Checked.apply_ne_error_nil nofun (hrequired _ _ Record.integer_ne_error_nil)) hemail)
    (hrequired _ _ Record.string_ne_error_nil)

theorem required_eq_ok_iff {α : Type} {name : Text} {read : Json → Record.Checked α} {a : α} :
    Record.required fields name read = .ok a ↔
      ∃ value, fields.get? name = some value ∧ read value = .ok a := by
  unfold Record.required
  cases fields.get? name with
  | none => simp
  | some value => simp [Record.Checked.under, mapError_eq_ok_iff]

theorem optional_string_eq_ok_iff {name : Text} {text : Option Text} :
    Record.optional fields name Record.string = .ok text ↔
      fields.get? name = text.map .str ∨ text = none ∧ fields.get? name = some .null := by
  unfold Record.optional Record.withDefault
  cases fields.get? name with
  | none => cases text <;> simp
  | some value =>
      simp only [Record.Checked.under, mapError_eq_ok_iff]
      cases value with
      | null => cases text <;> simp [Record.nullable]
      | _ =>
          cases text <;>
            simp [Record.nullable, Record.string, Record.Checked.refuse, Except.map]

theorem ofFields_eq_ok_iff : ofFields fields = .ok claims ↔ claims.AreRead fields := by
  constructor
  · intro h
    obtain ⟨g₂, nonce, h₂, hnonce, rfl⟩ := Record.Checked.apply_eq_ok h
    obtain ⟨g₁, email, h₁, hemail, rfl⟩ := Record.Checked.apply_eq_ok h₂
    obtain ⟨g₀, exp, h₀, hexp, rfl⟩ := Record.Checked.apply_eq_ok h₁
    cases h₀
    obtain ⟨value, hvalue, hread⟩ := required_eq_ok_iff.mp hnonce
    refine ⟨required_eq_ok_iff.mp hexp, optional_string_eq_ok_iff.mp hemail, ?_⟩
    cases value with
    | str t =>
        cases hread
        exact hvalue
    | _ => contradiction
  · rintro ⟨hexp, hemail, hnonce⟩
    have hread : Record.required fields "nonce" Record.string = .ok claims.nonce :=
      required_eq_ok_iff.mpr ⟨_, hnonce, rfl⟩
    rw [ofFields, required_eq_ok_iff.mpr hexp, optional_string_eq_ok_iff.mpr hemail, hread]
    rfl

theorem ofFields_eq_error_iff {given : List Record.Issue} :
    ofFields fields = .error given ↔ issues fields ≠ [] ∧ given = issues fields := by
  rw [← issues_ofFields]
  have hnot := ofFields_ne_error_nil fields
  cases hread : ofFields fields with
  | ok claims => simp [Record.Checked.issues]
  | error more =>
      rw [hread] at hnot
      have hne : more ≠ [] := fun hnil => hnot (by rw [hnil])
      simp [Record.Checked.issues, hne, eq_comm]

end IdentityClaims

/-! ## The order of the checks -/

namespace Token

variable {leeway now : Int} {fields : Json.Fields} {claims : IdentityClaims} {failure : Failure}
  {payload : Bytes} {result : Checked IdentityClaims}

theorem checkString_eq_error_iff_isWrong {claim : Claim} {name : Text} {reason : Reason}
    (hclaim : claim.string? = some (name, reason)) :
    checkString fields name reason = .error failure ↔ IsWrong leeway now fields claim failure := by
  rw [checkString_eq_error_iff]
  constructor
  · rintro ⟨value, hvalue, hnot, rfl⟩
    exact .noString hclaim hvalue hnot
  · intro h
    cases h with
    | noInteger hinteger => cases claim <;> cases hclaim <;> cases hinteger
    | early => cases hclaim
    | late => cases hclaim
    | noString hstring hvalue hnot =>
        cases hclaim.symm.trans hstring
        exact ⟨_, hvalue, hnot, rfl⟩
    | record => cases hclaim

theorem checkSubject_eq_error_iff :
    checkString fields "sub" .subjectNotString = .error failure ↔
      IsWrong leeway now fields .subject failure := checkString_eq_error_iff_isWrong rfl

theorem checkIdentifier_eq_error_iff :
    checkString fields "jti" .identifierNotString = .error failure ↔
      IsWrong leeway now fields .identifier failure := checkString_eq_error_iff_isWrong rfl

theorem record_eq_error_iff :
    (IdentityClaims.ofFields fields).mapError Failure.incomplete = .error failure ↔
      IsWrong leeway now fields .record failure := by
  rw [mapError_eq_error_iff]
  simp only [IdentityClaims.ofFields_eq_error_iff]
  constructor
  · rintro ⟨_, ⟨hissues, rfl⟩, rfl⟩
    exact .record hissues
  · rintro (⟨⟨⟩, _⟩ | _ | _ | ⟨⟨⟩, _⟩ | hissues)
    exact ⟨_, ⟨hissues, rfl⟩, rfl⟩

def IsRight (leeway now : Int) (fields : Json.Fields) (claim : Claim) : Prop :=
  ∀ failure, ¬IsWrong leeway now fields claim failure

theorem eq_ok_iff_isRight {check : Checked Unit} {claim : Claim}
    (h : ∀ failure, check = .error failure ↔ IsWrong leeway now fields claim failure) :
    check = .ok () ↔ IsRight leeway now fields claim := by
  unfold IsRight
  simp only [← h]
  cases check with
  | error failure => simp
  | ok u => simp

theorem bind_eq_error_iff_isWrong {check : Checked Unit} {claim : Claim}
    {next : Unit → Checked IdentityClaims}
    (h : ∀ failure, check = .error failure ↔ IsWrong leeway now fields claim failure) :
    check >>= next = .error failure ↔ IsWrong leeway now fields claim failure ∨
      IsRight leeway now fields claim ∧ next () = .error failure := by
  rw [bind_eq_error_iff, h, ← eq_ok_iff_isRight h]
  constructor
  · rintro (hwrong | ⟨⟨⟩, hok, hnext⟩)
    · exact .inl hwrong
    · exact .inr ⟨hok, hnext⟩
  · rintro (hwrong | ⟨hok, hnext⟩)
    · exact .inl hwrong
    · exact .inr ⟨(), hok, hnext⟩

/-- The checks are made in the order of the claims, so the first claim that is wrong decides. -/
theorem checkClaims_eq_error_iff {exp : Json} (hexp : fields.get? "exp" = some exp) :
    checkClaims leeway now fields = .error failure ↔
      ∃ claim, IsWrong leeway now fields claim failure ∧
        ∀ before ∈ claim.earlier, IsRight leeway now fields before := by
  unfold checkClaims
  rw [hexp]
  simp only
  rw [bind_eq_error_iff_isWrong fun _ => checkIssuedAt_eq_error_iff,
    bind_eq_error_iff_isWrong fun _ => checkNotBefore_eq_error_iff,
    bind_eq_error_iff_isWrong fun _ => checkExpiry_eq_error_iff hexp,
    bind_eq_error_iff_isWrong fun _ => checkSubject_eq_error_iff,
    bind_eq_error_iff_isWrong fun _ => checkIdentifier_eq_error_iff, record_eq_error_iff]
  constructor
  · rintro (h | ⟨hissued, h | ⟨hbegun, h | ⟨hended, h | ⟨hsubject, h | ⟨hidentifier, h⟩⟩⟩⟩⟩)
    · exact ⟨_, h, by simp [Claim.earlier]⟩
    · exact ⟨_, h, by simp [Claim.earlier, hissued]⟩
    · exact ⟨_, h, by simp [Claim.earlier, hissued, hbegun]⟩
    · exact ⟨_, h, by simp [Claim.earlier, hissued, hbegun, hended]⟩
    · exact ⟨_, h, by simp [Claim.earlier, hissued, hbegun, hended, hsubject]⟩
    · exact ⟨_, h, by simp [Claim.earlier, hissued, hbegun, hended, hsubject, hidentifier]⟩
  · rintro ⟨claim, h, hearlier⟩
    cases claim <;> simp_all [Claim.earlier]

theorem checkClaims_eq_ok_iff_right :
    checkClaims leeway now fields = .ok claims ↔
      (∀ claim, IsRight leeway now fields claim) ∧ claims.AreRead fields := by
  rw [checkClaims_eq_ok_iff, ← IdentityClaims.ofFields_eq_ok_iff]
  have hissued := eq_ok_iff_isRight fun _ =>
    @checkIssuedAt_eq_error_iff leeway now fields _
  have hbegun := eq_ok_iff_isRight fun _ => @checkNotBefore_eq_error_iff leeway now fields _
  have hsubject := eq_ok_iff_isRight fun _ => @checkSubject_eq_error_iff leeway now fields _
  have hidentifier := eq_ok_iff_isRight fun _ => @checkIdentifier_eq_error_iff leeway now fields _
  constructor
  · rintro ⟨⟨hfirst, hthird, hfourth, hrecord⟩, hsecond, exp, hexp, hlast⟩
    refine ⟨fun claim => ?_, hrecord⟩
    cases claim with
    | issuedAt => exact hissued.mp hfirst
    | notBefore => exact hbegun.mp hsecond
    | expiry => exact (eq_ok_iff_isRight fun _ => checkExpiry_eq_error_iff hexp).mp hlast
    | subject => exact hsubject.mp hthird
    | identifier => exact hidentifier.mp hfourth
    | record =>
        intro failure hwrong
        rw [← record_eq_error_iff, hrecord] at hwrong
        cases hwrong
  · rintro ⟨hright, hrecord⟩
    obtain ⟨exp, hexp, -⟩ := (IdentityClaims.ofFields_eq_ok_iff.mp hrecord).exp
    exact ⟨⟨hissued.mpr (hright _), hsubject.mpr (hright _), hidentifier.mpr (hright _), hrecord⟩,
      hbegun.mpr (hright _), exp, hexp,
      (eq_ok_iff_isRight fun _ => checkExpiry_eq_error_iff hexp).mpr (hright _)⟩

theorem checkClaims_of_endless (h : fields.get? "exp" = none) :
    checkClaims leeway now fields = .error (.rejected .expiryMissing) := by
  rw [checkClaims, h]
  rfl

theorem checkPayload_eq_iff :
    checkPayload leeway now payload = result ↔ Concludes leeway now payload result := by
  constructor
  · rintro rfl
    unfold checkPayload
    split
    next fault hread =>
      cases hdeep : fault.tooDeep? with
      | some container =>
          obtain ⟨document, rfl⟩ := Json.ReadFault.tooDeep?_eq_some_iff.mp hdeep
          exact .nested ⟨document, hread⟩
      | none =>
          simp only [refuseReading, hdeep]
          refine .unreadable hread ?_
          rintro container ⟨document, hnested⟩
          cases hread.symm.trans hnested
          cases hdeep
    next fields hread =>
      cases hexp : Json.Fields.get? fields "exp" with
      | none =>
          rw [checkClaims_of_endless hexp]
          exact .endless hread hexp
      | some exp =>
          cases hchecked : checkClaims leeway now fields with
          | error failure =>
              obtain ⟨claim, hwrong, hearlier⟩ := (checkClaims_eq_error_iff hexp).mp hchecked
              exact .wrong hread hexp hwrong hearlier
          | ok claims =>
              obtain ⟨hright, hareRead⟩ := checkClaims_eq_ok_iff_right.mp hchecked
              exact .accepted hread hright hareRead
    next value hnot hread => exact .notObject hread hnot
  · intro h
    cases h with
    | nested h =>
        obtain ⟨document, hread⟩ := h
        rw [checkPayload, hread]
        rfl
    | @unreadable fault hread hnot =>
        rw [checkPayload, hread]
        cases hdeep : fault.tooDeep? with
        | some container =>
            obtain ⟨document, rfl⟩ := Json.ReadFault.tooDeep?_eq_some_iff.mp hdeep
            exact absurd ⟨document, hread⟩ (hnot container)
        | none => simp only [refuseReading, hdeep, reject]
    | @notObject value hread hnot =>
        rw [checkPayload, hread]
        cases value with
        | obj fields => exact absurd rfl (hnot fields)
        | _ => rfl
    | endless hread hnone =>
        rw [checkPayload, hread]
        exact checkClaims_of_endless hnone
    | wrong hread hexp hwrong hearlier =>
        rw [checkPayload, hread]
        exact (checkClaims_eq_error_iff hexp).mpr ⟨_, hwrong, hearlier⟩
    | accepted hread hright hareRead =>
        rw [checkPayload, hread]
        exact checkClaims_eq_ok_iff_right.mpr ⟨hright, hareRead⟩

end Token

end SignOn
