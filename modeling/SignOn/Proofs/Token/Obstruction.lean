import SignOn.Failure.Basic
import SignOn.Proofs.Checks
import SignOn.Token.Compact

/-!
# Tokens that cannot be checked through

A token is accepted or rejected, or its check is interrupted.  What interrupts a check is named
here: a text that cannot be written as bytes, a header or a payload that is nested too deeply, a
header without an algorithm, and a claim that is asked for an integer and is of a shape that has
none.  Everything else that is wrong with a token refuses it.
-/

namespace SignOn.Token

variable {leeway now : Int} {token : Text} {fields : Json.Fields} {interruption : Interruption}

theorem reject_ne_interrupted {α : Type} (reason : Reason) :
    (reject reason : Checked α) ≠ .error (.interrupted interruption) := by
  simp [reject]

def NestsTooDeep (bytes : Bytes) (container : Json.Container) : Prop :=
  ∃ document, Json.readUtf8 bytes = .error (.reading document (.nesting container))

theorem refuseReading_ne_ok {α : Type} {reason : Json.ReadFault → Reason}
    {fault : Json.ReadFault} {a : α} : refuseReading reason fault ≠ .ok a := by
  unfold refuseReading
  split <;> exact nofun

theorem refuseReading_interrupted_iff {α : Type} {reason : Json.ReadFault → Reason}
    {fault : Json.ReadFault} :
    (refuseReading reason fault : Checked α) = .error (.interrupted interruption) ↔
      ∃ container document, fault = .reading document (.nesting container) ∧
        interruption = .nesting container := by
  unfold refuseReading
  split
  next container htoo =>
    obtain ⟨document, rfl⟩ := Json.ReadFault.tooDeep?_eq_some_iff.mp htoo
    simp [interrupt, eq_comm (a := interruption)]
  next htoo =>
    refine iff_of_false (reject_ne_interrupted _) ?_
    rintro ⟨container, document, hfault, -⟩
    cases htoo.symm.trans (Json.ReadFault.tooDeep?_eq_some_iff.mpr ⟨document, hfault⟩)

/-- What keeps a value from being tried as an integer. -/
def obstacle? : Json → Option Interruption
  | .null => some (.claimShape .null)
  | .arr _ => some (.claimShape .list)
  | .obj _ => some (.claimShape .object)
  | .float (.infinity _) => some .claimInfinite
  | _ => none

theorem claimInteger_interrupted_iff (reason : Reason) (value : Json) :
    claimInteger reason value = .error (.interrupted interruption) ↔
      obstacle? value = some interruption := by
  cases value with
  | float x =>
      cases x with
      | infinity negative => simp [claimInteger, obstacle?, interrupt]
      | _ =>
          simp only [claimInteger, obstacle?]
          split <;> simp [reject]
  | str t =>
      simp only [claimInteger, obstacle?]
      split <;> simp [reject]
  | _ => simp [claimInteger, obstacle?, interrupt]

theorem checkIssuedAt_interrupted_iff :
    checkIssuedAt fields = .error (.interrupted interruption) ↔
      ∃ value, fields.get? "iat" = some value ∧ obstacle? value = some interruption := by
  unfold checkIssuedAt
  cases fields.get? "iat" with
  | none => simp
  | some value =>
      simp only [Option.some.injEq, exists_eq_left',
        ← claimInteger_interrupted_iff .issuedAtNotInteger]
      cases claimInteger .issuedAtNotInteger value <;> simp [Except.map]

theorem checkNotBefore_interrupted_iff :
    checkNotBefore leeway now fields = .error (.interrupted interruption) ↔
      ∃ value, fields.get? "nbf" = some value ∧ obstacle? value = some interruption := by
  unfold checkNotBefore
  cases fields.get? "nbf" with
  | none => simp
  | some value =>
      simp only [Option.some.injEq, exists_eq_left', bind_eq_error_iff,
        claimInteger_interrupted_iff]
      refine or_iff_left ?_
      rintro ⟨start, -, hstart⟩
      split at hstart
      · exact reject_ne_interrupted _ hstart
      · contradiction

theorem checkExpiry_interrupted_iff {value : Json} :
    checkExpiry leeway now value = .error (.interrupted interruption) ↔
      obstacle? value = some interruption := by
  unfold checkExpiry
  simp only [bind_eq_error_iff, claimInteger_interrupted_iff]
  refine or_iff_left ?_
  rintro ⟨stop, -, hstop⟩
  split at hstop
  · exact reject_ne_interrupted _ hstop
  · contradiction

theorem checkString_ne_interrupted (name : Text) (reason : Reason) :
    checkString fields name reason ≠ .error (.interrupted interruption) := by
  unfold checkString
  split <;> simp [reject]

/-- A claim that obstructs the check of a payload, all that is looked at before it being in
order. -/
inductive ClaimsObstruct (leeway now : Int) (fields : Json.Fields) (interruption : Interruption) :
    Prop
  | issuedAt {exp value : Json} (hexp : fields.get? "exp" = some exp)
      (h : fields.get? "iat" = some value) (hobstacle : obstacle? value = some interruption)
  | notBefore {exp value : Json} (hexp : fields.get? "exp" = some exp)
      (hissued : checkIssuedAt fields = .ok ()) (h : fields.get? "nbf" = some value)
      (hobstacle : obstacle? value = some interruption)
  | expiry {exp : Json} (hexp : fields.get? "exp" = some exp)
      (hissued : checkIssuedAt fields = .ok ()) (hbegun : checkNotBefore leeway now fields = .ok ())
      (hobstacle : obstacle? exp = some interruption)

theorem checkClaims_interrupted_iff :
    checkClaims leeway now fields = .error (.interrupted interruption) ↔
      ClaimsObstruct leeway now fields interruption := by
  unfold checkClaims
  cases hexp : fields.get? "exp" with
  | none =>
      refine iff_of_false (by simp [reject]) ?_
      rintro (⟨h⟩ | ⟨h⟩ | ⟨h⟩) <;> simp [hexp] at h
  | some exp =>
      -- What is looked at after the times can only be rejected.
      have hlate : ¬ (checkString fields "sub" .subjectNotString >>= fun _ =>
          checkString fields "jti" .identifierNotString >>= fun _ =>
            (IdentityClaims.ofFields fields).mapError .incomplete) =
          .error (.interrupted interruption) := by
        simp only [bind_eq_error_iff, checkString_ne_interrupted, false_or, not_exists, not_and]
        intro _ _ _ _
        cases IdentityClaims.ofFields fields <;> rintro ⟨⟩
      simp only [bind_eq_error_iff (x := checkIssuedAt fields),
        bind_eq_error_iff (x := checkNotBefore leeway now fields),
        bind_eq_error_iff (x := checkExpiry leeway now exp), checkIssuedAt_interrupted_iff,
        checkNotBefore_interrupted_iff, checkExpiry_interrupted_iff, hlate, and_false,
        exists_false, or_false]
      constructor
      · rintro (⟨value, h, hobstacle⟩ |
          ⟨⟨⟩, hissued, ⟨value, h, hobstacle⟩ | ⟨⟨⟩, hbegun, hobstacle⟩⟩)
        · exact .issuedAt hexp h hobstacle
        · exact .notBefore hexp hissued h hobstacle
        · exact .expiry hexp hissued hbegun hobstacle
      · rintro (⟨-, h, hobstacle⟩ | ⟨-, hissued, h, hobstacle⟩ |
          ⟨hsome, hissued, hbegun, hobstacle⟩)
        · exact .inl ⟨_, h, hobstacle⟩
        · exact .inr ⟨(), hissued, .inl ⟨_, h, hobstacle⟩⟩
        · obtain rfl := Option.some.inj (hexp.symm.trans hsome)
          exact .inr ⟨(), hissued, .inr ⟨(), hbegun, hobstacle⟩⟩

/-- A token of three segments that are read, with an object for a header that names no
algorithm. -/
def NamesNoAlgorithm (bytes : Bytes) : Prop :=
  ∃ segments header headerFields payload signature, segments? bytes = some segments ∧
    Base64.decodeSegment? segments.header = some header ∧
    Json.readUtf8 header = .ok (.obj headerFields) ∧
    Base64.decodeSegment? segments.payload = some payload ∧
    Base64.decodeSegment? segments.signature = some signature ∧
    Json.Fields.get? headerFields "alg" = none

def NestsHeader (bytes : Bytes) (container : Json.Container) : Prop :=
  ∃ segments header, segments? bytes = some segments ∧
    Base64.decodeSegment? segments.header = some header ∧ NestsTooDeep header container

theorem unpackBytes_interrupted_iff {bytes : Bytes} :
    unpackBytes bytes = .error (.interrupted interruption) ↔
      interruption = .algorithmMissing ∧ NamesNoAlgorithm bytes ∨
        ∃ container, interruption = .nesting container ∧ NestsHeader bytes container := by
  constructor
  · intro h
    unfold unpackBytes at h
    split at h
    next => exact absurd h (reject_ne_interrupted _)
    next segments hsegments =>
      split at h
      next => exact absurd h (reject_ne_interrupted _)
      next header hheader =>
        split at h
        next fault hread =>
          obtain ⟨container, document, rfl, rfl⟩ := refuseReading_interrupted_iff.mp h
          exact .inr ⟨container, rfl, segments, header, hsegments, hheader, document, hread⟩
        next headerFields hread =>
          split at h
          next => exact absurd h (reject_ne_interrupted _)
          next => exact absurd h (reject_ne_interrupted _)
          next payload signature hpayload hsignature =>
            split at h
            next => contradiction
            next halgorithm =>
              cases h
              exact .inl ⟨rfl, segments, header, headerFields, payload, signature, hsegments,
                hheader, hread, hpayload, hsignature, by simpa using halgorithm⟩
        next => exact absurd h (reject_ne_interrupted _)
  · rintro (⟨rfl, segments, header, headerFields, payload, signature, hsegments, hheader, hread,
      hpayload, hsignature, halgorithm⟩ |
      ⟨container, rfl, segments, header, hsegments, hheader, document, hread⟩)
    · simp only [unpackBytes, hsegments, hheader, hread, hpayload, hsignature, halgorithm]
      rfl
    · simp only [unpackBytes, hsegments, hheader, hread]
      exact refuseReading_interrupted_iff.mpr ⟨container, document, rfl, rfl⟩

/-- What keeps a token from being checked through. -/
inductive Obstructs (leeway now : Int) (token : Text) : Interruption → Prop
  | text {fault : Codec.EncodeFault} (h : Utf8.encodeStrict token = .error fault) :
      Obstructs leeway now token (.notEncodable fault)
  | header {bytes : Bytes} (h : Utf8.encodeStrict token = .ok bytes)
      (hheader : NamesNoAlgorithm bytes) : Obstructs leeway now token .algorithmMissing
  | nestedHeader {bytes : Bytes} {container : Json.Container}
      (h : Utf8.encodeStrict token = .ok bytes) (hheader : NestsHeader bytes container) :
      Obstructs leeway now token (.nesting container)
  | nestedPayload {payload : Bytes} {container : Json.Container} (h : unpack token = .ok payload)
      (hpayload : NestsTooDeep payload container) : Obstructs leeway now token (.nesting container)
  | claims {payload : Bytes} {fields : Json.Fields} {interruption : Interruption}
      (h : unpack token = .ok payload) (hread : Json.readUtf8 payload = .ok (.obj fields))
      (hclaims : ClaimsObstruct leeway now fields interruption) :
      Obstructs leeway now token interruption

theorem checkPayload_interrupted_iff {payload : Bytes} :
    checkPayload leeway now payload = .error (.interrupted interruption) ↔
      (∃ container, interruption = .nesting container ∧ NestsTooDeep payload container) ∨
        ∃ fields, Json.readUtf8 payload = .ok (.obj fields) ∧
          ClaimsObstruct leeway now fields interruption := by
  unfold checkPayload NestsTooDeep
  split
  next fault hread =>
    simp only [hread, refuseReading_interrupted_iff, Except.error.injEq, reduceCtorEq, false_and,
      exists_false, or_false]
    constructor
    · rintro ⟨container, document, hfault, hcause⟩
      exact ⟨container, hcause, document, hfault⟩
    · rintro ⟨container, hcause, document, hfault⟩
      exact ⟨container, document, hfault, hcause⟩
  next fields hread => simp [hread, checkClaims_interrupted_iff]
  next value hnot hread =>
    refine iff_of_false (reject_ne_interrupted _) ?_
    rintro (⟨container, -, document, hnested⟩ | ⟨fields, hobject, -⟩)
    · cases hread.symm.trans hnested
    · exact hnot fields (Except.ok.inj (hread.symm.trans hobject))

theorem unpack_interrupted_iff :
    unpack token = .error (.interrupted interruption) ↔
      (∃ fault, Utf8.encodeStrict token = .error fault ∧ interruption = .notEncodable fault) ∨
        ∃ bytes, Utf8.encodeStrict token = .ok bytes ∧
          (interruption = .algorithmMissing ∧ NamesNoAlgorithm bytes ∨
            ∃ container, interruption = .nesting container ∧ NestsHeader bytes container) := by
  unfold unpack
  cases Utf8.encodeStrict token with
  | error fault => simp [interrupt, eq_comm]
  | ok bytes => simp [unpackBytes_interrupted_iff]

theorem parse_interrupted_iff :
    parse leeway now token = .error (.interrupted interruption) ↔
      Obstructs leeway now token interruption := by
  unfold parse
  rw [bind_eq_error_iff, unpack_interrupted_iff]
  constructor
  · rintro ((⟨fault, h, rfl⟩ |
      ⟨bytes, h, ⟨rfl, hheader⟩ | ⟨container, rfl, hheader⟩⟩) | ⟨payload, h, hchecked⟩)
    · exact .text h
    · exact .header h hheader
    · exact .nestedHeader h hheader
    · rcases checkPayload_interrupted_iff.mp hchecked with
        ⟨container, rfl, hpayload⟩ | ⟨fields, hread, hclaims⟩
      · exact .nestedPayload h hpayload
      · exact .claims h hread hclaims
  · rintro (h | ⟨h, hheader⟩ | ⟨h, hheader⟩ | ⟨h, hpayload⟩ | ⟨h, hread, hclaims⟩)
    · exact .inl (.inl ⟨_, h, rfl⟩)
    · exact .inl (.inr ⟨_, h, .inl ⟨rfl, hheader⟩⟩)
    · exact .inl (.inr ⟨_, h, .inr ⟨_, rfl, hheader⟩⟩)
    · exact .inr ⟨_, h, checkPayload_interrupted_iff.mpr (.inl ⟨_, rfl, hpayload⟩)⟩
    · exact .inr ⟨_, h, checkPayload_interrupted_iff.mpr (.inr ⟨_, hread, hclaims⟩)⟩

theorem refused_or_interrupted (failure : Failure) :
    (∃ refusal : Refusal, Failure.ofToken failure = .refused refusal ∧
      refusal.kind = .identityTokenDecode ∧ refusal.status = 502 ∧
      refusal.message = Text.ofString "Could not decode id token") ∨
    ∃ interruption, failure = .interrupted interruption ∧
      Failure.ofToken failure = .interrupted (.token interruption) := by
  cases failure with
  | rejected reason => exact .inl ⟨_, rfl, rfl, rfl, rfl⟩
  | incomplete issues => exact .inl ⟨_, rfl, rfl, rfl, rfl⟩
  | interrupted interruption => exact .inr ⟨interruption, rfl, rfl⟩

end SignOn.Token
