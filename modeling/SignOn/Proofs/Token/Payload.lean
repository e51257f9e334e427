import SignOn.Proofs.Provider.TokenAnswer
import SignOn.Proofs.Token.Obstruction

/-!
# Tokens that are read through

A token holds the fields of its payload when all of it is read: three segments in base64, a header
that names an algorithm, an object for a payload.  The checks of its fields settle what comes of
such a token, and no other token is accepted.  Each check that succeeds is taken apart here.
-/

namespace SignOn.Token

variable {leeway now : Int} {token : Text} {fields : Json.Fields} {claims : IdentityClaims}

/-- A header that is read as an object which names an algorithm. -/
def NamesAlgorithm (header : Bytes) : Prop :=
  ∃ fields, Json.readUtf8 header = .ok (.obj fields) ∧ (Json.Fields.get? fields "alg").isSome

structure Segments.Unpack (segments : Segments) (payload : Bytes) : Prop where
  header : ∃ header, Base64.decodeSegment? segments.header = some header ∧ NamesAlgorithm header
  payload : Base64.decodeSegment? segments.payload = some payload
  signature : (Base64.decodeSegment? segments.signature).isSome

theorem unpackBytes_of_segments {bytes payload : Bytes} {segments : Segments}
    (hsegments : segments? bytes = some segments) (h : segments.Unpack payload) :
    unpackBytes bytes = .ok payload := by
  obtain ⟨⟨header, hheader, headerFields, hread, halgorithm⟩, hpayload, hsignature⟩ := h
  obtain ⟨signature, hsignature⟩ := Option.isSome_iff_exists.mp hsignature
  simp only [unpackBytes, hsegments, hheader, hread, hpayload, hsignature, if_pos halgorithm]

theorem of_unpackBytes {bytes payload : Bytes} (h : unpackBytes bytes = .ok payload) :
    ∃ segments, segments? bytes = some segments ∧ segments.Unpack payload := by
  unfold unpackBytes at h
  split at h
  next => contradiction
  next segments hsegments =>
    refine ⟨segments, hsegments, ?_⟩
    split at h
    next => contradiction
    next header hheader =>
      split at h
      next => exact absurd h refuseReading_ne_ok
      next headerFields hread =>
        split at h
        next => contradiction
        next => contradiction
        next found signature hpayload hsignature =>
          split at h
          next halgorithm =>
            cases h
            exact ⟨⟨header, hheader, headerFields, hread, halgorithm⟩, hpayload,
              by rw [hsignature]; rfl⟩
          next => contradiction
      next => contradiction

/-- A token that is read through, with these fields in its payload. -/
inductive Holds (token : Text) (fields : Json.Fields) : Prop
  | mk {bytes payload : Bytes} {segments : Segments} (hbytes : Utf8.encodeStrict token = .ok bytes)
      (hsegments : segments? bytes = some segments) (hunpack : segments.Unpack payload)
      (hread : Json.readUtf8 payload = .ok (.obj fields)) : Holds token fields

theorem parse_of_unpack {payload : Bytes} (h : unpack token = .ok payload) :
    parse leeway now token = checkPayload leeway now payload := by
  rw [parse, h]
  rfl

theorem parse_of_holds (h : Holds token fields) :
    parse leeway now token = checkClaims leeway now fields := by
  obtain ⟨hbytes, hsegments, hunpack, hread⟩ := h
  rw [parse_of_unpack (by rw [unpack, hbytes]; exact unpackBytes_of_segments hsegments hunpack),
    checkPayload, hread]

theorem exists_holds_of_parse (h : parse leeway now token = .ok claims) :
    ∃ fields, Holds token fields := by
  unfold parse at h
  cases hunpack : unpack token with
  | error failure =>
      rw [hunpack] at h
      contradiction
  | ok payload =>
      rw [hunpack] at h
      change checkPayload leeway now payload = .ok claims at h
      cases hbytes : Utf8.encodeStrict token with
      | error fault =>
          rw [unpack, hbytes] at hunpack
          contradiction
      | ok bytes =>
          rw [unpack, hbytes] at hunpack
          obtain ⟨segments, hsegments, hsegment⟩ := of_unpackBytes hunpack
          unfold checkPayload at h
          split at h
          next => exact absurd h refuseReading_ne_ok
          next fields hread => exact ⟨fields, .mk hbytes hsegments hsegment hread⟩
          next => contradiction

def integer? (value : Json) : Option Int := (claimInteger .expiryNotInteger value).toOption

theorem claimInteger_eq_ok_iff {reason : Reason} {value : Json} {n : Int} :
    claimInteger reason value = .ok n ↔ integer? value = some n := by
  unfold integer?
  cases value with
  | float x =>
      cases x with
      | infinity negative => simp [claimInteger, interrupt, Except.toOption]
      | _ =>
          simp only [claimInteger]
          split <;> simp [reject, Except.toOption]
  | str t =>
      simp only [claimInteger]
      split <;> simp [reject, Except.toOption]
  | _ => simp [claimInteger, interrupt, Except.toOption]

theorem checkNotBefore_eq_ok_iff :
    checkNotBefore leeway now fields = .ok () ↔
      ∀ value, fields.get? "nbf" = some value →
        ∃ start, integer? value = some start ∧ start ≤ now + leeway := by
  unfold checkNotBefore
  cases fields.get? "nbf" with
  | none => simp
  | some value =>
      simp only [Option.some.injEq, forall_eq', bind_eq_ok_iff, claimInteger_eq_ok_iff]
      refine exists_congr fun start => and_congr_right fun _ => ?_
      by_cases h : now + leeway < start
      · simp [reject, h]
      · simp [h, Int.not_lt.mp h]

theorem checkExpiry_eq_ok_iff {value : Json} :
    checkExpiry leeway now value = .ok () ↔
      ∃ stop, integer? value = some stop ∧ now ≤ stop + leeway := by
  simp only [checkExpiry, bind_eq_ok_iff, claimInteger_eq_ok_iff]
  refine exists_congr fun stop => and_congr_right fun _ => ?_
  by_cases h : stop < now - leeway
  · have hlate : ¬ now ≤ stop + leeway := by omega
    simp [reject, h, hlate]
  · have hintime : now ≤ stop + leeway := by omega
    simp [h, hintime]

/-- What of the fields is looked at without regard to a clock. -/
structure IsSettled (fields : Json.Fields) (claims : IdentityClaims) : Prop where
  issuedAt : checkIssuedAt fields = .ok ()
  subject : checkString fields "sub" .subjectNotString = .ok ()
  identifier : checkString fields "jti" .identifierNotString = .ok ()
  record : IdentityClaims.ofFields fields = .ok claims

theorem checkClaims_eq_ok_iff :
    checkClaims leeway now fields = .ok claims ↔
      IsSettled fields claims ∧ checkNotBefore leeway now fields = .ok () ∧
        ∃ exp, fields.get? "exp" = some exp ∧ checkExpiry leeway now exp = .ok () := by
  unfold checkClaims
  cases hexp : fields.get? "exp" with
  | none => simp [reject]
  | some exp =>
      simp only [bind_eq_ok_iff, Option.some.injEq, exists_eq_left']
      constructor
      · rintro ⟨⟨⟩, hissued, ⟨⟩, hbegun, ⟨⟩, hnotEnded, ⟨⟩, hsubject, ⟨⟩, hidentifier, hrecord⟩
        exact ⟨⟨hissued, hsubject, hidentifier, mapError_eq_ok_iff.mp hrecord⟩, hbegun, hnotEnded⟩
      · rintro ⟨⟨hissued, hsubject, hidentifier, hrecord⟩, hbegun, hnotEnded⟩
        exact ⟨(), hissued, (), hbegun, (), hnotEnded, (), hsubject, (), hidentifier,
          by rw [hrecord]; rfl⟩

end SignOn.Token
