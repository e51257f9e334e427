import SignOn.Proofs.Base64
import SignOn.Proofs.Json.Equality
import SignOn.Proofs.Json.Limits
import SignOn.Proofs.Text.Utf8
import SignOn.Proofs.Token.Judgement

/-!
# The compact form of a token

A compact token is cut at its dots into what it was made of, since base64 writes no dot, and each
segment is read back.  What comes of the token is what comes of its payload.
-/

namespace SignOn

/-- Fields that state these claims as they are, and nothing about the token itself. -/
structure IdentityClaims.AreStated (claims : IdentityClaims) (fields : Json.Fields) : Prop where
  exp : fields.get? "exp" = some (.int claims.exp)
  email : fields.get? "email" = claims.email.map .str ∨
    claims.email = none ∧ fields.get? "email" = some .null
  nonce : fields.get? "nonce" = some (.str claims.nonce)
  issuedAt : fields.get? "iat" = none
  notBefore : fields.get? "nbf" = none
  subject : fields.get? "sub" = none
  identifier : fields.get? "jti" = none

theorem IdentityClaims.AreStated.areRead {claims : IdentityClaims} {fields : Json.Fields}
    (h : claims.AreStated fields) : claims.AreRead fields :=
  ⟨⟨_, h.exp, rfl⟩, h.email, h.nonce⟩

namespace Token

variable {leeway now : Int} {fields : Json.Fields} {claims : IdentityClaims}

theorem dot_not_mem_encode (padded : Bool) (bs : Bytes) :
    dot ∉ Base64.encode .urlSafe padded bs :=
  Base64.not_mem_encode (by decide) (by decide)

theorem segments?_compact (padded : Bool × Bool × Bool) (segments : Segments) :
    segments? (compact padded segments) =
      some ⟨Base64.encode .urlSafe padded.1 segments.header,
        Base64.encode .urlSafe padded.2.1 segments.payload,
        Base64.encode .urlSafe padded.2.2 segments.signature⟩ := by
  have hlast := Split.cutLast?_append (dot_not_mem_encode padded.2.2 segments.signature)
    (Base64.encode .urlSafe padded.1 segments.header ++
      dot :: Base64.encode .urlSafe padded.2.1 segments.payload)
  have hfirst := Split.cutFirst?_append (dot_not_mem_encode padded.1 segments.header)
    (Base64.encode .urlSafe padded.2.1 segments.payload)
  rw [segments?, compact, hlast]
  simp only [Option.bind_eq_bind, Option.bind_some, hfirst]

theorem toNat_lt_of_mem_compact {padded : Bool × Bool × Bool} {segments : Segments} {b : UInt8}
    (h : b ∈ compact padded segments) : b.toNat < 0x80 := by
  have hdot : dot.toNat < 0x80 := by decide
  simp only [compact, List.mem_append, List.mem_cons] at h
  rcases h with (hheader | rfl | hpayload) | rfl | hsignature
  · exact Base64.toNat_lt_of_mem_encode hheader
  · exact hdot
  · exact Base64.toNat_lt_of_mem_encode hpayload
  · exact hdot
  · exact Base64.toNat_lt_of_mem_encode hsignature

def compactText (padded : Bool × Bool × Bool) (segments : Segments) : Text :=
  (compact padded segments).map CodePoint.ofByte

theorem encodeStrict_compactText (padded : Bool × Bool × Bool) (segments : Segments) :
    Utf8.encodeStrict (compactText padded segments) = .ok (compact padded segments) :=
  Utf8.encodeStrict_map_ofByte fun _ => toNat_lt_of_mem_compact

theorem unpack_segments (padded : Bool × Bool × Bool) {segments : Segments}
    (h : NamesAlgorithm segments.header) :
    Segments.Unpack ⟨Base64.encode .urlSafe padded.1 segments.header,
      Base64.encode .urlSafe padded.2.1 segments.payload,
      Base64.encode .urlSafe padded.2.2 segments.signature⟩ segments.payload where
  header := ⟨segments.header, Base64.decodeSegment?_encode _ _, h⟩
  payload := Base64.decodeSegment?_encode _ _
  signature := by rw [Base64.decodeSegment?_encode]; rfl

theorem unpack_compactText (padded : Bool × Bool × Bool) {segments : Segments}
    (h : NamesAlgorithm segments.header) :
    unpack (compactText padded segments) = .ok segments.payload := by
  rw [unpack, encodeStrict_compactText]
  exact unpackBytes_of_segments (segments?_compact padded segments) (unpack_segments padded h)

theorem holds_compactText (padded : Bool × Bool × Bool) {segments : Segments}
    (h : NamesAlgorithm segments.header)
    (hread : Json.readUtf8 segments.payload = .ok (.obj fields)) :
    Holds (compactText padded segments) fields :=
  .mk (encodeStrict_compactText padded segments) (segments?_compact padded segments)
    (unpack_segments padded h) hread

theorem checkClaims_of_areStated (h : claims.AreStated fields) (hend : now - leeway ≤ claims.exp) :
    checkClaims leeway now fields = .ok claims := by
  have hrecord : IdentityClaims.ofFields fields = .ok claims :=
    IdentityClaims.ofFields_eq_ok_iff.mpr h.areRead
  refine checkClaims_eq_ok_iff.mpr ⟨⟨?_, ?_, ?_, hrecord⟩, ?_, _, h.exp, ?_⟩
  · rw [checkIssuedAt, h.issuedAt]
  · rw [checkString, h.subject]
  · rw [checkString, h.identifier]
  · rw [checkNotBefore, h.notBefore]
  · exact checkExpiry_eq_ok_iff.mpr ⟨claims.exp, rfl, by omega⟩

/-- Whatever three byte strings a compact token is made of, if the first is read as an object that
names an algorithm, what comes of the token is what comes of the second on its own.  Claims that it
states as they are come back as they are.  Not every document is read: one with an integer of more
digits than the limit is refused, and the check breaks off at one that is nested too deeply. -/
theorem compact_is_undone (leeway now : Int) (padded : Bool × Bool × Bool) (segments : Segments)
    (h : NamesAlgorithm segments.header) :
    (∀ result, parse leeway now (compactText padded segments) = result ↔
        Concludes leeway now segments.payload result) ∧
      ∀ fields claims, Json.readUtf8 segments.payload = .ok (.obj fields) →
        claims.AreStated fields → now - leeway ≤ claims.exp →
        parse leeway now (compactText padded segments) = .ok claims := by
  have hparse : parse leeway now (compactText padded segments) =
      checkPayload leeway now segments.payload := parse_of_unpack (unpack_compactText padded h)
  refine ⟨fun result => ?_, fun fields claims hread hstated hend => ?_⟩
  · rw [hparse]
    exact checkPayload_eq_iff
  · rw [hparse, checkPayload, hread]
    exact checkClaims_of_areStated hstated hend

def sampleSegments : Segments where
  header := Utf8.encode (Json.write (.obj [("alg", .str "a")]))
  payload := Utf8.encode (Json.write (.obj
    [("exp", .int 9), ("aud", .arr [.int 1]), ("nonce", .str "n"), ("email", .null)]))
  signature := [0xFF]

theorem readUtf8_samplePayload : Json.readUtf8 sampleSegments.payload =
    .ok (.obj [("exp", .int 9), ("aud", .arr [.int 1]), ("nonce", .str "n"), ("email", .null)]) :=
  eq_ok_of_toOption (by decide +kernel)

theorem areStated_samplePayload : IdentityClaims.AreStated ⟨9, none, "n"⟩
    [("exp", .int 9), ("aud", .arr [.int 1]), ("nonce", .str "n"), ("email", .null)] :=
  ⟨rfl, .inr ⟨rfl, rfl⟩, rfl, rfl, rfl, rfl, rfl⟩

theorem compact_is_undone_in_sample :
    NamesAlgorithm sampleSegments.header ∧
      parse 2 11 (compactText (true, false, true) sampleSegments) = .ok ⟨9, none, "n"⟩ := by
  have hheader : (Json.readUtf8 sampleSegments.header).toOption =
      some (.obj [("alg", .str "a")]) := by decide +kernel
  have halgorithm : NamesAlgorithm sampleSegments.header :=
    ⟨_, eq_ok_of_toOption hheader, by decide⟩
  obtain ⟨-, hclaims⟩ := compact_is_undone 2 11 (true, false, true) sampleSegments halgorithm
  exact ⟨halgorithm, hclaims _ _ readUtf8_samplePayload areStated_samplePayload (by decide)⟩

def headerWith (exponent : Nat) : Json.Fields :=
  [("n", .int (Nat.pow 10 exponent)), ("alg", .str "a")]

theorem write_headerWith (exponent : Nat) : Json.write (.obj (headerWith exponent)) =
    CodePoint.ofChar '{' :: CodePoint.ofChar '"' :: (Text.ofString "n" ++ CodePoint.ofChar '"' ::
      CodePoint.ofChar ':' :: CodePoint.ofChar '1' ::
        (List.replicate exponent (CodePoint.ofChar '0') ++ CodePoint.ofChar ',' ::
          (Text.ofString "\"alg\":\"a\"" ++ [CodePoint.ofChar '}']))) := by
  simp only [headerWith, Json.write, Json.writeFields, Text.join, Text.ofInt_pow_ten,
    List.append_assoc]
  rfl

theorem readUtf8_headerWith {exponent : Nat} (h : Number.digitLimit ≤ exponent) :
    Json.readUtf8 (Utf8.encode (Json.write (.obj (headerWith exponent)))) =
      .error (.reading (Json.write (.obj (headerWith exponent))) (.digits (exponent + 1))) := by
  have hscalar : Text.IsScalar (Json.write (.obj (headerWith exponent))) := by
    rw [write_headerWith]
    have hzeros : Text.IsScalar (List.replicate exponent (CodePoint.ofChar '0')) :=
      fun c hc => by rw [List.eq_of_mem_replicate hc]; rfl
    simp only [Text.IsScalar, List.forall_mem_cons, List.forall_mem_append]
    exact ⟨rfl, rfl, by decide, rfl, rfl, rfl, hzeros, rfl, by decide, by decide⟩
  have hread : Json.read (Json.write (.obj (headerWith exponent))) =
      .error (.digits (exponent + 1)) := by
    have hdigits : ∀ d ∈ CodePoint.ofChar '1' :: List.replicate exponent (CodePoint.ofChar '0'),
        d.isDigit = true := by
      refine List.forall_mem_cons.mpr ⟨rfl, fun d hd => ?_⟩
      rw [List.eq_of_mem_replicate hd]
      rfl
    have hlength : (CodePoint.ofChar '1' ::
        List.replicate exponent (CodePoint.ofChar '0')).length = exponent + 1 := by
      rw [List.length_cons, List.length_replicate]
    rw [write_headerWith, Json.read, if_neg (by rw [List.head?_cons]; decide),
      Json.readDocument_of_long (by decide) hdigits (by decide) (by omega), hlength]
  rw [Json.readUtf8, Utf8.decode_encode hscalar]
  change Json.readText _ = _
  rw [Json.readText, hread]
  rfl

theorem parse_ne_ok_of_header {padded : Bool × Bool × Bool} {header payload signature : Bytes}
    {fault : Json.ReadFault} (h : Json.readUtf8 header = .error fault) :
    parse leeway now (compactText padded ⟨header, payload, signature⟩) ≠ .ok claims := by
  have hunpack : unpack (compactText padded ⟨header, payload, signature⟩) =
      refuseReading .headerUnreadable fault := by
    simp only [unpack, encodeStrict_compactText, unpackBytes, segments?_compact,
      Base64.decodeSegment?_encode, h]
  intro hparse
  obtain ⟨payload, hpayload, -⟩ := bind_eq_ok_iff.mp hparse
  exact refuseReading_ne_ok (hunpack.symm.trans hpayload)

/-- The condition is on what is read of a header, and not on what was written: an object that names
an algorithm keeps a token from being accepted if it states a long integer besides. -/
theorem not_always_undone : ¬∀ leeway now padded (header : Json.Fields) payload signature result,
    (header.get? "alg").isSome → (parse leeway now (compactText padded
      ⟨Utf8.encode (Json.write (.obj header)), payload, signature⟩) = result ↔
        Concludes leeway now payload result) := by
  intro hall
  have hchecked : checkPayload 2 11 sampleSegments.payload = .ok ⟨9, none, "n"⟩ := by
    rw [checkPayload, readUtf8_samplePayload]
    exact checkClaims_of_areStated areStated_samplePayload (by decide)
  -- The exponent is kept a variable, since the power is too large to be computed.
  obtain ⟨exponent, hexponent⟩ : ∃ exponent, Number.digitLimit ≤ exponent := ⟨_, Nat.le_refl _⟩
  have hparse := (hall 2 11 (true, false, true) (headerWith exponent) sampleSegments.payload
    sampleSegments.signature _ rfl).mpr (checkPayload_eq_iff.mp hchecked)
  exact parse_ne_ok_of_header (readUtf8_headerWith hexponent) hparse

end Token

end SignOn
