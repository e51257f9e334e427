import SignOn.Proofs.Number.Reading
import SignOn.Proofs.Token.Judgement

/-!
# The lifetime of a token

A clock matters to a token in one way: from the token's beginning on, if it states one, and up to
its end the token is accepted, with leeway on both sides, and at no other time.  What it is accepted
as does not change meanwhile.  The end is read twice, once to be compared with the clock and once
for the record of claims, by readers that differ; for a token that is accepted both give the same.
-/

namespace SignOn

theorem Record.truncated?_of_integerOfNumber {x : Binary64} {n : Int}
    (h : integerOfNumber x = .ok n) : x.truncated? = some n := by
  unfold integerOfNumber at h
  split at h
  · contradiction
  next whole hwhole =>
    rw [hwhole]
    split at h
    · contradiction
    · split at h
      · exact congrArg some (Except.ok.inj h)
      · contradiction

theorem Record.fieldInteger_of_integerOfText {t : Text} {n : Int} (h : integerOfText t = .ok n) :
    Number.fieldInteger t = .ok n := by
  unfold integerOfText at h
  split at h
  next m hm => rw [hm, Except.ok.inj h]
  · contradiction
  · contradiction

theorem Token.truncated?_of_integer? {x : Binary64} {n : Int}
    (h : integer? (.float x) = some n) : x.truncated? = some n := by
  have hread : claimInteger .expiryNotInteger (.float x) = .ok n := claimInteger_eq_ok_iff.mpr h
  unfold claimInteger at hread
  cases x with
  | infinity negative => contradiction
  | nan => contradiction
  | finite negative mantissa exponent => exact congrArg some (Except.ok.inj hread)

theorem Token.anyInteger?_of_integer? {t : Text} {n : Int} (h : integer? (.str t) = some n) :
    Number.anyInteger? t = some n := by
  have hread : claimInteger .expiryNotInteger (.str t) = .ok n := claimInteger_eq_ok_iff.mpr h
  simp only [claimInteger] at hread
  split at hread
  next m hm => rw [hm, Except.ok.inj hread]
  · contradiction

theorem Record.eq_of_integer {value : Json} {m n : Int} (hclaim : Token.integer? value = some m)
    (hfield : Record.integer value = .ok n) : n = m := by
  cases value with
  | int k =>
      cases hclaim
      cases hfield
      rfl
  | bool b =>
      cases hclaim
      cases hfield
      rfl
  | float x =>
      have hn := truncated?_of_integerOfNumber hfield
      exact Option.some.inj (hn.symm.trans (Token.truncated?_of_integer? hclaim))
  | str t =>
      have hm := Token.anyInteger?_of_integer? hclaim
      have hn := fieldInteger_of_integerOfText hfield
      exact (Number.eq_of_anyInteger?_of_fieldInteger hm hn).symm
  | null => contradiction
  | arr elements => contradiction
  | obj fields => contradiction

theorem IdentityClaims.exp_of_ofFields {fields : Json.Fields} {claims : IdentityClaims}
    (h : IdentityClaims.ofFields fields = .ok claims) {value : Json}
    (hvalue : fields.get? "exp" = some value) : Record.integer value = .ok claims.exp := by
  obtain ⟨exp, hexp, hread⟩ := (ofFields_eq_ok_iff.mp h).exp
  obtain rfl := Option.some.inj (hexp.symm.trans hvalue)
  exact hread

namespace Token

variable {leeway now : Int} {token : Text} {claims : IdentityClaims}

/-- Whether a clock has reached the beginning that fields state, if they state one. -/
def HasBegun (leeway : Int) (fields : Json.Fields) (clock : Int) : Prop :=
  ∀ value start, fields.get? "nbf" = some value → integer? value = some start →
    start - leeway ≤ clock

/-- A token that is accepted once is accepted, as the same, from its beginning to its end, and at no
other time.  The end that is compared with the clock is the one that the claims have. -/
theorem accepted_within_lifetime (h : parse leeway now token = .ok claims) :
    ∃ fields, Holds token fields ∧
      (∃ value, fields.get? "exp" = some value ∧ integer? value = some claims.exp ∧
        Record.integer value = .ok claims.exp) ∧
      (∀ value, fields.get? "nbf" = some value → (integer? value).isSome) ∧
      ∀ clock other, parse leeway clock token = .ok other ↔
        other = claims ∧ clock ≤ claims.exp + leeway ∧ HasBegun leeway fields clock := by
  obtain ⟨fields, hholds⟩ := exists_holds_of_parse h
  have hchecked : checkClaims leeway now fields = .ok claims := by rw [← parse_of_holds hholds, h]
  obtain ⟨hsettled, hbegun, exp, hexp, hnotEnded⟩ := checkClaims_eq_ok_iff.mp hchecked
  obtain ⟨stop, hstop, -⟩ := checkExpiry_eq_ok_iff.mp hnotEnded
  have hrecord := IdentityClaims.exp_of_ofFields hsettled.record hexp
  obtain rfl := Record.eq_of_integer hstop hrecord
  have hstart : ∀ value, fields.get? "nbf" = some value → (integer? value).isSome := by
    intro value hvalue
    obtain ⟨start, hread, -⟩ := checkNotBefore_eq_ok_iff.mp hbegun value hvalue
    simp [hread]
  refine ⟨fields, hholds, ⟨exp, hexp, hstop, hrecord⟩, hstart, fun clock other => ?_⟩
  rw [parse_of_holds hholds, checkClaims_eq_ok_iff]
  constructor
  · rintro ⟨hother, hbegun, value, hvalue, hnotEnded⟩
    obtain rfl : exp = value := Option.some.inj (hexp.symm.trans hvalue)
    obtain ⟨last, hlast, hle⟩ := checkExpiry_eq_ok_iff.mp hnotEnded
    obtain rfl := Option.some.inj (hstop.symm.trans hlast)
    refine ⟨Except.ok.inj (hother.record.symm.trans hsettled.record), hle,
      fun value start hvalue hread => ?_⟩
    obtain ⟨first, hfirst, hle⟩ := checkNotBefore_eq_ok_iff.mp hbegun value hvalue
    obtain rfl := Option.some.inj (hread.symm.trans hfirst)
    omega
  · rintro ⟨rfl, hnotEnded, hbegun⟩
    refine ⟨hsettled, checkNotBefore_eq_ok_iff.mpr fun value hvalue => ?_, exp, hexp,
      checkExpiry_eq_ok_iff.mpr ⟨_, hstop, hnotEnded⟩⟩
    obtain ⟨start, hread⟩ := Option.isSome_iff_exists.mp (hstart value hvalue)
    have hle := hbegun value start hvalue hread
    exact ⟨start, hread, by omega⟩

/-- The identity token of `{"alg":"a"}` and `{"exp":"1_0","nbf":" 5","nonce":"n"}`. -/
def boundedToken : Text :=
  "eyJhbGciOiJhIn0.eyJleHAiOiIxXzAiLCJuYmYiOiIgNSIsIm5vbmNlIjoibiJ9.c2ln"

theorem accepted_within_lifetime_in_sample :
    parse 2 7 boundedToken = .ok ⟨10, none, "n"⟩ ∧
      ∃ fields, Holds boundedToken fields ∧
        ∀ clock other, parse 2 clock boundedToken = .ok other ↔
          other = ⟨10, none, "n"⟩ ∧ clock ≤ 12 ∧ HasBegun 2 fields clock := by
  have hclaims : (parse 2 7 boundedToken).toOption = some ⟨10, none, "n"⟩ := by decide +kernel
  have hparse := eq_ok_of_toOption hclaims
  obtain ⟨fields, hholds, -, -, haccepted⟩ := accepted_within_lifetime hparse
  exact ⟨hparse, fields, hholds, haccepted⟩

end Token

end SignOn
