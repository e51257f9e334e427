import SignOn.Text.Utf8

/-!
# Reading back what is written in UTF-8

`decode` gives every text of scalar values back from its bytes.  A code point is one byte, or a
first byte with as many tails after it as its size needs.
-/

namespace SignOn.Utf8

open Codec

theorem toNat_lead {marker n : Nat} (h : marker + n < 256) :
    (lead marker n).toNat = marker + n := by
  simp only [lead, UInt8.toNat_ofNat']
  omega

theorem toNat_tail (n : Nat) : (tail n).toNat = 0x80 + n % 64 := by
  simp only [tail, UInt8.toNat_ofNat']
  omega

theorem accepts_tail {p : Pending} {n : Nat} (hlow : p.low.toNat ≤ 0x80 + n % 64)
    (hhigh : 0x80 + n % 64 ≤ p.high.toNat) : p.accepts (tail n) = true := by
  rw [← toNat_tail] at hlow hhigh
  simp [Pending.accepts, UInt8.le_iff_toNat_le, hlow, hhigh]

theorem value_extend_tail (p : Pending) (n : Nat) :
    (p.extend (tail n)).value = p.value * 64 + n % 64 := by
  simp only [Pending.extend, toNat_tail]
  omega

theorem scan_last_tail {p : Pending} {n : Nat} {rest : Bytes} {t : Text}
    (hlow : p.low.toNat ≤ 0x80 + n % 64) (hhigh : 0x80 + n % 64 ≤ p.high.toNat)
    (hmissing : p.missing = 1) (hrest : ∀ position, scan false position none rest = .ok t)
    (position : Nat) :
    scan false position (some p) (tail n :: rest) =
      .ok (CodePoint.ofNat (p.value * 64 + n % 64) :: t) := by
  have hlast : (p.extend (tail n)).missing = 0 := by simp [Pending.extend, hmissing]
  rw [scan, if_pos (accepts_tail hlow hhigh)]
  simp [hlast, hrest, value_extend_tail, Except.map]

theorem scan_tail {p : Pending} {n : Nat} {rest : Bytes} (hlow : p.low.toNat ≤ 0x80 + n % 64)
    (hhigh : 0x80 + n % 64 ≤ p.high.toNat) (hmissing : 1 < p.missing) (position : Nat) :
    scan false position (some p) (tail n :: rest) =
      scan false (position + 1) (some (p.extend (tail n))) rest := by
  have hmore : (p.extend (tail n)).missing ≠ 0 := by
    simp only [Pending.extend]
    omega
  rw [scan, if_pos (accepts_tail hlow hhigh)]
  simp [hmore]

def Opens (b : UInt8) (value missing next : Nat) : Prop :=
  ∃ p, opening false b = .pending p ∧ p.value = value ∧ p.missing = missing ∧
    p.low.toNat ≤ next ∧ next ≤ p.high.toNat

theorem opens_two {n : Nat} (hlow : 0x80 ≤ n) (hhigh : n < 0x800) :
    Opens (lead 0xC0 (n / 64)) (n / 64) 1 (0x80 + n % 64) := by
  have hlead : (lead 0xC0 (n / 64)).toNat = 0xC0 + n / 64 := toNat_lead (by omega)
  refine ⟨⟨lead 0xC0 (n / 64), 1, 0xC0 + n / 64 - 0xC0, 1, 0x80, 0xBF, false⟩, ?_, ?_, rfl, ?_, ?_⟩
  · simp only [opening, hlead]
    rw [if_neg (by omega), if_neg (by omega), if_pos (by omega)]
  all_goals simp only [UInt8.reduceToNat]; omega

/-- The bounds of the second byte depend on the first in two cases: no shorter form, and no
surrogate. -/
theorem opens_three {n : Nat} (hlow : 0x800 ≤ n) (hhigh : n < 0x10000)
    (hscalar : n < 0xD800 ∨ 0xDFFF < n) :
    Opens (lead 0xE0 (n / 4096)) (n / 4096) 2 (0x80 + n / 64 % 64) := by
  have hlead : (lead 0xE0 (n / 4096)).toNat = 0xE0 + n / 4096 := toNat_lead (by omega)
  by_cases hfirst : n / 4096 = 0
  · refine ⟨⟨lead 0xE0 (n / 4096), 1, 0, 2, 0xA0, 0xBF, false⟩, ?_, hfirst.symm, rfl, ?_, ?_⟩
    · simp only [opening, hlead]
      rw [if_neg (by omega), if_neg (by omega), if_neg (by omega), if_pos (by omega)]
    all_goals simp only [UInt8.reduceToNat]; omega
  · by_cases hlone : n / 4096 = 0xD
    · refine ⟨⟨lead 0xE0 (n / 4096), 1, 0xD, 2, 0x80, 0x9F, false⟩, ?_, hlone.symm, rfl, ?_, ?_⟩
      · simp only [opening, hlead]
        rw [if_neg (by omega), if_neg (by omega), if_neg (by omega), if_neg (by omega),
          if_pos (by omega)]
        rfl
      all_goals simp only [UInt8.reduceToNat]; omega
    · refine ⟨⟨lead 0xE0 (n / 4096), 1, 0xE0 + n / 4096 - 0xE0, 2, 0x80, 0xBF, false⟩, ?_, ?_, rfl,
        ?_, ?_⟩
      · simp only [opening, hlead]
        rw [if_neg (by omega), if_neg (by omega), if_neg (by omega), if_neg (by omega),
          if_neg (by omega), if_pos (by omega)]
      all_goals simp only [UInt8.reduceToNat]; omega

theorem opens_four {n : Nat} (hlow : 0x10000 ≤ n) (hhigh : n < 0x110000) :
    Opens (lead 0xF0 (n / 262144)) (n / 262144) 3 (0x80 + n / 4096 % 64) := by
  have hlead : (lead 0xF0 (n / 262144)).toNat = 0xF0 + n / 262144 := toNat_lead (by omega)
  by_cases hfirst : n / 262144 = 0
  · refine ⟨⟨lead 0xF0 (n / 262144), 1, 0, 3, 0x90, 0xBF, false⟩, ?_, hfirst.symm, rfl, ?_, ?_⟩
    · simp only [opening, hlead]
      rw [if_neg (by omega), if_neg (by omega), if_neg (by omega), if_neg (by omega),
        if_neg (by omega), if_neg (by omega), if_pos (by omega)]
    all_goals simp only [UInt8.reduceToNat]; omega
  · by_cases hlast : n / 262144 = 4
    · refine ⟨⟨lead 0xF0 (n / 262144), 1, 4, 3, 0x80, 0x8F, false⟩, ?_, hlast.symm, rfl, ?_, ?_⟩
      · simp only [opening, hlead]
        rw [if_neg (by omega), if_neg (by omega), if_neg (by omega), if_neg (by omega),
          if_neg (by omega), if_neg (by omega), if_neg (by omega), if_neg (by omega),
          if_pos (by omega)]
      all_goals simp only [UInt8.reduceToNat]; omega
    · refine ⟨⟨lead 0xF0 (n / 262144), 1, 0xF0 + n / 262144 - 0xF0, 3, 0x80, 0xBF, false⟩, ?_, ?_,
        rfl, ?_, ?_⟩
      · simp only [opening, hlead]
        rw [if_neg (by omega), if_neg (by omega), if_neg (by omega), if_neg (by omega),
          if_neg (by omega), if_neg (by omega), if_neg (by omega), if_pos (by omega)]
      all_goals simp only [UInt8.reduceToNat]; omega

theorem scan_opening {b : UInt8} {p : Pending} (h : opening false b = .pending p)
    (position : Nat) (rest : Bytes) :
    scan false position none (b :: rest) = scan false (position + 1) (some p) rest := by
  simp [scan, h]

theorem scan_encodePoint {c : CodePoint} (hc : c.isSurrogate = false) {rest : Bytes} {t : Text}
    (hrest : ∀ position, scan false position none rest = .ok t) (position : Nat) :
    scan false position none (encodePoint c ++ rest) = .ok (c :: t) := by
  have hscalar : c.val < 0xD800 ∨ 0xDFFF < c.val := by
    simp only [CodePoint.isSurrogate, CodePoint.between, Bool.and_eq_false_iff,
      decide_eq_false_iff_not, Nat.not_le] at hc
    exact hc
  have hlt := c.isLt
  simp only [encodePoint]
  split
  next hone =>
    have hlead : (lead 0 c.val).toNat = c.val := by
      rw [toNat_lead (by omega), Nat.zero_add]
    have hopening : opening false (lead 0 c.val) = .point c := by
      simp only [opening, hlead]
      rw [if_pos hone, CodePoint.ofNat_val]
    simp [scan, hopening, hrest, Except.map]
  next hone =>
    split
    next htwo =>
      obtain ⟨p, hopening, hvalue, hmissing, hlow, hhigh⟩ := opens_two (Nat.not_lt.mp hone) htwo
      have hpoint : p.value * 64 + c.val % 64 = c.val := by omega
      rw [List.cons_append, scan_opening hopening]
      exact (scan_last_tail hlow hhigh hmissing hrest _).trans (by rw [hpoint, CodePoint.ofNat_val])
    next htwo =>
      split
      next hthree =>
        obtain ⟨p, hopening, hvalue, hmissing, hlow, hhigh⟩ :=
          opens_three (Nat.not_lt.mp htwo) hthree hscalar
        have hpoint : (p.value * 64 + c.val / 64 % 64) * 64 + c.val % 64 = c.val := by omega
        rw [List.cons_append, scan_opening hopening, List.cons_append,
          scan_tail hlow hhigh (by omega)]
        refine (scan_last_tail ?_ ?_ ?_ hrest _).trans ?_
        · simp [Pending.extend]
        · simp only [Pending.extend, UInt8.reduceToNat]
          omega
        · simp [Pending.extend, hmissing]
        · rw [value_extend_tail, hpoint, CodePoint.ofNat_val]
      next hthree =>
        obtain ⟨p, hopening, hvalue, hmissing, hlow, hhigh⟩ :=
          opens_four (Nat.not_lt.mp hthree) hlt
        have hpoint : ((p.value * 64 + c.val / 4096 % 64) * 64 + c.val / 64 % 64) * 64 +
            c.val % 64 = c.val := by omega
        rw [List.cons_append, scan_opening hopening, List.cons_append,
          scan_tail hlow hhigh (by omega), List.cons_append]
        rw [scan_tail (by simp [Pending.extend])
          (by simp only [Pending.extend, UInt8.reduceToNat]; omega)
          (by simp [Pending.extend, hmissing])]
        refine (scan_last_tail ?_ ?_ ?_ hrest _).trans ?_
        · simp [Pending.extend]
        · simp only [Pending.extend, UInt8.reduceToNat]
          omega
        · simp [Pending.extend, hmissing]
        · rw [value_extend_tail, value_extend_tail, hpoint, CodePoint.ofNat_val]

theorem scan_encode {t : Text} (h : t.IsScalar) (position : Nat) :
    scan false position none (encode t) = .ok t := by
  induction t generalizing position with
  | nil => simp [encode, scan]
  | cons c t ih =>
      obtain ⟨hc, ht⟩ := List.forall_mem_cons.mp h
      rw [encode, List.flatMap_cons]
      exact scan_encodePoint hc (ih ht) position

theorem decode_encode {t : Text} (h : t.IsScalar) : decode (encode t) = .ok t :=
  scan_encode h 0

theorem val_ofByte (b : UInt8) : (CodePoint.ofByte b).val = b.toNat :=
  CodePoint.val_ofNat (Nat.lt_trans b.toNat_lt (by decide))

theorem encode_map_ofByte {bs : Bytes} (h : ∀ b ∈ bs, b.toNat < 0x80) :
    encode (bs.map CodePoint.ofByte) = bs := by
  induction bs with
  | nil => rfl
  | cons b bs ih =>
      obtain ⟨hb, hbs⟩ := List.forall_mem_cons.mp h
      have hpoint : encodePoint (CodePoint.ofByte b) = [b] := by
        simp only [encodePoint, val_ofByte, if_pos hb, lead, Nat.zero_add, UInt8.ofNat_toNat]
      rw [List.map_cons, encode, List.flatMap_cons, hpoint]
      exact congrArg (b :: ·) (ih hbs)

theorem encodeStrict_map_ofByte {bs : Bytes} (h : ∀ b ∈ bs, b.toNat < 0x80) :
    encodeStrict (bs.map CodePoint.ofByte) = .ok bs := by
  have hscalar : Text.IsScalar (bs.map CodePoint.ofByte) := by
    intro c hc
    obtain ⟨b, hb, rfl⟩ := List.mem_map.mp hc
    have hlt := h b hb
    simp only [CodePoint.isSurrogate, CodePoint.between, val_ofByte, Bool.and_eq_false_iff,
      decide_eq_false_iff_not]
    omega
  rw [encodeStrict_of_isScalar hscalar, encode_map_ofByte h]

theorem isScalar_of_encodeStrict {t : Text} {bs : Bytes} (h : encodeStrict t = .ok bs) :
    t.IsScalar := by
  unfold encodeStrict at h
  split at h
  · contradiction
  next hnone => exact firstFault?_eq_none_iff.mp hnone

end SignOn.Utf8
