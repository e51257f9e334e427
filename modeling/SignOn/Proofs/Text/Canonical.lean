import SignOn.Proofs.Checks
import SignOn.Proofs.Text.Utf8

/-!
# One form in UTF-8

Bytes that are read as a text are those that the text is written as: no code point has a second
form.  The bounds that a first byte sets for the second rule out what a shorter sequence would say.
-/

namespace SignOn.Utf8

open Codec

theorem eq_lead {marker n : Nat} {b : UInt8} (h : b.toNat = marker + n) : lead marker n = b := by
  have hlt := b.toNat_lt
  exact UInt8.toNat_inj.mp ((toNat_lead (by omega)).trans h.symm)

theorem eq_tail {n : Nat} {b : UInt8} (h : b.toNat = 0x80 + n % 64) : tail n = b :=
  UInt8.toNat_inj.mp ((toNat_tail n).trans h.symm)

theorem encodePoint_one {a : UInt8} (ha : a.toNat < 0x80) :
    encodePoint (.ofNat a.toNat) = [a] := by
  have hval : (CodePoint.ofNat a.toNat).val = a.toNat := CodePoint.val_ofNat (by omega)
  simp only [encodePoint, hval, if_pos ha, eq_lead (Nat.zero_add a.toNat).symm]

def IsTail (b : UInt8) : Prop := 0x80 ≤ b.toNat ∧ b.toNat ≤ 0xBF

variable {a b c d : UInt8}

theorem encodePoint_two (hlow : 0xC2 ≤ a.toNat) (hhigh : a.toNat < 0xE0) (hb : IsTail b) :
    encodePoint (.ofNat ((a.toNat - 0xC0) * 64 + (b.toNat - 0x80))) = [a, b] := by
  obtain ⟨hbl, hbh⟩ := hb
  generalize hn : (a.toNat - 0xC0) * 64 + (b.toNat - 0x80) = n
  have hval : (CodePoint.ofNat n).val = n := CodePoint.val_ofNat (by omega)
  simp only [encodePoint, hval]
  rw [if_neg (by omega), if_pos (by omega), eq_lead (b := a) (by omega),
    eq_tail (b := b) (by omega)]

theorem encodePoint_three (hlow : 0xE0 ≤ a.toNat) (hhigh : a.toNat < 0xF0) (hb : IsTail b)
    (hshort : a.toNat = 0xE0 → 0xA0 ≤ b.toNat) (hc : IsTail c) :
    encodePoint (.ofNat (((a.toNat - 0xE0) * 64 + (b.toNat - 0x80)) * 64 + (c.toNat - 0x80))) =
      [a, b, c] := by
  obtain ⟨hbl, hbh⟩ := hb
  obtain ⟨hcl, hch⟩ := hc
  generalize hn : ((a.toNat - 0xE0) * 64 + (b.toNat - 0x80)) * 64 + (c.toNat - 0x80) = n
  have hval : (CodePoint.ofNat n).val = n := CodePoint.val_ofNat (by omega)
  simp only [encodePoint, hval]
  rw [if_neg (by omega), if_neg (by omega), if_pos (by omega), eq_lead (b := a) (by omega),
    eq_tail (b := b) (by omega), eq_tail (b := c) (by omega)]

theorem encodePoint_four (hlow : 0xF0 ≤ a.toNat) (hhigh : a.toNat ≤ 0xF4) (hb : IsTail b)
    (hshort : a.toNat = 0xF0 → 0x90 ≤ b.toNat) (hlast : a.toNat = 0xF4 → b.toNat ≤ 0x8F)
    (hc : IsTail c) (hd : IsTail d) :
    encodePoint (.ofNat ((((a.toNat - 0xF0) * 64 + (b.toNat - 0x80)) * 64 + (c.toNat - 0x80)) * 64 +
      (d.toNat - 0x80))) = [a, b, c, d] := by
  obtain ⟨hbl, hbh⟩ := hb
  obtain ⟨hcl, hch⟩ := hc
  obtain ⟨hdl, hdh⟩ := hd
  generalize hn : (((a.toNat - 0xF0) * 64 + (b.toNat - 0x80)) * 64 + (c.toNat - 0x80)) * 64 +
    (d.toNat - 0x80) = n
  have hval : (CodePoint.ofNat n).val = n := CodePoint.val_ofNat (by omega)
  simp only [encodePoint, hval]
  rw [if_neg (by omega), if_neg (by omega), if_neg (by omega), eq_lead (b := a) (by omega),
    eq_tail (b := b) (by omega), eq_tail (b := c) (by omega), eq_tail (b := d) (by omega)]

inductive Opened (a : UInt8) (p : Pending) : Prop
  | two (hlow : 0xC2 ≤ a.toNat) (hhigh : a.toNat < 0xE0) (hvalue : p.value = a.toNat - 0xC0)
      (hmissing : p.missing = 1)
  | three (hlow : 0xE0 ≤ a.toNat) (hhigh : a.toNat < 0xF0) (hvalue : p.value = a.toNat - 0xE0)
      (hmissing : p.missing = 2) (hshort : a.toNat = 0xE0 → 0xA0 ≤ p.low.toNat)
  | four (hlow : 0xF0 ≤ a.toNat) (hhigh : a.toNat ≤ 0xF4) (hvalue : p.value = a.toNat - 0xF0)
      (hmissing : p.missing = 3) (hshort : a.toNat = 0xF0 → 0x90 ≤ p.low.toNat)
      (hlast : a.toNat = 0xF4 → p.high.toNat ≤ 0x8F)

def Pending.ExpectsTail (p : Pending) : Prop := 0x80 ≤ p.low.toNat ∧ p.high.toNat ≤ 0xBF

theorem of_opening_point {point : CodePoint} (h : opening false a = .point point) :
    a.toNat < 0x80 ∧ point = .ofNat a.toNat := by
  unfold opening at h
  dsimp only at h
  split at h
  next hone =>
    cases h
    exact ⟨hone, rfl⟩
  all_goals
    repeat' split at h
    all_goals contradiction

theorem of_opening_pending {p : Pending} (h : opening false a = .pending p) :
    Opened a p ∧ p.ExpectsTail := by
  have hlt := a.toNat_lt
  unfold opening at h
  dsimp only at h
  split at h
  · contradiction
  split at h
  · contradiction
  split at h
  · cases h
    exact ⟨.two (by omega) (by omega) rfl rfl, by simp [Pending.ExpectsTail]⟩
  split at h
  · cases h
    exact ⟨.three (by omega) (by omega) (by simp only; omega) rfl (by simp),
      by simp [Pending.ExpectsTail]⟩
  split at h
  · cases h
    exact ⟨.three (by omega) (by omega) (by simp only; omega) rfl (by omega),
      by simp [Pending.ExpectsTail]⟩
  split at h
  · cases h
    exact ⟨.three (by omega) (by omega) rfl rfl (by omega), by simp [Pending.ExpectsTail]⟩
  split at h
  · cases h
    exact ⟨.four (by omega) (by omega) (by simp only; omega) rfl (by simp) (by omega),
      by simp [Pending.ExpectsTail]⟩
  split at h
  · cases h
    exact ⟨.four (by omega) (by omega) rfl rfl (by omega) (by omega),
      by simp [Pending.ExpectsTail]⟩
  split at h
  · cases h
    exact ⟨.four (by omega) (by omega) (by simp only; omega) rfl (by omega) (by simp),
      by simp [Pending.ExpectsTail]⟩
  · contradiction

variable {p : Pending} {position : Nat} {bs : Bytes} {t : Text}

theorem of_scan_pending (hp : p.ExpectsTail) (h : scan false position (some p) bs = .ok t) :
    ∃ b rest, bs = b :: rest ∧ IsTail b ∧ p.low.toNat ≤ b.toNat ∧ b.toNat ≤ p.high.toNat ∧
      (p.extend b).ExpectsTail ∧
      (if (p.extend b).missing = 0 then
        (scan false (position + 1) none rest).map (CodePoint.ofNat (p.extend b).value :: ·)
      else scan false (position + 1) (some (p.extend b)) rest) = .ok t := by
  cases bs with
  | nil => contradiction
  | cons b rest =>
      rw [scan] at h
      split at h
      next haccepts =>
        simp only [Pending.accepts, Bool.and_eq_true, decide_eq_true_eq,
          UInt8.le_iff_toNat_le] at haccepts
        obtain ⟨hlow, hhigh⟩ := hp
        have hnext : (p.extend b).ExpectsTail := by simp [Pending.ExpectsTail, Pending.extend]
        exact ⟨b, rest, rfl, ⟨by omega, by omega⟩, haccepts.1, haccepts.2, hnext, h⟩
      next => contradiction

theorem of_scan_last (hp : p.ExpectsTail) (hmissing : p.missing = 1)
    (h : scan false position (some p) bs = .ok t) :
    ∃ b rest u, bs = b :: rest ∧ IsTail b ∧ t = .ofNat (p.value * 64 + (b.toNat - 0x80)) :: u ∧
      scan false (position + 1) none rest = .ok u := by
  obtain ⟨b, rest, hbs, htail, -, -, -, hrest⟩ := of_scan_pending hp h
  have hzero : (p.extend b).missing = 0 := by simp [Pending.extend, hmissing]
  rw [if_pos hzero] at hrest
  obtain ⟨u, hu, rfl⟩ := map_eq_ok_iff.mp hrest
  exact ⟨b, rest, u, hbs, htail, rfl, hu⟩

theorem of_scan_next (hp : p.ExpectsTail) (hmissing : 1 < p.missing)
    (h : scan false position (some p) bs = .ok t) :
    ∃ b rest, bs = b :: rest ∧ IsTail b ∧ p.low.toNat ≤ b.toNat ∧ b.toNat ≤ p.high.toNat ∧
      (p.extend b).ExpectsTail ∧ scan false (position + 1) (some (p.extend b)) rest = .ok t := by
  obtain ⟨b, rest, hbs, htail, hlow, hhigh, hexpects, hrest⟩ := of_scan_pending hp h
  have hmore : (p.extend b).missing ≠ 0 := by
    simp only [Pending.extend]
    omega
  rw [if_neg hmore] at hrest
  exact ⟨b, rest, hbs, htail, hlow, hhigh, hexpects, hrest⟩

theorem of_scan_opened (hopened : Opened a p) (hp : p.ExpectsTail)
    (h : scan false position (some p) bs = .ok t) :
    ∃ point rest u place, t = point :: u ∧ a :: bs = encodePoint point ++ rest ∧
      scan false place none rest = .ok u := by
  cases hopened with
  | two hlow hhigh hvalue hmissing =>
      obtain ⟨b, rest, u, rfl, hb, rfl, hu⟩ := of_scan_last hp hmissing h
      refine ⟨_, rest, u, _, rfl, ?_, hu⟩
      rw [hvalue, encodePoint_two hlow hhigh hb]
      rfl
  | three hlow hhigh hvalue hmissing hshort =>
      obtain ⟨b, rest, rfl, hb, hleast, hmost, hnext, h⟩ := of_scan_next hp (by omega) h
      obtain ⟨c, rest, u, rfl, hc, rfl, hu⟩ :=
        of_scan_last hnext (by simp [Pending.extend, hmissing]) h
      refine ⟨_, rest, u, _, rfl, ?_, hu⟩
      simp only [Pending.extend, hvalue]
      rw [encodePoint_three hlow hhigh hb (by omega) hc]
      rfl
  | four hlow hhigh hvalue hmissing hshort hlast =>
      obtain ⟨b, rest, rfl, hb, hleast, hmost, hnext, h⟩ := of_scan_next hp (by omega) h
      obtain ⟨c, rest, rfl, hc, -, -, hnext, h⟩ :=
        of_scan_next hnext (by simp [Pending.extend, hmissing]) h
      obtain ⟨d, rest, u, rfl, hd, rfl, hu⟩ :=
        of_scan_last hnext (by simp [Pending.extend, hmissing]) h
      refine ⟨_, rest, u, _, rfl, ?_, hu⟩
      simp only [Pending.extend, hvalue]
      rw [encodePoint_four hlow hhigh hb (by omega) (by omega) hc hd]
      rfl

theorem length_encodePoint_pos (point : CodePoint) : 0 < (encodePoint point).length := by
  simp only [encodePoint]
  repeat' split
  all_goals exact Nat.succ_pos _

theorem length_encode_cons (point : CodePoint) (t : Text) :
    (encode (point :: t)).length = (encodePoint point).length + (encode t).length := by
  rw [encode, List.flatMap_cons, List.length_append]
  rfl

theorem length_encode_append (s t : Text) :
    (encode (s ++ t)).length = (encode s).length + (encode t).length := by
  rw [encode, List.flatMap_append, List.length_append]
  rfl

theorem of_scan_cons (h : scan false position none (a :: bs) = .ok t) :
    ∃ point rest u place, t = point :: u ∧ a :: bs = encodePoint point ++ rest ∧
      scan false place none rest = .ok u := by
  rw [scan] at h
  cases hopening : opening false a with
  | refused =>
      rw [hopening] at h
      contradiction
  | point c =>
      rw [hopening] at h
      obtain ⟨u, hu, rfl⟩ := map_eq_ok_iff.mp h
      obtain ⟨ha, rfl⟩ := of_opening_point hopening
      refine ⟨_, bs, u, _, rfl, ?_, hu⟩
      rw [encodePoint_one ha]
      rfl
  | pending p =>
      rw [hopening] at h
      obtain ⟨hopened, hexpects⟩ := of_opening_pending hopening
      exact of_scan_opened hopened hexpects h

theorem eq_encode_of_scan (h : scan false position none bs = .ok t) : bs = encode t := by
  induction hlength : bs.length using Nat.strongRecOn generalizing bs t position with
  | ind length ih =>
      cases bs with
      | nil =>
          cases h
          rfl
      | cons a bs =>
          obtain ⟨point, rest, u, place, rfl, hbytes, hu⟩ := of_scan_cons h
          have hsome := length_encodePoint_pos point
          have hshorter : rest.length < length := by
            rw [← hlength, hbytes, List.length_append]
            omega
          rw [hbytes, ih rest.length hshorter hu rfl, encode, encode, List.flatMap_cons]

/-- Bytes that are read as a text are what the text is written as. -/
theorem eq_encode_of_decode (h : decode bs = .ok t) : bs = encode t := eq_encode_of_scan h

end SignOn.Utf8
