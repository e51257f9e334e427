import SignOn.Base64

/-!
# Reading base64 back

What `encode` writes in groups of four digits, `scan` reads group by group, each from the state in
which the one before it began.  The last group may be short: its pads end the reading, and where
they were left out `complete` fills in the same number of them.
-/

namespace SignOn.Base64

variable {alphabet : Alphabet} {bs rest : Bytes} {v held pads : Nat}

theorem value?_digit (h : v < 64) : value? (digit alphabet v) = some v := by
  have hall : ∀ n < 64, value? (digit alphabet n) = some n := by
    cases alphabet with
    | standard => decide
    | urlSafe => decide
  exact hall v h

theorem value?_pad : value? pad = none := by decide

theorem digit_ne_pad (h : v < 64) : digit alphabet v ≠ pad := by
  intro heq
  have hvalue : value? (digit alphabet v) = some v := value?_digit h
  rw [heq, value?_pad] at hvalue
  contradiction

theorem scan_first (h : v < 64) :
    scan 0 held pads (digit alphabet v :: rest) = scan 1 v 0 rest := by
  rw [scan, if_neg (digit_ne_pad h)]
  simp only [value?_digit h]

theorem scan_second (h : v < 64) :
    scan 1 held pads (digit alphabet v :: rest) =
      (scan 2 (v % 16) 0 rest).map (UInt8.ofNat (held * 4 + v / 16) :: ·) := by
  rw [scan, if_neg (digit_ne_pad h)]
  simp only [value?_digit h]

theorem scan_third (h : v < 64) :
    scan 2 held pads (digit alphabet v :: rest) =
      (scan 3 (v % 4) 0 rest).map (UInt8.ofNat (held * 16 + v / 4) :: ·) := by
  rw [scan, if_neg (digit_ne_pad h)]
  simp only [value?_digit h]

theorem scan_fourth (h : v < 64) :
    scan 3 held pads (digit alphabet v :: rest) =
      (scan 0 0 0 rest).map (UInt8.ofNat (held * 64 + v) :: ·) := by
  rw [scan, if_neg (digit_ne_pad h)]
  simp only [value?_digit h]

variable {a b c : UInt8}

/-- The first byte of a group is held in its first digit and the high bits of its second. -/
theorem scan_firstByte {low : Nat} (hlow : low < 16) :
    scan 0 held pads (digit alphabet (a.toNat / 4) ::
        digit alphabet (a.toNat % 4 * 16 + low) :: rest) =
      (scan 2 low 0 rest).map (a :: ·) := by
  have hlt := a.toNat_lt
  have hbyte : a.toNat / 4 * 4 + (a.toNat % 4 * 16 + low) / 16 = a.toNat := by omega
  have hleft : (a.toNat % 4 * 16 + low) % 16 = low := by omega
  rw [scan_first (by omega), scan_second (by omega), hbyte, hleft, UInt8.ofNat_toNat]

theorem scan_secondByte {low : Nat} (hlow : low < 4) :
    scan 2 (b.toNat / 16) pads (digit alphabet (b.toNat % 16 * 4 + low) :: rest) =
      (scan 3 low 0 rest).map (b :: ·) := by
  have hlt := b.toNat_lt
  have hbyte : b.toNat / 16 * 16 + (b.toNat % 16 * 4 + low) / 4 = b.toNat := by omega
  have hleft : (b.toNat % 16 * 4 + low) % 4 = low := by omega
  rw [scan_third (by omega), hbyte, hleft, UInt8.ofNat_toNat]

theorem scan_thirdByte :
    scan 3 (c.toNat / 64) pads (digit alphabet (c.toNat % 64) :: rest) =
      (scan 0 0 0 rest).map (c :: ·) := by
  have hbyte : c.toNat / 64 * 64 + c.toNat % 64 = c.toNat := by omega
  rw [scan_fourth (by omega), hbyte, UInt8.ofNat_toNat]

theorem decode?_encode_padded (bs : Bytes) : decode? (encode alphabet true bs) = some bs := by
  unfold decode?
  fun_induction encode alphabet true bs with
  | case1 a b c rest ih =>
      have hb := b.toNat_lt
      have hc := c.toNat_lt
      rw [scan_firstByte (by omega), scan_secondByte (by omega), scan_thirdByte, ih]
      rfl
  | case2 a b =>
      have hb := b.toNat_lt
      have hdigit : b.toNat % 16 * 4 = b.toNat % 16 * 4 + 0 := rfl
      rw [scan_firstByte (by omega), hdigit, scan_secondByte (by omega)]
      rfl
  | case3 a =>
      have hdigit : a.toNat % 4 * 16 = a.toNat % 4 * 16 + 0 := rfl
      rw [hdigit, scan_firstByte (by omega)]
      rfl
  | case4 => rfl

theorem complete_group (w x y z : UInt8) :
    complete (w :: x :: y :: z :: rest) = w :: x :: y :: z :: complete rest := by
  have hlength : (w :: x :: y :: z :: rest).length % 4 = rest.length % 4 := by
    simp only [List.length_cons]
    omega
  simp only [complete, hlength, List.cons_append]

theorem complete_encode (padded : Bool) (bs : Bytes) :
    complete (encode alphabet padded bs) = encode alphabet true bs := by
  fun_induction encode alphabet padded bs with
  | case1 a b c rest ih => rw [complete_group, ih, encode]
  | case2 a b =>
      cases padded with
      | false => rfl
      | true => exact complete_group _ _ _ _
  | case3 a =>
      cases padded with
      | false => rfl
      | true => exact complete_group _ _ _ _
  | case4 => rfl

/-- A segment gives the bytes back that it was made of, with or without its padding. -/
theorem decodeSegment?_encode (padded : Bool) (bs : Bytes) :
    decodeSegment? (encode alphabet padded bs) = some bs := by
  rw [decodeSegment?, complete_encode, decode?_encode_padded]

theorem of_mem_padding {padded : Bool} {count : Nat} {x : UInt8} (h : x ∈ padding padded count) :
    x = pad := by
  cases padded with
  | false => contradiction
  | true => exact List.eq_of_mem_replicate h

theorem of_mem_encode {padded : Bool} {x : UInt8} (h : x ∈ encode alphabet padded bs) :
    x = pad ∨ ∃ v < 64, x = digit alphabet v := by
  fun_induction encode alphabet padded bs with
  | case1 a b c rest ih =>
      have ha := a.toNat_lt
      have hb := b.toNat_lt
      have hc := c.toNat_lt
      simp only [List.mem_cons] at h
      rcases h with rfl | rfl | rfl | rfl | h
      · exact .inr ⟨_, by omega, rfl⟩
      · exact .inr ⟨_, by omega, rfl⟩
      · exact .inr ⟨_, by omega, rfl⟩
      · exact .inr ⟨_, by omega, rfl⟩
      · exact ih h
  | case2 a b =>
      have ha := a.toNat_lt
      have hb := b.toNat_lt
      simp only [List.mem_cons] at h
      rcases h with rfl | rfl | rfl | h
      · exact .inr ⟨_, by omega, rfl⟩
      · exact .inr ⟨_, by omega, rfl⟩
      · exact .inr ⟨_, by omega, rfl⟩
      · exact .inl (of_mem_padding h)
  | case3 a =>
      have ha := a.toNat_lt
      simp only [List.mem_cons] at h
      rcases h with rfl | rfl | h
      · exact .inr ⟨_, by omega, rfl⟩
      · exact .inr ⟨_, by omega, rfl⟩
      · exact .inl (of_mem_padding h)
  | case4 => contradiction

theorem toNat_lt_of_mem_encode {padded : Bool} {x : UInt8} (h : x ∈ encode alphabet padded bs) :
    x.toNat < 0x80 := by
  have hall : ∀ n < 64, (digit alphabet n).toNat < 0x80 := by
    cases alphabet with
    | standard => decide
    | urlSafe => decide
  rcases of_mem_encode h with rfl | ⟨n, hn, rfl⟩
  · decide
  · exact hall n hn

theorem not_mem_encode {padded : Bool} {x : UInt8} (hvalue : value? x = none) (hpad : x ≠ pad) :
    x ∉ encode alphabet padded bs := by
  intro hmem
  rcases of_mem_encode hmem with rfl | ⟨n, hn, rfl⟩
  · contradiction
  · rw [value?_digit hn] at hvalue
    contradiction

end SignOn.Base64
