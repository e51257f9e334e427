import SignOn.Text.Quoted

/-!
# Quoted text can be written

A surrogate is not printable, so a quoted text holds its escape in its place.  A message that quotes
what is given has a UTF-8 form, then, whatever is given.
-/

namespace SignOn

theorem inRanges_eq_of_between {table : Array (Nat × Nat)} {m n k : Nat} (hmn : m ≤ n) (hnk : n ≤ k)
    (hfree : ∀ range ∈ table.toList, (range.1 ≤ m ∨ k < range.1) ∧ (range.2 < m ∨ k ≤ range.2)) :
    inRanges table n = inRanges table m := by
  have hgo : ∀ fuel low high, inRanges.go table n fuel low high =
      inRanges.go table m fuel low high := by
    intro fuel
    induction fuel with
    | zero => exact fun low high => rfl
    | succ fuel ih =>
        intro low high
        simp only [inRanges.go, ih]
        cases hrange : table[(low + high) / 2]? with
        | none => rfl
        | some range =>
            obtain ⟨hfirst, hlast⟩ := hfree range (Array.mem_of_getElem? hrange).val
            have hbefore : n < range.1 ↔ m < range.1 := by omega
            have hafter : range.2 < n ↔ range.2 < m := by omega
            simp only [hbefore, hafter]
  exact hgo _ _ _

theorem CodePoint.not_isPrintable_of_isSurrogate {c : CodePoint} (h : c.isSurrogate = true) :
    c.isPrintable = false := by
  simp only [isSurrogate, between, Bool.and_eq_true, decide_eq_true_eq] at h
  obtain ⟨hlow, hhigh⟩ := h
  have hfree : ∀ range ∈ unprintableRanges.toList,
      (range.1 ≤ 0xD800 ∨ 0xDFFF < range.1) ∧ (range.2 < 0xD800 ∨ 0xDFFF ≤ range.2) := by
    decide +kernel
  have hfirst : inRanges unprintableRanges 0xD800 = true := by decide +kernel
  rw [isPrintable, if_neg (by omega), inRanges_eq_of_between hlow hhigh hfree, hfirst]
  rfl

namespace Text

theorem isScalar_append {s t : Text} : IsScalar (s ++ t) ↔ s.IsScalar ∧ t.IsScalar :=
  List.forall_mem_append

theorem isSurrogate_hexDigit : ∀ n < 16, (hexDigit n).isSurrogate = false := by decide

theorem isScalar_hex (width n : Nat) : (hex width n).IsScalar := by
  induction width generalizing n with
  | zero => exact nofun
  | succ width ih =>
      refine isScalar_append.mpr ⟨ih (n / 16), ?_⟩
      exact List.forall_mem_singleton.mpr (isSurrogate_hexDigit _ (Nat.mod_lt _ (by decide)))

theorem isScalar_escapeHex (c : CodePoint) : (escapeHex c).IsScalar := by
  unfold escapeHex
  split
  · exact isScalar_append.mpr ⟨by decide, isScalar_hex _ _⟩
  · split
    · exact isScalar_append.mpr ⟨by decide, isScalar_hex _ _⟩
    · exact isScalar_append.mpr ⟨by decide, isScalar_hex _ _⟩

theorem isScalar_quotedPoint {quote : CodePoint} (h : quote.isSurrogate = false) (c : CodePoint) :
    (quotedPoint quote c).IsScalar := by
  unfold quotedPoint
  split
  next hmark =>
    have hc : c.isSurrogate = false := by
      simp only [Bool.or_eq_true, decide_eq_true_eq] at hmark
      rcases hmark with rfl | rfl
      · exact h
      · decide
    exact List.forall_mem_cons.mpr ⟨by decide, List.forall_mem_singleton.mpr hc⟩
  · split
    · decide
    · split
      · decide
      · split
        · decide
        · split
          next hprintable =>
            refine List.forall_mem_singleton.mpr (Bool.eq_false_iff.mpr fun hsurrogate => ?_)
            rw [CodePoint.not_isPrintable_of_isSurrogate hsurrogate] at hprintable
            contradiction
          · exact isScalar_escapeHex c

theorem isSurrogate_quoteFor (t : Text) : (quoteFor t).isSurrogate = false := by
  unfold quoteFor
  split <;> decide

theorem isScalar_quoted (t : Text) : t.quoted.IsScalar := by
  have hquote := isSurrogate_quoteFor t
  refine isScalar_append.mpr ⟨List.forall_mem_cons.mpr ⟨hquote, ?_⟩,
    List.forall_mem_singleton.mpr hquote⟩
  intro d hd
  obtain ⟨c, -, hc⟩ := List.mem_flatMap.mp hd
  exact isScalar_quotedPoint hquote c d hc

end Text

end SignOn
