import Mathlib.Data.List.TakeWhile
import SignOn.Number.Reading

/-!
# Integers that two readers accept

The integers of claims and those of fields are read by rules of their own, and each reader accepts
texts that the other one refuses.  A text that both accept stands for one integer: the number that
its digits make, whatever else stands among them, with the sign in front.
-/

namespace SignOn.Number

variable {t : Text}

/-- The number that the digits of a text make, everything else left out. -/
def numeral (t : Text) : Nat := ofDigits (t.filterMap CodePoint.digitValue?)

theorem digitValue?_of_isDigit {c : CodePoint} (h : c.isDigit = true) :
    c.digitValue? = some (c.val - 0x30) := by
  have hascii : c.isAscii = true := by
    simp only [CodePoint.isDigit, CodePoint.between, Bool.and_eq_true, decide_eq_true_eq] at h
    simp only [CodePoint.isAscii, decide_eq_true_eq]
    omega
  rw [CodePoint.digitValue?, if_pos hascii, if_pos h]

theorem asciiDigit?_eq_digitValue? {c : CodePoint} (h : c.isDigit = true) :
    asciiDigit? c = c.digitValue? := by
  rw [asciiDigit?, if_pos h, digitValue?_of_isDigit h]

theorem numeral_cons_of_none {c : CodePoint} (h : c.digitValue? = none) (t : Text) :
    numeral (c :: t) = numeral t := by
  rw [numeral, List.filterMap_cons, h]
  rfl

theorem numeral_append_of_zeros {zeros : Text}
    (h : ∀ c ∈ zeros, c.digitValue? = some 0 ∨ c.digitValue? = none) (t : Text) :
    numeral (zeros ++ t) = numeral t := by
  induction zeros with
  | nil => rfl
  | cons c zeros ih =>
      obtain ⟨hc, hzeros⟩ := List.forall_mem_cons.mp h
      have hrest := ih hzeros
      rcases hc with hzero | hnone
      · rw [List.cons_append, numeral, List.filterMap_cons, hzero]
        exact hrest
      · rw [List.cons_append, numeral_cons_of_none hnone, hrest]

theorem filterMap_asciiDigit? (h : t.all CodePoint.isDigit = true) :
    t.filterMap asciiDigit? = t.filterMap CodePoint.digitValue? := by
  induction t with
  | nil => rfl
  | cons c t ih =>
      obtain ⟨hc, ht⟩ := Bool.and_eq_true_iff.mp h
      rw [List.filterMap_cons, List.filterMap_cons, asciiDigit?_eq_digitValue? hc, ih ht]

theorem of_digitRun? {digits : List Nat}
    (h : digitRun? CodePoint.digitValue? t = some digits) :
    digits = t.filterMap CodePoint.digitValue? ∧
      ∀ c ∈ t, c = CodePoint.ofChar '_' ∨ (c.digitValue?).isSome := by
  fun_induction digitRun? CodePoint.digitValue? t generalizing digits with
  | case1 => contradiction
  | case2 => contradiction
  | case3 c d hd => simp_all
  | case4 c d more hd ih =>
      obtain ⟨rest, hrest, rfl⟩ := Option.map_eq_some_iff.mp h
      obtain ⟨rfl, hall⟩ := ih hrest
      have hmark : (CodePoint.ofChar '_').digitValue? = none := by decide
      simp_all
  | case5 c d u more hu hd ih =>
      obtain ⟨rest, hrest, rfl⟩ := Option.map_eq_some_iff.mp h
      obtain ⟨rfl, hall⟩ := ih hrest
      simp_all

theorem of_anyInteger? {n : Int} (h : anyInteger? t = some n) :
    n = signed (takeSign t.trimmed).1 (numeral (takeSign t.trimmed).2) ∧
      ∀ c ∈ (takeSign t.trimmed).2, c = CodePoint.ofChar '_' ∨ (c.digitValue?).isSome := by
  unfold anyInteger? at h
  generalize takeSign t.trimmed = sign at h ⊢
  obtain ⟨digits, hdigits, hn⟩ := Option.bind_eq_some_iff.mp h
  obtain ⟨rfl, hall⟩ := of_digitRun? hdigits
  split at hn
  · exact ⟨(Option.some.inj hn).symm, hall⟩
  · contradiction

theorem numeral_dropUnderscores (t : Text) : numeral (dropUnderscores t) = numeral t := by
  unfold dropUnderscores
  split
  · rfl
  · rw [numeral, numeral, List.filterMap_filter]
    congr 1
    refine congrArg (fun read => t.filterMap read) (funext fun c => ?_)
    by_cases hc : c = CodePoint.ofChar '_'
    · subst hc
      rfl
    · simp [hc]

theorem mem_of_mem_dropUnderscores {c : CodePoint} (h : c ∈ dropUnderscores t) : c ∈ t := by
  unfold dropUnderscores at h
  split at h
  · exact h
  · exact (List.mem_filter.mp h).1

theorem eq_of_dropZeroFraction? {whole : Text} (hpoint : CodePoint.ofChar '.' ∉ t)
    (h : dropZeroFraction? t = some whole) : whole = t := by
  unfold dropZeroFraction? at h
  cases hcut : Split.cutFirst? (CodePoint.ofChar '.') t with
  | none =>
      rw [hcut] at h
      exact (Option.some.inj h).symm
  | some cut =>
      obtain ⟨before, rest⟩ := cut
      obtain ⟨rfl, -⟩ := Split.cutFirst?_eq_some hcut
      exact absurd (by simp) hpoint

def isZeroMark (c : CodePoint) : Bool := c = '0' || c = '_'

theorem digitValue?_of_isZeroMark {c : CodePoint} (h : isZeroMark c = true) :
    c.digitValue? = some 0 ∨ c.digitValue? = none := by
  rcases Bool.or_eq_true_iff.mp h with hzero | hmark
  · rw [of_decide_eq_true hzero]
    exact .inl (by decide)
  · rw [of_decide_eq_true hmark]
    exact .inr (by decide)

theorem getLast?_getD_mem (c : CodePoint) (t : Text) : t.getLast?.getD c ∈ c :: t := by
  cases hlast : t.getLast? with
  | none => exact List.mem_cons_self
  | some last => exact List.mem_cons_of_mem c (List.mem_of_getLast? hlast)

theorem exists_of_dropLeadingZeros? {zero : CodePoint} {rest : Text}
    (h : dropLeadingZeros? (zero :: t) = some rest) (hzero : zero = CodePoint.ofChar '0') :
    ∃ kept, (∀ c ∈ kept, c ∈ zero :: t.takeWhile isZeroMark) ∧
      rest = kept ++ t.dropWhile isZeroMark := by
  have hmark : (fun d : CodePoint => decide (d = CodePoint.ofChar '0') ||
      decide (d = CodePoint.ofChar '_')) = isZeroMark := rfl
  simp only [dropLeadingZeros?, if_pos hzero, hmark] at h
  split at h
  next hnil =>
    rw [List.dropWhile_eq_nil_iff] at hnil
    cases h
    refine ⟨[t.getLast?.getD zero], fun c hc => ?_, by simpa using hnil⟩
    rw [List.mem_singleton.mp hc, List.takeWhile_eq_self_iff.mpr hnil]
    exact getLast?_getD_mem zero t
  next d more hmore =>
    split at h
    · cases h
      exact ⟨[], by simp, hmore.symm⟩
    · split at h
      · cases h
        refine ⟨[_], fun c hc => ?_, congrArg _ hmore.symm⟩
        rw [List.mem_singleton.mp hc]
        simpa using getLast?_getD_mem zero (zero :: t.takeWhile isZeroMark)
      · contradiction

theorem of_dropLeadingZeros? {rest : Text} (h : dropLeadingZeros? t = some rest) :
    numeral rest = numeral t ∧ ∀ c ∈ rest, c ∈ t := by
  cases t with
  | nil => contradiction
  | cons c t =>
      by_cases hzero : c = CodePoint.ofChar '0'
      · obtain ⟨kept, hkept, rfl⟩ := exists_of_dropLeadingZeros? h hzero
        have hsplit : c :: t = (c :: t.takeWhile isZeroMark) ++ t.dropWhile isZeroMark := by simp
        have hzeros : ∀ d ∈ c :: t.takeWhile isZeroMark,
            d.digitValue? = some 0 ∨ d.digitValue? = none := by
          refine List.forall_mem_cons.mpr ⟨?_, fun d hd => ?_⟩
          · rw [hzero]
            exact .inl (by decide)
          · exact digitValue?_of_isZeroMark (List.mem_takeWhile_imp hd)
        rw [hsplit, numeral_append_of_zeros hzeros,
          numeral_append_of_zeros fun d hd => hzeros d (hkept d hd)]
        refine ⟨rfl, fun d hd => ?_⟩
        rcases List.mem_append.mp hd with hd | hd
        · exact List.mem_append_left _ (hkept d hd)
        · exact List.mem_append_right _ hd
      · simp only [dropLeadingZeros?, if_neg hzero] at h
        split at h
        · cases h
          exact ⟨rfl, fun _ => id⟩
        · contradiction

theorem of_plainInteger {n : Int} (h : plainInteger t = .ok n) :
    n = signed (t.head? = some (CodePoint.ofChar '-')) (numeral t) := by
  have hread : ∀ (negative : Bool) (body : Text),
      (if body.isEmpty || !body.all CodePoint.isDigit then .error .unreadable
        else if 1 < body.length && body.head? = some (CodePoint.ofChar '0') then .error .unreadable
        else if digitLimit < body.length then .error .tooLong
        else .ok (signed negative (ofDigits (body.filterMap asciiDigit?))) :
          Except FieldFault Int) = .ok n →
      n = signed negative (numeral body) := by
    intro negative body h
    split at h
    · contradiction
    next hdigits =>
      split at h
      · contradiction
      · split at h
        · contradiction
        · have hall : body.all CodePoint.isDigit = true := by simp_all
          rw [filterMap_asciiDigit? hall] at h
          exact (Except.ok.inj h).symm
  cases t with
  | nil => contradiction
  | cons c t =>
      by_cases hminus : c = CodePoint.ofChar '-'
      · simp only [plainInteger, if_pos hminus] at h
        rw [numeral_cons_of_none (by rw [hminus]; decide)]
        simpa [hminus] using hread true t h
      · simp only [plainInteger, if_neg hminus] at h
        simpa [hminus] using hread false (c :: t) h

theorem eq_of_unsigned {rest whole : Text} {n : Int} (hrest : dropLeadingZeros? t = some rest)
    (hwhole : dropZeroFraction? rest = some whole)
    (h : plainInteger (dropUnderscores whole) = .ok n) (hpoint : CodePoint.ofChar '.' ∉ t)
    (hminus : CodePoint.ofChar '-' ∉ t) : n = numeral t := by
  obtain ⟨hnumeral, hmem⟩ := of_dropLeadingZeros? hrest
  obtain rfl := eq_of_dropZeroFraction? (fun h => hpoint (hmem _ h)) hwhole
  have hhead : (dropUnderscores whole).head? ≠ some (CodePoint.ofChar '-') := by
    intro hhead
    exact hminus (hmem _ (mem_of_mem_dropUnderscores (List.mem_of_head? hhead)))
  rw [of_plainInteger h, decide_eq_false hhead, numeral_dropUnderscores, hnumeral]
  rfl

theorem eq_of_signed {whole : Text} {n : Int}
    (hwhole : dropZeroFraction? (CodePoint.ofChar '-' :: t) = some whole)
    (h : plainInteger (dropUnderscores whole) = .ok n) (hpoint : CodePoint.ofChar '.' ∉ t) :
    n = signed true (numeral t) := by
  have hnot : CodePoint.ofChar '.' ∉ CodePoint.ofChar '-' :: t :=
    List.not_mem_cons_of_ne_of_not_mem (by decide) hpoint
  obtain rfl := eq_of_dropZeroFraction? hnot hwhole
  have hhead : (dropUnderscores (CodePoint.ofChar '-' :: t)).head? =
      some (CodePoint.ofChar '-') := by
    unfold dropUnderscores
    split
    · rfl
    · rw [List.filter_cons_of_pos (by decide)]
      rfl
  rw [of_plainInteger h, decide_eq_true hhead, numeral_dropUnderscores,
    numeral_cons_of_none (by decide)]

theorem of_fieldInteger {n : Int} (h : fieldInteger t = .ok n)
    (hpoint : CodePoint.ofChar '.' ∉ (takeSign t.trimmed).2)
    (hminus : CodePoint.ofChar '-' ∉ (takeSign t.trimmed).2) :
    n = signed (takeSign t.trimmed).1 (numeral (takeSign t.trimmed).2) := by
  simp only [fieldInteger] at h
  generalize t.trimmed = u at h hpoint hminus ⊢
  split at h
  · contradiction
  next whole hread =>
    obtain ⟨rest, hdropped, hwhole⟩ := Option.bind_eq_some_iff.mp hread
    obtain ⟨unsigned, hunsigned, hrest⟩ := Option.bind_eq_some_iff.mp hdropped
    clear hread hdropped
    cases u with
    | nil => contradiction
    | cons c u =>
        simp only at hunsigned
        by_cases hplus : c = CodePoint.ofChar '+'
        · have hsign : takeSign (c :: u) = (false, u) := by
            subst hplus
            rfl
          rw [if_pos hplus] at hunsigned
          rw [hsign] at hpoint hminus ⊢
          split at hunsigned
          · contradiction
          · cases hunsigned
            exact eq_of_unsigned hrest hwhole h hpoint hminus
        · rw [if_neg hplus] at hunsigned
          cases hunsigned
          by_cases hnegative : c = CodePoint.ofChar '-'
          · subst hnegative
            cases hrest
            exact eq_of_signed hwhole h hpoint
          · have hsign : takeSign (c :: u) = (false, c :: u) := by simp [takeSign, hplus, hnegative]
            rw [hsign] at hpoint hminus ⊢
            exact eq_of_unsigned hrest hwhole h hpoint hminus

theorem eq_of_anyInteger?_of_fieldInteger {m n : Int} (hany : anyInteger? t = some m)
    (hfield : fieldInteger t = .ok n) : m = n := by
  obtain ⟨rfl, hdigits⟩ := of_anyInteger? hany
  have hnot : ∀ c : CodePoint, c ≠ CodePoint.ofChar '_' → c.digitValue? = none →
      c ∉ (takeSign t.trimmed).2 := by
    intro c hmark hnone hmem
    rcases hdigits c hmem with hc | hc
    · exact hmark hc
    · simp [hnone] at hc
  exact (of_fieldInteger hfield (hnot _ (by decide) (by decide))
    (hnot _ (by decide) (by decide))).symm

end SignOn.Number
