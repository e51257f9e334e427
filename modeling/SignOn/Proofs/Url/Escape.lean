import SignOn.Proofs.Text.Canonical
import SignOn.Proofs.Url.Form

/-!
# Values that stand for themselves

A form is read with plus signs taken for spaces and escapes for bytes.  A text that holds neither
is read as itself, and no other is.  Bytes tell them apart: an escape takes three and gives one, so
what is read is never longer than what is written, and is shorter where there is an escape.
-/

namespace SignOn.Percent

def percent : CodePoint := CodePoint.ofChar '%'

def plus : CodePoint := CodePoint.ofChar '+'

def HasEscape (t : Text) : Prop :=
  ∃ before high low rest, t = before ++ percent :: high :: low :: rest ∧
    high.hexValue?.isSome ∧ low.hexValue?.isSome

/-- Reading a form leaves the text as it is. -/
def IsPlain (t : Text) : Prop := plus ∉ t ∧ ¬HasEscape t

variable {t u : Text}

theorem HasEscape.cons (h : HasEscape t) (c : CodePoint) : HasEscape (c :: t) := by
  obtain ⟨before, high, low, rest, rfl, hdigits⟩ := h
  exact ⟨c :: before, high, low, rest, rfl, hdigits⟩

theorem HasEscape.of_cons {c high low : CodePoint} {rest : Text}
    (h : HasEscape (c :: high :: low :: rest)) :
    (c = percent ∧ high.hexValue?.isSome ∧ low.hexValue?.isSome) ∨
      HasEscape (high :: low :: rest) := by
  obtain ⟨before, high', low', rest', heq, hdigits⟩ := h
  cases before with
  | nil =>
      obtain ⟨rfl, rfl, rfl, -⟩ : c = percent ∧ high = high' ∧ low = low' ∧ rest = rest' := by
        simpa using heq
      exact .inl ⟨rfl, hdigits⟩
  | cons d before =>
      exact .inr ⟨before, high', low', rest', (List.cons_eq_cons.mp heq).2, hdigits⟩

theorem HasEscape.exists_three (h : HasEscape t) :
    ∃ c high low rest, t = c :: high :: low :: rest := by
  obtain ⟨before, high, low, rest, rfl, -⟩ := h
  rcases before with _ | ⟨c, _ | ⟨d, _ | ⟨e, more⟩⟩⟩
  all_goals exact ⟨_, _, _, _, rfl⟩

theorem of_opening_escape {c high : CodePoint} {n : Nat}
    (h : (if c = CodePoint.ofChar '%' then high.hexValue? else none) = some n) :
    c = percent ∧ high.hexValue? = some n := by
  split at h
  next hc => exact ⟨hc, h⟩
  next => contradiction

theorem decodeBytes_of_not_hasEscape (h : ¬HasEscape t) : decodeBytes t = Utf8.encode t := by
  fun_induction decodeBytes t with
  | case1 c high low rest high' low' hlow hhigh ih =>
      obtain ⟨rfl, hdigit⟩ := of_opening_escape hhigh
      exact absurd ⟨[], high, low, rest, rfl, by simp [hdigit], by simp [hlow]⟩ h
  | case2 c high low rest hnot ih =>
      rw [ih fun hrest => h (hrest.cons c)]
      rfl
  | case3 t hshort => rfl

theorem length_decodeBytes_le (t : Text) : (decodeBytes t).length ≤ (Utf8.encode t).length := by
  fun_induction decodeBytes t with
  | case1 c high low rest high' low' hlow hhigh ih =>
      simp only [List.length_cons, Utf8.length_encode_cons]
      have hpoint := Utf8.length_encodePoint_pos c
      omega
  | case2 c high low rest hnot ih =>
      rw [List.length_append, Utf8.length_encode_cons]
      omega
  | case3 t hshort => exact Nat.le_refl _

theorem length_decodeBytes_lt (h : HasEscape t) :
    (decodeBytes t).length < (Utf8.encode t).length := by
  fun_induction decodeBytes t with
  | case1 c high low rest high' low' hlow hhigh ih =>
      have hrest := length_decodeBytes_le rest
      have hpoint := Utf8.length_encodePoint_pos c
      have hdigit := Utf8.length_encodePoint_pos high
      simp only [List.length_cons, Utf8.length_encode_cons]
      omega
  | case2 c high low rest hnot ih =>
      rcases h.of_cons with ⟨rfl, hhigh, hlow⟩ | hlater
      · obtain ⟨n, hn⟩ := Option.isSome_iff_exists.mp hhigh
        obtain ⟨m, hm⟩ := Option.isSome_iff_exists.mp hlow
        exact absurd hm (hnot n m ((if_pos rfl).trans hn))
      · rw [List.length_append, Utf8.length_encode_cons]
        have hless := ih hlater
        omega
  | case3 t hshort =>
      obtain ⟨c, high, low, rest, heq⟩ := h.exists_three
      exact absurd heq (hshort c high low rest)

theorem length_encode_plusAsSpace (t : Text) :
    (Utf8.encode (t.map plusAsSpace)).length = (Utf8.encode t).length := by
  induction t with
  | nil => rfl
  | cons c t ih =>
      have hpoint : (Utf8.encodePoint (plusAsSpace c)).length = (Utf8.encodePoint c).length := by
        by_cases hc : c = plus
        · subst hc
          decide
        · rw [plusAsSpace_of_ne hc]
      rw [List.map_cons, Utf8.length_encode_cons, Utf8.length_encode_cons, hpoint, ih]

theorem map_plusAsSpace_eq_self_iff : t.map plusAsSpace = t ↔ plus ∉ t := by
  induction t with
  | nil => simp
  | cons c t ih =>
      have hpoint : plusAsSpace c = c ↔ plus ≠ c := by
        by_cases hc : c = plus
        · subst hc
          decide
        · simp [plusAsSpace_of_ne hc, Ne.symm hc]
      rw [List.map_cons, List.cons_eq_cons, ih, hpoint, List.mem_cons, not_or]

theorem isScalar_map_plusAsSpace (h : t.IsScalar) : Text.IsScalar (t.map plusAsSpace) := by
  intro c hc
  obtain ⟨d, hd, rfl⟩ := List.mem_map.mp hc
  by_cases hplus : d = plus
  · subst hplus
    decide
  · rw [plusAsSpace_of_ne hplus]
    exact h d hd

theorem formTextDecode?_eq_some_iff :
    formTextDecode? t = some u ↔ Utf8.decode (decodeBytes (t.map plusAsSpace)) = .ok u := by
  unfold formTextDecode?
  cases Utf8.decode (decodeBytes (t.map plusAsSpace)) <;> simp

/-- What is read is written with no more bytes than what it is read from. -/
theorem length_encode_le_of_formTextDecode? (h : formTextDecode? t = some u) :
    (Utf8.encode u).length ≤ (Utf8.encode t).length := by
  have hbytes := Utf8.eq_encode_of_decode (formTextDecode?_eq_some_iff.mp h)
  have hle := length_decodeBytes_le (t.map plusAsSpace)
  rwa [hbytes, length_encode_plusAsSpace] at hle

theorem formTextDecode?_eq_self_iff (h : t.IsScalar) :
    formTextDecode? t = some t ↔ IsPlain t := by
  rw [formTextDecode?_eq_some_iff]
  constructor
  · intro hread
    have hbytes := Utf8.eq_encode_of_decode hread
    have hnone : ¬HasEscape (t.map plusAsSpace) := by
      intro hescape
      have hless := length_decodeBytes_lt hescape
      rw [hbytes, length_encode_plusAsSpace] at hless
      exact Nat.lt_irrefl _ hless
    rw [decodeBytes_of_not_hasEscape hnone,
      Utf8.decode_encode (isScalar_map_plusAsSpace h)] at hread
    have hsame : t.map plusAsSpace = t := Except.ok.inj hread
    rw [hsame] at hnone
    exact ⟨map_plusAsSpace_eq_self_iff.mp hsame, hnone⟩
  · rintro ⟨hplus, hescape⟩
    rw [map_plusAsSpace_eq_self_iff.mpr hplus, decodeBytes_of_not_hasEscape hescape]
    exact Utf8.decode_encode h

end SignOn.Percent
