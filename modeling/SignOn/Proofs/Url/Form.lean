import SignOn.Proofs.Text.Utf8
import SignOn.Url.Percent

/-!
# Reading back forms

`formDecode?` gives every form of scalar values back from its text.  What is written of a name or
a value holds neither of the two marks that a form is cut at, so the cuts fall where they were
made.
-/

namespace SignOn.Percent

theorem hexValue?_upperHexDigit {n : Nat} (h : n < 16) :
    (Text.upperHexDigit n).hexValue? = some n := by
  have hall : ∀ n < 16, (Text.upperHexDigit n).hexValue? = some n := by decide
  exact hall n h

theorem decodeBytes_byte (b : UInt8) (rest : Text) :
    decodeBytes (byte b ++ rest) = b :: decodeBytes rest := by
  have hlt := b.toNat_lt
  have hvalue : UInt8.ofNat (b.toNat / 16 * 16 + b.toNat % 16) = b := by
    rw [Nat.div_add_mod']
    exact UInt8.ofNat_toNat
  have hhigh := hexValue?_upperHexDigit (n := b.toNat / 16) (by omega)
  have hlow := hexValue?_upperHexDigit (n := b.toNat % 16) (by omega)
  simp only [byte, List.cons_append, List.nil_append, decodeBytes, if_true, hhigh, hlow, hvalue]

theorem decodeBytes_bytes (bs : Bytes) (rest : Text) :
    decodeBytes (bs.flatMap byte ++ rest) = bs ++ decodeBytes rest := by
  induction bs with
  | nil => rfl
  | cons b bs ih => simp [List.append_assoc, decodeBytes_byte, ih]

theorem decodeBytes_plain {c : CodePoint} (h : c ≠ CodePoint.ofChar '%') (rest : Text) :
    decodeBytes (c :: rest) = Utf8.encodePoint c ++ decodeBytes rest := by
  match rest with
  | [] => simp [decodeBytes, Utf8.encode]
  | [d] => simp [decodeBytes, Utf8.encode]
  | d :: e :: rest => simp [decodeBytes, h]

def IsFormPoint (c : CodePoint) : Prop :=
  c = CodePoint.ofChar '+' ∨ c = CodePoint.ofChar '%' ∨ isUnreserved c = true

theorem isUnreserved_upperHexDigit {n : Nat} (h : n < 16) :
    isUnreserved (Text.upperHexDigit n) = true := by
  have hall : ∀ n < 16, isUnreserved (Text.upperHexDigit n) = true := by decide
  exact hall n h

theorem isFormPoint_of_mem_byte {b : UInt8} {c : CodePoint} (h : c ∈ byte b) : IsFormPoint c := by
  have hlt := b.toNat_lt
  simp only [byte, List.mem_cons, List.not_mem_nil, or_false] at h
  rcases h with rfl | rfl | rfl
  · exact .inr (.inl rfl)
  · exact .inr (.inr (isUnreserved_upperHexDigit (by omega)))
  · exact .inr (.inr (isUnreserved_upperHexDigit (by omega)))

theorem isFormPoint_of_mem_formText {t : Text} {c : CodePoint} (h : c ∈ formText t) :
    IsFormPoint c := by
  obtain ⟨d, -, hd⟩ := List.mem_flatMap.mp h
  unfold formPoint at hd
  split at hd
  · exact .inl (by simpa [Text.ofString] using hd)
  · split at hd
    next hunreserved =>
      obtain rfl := List.mem_singleton.mp hd
      exact .inr (.inr hunreserved)
    next =>
      obtain ⟨b, -, hb⟩ := List.mem_flatMap.mp hd
      exact isFormPoint_of_mem_byte hb

theorem not_mem_formText {separator : CodePoint} (h : ¬ IsFormPoint separator) (t : Text) :
    separator ∉ formText t :=
  fun hmem => h (isFormPoint_of_mem_formText hmem)

theorem plusAsSpace_of_ne {c : CodePoint} (h : c ≠ CodePoint.ofChar '+') : plusAsSpace c = c :=
  if_neg h

theorem ne_plus_of_isUnreserved {c : CodePoint} (h : isUnreserved c = true) :
    c ≠ CodePoint.ofChar '+' := by
  rintro rfl
  exact absurd h (by decide)

theorem ne_percent_of_isUnreserved {c : CodePoint} (h : isUnreserved c = true) :
    c ≠ CodePoint.ofChar '%' := by
  rintro rfl
  exact absurd h (by decide)

theorem plusAsSpace_byte (b : UInt8) : (byte b).map plusAsSpace = byte b := by
  have hlt := b.toNat_lt
  have hhigh := ne_plus_of_isUnreserved (isUnreserved_upperHexDigit (n := b.toNat / 16) (by omega))
  have hlow := ne_plus_of_isUnreserved (isUnreserved_upperHexDigit (n := b.toNat % 16) (by omega))
  simp only [byte, List.map_cons, List.map_nil, plusAsSpace_of_ne hhigh, plusAsSpace_of_ne hlow]
  rfl

theorem plusAsSpace_point (c : CodePoint) : (point c).map plusAsSpace = point c := by
  simp only [point, List.map_flatMap, plusAsSpace_byte]

theorem decodeBytes_formPoint (c : CodePoint) (rest : Text) :
    decodeBytes ((formPoint c).map plusAsSpace ++ rest) =
      Utf8.encodePoint c ++ decodeBytes rest := by
  unfold formPoint
  split
  next h =>
    subst h
    exact decodeBytes_plain (by decide) rest
  next h =>
    split
    next hunreserved =>
      rw [List.map_singleton, plusAsSpace_of_ne (ne_plus_of_isUnreserved hunreserved)]
      exact decodeBytes_plain (ne_percent_of_isUnreserved hunreserved) rest
    next =>
      rw [plusAsSpace_point]
      exact decodeBytes_bytes _ rest

theorem decodeBytes_formText (t : Text) :
    decodeBytes ((formText t).map plusAsSpace) = Utf8.encode t := by
  induction t with
  | nil => rfl
  | cons c t ih =>
      rw [formText, List.flatMap_cons, List.map_append, decodeBytes_formPoint]
      exact congrArg _ ih

theorem formTextDecode?_formText {t : Text} (h : t.IsScalar) :
    formTextDecode? (formText t) = some t := by
  simp only [formTextDecode?, decodeBytes_formText, Utf8.decode_encode h]

theorem formPairDecode?_formPair {pair : Text × Text} (hname : pair.1.IsScalar)
    (hvalue : pair.2.IsScalar) : formPairDecode? (formPair pair) = some pair := by
  have hnot : CodePoint.ofChar '=' ∉ formText pair.1 :=
    not_mem_formText (by unfold IsFormPoint; decide) pair.1
  have hcut : Split.cutFirst? (CodePoint.ofChar '=') (formPair pair) =
      some (formText pair.1, formText pair.2) := by
    rw [formPair, List.append_assoc]
    exact Split.cutFirst?_append hnot _
  simp only [formPairDecode?, hcut, Option.getD_some, formTextDecode?_formText hname,
    formTextDecode?_formText hvalue]

theorem not_mem_formPair (pair : Text × Text) : CodePoint.ofChar '&' ∉ formPair pair := by
  have hnot : ∀ t, CodePoint.ofChar '&' ∉ formText t :=
    not_mem_formText (by unfold IsFormPoint; decide)
  have hmark : CodePoint.ofChar '&' ∉ (Text.ofString "=") := by decide
  simp [formPair, hnot, hmark]

theorem splitOn_append {separator : CodePoint} {piece : Text} (h : separator ∉ piece)
    (rest : Text) :
    Split.splitOn separator (piece ++ separator :: rest) =
      piece :: Split.splitOn separator rest := by
  induction piece with
  | nil => simp [Split.splitOn, Split.splitWhere]
  | cons c piece ih =>
      have hc : c ≠ separator := fun heq => h (heq ▸ List.mem_cons_self)
      have hpiece := ih fun hmem => h (List.mem_cons_of_mem c hmem)
      simp only [Split.splitOn] at hpiece
      simp [Split.splitOn, Split.splitWhere, hc, hpiece]

theorem splitOn_of_not_mem {separator : CodePoint} {piece : Text} (h : separator ∉ piece) :
    Split.splitOn separator piece = [piece] := by
  induction piece with
  | nil => rfl
  | cons c piece ih =>
      have hc : c ≠ separator := fun heq => h (heq ▸ List.mem_cons_self)
      have hpiece := ih fun hmem => h (List.mem_cons_of_mem c hmem)
      simp only [Split.splitOn] at hpiece
      simp [Split.splitOn, Split.splitWhere, hc, hpiece]

theorem splitOn_join {separator : CodePoint} {pieces : List Text} (hne : pieces ≠ [])
    (h : ∀ piece ∈ pieces, separator ∉ piece) :
    Split.splitOn separator (Text.join [separator] pieces) = pieces := by
  induction pieces with
  | nil => contradiction
  | cons piece pieces ih =>
      obtain ⟨hpiece, hpieces⟩ := List.forall_mem_cons.mp h
      cases pieces with
      | nil => exact splitOn_of_not_mem hpiece
      | cons other pieces =>
          rw [Text.join, List.append_assoc]
          · exact (splitOn_append hpiece _).trans (congrArg _ (ih (by simp) hpieces))
          · simp

theorem formDecode?_formEncode {form : Form} (hne : form ≠ [])
    (h : ∀ pair ∈ form, pair.1.IsScalar ∧ pair.2.IsScalar) :
    formDecode? (formEncode form) = some form := by
  have hsplit : Split.splitOn (CodePoint.ofChar '&') (formEncode form) = form.map formPair := by
    refine splitOn_join (by simpa using hne) fun piece hpiece => ?_
    obtain ⟨pair, -, rfl⟩ := List.mem_map.mp hpiece
    exact not_mem_formPair pair
  rw [formDecode?, hsplit]
  clear hne hsplit
  induction form with
  | nil => rfl
  | cons pair form ih =>
      obtain ⟨⟨hname, hvalue⟩, hform⟩ := List.forall_mem_cons.mp h
      rw [List.map_cons, List.mapM_cons, formPairDecode?_formPair hname hvalue, ih hform]
      rfl

theorem of_mem_formEncode {form : Form} {c : CodePoint} (h : c ∈ formEncode form) :
    IsFormPoint c ∨ c = CodePoint.ofChar '=' ∨ c = CodePoint.ofChar '&' := by
  unfold formEncode at h
  induction form with
  | nil => contradiction
  | cons pair form ih =>
      have hpair : c ∈ formPair pair → IsFormPoint c ∨ c = CodePoint.ofChar '=' := by
        intro hmem
        rcases List.mem_append.mp hmem with hleft | hvalue
        · rcases List.mem_append.mp hleft with hname | hmark
          · exact .inl (isFormPoint_of_mem_formText hname)
          · exact .inr (by simpa [Text.ofString] using hmark)
        · exact .inl (isFormPoint_of_mem_formText hvalue)
      cases form with
      | nil => exact (hpair h).imp id .inl
      | cons other form =>
          rw [List.map_cons, List.map_cons, Text.join] at h
          · rcases List.mem_append.mp h with hleft | hrest
            · rcases List.mem_append.mp hleft with hmem | hmark
              · exact (hpair hmem).imp id .inl
              · exact .inr (.inr (by simpa [Text.ofString] using hmark))
            · exact ih hrest
          · simp

theorem encode_append (stands : CodePoint → Bool) (s t : Text) :
    encode stands (s ++ t) = encode stands s ++ encode stands t :=
  List.flatMap_append

theorem encode_of_forall {stands : CodePoint → Bool} {t : Text} (h : ∀ c ∈ t, stands c = true) :
    encode stands t = t := by
  induction t with
  | nil => rfl
  | cons c t ih =>
      obtain ⟨hc, ht⟩ := List.forall_mem_cons.mp h
      rw [encode, List.flatMap_cons, if_pos hc]
      exact congrArg (c :: ·) (ih ht)

end SignOn.Percent
