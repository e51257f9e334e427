import SignOn.Json.Reader
import SignOn.Json.Writer
import SignOn.Proofs.Checks

/-!
# Integers with too many digits

What is written of an object need not be read again: the reader refuses an integer with more digits
than its limit, and with it the document, wherever in the document it stands.  Here it is the value
of the first member of an object.
-/

namespace SignOn

theorem Text.ofInt_pow_ten (k : Nat) :
    ofInt (Nat.pow 10 k) = CodePoint.ofChar '1' :: List.replicate k (CodePoint.ofChar '0') := by
  have hdigits : Nat.toDigits 10 (Nat.pow 10 k) = '1' :: List.replicate k '0' := by
    induction k with
    | zero => rfl
    | succ k ih =>
        have hpower : Nat.pow 10 (k + 1) = 10 * Nat.pow 10 k + 0 := Nat.mul_comm _ 10
        have hlast : Nat.toDigits 10 (Nat.pow 10 k) ++ Nat.toDigits 10 0 =
            Nat.toDigits 10 (10 * Nat.pow 10 k + 0) :=
          Nat.toDigits_append_toDigits (by decide) (Nat.pow_pos (by decide)) (by decide)
        rw [hpower, ← hlast, ih, List.replicate_succ']
        rfl
  have hnegative : ¬(Nat.pow 10 k : Int) < 0 := Int.not_lt.mpr (Int.natCast_nonneg _)
  rw [ofInt, if_neg hnegative, Int.natAbs_natCast, ofNat, hdigits, List.map_cons,
    List.map_replicate]

namespace Json

variable {c : CodePoint} {digits name rest value : Text} {position next fuel depth : Nat}
  {first : Bool} {fault : Fault}

def StandsInString (c : CodePoint) : Prop :=
  c ≠ CodePoint.ofChar '"' ∧ c ≠ CodePoint.ofChar '\\' ∧ 0x20 ≤ c.val

instance : DecidablePred StandsInString := fun _ => inferInstanceAs (Decidable (_ ∧ _ ∧ _))

theorem stringUnits_of_standing {start : Nat} (h : ∀ c ∈ name, StandsInString c) :
    stringUnits start position (name ++ CodePoint.ofChar '"' :: rest) =
      .ok (name.map .plain, ⟨position + name.length + 1, rest⟩) := by
  induction name generalizing position with
  | nil =>
      rw [List.nil_append]
      unfold stringUnits
      rfl
  | cons c name ih =>
      obtain ⟨⟨hquote, hescape, hcontrol⟩, hname⟩ := List.forall_mem_cons.mp h
      rw [List.cons_append]
      unfold stringUnits
      rw [if_neg hquote, if_neg (Nat.not_lt.mpr hcontrol), if_neg hescape, ih hname, prepend,
        List.map_cons, List.length_cons, Nat.add_right_comm position 1, Nat.add_assoc position]

theorem joinUnits_map_plain (t : Text) : joinUnits (t.map .plain) = t := by
  induction t with
  | nil => rfl
  | cons c t ih => rw [List.map_cons, joinUnits, ih]

theorem readString_of_standing (h : ∀ c ∈ name, StandsInString c) :
    readString ⟨position, name ++ CodePoint.ofChar '"' :: rest⟩ =
      .ok (name, ⟨position + name.length + 1, rest⟩) := by
  rw [readString, stringUnits_of_standing h]
  simp only [Except.map, joinUnits_map_plain]

theorem length_filterMap_asciiDigit? (h : ∀ d ∈ digits, d.isDigit = true) :
    (digits.filterMap Number.asciiDigit?).length = digits.length := by
  induction digits with
  | nil => rfl
  | cons d digits ih =>
      obtain ⟨hd, hdigits⟩ := List.forall_mem_cons.mp h
      rw [List.filterMap_cons, Number.asciiDigit?, if_pos hd]
      exact congrArg (· + 1) (ih hdigits)

theorem readNumber_of_long (hdigits : ∀ d ∈ c :: digits, d.isDigit = true)
    (hzero : c ≠ CodePoint.ofChar '0') (hlong : Number.digitLimit < (c :: digits).length) :
    readNumber ⟨position, c :: (digits ++ CodePoint.ofChar ',' :: rest)⟩ =
      .error (.digits (c :: digits).length) := by
  have hminus : c ≠ CodePoint.ofChar '-' := by
    rintro rfl
    exact absurd (hdigits _ List.mem_cons_self) (by decide)
  have hwhole : wholeDigits (c :: (digits ++ CodePoint.ofChar ',' :: rest)) = c :: digits := by
    rw [wholeDigits, if_neg hzero, ← List.cons_append, List.takeWhile_append_of_pos hdigits,
      List.takeWhile_cons_of_neg (by decide), List.append_nil]
  have hhead : ¬(c :: (digits ++ CodePoint.ofChar ',' :: rest)).head? =
      some (CodePoint.ofChar '-') := fun h => hminus (Option.some.inj h)
  have hdrop : (c :: (digits ++ CodePoint.ofChar ',' :: rest)).drop (c :: digits).length =
      CodePoint.ofChar ',' :: rest := List.drop_left' rfl
  have hfraction : fractionDigits (CodePoint.ofChar ',' :: rest) = [] := rfl
  have hexponent : exponentPart? (CodePoint.ofChar ',' :: rest) = none := rfl
  simp only [readNumber, hhead, decide_false, Bool.false_eq_true, if_false, hwhole, hdrop,
    hfraction, hexponent, length_filterMap_asciiDigit? hdigits, List.isEmpty_cons,
    List.isEmpty_nil, if_true, Option.isNone_none, Bool.and_self, if_pos hlong]

theorem skipBlanks_of_not_blank (h : c.isJsonBlank = false) :
    (⟨position, c :: rest⟩ : Cursor).skipBlanks = ⟨position, c :: rest⟩ := by
  rw [Cursor.skipBlanks, List.dropWhile_cons_of_neg (by rw [h]; decide), Nat.sub_self]
  rfl

theorem ne_of_isDigit {d : CodePoint} (h : c.isDigit = true) (hd : d.isDigit = false) : c ≠ d := by
  rintro rfl
  exact absurd (h.symm.trans hd) (by decide)

theorem isJsonBlank_of_isDigit (h : c.isDigit = true) : c.isJsonBlank = false := by
  simp only [CodePoint.isDigit, CodePoint.between, Bool.and_eq_true, decide_eq_true_eq] at h
  simp only [CodePoint.isJsonBlank, Bool.or_eq_false_iff, beq_eq_false_iff_ne]
  omega

theorem readLiteral?_of_isDigit (h : c.isDigit = true) :
    readLiteral? ⟨position, c :: rest⟩ = none := by
  have hfirst : ∀ literal ∈ literals, ∃ d t, literal.1 = d :: t ∧ d.isDigit = false := by
    simp only [literals, List.forall_mem_cons]
    exact ⟨⟨_, _, rfl, rfl⟩, ⟨_, _, rfl, rfl⟩, ⟨_, _, rfl, rfl⟩, ⟨_, _, rfl, rfl⟩,
      ⟨_, _, rfl, rfl⟩, ⟨_, _, rfl, rfl⟩, nofun⟩
  rw [readLiteral?, List.findSome?_eq_none_iff]
  rintro ⟨word, literal⟩ hmem
  obtain ⟨d, t, rfl, hd⟩ := hfirst _ hmem
  have hne : (d == c) = false := beq_false_of_ne (ne_of_isDigit h hd).symm
  simp only [List.isPrefixOf, hne, Bool.false_and, Bool.false_eq_true, if_false]

theorem readValue_of_isDigit (h : c.isDigit = true) :
    readValue (fuel + 1) depth ⟨position, c :: rest⟩ = readNumber ⟨position, c :: rest⟩ := by
  unfold readValue
  simp only [if_neg (ne_of_isDigit h (by decide : (CodePoint.ofChar '"').isDigit = false)),
    if_neg (ne_of_isDigit h (by decide : (CodePoint.ofChar '{').isDigit = false)),
    if_neg (ne_of_isDigit h (by decide : (CodePoint.ofChar '[').isDigit = false)),
    readLiteral?_of_isDigit h]

theorem readMembers_of_value_error
    (hname : readString ⟨position + 1, rest⟩ = .ok (name, ⟨next, CodePoint.ofChar ':' :: value⟩))
    (hvalue : readValue fuel depth (⟨next + 1, value⟩ : Cursor).skipBlanks = .error fault) :
    readMembers (fuel + 1) depth first ⟨position, CodePoint.ofChar '"' :: rest⟩ =
      .error fault := by
  have hend : ¬(first && decide ((CodePoint.ofChar '"' :: rest).head? =
      some (CodePoint.ofChar '}'))) = true := by
    rw [List.head?_cons, Bool.and_eq_true]
    exact fun h => absurd h.2 (by decide)
  have hcolon : (⟨next, CodePoint.ofChar ':' :: value⟩ : Cursor).skipBlanks =
      ⟨next, CodePoint.ofChar ':' :: value⟩ := skipBlanks_of_not_blank (by decide)
  unfold readMembers
  rw [if_neg hend, if_neg (by rw [List.head?_cons]; decide)]
  refine bind_eq_error_iff.mpr (.inr ⟨_, hname, ?_⟩)
  simp only [hcolon]
  rw [if_neg (by rw [List.head?_cons]; decide)]
  exact bind_eq_error_iff.mpr (.inl hvalue)

/-- An object whose first member states an integer with too many digits is not read. -/
theorem readDocument_of_long (hname : ∀ c ∈ name, StandsInString c)
    (hdigits : ∀ d ∈ c :: digits, d.isDigit = true) (hzero : c ≠ CodePoint.ofChar '0')
    (hlong : Number.digitLimit < (c :: digits).length) :
    readDocument (CodePoint.ofChar '{' :: CodePoint.ofChar '"' :: (name ++
      CodePoint.ofChar '"' :: CodePoint.ofChar ':' :: c ::
        (digits ++ CodePoint.ofChar ',' :: rest))) = .error (.digits (c :: digits).length) := by
  have hdigit : c.isDigit = true := hdigits c List.mem_cons_self
  obtain ⟨depth, hdepth⟩ := Nat.exists_eq_succ_of_ne_zero (by decide : nestingLimit ≠ 0)
  have hmembers : ∀ fuel, readMembers (fuel + 2) depth true ⟨1, CodePoint.ofChar '"' :: (name ++
      CodePoint.ofChar '"' :: CodePoint.ofChar ':' :: c ::
        (digits ++ CodePoint.ofChar ',' :: rest))⟩ = .error (.digits (c :: digits).length) := by
    intro fuel
    refine readMembers_of_value_error (readString_of_standing hname) ?_
    rw [skipBlanks_of_not_blank (isJsonBlank_of_isDigit hdigit), readValue_of_isDigit hdigit,
      readNumber_of_long hdigits hzero hlong]
  have hvalue : ∀ fuel, readValue (fuel + 3) nestingLimit ⟨0, CodePoint.ofChar '{' ::
      CodePoint.ofChar '"' :: (name ++ CodePoint.ofChar '"' :: CodePoint.ofChar ':' :: c ::
        (digits ++ CodePoint.ofChar ',' :: rest))⟩ = .error (.digits (c :: digits).length) := by
    intro fuel
    rw [hdepth]
    unfold readValue
    change ((readMembers (fuel + 2) depth true (Cursor.skipBlanks _)).map _ : Except _ _) = _
    rw [skipBlanks_of_not_blank (by decide), hmembers]
    rfl
  have hlength : ∀ t : Text, 2 * (CodePoint.ofChar '{' :: CodePoint.ofChar '"' :: t).length + 2 =
      2 * t.length + 3 + 3 := fun t => by simp only [List.length_cons]; omega
  rw [readDocument, skipBlanks_of_not_blank (by decide), hlength, hvalue]
  rfl

end Json

end SignOn
