import FeatureToggles.Proofs.Json.Quoted

/-!
# Words and numbers of JSON

A word or a number begins a text with some of its characters, and what follows these is left.  A number
is cut into its parts: a sign, digits, a fraction and an exponent.

Main statements: `taken_readScalar` and `taken_readNumber` say what is taken and what is left, and
`isStart_of_taken_readScalar` with what it begins.
-/

namespace FeatureToggles

namespace Json

/-! ## Words -/

/-- A word is taken where it stands, and a number otherwise. -/
lemma taken_readScalar (cs : List Char) :
    taken (readScalar cs) =
      match wordValues.find? fun word => word.1.isPrefixOf cs with
      | some (word, j) => some (j, cs.drop word.length)
      | none => taken (readNumber cs) := by
  unfold readScalar
  cases hfind : wordValues.find? fun word => word.1.isPrefixOf cs with
  | none => rfl
  | some found =>
      obtain ⟨word, j⟩ := found
      have hbegins : word.isPrefixOf cs := by simpa using List.find?_some hfind
      have hword : 0 < word.length := by
        have hmem := List.mem_of_find?_eq_some hfind
        have hall : wordValues.all (fun word => 0 < word.1.length) = true := by decide
        simpa using List.all_eq_true.mp hall _ hmem
      have hle := (List.isPrefixOf_iff_prefix.mp hbegins).length_le
      have hlt : (cs.drop word.length).length < cs.length := by
        rw [List.length_drop]
        omega
      simp only [hlt, ↓reduceDIte]
      rfl

/-! ## Numbers -/

/-- Whether a minus sign begins a text. -/
def isNegative (cs : List Char) : Bool := cs.head? == some '-'

/-- A text without the minus sign at its beginning, if there is one. -/
def unsigned (cs : List Char) : List Char := if isNegative cs then cs.drop 1 else cs

/-- The fraction and the exponent after the integer part of a text without a sign. -/
def fractionAfter (body : List Char) : List Char :=
  fractionPart (body.drop (wholeDigits body).length)

/-- The exponent after the integer part and the fraction of a text without a sign. -/
def exponentAfter (body : List Char) : List Char :=
  exponentPart (body.drop ((wholeDigits body).length + (fractionAfter body).length))

/-- What follows the number at the beginning of a text without a sign. -/
def afterNumber (body : List Char) : List Char :=
  body.drop ((wholeDigits body).length + (fractionAfter body).length + (exponentAfter body).length)

/-! ### The parts of a number begin a text -/

lemma isPrefix_wholeDigits (cs : List Char) : wholeDigits cs <+: cs := by
  cases cs with
  | nil => simp [wholeDigits]
  | cons c cs =>
      simp only [wholeDigits]
      split_ifs
      · simp
      · exact (List.prefix_cons_inj c).mpr (List.takeWhile_prefix Char.isDigit)
      · simp

lemma isPrefix_fractionPart (cs : List Char) : fractionPart cs <+: cs := by
  unfold fractionPart
  split
  · rename_i rest
    simp only
    split_ifs
    · simp
    · exact (List.prefix_cons_inj '.').mpr (List.takeWhile_prefix Char.isDigit)
  · simp

/-- The sign of an exponent, if there is one. -/
def exponentSign (cs : List Char) : List Char :=
  match cs with
  | s :: _ => if s = '+' ∨ s = '-' then [s] else []
  | [] => []

lemma isPrefix_exponentSign (cs : List Char) : exponentSign cs <+: cs := by
  cases cs with
  | nil => simp [exponentSign]
  | cons s cs =>
      simp only [exponentSign]
      split_ifs <;> simp

/-- An exponent has a letter, may have a sign, and has digits. -/
lemma exponentPart_cons (c : Char) (cs : List Char) :
    exponentPart (c :: cs) =
      if (c = 'e' ∨ c = 'E') ∧ (cs.drop (exponentSign cs).length).takeWhile Char.isDigit ≠ [] then
        c :: (exponentSign cs ++ (cs.drop (exponentSign cs).length).takeWhile Char.isDigit)
      else [] := by
  have hunfold : exponentPart (c :: cs) = if c = 'e' ∨ c = 'E' then
      if ((cs.drop (exponentSign cs).length).takeWhile Char.isDigit).isEmpty then []
      else c :: exponentSign cs ++ (cs.drop (exponentSign cs).length).takeWhile Char.isDigit
    else [] := rfl
  rw [hunfold]
  split_ifs <;> simp_all

lemma isPrefix_exponentPart (cs : List Char) : exponentPart cs <+: cs := by
  cases cs with
  | nil => simp [exponentPart]
  | cons c cs =>
      rw [exponentPart_cons]
      split_ifs
      · refine (List.prefix_cons_inj c).mpr ?_
        have hsplit := List.prefix_iff_eq_append.mp (isPrefix_exponentSign cs)
        have hdigits := (List.prefix_append_right_inj (exponentSign cs)).mpr
          (List.takeWhile_prefix Char.isDigit (l := cs.drop (exponentSign cs).length))
        rwa [hsplit] at hdigits
      · simp

lemma length_afterNumber_lt {cs : List Char} (h : (wholeDigits (unsigned cs)).isEmpty = false) :
    (afterNumber (unsigned cs)).length < cs.length := by
  have hwhole : 0 < (wholeDigits (unsigned cs)).length := by
    rw [List.length_pos_iff]
    simpa using h
  have hle := (isPrefix_wholeDigits (unsigned cs)).length_le
  have hunsigned : (unsigned cs).length ≤ cs.length := by
    unfold unsigned
    split_ifs <;> simp
  rw [afterNumber, List.length_drop]
  omega

/-- A number needs a digit.  If there is one, it is refused or taken with what its parts write. -/
lemma readNumber_cases (cs : List Char) :
    ((wholeDigits (unsigned cs)).isEmpty = true ∧
        readNumber cs = .error (.flaw .expectingValue cs.length)) ∨
      (wholeDigits (unsigned cs)).isEmpty = false ∧ ∃ number,
        numberOf (isNegative cs) (wholeDigits (unsigned cs)) (fractionAfter (unsigned cs))
          (exponentAfter (unsigned cs)) = number ∧
        ((∃ stop, number = .error stop ∧ readNumber cs = .error stop) ∨
          ∃ j rest, number = .ok j ∧ readNumber cs = .ok (j, rest) ∧
            rest.1 = afterNumber (unsigned cs)) := by
  have hnegative : (cs.head? == some '-') = isNegative cs := rfl
  have hunsigned : (if isNegative cs then cs.drop 1 else cs) = unsigned cs := rfl
  have hfraction : fractionPart ((unsigned cs).drop (wholeDigits (unsigned cs)).length) =
      fractionAfter (unsigned cs) := rfl
  have hexponent : exponentPart ((unsigned cs).drop
      ((wholeDigits (unsigned cs)).length + (fractionAfter (unsigned cs)).length)) =
        exponentAfter (unsigned cs) := rfl
  have hafter : (unsigned cs).drop ((wholeDigits (unsigned cs)).length +
      (fractionAfter (unsigned cs)).length + (exponentAfter (unsigned cs)).length) =
        afterNumber (unsigned cs) := rfl
  simp only [readNumber, hnegative, hunsigned, hfraction, hexponent, hafter]
  cases hempty : (wholeDigits (unsigned cs)).isEmpty with
  | true => exact .inl ⟨rfl, rfl⟩
  | false =>
      have hlt := length_afterNumber_lt hempty
      refine .inr ⟨rfl, _, rfl, ?_⟩
      simp only [hlt, Bool.false_eq_true, ↓reduceIte, ↓reduceDIte]
      cases numberOf (isNegative cs) (wholeDigits (unsigned cs)) (fractionAfter (unsigned cs))
        (exponentAfter (unsigned cs)) with
      | error stop => exact .inl ⟨stop, rfl, rfl⟩
      | ok j => exact .inr ⟨j, ⟨_, hlt⟩, rfl, rfl, rfl⟩

/-- What is taken of a number, and what is left. -/
lemma taken_readNumber (cs : List Char) :
    taken (readNumber cs) =
      if (wholeDigits (unsigned cs)).isEmpty then none
      else (numberOf (isNegative cs) (wholeDigits (unsigned cs)) (fractionAfter (unsigned cs))
        (exponentAfter (unsigned cs))).toOption.map fun j => (j, afterNumber (unsigned cs)) := by
  rcases readNumber_cases cs with ⟨hempty, h⟩ |
    ⟨hempty, _, hnumber, ⟨stop, rfl, h⟩ | ⟨j, rest, rfl, h, hrest⟩⟩
  · rw [h, if_pos hempty]
    rfl
  · rw [h, hnumber, hempty]
    rfl
  · rw [h, hnumber, hempty, ← hrest]
    rfl

lemma suffix_of_taken_readScalar {cs rest : List Char} {j : Json}
    (h : taken (readScalar cs) = some (j, rest)) : rest <:+ cs := by
  have hunsigned : unsigned cs <:+ cs := by
    unfold unsigned
    split_ifs
    · exact List.drop_suffix 1 cs
    · exact List.suffix_refl cs
  rw [taken_readScalar] at h
  split at h
  · obtain ⟨-, rfl⟩ := Prod.mk.inj (Option.some.inj h)
    exact List.drop_suffix _ cs
  · rw [taken_readNumber] at h
    split_ifs at h
    obtain ⟨_, -, hpair⟩ := Option.map_eq_some_iff.mp h
    rw [← (Prod.mk.inj hpair).2]
    exact (List.drop_suffix _ _).trans hunsigned

lemma exists_of_numberOf {negative : Bool} {whole fraction exponent : List Char} {j : Json}
    (h : numberOf negative whole fraction exponent = .ok j) :
    (∃ i, j = .int i) ∨ ∃ x, j = .float x := by
  unfold numberOf at h
  by_cases hwhole : fraction.isEmpty && exponent.isEmpty
  · by_cases hlimit : digitLimit < whole.length
    · simp [hwhole, hlimit] at h
    · rw [if_pos hwhole, if_neg hlimit] at h
      exact .inl ⟨_, (Except.ok.inj h).symm⟩
  · rw [if_neg hwhole] at h
    split at h <;> exact .inr ⟨_, (Except.ok.inj h).symm⟩

/-- No word or number is an array or an object. -/
lemma ne_of_taken_readScalar {cs rest : List Char} {j : Json}
    (h : taken (readScalar cs) = some (j, rest)) :
    (∀ items, j ≠ .arr items) ∧ ∀ fields, j ≠ .obj fields := by
  rw [taken_readScalar] at h
  split at h
  · rename_i word j' hfind
    have hmem := List.mem_of_find?_eq_some hfind
    simp only [Option.some.injEq, Prod.mk.injEq] at h
    obtain ⟨rfl, -⟩ := h
    constructor
    all_goals
      rintro _ rfl
      simp [wordValues] at hmem
  · rw [taken_readNumber] at h
    split_ifs at h
    obtain ⟨j', hj', hpair⟩ := Option.map_eq_some_iff.mp h
    obtain rfl : j' = j := congrArg Prod.fst hpair
    cases hnumber : numberOf (isNegative cs) (wholeDigits (unsigned cs)) (fractionAfter (unsigned cs))
        (exponentAfter (unsigned cs)) with
    | error e => simp [hnumber, Except.toOption] at hj'
    | ok number =>
        rw [hnumber] at hj'
        obtain rfl : number = j' := Option.some.inj hj'
        rcases exists_of_numberOf hnumber with ⟨i, rfl⟩ | ⟨x, rfl⟩ <;> simp

/-! ## Beginnings -/

/-- Whether a value may begin with a character. -/
def isStart (c : Char) : Bool := c.isDigit || "\"[\x7b-ntfNI".toList.contains c

lemma isStart_of_wholeDigits {c : Char} {cs : List Char} (h : wholeDigits (c :: cs) ≠ []) :
    isStart c = true := by
  have hdigit : c.isDigit = true := by
    simp only [wholeDigits] at h
    split_ifs at h with hzero hdigit
    · rw [hzero]
      rfl
    · exact hdigit
    · exact absurd rfl h
  rw [isStart, hdigit, Bool.true_or]

lemma isStart_of_taken_readScalar {c : Char} {cs rest : List Char} {j : Json}
    (h : taken (readScalar (c :: cs)) = some (j, rest)) : isStart c = true := by
  rw [taken_readScalar] at h
  split at h
  · rename_i word j' hfind
    have hall : wordValues.all (fun word => word.1.head?.all isStart) = true := by decide
    have hstart := List.all_eq_true.mp hall _ (List.mem_of_find?_eq_some hfind)
    have hbegins : word <+: c :: cs := by
      simpa [List.isPrefixOf_iff_prefix] using List.find?_some hfind
    cases word with
    | nil =>
        have hempty : ([], j') ∉ wordValues := by simp [wordValues]
        exact absurd (List.mem_of_find?_eq_some hfind) hempty
    | cons d word =>
        obtain ⟨rfl, -⟩ := List.cons_prefix_cons.mp hbegins
        simpa using hstart
  · rw [taken_readNumber] at h
    split_ifs at h with hempty
    by_cases hc : c = '-'
    · rw [hc]
      rfl
    · have hunsigned : unsigned (c :: cs) = c :: cs := by simp [unsigned, isNegative, hc]
      rw [hunsigned] at hempty
      exact isStart_of_wholeDigits (by simpa using hempty)

end Json

end FeatureToggles
