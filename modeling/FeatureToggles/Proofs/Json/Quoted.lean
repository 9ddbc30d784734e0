import FeatureToggles.Json.Parser
import Mathlib.Tactic.Common

/-!
# Strings of JSON

What stands between the quotes of a JSON string is told by rules: characters for themselves, letters after
a backslash, and units of UTF-16 by their numbers, of which two in a row may be a pair.  The rules have
neither the bounds that only the ending of the reader needs, nor its errors.

Main statement: the strings are what is read as such (`quoted_iff`).
-/

namespace FeatureToggles

namespace Json

/-- What was read and the characters that are left, without the bound on these. -/
def taken {α : Type} {P : List Char → Prop} :
    Except Stop (α × { rest : List Char // P rest }) → Option (α × List Char)
  | .error _ => none
  | .ok (a, rest) => some (a, rest.1)

lemma taken_ok {α : Type} {P : List Char → Prop} (a : α) (rest : List Char) (h : P rest) :
    taken (.ok (a, ⟨rest, h⟩) : Except Stop (α × { rest : List Char // P rest })) =
      some (a, rest) := rfl

lemma of_taken {α : Type} {P : List Char → Prop}
    {r : Except Stop (α × { rest : List Char // P rest })} {a : α} {rest : List Char}
    (h : taken r = some (a, rest)) : P rest := by
  match r, h with
  | .ok (_, ⟨_, hrest⟩), rfl => exact hrest

/-- Whether a number is the first half of a pair. -/
def IsHigh (n : Nat) : Prop := 0xD800 ≤ n ∧ n < 0xDC00

/-- Whether a number is the second half of a pair. -/
def IsLow (n : Nat) : Prop := 0xDC00 ≤ n ∧ n < 0xE000

/-- Whether a text begins with the second half of a pair, escaped by its number. -/
def BeginsLow (cs : List Char) : Prop :=
  ∃ a b c d low rest, cs = '\\' :: 'u' :: a :: b :: c :: d :: rest ∧ hexUnit? a b c d = some low ∧
    IsLow low

/-- Whether some characters after an opening quote are a string: up to its closing quote they stand
for a text, and the rest follows. -/
inductive Quoted : List Char → List Char → List Char → Prop where
  | closing (rest : List Char) : Quoted ('"' :: rest) [] rest
  | plain {c : Char} {cs text rest : List Char} :
      c ≠ '"' → c ≠ '\\' → 0x20 ≤ c.toNat → Quoted cs text rest → Quoted (c :: cs) (c :: text) rest
  | letter {e u : Char} {cs text rest : List Char} :
      e ≠ 'u' → simpleEscape? e = some u → Quoted cs text rest →
      Quoted ('\\' :: e :: cs) (u :: text) rest
  | unit {a b c d : Char} {n : Nat} {cs text rest : List Char} :
      hexUnit? a b c d = some n → (IsHigh n → ¬ BeginsLow cs) → Quoted cs text rest →
      Quoted ('\\' :: 'u' :: a :: b :: c :: d :: cs) (ofUnit n :: text) rest
  | pair {a b c d a' b' c' d' : Char} {high low : Nat} {cs text rest : List Char} :
      hexUnit? a b c d = some high → IsHigh high → hexUnit? a' b' c' d' = some low → IsLow low →
      Quoted cs text rest →
      Quoted ('\\' :: 'u' :: a :: b :: c :: d :: '\\' :: 'u' :: a' :: b' :: c' :: d' :: cs)
        (ofPair high low :: text) rest

lemma Quoted.ne_nil {cs text rest : List Char} (h : Quoted cs text rest) : cs ≠ [] := by
  cases h <;> simp

variable {start : Nat}

lemma Quoted.suffix {cs text rest : List Char} (h : Quoted cs text rest) : rest <:+ cs := by
  induction h with
  | closing rest => exact List.suffix_cons _ _
  | plain _ _ _ _ ih => exact ih.trans (List.suffix_cons _ _)
  | letter _ _ _ ih => exact ih.trans (List.suffix_append [_, _] _)
  | unit _ _ _ ih => exact ih.trans (List.suffix_append [_, _, _, _, _, _] _)
  | pair _ _ _ _ _ ih =>
      exact ih.trans (List.suffix_append [_, _, _, _, _, _, _, _, _, _, _, _] _)

lemma taken_readString_nil : taken (readString start []) = none := by
  rw [readString]
  rfl

lemma taken_readString_closing (cs : List Char) :
    taken (readString start ('"' :: cs)) = some ([], cs) := by
  rw [readString.eq_def]
  rfl

lemma taken_readString_plain {c : Char} (cs : List Char) (hquote : c ≠ '"') (hescape : c ≠ '\\')
    (hcontrol : 0x20 ≤ c.toNat) :
    taken (readString start (c :: cs)) =
      (taken (readString start cs)).map fun r => (c :: r.1, r.2) := by
  rw [readString.eq_def]
  simp only [hquote, hescape, Nat.not_lt.mpr hcontrol, ↓reduceIte]
  cases readString start cs <;> rfl

lemma taken_readString_control {c : Char} (cs : List Char) (hquote : c ≠ '"') (hescape : c ≠ '\\')
    (hcontrol : c.toNat < 0x20) : taken (readString start (c :: cs)) = none := by
  rw [readString.eq_def]
  simp only [hquote, hescape, hcontrol, ↓reduceIte]
  rfl

lemma taken_readString_escape_nil : taken (readString start ['\\']) = none := by
  rw [readString.eq_def]
  rfl

lemma taken_readString_letter {e : Char} (cs : List Char) (he : e ≠ 'u') :
    taken (readString start ('\\' :: e :: cs)) =
      (simpleEscape? e).bind fun u =>
        (taken (readString start cs)).map fun r => (u :: r.1, r.2) := by
  rw [readString.eq_def]
  simp only [he, ↓reduceIte, Char.reduceEq]
  cases simpleEscape? e with
  | none => rfl
  | some u =>
      simp only [Option.bind_some]
      cases readString start cs <;> rfl

lemma taken_readString_unicode (cs : List Char) :
    taken (readString start ('\\' :: 'u' :: cs)) =
      (taken (unicodeEscape cs)).bind fun u =>
        (taken (readString start u.2)).map fun r => (u.1 :: r.1, r.2) := by
  rw [readString.eq_def]
  simp only [↓reduceIte, Char.reduceEq]
  cases unicodeEscape cs with
  | error e => rfl
  | ok u =>
      obtain ⟨u, rest, h⟩ := u
      simp only [taken, Option.bind_some]
      cases readString start rest <;> rfl

/-! ## Escapes by number -/

/-- Nothing is taken for a second half but one that the text goes on after; one at the very end is not
looked for. -/
lemma secondHalf?_cases (cs : List Char) :
    (∃ a b c d rest stop, cs = '\\' :: 'u' :: a :: b :: c :: d :: rest ∧
        hexUnit? a b c d = none ∧ secondHalf? cs = .error stop) ∨
      (∃ a b c d low rest h, cs = '\\' :: 'u' :: a :: b :: c :: d :: rest ∧
        hexUnit? a b c d = some low ∧ IsLow low ∧ secondHalf? cs = .ok (some (low, ⟨rest, h⟩))) ∨
      secondHalf? cs = .ok none ∧ (BeginsLow cs → cs.length = 6) := by
  unfold secondHalf?
  split
  · rename_i a b c d e rest
    split
    · rename_i hnone
      exact .inl ⟨a, b, c, d, e :: rest, _, rfl, hnone, rfl⟩
    · rename_i low hlow
      split_ifs with hrange
      · exact .inr (.inl ⟨a, b, c, d, low, e :: rest, by simp, rfl, hlow, hrange, rfl⟩)
      · refine .inr (.inr ⟨rfl, ?_⟩)
        rintro ⟨a', b', c', d', low', rest', heq, hlow', hrange'⟩
        simp only [List.cons.injEq, true_and] at heq
        obtain ⟨rfl, rfl, rfl, rfl, -⟩ := heq
        obtain rfl : low = low' := Option.some.inj (hlow.symm.trans hlow')
        exact absurd hrange' hrange
  · rename_i hshort
    refine .inr (.inr ⟨rfl, ?_⟩)
    rintro ⟨a, b, c, d, low, rest, rfl, -, -⟩
    cases rest with
    | nil => rfl
    | cons e rest => exact absurd rfl (hshort a b c d e rest)

/-- An escape by number goes on, and it stands for a unit or for a pair of units. -/
lemma exists_of_taken_unicodeEscape {cs rest : List Char} {u : Char}
    (h : taken (unicodeEscape cs) = some (u, rest)) :
    ∃ a b c d n tail, cs = a :: b :: c :: d :: tail ∧ hexUnit? a b c d = some n ∧
      ((u = ofUnit n ∧ rest = tail ∧ (IsHigh n → BeginsLow tail → tail.length = 6)) ∨
        ∃ a' b' c' d' low, IsHigh n ∧ tail = '\\' :: 'u' :: a' :: b' :: c' :: d' :: rest ∧
          hexUnit? a' b' c' d' = some low ∧ IsLow low ∧ u = ofPair n low) := by
  unfold unicodeEscape at h
  split at h
  · rename_i a b c d e tail
    split at h
    · simp [taken] at h
    · rename_i n hn
      refine ⟨a, b, c, d, n, e :: tail, rfl, hn, ?_⟩
      split_ifs at h with hhigh
      · rcases secondHalf?_cases (e :: tail) with
          ⟨_, _, _, _, _, stop, -, -, hstop⟩ |
          ⟨a', b', c', d', low, rest', hrest', htail, hlow, hrange, hsecond⟩ | ⟨hnone, hend⟩
        · simp [hstop, taken] at h
        · simp only [hsecond, taken, Option.some.injEq, Prod.mk.injEq] at h
          obtain ⟨rfl, rfl⟩ := h
          exact .inr ⟨a', b', c', d', low, hhigh, htail, hlow, hrange, rfl⟩
        · simp only [hnone, taken, Option.some.injEq, Prod.mk.injEq] at h
          exact .inl ⟨h.1.symm, h.2.symm, fun _ => hend⟩
      · simp only [taken, Option.some.injEq, Prod.mk.injEq] at h
        exact .inl ⟨h.1.symm, h.2.symm, fun hn => absurd hn hhigh⟩
  · simp [taken] at h

/-- A string does not end with an escape by number. -/
lemma Quoted.hexUnit?_isSome {cs text rest : List Char} (h : Quoted ('\\' :: 'u' :: cs) text rest) :
    ∃ a b c d n tail, cs = a :: b :: c :: d :: tail ∧ tail ≠ [] ∧ hexUnit? a b c d = some n := by
  cases h with
  | plain _ hescape _ _ => exact absurd rfl hescape
  | letter hu _ _ => exact absurd rfl hu
  | unit hn _ htail => exact ⟨_, _, _, _, _, _, rfl, htail.ne_nil, hn⟩
  | pair hn _ _ _ _ => exact ⟨_, _, _, _, _, _, rfl, by simp, hn⟩

lemma taken_unicodeEscape_unit {a b c d : Char} {n : Nat} {tail text rest : List Char}
    (hn : hexUnit? a b c d = some n) (hlow : IsHigh n → ¬ BeginsLow tail)
    (htail : Quoted tail text rest) :
    taken (unicodeEscape (a :: b :: c :: d :: tail)) = some (ofUnit n, tail) := by
  obtain ⟨e, tail, rfl⟩ := List.exists_cons_of_ne_nil htail.ne_nil
  unfold unicodeEscape
  simp only [hn]
  split_ifs with hhigh
  · rcases secondHalf?_cases (e :: tail) with
      ⟨a', b', c', d', rest', stop, heq, hnone, -⟩ |
      ⟨a', b', c', d', low, rest', -, heq, hn', hrange, -⟩ | ⟨hnone, -⟩
    · -- what goes on as a string has no flawed number there
      rw [heq] at htail
      obtain ⟨_, _, _, _, n', _, heq', -, hn'⟩ := htail.hexUnit?_isSome
      simp only [List.cons.injEq] at heq'
      obtain ⟨rfl, rfl, rfl, rfl, -⟩ := heq'
      simp [hnone] at hn'
    · exact absurd ⟨a', b', c', d', low, rest', heq, hn', hrange⟩ (hlow hhigh)
    · simp [hnone, taken]
  · rfl

lemma taken_unicodeEscape_pair {a b c d a' b' c' d' : Char} {high low : Nat}
    {tail text rest : List Char} (hhigh : hexUnit? a b c d = some high) (hrange : IsHigh high)
    (hlow : hexUnit? a' b' c' d' = some low) (hrange' : IsLow low) (htail : Quoted tail text rest) :
    taken (unicodeEscape
        (a :: b :: c :: d :: '\\' :: 'u' :: a' :: b' :: c' :: d' :: tail)) =
      some (ofPair high low, tail) := by
  obtain ⟨e, tail, rfl⟩ := List.exists_cons_of_ne_nil htail.ne_nil
  unfold IsHigh at hrange
  unfold IsLow at hrange'
  simp [unicodeEscape, secondHalf?, hhigh, hlow, hrange, hrange', taken]

/-! ## Reading -/

/-- A string does not end with the second half of a pair. -/
lemma Quoted.length_ne_six {cs text rest : List Char} (h : Quoted cs text rest)
    (hlow : BeginsLow cs) : cs.length ≠ 6 := by
  obtain ⟨a, b, c, d, low, tail, rfl, -, -⟩ := hlow
  obtain ⟨_, _, _, _, _, tail', heq, hne, -⟩ := h.hexUnit?_isSome
  simp only [List.cons.injEq] at heq
  obtain ⟨-, -, -, -, rfl⟩ := heq
  simpa using hne

/-- What is read after an escape by number is a string with what the escape stands for, if shorter texts
are read so. -/
lemma quoted_of_taken_unicode {cs text rest : List Char}
    (ih : ∀ tail text rest, tail.length < cs.length →
      taken (readString start tail) = some (text, rest) → Quoted tail text rest)
    (h : taken (readString start ('\\' :: 'u' :: cs)) = some (text, rest)) :
    Quoted ('\\' :: 'u' :: cs) text rest := by
  rw [taken_readString_unicode] at h
  simp only [Option.bind_eq_some_iff, Option.map_eq_some_iff, Prod.mk.injEq, Prod.exists] at h
  obtain ⟨u, left, hunicode, text, rest, hread, rfl, rfl⟩ := h
  have hleft : Quoted left text rest := ih left text rest (of_taken hunicode) hread
  obtain ⟨a, b, c, d, n, tail, rfl, hn, hcase⟩ := exists_of_taken_unicodeEscape hunicode
  rcases hcase with ⟨hu, rfl, hend⟩ | ⟨a', b', c', d', low, hhigh, htail, hlow, hrange, hu⟩
  · rw [hu]
    exact .unit hn (fun hhigh hbegins => hleft.length_ne_six hbegins (hend hhigh hbegins)) hleft
  · rw [hu, htail]
    exact .pair hn hhigh hlow hrange hleft

/-- What is read as a string is one. -/
lemma quoted_of_taken {cs text rest : List Char}
    (h : taken (readString start cs) = some (text, rest)) : Quoted cs text rest := by
  induction hn : cs.length using Nat.strongRecOn generalizing cs text rest with
  | ind n ih =>
      subst hn
      match cs with
      | [] => simp [taken_readString_nil] at h
      | c :: cs =>
          by_cases hquote : c = '"'
          · subst hquote
            simp only [taken_readString_closing, Option.some.injEq, Prod.mk.injEq] at h
            obtain ⟨rfl, rfl⟩ := h
            exact .closing cs
          by_cases hescape : c = '\\'
          · subst hescape
            match cs with
            | [] => simp [taken_readString_escape_nil] at h
            | e :: cs =>
                by_cases hu : e = 'u'
                · subst hu
                  refine quoted_of_taken_unicode (fun tail text rest hlt hread => ?_) h
                  exact ih tail.length (by simp only [List.length_cons]; omega) hread rfl
                · rw [taken_readString_letter cs hu] at h
                  simp only [Option.bind_eq_some_iff, Option.map_eq_some_iff, Prod.mk.injEq,
                    Prod.exists] at h
                  obtain ⟨u, hletter, text, rest, hread, rfl, rfl⟩ := h
                  exact .letter hu hletter (ih cs.length (by simp only [List.length_cons]; omega) hread rfl)
          by_cases hcontrol : 0x20 ≤ c.toNat
          · rw [taken_readString_plain cs hquote hescape hcontrol] at h
            simp only [Option.map_eq_some_iff, Prod.mk.injEq, Prod.exists] at h
            obtain ⟨text, rest, hread, rfl, rfl⟩ := h
            exact .plain hquote hescape hcontrol (ih cs.length (by simp) hread rfl)
          · rw [taken_readString_control cs hquote hescape (Nat.lt_of_not_le hcontrol)] at h
            simp at h

/-- A string is read as what it stands for. -/
lemma Quoted.taken_eq {cs text rest : List Char} (h : Quoted cs text rest) :
    taken (readString start cs) = some (text, rest) := by
  induction h with
  | closing rest => exact taken_readString_closing rest
  | plain hquote hescape hcontrol _ ih =>
      rw [taken_readString_plain _ hquote hescape hcontrol, ih, Option.map_some]
  | letter he hu _ ih =>
      rw [taken_readString_letter _ he, hu, Option.bind_some, ih, Option.map_some]
  | unit hn hlow htail ih =>
      rw [taken_readString_unicode, taken_unicodeEscape_unit hn hlow htail, Option.bind_some, ih,
        Option.map_some]
  | pair hn hhigh hn' hlow htail ih =>
      rw [taken_readString_unicode, taken_unicodeEscape_pair hn hhigh hn' hlow htail,
        Option.bind_some, ih, Option.map_some]

/-- The strings are what is read as such. -/
theorem quoted_iff {cs text rest : List Char} :
    Quoted cs text rest ↔ taken (readString start cs) = some (text, rest) :=
  ⟨Quoted.taken_eq, quoted_of_taken⟩

end Json

end FeatureToggles
