import FeatureToggles.Proofs.Json.Grammar
import FeatureToggles.Text.Newline
import Mathlib.Data.List.Find
import Mathlib.Data.List.TakeWhile

/-!
# Line ends in JSON

A carriage return and a line feed are white space between the parts of a JSON text, and neither of them
can stand inside a part.  So a text that is JSON stays JSON with the same value, and one that is not does
not become any, when its line ends are written in another way, even though the text gets shorter where
two characters become one.

Main statement: `ofChars_unifyNewlines`.
-/

namespace FeatureToggles

namespace Text

/-- Whether a character ends a line, or is a part of what does. -/
def isLineEnd (c : Char) : Bool := c == '\r' || c == '\n'

/-- Of a kind that neither character of a line end is of, no character ends a line. -/
lemma isLineEnd_eq_false {P : Char → Prop} {c : Char} (h : P c) (hreturn : ¬ P '\r')
    (hfeed : ¬ P '\n') : isLineEnd c = false := by
  by_contra hc
  simp only [isLineEnd, Bool.not_eq_false, Bool.or_eq_true, beq_iff_eq] at hc
  rcases hc with rfl | rfl
  · exact hreturn h
  · exact hfeed h

/-- Whether texts are the same but for the way in which their lines end. -/
def SameLines (cs ds : List Char) : Prop := unifyNewlines cs = unifyNewlines ds

lemma unifyNewlines_cons {c : Char} (h : c ≠ '\r') (cs : List Char) :
    unifyNewlines (c :: cs) = c :: unifyNewlines cs := by
  rw [unifyNewlines, if_neg h]
  rintro _ rfl _
  exact h rfl

lemma exists_unifyNewlines_return (cs : List Char) :
    ∃ tail, unifyNewlines ('\r' :: cs) = '\n' :: tail := by
  unfold unifyNewlines
  split
  · simp_all
  · exact ⟨_, rfl⟩
  · rename_i c cs' _ heq
    obtain ⟨rfl, rfl⟩ := List.cons.inj heq
    exact ⟨_, by rw [if_pos rfl]⟩

lemma not_mem_unifyNewlines (cs : List Char) : '\r' ∉ unifyNewlines cs := by
  fun_induction unifyNewlines cs with
  | case1 => simp
  | case2 cs ih => simpa using ih
  | case3 c cs _ ih =>
      by_cases hc : c = '\r'
      · simpa [hc] using ih
      · simpa [hc, Ne.symm hc] using ih

lemma sameLines_unifyNewlines (cs : List Char) : SameLines (unifyNewlines cs) cs :=
  unifyNewlines_of_not_mem (not_mem_unifyNewlines cs)

namespace SameLines

variable {cs ds : List Char}

lemma symm (h : SameLines cs ds) : SameLines ds cs := Eq.symm h

lemma eq_nil (h : SameLines [] ds) : ds = [] := by
  cases ds with
  | nil => rfl
  | cons d ds =>
      unfold SameLines at h
      by_cases hd : d = '\r'
      · subst hd
        obtain ⟨tail, htail⟩ := exists_unifyNewlines_return ds
        simp [htail, unifyNewlines] at h
      · simp [unifyNewlines_cons hd, unifyNewlines] at h

/-- A character that does not end a line stands in both texts. -/
lemma of_cons {c : Char} (hc : isLineEnd c = false) (h : SameLines (c :: cs) ds) :
    ∃ ds', ds = c :: ds' ∧ SameLines cs ds' := by
  simp only [isLineEnd, Bool.or_eq_false_iff, beq_eq_false_iff_ne] at hc
  obtain ⟨hreturn, hfeed⟩ := hc
  unfold SameLines at h
  rw [unifyNewlines_cons hreturn] at h
  cases ds with
  | nil => simp [unifyNewlines] at h
  | cons d ds =>
      by_cases hd : d = '\r'
      · subst hd
        obtain ⟨tail, htail⟩ := exists_unifyNewlines_return ds
        rw [htail, List.cons.injEq] at h
        exact absurd h.1 hfeed
      · rw [unifyNewlines_cons hd, List.cons.injEq] at h
        exact ⟨ds, by rw [h.1], h.2⟩

/-- So do characters of which none ends a line. -/
lemma of_append {w : List Char} (hw : ∀ c ∈ w, isLineEnd c = false) (h : SameLines (w ++ cs) ds) :
    ∃ ds', ds = w ++ ds' ∧ SameLines cs ds' := by
  induction w generalizing ds with
  | nil => exact ⟨ds, rfl, h⟩
  | cons c w ih =>
      obtain ⟨ds₁, rfl, h₁⟩ := h.of_cons (hw c (by simp))
      obtain ⟨ds₂, rfl, h₂⟩ := ih (fun d hd => hw d (by simp [hd])) h₁
      exact ⟨ds₂, rfl, h₂⟩

/-- What follows a beginning in which no line ends is the same again. -/
lemma drop {w : List Char} (hbegins : w <+: cs) (hw : ∀ c ∈ w, isLineEnd c = false)
    (h : SameLines cs ds) : SameLines (cs.drop w.length) (ds.drop w.length) := by
  obtain ⟨tail, rfl⟩ := hbegins
  obtain ⟨ds', rfl, hds⟩ := h.of_append hw
  simpa using hds

end SameLines

/-- What is told by the first character, and by what follows it once the line ends are made one, is told
alike. -/
lemma apply_unifyNewlines {α : Type} {f : List Char → α}
    (hreturn : ∀ cs ds, f ('\n' :: cs) = f ('\r' :: ds))
    (hcons : ∀ c cs, f (c :: unifyNewlines cs) = f (c :: cs)) (cs : List Char) :
    f (unifyNewlines cs) = f cs := by
  cases cs with
  | nil => rfl
  | cons c cs =>
      by_cases hc : c = '\r'
      · subst hc
        obtain ⟨tail, htail⟩ := exists_unifyNewlines_return cs
        rw [htail]
        exact hreturn tail cs
      · rw [unifyNewlines_cons hc]
        exact hcons c cs

lemma SameLines.apply_eq {α : Type} {f : List Char → α} {cs ds : List Char}
    (hf : ∀ cs, f (unifyNewlines cs) = f cs) (h : SameLines cs ds) : f cs = f ds := by
  rw [← hf cs, ← hf ds, h]

/-- Characters of a kind that ends no line are taken alike. -/
lemma takeWhile_unifyNewlines {p : Char → Bool} (hp : ∀ c, isLineEnd c = true → p c = false)
    (cs : List Char) : (unifyNewlines cs).takeWhile p = cs.takeWhile p := by
  have hreturn := hp '\r' rfl
  have hfeed := hp '\n' rfl
  fun_induction unifyNewlines cs with
  | case1 => rfl
  | case2 cs ih => simp [hreturn, hfeed]
  | case3 c cs _ ih =>
      by_cases hc : c = '\r'
      · simp [hc, hreturn, hfeed]
      · simp [hc, List.takeWhile_cons, ih]

end Text

namespace Json

open Text (isLineEnd SameLines unifyNewlines)

/-! ## White space -/

lemma skipSpace_unifyNewlines (cs : List Char) :
    skipSpace (unifyNewlines cs) = unifyNewlines (skipSpace cs) := by
  unfold skipSpace
  fun_induction unifyNewlines cs with
  | case1 => rfl
  | case2 cs ih => simpa [isSpace] using ih
  | case3 c cs hne ih =>
      by_cases hc : c = '\r'
      · simpa [hc, isSpace] using ih
      · rw [if_neg hc, List.dropWhile_cons, List.dropWhile_cons]
        split_ifs
        · exact ih
        · rw [Text.unifyNewlines_cons hc]

lemma sameLines_skipSpace {cs ds : List Char} (h : SameLines cs ds) :
    SameLines (skipSpace cs) (skipSpace ds) := by
  unfold SameLines at h ⊢
  rw [← skipSpace_unifyNewlines, h, skipSpace_unifyNewlines]

/-- What follows white space and a character is the same again, if the character ends no line. -/
lemma exists_skipSpace_cons {c : Char} {cs ds rest : List Char} (hc : isLineEnd c = false)
    (hcs : skipSpace cs = c :: rest) (h : SameLines cs ds) :
    ∃ rest', skipSpace ds = c :: rest' ∧ SameLines rest rest' := by
  have hspace := sameLines_skipSpace h
  rw [hcs] at hspace
  exact hspace.of_cons hc

/-! ## Strings -/

lemma isLineEnd_of_space_le {c : Char} (h : 0x20 ≤ c.toNat) : isLineEnd c = false :=
  Text.isLineEnd_eq_false (P := fun c => 0x20 ≤ c.toNat) h (by decide) (by decide)

lemma isLineEnd_of_simpleEscape? {e u : Char} (h : simpleEscape? e = some u) :
    isLineEnd e = false :=
  Text.isLineEnd_eq_false (P := fun c => simpleEscape? c ≠ none) (by simp [h]) (by decide)
    (by decide)

lemma isLineEnd_of_hexValue? {c : Char} {n : Nat} (h : hexValue? c = some n) :
    isLineEnd c = false :=
  Text.isLineEnd_eq_false (P := fun c => hexValue? c ≠ none) (by simp [h]) (by decide) (by decide)

/-- No line ends in an escape by number. -/
lemma isLineEnd_of_hexUnit? {a b c d : Char} {n : Nat} (h : hexUnit? a b c d = some n) :
    ∀ e ∈ ['\\', 'u', a, b, c, d], isLineEnd e = false := by
  unfold hexUnit? at h
  split at h
  · rename_i ha hb hc hd
    simp only [List.mem_cons, List.not_mem_nil, or_false]
    rintro e (rfl | rfl | rfl | rfl | rfl | rfl)
    · rfl
    · rfl
    · exact isLineEnd_of_hexValue? ha
    · exact isLineEnd_of_hexValue? hb
    · exact isLineEnd_of_hexValue? hc
    · exact isLineEnd_of_hexValue? hd
  · simp at h

lemma beginsLow_of_sameLines {cs ds : List Char} (h : SameLines cs ds) (hlow : BeginsLow cs) :
    BeginsLow ds := by
  obtain ⟨a, b, c, d, low, rest, rfl, hn, hrange⟩ := hlow
  obtain ⟨ds', rfl, -⟩ :=
    Text.SameLines.of_append (w := ['\\', 'u', a, b, c, d]) (isLineEnd_of_hexUnit? hn) h
  exact ⟨a, b, c, d, low, ds', rfl, hn, hrange⟩

/-- A string stays a string. -/
lemma Quoted.sameLines {cs ds text rest : List Char} (h : Quoted cs text rest)
    (hsame : SameLines cs ds) : ∃ rest', SameLines rest rest' ∧ Quoted ds text rest' := by
  induction h generalizing ds with
  | closing rest =>
      obtain ⟨ds', rfl, hds⟩ := hsame.of_cons rfl
      exact ⟨ds', hds, .closing ds'⟩
  | plain hquote hescape hcontrol _ ih =>
      obtain ⟨ds', rfl, hds⟩ := hsame.of_cons (isLineEnd_of_space_le hcontrol)
      obtain ⟨rest', hrest, hquoted⟩ := ih hds
      exact ⟨rest', hrest, .plain hquote hescape hcontrol hquoted⟩
  | letter hu hletter _ ih =>
      obtain ⟨ds₁, rfl, h₁⟩ := hsame.of_cons rfl
      obtain ⟨ds₂, rfl, h₂⟩ := h₁.of_cons (isLineEnd_of_simpleEscape? hletter)
      obtain ⟨rest', hrest, hquoted⟩ := ih h₂
      exact ⟨rest', hrest, .letter hu hletter hquoted⟩
  | @unit a b c d n cs text rest hn hlow _ ih =>
      obtain ⟨ds', rfl, hds⟩ :=
        Text.SameLines.of_append (w := ['\\', 'u', a, b, c, d]) (isLineEnd_of_hexUnit? hn) hsame
      obtain ⟨rest', hrest, hquoted⟩ := ih hds
      exact ⟨rest', hrest,
        .unit hn (fun hhigh hbegins => hlow hhigh (beginsLow_of_sameLines hds.symm hbegins)) hquoted⟩
  | @pair a b c d a' b' c' d' high low cs text rest hn hhigh hn' hlow _ ih =>
      obtain ⟨ds₁, rfl, h₁⟩ :=
        Text.SameLines.of_append (w := ['\\', 'u', a, b, c, d]) (isLineEnd_of_hexUnit? hn) hsame
      obtain ⟨ds₂, rfl, h₂⟩ :=
        Text.SameLines.of_append (w := ['\\', 'u', a', b', c', d']) (isLineEnd_of_hexUnit? hn') h₁
      obtain ⟨rest', hrest, hquoted⟩ := ih h₂
      exact ⟨rest', hrest, .pair hn hhigh hn' hlow hquoted⟩

/-! ## Words and numbers -/

lemma isPrefixOf_sameLines {cs ds w : List Char} (hw : ∀ c ∈ w, isLineEnd c = false)
    (h : SameLines cs ds) : w.isPrefixOf cs = w.isPrefixOf ds := by
  have hone : ∀ {cs ds : List Char}, SameLines cs ds → w <+: cs → w <+: ds := by
    rintro _ ds h ⟨tail, rfl⟩
    obtain ⟨ds', rfl, -⟩ := h.of_append hw
    exact List.prefix_append w ds'
  rw [Bool.eq_iff_iff, List.isPrefixOf_iff_prefix, List.isPrefixOf_iff_prefix]
  exact ⟨hone h, hone h.symm⟩

lemma isLineEnd_of_isDigit {c : Char} (h : c.isDigit = true) : isLineEnd c = false :=
  Text.isLineEnd_eq_false (P := fun c => c.isDigit = true) h (by decide) (by decide)

lemma takeWhile_isDigit_unifyNewlines (cs : List Char) :
    (unifyNewlines cs).takeWhile Char.isDigit = cs.takeWhile Char.isDigit := by
  refine Text.takeWhile_unifyNewlines (fun c hc => ?_) cs
  by_contra hdigit
  simp [isLineEnd_of_isDigit (by simpa using hdigit)] at hc

lemma isNegative_unifyNewlines (cs : List Char) :
    isNegative (unifyNewlines cs) = isNegative cs :=
  Text.apply_unifyNewlines (fun _ _ => rfl) (fun _ _ => rfl) cs

lemma wholeDigits_unifyNewlines (cs : List Char) :
    wholeDigits (unifyNewlines cs) = wholeDigits cs := by
  refine Text.apply_unifyNewlines (fun _ _ => rfl) (fun c cs => ?_) cs
  rw [wholeDigits, wholeDigits, takeWhile_isDigit_unifyNewlines]

lemma fractionPart_unifyNewlines (cs : List Char) :
    fractionPart (unifyNewlines cs) = fractionPart cs := by
  refine Text.apply_unifyNewlines (fun _ _ => rfl) (fun c cs => ?_) cs
  by_cases hpoint : c = '.'
  · subst hpoint
    simp only [fractionPart, takeWhile_isDigit_unifyNewlines]
  · simp [fractionPart, hpoint]

lemma exponentSign_unifyNewlines (cs : List Char) :
    exponentSign (unifyNewlines cs) = exponentSign cs :=
  Text.apply_unifyNewlines (fun _ _ => rfl) (fun _ _ => rfl) cs

/-! No line ends in the parts of a number. -/

lemma isLineEnd_of_mem_digits {cs : List Char} :
    ∀ c ∈ cs.takeWhile Char.isDigit, isLineEnd c = false :=
  fun _ hc => isLineEnd_of_isDigit (List.mem_takeWhile_imp hc)

lemma isLineEnd_of_mem_wholeDigits {cs : List Char} : ∀ c ∈ wholeDigits cs, isLineEnd c = false := by
  cases cs with
  | nil => simp [wholeDigits]
  | cons d cs =>
      simp only [wholeDigits]
      split_ifs with hzero hdigit
      · simp [hzero, isLineEnd]
      · simpa [isLineEnd_of_isDigit hdigit] using isLineEnd_of_mem_digits
      · simp

lemma isLineEnd_of_mem_fractionPart {cs : List Char} :
    ∀ c ∈ fractionPart cs, isLineEnd c = false := by
  unfold fractionPart
  split
  · rename_i rest
    simp only
    split_ifs
    · simp
    · have hpoint : isLineEnd '.' = false := rfl
      simpa [hpoint] using isLineEnd_of_mem_digits
  · simp

lemma isLineEnd_of_mem_exponentSign {cs : List Char} :
    ∀ c ∈ exponentSign cs, isLineEnd c = false := by
  cases cs with
  | nil => simp [exponentSign]
  | cons s cs =>
      simp only [exponentSign]
      split_ifs with hsign
      · rcases hsign with rfl | rfl <;> simp [isLineEnd]
      · simp

lemma isLineEnd_of_mem_exponentPart {cs : List Char} :
    ∀ c ∈ exponentPart cs, isLineEnd c = false := by
  cases cs with
  | nil => simp [exponentPart]
  | cons c cs =>
      rw [exponentPart_cons]
      split_ifs with hexponent
      · have hletter : isLineEnd c = false := by
          rcases hexponent.1 with rfl | rfl <;> rfl
        intro d hd
        rcases List.mem_cons.mp hd with rfl | hd
        · exact hletter
        · rcases List.mem_append.mp hd with hd | hd
          · exact isLineEnd_of_mem_exponentSign d hd
          · exact isLineEnd_of_mem_digits d hd
      · simp

lemma exponentPart_unifyNewlines (cs : List Char) :
    exponentPart (unifyNewlines cs) = exponentPart cs := by
  refine Text.apply_unifyNewlines (fun _ _ => rfl) (fun c cs => ?_) cs
  have hsign := exponentSign_unifyNewlines cs
  have hbegins := isPrefix_exponentSign (unifyNewlines cs)
  have hdrop := (Text.sameLines_unifyNewlines cs).drop hbegins isLineEnd_of_mem_exponentSign
  rw [hsign] at hdrop
  rw [exponentPart_cons, exponentPart_cons, hsign,
    hdrop.apply_eq takeWhile_isDigit_unifyNewlines]

/-! The parts of a number and what follows it. -/

lemma sameLines_unsigned {cs ds : List Char} (h : SameLines cs ds) :
    SameLines (unsigned cs) (unsigned ds) := by
  unfold unsigned
  rw [h.apply_eq isNegative_unifyNewlines]
  split_ifs with hnegative
  · rw [← h.apply_eq isNegative_unifyNewlines] at hnegative
    obtain ⟨tail, rfl⟩ : ∃ tail, cs = '-' :: tail := by
      cases cs with
      | nil => simp [isNegative] at hnegative
      | cons c cs => exact ⟨cs, by simpa [isNegative] using hnegative⟩
    obtain ⟨ds', rfl, hds⟩ := h.of_cons rfl
    exact hds
  · exact h

section

variable {body body' : List Char} (h : SameLines body body')

include h

lemma sameLines_afterWhole :
    SameLines (body.drop (wholeDigits body).length) (body'.drop (wholeDigits body').length) := by
  rw [← h.apply_eq wholeDigits_unifyNewlines]
  exact h.drop (isPrefix_wholeDigits body) isLineEnd_of_mem_wholeDigits

lemma fractionAfter_eq : fractionAfter body = fractionAfter body' := by
  unfold fractionAfter
  exact (sameLines_afterWhole h).apply_eq fractionPart_unifyNewlines

lemma sameLines_afterFraction :
    SameLines (body.drop ((wholeDigits body).length + (fractionAfter body).length))
      (body'.drop ((wholeDigits body').length + (fractionAfter body').length)) := by
  rw [← fractionAfter_eq h, ← List.drop_drop, ← List.drop_drop]
  exact (sameLines_afterWhole h).drop (isPrefix_fractionPart _) isLineEnd_of_mem_fractionPart

lemma exponentAfter_eq : exponentAfter body = exponentAfter body' := by
  unfold exponentAfter
  exact (sameLines_afterFraction h).apply_eq exponentPart_unifyNewlines

lemma sameLines_afterNumber : SameLines (afterNumber body) (afterNumber body') := by
  unfold afterNumber
  have hlength := congrArg List.length (exponentAfter_eq h)
  rw [← List.drop_drop (i := (exponentAfter body).length), ← hlength,
    ← List.drop_drop (i := (exponentAfter body).length)]
  exact (sameLines_afterFraction h).drop (isPrefix_exponentPart _) isLineEnd_of_mem_exponentPart

end

/-- A number stays the same number. -/
lemma taken_readNumber_sameLines {cs ds rest : List Char} {j : Json} (h : SameLines cs ds)
    (hread : taken (readNumber cs) = some (j, rest)) :
    ∃ rest', SameLines rest rest' ∧ taken (readNumber ds) = some (j, rest') := by
  have hbody := sameLines_unsigned h
  rw [taken_readNumber] at hread
  split_ifs at hread with hempty
  simp only [Option.map_eq_some_iff, Prod.mk.injEq] at hread
  obtain ⟨j, hnumber, rfl, rfl⟩ := hread
  refine ⟨afterNumber (unsigned ds), sameLines_afterNumber hbody, ?_⟩
  rw [taken_readNumber, ← hbody.apply_eq wholeDigits_unifyNewlines, if_neg hempty,
    ← h.apply_eq isNegative_unifyNewlines, ← fractionAfter_eq hbody, ← exponentAfter_eq hbody,
    hnumber, Option.map_some]

/-- No line ends in a word. -/
lemma isLineEnd_of_mem_wordValues {word : List Char × Json} (h : word ∈ wordValues) :
    ∀ c ∈ word.1, isLineEnd c = false := by
  have hall : wordValues.all (fun word => word.1.all fun c => !isLineEnd c) = true := by decide
  simpa using List.all_eq_true.mp hall word h

/-- A word or a number stays the same. -/
lemma taken_readScalar_sameLines {cs ds rest : List Char} {j : Json} (h : SameLines cs ds)
    (hread : taken (readScalar cs) = some (j, rest)) :
    ∃ rest', SameLines rest rest' ∧ taken (readScalar ds) = some (j, rest') := by
  have hfind : (wordValues.find? fun word => word.1.isPrefixOf cs) =
      wordValues.find? fun word => word.1.isPrefixOf ds :=
    List.find?_congr fun word hword => isPrefixOf_sameLines (isLineEnd_of_mem_wordValues hword) h
  rw [taken_readScalar] at hread
  rw [taken_readScalar, ← hfind]
  split at hread
  · rename_i word j' hword
    simp only [Option.some.injEq, Prod.mk.injEq] at hread
    obtain ⟨rfl, rfl⟩ := hread
    have hbegins : word <+: cs := by
      simpa [List.isPrefixOf_iff_prefix] using List.find?_some hword
    have hmem := List.mem_of_find?_eq_some hword
    exact ⟨ds.drop word.length, h.drop hbegins (isLineEnd_of_mem_wordValues hmem), rfl⟩
  · exact taken_readNumber_sameLines h hread

/-- No value begins with the end of a line. -/
lemma isLineEnd_of_isStart {c : Char} (h : isStart c = true) : isLineEnd c = false :=
  Text.isLineEnd_eq_false (P := fun c => isStart c = true) h (by decide) (by decide)

/-! ## Documents -/

/-- A part that begins a text stays the same. -/
lemma Derives.sameLines {cs ds rest : List Char} {part : Part} (h : Derives cs part rest)
    (hsame : SameLines cs ds) : ∃ rest', SameLines rest rest' ∧ Derives ds part rest' := by
  induction h generalizing ds with
  | string hquoted =>
      obtain ⟨ds', rfl, hds⟩ := hsame.of_cons rfl
      obtain ⟨rest', hrest, hquoted'⟩ := hquoted.sameLines hds
      exact ⟨rest', hrest, .string hquoted'⟩
  | emptyArray hclosing =>
      obtain ⟨ds', rfl, hds⟩ := hsame.of_cons rfl
      obtain ⟨rest', hclosing', hrest⟩ := exists_skipSpace_cons rfl hclosing hds
      exact ⟨rest', hrest, .emptyArray hclosing'⟩
  | array _ ih =>
      obtain ⟨ds', rfl, hds⟩ := hsame.of_cons rfl
      obtain ⟨rest', hrest, hitems⟩ := ih (sameLines_skipSpace hds)
      exact ⟨rest', hrest, .array hitems⟩
  | emptyObject hclosing =>
      obtain ⟨ds', rfl, hds⟩ := hsame.of_cons rfl
      obtain ⟨rest', hclosing', hrest⟩ := exists_skipSpace_cons rfl hclosing hds
      exact ⟨rest', hrest, .emptyObject hclosing'⟩
  | object _ ih =>
      obtain ⟨ds', rfl, hds⟩ := hsame.of_cons rfl
      obtain ⟨rest', hrest, hfields⟩ := ih (sameLines_skipSpace hds)
      exact ⟨rest', hrest, .object hfields⟩
  | scalar hstring harray hobject hread =>
      obtain ⟨ds', rfl, hds⟩ :=
        hsame.of_cons (isLineEnd_of_isStart (isStart_of_taken_readScalar hread))
      obtain ⟨rest', hrest, hread'⟩ := taken_readScalar_sameLines hsame hread
      exact ⟨rest', hrest, .scalar hstring harray hobject hread'⟩
  | lastItem _ hclosing ih =>
      obtain ⟨rest₁, hrest₁, hvalue⟩ := ih hsame
      obtain ⟨rest', hclosing', hrest⟩ := exists_skipSpace_cons rfl hclosing hrest₁
      exact ⟨rest', hrest, .lastItem hvalue hclosing'⟩
  | item _ hcomma _ ih ihitems =>
      obtain ⟨rest₁, hrest₁, hvalue⟩ := ih hsame
      obtain ⟨rest₂, hcomma', hrest₂⟩ := exists_skipSpace_cons rfl hcomma hrest₁
      obtain ⟨rest', hrest, hitems⟩ := ihitems (sameLines_skipSpace hrest₂)
      exact ⟨rest', hrest, .item hvalue hcomma' hitems⟩
  | lastField hkey hcolon _ hclosing ih =>
      obtain ⟨ds', rfl, hds⟩ := hsame.of_cons rfl
      obtain ⟨rest₁, hrest₁, hkey'⟩ := hkey.sameLines hds
      obtain ⟨rest₂, hcolon', hrest₂⟩ := exists_skipSpace_cons rfl hcolon hrest₁
      obtain ⟨rest₃, hrest₃, hvalue⟩ := ih (sameLines_skipSpace hrest₂)
      obtain ⟨rest', hclosing', hrest⟩ := exists_skipSpace_cons rfl hclosing hrest₃
      exact ⟨rest', hrest, .lastField hkey' hcolon' hvalue hclosing'⟩
  | field hkey hcolon _ hcomma _ ih ihfields =>
      obtain ⟨ds', rfl, hds⟩ := hsame.of_cons rfl
      obtain ⟨rest₁, hrest₁, hkey'⟩ := hkey.sameLines hds
      obtain ⟨rest₂, hcolon', hrest₂⟩ := exists_skipSpace_cons rfl hcolon hrest₁
      obtain ⟨rest₃, hrest₃, hvalue⟩ := ih (sameLines_skipSpace hrest₂)
      obtain ⟨rest₄, hcomma', hrest₄⟩ := exists_skipSpace_cons rfl hcomma hrest₃
      obtain ⟨rest', hrest, hfields⟩ := ihfields (sameLines_skipSpace hrest₄)
      exact ⟨rest', hrest, .field hkey' hcolon' hvalue hcomma' hfields⟩

lemma ofChars_eq_ok_of_sameLines {cs ds : List Char} {j : Json} (hsame : SameLines cs ds)
    (h : ofChars cs = .ok j) : ofChars ds = .ok j := by
  rw [ofChars_eq_ok_iff, readDocument_eq_ok_iff] at h ⊢
  obtain ⟨hmark, rest, hvalue, hend⟩ := h
  obtain ⟨rest', hrest, hvalue'⟩ := hvalue.sameLines (sameLines_skipSpace hsame)
  have hend' := sameLines_skipSpace hrest
  rw [hend] at hend'
  refine ⟨fun hmark' => hmark ?_, rest', hvalue', hend'.eq_nil⟩
  obtain ⟨tail, rfl⟩ := List.head?_eq_some_iff.mp hmark'
  obtain ⟨tail', rfl, -⟩ := hsame.symm.of_cons rfl
  rfl

/-- A document has the value that it has when its line ends are made one. -/
theorem ofChars_unifyNewlines {cs : List Char} {j : Json} :
    ofChars (unifyNewlines cs) = .ok j ↔ ofChars cs = .ok j :=
  ⟨ofChars_eq_ok_of_sameLines (Text.sameLines_unifyNewlines cs),
    ofChars_eq_ok_of_sameLines (Text.sameLines_unifyNewlines cs).symm⟩

end Json

end FeatureToggles
