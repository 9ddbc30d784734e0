import FeatureToggles.Proofs.Expr.Lexeme

/-!
# Texts one after the other

White space and parentheses end every lexeme that they stand after, so the tokens of a text do not
change when another text follows that begins with one of them.  In particular a row of words with
spaces between them is cut into just these words.  Where anything else follows, what is read at the
place of a lexeme is no shorter than this.

Main statements: `scan_append` and `scan_spaced`, and `Lexeme.exists_begins`.
-/

namespace FeatureToggles

namespace Token

/-! ## Separators -/

/-- The characters that no lexeme goes on with: white space and parentheses. -/
def IsSeparator (c : Char) : Prop := Text.isBlank c = true ∨ c = '(' ∨ c = ')'

/-- Whether no lexeme goes on into a text. -/
def Breaks (cs : List Char) : Prop := ∀ c ∈ cs.head?, IsSeparator c

lemma isDigit_eq_false_of_isSeparator {c : Char} (h : IsSeparator c) : Text.isDigit c = false := by
  rcases h with hblank | rfl | rfl
  · exact (begins_nothing_of_isBlank hblank).2.1
  · decide
  · decide

lemma isIdentRest_eq_false_of_isSeparator {c : Char} (h : IsSeparator c) :
    isIdentRest c = false := by
  have hdigit : c.isDigit = false := by
    by_contra hc
    have := Text.isDigit_of_isDigit (by simpa using hc : c.isDigit = true)
    simp [isDigit_eq_false_of_isSeparator h] at this
  have hstart : isIdentStart c = false := by
    rcases h with hblank | rfl | rfl
    · exact (begins_nothing_of_isBlank hblank).2.2.1
    · decide
    · decide
  simp only [isIdentStart, Bool.or_eq_false_iff] at hstart
  simp [isIdentRest, Char.isAlphanum, hdigit, hstart]

lemma ne_point_of_isSeparator {c : Char} (h : IsSeparator c) : c ≠ '.' := by
  rcases h with hblank | rfl | rfl
  · exact (begins_nothing_of_isBlank hblank).2.2.2.1
  · decide
  · decide

lemma isDoubleOperator_eq_false_of_isSeparator {c d : Char} (h : IsSeparator d) :
    isDoubleOperator c d = false := by
  have hne : ∀ e : Char, Text.isBlank e = false → e ≠ '(' → e ≠ ')' → d ≠ e := by
    rintro e hblank hopening hclosing rfl
    rcases h with h | h | h
    · simp [hblank] at h
    · exact hopening h
    · exact hclosing h
  unfold isDoubleOperator
  split
  case h_8 => rfl
  all_goals exact absurd rfl (hne _ (by decide) (by decide) (by decide))

/-! ## Lexemes in longer texts -/

lemma takeWhile_append_of_head {p : Char → Bool} {rest : List Char}
    (h : ∀ c ∈ rest.head?, p c = false) (cs : List Char) :
    (cs ++ rest).takeWhile p = cs.takeWhile p ∧
      (cs ++ rest).dropWhile p = cs.dropWhile p ++ rest := by
  induction cs with
  | nil =>
      cases rest with
      | nil => simp
      | cons c rest => simp [h c rfl]
  | cons c cs ih =>
      cases hc : p c <;> simp [hc, ih]

lemma closing?_append {cs : List Char} {n : Nat} (h : closing? cs = some n) (rest : List Char) :
    closing? (cs ++ rest) = some n := by
  fun_induction closing? cs generalizing n with
  | case1 => simp at h
  | case2 => simpa [closing?] using h
  | case3 => simp at h
  | case4 => simp at h
  | case5 c cs hc ih =>
      obtain ⟨m, hm, rfl⟩ := Option.map_eq_some_iff.1 h
      simp [closing?, hc, ih hm]
  | case6 c cs hquote hlast hback ih =>
      obtain ⟨m, hm, rfl⟩ := Option.map_eq_some_iff.1 h
      -- a backslash would have been followed by a character or by nothing
      have hne : c ≠ '\\' := by
        rintro rfl
        cases cs with
        | nil => exact hlast rfl rfl
        | cons d ds => exact hback d ds rfl rfl
      rw [List.cons_append, closing?.eq_5 _ _ (fun hc => hquote hc) (fun hc _ => hne hc)
        (fun d ds hc _ => hne hc), ih hm]
      rfl

lemma numberTail_append {rest : List Char} (h : Breaks rest) (cs : List Char) :
    numberTail (cs ++ rest) = numberTail cs := by
  have hdigit : ∀ c ∈ rest.head?, Text.isDigit c = false :=
    fun c hc => isDigit_eq_false_of_isSeparator (h c hc)
  unfold numberTail
  rw [(takeWhile_append_of_head hdigit cs).1, (takeWhile_append_of_head hdigit cs).2]
  cases hcs : cs.dropWhile Text.isDigit with
  | nil =>
      cases rest with
      | nil => rfl
      | cons c rest =>
          have hpoint := ne_point_of_isSeparator (h c rfl)
          simp only [List.nil_append]
          split
          · rename_i heq
            exact absurd (List.cons.inj heq).1 hpoint
          · rfl
  | cons c ds =>
      by_cases hc : c = '.'
      · subst hc
        simp only [List.cons_append, (takeWhile_append_of_head hdigit ds).1]
      · simp only [List.cons_append]
        split
        · rename_i heq
          exact absurd (List.cons.inj heq).1 hc
        · split
          · rename_i heq
            exact absurd (List.cons.inj heq).1 hc
          · rfl

lemma numberTail_le (cs : List Char) : numberTail cs ≤ cs.length := by
  have hsplit : (cs.takeWhile Text.isDigit).length + (cs.dropWhile Text.isDigit).length =
      cs.length := by
    rw [← List.length_append, List.takeWhile_append_dropWhile]
  unfold numberTail
  split
  · rename_i rest hrest
    have hfraction := (List.takeWhile_prefix Text.isDigit (l := rest)).length_le
    rw [hrest, List.length_cons] at hsplit
    dsimp only
    split <;> omega
  · dsimp only
    omega

lemma operatorTail?_le {c : Char} {cs : List Char} {n : Nat} (h : operatorTail? c cs = some n) :
    n ≤ cs.length := by
  unfold operatorTail? at h
  split_ifs at h with hdouble hsingle
  · obtain rfl := Option.some.inj h
    cases cs with
    | nil => simp at hdouble
    | cons d ds => simp
  · obtain rfl := Option.some.inj h
    exact Nat.zero_le _

/-- A lexeme ends within its text. -/
lemma Begins.le {c : Char} {cs : List Char} {kind? : Option Kind} {n : Nat}
    (h : Begins c cs kind? n) : n ≤ cs.length := by
  cases h with
  | string hn => exact closing?_le hn
  | number => exact numberTail_le cs
  | ident | blank => exact (List.takeWhile_prefix _).length_le
  | dot | opening | closing => exact Nat.zero_le _
  | op hn => exact operatorTail?_le hn

/-- A lexeme stays what it is when a text follows into which no lexeme goes on. -/
lemma Begins.append {c : Char} {cs rest : List Char} {kind : Kind} {n : Nat}
    (h : Begins c cs (some kind) n) (hrest : Breaks rest) : Begins c (cs ++ rest) (some kind) n := by
  cases h with
  | string hn => exact .string (closing?_append hn rest)
  | number hc =>
      rw [← numberTail_append hrest cs]
      exact .number hc
  | ident hc =>
      have hhead : ∀ d ∈ rest.head?, isIdentRest d = false :=
        fun d hd => isIdentRest_eq_false_of_isSeparator (hrest d hd)
      rw [← (takeWhile_append_of_head hhead cs).1]
      exact .ident hc
  | dot => exact .dot
  | opening => exact .opening
  | closing => exact .closing
  | op hn =>
      have htail : operatorTail? c (cs ++ rest) = operatorTail? c cs := by
        unfold operatorTail?
        cases cs with
        | cons d ds => rfl
        | nil =>
            cases rest with
            | nil => rfl
            | cons d ds => simp [isDoubleOperator_eq_false_of_isSeparator (hrest d rfl)]
      exact .op (htail.trans hn)

/-! ## Where lexemes stand -/

lemma closing?_of_spells {body s : List Char} (h : Spells body s) :
    closing? (body ++ ['"']) = some (body ++ ['"']).length := by
  induction h with
  | nil => rfl
  | @plain c cs ds hquote hback _ ih =>
      rw [List.cons_append, closing?.eq_5 _ _ (fun hc => hquote hc) (fun hc _ => hback hc)
        (fun d ds hc _ => hback hc), ih]
      rfl
  | @escaped c cs ds hc _ ih =>
      simp [closing?, hc, ih]

/-- A number goes on for the digits that follow. -/
lemma length_le_numberTail {ds : List Char} (h : ∀ d ∈ ds, Text.isDigit d = true)
    (rest : List Char) : ds.length ≤ numberTail (ds ++ rest) := by
  have hwhole := congrArg List.length (@List.takeWhile_append_of_pos _ _ _ rest h)
  rw [List.length_append] at hwhole
  unfold numberTail
  split
  · dsimp only
    split <;> omega
  · dsimp only
    omega

/-- A number goes on for a point with digits around it. -/
lemma length_le_numberTail_of_point {whole fraction : List Char}
    (hwhole : ∀ d ∈ whole, Text.isDigit d = true) (hfraction : IsDigits fraction)
    (rest : List Char) :
    (whole ++ '.' :: fraction).length ≤ numberTail (whole ++ '.' :: fraction ++ rest) := by
  have hpoint : Text.isDigit '.' = false := by decide
  obtain ⟨hne, hdigits⟩ := hfraction
  unfold numberTail
  rw [List.append_assoc, List.takeWhile_append_of_pos hwhole, List.dropWhile_append_of_pos hwhole,
    List.cons_append, List.takeWhile_cons_of_neg (by simp [hpoint]),
    List.dropWhile_cons_of_neg (by simp [hpoint]), List.append_nil]
  have htaken : (fraction ++ rest.takeWhile Text.isDigit).isEmpty = false := by simp [hne]
  simp only [List.takeWhile_append_of_pos hdigits, htaken, Bool.false_eq_true, ↓reduceIte,
    List.length_append, List.length_cons]
  omega

/-- An operator goes on for the rest of one that stands there. -/
lemma exists_operatorTail? {c : Char} {cs : List Char} (h : c :: cs ∈ operators)
    (rest : List Char) : ∃ n, cs.length ≤ n ∧ operatorTail? c (cs ++ rest) = some n := by
  have hall : (operators.all fun op => op.head?.all fun c =>
      operatorTail? c op.tail == some op.tail.length) = true := by decide
  have hc := List.all_eq_true.mp hall _ h
  rw [List.head?_cons, Option.all_some, beq_iff_eq] at hc
  cases cs with
  | cons d ds => exact ⟨_, le_rfl, hc⟩
  | nil =>
      -- an operator of one character may go on as one of two
      unfold operatorTail? at hc ⊢
      split_ifs with hdouble hsingle
      · exact ⟨1, Nat.zero_le _, rfl⟩
      · exact ⟨0, le_rfl, rfl⟩
      · simp [hsingle] at hc

/-- Where a lexeme stands, one begins that is no shorter. -/
lemma Lexeme.exists_begins {kind : Kind} {c : Char} {cs : List Char} (h : Lexeme kind (c :: cs))
    (rest : List Char) : ∃ n, cs.length ≤ n ∧ Begins c (cs ++ rest) (some kind) n := by
  generalize hslice : c :: cs = slice at h
  cases h with
  | string hspells =>
      obtain ⟨rfl, rfl⟩ := List.cons.inj hslice
      exact ⟨_, le_rfl, .string (closing?_append (closing?_of_spells hspells) rest)⟩
  | integer hds =>
      subst hslice
      obtain ⟨hc, hcs⟩ := List.forall_mem_cons.mp hds.2
      exact ⟨_, length_le_numberTail hcs rest, .number hc⟩
  | @decimal whole fraction hwhole hfraction =>
      obtain ⟨d, ds, rfl⟩ := List.exists_cons_of_ne_nil hwhole.1
      obtain ⟨rfl, rfl⟩ := List.cons.inj hslice
      obtain ⟨hc, hds⟩ := List.forall_mem_cons.mp hwhole.2
      exact ⟨_, length_le_numberTail_of_point hds hfraction rest, .number hc⟩
  | ident hident =>
      obtain ⟨d, ds, rfl, hd, hds⟩ := hident
      obtain ⟨rfl, rfl⟩ := List.cons.inj hslice
      refine ⟨_, ?_, .ident hd⟩
      rw [List.takeWhile_append_of_pos hds, List.length_append]
      exact Nat.le_add_right _ _
  | op hmem =>
      subst hslice
      obtain ⟨n, hle, hn⟩ := exists_operatorTail? hmem rest
      exact ⟨n, hle, .op hn⟩
  | dot =>
      obtain ⟨rfl, rfl⟩ := List.cons.inj hslice
      exact ⟨0, le_rfl, .dot⟩
  | opening =>
      obtain ⟨rfl, rfl⟩ := List.cons.inj hslice
      exact ⟨0, le_rfl, .opening⟩
  | closing =>
      obtain ⟨rfl, rfl⟩ := List.cons.inj hslice
      exact ⟨0, le_rfl, .closing⟩

/-- A lexeme takes up the whole of its text. -/
lemma Lexeme.begins {kind : Kind} {c : Char} {cs : List Char} (h : Lexeme kind (c :: cs)) :
    Begins c cs (some kind) cs.length := by
  obtain ⟨n, hle, hbegins⟩ := h.exists_begins []
  rw [List.append_nil] at hbegins
  rwa [Nat.le_antisymm hle hbegins.le]

/-! ## Scans of longer texts -/

/-- White space is dropped character by character. -/
lemma scan_of_isBlank {c : Char} (h : Text.isBlank c = true) (position : Nat) (cs : List Char) :
    scan position (c :: cs) = scan (position + 1) cs := by
  rw [scan_blank (lexeme?_eq_some_iff.mpr (.blank h))]
  cases cs with
  | nil => rfl
  | cons d ds =>
      cases hd : Text.isBlank d with
      | false => simp [hd]
      | true =>
          have hposition : ∀ n, position + 1 + (n + 1) = position + 1 + 1 + n := by omega
          rw [scan_blank (lexeme?_eq_some_iff.mpr (.blank hd)), List.takeWhile_cons_of_pos hd,
            List.length_cons, List.drop_succ_cons, hposition]

/-- The tokens of a text followed by those of another one that no lexeme goes on into. -/
theorem scan_append {position : Nat} {cs rest : List Char} {ts : List Token}
    (h : scan position cs = .ok ts) (hrest : Breaks rest) :
    scan position (cs ++ rest) = (scan (position + cs.length) rest).map (ts ++ ·) := by
  match cs with
  | [] =>
      obtain rfl : [] = ts := by simpa using h
      cases hscan : scan position rest <;> simp [hscan, Except.map]
  | c :: cs =>
      cases hlexeme : lexeme? c cs with
      | none => simp [scan_error hlexeme] at h
      | some lexeme =>
          obtain ⟨kind?, n⟩ := lexeme
          cases kind? with
          | none =>
              -- white space may go on in the other text, so only one character of it is dropped
              have hblank : Text.isBlank c = true := by
                cases lexeme?_eq_some_iff.mp hlexeme with
                | blank hc => exact hc
              rw [scan_of_isBlank hblank] at h
              rw [List.cons_append, scan_of_isBlank hblank, scan_append h hrest, List.length_cons,
                Nat.add_assoc, Nat.add_comm 1]
          | some kind =>
              obtain ⟨us, hus, rfl⟩ := (scan_token_eq_ok_iff hlexeme).mp h
              have hbegins := lexeme?_eq_some_iff.mp hlexeme
              have hle := hbegins.le
              have hposition : position + 1 + n + (cs.drop n).length =
                  position + (c :: cs).length := by
                simp only [List.length_drop, List.length_cons]
                omega
              rw [List.cons_append, scan_token (lexeme?_eq_some_iff.mpr (hbegins.append hrest)),
                List.drop_append_of_le_length hle, List.take_append_of_le_length hle,
                scan_append hus hrest, hposition]
              cases scan (position + (c :: cs).length) rest <;> rfl
termination_by cs.length
decreasing_by all_goals simp only [List.length_drop, List.length_cons]; omega

/-! ## Words -/

lemma isIdentifier_of_mem_keywords {cs : List Char} (h : cs ∈ keywords) :
    IsIdentifier cs ∧ cs.map Char.toLower = cs := by
  have hall : (keywords.all fun cs => cs.head?.any isIdentStart && cs.tail.all isIdentRest &&
      cs.map Char.toLower == cs) = true := by decide
  have hcs := List.all_eq_true.mp hall cs h
  cases cs with
  | nil => simp at hcs
  | cons c cs =>
      simp only [List.head?_cons, Option.any_some, List.tail_cons, Bool.and_eq_true,
        List.all_eq_true, beq_iff_eq] at hcs
      exact ⟨⟨c, cs, rfl, hcs.1.1, hcs.1.2⟩, hcs.2⟩

/-- The text of a token of any class is the lexeme that makes the token. -/
lemma Lexical.exists_lexeme {kind : Kind} {text : List Char} (h : Lexical kind text) :
    ∃ kind', Lexeme kind' text ∧ ∀ position, ofLexeme kind' text position = ⟨kind, text, position⟩ := by
  cases h with
  | string hspells => exact ⟨_, .string hspells, fun _ => rfl⟩
  | integer hds => exact ⟨_, .integer hds, fun _ => by simp [ofLexeme]⟩
  | decimal hwhole hfraction => exact ⟨_, .decimal hwhole hfraction, fun _ => by simp [ofLexeme]⟩
  | ident hident hkeyword => exact ⟨_, .ident hident, fun _ => by simp [ofLexeme, hkeyword]⟩
  | keyword hmem =>
      obtain ⟨hident, hlower⟩ := isIdentifier_of_mem_keywords hmem
      exact ⟨_, .ident hident, fun _ => by simp [ofLexeme, hlower, hmem]⟩
  | op hmem => exact ⟨_, .op hmem, fun _ => by simp [ofLexeme]⟩
  | dot => exact ⟨_, .dot, fun _ => rfl⟩
  | opening => exact ⟨_, .opening, fun _ => rfl⟩
  | closing => exact ⟨_, .closing, fun _ => rfl⟩

/-- The text of a token of any class is cut into just this token. -/
theorem scan_of_lexical {kind : Kind} {text : List Char} (h : Lexical kind text) (position : Nat) :
    scan position text = .ok [⟨kind, text, position⟩] := by
  obtain ⟨kind', hlexeme, htoken⟩ := h.exists_lexeme
  obtain ⟨c, cs, rfl⟩ := List.exists_cons_of_ne_nil hlexeme.ne_nil
  rw [scan_token (lexeme?_eq_some_iff.mpr hlexeme.begins), List.drop_length, List.take_length,
    scan_nil, htoken]
  rfl

/-- Words with a space between any two of them. -/
def spaced : List (List Char) → List Char
  | [] => []
  | [w] => w
  | w :: v :: ws => w ++ ' ' :: spaced (v :: ws)

/-- A row of words is cut into these words. -/
theorem scan_spaced {ws : List (Kind × List Char)} (h : ∀ w ∈ ws, Lexical w.1 w.2)
    (position : Nat) :
    ∃ ts, scan position (spaced (ws.map Prod.snd)) = .ok ts ∧ ts.map word = ws := by
  induction ws generalizing position with
  | nil => exact ⟨[], scan_nil position, rfl⟩
  | cons w ws ih =>
      have hw := scan_of_lexical (h w (by simp)) position
      cases ws with
      | nil => exact ⟨[⟨w.1, w.2, position⟩], hw, rfl⟩
      | cons v ws =>
          have hbreaks : Breaks (' ' :: spaced ((v :: ws).map Prod.snd)) := by
            intro c hc
            obtain rfl : ' ' = c := by simpa using hc
            exact .inl (by decide)
          obtain ⟨ts, hts, hwords⟩ := ih (fun u hu => h u (by simp [hu])) (position + w.2.length + 1)
          refine ⟨⟨w.1, w.2, position⟩ :: ts, ?_, by simp [hwords, word]⟩
          rw [List.map_cons, List.map_cons, spaced, ← List.map_cons, scan_append hw hbreaks,
            scan_of_isBlank (by decide), hts]
          rfl

end Token

end FeatureToggles
