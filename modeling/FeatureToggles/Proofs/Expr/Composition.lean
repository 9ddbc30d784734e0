import FeatureToggles.Proofs.Expr.Printing

/-!
# Conditions made of conditions

A condition may be put together from the texts of others: two of them in parentheses with an operator
between them, or one in parentheses after the negation.  No lexeme goes on across the seams of such a
text, and the words of a text are the same wherever it stands; so the parts keep their derivations,
which the parentheses make primaries of the whole.

Main statements: `parse_eq_ok_iff_cuts`, `parse_connected` and `parse_negated`.
-/

namespace FeatureToggles

namespace Token

/-! ## The words of a text -/

/-- Whether a text is cut into some words, wherever it stands. -/
def Cuts (cs : List Char) (ws : List (Kind × List Char)) : Prop :=
  ∀ position, ∃ ts, scan position cs = .ok ts ∧ ts.map word = ws

lemma word_ofLexeme (kind : Kind) (text : List Char) (p q : Nat) :
    (ofLexeme kind text p).word = (ofLexeme kind text q).word := by
  unfold ofLexeme
  dsimp only
  split_ifs <;> rfl

/-- The words of a text do not depend on the place where it stands. -/
theorem cuts_of_scan {position : Nat} {cs : List Char} {ts : List Token}
    (h : scan position cs = .ok ts) : Cuts cs (ts.map word) := by
  induction position, cs using scan.induct generalizing ts with
  | case1 position =>
      obtain rfl : [] = ts := by simpa using h
      exact fun q => ⟨[], scan_nil q, rfl⟩
  | case2 position c cs hnone => simp [scan_error hnone] at h
  | case3 position c cs n hblank ih =>
      intro q
      rw [scan_blank hblank]
      exact ih (scan_blank hblank ▸ h) _
  | case4 position c cs n kind htoken ih =>
      intro q
      obtain ⟨us, hus, rfl⟩ := (scan_token_eq_ok_iff htoken).mp h
      obtain ⟨vs, hvs, hwords⟩ := ih hus (q + 1 + n)
      refine ⟨_, (scan_token_eq_ok_iff htoken).mpr ⟨vs, hvs, rfl⟩, ?_⟩
      rw [List.map_cons, List.map_cons, hwords, word_ofLexeme]

lemma cuts_nil : Cuts [] [] := fun q => ⟨[], scan_nil q, rfl⟩

lemma cuts_of_lexical {kind : Kind} {text : List Char} (h : Lexical kind text) :
    Cuts text [(kind, text)] := fun q => ⟨_, scan_of_lexical h q, rfl⟩

/-- A parenthesis is a word of its own, whatever follows it. -/
lemma Cuts.parenthesis {c : Char} {cs : List Char} {ws : List (Kind × List Char)}
    (h : Cuts cs ws) (hc : c = '(' ∨ c = ')') : Cuts (c :: cs) ((.paren, [c]) :: ws) := by
  intro q
  have hbegins : Begins c cs (some .paren) 0 := by
    rcases hc with rfl | rfl
    · exact .opening
    · exact .closing
  obtain ⟨ts, hts, hwords⟩ := h (q + 1)
  refine ⟨_, (scan_token_eq_ok_iff (lexeme?_eq_some_iff.mpr hbegins)).mpr ⟨ts, hts, rfl⟩, ?_⟩
  rw [List.map_cons, hwords]
  rfl

/-- A space is no word. -/
lemma Cuts.space {cs : List Char} {ws : List (Kind × List Char)} (h : Cuts cs ws) :
    Cuts (' ' :: cs) ws := by
  intro q
  rw [scan_of_isBlank (by decide)]
  exact h (q + 1)

/-- The words of a text followed by those of another one that no lexeme goes on into. -/
lemma Cuts.append {cs ds : List Char} {ws vs : List (Kind × List Char)} (h : Cuts cs ws)
    (h' : Cuts ds vs) (hbreaks : Breaks ds) : Cuts (cs ++ ds) (ws ++ vs) := by
  intro q
  obtain ⟨ts, hts, rfl⟩ := h q
  obtain ⟨us, hus, rfl⟩ := h' (q + cs.length)
  refine ⟨ts ++ us, ?_, List.map_append⟩
  rw [scan_append hts hbreaks, hus]
  rfl

lemma breaks_cons {c : Char} (h : IsSeparator c) (cs : List Char) : Breaks (c :: cs) := by
  intro d hd
  obtain rfl : c = d := by simpa using hd
  exact h

end Token

namespace Expr

open Token (Kind Lexical Cuts Breaks)

/-! ## Texts and derivations -/

/-- A condition is read as an expression exactly if it is cut into the words of some tokens that derive
the expression, with no integer among them that has too many digits. -/
theorem parse_eq_ok_iff_cuts {text : String} {e : Expr} :
    parse text = .ok e ↔
      ∃ ts, Cuts text.toList (ts.map Token.word) ∧ Derives (.row .or) ts e ∧
        ∀ t ∈ ts, t.IsShort := by
  constructor
  · intro h
    obtain ⟨stream, hstream, hderives, hshort⟩ := derives_of_parse h
    exact ⟨stream.tokens, Token.cuts_of_scan (scan_of_tokenize hstream), hderives, hshort⟩
  · rintro ⟨ts, hcuts, hderives, hshort⟩
    obtain ⟨us, hus, hwords⟩ := hcuts 0
    have hstream : Token.tokenize text.toList = .ok ⟨us, text.toList.length⟩ := by
      rw [Token.tokenize, hus]
      rfl
    refine parse_of_derived (fun stream h' u hu => ?_) ⟨_, hstream, hderives.congr hwords⟩
    -- whether an integer is too long is told by its word
    obtain rfl := Except.ok.inj (hstream.symm.trans h')
    obtain ⟨t, ht, hword⟩ : ∃ t ∈ ts, t.word = u.word := by
      have hmem : u.word ∈ ts.map Token.word := hwords ▸ List.mem_map_of_mem hu
      simpa using hmem
    have htoken := hshort t ht
    unfold Token.IsShort at htoken ⊢
    rwa [kind_eq_of_word hword, text_eq_of_word hword] at htoken

/-! ## Texts in parentheses -/

/-- Two conditions in parentheses, with an operator between them. -/
def connected (op s t : String) : String := "(" ++ s ++ ") " ++ op ++ " (" ++ t ++ ")"

/-- The negation of a condition in parentheses. -/
def negated (s : String) : String := "!(" ++ s ++ ")"

/-- The tokens of an expression in parentheses. -/
def grouped (ts : List Token) : List Token :=
  unplaced (.paren, ['(']) :: (ts ++ [unplaced (.paren, [')'])])

lemma isShort_grouped {ts : List Token} (h : ∀ t ∈ ts, t.IsShort) :
    ∀ t ∈ grouped ts, t.IsShort := by
  intro t ht
  unfold grouped at ht
  simp only [List.mem_cons, List.mem_append, List.not_mem_nil, or_false] at ht
  rcases ht with rfl | ht | rfl
  · exact isShort_of_kind_ne (by simp [unplaced])
  · exact h t ht
  · exact isShort_of_kind_ne (by simp [unplaced])

/-- In parentheses every expression is a primary, and so an expression of every nonterminal. -/
lemma Derives.grouped {ts : List Token} {e : Expr} (h : Derives (.row .or) ts e)
    (n : Nonterminal) : Derives n (grouped ts) e := by
  have hprimary : Derives .primary (Expr.grouped ts) e := .group rfl rfl h rfl rfl
  refine hprimary.of_rank_le ?_
  cases n with
  | row l => cases l <;> decide
  | _ => decide

/-- A text in parentheses is cut into its words in parentheses, whatever follows. -/
lemma cuts_grouped {cs ds : List Char} {ts us : List Token} (h : Cuts cs (ts.map Token.word))
    (h' : Cuts ds (us.map Token.word)) :
    Cuts ('(' :: (cs ++ ')' :: ds)) ((grouped ts ++ us).map Token.word) := by
  have hclosing := h.append (h'.parenthesis (.inr rfl)) (Token.breaks_cons (.inr (.inr rfl)) ds)
  simpa [grouped, unplaced, Token.word] using hclosing.parenthesis (.inl rfl)

lemma cuts_grouped_nil {cs : List Char} {ts : List Token} (h : Cuts cs (ts.map Token.word)) :
    Cuts ('(' :: (cs ++ [')'])) ((grouped ts).map Token.word) := by
  have hnil : Cuts [] (([] : List Token).map Token.word) := Token.cuts_nil
  simpa using cuts_grouped h hnil

lemma Joins.lexical {l : Level} {kind : Kind} {op : List Char} {f : Expr → Expr → Expr}
    (h : Joins l kind op f) : Lexical kind op := by
  cases h
  case or | and => exact .keyword (by decide)
  all_goals exact .op (by decide)

/-- Two conditions with an operator between them are read as the operator on what they are read as. -/
theorem parse_connected {s t : String} {a b : Expr} (hs : parse s = .ok a) (ht : parse t = .ok b)
    {l : Level} {kind : Kind} {op : List Char} {f : Expr → Expr → Expr} (hop : Joins l kind op f) :
    parse (connected (String.ofList op) s t) = .ok (f a b) := by
  obtain ⟨ts, hts, ha, hshort⟩ := parse_eq_ok_iff_cuts.mp hs
  obtain ⟨us, hus, hb, hshort'⟩ := parse_eq_ok_iff_cuts.mp ht
  refine parse_eq_ok_iff_cuts.mpr
    ⟨grouped ts ++ unplaced (kind, op) :: grouped us, ?_, ?_, fun t ht => ?_⟩
  · have hoperator : Cuts (op ++ ' ' :: '(' :: (t.toList ++ [')']))
        ((unplaced (kind, op) :: grouped us).map Token.word) := by
      -- no operator goes on into a space
      have hspace : Breaks (' ' :: '(' :: (t.toList ++ [')'])) :=
        Token.breaks_cons (.inl (by decide)) _
      exact (Token.cuts_of_lexical hop.lexical).append (cuts_grouped_nil hus).space hspace
    have htext : (connected (String.ofList op) s t).toList =
        '(' :: (s.toList ++ ')' :: ' ' :: (op ++ ' ' :: '(' :: (t.toList ++ [')']))) := by
      simp [connected, String.toList_append]
    rw [htext]
    exact cuts_grouped hts hoperator.space
  · have hrow : Derives (.row l) (grouped ts ++ unplaced (kind, op) :: grouped us) (f a b) :=
      .join (ha.grouped _) hop (hb.grouped _)
    exact hrow.of_rank_le (Nat.zero_le _)
  · rcases List.mem_append.mp ht with ht | ht
    · exact isShort_grouped hshort t ht
    · rcases List.mem_cons.mp ht with rfl | ht
      · exact isShort_of_build? (Level.build?_eq_some_iff.mpr hop)
      · exact isShort_grouped hshort' t ht

/-- The negation of a condition is read as the negation of what the condition is read as. -/
theorem parse_negated {s : String} {a : Expr} (hs : parse s = .ok a) :
    parse (negated s) = .ok (.not a) := by
  obtain ⟨ts, hts, ha, hshort⟩ := parse_eq_ok_iff_cuts.mp hs
  have hop : Prefixes .op ['!'] .not := .exclamation
  refine parse_eq_ok_iff_cuts.mpr ⟨unplaced (.op, ['!']) :: grouped ts, ?_, ?_, fun t ht => ?_⟩
  · have hoperator : Cuts ['!'] [(.op, ['!'])] := Token.cuts_of_lexical (.op (by decide))
    have htext : (negated s).toList = ['!'] ++ '(' :: (s.toList ++ [')']) := by
      simp [negated, String.toList_append]
    rw [htext]
    exact hoperator.append (cuts_grouped_nil hts) (Token.breaks_cons (.inr (.inl rfl)) _)
  · have hunary : Derives .unary (unplaced (.op, ['!']) :: grouped ts) (.not a) :=
      .applied hop (ha.grouped _)
    exact hunary.of_rank_le (Nat.zero_le _)
  · rcases List.mem_cons.mp ht with rfl | ht
    · exact isShort_of_kind_ne (by simp [unplaced])
    · exact isShort_grouped hshort t ht

end Expr

end FeatureToggles
