import FeatureToggles.Proofs.Condition.Composition

/-!
# Texts in conditions

Single quotes are turned into double ones before a condition is read, also those that stand inside of a
string.  So no string of a condition holds one, and this is the only character that is lost: every other
text can be written between quotes of either sort, with a backslash before each backslash and each double
quote.

Main statements: `apostrophe_not_mem_of_parse`, `status_equation` and `expressible_texts`.
-/

namespace FeatureToggles

namespace Token

/-! ## The characters of tokens -/

lemma text_ofLexeme {kind : Kind} {text : List Char} {position : Nat}
    (h : (ofLexeme kind text position).kind ≠ .keyword) :
    (ofLexeme kind text position).text = text := by
  unfold ofLexeme at h ⊢
  dsimp only at h ⊢
  split_ifs at h ⊢
  · exact absurd rfl h
  · rfl

/-- The characters of a token are those of the text, but for keywords. -/
lemma mem_of_scan {position : Nat} {cs : List Char} {ts : List Token}
    (h : scan position cs = .ok ts) : ∀ t ∈ ts, t.kind ≠ .keyword → ∀ c ∈ t.text, c ∈ cs := by
  induction position, cs using scan.induct generalizing ts with
  | case1 position =>
      obtain rfl : [] = ts := by simpa using h
      simp
  | case2 position c cs hnone => simp [scan_error hnone] at h
  | case3 position c cs n hblank ih =>
      intro t ht hkind d hd
      have hmem := ih (scan_blank hblank ▸ h) t ht hkind d hd
      exact List.mem_cons_of_mem _ (List.mem_of_mem_drop hmem)
  | case4 position c cs n kind htoken ih =>
      obtain ⟨us, hus, rfl⟩ := (scan_token_eq_ok_iff htoken).mp h
      intro t ht hkind d hd
      rcases List.mem_cons.mp ht with rfl | ht
      · rw [text_ofLexeme hkind] at hd
        exact List.take_subset (n + 1) (c :: cs) hd
      · exact List.mem_cons_of_mem _ (List.mem_of_mem_drop (ih hus t ht hkind d hd))

/-- The characters that a string spells stand between its quotes. -/
lemma Spells.mem {body s : List Char} (h : Spells body s) : ∀ c ∈ s, c ∈ body := by
  induction h with
  | nil => simp
  | plain _ _ _ ih | escaped _ _ ih =>
      intro c hc
      rcases List.mem_cons.mp hc with rfl | hc
      · simp
      · simp [ih c hc]

end Token

namespace Expr

/-! ## Literals -/

/-- The values of the literals in an expression. -/
def literals : Expr → List Value
  | .literal v => [v]
  | .name _ _ => []
  | .not e => e.literals
  | .negate e => e.literals
  | .compare _ l r => l.literals ++ r.literals
  | .and l r => l.literals ++ r.literals
  | .or l r => l.literals ++ r.literals
  | .foreign _ => []

lemma Joins.literals {l : Level} {kind : Token.Kind} {text : List Char} {f : Expr → Expr → Expr}
    (h : Joins l kind text f) (a b : Expr) : (f a b).literals = a.literals ++ b.literals := by
  cases h <;> rfl

lemma Prefixes.literals {kind : Token.Kind} {text : List Char} {f : Expr → Expr}
    (h : Prefixes kind text f) (e : Expr) : (f e).literals = e.literals := by
  cases h <;> rfl

/-- Each literal of an expression is one of its tokens. -/
lemma Derives.exists_denotes_of_mem {n : Nonterminal} {ts : List Token} {e : Expr}
    (h : Derives n ts e) {v : Value} (hv : v ∈ e.literals) :
    ∃ t ∈ ts, Denotes t.kind t.text v := by
  induction h with
  | operand _ ih | primary _ ih => exact ih hv
  | @join l op ts us f a b _ hop _ iha ihb =>
      rw [hop.literals] at hv
      rcases List.mem_append.mp hv with hv | hv
      · obtain ⟨t, ht, hdenotes⟩ := iha hv
        exact ⟨t, by simp [ht], hdenotes⟩
      · obtain ⟨t, ht, hdenotes⟩ := ihb hv
        exact ⟨t, by simp [ht], hdenotes⟩
  | applied hop _ ih =>
      rw [hop.literals] at hv
      obtain ⟨t, ht, hdenotes⟩ := ih hv
      exact ⟨t, by simp [ht], hdenotes⟩
  | group _ _ _ _ _ ih =>
      obtain ⟨t, ht, hdenotes⟩ := ih hv
      exact ⟨t, by simp [ht], hdenotes⟩
  | @literal t w hw =>
      obtain rfl := List.mem_singleton.mp hv
      exact ⟨t, by simp, hw⟩
  | name => simp [Expr.literals] at hv

/-- The characters of a text in an expression are characters of the condition. -/
lemma mem_of_parse {text : String} {e : Expr} (h : parse text = .ok e) {s : String}
    (hs : .text s ∈ e.literals) : ∀ c ∈ s.toList, c ∈ text.toList := by
  obtain ⟨stream, hstream, hderives⟩ := derived_of_parse h
  obtain ⟨t, ht, hdenotes⟩ := hderives.exists_denotes_of_mem hs
  have hmem := Token.mem_of_scan (scan_of_tokenize hstream) t ht
  obtain ⟨kind, word, position⟩ := t
  cases hdenotes with
  | @string body s hspells =>
      intro c hc
      rw [String.toList_ofList] at hc
      exact hmem (by simp) c (by simp [hspells.mem c hc])

/-! ## Equations -/

/-- The condition that an attribute is a text, which stands between quotes. -/
def equation (quote : Char) (name s : String) : String :=
  name ++ " == " ++ String.ofList (quote :: (escaped s.toList ++ [quote]))

lemma mem_of_mem_escaped {cs : List Char} {c : Char} (h : c ∈ escaped cs) :
    c = '\\' ∨ c ∈ cs := by
  induction cs with
  | nil => simp [escaped] at h
  | cons d cs ih =>
      unfold escaped at h
      split_ifs at h with hd
      · rcases List.mem_cons.mp h with rfl | h
        · exact .inl rfl
        · rcases List.mem_cons.mp h with rfl | h
          · exact .inr (by simp)
          · exact (ih h).imp_right (List.mem_cons_of_mem d)
      · rcases List.mem_cons.mp h with rfl | h
        · exact .inr (by simp)
        · exact (ih h).imp_right (List.mem_cons_of_mem d)

/-- An equation in double quotes is read as what it says. -/
lemma parse_equation {name : String} (hname : IsPart name) (s : String) :
    parse (equation '"' name s) =
      .ok (.compare .eq (.name name []) (.literal (.text s))) := by
  have hplain : Plain (.compare .eq (.name name []) (.literal (.text s))) :=
    .compare (by simp) (.name hname (by simp)) (.literal (.text s))
  have hwords : words (.compare .eq (.name name []) (.literal (.text s))) =
      [(.ident, name.toList), (.op, ['=', '=']),
        (.string, '"' :: (escaped s.toList ++ ['"']))] := by
    rfl
  have hprint : print (.compare .eq (.name name []) (.literal (.text s))) =
      equation '"' name s := by
    apply String.toList_inj.mp
    rw [print, hwords]
    simp [equation, Token.spaced, String.toList_append]
  rw [← hprint]
  exact parse_print_of_plain hplain

end Expr

namespace Condition

/-! ## Single quotes -/

/-- The single quote. -/
def apostrophe : Char := '\''

lemma apostrophe_not_mem_normalize (condition : String) :
    apostrophe ∉ (normalize condition).toList := by
  unfold normalize
  rw [String.toList_ofList, List.mem_map]
  rintro ⟨c, -, hc⟩
  split_ifs at hc with h
  · exact absurd hc (by decide)
  · exact h hc

/-- No text in a condition holds a single quote. -/
lemma apostrophe_not_mem_of_parse {condition : String} {e : Expr}
    (h : Expr.parse (normalize condition) = .ok e) {s : String} (hs : .text s ∈ e.literals) :
    apostrophe ∉ s.toList := fun hmem =>
  apostrophe_not_mem_normalize condition (Expr.mem_of_parse h hs _ hmem)

lemma normalize_of_not_mem {text : String} (h : apostrophe ∉ text.toList) :
    normalize text = text := by
  have hmap : (text.toList.map fun c => if c = '\'' then '"' else c) = text.toList := by
    conv_rhs => rw [← List.map_id text.toList]
    refine List.map_congr_left fun c hc => if_neg ?_
    rintro rfl
    exact h hc
  rw [normalize, hmap, String.ofList_toList]

/-- No identifier holds a single quote. -/
lemma apostrophe_not_mem_of_isPart {name : String} (h : Expr.IsPart name) :
    apostrophe ∉ name.toList := by
  obtain ⟨c, rest, hname, hstart, hrest⟩ := h.1
  rw [hname]
  intro hmem
  rcases List.mem_cons.mp hmem with rfl | hmem
  · exact absurd hstart (by decide)
  · exact absurd (hrest _ hmem) (by decide)

/-- Quotes of either sort are put right around a text that holds no single one. -/
lemma normalize_equation {quote : Char} {name s : String} (hname : Expr.IsPart name)
    (hquote : quote = '"' ∨ quote = apostrophe) (hs : apostrophe ∉ s.toList) :
    normalize (Expr.equation quote name s) = Expr.equation '"' name s := by
  have hescaped : apostrophe ∉ (String.ofList (Expr.escaped s.toList)).toList := by
    rw [String.toList_ofList]
    intro hmem
    rcases Expr.mem_of_mem_escaped hmem with hback | hmem
    · exact absurd hback (by decide)
    · exact hs hmem
  have hsplit : ∀ q : Char, Expr.equation q name s =
      name ++ " == " ++ String.ofList [q] ++ String.ofList (Expr.escaped s.toList) ++
        String.ofList [q] := by
    intro q
    simp [Expr.equation, String.ext_iff]
  have hmark : normalize (String.ofList [quote]) = String.ofList ['"'] := by
    rcases hquote with rfl | rfl <;> rfl
  have hoperator : normalize " == " = " == " := rfl
  rw [hsplit, hsplit]
  simp only [normalize_append, hmark, hoperator,
    normalize_of_not_mem (apostrophe_not_mem_of_isPart hname), normalize_of_not_mem hescaped]

lemma parse_normalize_equation {quote : Char} {name s : String} (hname : Expr.IsPart name)
    (hquote : quote = '"' ∨ quote = apostrophe) (hs : apostrophe ∉ s.toList) :
    Expr.parse (normalize (Expr.equation quote name s)) =
      .ok (.compare .eq (.name name []) (.literal (.text s))) := by
  rw [normalize_equation hname hquote hs]
  exact Expr.parse_equation hname s

/-- An equation is tested by whether the attribute is the text. -/
lemma status_equation {quote : Char} {name s : String} (hname : Expr.IsPart name)
    (hquote : quote = '"' ∨ quote = apostrophe) (hs : apostrophe ∉ s.toList) (t : String) :
    status (Expr.equation quote name s) (.map [(.text name, .text t)]) =
      if t = s then .matched else .notMatched := by
  have hscope : scopeOf (.map [(.text name, .text t)]) = .ok [(name, .text t)] := rfl
  have hlookup : Scope.lookup [(name, .text t)] name = some (.text t) := by simp [Scope.lookup]
  have hholds : Expr.holds [(name, .text t)] (.compare .eq (.name name []) (.literal (.text s))) =
      .ok (t == s) := by
    simp [Expr.holds, Expr.evaluate, Expr.resolve, hlookup, Expr.resolveMembers, Expr.comparison,
      Expr.comparable, Value.kind, Value.equal, Except.mapError, Except.map]
  rw [status_of_parse (parse_normalize_equation hname hquote hs), hscope]
  simp only [verdict, hholds]
  by_cases h : t = s
  · rw [if_pos h, beq_iff_eq.mpr h]
  · rw [if_neg h, beq_eq_false_iff_ne.mpr h]

/-- A text stands as a string in some condition exactly if it holds no single quote.  Such a text can be
written in quotes of either sort, with a backslash before each backslash and each double quote: the test of
an attribute for it matches if the attribute is this text, and does not if it is another one. -/
theorem expressible_texts :
    (∀ s : String,
      (∃ condition e, Expr.parse (normalize condition) = .ok e ∧ .text s ∈ e.literals) ↔
        apostrophe ∉ s.toList) ∧
    ∀ (quote : Char) (name s t : String), Expr.IsPart name → quote = '"' ∨ quote = apostrophe →
      apostrophe ∉ s.toList →
      status (Expr.equation quote name s) (.map [(.text name, .text t)]) =
        if t = s then .matched else .notMatched := by
  refine ⟨fun s => ⟨?_, fun hs => ?_⟩, fun quote name s t hname hquote hs => ?_⟩
  · rintro ⟨condition, e, hparse, hmem⟩
    exact apostrophe_not_mem_of_parse hparse hmem
  · have hname : Expr.IsPart "X" := ⟨⟨'X', [], rfl, rfl, by simp⟩, by decide⟩
    exact ⟨_, _, parse_normalize_equation hname (.inl rfl) hs, by simp [Expr.literals]⟩
  · exact status_equation hname hquote hs t

/-- A text of two lines that ends in a backslash after a double quote, tested in single quotes. -/
theorem expressible_texts_backslashes :
    Expr.equation apostrophe "X" "a\n\"\\" = "X == 'a\n\\\"\\\\'" ∧
      status "X == 'a\n\\\"\\\\'" (.map [(.text "X", .text "a\n\"\\")]) = .matched ∧
      status "X == 'a\n\\\"\\\\'" (.map [(.text "X", .text "a")]) = .notMatched := by
  have hname : Expr.IsPart "X" := ⟨⟨'X', [], rfl, rfl, by simp⟩, by decide⟩
  have hs : apostrophe ∉ "a\n\"\\".toList := by decide
  have htext : Expr.equation apostrophe "X" "a\n\"\\" = "X == 'a\n\\\"\\\\'" := by cbv
  rw [← htext]
  refine ⟨rfl, ?_, ?_⟩
  · rw [expressible_texts.2 apostrophe "X" _ _ hname (.inr rfl) hs, if_pos rfl]
  · rw [expressible_texts.2 apostrophe "X" _ _ hname (.inr rfl) hs, if_neg (by decide)]

end Condition

end FeatureToggles
