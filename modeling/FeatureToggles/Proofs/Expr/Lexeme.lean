import FeatureToggles.Proofs.Expr.Grammar
import Mathlib.Data.List.TakeWhile
import Mathlib.Tactic.Common

/-!
# Lexemes

What can begin at a place of a text is fixed by the first character, as no character begins lexemes
of two classes.  So the lexeme of a place is told by one table (`Begins`), and what is read there
belongs to one of the classes (`Lexeme`): a complete string, a number with or without a fraction, an
identifier, an operator, the dot, or a parenthesis.  The tokens that the scan takes are such lexemes
(`Lexical`), where identifiers that spell keywords are keywords, in lower case.

Main statements: `lexeme?_eq_some_iff`, `lexeme_of_begins` and `lexical_of_scan`.
-/

namespace FeatureToggles

namespace Token

/-! ## Classes of characters -/

lemma exists_zero_of_isDigit {c : Char} (h : Text.isDigit c = true) :
    ∃ z ∈ Text.digitZeros, z ≤ c.toNat ∧ c.toNat < z + 10 := by
  unfold Text.isDigit Text.digitValue? at h
  rw [Option.isSome_map, List.find?_isSome] at h
  obtain ⟨z, hz, hc⟩ := h
  exact ⟨z, hz, by simpa using hc⟩

lemma toNat_of_isUpper {c : Char} (h : c.isUpper = true) : 65 ≤ c.toNat ∧ c.toNat ≤ 90 :=
  of_decide_eq_true h

lemma toNat_of_isLower {c : Char} (h : c.isLower = true) : 97 ≤ c.toNat ∧ c.toNat ≤ 122 := by
  obtain ⟨hlow, hhigh⟩ := Bool.and_eq_true_iff.mp h
  exact ⟨of_decide_eq_true hlow, of_decide_eq_true hhigh⟩

lemma toNat_of_isIdentStart {c : Char} (h : isIdentStart c = true) :
    (65 ≤ c.toNat ∧ c.toNat ≤ 90) ∨ (97 ≤ c.toNat ∧ c.toNat ≤ 122) ∨ c.toNat = 95 := by
  rcases Bool.or_eq_true_iff.mp h with h | h
  · rcases Bool.or_eq_true_iff.mp h with h | h
    · exact .inl (toNat_of_isUpper h)
    · exact .inr (.inl (toNat_of_isLower h))
  · obtain rfl := beq_iff_eq.mp h
    exact .inr (.inr rfl)

lemma isDigit_eq_false_of_isIdentStart {c : Char} (h : isIdentStart c = true) :
    Text.isDigit c = false := by
  by_contra hd
  obtain ⟨z, hz, hle, hlt⟩ := exists_zero_of_isDigit (by simpa using hd)
  have hzero : ∀ z ∈ Text.digitZeros, z = 48 ∨ 128 ≤ z := by decide
  have := hzero z hz
  have := toNat_of_isIdentStart h
  omega

/-- No blank begins anything else. -/
lemma begins_nothing_of_isBlank {c : Char} (h : Text.isBlank c = true) :
    c ≠ '"' ∧ Text.isDigit c = false ∧ isIdentStart c = false ∧ c ≠ '.' ∧ ¬ (c = '(' ∨ c = ')') := by
  have hcode := h
  simp only [Text.isBlank, Bool.or_eq_true, Bool.and_eq_true, decide_eq_true_eq,
    beq_iff_eq] at hcode
  refine ⟨?_, ?_, ?_, ?_, ?_⟩
  · rintro rfl; exact absurd h (by decide)
  · by_contra hd
    obtain ⟨z, hz, hle, hlt⟩ := exists_zero_of_isDigit (by simpa using hd)
    have hzero : ∀ z ∈ Text.digitZeros, z = 48 ∨ (0x660 ≤ z ∧ z < 0x1670) ∨
        (0x1680 < z ∧ z < 0x1FF0) ∨ 0x3000 < z := by decide
    have := hzero z hz
    omega
  · by_contra hi
    have := toNat_of_isIdentStart (by simpa using hi)
    omega
  · rintro rfl; exact absurd h (by decide)
  · rintro (rfl | rfl) <;> exact absurd h (by decide)

/-! ## Operators -/

/-- The operators. -/
def operators : List (List Char) :=
  [['=', '='], ['!', '='], ['<', '>'], ['<', '='], ['>', '='], ['&', '&'], ['|', '|'],
    ['='], ['<'], ['>'], ['!'], ['-']]

lemma mem_operators_of_isDoubleOperator {c d : Char} (h : isDoubleOperator c d = true) :
    [c, d] ∈ operators := by
  unfold isDoubleOperator at h
  split at h <;> simp_all [operators]

/-- An operator takes up one character or two. -/
lemma operatorTail?_eq_some {c : Char} {cs : List Char} {n : Nat}
    (h : operatorTail? c cs = some n) : c :: cs.take n ∈ operators := by
  unfold operatorTail? at h
  split_ifs at h with hdouble hsingle
  · obtain rfl : 1 = n := by simpa using h
    cases cs with
    | nil => simp at hdouble
    | cons d ds => exact mem_operators_of_isDoubleOperator (by simpa using hdouble)
  · obtain rfl : 0 = n := by simpa using h
    simp only [Bool.or_eq_true, beq_iff_eq] at hsingle
    rcases hsingle with (((rfl | rfl) | rfl) | rfl) | rfl <;> simp [operators]

/-- No operator begins anything else. -/
lemma begins_nothing_of_mem_operators {c : Char} {cs : List Char} (h : c :: cs ∈ operators) :
    c ≠ '"' ∧ Text.isDigit c = false ∧ isIdentStart c = false ∧ c ≠ '.' ∧
      ¬ (c = '(' ∨ c = ')') ∧ Text.isBlank c = false := by
  have hall : (operators.all fun op => op.head?.all fun c =>
      c ≠ '"' ∧ Text.isDigit c = false ∧ isIdentStart c = false ∧ c ≠ '.' ∧
        ¬ (c = '(' ∨ c = ')') ∧ Text.isBlank c = false) = true := by decide
  have hc := List.all_eq_true.mp hall _ h
  rwa [List.head?_cons, Option.all_some, decide_eq_true_iff] at hc

/-! ## The table of lexemes -/

/-- How a lexeme begins with a character and goes on for a number of those after it: the class of a
token, or none for white space. -/
inductive Begins : Char → List Char → Option Kind → Nat → Prop where
  | string {cs : List Char} {n : Nat} : closing? cs = some n → Begins '"' cs (some .string) n
  | number {c : Char} {cs : List Char} :
      Text.isDigit c = true → Begins c cs (some .number) (numberTail cs)
  | ident {c : Char} {cs : List Char} :
      isIdentStart c = true → Begins c cs (some .ident) (cs.takeWhile isIdentRest).length
  | dot {cs : List Char} : Begins '.' cs (some .dot) 0
  | opening {cs : List Char} : Begins '(' cs (some .paren) 0
  | closing {cs : List Char} : Begins ')' cs (some .paren) 0
  | blank {c : Char} {cs : List Char} :
      Text.isBlank c = true → Begins c cs none (cs.takeWhile Text.isBlank).length
  | op {c : Char} {cs : List Char} {n : Nat} :
      operatorTail? c cs = some n → Begins c cs (some .op) n

/-- The table tells the lexeme of a place. -/
theorem lexeme?_eq_some_iff {c : Char} {cs : List Char} {kind? : Option Kind} {n : Nat} :
    lexeme? c cs = some (kind?, n) ↔ Begins c cs kind? n := by
  constructor
  · intro h
    unfold lexeme? at h
    split_ifs at h with hquote hdigit hident hdot hparen hblank
    · obtain ⟨m, hm, hmn⟩ := Option.map_eq_some_iff.1 h
      obtain ⟨rfl, rfl⟩ : some Kind.string = kind? ∧ m = n := by simpa using hmn
      exact hquote ▸ .string hm
    · obtain ⟨rfl, rfl⟩ : some Kind.number = kind? ∧ numberTail cs = n := by simpa using h
      exact .number hdigit
    · obtain ⟨rfl, rfl⟩ :
          some Kind.ident = kind? ∧ (cs.takeWhile isIdentRest).length = n := by simpa using h
      exact .ident hident
    · obtain ⟨rfl, rfl⟩ : some Kind.dot = kind? ∧ 0 = n := by simpa using h
      exact hdot ▸ .dot
    · obtain ⟨rfl, rfl⟩ : some Kind.paren = kind? ∧ 0 = n := by simpa using h
      rcases hparen with rfl | rfl
      · exact .opening
      · exact .closing
    · obtain ⟨rfl, rfl⟩ :
          none = kind? ∧ (cs.takeWhile Text.isBlank).length = n := by simpa using h
      exact .blank hblank
    · obtain ⟨m, hm, hmn⟩ := Option.map_eq_some_iff.1 h
      obtain ⟨rfl, rfl⟩ : some Kind.op = kind? ∧ m = n := by simpa using hmn
      exact .op hm
  · intro h
    unfold lexeme?
    cases h with
    | string hn => simp [hn]
    | number hc =>
        have hquote : c ≠ '"' := by rintro rfl; exact absurd hc (by decide)
        simp [hquote, hc]
    | ident hc =>
        have hquote : c ≠ '"' := by rintro rfl; exact absurd hc (by decide)
        simp [hquote, isDigit_eq_false_of_isIdentStart hc, hc]
    | dot => rfl
    | opening => rfl
    | closing => rfl
    | blank hc =>
        obtain ⟨hquote, hdigit, hident, hdot, hparen⟩ := begins_nothing_of_isBlank hc
        simp [hquote, hdigit, hident, hdot, hparen, hc]
    | op hn =>
        obtain ⟨hquote, hdigit, hident, hdot, hparen, hblank⟩ :=
          begins_nothing_of_mem_operators (operatorTail?_eq_some hn)
        simp [hquote, hdigit, hident, hdot, hparen, hblank, hn]

/-! ## The texts of tokens -/

/-- The slices of a text that are lexemes of a class, as they stand there. -/
inductive Lexeme : Kind → List Char → Prop where
  | string {body s : List Char} : Spells body s → Lexeme .string ('"' :: (body ++ ['"']))
  | integer {ds : List Char} : IsDigits ds → Lexeme .number ds
  | decimal {whole fraction : List Char} :
      IsDigits whole → IsDigits fraction → Lexeme .number (whole ++ '.' :: fraction)
  | ident {cs : List Char} : IsIdentifier cs → Lexeme .ident cs
  | op {cs : List Char} : cs ∈ operators → Lexeme .op cs
  | dot : Lexeme .dot ['.']
  | opening : Lexeme .paren ['(']
  | closing : Lexeme .paren [')']

/-- The texts that the tokens of a class can have. -/
inductive Lexical : Kind → List Char → Prop where
  | string {body s : List Char} : Spells body s → Lexical .string ('"' :: (body ++ ['"']))
  | integer {ds : List Char} : IsDigits ds → Lexical .number ds
  | decimal {whole fraction : List Char} :
      IsDigits whole → IsDigits fraction → Lexical .number (whole ++ '.' :: fraction)
  | ident {cs : List Char} :
      IsIdentifier cs → cs.map Char.toLower ∉ keywords → Lexical .ident cs
  | keyword {cs : List Char} : cs ∈ keywords → Lexical .keyword cs
  | op {cs : List Char} : cs ∈ operators → Lexical .op cs
  | dot : Lexical .dot ['.']
  | opening : Lexical .paren ['(']
  | closing : Lexical .paren [')']

lemma spells_of_closing? {cs : List Char} {n : Nat} (h : closing? cs = some n) :
    ∃ body s, cs.take n = body ++ ['"'] ∧ Spells body s := by
  fun_induction closing? cs generalizing n with
  | case1 => simp at h
  | case2 =>
      obtain rfl : 1 = n := by simpa using h
      exact ⟨[], [], by simp, .nil⟩
  | case3 => simp at h
  | case4 => simp at h
  | case5 c cs hc ih =>
      obtain ⟨m, hm, rfl⟩ := Option.map_eq_some_iff.1 h
      obtain ⟨body, s, htake, hspells⟩ := ih hm
      exact ⟨'\\' :: c :: body, c :: s, by simp [htake], .escaped hc hspells⟩
  | case6 c cs hquote hlast hback ih =>
      obtain ⟨m, hm, rfl⟩ := Option.map_eq_some_iff.1 h
      obtain ⟨body, s, htake, hspells⟩ := ih hm
      refine ⟨c :: body, c :: s, by simp [htake], .plain (fun hc => hquote hc) ?_ hspells⟩
      rintro rfl
      cases cs with
      | nil => exact hlast rfl rfl
      | cons d ds => exact hback d ds rfl rfl

lemma take_length_takeWhile (p : Char → Bool) (cs : List Char) :
    cs.take (cs.takeWhile p).length = cs.takeWhile p :=
  (List.prefix_iff_eq_take.mp (List.takeWhile_prefix p)).symm

lemma isDigits_cons {c : Char} {cs : List Char} (hc : Text.isDigit c = true)
    (hcs : ∀ d ∈ cs, Text.isDigit d = true) : IsDigits (c :: cs) :=
  ⟨by simp, by simpa using ⟨hc, hcs⟩⟩

/-- What a number takes after its first digit: digits, or digits around a point. -/
lemma take_numberTail (cs : List Char) :
    (∀ d ∈ cs.take (numberTail cs), Text.isDigit d = true) ∨
      ∃ whole fraction, cs.take (numberTail cs) = whole ++ '.' :: fraction ∧
        (∀ d ∈ whole, Text.isDigit d = true) ∧ IsDigits fraction := by
  have hwhole : ∀ d ∈ cs.takeWhile Text.isDigit, Text.isDigit d = true :=
    fun d hd => List.mem_takeWhile_imp hd
  unfold numberTail
  split
  · rename_i rest hrest
    dsimp only
    split
    · exact .inl (by rwa [take_length_takeWhile])
    · rename_i hne
      -- the point is taken with the digits after it, as there are some
      refine .inr ⟨cs.takeWhile Text.isDigit, rest.takeWhile Text.isDigit, ?_, hwhole,
        by simpa using hne, fun d hd => List.mem_takeWhile_imp hd⟩
      have hcs : cs = (cs.takeWhile Text.isDigit ++ '.' :: rest.takeWhile Text.isDigit) ++
          rest.dropWhile Text.isDigit := by
        rw [List.append_assoc, List.cons_append, List.takeWhile_append_dropWhile, ← hrest,
          List.takeWhile_append_dropWhile]
      exact (congrArg (List.take _) hcs).trans
        (List.take_left' (by simp only [List.length_append, List.length_cons]; omega))
  · exact .inl (by dsimp only; rwa [take_length_takeWhile])

lemma Lexeme.ne_nil {kind : Kind} {slice : List Char} (h : Lexeme kind slice) : slice ≠ [] := by
  cases h with
  | integer hds => exact hds.1
  | ident hident =>
      obtain ⟨c, rest, rfl, -⟩ := hident
      simp
  | op hmem =>
      rintro rfl
      simp [operators] at hmem
  | _ => simp

/-- What begins at a place, and is no white space, is a lexeme. -/
lemma lexeme_of_begins {c : Char} {cs : List Char} {kind : Kind} {n : Nat}
    (h : Begins c cs (some kind) n) : Lexeme kind (c :: cs.take n) := by
  cases h with
  | string hn =>
      obtain ⟨body, s, htake, hspells⟩ := spells_of_closing? hn
      exact htake ▸ .string hspells
  | number hc =>
      rcases take_numberTail cs with hds | ⟨whole, fraction, htake, hwhole, hfraction⟩
      · exact .integer (isDigits_cons hc hds)
      · exact htake ▸ .decimal (isDigits_cons hc hwhole) hfraction
  | ident hc =>
      rw [take_length_takeWhile]
      exact .ident ⟨c, _, rfl, hc, fun d hd => List.mem_takeWhile_imp hd⟩
  | dot => exact .dot
  | opening => exact .opening
  | closing => exact .closing
  | op hn => exact .op (operatorTail?_eq_some hn)

/-- The token that a lexeme makes belongs to its class. -/
lemma Lexeme.lexical {kind : Kind} {slice : List Char} (h : Lexeme kind slice) (position : Nat) :
    Lexical (ofLexeme kind slice position).kind (ofLexeme kind slice position).text := by
  cases h with
  | string hspells => simpa [ofLexeme] using Lexical.string hspells
  | integer hds => simpa [ofLexeme] using Lexical.integer hds
  | decimal hwhole hfraction => simpa [ofLexeme] using Lexical.decimal hwhole hfraction
  | ident hident =>
      -- an identifier that spells a keyword in some case is this keyword
      unfold ofLexeme
      dsimp only
      split_ifs with hkeyword
      · exact .keyword hkeyword.2
      · exact .ident hident fun hlower => hkeyword ⟨rfl, hlower⟩
  | op hmem => simpa [ofLexeme] using Lexical.op hmem
  | dot => simpa [ofLexeme] using Lexical.dot
  | opening => simpa [ofLexeme] using Lexical.opening
  | closing => simpa [ofLexeme] using Lexical.closing

/-! ## Runs of the scan -/

/-- A scan that takes a token succeeds with the scan of what is after it. -/
lemma scan_token_eq_ok_iff {position n : Nat} {kind : Kind} {c : Char} {cs : List Char}
    {ts : List Token} (h : lexeme? c cs = some (some kind, n)) :
    scan position (c :: cs) = .ok ts ↔
      ∃ us, scan (position + 1 + n) (cs.drop n) = .ok us ∧
        ts = ofLexeme kind (c :: cs.take n) position :: us := by
  rw [scan_token h]
  cases scan (position + 1 + n) (cs.drop n) with
  | error e => simp [Except.map]
  | ok us => simp [Except.map, eq_comm]

/-- Every token that the scan takes belongs to its class. -/
theorem lexical_of_scan {position : Nat} {cs : List Char} {ts : List Token}
    (h : scan position cs = .ok ts) : ∀ t ∈ ts, Lexical t.kind t.text := by
  induction position, cs using scan.induct generalizing ts with
  | case1 position =>
      obtain rfl : [] = ts := by simpa using h
      simp
  | case2 position c cs hnone => simp [scan_error hnone] at h
  | case3 position c cs n hblank ih => exact ih (scan_blank hblank ▸ h)
  | case4 position c cs n kind htoken ih =>
      obtain ⟨us, hus, rfl⟩ := (scan_token_eq_ok_iff htoken).mp h
      intro t ht
      rcases List.mem_cons.mp ht with rfl | ht
      · exact (lexeme_of_begins (lexeme?_eq_some_iff.mp htoken)).lexical position
      · exact ih hus t ht

end Token

end FeatureToggles
