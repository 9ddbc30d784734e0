import FeatureToggles.Expr.Parser
import Mathlib.Tactic.Common

/-!
# The grammar of expressions

The grammar is written down apart from the parser, over the tokens of a condition.  The rows of
operands stand on four levels,

* `Or ::= And (('||' | or) And)*`,
* `And ::= Equality (('&&' | and) Equality)*`,
* `Equality ::= Ordering (('==' | '=' | '!=' | '<>') Ordering)*`,
* `Ordering ::= Unary (('<' | '<=' | '>' | '>=') Unary)*`,

each of which folds to the left, so a row is a shorter row, an operator and one more operand.  Below
them stand `Unary ::= ('!' | not) Unary | '-' Unary | Primary` and
`Primary ::= '(' Or ')' | number | string | true | false | null | ident ('.' ident)*`.

Main statement: where the tokens stand in the text does not matter (`Derives.congr`).
-/

namespace FeatureToggles

namespace Token

/-! ## What tokens are made of -/

/-- A row of at least one digit. -/
def IsDigits (cs : List Char) : Prop := cs ≠ [] ∧ ∀ c ∈ cs, Text.isDigit c = true

/-- The characters between the quotes of a string, and the text that they spell.  A character stands
for itself or, after a backslash, for itself as well; quotes and backslashes need the backslash, and
a line break has none. -/
inductive Spells : List Char → List Char → Prop where
  | nil : Spells [] []
  | plain {c : Char} {cs ds : List Char} :
      c ≠ '"' → c ≠ '\\' → Spells cs ds → Spells (c :: cs) (c :: ds)
  | escaped {c : Char} {cs ds : List Char} :
      c ≠ '\n' → Spells cs ds → Spells ('\\' :: c :: cs) (c :: ds)

/-- An identifier: an ASCII letter or an underscore, and then letters, digits and underscores. -/
def IsIdentifier (cs : List Char) : Prop :=
  ∃ c rest, cs = c :: rest ∧ isIdentStart c = true ∧ ∀ d ∈ rest, isIdentRest d = true

/-- The class and the text of a token, wherever it stands. -/
def word (t : Token) : Token.Kind × List Char := (t.kind, t.text)

end Token

namespace Expr

open Token (IsDigits Spells)

/-- The nonterminals: a row of operands on each level, unary expressions, and primaries. -/
inductive Nonterminal where
  | row (level : Level)
  | unary
  | primary
deriving DecidableEq

/-- What a row of a level has for operands. -/
def Level.operand : Level → Nonterminal
  | .or => .row .and
  | .and => .row .equality
  | .equality => .row .ordering
  | .ordering => .unary

/-! ## Terminals -/

/-- The operators that join the operands of a level, and what they make of two of them. -/
inductive Joins : Level → Token.Kind → List Char → (Expr → Expr → Expr) → Prop where
  | bars : Joins .or .op ['|', '|'] .or
  | or : Joins .or .keyword ['o', 'r'] .or
  | ampersands : Joins .and .op ['&', '&'] .and
  | and : Joins .and .keyword ['a', 'n', 'd'] .and
  | doubleEquals : Joins .equality .op ['=', '='] (.compare .eq)
  | equals : Joins .equality .op ['='] (.compare .eq)
  | notEquals : Joins .equality .op ['!', '='] (.compare .ne)
  | angles : Joins .equality .op ['<', '>'] (.compare .ne)
  | less : Joins .ordering .op ['<'] (.compare .lt)
  | lessEquals : Joins .ordering .op ['<', '='] (.compare .le)
  | greater : Joins .ordering .op ['>'] (.compare .gt)
  | greaterEquals : Joins .ordering .op ['>', '='] (.compare .ge)

/-- The unary operators, and what they make of an operand. -/
inductive Prefixes : Token.Kind → List Char → (Expr → Expr) → Prop where
  | exclamation : Prefixes .op ['!'] .not
  | not : Prefixes .keyword ['n', 'o', 't'] .not
  | minus : Prefixes .op ['-'] .negate

/-- The tokens that are literals, and their values.  A number with a fraction is the binary number
that is nearest to what it writes. -/
inductive Denotes : Token.Kind → List Char → Value → Prop where
  | integer {ds : List Char} :
      IsDigits ds → Denotes .number ds (.number (.int (Text.digitsValue ds)))
  | decimal {whole fraction : List Char} : IsDigits whole → IsDigits fraction →
      Denotes .number (whole ++ '.' :: fraction)
        (.number (.float (.ofScientific false (Text.digitsValue (whole ++ fraction))
          (-fraction.length))))
  | string {body s : List Char} :
      Spells body s → Denotes .string ('"' :: (body ++ ['"'])) (.text (String.ofList s))
  | true : Denotes .keyword ['t', 'r', 'u', 'e'] (.bool .true)
  | false : Denotes .keyword ['f', 'a', 'l', 's', 'e'] (.bool .false)
  | null : Denotes .keyword ['n', 'u', 'l', 'l'] .null

/-- The tokens after the root of a name, and the members that they tell. -/
inductive Members : List Token → List String → Prop where
  | nil : Members [] []
  | cons {dot member : Token} {ts : List Token} {names : List String} :
      dot.kind = .dot → dot.text = ['.'] → member.kind = .ident → Members ts names →
      Members (dot :: member :: ts) (String.ofList member.text :: names)

/-! ## Derivations -/

/-- The tokens that a nonterminal derives, and the expression that they make. -/
inductive Derives : Nonterminal → List Token → Expr → Prop where
  | operand {l : Level} {ts : List Token} {e : Expr} :
      Derives l.operand ts e → Derives (.row l) ts e
  | join {l : Level} {op : Token} {ts us : List Token} {f : Expr → Expr → Expr} {a b : Expr} :
      Derives (.row l) ts a → Joins l op.kind op.text f → Derives l.operand us b →
      Derives (.row l) (ts ++ op :: us) (f a b)
  | applied {op : Token} {ts : List Token} {f : Expr → Expr} {e : Expr} :
      Prefixes op.kind op.text f → Derives .unary ts e → Derives .unary (op :: ts) (f e)
  | primary {ts : List Token} {e : Expr} : Derives .primary ts e → Derives .unary ts e
  | group {opening closing : Token} {ts : List Token} {e : Expr} :
      opening.kind = .paren → opening.text = ['('] → Derives (.row .or) ts e →
      closing.kind = .paren → closing.text = [')'] →
      Derives .primary (opening :: (ts ++ [closing])) e
  | literal {t : Token} {v : Value} : Denotes t.kind t.text v → Derives .primary [t] (.literal v)
  | name {root : Token} {ts : List Token} {names : List String} :
      root.kind = .ident → Members ts names →
      Derives .primary (root :: ts) (.name (String.ofList root.text) names)

/-! ## Lemmas -/

lemma kind_eq_of_word {t u : Token} (h : t.word = u.word) : t.kind = u.kind :=
  congrArg Prod.fst h

lemma text_eq_of_word {t u : Token} (h : t.word = u.word) : t.text = u.text :=
  congrArg Prod.snd h

lemma Members.congr {ts us : List Token} {names : List String} (h : Members ts names)
    (hwords : us.map Token.word = ts.map Token.word) : Members us names := by
  induction h generalizing us with
  | nil =>
      obtain rfl : us = [] := by simpa using hwords
      exact .nil
  | cons hdot htext hmember _ ih =>
      simp only [List.map_cons, List.map_eq_cons_iff] at hwords
      obtain ⟨dot, rest, rfl, h₁, member, us, rfl, h₂, hus⟩ := hwords
      rw [← text_eq_of_word h₂]
      exact .cons ((kind_eq_of_word h₁).trans hdot) ((text_eq_of_word h₁).trans htext)
        ((kind_eq_of_word h₂).trans hmember) (ih hus)

/-- Derivations depend on the classes and texts of the tokens, and not on their places. -/
theorem Derives.congr {n : Nonterminal} {ts us : List Token} {e : Expr} (h : Derives n ts e)
    (hwords : us.map Token.word = ts.map Token.word) : Derives n us e := by
  induction h generalizing us with
  | operand _ ih => exact .operand (ih hwords)
  | join _ hop _ iha ihb =>
      -- the other tokens are split at the operator as well
      simp only [List.map_append, List.map_cons, List.map_eq_append_iff,
        List.map_eq_cons_iff] at hwords
      obtain ⟨us₁, rest, rfl, h₁, op, us₂, rfl, h, h₂⟩ := hwords
      rw [← kind_eq_of_word h, ← text_eq_of_word h] at hop
      exact .join (iha h₁) hop (ihb h₂)
  | applied hop _ ih =>
      simp only [List.map_cons, List.map_eq_cons_iff] at hwords
      obtain ⟨op, rest, rfl, h, hrest⟩ := hwords
      rw [← kind_eq_of_word h, ← text_eq_of_word h] at hop
      exact .applied hop (ih hrest)
  | primary _ ih => exact .primary (ih hwords)
  | group hk ht _ hk' ht' ih =>
      simp only [List.map_cons, List.map_append, List.map_nil, List.map_eq_append_iff,
        List.map_eq_cons_iff, List.map_eq_nil_iff] at hwords
      obtain ⟨opening, _, rfl, h, us, _, rfl, hus, closing, _, rfl, h', rfl⟩ := hwords
      exact .group ((kind_eq_of_word h).trans hk) ((text_eq_of_word h).trans ht) (ih hus)
        ((kind_eq_of_word h').trans hk') ((text_eq_of_word h').trans ht')
  | literal hv =>
      simp only [List.map_cons, List.map_nil, List.map_eq_cons_iff, List.map_eq_nil_iff] at hwords
      obtain ⟨t, _, rfl, h, rfl⟩ := hwords
      rw [← kind_eq_of_word h, ← text_eq_of_word h] at hv
      exact .literal hv
  | name hroot hmembers =>
      simp only [List.map_cons, List.map_eq_cons_iff] at hwords
      obtain ⟨root, rest, rfl, h, hrest⟩ := hwords
      rw [← text_eq_of_word h]
      exact .name ((kind_eq_of_word h).trans hroot) (hmembers.congr hrest)

end Expr

end FeatureToggles
