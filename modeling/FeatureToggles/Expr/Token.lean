import FeatureToggles.Text.Blank
import FeatureToggles.Text.Digit

/-!
# Tokens

A condition is cut into tokens from left to right.  At each place the next lexeme is the one that the
first character calls for: a string up to its closing quote, a number with or without a fraction, an
identifier, an operator, a dot, a parenthesis, or white space, which is dropped.  Identifiers that
spell a keyword, in either case, become keyword tokens in lower case.

Main statements: the scan takes one lexeme after the other and stops where none begins (`scan_nil`,
`scan_error`, `scan_blank`, `scan_token`), and a string lies within its text (`closing?_le`).
-/

namespace FeatureToggles

/-- The classes of tokens. -/
inductive Token.Kind where
  | string
  | number
  | ident
  | keyword
  | op
  | dot
  | paren
deriving DecidableEq

/-- A token: its class, its text, and the number of characters before it.  The text is the slice of
the source at that place, except that keywords are in lower case. -/
structure Token where
  kind : Token.Kind
  text : List Char
  position : Nat
deriving DecidableEq

namespace Token

/-! ## Lexemes -/

/-- The number of characters up to and with the quote that closes a string, which is the first one
that no backslash escapes.  A backslash does not escape a line break. -/
def closing? : List Char → Option Nat
  | [] => none
  | '"' :: _ => some 1
  | ['\\'] => none
  | '\\' :: c :: cs => if c = '\n' then none else (closing? cs).map (· + 2)
  | _ :: cs => (closing? cs).map (· + 1)

/-- Whether an identifier may start with the character. -/
def isIdentStart (c : Char) : Bool := c.isAlpha || c == '_'

/-- Whether an identifier may go on with the character. -/
def isIdentRest (c : Char) : Bool := c.isAlphanum || c == '_'

/-- The number of characters that continue a number after its first digit. -/
def numberTail (cs : List Char) : Nat :=
  let whole := cs.takeWhile Text.isDigit
  match cs.dropWhile Text.isDigit with
  | '.' :: rest =>
    let fraction := rest.takeWhile Text.isDigit
    if fraction.isEmpty then whole.length else whole.length + 1 + fraction.length
  | _ => whole.length

/-- Whether two characters form an operator. -/
def isDoubleOperator (c d : Char) : Bool :=
  match c, d with
  | '=', '=' | '!', '=' | '<', '>' | '<', '=' | '>', '=' | '&', '&' | '|', '|' => true
  | _, _ => false

/-- The number of characters that continue an operator after its first, if there is one. -/
def operatorTail? (c : Char) (cs : List Char) : Option Nat :=
  if (cs.head?.map (isDoubleOperator c)).getD false then some 1
  else if c == '=' || c == '<' || c == '>' || c == '!' || c == '-' then some 0
  else none

/-- What begins with `c` and goes on in `cs`: the class of a token, or none for white space, and the
number of characters that it takes of `cs`. -/
def lexeme? (c : Char) (cs : List Char) : Option (Option Kind × Nat) :=
  if c = '"' then (closing? cs).map fun n => (some .string, n)
  else if Text.isDigit c then some (some .number, numberTail cs)
  else if isIdentStart c then some (some .ident, (cs.takeWhile isIdentRest).length)
  else if c = '.' then some (some .dot, 0)
  else if c = '(' ∨ c = ')' then some (some .paren, 0)
  else if Text.isBlank c then some (none, (cs.takeWhile Text.isBlank).length)
  else (operatorTail? c cs).map fun n => (some .op, n)

/-! ## The scan -/

/-- The words that are no identifiers, in lower case. -/
def keywords : List (List Char) :=
  [['a', 'n', 'd'], ['o', 'r'], ['n', 'o', 't'], ['t', 'r', 'u', 'e'],
    ['f', 'a', 'l', 's', 'e'], ['n', 'u', 'l', 'l']]

/-- The token that a lexeme makes. -/
def ofLexeme (kind : Kind) (text : List Char) (position : Nat) : Token :=
  let lower := text.map Char.toLower
  if kind = .ident ∧ lower ∈ keywords then ⟨.keyword, lower, position⟩ else ⟨kind, text, position⟩

/-- A place where no token begins, with the text from there on. -/
structure ScanError where
  position : Nat
  rest : List Char
deriving DecidableEq

/-- The tokens of a text that starts at a position. -/
def scan (position : Nat) : List Char → Except ScanError (List Token)
  | [] => .ok []
  | c :: cs =>
    match lexeme? c cs with
    | none => .error ⟨position, c :: cs⟩
    | some (kind?, n) =>
      let rest := scan (position + 1 + n) (cs.drop n)
      match kind? with
      | none => rest
      | some kind => rest.map (ofLexeme kind (c :: cs.take n) position :: ·)
termination_by cs => cs.length
decreasing_by simp only [List.length_drop, List.length_cons]; omega

/-- The tokens of a condition and the position of its end. -/
structure Stream where
  tokens : List Token
  stop : Nat
deriving DecidableEq

/-- Cuts a text into tokens. -/
def tokenize (cs : List Char) : Except ScanError Stream :=
  (scan 0 cs).map fun tokens => ⟨tokens, cs.length⟩

/-! ## Lemmas -/

@[simp] theorem scan_nil (position : Nat) : scan position [] = .ok [] := by
  rw [scan]

theorem scan_error {position : Nat} {c : Char} {cs : List Char} (h : lexeme? c cs = none) :
    scan position (c :: cs) = .error ⟨position, c :: cs⟩ := by
  rw [scan, h]

theorem scan_blank {position n : Nat} {c : Char} {cs : List Char}
    (h : lexeme? c cs = some (none, n)) :
    scan position (c :: cs) = scan (position + 1 + n) (cs.drop n) := by
  rw [scan, h]

theorem scan_token {position n : Nat} {kind : Kind} {c : Char} {cs : List Char}
    (h : lexeme? c cs = some (some kind, n)) :
    scan position (c :: cs) =
      (scan (position + 1 + n) (cs.drop n)).map (ofLexeme kind (c :: cs.take n) position :: ·) := by
  rw [scan, h]

theorem closing?_le {cs : List Char} {n : Nat} (h : closing? cs = some n) : n ≤ cs.length := by
  fun_induction closing? cs generalizing n with
  | case1 => simp at h
  | case2 => simp at h; simp [← h]
  | case3 => simp at h
  | case4 => simp at h
  | case5 c cs _ ih =>
    obtain ⟨m, hm, rfl⟩ := Option.map_eq_some_iff.1 h
    have := ih hm
    simp only [List.length_cons]; omega
  | case6 c cs _ _ _ ih =>
    obtain ⟨m, hm, rfl⟩ := Option.map_eq_some_iff.1 h
    have := ih hm
    simp only [List.length_cons]; omega

end Token

end FeatureToggles
