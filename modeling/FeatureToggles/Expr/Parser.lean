import FeatureToggles.Expr
import FeatureToggles.Expr.Token
import FeatureToggles.Text.Quoted

/-!
# The parser of expressions

Recursive descent over the tokens of a condition.  The binary operators have four levels, from the
loosest: `||`, `&&`, equality, ordering; each level is a row of operands of the next one that folds to
the left.  Below them stand the unary operators and the primaries.

Every function returns the tokens that it leaves with the proof that they are fewer, or no more,
than it was given.  So the recursion ends, and no token is looked at twice at one level.  How deep a
text is nested does not matter here: the limit that an interpreter sets to recursion is not modelled.
-/

namespace FeatureToggles

/-- What the grammar asks for at the place of an error. -/
inductive Expectation where
  | endOfExpression
  | closingParenthesis
  | memberName
  | operand
deriving DecidableEq

/-- Why a text is not an expression. -/
inductive ParseError where
  /-- A place where no token begins. -/
  | unexpectedCharacter (position : Nat) (rest : List Char)
  /-- A text without tokens. -/
  | empty
  /-- A token, or the end of the text, that the grammar does not allow where it stands. -/
  | unexpectedToken (expected : Expectation) (found : Option Token) (position : Nat)
  /-- An integer literal with too many digits. -/
  | oversizedInteger (digits : Nat)
deriving DecidableEq

namespace ParseError

/-- The place of a syntax error; an oversized integer is none. -/
def position? : ParseError → Option Nat
  | .unexpectedCharacter position _ => some position
  | .empty => some 0
  | .unexpectedToken _ _ position => some position
  | .oversizedInteger _ => none

/-- What was expected, in words. -/
def expectation : Expectation → String
  | .endOfExpression => "Expected end of expression"
  | .closingParenthesis => "Expected ')'"
  | .memberName => "Expected member name after '.'"
  | .operand => "Expected a value"

/-- The text of an error. -/
def message : ParseError → String
  | .unexpectedCharacter position rest =>
    "Unexpected character at position " ++ toString position ++ ": " ++ Text.quoteChars rest
  | .empty => "Expression is empty"
  | .unexpectedToken expected found position =>
    let word := match found with
      | some token => Text.quoteChars token.text
      | none => "end of expression"
    expectation expected ++ ", found " ++ word ++ " at position " ++ toString position
  | .oversizedInteger digits =>
    "Exceeds the limit (" ++ toString digitLimit ++
      " digits) for integer string conversion: value has " ++ toString digits ++
      " digits; use sys.set_int_max_str_digits() to increase the limit"

/-- The error of meeting the first of some tokens, or the end of the text after them. -/
def unexpected (expected : Expectation) (stop : Nat) : List Token → ParseError
  | [] => .unexpectedToken expected none stop
  | token :: _ => .unexpectedToken expected (some token) token.position

end ParseError

namespace Expr

/-! ## Literals -/

/-- The text between the quotes of a string token, with the escaping backslashes taken out. -/
def unescape : List Char → List Char
  | [] => []
  | '\\' :: c :: cs => c :: unescape cs
  | c :: cs => c :: unescape cs

/-- The value of a string token. -/
def stringLiteral (text : List Char) : Value :=
  .text (String.ofList (unescape (text.drop 1).dropLast))

/-- The value of a number token: an integer, or a binary number if it has a fraction. -/
def numberLiteral (text : List Char) : Except ParseError Value :=
  if text.contains '.' then
    match Scientific.ofChars? text with
    | some n => .ok (.number (.float (.ofScientific n.negative n.coefficient n.exponent)))
    | none => .ok (.number (.float .noNumber))
  else if digitLimit < text.length then .error (.oversizedInteger text.length)
  else .ok (.number (.int (Text.digitsValue text)))

/-- The value that a keyword writes, if it is one of the constants. -/
def constant? (text : List Char) : Option Value :=
  if text = ['t', 'r', 'u', 'e'] then some (.bool true)
  else if text = ['f', 'a', 'l', 's', 'e'] then some (.bool false)
  else if text = ['n', 'u', 'l', 'l'] then some .null
  else none

/-! ## Operators -/

/-- The levels of binary operators, from the loosest to the tightest. -/
inductive Level where
  | or
  | and
  | equality
  | ordering
deriving DecidableEq

namespace Level

/-- The next tighter level; below the tightest stand the unary operators. -/
def next? : Level → Option Level
  | .or => some .and
  | .and => some .equality
  | .equality => some .ordering
  | .ordering => none

/-- How many levels are tighter. -/
def height : Level → Nat
  | .or => 3
  | .and => 2
  | .equality => 1
  | .ordering => 0

/-- What an operator token of a level makes of its operands. -/
def build? (level : Level) (token : Token) : Option (Expr → Expr → Expr) :=
  match level with
  | .or =>
    if (token.kind = .op ∧ token.text = ['|', '|']) ∨ (token.kind = .keyword ∧ token.text = ['o', 'r'])
    then some .or else none
  | .and =>
    if (token.kind = .op ∧ token.text = ['&', '&']) ∨
      (token.kind = .keyword ∧ token.text = ['a', 'n', 'd'])
    then some .and else none
  | .equality =>
    if token.kind ≠ .op then none
    else if token.text = ['=', '='] ∨ token.text = ['='] then some (.compare .eq)
    else if token.text = ['!', '='] ∨ token.text = ['<', '>'] then some (.compare .ne)
    else none
  | .ordering =>
    if token.kind ≠ .op then none
    else if token.text = ['<'] then some (.compare .lt)
    else if token.text = ['<', '='] then some (.compare .le)
    else if token.text = ['>'] then some (.compare .gt)
    else if token.text = ['>', '='] then some (.compare .ge)
    else none

theorem height_next? {l l' : Level} (h : l.next? = some l') : l'.height < l.height := by
  cases l <;> simp [next?] at h <;> subst h <;> decide

end Level

/-- What a unary operator token makes of its operand. -/
def prefixOp? (token : Token) : Option (Expr → Expr) :=
  if (token.kind = .op ∧ token.text = ['!']) ∨ (token.kind = .keyword ∧ token.text = ['n', 'o', 't'])
  then some .not
  else if token.kind = .op ∧ token.text = ['-'] then some .negate
  else none

/-- Whether a token is the dot. -/
def isDot (token : Token) : Bool := token.kind = .dot && token.text = ['.']

/-- Whether a token is the opening parenthesis. -/
def isOpening (token : Token) : Bool := token.kind = .paren && token.text = ['(']

/-- Whether a token is the closing parenthesis. -/
def isClosing (token : Token) : Bool := token.kind = .paren && token.text = [')']

/-! ## Descent -/

/-- An expression at the beginning of some tokens, and the fewer ones after it. -/
abbrev Parsed (ts : List Token) := Expr × { rest : List Token // rest.length < ts.length }

/-- An expression that ends within some tokens, and the ones after it, no more than they were. -/
abbrev Extended (ts : List Token) := Expr × { rest : List Token // rest.length ≤ ts.length }

/-- The members that follow a name, each after a dot. -/
def members (stop : Nat) (ts : List Token) :
    Except ParseError (List String × { rest : List Token // rest.length ≤ ts.length }) :=
  match ts with
  | [] => .ok ([], ⟨[], Nat.le_refl _⟩)
  | dot :: ts =>
    if isDot dot then
      match ts with
      | [] => .error (.unexpected .memberName stop [])
      | member :: ts =>
        if member.kind = .ident then
          match members stop ts with
          | .error e => .error e
          | .ok (names, ⟨rest, h⟩) =>
            .ok (String.ofList member.text :: names, ⟨rest, by simp only [List.length_cons]; omega⟩)
        else .error (.unexpected .memberName stop (member :: ts))
    else .ok ([], ⟨dot :: ts, Nat.le_refl _⟩)

mutual

/-- Operands of one level, joined by its operators. -/
def parseLevel (stop : Nat) (level : Level) (ts : List Token) : Except ParseError (Parsed ts) :=
  match parseOperand stop level ts with
  | .error e => .error e
  | .ok (left, ⟨rest, h⟩) =>
    match parseRow stop level left rest with
    | .error e => .error e
    | .ok (e, ⟨rest', h'⟩) => .ok (e, ⟨rest', by omega⟩)
termination_by 16 * ts.length + 2 * level.height + 3

/-- An operand of a level: an expression of the next one. -/
def parseOperand (stop : Nat) (level : Level) (ts : List Token) : Except ParseError (Parsed ts) :=
  match hl : level.next? with
  | some level' =>
    have := level.height_next? hl
    parseLevel stop level' ts
  | none => parseUnary stop ts
termination_by 16 * ts.length + 2 * level.height + 2

/-- The operators of a level that follow a left operand, with their right operands. -/
def parseRow (stop : Nat) (level : Level) (left : Expr) (ts : List Token) :
    Except ParseError (Extended ts) :=
  match ts with
  | [] => .ok (left, ⟨[], Nat.le_refl _⟩)
  | token :: ts =>
    match level.build? token with
    | none => .ok (left, ⟨token :: ts, Nat.le_refl _⟩)
    | some build =>
      have : level.height ≤ 3 := by cases level <;> decide
      match parseOperand stop level ts with
      | .error e => .error e
      | .ok (right, ⟨rest, h⟩) =>
        match parseRow stop level (build left right) rest with
        | .error e => .error e
        | .ok (e, ⟨rest', h'⟩) => .ok (e, ⟨rest', by simp only [List.length_cons]; omega⟩)
termination_by 16 * ts.length

/-- Unary operators and their operand. -/
def parseUnary (stop : Nat) (ts : List Token) : Except ParseError (Parsed ts) :=
  match ts with
  | [] => .error (.unexpected .operand stop [])
  | token :: ts =>
    match prefixOp? token with
    | some build =>
      match parseUnary stop ts with
      | .error e => .error e
      | .ok (operand, ⟨rest, h⟩) =>
        .ok (build operand, ⟨rest, by simp only [List.length_cons]; omega⟩)
    | none => parsePrimary stop token ts
termination_by 16 * ts.length + 1

/-- A primary that begins with a token: a parenthesised expression, a literal, or a name. -/
def parsePrimary (stop : Nat) (token : Token) (ts : List Token) :
    Except ParseError (Parsed (token :: ts)) :=
  if isOpening token then
    match parseLevel stop .or ts with
    | .error e => .error e
    | .ok (e, ⟨[], _⟩) => .error (.unexpected .closingParenthesis stop [])
    | .ok (e, ⟨closing :: rest, h⟩) =>
      if isClosing closing then
        .ok (e, ⟨rest, by simp only [List.length_cons] at h ⊢; omega⟩)
      else .error (.unexpected .closingParenthesis stop (closing :: rest))
  else match token.kind with
    | .number =>
      (numberLiteral token.text).map fun v => (.literal v, ⟨ts, by simp⟩)
    | .string => .ok (.literal (stringLiteral token.text), ⟨ts, by simp⟩)
    | .ident =>
      match members stop ts with
      | .error e => .error e
      | .ok (names, ⟨rest, h⟩) =>
        .ok (.name (String.ofList token.text) names, ⟨rest, by simp only [List.length_cons]; omega⟩)
    | .keyword =>
      match constant? token.text with
      | some v => .ok (.literal v, ⟨ts, by simp⟩)
      | none => .error (.unexpected .operand stop (token :: ts))
    | _ => .error (.unexpected .operand stop (token :: ts))
termination_by 16 * ts.length + 10
decreasing_by all_goals simp only [Level.height]; omega

end

/-! ## Entry points -/

/-- The expression that all tokens of a condition make up. -/
def ofTokens (stream : Token.Stream) : Except ParseError Expr :=
  if stream.tokens.isEmpty then .error .empty
  else match parseLevel stream.stop .or stream.tokens with
    | .error e => .error e
    | .ok (e, ⟨[], _⟩) => .ok e
    | .ok (_, ⟨token :: rest, _⟩) =>
      .error (.unexpected .endOfExpression stream.stop (token :: rest))

/-- Parses a condition given by its characters. -/
def parseChars (cs : List Char) : Except ParseError Expr :=
  match Token.tokenize cs with
  | .error e => .error (.unexpectedCharacter e.position e.rest)
  | .ok stream => ofTokens stream

/-- Parses a condition. -/
def parse (text : String) : Except ParseError Expr := parseChars text.toList

end Expr

end FeatureToggles
