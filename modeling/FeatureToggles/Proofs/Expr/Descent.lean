import FeatureToggles.Proofs.Expr.Terminal

/-!
# The descent, step by step

The parser's functions carry bounds on the tokens that they leave, which only their termination
needs.  Without the bounds, what the parser answers to each of its goals is described by rules
(`Run`), one for each way that the code can take, so that an invariant of the parser is proved by an
induction on its runs.

Main statement: the runs are the parser (`run_iff`).
-/

namespace FeatureToggles

namespace Expr

/-- What the parser is asked for: an expression of a nonterminal, or the rest of a row of which the
left part was read. -/
inductive Goal where
  | read (n : Nonterminal)
  | extend (level : Level) (left : Expr)

/-- What was read and the tokens that are left. -/
abbrev Reading (α : Type) := Except ParseError (α × List Token)

/-- A result without the bound on the tokens that are left. -/
def forget {α : Type} {P : List Token → Prop} :
    Except ParseError (α × { rest : List Token // P rest }) → Reading α
  | .error e => .error e
  | .ok (a, rest) => .ok (a, rest.1)

/-- What the parser answers. -/
def Goal.answer (stop : Nat) : Goal → List Token → Reading Expr
  | .read (.row level), ts => forget (parseLevel stop level ts)
  | .read .unary, ts => forget (parseUnary stop ts)
  | .read .primary, [] => .error (.unexpected .operand stop [])
  | .read .primary, t :: ts => forget (parsePrimary stop t ts)
  | .extend level left, ts => forget (parseRow stop level left ts)

/-- Whether a primary can begin with a token. -/
def BeginsPrimary (t : Token) : Prop :=
  isOpening t = true ∨ t.kind = .number ∨ t.kind = .string ∨ t.kind = .ident ∨
    (t.kind = .keyword ∧ constant? t.text ≠ none)

/-- The ways that the parser can take, and where they lead. -/
inductive Run (stop : Nat) : Goal → List Token → Reading Expr → Prop where
  | row {l : Level} {ts rest : List Token} {a : Expr} {r : Reading Expr} :
      Run stop (.read l.operand) ts (.ok (a, rest)) → Run stop (.extend l a) rest r →
      Run stop (.read (.row l)) ts r
  | rowError {l : Level} {ts : List Token} {e : ParseError} :
      Run stop (.read l.operand) ts (.error e) → Run stop (.read (.row l)) ts (.error e)
  | done {l : Level} {a : Expr} {ts : List Token} :
      (∀ t ∈ ts.head?, l.build? t = none) → Run stop (.extend l a) ts (.ok (a, ts))
  | more {l : Level} {a b : Expr} {t : Token} {ts rest : List Token} {f : Expr → Expr → Expr}
      {r : Reading Expr} :
      l.build? t = some f → Run stop (.read l.operand) ts (.ok (b, rest)) →
      Run stop (.extend l (f a b)) rest r → Run stop (.extend l a) (t :: ts) r
  | moreError {l : Level} {a : Expr} {t : Token} {ts : List Token} {f : Expr → Expr → Expr}
      {e : ParseError} :
      l.build? t = some f → Run stop (.read l.operand) ts (.error e) →
      Run stop (.extend l a) (t :: ts) (.error e)
  | applied {a : Expr} {t : Token} {ts rest : List Token} {f : Expr → Expr} :
      prefixOp? t = some f → Run stop (.read .unary) ts (.ok (a, rest)) →
      Run stop (.read .unary) (t :: ts) (.ok (f a, rest))
  | appliedError {t : Token} {ts : List Token} {f : Expr → Expr} {e : ParseError} :
      prefixOp? t = some f → Run stop (.read .unary) ts (.error e) →
      Run stop (.read .unary) (t :: ts) (.error e)
  | primary {ts : List Token} {r : Reading Expr} :
      (∀ t ∈ ts.head?, prefixOp? t = none) → Run stop (.read .primary) ts r →
      Run stop (.read .unary) ts r
  | group {a : Expr} {opening closing : Token} {ts rest : List Token} :
      isOpening opening = true → Run stop (.read (.row .or)) ts (.ok (a, closing :: rest)) →
      isClosing closing = true → Run stop (.read .primary) (opening :: ts) (.ok (a, rest))
  | groupError {opening : Token} {ts : List Token} {e : ParseError} :
      isOpening opening = true → Run stop (.read (.row .or)) ts (.error e) →
      Run stop (.read .primary) (opening :: ts) (.error e)
  | unclosed {a : Expr} {opening : Token} {ts rest : List Token} :
      isOpening opening = true → Run stop (.read (.row .or)) ts (.ok (a, rest)) →
      (∀ t ∈ rest.head?, isClosing t = false) →
      Run stop (.read .primary) (opening :: ts) (.error (.unexpected .closingParenthesis stop rest))
  | number {t : Token} {ts : List Token} {v : Value} :
      t.kind = .number → numberLiteral t.text = .ok v →
      Run stop (.read .primary) (t :: ts) (.ok (.literal v, ts))
  | oversized {t : Token} {ts : List Token} {e : ParseError} :
      t.kind = .number → numberLiteral t.text = .error e →
      Run stop (.read .primary) (t :: ts) (.error e)
  | string {t : Token} {ts : List Token} :
      t.kind = .string → Run stop (.read .primary) (t :: ts) (.ok (.literal (stringLiteral t.text), ts))
  | constant {t : Token} {ts : List Token} {v : Value} :
      t.kind = .keyword → constant? t.text = some v →
      Run stop (.read .primary) (t :: ts) (.ok (.literal v, ts))
  | name {root : Token} {ts rest : List Token} {names : List String} :
      root.kind = .ident → forget (members stop ts) = .ok (names, rest) →
      Run stop (.read .primary) (root :: ts) (.ok (.name (String.ofList root.text) names, rest))
  | nameError {root : Token} {ts : List Token} {e : ParseError} :
      root.kind = .ident → forget (members stop ts) = .error e →
      Run stop (.read .primary) (root :: ts) (.error e)
  | unexpected {ts : List Token} :
      (∀ t ∈ ts.head?, ¬ BeginsPrimary t) →
      Run stop (.read .primary) ts (.error (.unexpected .operand stop ts))

/-! ## Every answer has a run -/

lemma run_answer_all (stop : Nat) :
    (∀ level ts, Run stop (.read (.row level)) ts (forget (parseLevel stop level ts))) ∧
    (∀ level left ts, Run stop (.extend level left) ts (forget (parseRow stop level left ts))) ∧
    (∀ level ts, Run stop (.read level.operand) ts (forget (parseOperand stop level ts))) ∧
    (∀ ts, Run stop (.read .unary) ts (forget (parseUnary stop ts))) ∧
    (∀ t ts, Run stop (.read .primary) (t :: ts) (forget (parsePrimary stop t ts))) := by
  apply parseLevel.mutual_induct stop
  -- rows
  case case1 =>
    intro level ts e h ih
    rw [parseLevel]
    simp only [h, forget] at ih ⊢
    exact .rowError ih
  case case2 =>
    intro level ts left rest hlt h e hrow ih ihrow
    rw [parseLevel]
    simp only [h, hrow, forget] at ih ihrow ⊢
    exact .row ih ihrow
  case case3 =>
    intro level ts left rest hlt h e rest' hle hrow ih ihrow
    rw [parseLevel]
    simp only [h, hrow, forget] at ih ihrow ⊢
    exact .row ih ihrow
  -- the rest of a row
  case case4 =>
    intro level left
    rw [parseRow]
    exact .done (by simp)
  case case5 =>
    intro level left t ts h
    rw [parseRow]
    simp only [h, forget]
    exact .done (by simpa using h)
  case case6 =>
    intro level left t ts f hop _ e h ih
    rw [parseRow]
    simp only [hop, h, forget] at ih ⊢
    exact .moreError hop ih
  case case7 =>
    intro level left t ts f hop _ right rest hlt h e hrow ih ihrow
    rw [parseRow]
    simp only [hop, h, hrow, forget] at ih ihrow ⊢
    exact .more hop ih ihrow
  case case8 =>
    intro level left t ts f hop _ right rest hlt h e rest' hle hrow ih ihrow
    rw [parseRow]
    simp only [hop, h, hrow, forget] at ih ihrow ⊢
    exact .more hop ih ihrow
  -- operands
  case case9 =>
    intro level ts level' hnext _ ih
    have hoperand : level.operand = .row level' := by
      cases level <;> simp_all [Level.next?, Level.operand]
    rw [parseOperand.eq_def, hoperand]
    split
    · rename_i l hl
      obtain rfl : level' = l := Option.some.inj (hnext.symm.trans hl)
      exact ih
    · simp_all
  case case10 =>
    intro level ts hnext ih
    have hoperand : level.operand = .unary := by
      cases level <;> simp_all [Level.next?, Level.operand]
    rw [parseOperand.eq_def, hoperand]
    split
    · simp_all
    · exact ih
  -- unary expressions
  case case11 =>
    rw [parseUnary]
    exact .primary (by simp) (.unexpected (by simp))
  case case12 =>
    intro t ts f hop e h ih
    rw [parseUnary]
    simp only [hop, h, forget] at ih ⊢
    exact .appliedError hop ih
  case case13 =>
    intro t ts f hop a rest hlt h ih
    rw [parseUnary]
    simp only [hop, h, forget] at ih ⊢
    exact .applied hop ih
  case case14 =>
    intro t ts hop ih
    rw [parseUnary]
    simp only [hop]
    exact .primary (by simpa using hop) ih
  -- primaries
  case case15 =>
    intro t ts hopening e h ih
    rw [parsePrimary]
    simp only [hopening, h, forget, ↓reduceIte] at ih ⊢
    exact .groupError hopening ih
  case case16 =>
    intro t ts hopening a hlt h ih
    rw [parsePrimary]
    simp only [hopening, h, forget, ↓reduceIte] at ih ⊢
    exact .unclosed hopening ih (by simp)
  case case17 =>
    intro t ts hopening a closing rest hlt h hclosing ih
    rw [parsePrimary]
    simp only [hopening, h, hclosing, forget, ↓reduceIte] at ih ⊢
    exact .group hopening ih hclosing
  case case18 =>
    intro t ts hopening a closing rest hlt h hclosing ih
    rw [parsePrimary]
    simp only [hopening, h, hclosing, forget, ↓reduceIte] at ih ⊢
    exact .unclosed hopening ih (by simpa using hclosing)
  case case19 =>
    intro t ts hopening hkind
    rw [parsePrimary.eq_def]
    simp only [hopening, hkind, Bool.false_eq_true, ↓reduceIte]
    cases h : numberLiteral t.text with
    | error e => exact .oversized hkind h
    | ok v => exact .number hkind h
  case case20 =>
    intro t ts hopening hkind
    rw [parsePrimary.eq_def]
    simp only [hopening, hkind, Bool.false_eq_true, ↓reduceIte]
    exact .string hkind
  case case21 =>
    intro t ts hopening hkind e h
    rw [parsePrimary.eq_def]
    simp only [hopening, hkind, h, Bool.false_eq_true, ↓reduceIte]
    exact .nameError hkind (by rw [h, forget])
  case case22 =>
    intro t ts hopening hkind names rest hle h
    rw [parsePrimary.eq_def]
    simp only [hopening, hkind, h, Bool.false_eq_true, ↓reduceIte]
    exact .name hkind (by rw [h, forget])
  case case23 =>
    intro t ts hopening hkind v h
    rw [parsePrimary.eq_def]
    simp only [hopening, hkind, h, Bool.false_eq_true, ↓reduceIte]
    exact .constant hkind h
  case case24 =>
    intro t ts hopening hkind h
    rw [parsePrimary.eq_def]
    simp only [hopening, hkind, h, Bool.false_eq_true, ↓reduceIte]
    exact .unexpected (by simp [BeginsPrimary, hopening, hkind, h])
  case case25 =>
    intro t ts hopening hnumber hstring hident hkeyword
    rw [parsePrimary.eq_def]
    simp only [hopening, Bool.false_eq_true, ↓reduceIte]
    refine .unexpected ?_
    simp only [List.head?_cons, Option.mem_def, Option.some.injEq, forall_eq', BeginsPrimary]
    tauto

/-- Every answer has a run. -/
theorem run_answer (stop : Nat) (g : Goal) (ts : List Token) : Run stop g ts (g.answer stop ts) := by
  obtain ⟨hrow, hextend, -, hunary, hprimary⟩ := run_answer_all stop
  match g, ts with
  | .read (.row level), ts => exact hrow level ts
  | .read .unary, ts => exact hunary ts
  | .read .primary, [] => exact .unexpected (by simp)
  | .read .primary, t :: ts => exact hprimary t ts
  | .extend level left, ts => exact hextend level left ts

/-! ## Every run is an answer -/

lemma forget_parseOperand (stop : Nat) (level : Level) (ts : List Token) :
    forget (parseOperand stop level ts) = (Goal.read level.operand).answer stop ts := by
  cases level <;> rw [parseOperand.eq_def] <;> rfl

lemma answer_row (stop : Nat) (level : Level) (ts : List Token) :
    (Goal.read (.row level)).answer stop ts =
      match (Goal.read level.operand).answer stop ts with
      | .error e => .error e
      | .ok (a, rest) => (Goal.extend level a).answer stop rest := by
  rw [← forget_parseOperand, Goal.answer, parseLevel]
  cases h : parseOperand stop level ts with
  | error e => rfl
  | ok p =>
      obtain ⟨a, rest, hlt⟩ := p
      simp only [forget, Goal.answer]
      cases parseRow stop level a rest <;> rfl

lemma answer_extend_of_head {stop : Nat} {level : Level} {left : Expr} {ts : List Token}
    (h : ∀ t ∈ ts.head?, level.build? t = none) :
    (Goal.extend level left).answer stop ts = .ok (left, ts) := by
  cases ts with
  | nil => rw [Goal.answer, parseRow, forget]
  | cons t ts => rw [Goal.answer, parseRow, h t rfl, forget]

lemma answer_extend_cons {stop : Nat} {level : Level} {left : Expr} {t : Token} {ts : List Token}
    {f : Expr → Expr → Expr} (h : level.build? t = some f) :
    (Goal.extend level left).answer stop (t :: ts) =
      match (Goal.read level.operand).answer stop ts with
      | .error e => .error e
      | .ok (b, rest) => (Goal.extend level (f left b)).answer stop rest := by
  rw [← forget_parseOperand, Goal.answer, parseRow, h]
  cases h : parseOperand stop level ts with
  | error e => rfl
  | ok p =>
      obtain ⟨b, rest, hlt⟩ := p
      simp only [forget, Goal.answer]
      cases parseRow stop level (f left b) rest <;> rfl

lemma answer_unary_of_head {stop : Nat} {ts : List Token}
    (h : ∀ t ∈ ts.head?, prefixOp? t = none) :
    (Goal.read .unary).answer stop ts = (Goal.read .primary).answer stop ts := by
  cases ts with
  | nil => rw [Goal.answer, Goal.answer, parseUnary, forget]
  | cons t ts => rw [Goal.answer, Goal.answer, parseUnary, h t rfl]

lemma answer_unary_cons {stop : Nat} {t : Token} {ts : List Token} {f : Expr → Expr}
    (h : prefixOp? t = some f) :
    (Goal.read .unary).answer stop (t :: ts) =
      match (Goal.read .unary).answer stop ts with
      | .error e => .error e
      | .ok (a, rest) => .ok (f a, rest) := by
  rw [Goal.answer, parseUnary, h, Goal.answer]
  cases parseUnary stop ts <;> rfl

lemma answer_primary_cons (stop : Nat) (t : Token) (ts : List Token) :
    (Goal.read .primary).answer stop (t :: ts) = forget (parsePrimary stop t ts) := rfl

lemma answer_group {stop : Nat} {opening : Token} {ts : List Token}
    (h : isOpening opening = true) :
    (Goal.read .primary).answer stop (opening :: ts) =
      match (Goal.read (.row .or)).answer stop ts with
      | .error e => .error e
      | .ok (_, []) => .error (.unexpected .closingParenthesis stop [])
      | .ok (a, closing :: rest) =>
        if isClosing closing then .ok (a, rest)
        else .error (.unexpected .closingParenthesis stop (closing :: rest)) := by
  rw [answer_primary_cons, parsePrimary.eq_def, Goal.answer]
  simp only [h, ↓reduceIte]
  cases parseLevel stop .or ts with
  | error e => rfl
  | ok p =>
      obtain ⟨a, rest, hlt⟩ := p
      cases rest with
      | nil => rfl
      | cons closing rest =>
          cases hclosing : isClosing closing <;> simp [forget, hclosing]

/-- A token with a class that is not that of parentheses opens nothing. -/
lemma isOpening_eq_false {t : Token} (h : t.kind ≠ .paren) : isOpening t = false := by
  simp [isOpening, h]

/-- Every run is an answer. -/
theorem Run.answer_eq {stop : Nat} {g : Goal} {ts : List Token} {r : Reading Expr}
    (h : Run stop g ts r) : g.answer stop ts = r := by
  induction h with
  | row _ _ ih ihrow => rw [answer_row, ih, ← ihrow]
  | rowError _ ih => rw [answer_row, ih]
  | done h => exact answer_extend_of_head h
  | more hop _ _ ih ihrow => rw [answer_extend_cons hop, ih, ← ihrow]
  | moreError hop _ ih => rw [answer_extend_cons hop, ih]
  | applied hop _ ih => rw [answer_unary_cons hop, ih]
  | appliedError hop _ ih => rw [answer_unary_cons hop, ih]
  | primary h _ ih => rw [answer_unary_of_head h, ih]
  | group hopening _ hclosing ih =>
      rw [answer_group hopening, ih]
      simp only [hclosing, ↓reduceIte]
  | groupError hopening _ ih => rw [answer_group hopening, ih]
  | @unclosed a opening ts rest hopening _ hrest ih =>
      rw [answer_group hopening, ih]
      cases rest with
      | nil => rfl
      | cons t rest => simp [hrest t rfl]
  | number hkind hv =>
      rw [answer_primary_cons, parsePrimary.eq_def]
      simp [isOpening_eq_false, hkind, hv, Except.map, forget]
  | oversized hkind he =>
      rw [answer_primary_cons, parsePrimary.eq_def]
      simp [isOpening_eq_false, hkind, he, Except.map, forget]
  | string hkind =>
      rw [answer_primary_cons, parsePrimary.eq_def]
      simp [isOpening_eq_false, hkind, forget]
  | constant hkind hv =>
      rw [answer_primary_cons, parsePrimary.eq_def]
      simp [isOpening_eq_false, hkind, hv, forget]
  | @name root ts rest names hkind hmembers =>
      rw [answer_primary_cons, parsePrimary.eq_def]
      cases h : members stop ts with
      | error e => simp [h, forget] at hmembers
      | ok p =>
          obtain ⟨rfl, rfl⟩ : p.1 = names ∧ p.2.1 = rest := by simpa [h, forget] using hmembers
          simp [isOpening_eq_false, hkind, forget]
  | @nameError root ts e hkind hmembers =>
      rw [answer_primary_cons, parsePrimary.eq_def]
      cases h : members stop ts with
      | error e' =>
          obtain rfl : e' = e := by simpa [h, forget] using hmembers
          simp [isOpening_eq_false, hkind, forget]
      | ok p => simp [h, forget] at hmembers
  | @unexpected ts h =>
      cases ts with
      | nil => rfl
      | cons t ts =>
          have ht := h t rfl
          simp only [BeginsPrimary, not_or, not_and, not_not] at ht
          obtain ⟨hopening, hnumber, hstring, hident, hkeyword⟩ := ht
          rw [answer_primary_cons, parsePrimary.eq_def]
          cases hkind : t.kind <;> simp_all [forget]

/-- The runs are the parser. -/
theorem run_iff {stop : Nat} {g : Goal} {ts : List Token} {r : Reading Expr} :
    Run stop g ts r ↔ g.answer stop ts = r :=
  ⟨Run.answer_eq, fun h => h ▸ run_answer stop g ts⟩

end Expr

end FeatureToggles
