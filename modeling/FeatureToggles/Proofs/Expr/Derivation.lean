import FeatureToggles.Proofs.Expr.Descent
import FeatureToggles.Expr.Fault
import Mathlib

/-!
# What the parser accepts

The parser accepts exactly the conditions whose tokens the grammar derives, and gives the only
expression that they derive; on all others it fails with a syntax error.  Integers with too many digits
are left out, as they have no value.

A run of the parser is read as a derivation by an induction on the run.  For the other direction a
derivation is followed by tokens that cannot continue it (`Stops`), and the parser leaves just these.

Main statement: `parse_eq_ok_iff_derives`.
-/

namespace FeatureToggles

namespace Expr

open Token (Lexical)

/-! ## Members of names -/

lemma isDot_eq_true_iff {t : Token} : isDot t = true ↔ t.kind = .dot ∧ t.text = ['.'] := by
  simp [isDot]

lemma isOpening_eq_true_iff {t : Token} : isOpening t = true ↔ t.kind = .paren ∧ t.text = ['('] := by
  simp [isOpening]

lemma isClosing_eq_true_iff {t : Token} : isClosing t = true ↔ t.kind = .paren ∧ t.text = [')'] := by
  simp [isClosing]

/-- Members that were read are those of some tokens in front. -/
lemma members_of_answer {stop : Nat} {ts rest : List Token} {names : List String}
    (h : forget (members stop ts) = .ok (names, rest)) :
    ∃ us, ts = us ++ rest ∧ Members us names := by
  fun_induction members stop ts generalizing names with
  | case1 =>
      obtain ⟨rfl, rfl⟩ : [] = names ∧ [] = rest := by simpa [forget] using h
      exact ⟨[], rfl, .nil⟩
  | case2 => simp [forget] at h
  | case3 => simp [forget] at h
  | case4 dot hdot member ts hmember names' rest' hle hrest ih =>
      obtain ⟨rfl, rfl⟩ : String.ofList member.text :: names' = names ∧ rest' = rest := by
        simpa [forget] using h
      obtain ⟨us, rfl, hus⟩ := ih (by rw [hrest, forget])
      obtain ⟨hkind, htext⟩ := isDot_eq_true_iff.mp hdot
      exact ⟨dot :: member :: us, rfl, .cons hkind htext hmember hus⟩
  | case5 => simp [forget] at h
  | case6 t ts =>
      obtain ⟨rfl, rfl⟩ : [] = names ∧ t :: ts = rest := by simpa [forget] using h
      exact ⟨[], rfl, .nil⟩

lemma answer_members_cons {stop : Nat} {dot member : Token} {ts : List Token}
    (hdot : isDot dot = true) (hmember : member.kind = .ident) :
    forget (members stop (dot :: member :: ts)) =
      match forget (members stop ts) with
      | .error e => .error e
      | .ok (names, rest) => .ok (String.ofList member.text :: names, rest) := by
  rw [members.eq_def]
  simp only [hdot, hmember, ↓reduceIte]
  cases members stop ts <;> rfl

/-- Members are read up to the first token that is no dot. -/
lemma answer_of_members {stop : Nat} {us rest : List Token} {names : List String}
    (h : Members us names) (hrest : ∀ t ∈ rest.head?, isDot t = false) :
    forget (members stop (us ++ rest)) = .ok (names, rest) := by
  induction h with
  | nil =>
      cases rest with
      | nil => rw [List.append_nil, members, forget]
      | cons t rest => rw [List.nil_append, members.eq_def]; simp [hrest t rfl, forget]
  | cons hkind htext hmember _ ih =>
      rw [List.cons_append, List.cons_append,
        answer_members_cons (isDot_eq_true_iff.mpr ⟨hkind, htext⟩) hmember, ih]

lemma unexpected_of_members {stop : Nat} {ts : List Token} {e : ParseError}
    (h : forget (members stop ts) = .error e) :
    ∃ rest, e = .unexpected .memberName stop rest := by
  fun_induction members stop ts with
  | case1 => simp [forget] at h
  | case2 => exact ⟨[], by simpa [forget, eq_comm] using h⟩
  | case3 dot hdot member ts hmember e' he ih =>
      obtain rfl : e' = e := by simpa [forget] using h
      exact ih (by rw [he, forget])
  | case4 => simp [forget] at h
  | case5 dot hdot member ts => exact ⟨member :: ts, by simpa [forget, eq_comm] using h⟩
  | case6 => simp [forget] at h

/-! ## From runs to derivations -/

/-- The tokens that lead from a goal to an expression: those of the nonterminal, or those that lengthen
a row. -/
def Goal.Derives : Goal → List Token → Expr → Prop
  | .read n, ts, e => Expr.Derives n ts e
  | .extend level left, ts, e =>
    ∀ us, Expr.Derives (.row level) us left → Expr.Derives (.row level) (us ++ ts) e

lemma isShort_of_kind_ne {t : Token} (h : t.kind ≠ .number) : t.IsShort :=
  fun hkind => absurd hkind h

lemma isShort_of_members {ts : List Token} {names : List String} (h : Members ts names) :
    ∀ t ∈ ts, t.IsShort := by
  induction h with
  | nil => simp
  | cons hdot _ hmember _ ih =>
      intro t ht
      rcases List.mem_cons.mp ht with rfl | ht
      · exact isShort_of_kind_ne (by simp [hdot])
      · rcases List.mem_cons.mp ht with rfl | ht
        · exact isShort_of_kind_ne (by simp [hmember])
        · exact ih t ht

lemma isShort_of_build? {l : Level} {t : Token} {f : Expr → Expr → Expr}
    (h : l.build? t = some f) : t.IsShort := by
  rcases (Level.build?_eq_some_iff.mp h).kind with hkind | hkind <;>
    exact isShort_of_kind_ne (by simp [hkind])

lemma isShort_of_prefixOp? {t : Token} {f : Expr → Expr} (h : prefixOp? t = some f) :
    t.IsShort := by
  have hop := prefixOp?_eq_some_iff.mp h
  refine isShort_of_kind_ne fun hkind => ?_
  rw [hkind] at hop
  cases hop

/-- What the parser reads is derived, and it reads no integer with too many digits. -/
theorem Run.derives {stop : Nat} {g : Goal} {ts rest : List Token} {r : Reading Expr} {e : Expr}
    (h : Run stop g ts r) (hlex : ∀ t ∈ ts, Lexical t.kind t.text) (hr : r = .ok (e, rest)) :
    ∃ us, ts = us ++ rest ∧ g.Derives us e ∧ ∀ t ∈ us, t.IsShort := by
  induction h generalizing e rest with
  | row _ _ ih ihrow =>
      obtain ⟨us, rfl, hus, hshort⟩ := ih hlex rfl
      obtain ⟨vs, rfl, hvs, hshort'⟩ := ihrow (List.forall_mem_append.mp hlex).2 hr
      exact ⟨us ++ vs, by simp, hvs us (.operand hus), List.forall_mem_append.mpr ⟨hshort, hshort'⟩⟩
  | done h =>
      obtain ⟨rfl, rfl⟩ : _ = e ∧ _ = rest := by simpa using hr
      exact ⟨[], rfl, fun us hus => by rwa [List.append_nil], by simp⟩
  | @more l a b t ts rest' f r hop _ _ ih ihrow =>
      -- the operand joins whatever row was read before it, and the longer row is extended
      have htail := (List.forall_mem_cons.mp hlex).2
      obtain ⟨us, rfl, hus, hshort⟩ := ih htail rfl
      obtain ⟨vs, rfl, hvs, hshort'⟩ := ihrow (List.forall_mem_append.mp htail).2 hr
      refine ⟨t :: (us ++ vs), by simp, fun ws hws => ?_, List.forall_mem_cons.mpr
        ⟨isShort_of_build? hop, List.forall_mem_append.mpr ⟨hshort, hshort'⟩⟩⟩
      have hjoin := hvs _ (.join hws (Level.build?_eq_some_iff.mp hop) hus)
      simpa using hjoin
  | @applied a t ts rest' f hop _ ih =>
      obtain ⟨rfl, rfl⟩ : f a = e ∧ rest' = rest := by simpa using hr
      obtain ⟨us, rfl, hus, hshort⟩ := ih (List.forall_mem_cons.mp hlex).2 rfl
      exact ⟨t :: us, rfl, .applied (prefixOp?_eq_some_iff.mp hop) hus,
        List.forall_mem_cons.mpr ⟨isShort_of_prefixOp? hop, hshort⟩⟩
  | primary _ _ ih =>
      obtain ⟨us, rfl, hus, hshort⟩ := ih hlex hr
      exact ⟨us, rfl, .primary hus, hshort⟩
  | @group a opening closing ts rest' hopening _ hclosing ih =>
      obtain ⟨rfl, rfl⟩ : a = e ∧ rest' = rest := by simpa using hr
      obtain ⟨us, rfl, hus, hshort⟩ := ih (List.forall_mem_cons.mp hlex).2 rfl
      obtain ⟨hkind, htext⟩ := isOpening_eq_true_iff.mp hopening
      obtain ⟨hkind', htext'⟩ := isClosing_eq_true_iff.mp hclosing
      refine ⟨opening :: (us ++ [closing]), by simp, .group hkind htext hus hkind' htext', ?_⟩
      refine List.forall_mem_cons.mpr ⟨isShort_of_kind_ne (by simp [hkind]),
        List.forall_mem_append.mpr ⟨hshort, ?_⟩⟩
      exact List.forall_mem_singleton.mpr (isShort_of_kind_ne (by simp [hkind']))
  | @number t ts v hkind hv =>
      obtain ⟨rfl, rfl⟩ : .literal v = e ∧ ts = rest := by simpa using hr
      obtain ⟨w, hw⟩ := exists_denotes (hlex t (by simp)) (.inl hkind)
      rw [hkind] at hw
      rw [numberLiteral_of_denotes hw] at hv
      split_ifs at hv with hlong
      obtain rfl : w = v := by simpa using hv
      refine ⟨[t], rfl, .literal (hkind ▸ hw), List.forall_mem_singleton.mpr fun _ hpoint => ?_⟩
      exact Nat.le_of_not_lt fun hlt => hlong ⟨hpoint, hlt⟩
  | @string t ts hkind =>
      obtain ⟨rfl, rfl⟩ : .literal (stringLiteral t.text) = e ∧ ts = rest := by simpa using hr
      obtain ⟨v, hv⟩ := exists_denotes (hlex t (by simp)) (.inr hkind)
      rw [hkind] at hv
      rw [stringLiteral_of_denotes hv]
      exact ⟨[t], rfl, .literal (hkind ▸ hv),
        List.forall_mem_singleton.mpr (isShort_of_kind_ne (by simp [hkind]))⟩
  | @constant t ts v hkind hv =>
      obtain ⟨rfl, rfl⟩ : .literal v = e ∧ ts = rest := by simpa using hr
      exact ⟨[t], rfl, .literal (hkind ▸ constant?_eq_some_iff.mp hv),
        List.forall_mem_singleton.mpr (isShort_of_kind_ne (by simp [hkind]))⟩
  | @name root ts rest' names hkind hmembers =>
      obtain ⟨rfl, rfl⟩ : .name (String.ofList root.text) names = e ∧ rest' = rest := by
        simpa using hr
      obtain ⟨us, rfl, hus⟩ := members_of_answer hmembers
      exact ⟨root :: us, rfl, .name hkind hus,
        List.forall_mem_cons.mpr ⟨isShort_of_kind_ne (by simp [hkind]), isShort_of_members hus⟩⟩
  | _ => simp at hr

/-- An integer with few enough digits has a value, as every other number has. -/
lemma exists_numberLiteral {t : Token} (hlex : Lexical t.kind t.text) (hshort : t.IsShort)
    (hkind : t.kind = .number) : ∃ v, numberLiteral t.text = .ok v := by
  obtain ⟨v, hv⟩ := exists_denotes hlex (.inl hkind)
  rw [hkind] at hv
  refine ⟨v, ?_⟩
  rw [numberLiteral_of_denotes hv, if_neg]
  rintro ⟨hpoint, hlong⟩
  exact absurd (hshort hkind hpoint) (by omega)

/-- Where all integers have few enough digits, the parser fails at a token only. -/
theorem Run.unexpected_of_error {stop : Nat} {g : Goal} {ts : List Token} {r : Reading Expr}
    {e : ParseError} (h : Run stop g ts r) (hlex : ∀ t ∈ ts, Lexical t.kind t.text)
    (hshort : ∀ t ∈ ts, t.IsShort) (hr : r = .error e) :
    ∃ expected rest, e = .unexpected expected stop rest := by
  induction h with
  | row hleft _ _ ihrow =>
      obtain ⟨us, rfl, -, -⟩ := hleft.derives hlex rfl
      exact ihrow (List.forall_mem_append.mp hlex).2 (List.forall_mem_append.mp hshort).2 hr
  | rowError _ ih => exact ih hlex hshort hr
  | more _ hright _ _ ihrow =>
      have htail := (List.forall_mem_cons.mp hlex).2
      have htail' := (List.forall_mem_cons.mp hshort).2
      obtain ⟨us, rfl, -, -⟩ := hright.derives htail rfl
      exact ihrow (List.forall_mem_append.mp htail).2 (List.forall_mem_append.mp htail').2 hr
  | moreError _ _ ih =>
      exact ih (List.forall_mem_cons.mp hlex).2 (List.forall_mem_cons.mp hshort).2 hr
  | appliedError _ _ ih =>
      exact ih (List.forall_mem_cons.mp hlex).2 (List.forall_mem_cons.mp hshort).2 hr
  | primary _ _ ih => exact ih hlex hshort hr
  | groupError _ _ ih =>
      exact ih (List.forall_mem_cons.mp hlex).2 (List.forall_mem_cons.mp hshort).2 hr
  | @unclosed a opening ts rest _ _ _ _ =>
      exact ⟨.closingParenthesis, rest, by simpa [eq_comm] using hr⟩
  | @oversized t ts e' hkind he =>
      obtain ⟨v, hv⟩ := exists_numberLiteral (hlex t (by simp)) (hshort t (by simp)) hkind
      simp [hv] at he
  | nameError _ hmembers =>
      obtain ⟨rest, hrest⟩ := unexpected_of_members hmembers
      exact ⟨.memberName, rest, by simpa [hrest, eq_comm] using hr⟩
  | @unexpected ts _ => exact ⟨.operand, ts, by simpa [eq_comm] using hr⟩
  | _ => simp at hr

/-! ## From derivations to runs -/

/-- Whether the operators of a level belong to an expression of a nonterminal. -/
def Nonterminal.Takes : Nonterminal → Level → Prop
  | .row level, l => l.height ≤ level.height
  | .unary, _ => False
  | .primary, _ => False

/-- Tokens that cannot continue an expression of a nonterminal. -/
def Stops (n : Nonterminal) (ts : List Token) : Prop :=
  ∀ t ∈ ts.head?, isDot t = false ∧ ∀ l, n.Takes l → l.build? t = none

lemma takes_of_operand {l l' : Level} (h : l.operand.Takes l') : l'.height < l.height := by
  cases l <;> cases l' <;> simp_all [Level.operand, Nonterminal.Takes, Level.height]

lemma stops_nil (n : Nonterminal) : Stops n [] := by simp [Stops]

lemma Stops.operand {l : Level} {ts : List Token} (h : Stops (.row l) ts) : Stops l.operand ts :=
  fun t ht => ⟨(h t ht).1, fun _ htakes => (h t ht).2 _ (takes_of_operand htakes).le⟩

lemma Stops.primary {ts : List Token} (h : Stops .unary ts) : Stops .primary ts := h

lemma stops_closing {t : Token} (h : t.kind = .paren) (n : Nonterminal) (ts : List Token) :
    Stops n (t :: ts) := by
  intro u hu
  obtain rfl : t = u := by simpa using hu
  refine ⟨by simp [isDot, h], fun l _ => ?_⟩
  cases hop : l.build? t with
  | none => rfl
  | some f =>
      have := (Level.build?_eq_some_iff.mp hop).kind
      simp [h] at this

/-- An operator of a level ends its operands. -/
lemma stops_operator {l : Level} {op : Token} {f : Expr → Expr → Expr}
    (h : Joins l op.kind op.text f) (ts : List Token) : Stops l.operand (op :: ts) := by
  intro u hu
  obtain rfl : op = u := by simpa using hu
  refine ⟨?_, fun l' htakes => ?_⟩
  · rcases h.kind with hkind | hkind <;> simp [isDot, hkind]
  · cases hop : l'.build? op with
    | none => rfl
    | some g =>
        have hlt := takes_of_operand htakes
        rw [h.level_eq (Level.build?_eq_some_iff.mp hop)] at hlt
        omega

/-- How the parser reads the tokens of an expression, whatever stands after them.  A row is lengthened
by what follows, so it is read up to the point where the parser looks for its next operator. -/
def Completes (stop : Nat) : Nonterminal → List Token → Expr → Prop
  | .row level, us, e => ∀ rest r, Stops level.operand rest →
      Run stop (.extend level e) rest r → Run stop (.read (.row level)) (us ++ rest) r
  | .unary, us, e => ∀ rest, Stops .unary rest → Run stop (.read .unary) (us ++ rest) (.ok (e, rest))
  | .primary, us, e =>
      ∀ rest, Stops .primary rest → Run stop (.read .primary) (us ++ rest) (.ok (e, rest))

lemma Completes.run {stop : Nat} {n : Nonterminal} {us rest : List Token} {e : Expr}
    (h : Completes stop n us e) (hrest : Stops n rest) :
    Run stop (.read n) (us ++ rest) (.ok (e, rest)) := by
  cases n with
  | row level =>
      exact h rest _ hrest.operand (.done fun t ht => (hrest t ht).2 level (le_refl level.height))
  | unary => exact h rest hrest
  | primary => exact h rest hrest

/-- No primary begins with a unary operator. -/
lemma head_of_primary {ts : List Token} {e : Expr} (h : Derives .primary ts e) :
    ∃ t us, ts = t :: us ∧ prefixOp? t = none := by
  have hnone : ∀ t : Token, (∀ f, ¬ Prefixes t.kind t.text f) → prefixOp? t = none := by
    intro t ht
    cases hop : prefixOp? t with
    | none => rfl
    | some f => exact absurd (prefixOp?_eq_some_iff.mp hop) (ht f)
  cases h with
  | group hkind _ _ _ _ => exact ⟨_, _, rfl, hnone _ (by rw [hkind]; rintro f ⟨⟩)⟩
  | @literal t v hv =>
      refine ⟨t, [], rfl, hnone t fun f hf => ?_⟩
      revert hf
      generalize t.kind = kind, t.text = text at hv
      rintro ⟨⟩ <;> cases hv
  | name hkind _ => exact ⟨_, _, rfl, hnone _ (by rw [hkind]; rintro f ⟨⟩)⟩

/-- What is derived is read by the parser. -/
theorem Derives.completes {stop : Nat} {n : Nonterminal} {us : List Token} {e : Expr}
    (h : Derives n us e) (hshort : ∀ t ∈ us, t.IsShort) : Completes stop n us e := by
  induction h with
  | operand _ ih => exact fun rest r hrest hrun => .row ((ih hshort).run hrest) hrun
  | @join l op ts us f a b _ hop _ iha ihb =>
      intro rest r hrest hrun
      obtain ⟨hts, hus⟩ := List.forall_mem_append.mp hshort
      rw [List.append_assoc, List.cons_append]
      -- the row up to the operator is read first, and the operator ends its last operand
      refine iha hts _ r (stops_operator hop _) ?_
      exact .more (Level.build?_eq_some_iff.mpr hop)
        ((ihb (List.forall_mem_cons.mp hus).2).run hrest) hrun
  | applied hop _ ih =>
      intro rest hrest
      exact .applied (prefixOp?_eq_some_iff.mpr hop)
        (ih (List.forall_mem_cons.mp hshort).2 rest hrest)
  | primary h ih =>
      intro rest hrest
      -- the parser looks for a unary operator first
      obtain ⟨t, us, rfl, hnone⟩ := head_of_primary h
      exact .primary (by simpa using hnone) (ih hshort rest hrest.primary)
  | @group opening closing ts e hkind htext _ hkind' htext' ih =>
      intro rest hrest
      have hts := (List.forall_mem_append.mp (List.forall_mem_cons.mp hshort).2).1
      have hinner := (ih hts).run (stops_closing hkind' (.row .or) rest)
      rw [List.cons_append, List.append_assoc]
      exact .group (isOpening_eq_true_iff.mpr ⟨hkind, htext⟩) hinner
        (isClosing_eq_true_iff.mpr ⟨hkind', htext'⟩)
  | @literal t v hv =>
      intro rest _
      have ht := hshort t (by simp)
      obtain ⟨kind, text, position⟩ := t
      cases hkind : kind with
      | number =>
          subst hkind
          have hlong : ¬ ('.' ∉ text ∧ digitLimit < text.length) := fun h =>
            absurd (ht rfl h.1) (by simpa using h.2)
          exact .number rfl (by simp only [numberLiteral_of_denotes hv, if_neg hlong])
      | string =>
          subst hkind
          rw [← stringLiteral_of_denotes hv]
          exact .string rfl
      | keyword =>
          subst hkind
          exact .constant rfl (constant?_eq_some_iff.mpr hv)
      | _ => subst hkind; cases hv
  | name hkind hmembers =>
      intro rest hrest
      exact .name hkind (answer_of_members hmembers fun t ht => (hrest t ht).1)

/-- What is derived is all that the parser reads. -/
lemma Derives.answer_eq {stop : Nat} {ts : List Token} {e : Expr} (h : Derives (.row .or) ts e)
    (hshort : ∀ t ∈ ts, t.IsShort) : (Goal.read (.row .or)).answer stop ts = .ok (e, []) := by
  have hrun : Run stop (.read (.row .or)) (ts ++ []) (.ok (e, [])) :=
    (h.completes hshort).run (stops_nil _)
  rw [List.append_nil] at hrun
  exact hrun.answer_eq

/-! ## Conditions -/

lemma Derives.ne_nil {n : Nonterminal} {ts : List Token} {e : Expr} (h : Derives n ts e) :
    ts ≠ [] := by
  induction h with
  | operand _ ih => exact ih
  | primary _ ih => exact ih
  | _ => simp

/-- The parser asks for an expression and wants nothing to be left. -/
lemma ofTokens_eq (stream : Token.Stream) :
    ofTokens stream =
      if stream.tokens = [] then .error .empty
      else match (Goal.read (.row .or)).answer stream.stop stream.tokens with
        | .error e => .error e
        | .ok (e, []) => .ok e
        | .ok (_, t :: ts) => .error (.unexpected .endOfExpression stream.stop (t :: ts)) := by
  unfold ofTokens
  simp only [List.isEmpty_iff, Goal.answer]
  split_ifs
  · rfl
  · cases parseLevel stream.stop .or stream.tokens with
    | error e => rfl
    | ok p =>
        obtain ⟨e, rest, hle⟩ := p
        cases rest <;> rfl

/-- Whether the tokens of a condition derive an expression. -/
def Derived (text : String) (e : Expr) : Prop :=
  ∃ stream, Token.tokenize text.toList = .ok stream ∧ Derives (.row .or) stream.tokens e

/-- Whether no integer of a condition has too many digits to be read. -/
def IsShort (text : String) : Prop :=
  ∀ stream, Token.tokenize text.toList = .ok stream → ∀ t ∈ stream.tokens, Token.IsShort t

lemma scan_of_tokenize {cs : List Char} {stream : Token.Stream}
    (h : Token.tokenize cs = .ok stream) : Token.scan 0 cs = .ok stream.tokens := by
  unfold Token.tokenize at h
  cases hscan : Token.scan 0 cs with
  | error e => simp [hscan, Except.map] at h
  | ok ts =>
      obtain rfl : ⟨ts, cs.length⟩ = stream := by simpa [hscan, Except.map] using h
      rfl

lemma lexical_of_tokenize {cs : List Char} {stream : Token.Stream}
    (h : Token.tokenize cs = .ok stream) : ∀ t ∈ stream.tokens, Lexical t.kind t.text :=
  Token.lexical_of_scan (scan_of_tokenize h)

/-- The tokens of a condition that parses derive the expression, and no integer among them has too
many digits. -/
lemma derives_of_parse {text : String} {e : Expr} (h : parse text = .ok e) :
    ∃ stream, Token.tokenize text.toList = .ok stream ∧ Derives (.row .or) stream.tokens e ∧
      ∀ t ∈ stream.tokens, t.IsShort := by
  unfold parse parseChars at h
  cases hstream : Token.tokenize text.toList with
  | error e' => simp [hstream] at h
  | ok stream =>
      refine ⟨stream, rfl, ?_⟩
      simp only [hstream, ofTokens_eq] at h
      split_ifs at h
      cases hanswer : (Goal.read (.row .or)).answer stream.stop stream.tokens with
      | error e' => simp [hanswer] at h
      | ok p =>
          obtain ⟨e', rest⟩ := p
          cases rest with
          | cons t ts => simp [hanswer] at h
          | nil =>
              obtain rfl : e' = e := by simpa [hanswer] using h
              obtain ⟨us, hus, hderives, hshort⟩ :=
                (run_iff.mpr hanswer).derives (lexical_of_tokenize hstream) rfl
              rw [hus, List.append_nil]
              exact ⟨hderives, hshort⟩

lemma derived_of_parse {text : String} {e : Expr} (h : parse text = .ok e) : Derived text e := by
  obtain ⟨stream, hstream, hderives, -⟩ := derives_of_parse h
  exact ⟨stream, hstream, hderives⟩

lemma parse_of_derived {text : String} {e : Expr} (hshort : IsShort text)
    (h : Derived text e) : parse text = .ok e := by
  obtain ⟨stream, hstream, hderives⟩ := h
  unfold parse parseChars
  simp only [hstream]
  rw [ofTokens_eq, if_neg hderives.ne_nil, hderives.answer_eq (hshort stream hstream)]

/-- A short condition that does not parse is told as a syntax error at a place of it. -/
lemma malformed_of_parse_error {text : String} {error : ParseError} (hshort : IsShort text)
    (h : parse text = .error error) :
    ∃ position : Nat,
      Fault.ofParseError error = Fault.of (.malformed error.message (some position)) := by
  have hunexpected : ∀ expected stop rest, ∃ position : Nat,
      Fault.ofParseError (.unexpected expected stop rest) =
        Fault.of (.malformed (ParseError.unexpected expected stop rest).message
          (some position)) := by
    intro expected stop rest
    cases rest with
    | nil => exact ⟨stop, rfl⟩
    | cons t ts => exact ⟨t.position, rfl⟩
  unfold parse parseChars at h
  cases hstream : Token.tokenize text.toList with
  | error e =>
      obtain rfl : .unexpectedCharacter e.position e.rest = error := by simpa [hstream] using h
      exact ⟨e.position, rfl⟩
  | ok stream =>
      simp only [hstream, ofTokens_eq] at h
      split_ifs at h
      · obtain rfl : .empty = error := by simpa using h
        exact ⟨0, rfl⟩
      · cases hanswer : (Goal.read (.row .or)).answer stream.stop stream.tokens with
        | error e =>
            obtain rfl : e = error := by simpa [hanswer] using h
            obtain ⟨expected, rest, rfl⟩ := (run_iff.mpr hanswer).unexpected_of_error
              (lexical_of_tokenize hstream) (hshort stream hstream) rfl
            exact hunexpected expected stream.stop rest
        | ok p =>
            obtain ⟨e, rest⟩ := p
            cases rest with
            | nil => simp [hanswer] at h
            | cons t ts =>
                obtain rfl : .unexpected .endOfExpression stream.stop (t :: ts) = error := by
                  simpa [hanswer] using h
                exact hunexpected .endOfExpression stream.stop (t :: ts)

/-- A short condition is read as the expression that its tokens derive, of which there is no other;
and if they derive none, then it is told as a syntax error. -/
theorem parse_eq_ok_iff_derives (text : String) (hshort : IsShort text) :
    (∀ e, parse text = .ok e ↔ Derived text e) ∧
      (∀ e e', Derived text e → Derived text e' → e' = e) ∧
      ((¬ ∃ e, Derived text e) → ∃ error, parse text = .error error ∧ ∃ position : Nat,
        Fault.ofParseError error = Fault.of (.malformed error.message (some position))) := by
  have hiff : ∀ e, parse text = .ok e ↔ Derived text e :=
    fun e => ⟨derived_of_parse, parse_of_derived hshort⟩
  refine ⟨hiff, fun e e' h h' => ?_, fun hnone => ?_⟩
  · rw [← hiff] at h h'
    exact Except.ok.inj (h'.symm.trans h)
  · cases hparse : parse text with
    | error error => exact ⟨error, rfl, malformed_of_parse_error hshort hparse⟩
    | ok e => exact absurd ⟨e, derived_of_parse hparse⟩ hnone

/-- A condition in which the negation belongs to the left side of the comparison. -/
theorem parse_negated_side :
    IsShort "!a = 1" ∧
      parse "!a = 1" =
        .ok (.compare .eq (.not (.name "a" [])) (.literal (.number (.int 1)))) := by
  have hstream : Token.tokenize "!a = 1".toList =
      .ok ⟨[⟨.op, ['!'], 0⟩, ⟨.ident, ['a'], 1⟩, ⟨.op, ['='], 3⟩, ⟨.number, ['1'], 5⟩], 6⟩ := by
    cbv
  have hshort : IsShort "!a = 1" := by
    intro stream h
    obtain rfl := Except.ok.inj (hstream.symm.trans h)
    simp [Token.IsShort, digitLimit]
  have hleft : Derives (.row .equality) [⟨.op, ['!'], 0⟩, ⟨.ident, ['a'], 1⟩]
      (.not (.name "a" [])) :=
    .operand (.operand (.applied .exclamation (.primary (.name rfl .nil))))
  have hright : Derives (.row .ordering) [⟨.number, ['1'], 5⟩]
      (.literal (.number (.int 1))) :=
    .operand (.primary (.literal (.integer (Token.isDigits_cons (by decide) (by simp)))))
  have hop : Joins .equality (Token.mk .op ['='] 3).kind ['='] (.compare .eq) := .equals
  have hderives := Derives.join hleft hop hright
  exact ⟨hshort, ((parse_eq_ok_iff_derives "!a = 1" hshort).1 _).mpr
    ⟨_, hstream, .operand (.operand hderives)⟩⟩

end Expr

end FeatureToggles
