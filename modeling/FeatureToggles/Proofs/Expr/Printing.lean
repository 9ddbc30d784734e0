import FeatureToggles.Proofs.Expr.Concatenation
import FeatureToggles.Proofs.Expr.Derivation

/-!
# Expressions as texts

An expression is written with a space between any two tokens and with parentheses only where the
grammar needs them: around an operand that the operator would tear apart.  The parser reads such a
text as the expression again, and what the parser reads from any text can be written so, unless it
holds a number with a fraction.

Main statement: `parse_print`.
-/

namespace FeatureToggles

/-- The level of the operators that compare in the same way. -/
def Comparison.level : Comparison → Expr.Level
  | .eq => .equality
  | .ne => .equality
  | _ => .ordering

namespace Expr

open Token (Kind Lexical IsIdentifier IsDigits Spells)

/-! ## The printer -/

/-- How tightly an expression of a nonterminal holds together. -/
def Nonterminal.rank : Nonterminal → Nat
  | .row .or => 0
  | .row .and => 1
  | .row .equality => 2
  | .row .ordering => 3
  | .unary => 4
  | .primary => 5

/-- The nonterminal that an expression without parentheses belongs to. -/
def nonterminal : Expr → Nonterminal
  | .or .. => .row .or
  | .and .. => .row .and
  | .compare op .. => .row op.level
  | .not _ => .unary
  | .negate _ => .unary
  | _ => .primary

/-- How tightly an expression holds together. -/
def rank (e : Expr) : Nat := e.nonterminal.rank

/-- A text with a backslash before each backslash and each quote. -/
def escaped : List Char → List Char
  | [] => []
  | c :: cs => if c = '\\' ∨ c = '"' then '\\' :: c :: escaped cs else c :: escaped cs

/-- The word that writes a value; only integers, texts, booleans and null are written. -/
def literalWords : Value → List (Kind × List Char)
  | .number (.int i) => [(.number, Nat.toDigits 10 i.toNat)]
  | .text s => [(.string, '"' :: (escaped s.toList ++ ['"']))]
  | .bool true => [(.keyword, ['t', 'r', 'u', 'e'])]
  | .bool false => [(.keyword, ['f', 'a', 'l', 's', 'e'])]
  | .null => [(.keyword, ['n', 'u', 'l', 'l'])]
  | _ => []

/-- Words with parentheses around them, where these are asked for. -/
def bracketed (brackets : Bool) (ws : List (Kind × List Char)) : List (Kind × List Char) :=
  if brackets then (.paren, ['(']) :: (ws ++ [(.paren, [')'])]) else ws

/-- Two operands, written as given, with an operator between them.  The left one is put in
parentheses if it is looser than the row, and the right one if it is not tighter. -/
def joined (level : Level) (op : List Char) (l r : Nat × List (Kind × List Char)) :
    List (Kind × List Char) :=
  bracketed (l.1 < (Nonterminal.row level).rank) l.2 ++
    (.op, op) :: bracketed (r.1 ≤ (Nonterminal.row level).rank) r.2

/-- A unary operator and its operand, written as given, which is put in parentheses if it is looser. -/
def applied (op : List Char) (e : Nat × List (Kind × List Char)) : List (Kind × List Char) :=
  (.op, op) :: bracketed (e.1 < Nonterminal.unary.rank) e.2

/-- The words that write an expression. -/
def words : Expr → List (Kind × List Char)
  | .literal v => literalWords v
  | .name root members =>
    (.ident, root.toList) :: members.flatMap fun member => [(.dot, ['.']), (.ident, member.toList)]
  | .not e => applied ['!'] (e.rank, e.words)
  | .negate e => applied ['-'] (e.rank, e.words)
  | .compare op l r => joined op.level op.symbol.toList (l.rank, l.words) (r.rank, r.words)
  | .and l r => joined .and ['&', '&'] (l.rank, l.words) (r.rank, r.words)
  | .or l r => joined .or ['|', '|'] (l.rank, l.words) (r.rank, r.words)
  | .foreign _ => []

/-- An expression as a text. -/
def print (e : Expr) : String := String.ofList (Token.spaced (e.words.map Prod.snd))

/-! ## What can be written -/

/-- The values that literals without a fraction have. -/
inductive Written : Value → Prop where
  | integer {n : Nat} : (Nat.toDigits 10 n).length ≤ digitLimit → Written (.number (.int n))
  | text (s : String) : Written (.text s)
  | bool (b : Bool) : Written (.bool b)
  | null : Written .null

/-- Whether a text is a part of a name: an identifier that does not spell a keyword. -/
def IsPart (s : String) : Prop :=
  IsIdentifier s.toList ∧ s.toList.map Char.toLower ∉ Token.keywords

/-- The expressions that can be written. -/
inductive Plain : Expr → Prop where
  | literal {v : Value} : Written v → Plain (.literal v)
  | name {root : String} {members : List String} :
      IsPart root → (∀ member ∈ members, IsPart member) → Plain (.name root members)
  | not {e : Expr} : Plain e → Plain (.not e)
  | negate {e : Expr} : Plain e → Plain (.negate e)
  | compare {op : Comparison} {l r : Expr} :
      (∀ s, op ≠ .unknown s) → Plain l → Plain r → Plain (.compare op l r)
  | and {l r : Expr} : Plain l → Plain r → Plain (.and l r)
  | or {l r : Expr} : Plain l → Plain r → Plain (.or l r)

/-- Whether no literal of an expression is a number with a fraction. -/
def FloatFree : Expr → Prop
  | .literal (.number (.float _)) => False
  | .not e => e.FloatFree
  | .negate e => e.FloatFree
  | .compare _ l r => l.FloatFree ∧ r.FloatFree
  | .and l r => l.FloatFree ∧ r.FloatFree
  | .or l r => l.FloatFree ∧ r.FloatFree
  | _ => True

/-! ## Digits and strings -/

lemma spells_escaped (cs : List Char) : Spells (escaped cs) cs := by
  induction cs with
  | nil => exact .nil
  | cons c cs ih =>
      unfold escaped
      split
      · rename_i h
        exact .escaped (by rintro rfl; simp at h) ih
      · rename_i h
        obtain ⟨hback, hquote⟩ := not_or.mp h
        exact .plain hquote hback ih

lemma isDigits_toDigits (n : Nat) : IsDigits (Nat.toDigits 10 n) :=
  ⟨Nat.toDigits_ne_nil, fun _ hc =>
    Text.isDigit_of_isDigit (Nat.isDigit_of_mem_toDigits (by decide) (by decide) hc)⟩

lemma digitsValue_append_singleton (cs : List Char) (c : Char) :
    Text.digitsValue (cs ++ [c]) = 10 * Text.digitsValue cs + (Text.digitValue? c).getD 0 := by
  simp [Text.digitsValue]

lemma digitsValue_toDigits (n : Nat) : Text.digitsValue (Nat.toDigits 10 n) = n := by
  induction n using Nat.strong_induction_on with
  | _ n ih =>
      have hdigit : ∀ d < 10, Text.digitValue? (Nat.digitChar d) = some d := by decide
      rw [Nat.toDigits_eq_if (by decide)]
      split
      · rename_i hlt
        simp [Text.digitsValue, hdigit n hlt]
      · rw [digitsValue_append_singleton, ih (n / 10) (by omega), hdigit _ (Nat.mod_lt _ (by decide))]
        simp only [Option.getD_some]
        omega

lemma denotes_literalWords {v : Value} (h : Written v) :
    ∃ w, literalWords v = [w] ∧ Denotes w.1 w.2 v ∧
      (w.1 = .number → w.2.length ≤ digitLimit) := by
  cases h with
  | @integer n hn =>
      refine ⟨_, rfl, ?_, fun _ => hn⟩
      have hdenotes := Denotes.integer (isDigits_toDigits n)
      rwa [digitsValue_toDigits] at hdenotes
  | text s =>
      refine ⟨_, rfl, ?_, by simp⟩
      have hdenotes := Denotes.string (spells_escaped s.toList)
      rwa [String.ofList_toList] at hdenotes
  | bool b =>
      cases b with
      | true => exact ⟨_, rfl, .true, by simp⟩
      | false => exact ⟨_, rfl, .false, by simp⟩
  | null => exact ⟨_, rfl, .null, by simp⟩

/-! ## The words of an expression -/

/-- Whether a word is a token of its class, and no integer with too many digits. -/
def IsWord (w : Kind × List Char) : Prop :=
  Lexical w.1 w.2 ∧ (w.1 = .number → w.2.length ≤ digitLimit)

lemma lexical_of_denotes {kind : Kind} {text : List Char} {v : Value} (h : Denotes kind text v) :
    Lexical kind text := by
  cases h with
  | integer hds => exact .integer hds
  | decimal hwhole hfraction => exact .decimal hwhole hfraction
  | string hspells => exact .string hspells
  | true => exact .keyword (by decide)
  | false => exact .keyword (by decide)
  | null => exact .keyword (by decide)

lemma isWord_bracketed {b : Bool} {ws : List (Kind × List Char)} (h : ∀ w ∈ ws, IsWord w) :
    ∀ w ∈ bracketed b ws, IsWord w := by
  unfold bracketed
  split
  · intro w hw
    simp only [List.mem_cons, List.mem_append, List.not_mem_nil, or_false] at hw
    rcases hw with rfl | hw | rfl
    · exact ⟨.opening, by simp⟩
    · exact h w hw
    · exact ⟨.closing, by simp⟩
  · exact h

lemma isWord_joined {level : Level} {op : List Char} {l r : Nat × List (Kind × List Char)}
    (hop : op ∈ Token.operators) (hl : ∀ w ∈ l.2, IsWord w) (hr : ∀ w ∈ r.2, IsWord w) :
    ∀ w ∈ joined level op l r, IsWord w := by
  intro w hw
  unfold joined at hw
  rcases List.mem_append.mp hw with hw | hw
  · exact isWord_bracketed hl w hw
  · rcases List.mem_cons.mp hw with rfl | hw
    · exact ⟨.op hop, by simp⟩
    · exact isWord_bracketed hr w hw

lemma isWord_applied {op : List Char} {e : Nat × List (Kind × List Char)}
    (hop : op ∈ Token.operators) (he : ∀ w ∈ e.2, IsWord w) : ∀ w ∈ applied op e, IsWord w := by
  intro w hw
  unfold applied at hw
  rcases List.mem_cons.mp hw with rfl | hw
  · exact ⟨.op hop, by simp⟩
  · exact isWord_bracketed he w hw

lemma symbol_mem_operators {op : Comparison} (h : ∀ s, op ≠ .unknown s) :
    op.symbol.toList ∈ Token.operators := by
  cases op <;> first | decide | exact absurd rfl (h _)

/-- All words of an expression that can be written are tokens. -/
lemma Plain.isWord {e : Expr} (h : Plain e) : ∀ w ∈ e.words, IsWord w := by
  induction h with
  | literal hv =>
      obtain ⟨w, hw, hdenotes, hshort⟩ := denotes_literalWords hv
      intro u hu
      rw [words, hw, List.mem_singleton] at hu
      exact hu ▸ ⟨lexical_of_denotes hdenotes, hshort⟩
  | name hroot hmembers =>
      intro w hw
      simp only [words, List.mem_cons, List.mem_flatMap, List.not_mem_nil, or_false] at hw
      rcases hw with rfl | ⟨member, hmember, rfl | rfl⟩
      · exact ⟨.ident hroot.1 hroot.2, by simp⟩
      · exact ⟨.dot, by simp⟩
      · exact ⟨.ident (hmembers member hmember).1 (hmembers member hmember).2, by simp⟩
  | not _ ih => exact isWord_applied (by decide) ih
  | negate _ ih => exact isWord_applied (by decide) ih
  | compare hop _ _ ihl ihr => exact isWord_joined (symbol_mem_operators hop) ihl ihr
  | and _ _ ihl ihr => exact isWord_joined (by decide) ihl ihr
  | or _ _ ihl ihr => exact isWord_joined (by decide) ihl ihr

/-! ## The words derive the expression -/

/-- A word as a token that stands nowhere. -/
def unplaced (w : Kind × List Char) : Token := ⟨w.1, w.2, 0⟩

lemma Nonterminal.eq_of_rank {n m : Nonterminal} (h : n.rank = m.rank) : n = m := by
  cases n with
  | row l => cases m with
    | row l' => cases l <;> cases l' <;> simp_all [Nonterminal.rank]
    | _ => cases l <;> simp_all [Nonterminal.rank]
  | _ => cases m with
    | row l' => cases l' <;> simp_all [Nonterminal.rank]
    | _ => simp_all [Nonterminal.rank]

lemma rank_operand (l : Level) : l.operand.rank = (Nonterminal.row l).rank + 1 := by
  cases l <;> rfl

/-- What is derived tightly is derived more loosely as well. -/
lemma Derives.of_rank_le {n m : Nonterminal} {ts : List Token} {e : Expr} (h : Derives n ts e)
    (hrank : m.rank ≤ n.rank) : Derives m ts e := by
  have hrow : ∀ l : Level, (l.operand.rank ≤ n.rank → Derives l.operand ts e) →
      (Nonterminal.row l).rank ≤ n.rank → Derives (.row l) ts e := by
    intro l hoperand hle
    rcases Nat.eq_or_lt_of_le hle with heq | hlt
    · rwa [Nonterminal.eq_of_rank heq]
    · exact .operand (hoperand (by rw [rank_operand]; exact hlt))
  have hunary : Nonterminal.unary.rank ≤ n.rank → Derives .unary ts e := by
    intro hle
    rcases Nat.eq_or_lt_of_le hle with heq | hlt
    · rwa [Nonterminal.eq_of_rank heq]
    · have hprimary : n = .primary := by
        cases n with
        | row l => cases l <;> simp [Nonterminal.rank] at hlt
        | unary => simp at hlt
        | primary => rfl
      exact .primary (hprimary ▸ h)
  -- from the tightest nonterminal to the loosest
  cases m with
  | primary =>
      have hprimary : n = .primary := by
        cases n with
        | row l => cases l <;> simp [Nonterminal.rank] at hrank
        | unary => simp [Nonterminal.rank] at hrank
        | primary => rfl
      exact hprimary ▸ h
  | unary => exact hunary hrank
  | row l =>
      have hordering := hrow .ordering hunary
      have hequality := hrow .equality hordering
      have hand := hrow .and hequality
      cases l with
      | or => exact hrow .or hand hrank
      | and => exact hand hrank
      | equality => exact hequality hrank
      | ordering => exact hordering hrank

/-- An operand that is put in parentheses where it is too loose is derived as tightly as needed. -/
lemma derives_bracketed {e : Expr} {ws : List (Kind × List Char)} {n : Nonterminal} {b : Bool}
    (h : Derives e.nonterminal (ws.map unplaced) e) (hb : b = false → n.rank ≤ e.rank) :
    Derives n ((bracketed b ws).map unplaced) e := by
  cases b with
  | false => exact h.of_rank_le (hb rfl)
  | true =>
      have hinner : Derives (.row .or) (ws.map unplaced) e := h.of_rank_le (Nat.zero_le _)
      have hgroup : Derives .primary
          (unplaced (.paren, ['(']) :: (ws.map unplaced ++ [unplaced (.paren, [')'])])) e :=
        .group rfl rfl hinner rfl rfl
      have hrank : n.rank ≤ Nonterminal.primary.rank := by
        cases n with
        | row l => cases l <;> decide
        | _ => decide
      simpa [bracketed] using hgroup.of_rank_le hrank

lemma derives_joined {level : Level} {op : List Char} {f : Expr → Expr → Expr} {l r : Expr}
    (hop : Joins level .op op f) (hl : Derives l.nonterminal (l.words.map unplaced) l)
    (hr : Derives r.nonterminal (r.words.map unplaced) r) :
    Derives (.row level) ((joined level op (l.rank, l.words) (r.rank, r.words)).map unplaced)
      (f l r) := by
  unfold joined
  rw [List.map_append, List.map_cons]
  refine .join (derives_bracketed hl fun h => ?_) hop (derives_bracketed hr fun h => ?_)
  · simpa using h
  · rw [rank_operand]
    exact Nat.succ_le_of_lt (by simpa using h)

lemma derives_applied {op : List Char} {f : Expr → Expr} {e : Expr} (hop : Prefixes .op op f)
    (he : Derives e.nonterminal (e.words.map unplaced) e) :
    Derives .unary ((applied op (e.rank, e.words)).map unplaced) (f e) := by
  unfold applied
  rw [List.map_cons]
  refine .applied hop (derives_bracketed he fun h => ?_)
  simpa using h

lemma joins_symbol {op : Comparison} (h : ∀ s, op ≠ .unknown s) :
    Joins op.level .op op.symbol.toList (.compare op) := by
  cases op with
  | eq => exact .doubleEquals
  | ne => exact .notEquals
  | lt => exact .less
  | le => exact .lessEquals
  | gt => exact .greater
  | ge => exact .greaterEquals
  | unknown symbol => exact absurd rfl (h symbol)

lemma members_words (members : List String) :
    Members ((members.flatMap fun member => [(Kind.dot, ['.']), (Kind.ident, member.toList)]).map
      unplaced) members := by
  induction members with
  | nil => exact .nil
  | cons member members ih =>
      have hcons : Members (unplaced (.dot, ['.']) :: unplaced (.ident, member.toList) :: _)
          (String.ofList member.toList :: members) := .cons rfl rfl rfl ih
      rw [String.ofList_toList] at hcons
      exact hcons

/-- The words of an expression that can be written derive it. -/
lemma Plain.derives_words {e : Expr} (h : Plain e) :
    Derives e.nonterminal (e.words.map unplaced) e := by
  induction h with
  | literal hv =>
      obtain ⟨w, hw, hdenotes, -⟩ := denotes_literalWords hv
      rw [words, hw]
      exact .literal hdenotes
  | @name root members _ _ =>
      have hname : Derives .primary (unplaced (.ident, root.toList) :: _)
          (.name (String.ofList root.toList) members) := .name rfl (members_words members)
      rw [String.ofList_toList] at hname
      exact hname
  | not _ ih => exact derives_applied .exclamation ih
  | negate _ ih => exact derives_applied .minus ih
  | compare hop _ _ ihl ihr => exact derives_joined (joins_symbol hop) ihl ihr
  | and _ _ ihl ihr => exact derives_joined .ampersands ihl ihr
  | or _ _ ihl ihr => exact derives_joined .bars ihl ihr

/-! ## Reading what was written -/

lemma isShort_of_isWord {t : Token} (h : IsWord t.word) : t.IsShort := fun hkind _ => h.2 hkind

/-- An expression that can be written is read from its text. -/
theorem parse_print_of_plain {e : Expr} (h : Plain e) : parse (print e) = .ok e := by
  obtain ⟨ts, hts, hwords⟩ := Token.scan_spaced (fun w hw => (h.isWord w hw).1) 0
  have hstream : Token.tokenize (print e).toList =
      .ok ⟨ts, (Token.spaced (e.words.map Prod.snd)).length⟩ := by
    rw [print, String.toList_ofList, Token.tokenize, hts]
    rfl
  have hderives : Derives (.row .or) ts e := by
    -- the grammar does not ask where the tokens stand
    have hplaced : ts.map Token.word = (e.words.map unplaced).map Token.word := by
      rw [hwords, List.map_map]
      exact (List.map_id _).symm
    exact (h.derives_words.congr hplaced).of_rank_le (Nat.zero_le _)
  refine parse_of_derived (fun stream h' t ht => ?_) ⟨_, hstream, hderives⟩
  obtain rfl := Except.ok.inj (hstream.symm.trans h')
  have hmem : t.word ∈ e.words := hwords ▸ List.mem_map_of_mem ht
  exact isShort_of_isWord (h.isWord _ hmem)

/-! ## Writing what was read -/

lemma digitValue?_le {c : Char} {d : Nat} (h : Text.digitValue? c = some d) : d ≤ 9 := by
  unfold Text.digitValue? at h
  obtain ⟨z, hz, rfl⟩ := Option.map_eq_some_iff.mp h
  have hrange := List.find?_some hz
  simp only [Bool.and_eq_true, decide_eq_true_eq] at hrange
  omega

lemma digitsValue_lt (ds : List Char) : Text.digitsValue ds < Nat.pow 10 ds.length := by
  induction ds using List.reverseRecOn with
  | nil => simp [Text.digitsValue]
  | append_singleton ds d ih =>
      have hle : (Text.digitValue? d).getD 0 ≤ 9 := by
        cases hd : Text.digitValue? d with
        | none => simp
        | some v => exact digitValue?_le hd
      have hpow : Nat.pow 10 (ds.length + 1) = Nat.pow 10 ds.length * 10 := rfl
      rw [digitsValue_append_singleton, List.length_append, List.length_singleton, hpow]
      omega

lemma length_toDigits_digitsValue {ds : List Char} {n : Nat} (hn : 0 < n) (h : ds.length ≤ n) :
    (Nat.toDigits 10 (Text.digitsValue ds)).length ≤ n := by
  rw [Nat.length_toDigits_le_iff (by decide) hn]
  exact (digitsValue_lt ds).trans_le (Nat.pow_le_pow_right (by decide) h)

lemma isPart_of_lexical {text : List Char} (h : Lexical .ident text) :
    IsPart (String.ofList text) := by
  cases h with
  | ident hident hkeyword =>
      unfold IsPart
      rw [String.toList_ofList]
      exact ⟨hident, hkeyword⟩

lemma isPart_of_members {ts : List Token} {names : List String} (h : Members ts names)
    (hlex : ∀ t ∈ ts, Lexical t.kind t.text) : ∀ name ∈ names, IsPart name := by
  induction h with
  | nil => simp
  | @cons dot member ts names _ _ hmember _ ih =>
      have hpart : Lexical .ident member.text := hmember ▸ hlex member (by simp)
      intro name hname
      rcases List.mem_cons.mp hname with rfl | hname
      · exact isPart_of_lexical hpart
      · exact ih (fun t ht => hlex t (by simp [ht])) name hname

lemma written_of_denotes {t : Token} {v : Value} (h : Denotes t.kind t.text v) (hshort : t.IsShort)
    (hfree : (Expr.literal v).FloatFree) : Written v := by
  obtain ⟨kind, text, position⟩ := t
  cases h with
  | integer hds =>
      have hlength := hshort rfl (Token.point_not_mem_of_isDigits hds)
      exact .integer (length_toDigits_digitsValue (by decide) hlength)
  | decimal => exact absurd hfree (by simp [FloatFree])
  | string => exact .text _
  | true => exact .bool _
  | false => exact .bool _
  | null => exact .null

lemma Joins.floatFree {l : Level} {kind : Kind} {text : List Char} {f : Expr → Expr → Expr}
    {a b : Expr} (h : Joins l kind text f) (hfree : (f a b).FloatFree) :
    a.FloatFree ∧ b.FloatFree := by
  cases h <;> exact hfree

lemma Joins.plain {l : Level} {kind : Kind} {text : List Char} {f : Expr → Expr → Expr}
    {a b : Expr} (h : Joins l kind text f) (ha : Plain a) (hb : Plain b) : Plain (f a b) := by
  cases h
  case bars | or => exact .or ha hb
  case ampersands | and => exact .and ha hb
  all_goals exact .compare (by simp) ha hb

lemma Prefixes.plain {kind : Kind} {text : List Char} {f : Expr → Expr} {e : Expr}
    (h : Prefixes kind text f) (he : e.FloatFree → Plain e) (hfree : (f e).FloatFree) :
    Plain (f e) := by
  cases h
  case minus => exact .negate (he hfree)
  all_goals exact .not (he hfree)

/-- What tokens derive can be written, unless it holds a number with a fraction. -/
theorem Derives.plain {n : Nonterminal} {ts : List Token} {e : Expr} (h : Derives n ts e)
    (hlex : ∀ t ∈ ts, Lexical t.kind t.text) (hshort : ∀ t ∈ ts, t.IsShort)
    (hfree : e.FloatFree) : Plain e := by
  induction h with
  | operand _ ih => exact ih hlex hshort hfree
  | primary _ ih => exact ih hlex hshort hfree
  | join _ hop _ iha ihb =>
      obtain ⟨hfree, hfree'⟩ := hop.floatFree hfree
      obtain ⟨hlex, hlex'⟩ := List.forall_mem_append.mp hlex
      obtain ⟨hshort, hshort'⟩ := List.forall_mem_append.mp hshort
      exact hop.plain (iha hlex hshort hfree)
        (ihb (List.forall_mem_cons.mp hlex').2 (List.forall_mem_cons.mp hshort').2 hfree')
  | applied hop _ ih =>
      exact hop.plain (ih (List.forall_mem_cons.mp hlex).2 (List.forall_mem_cons.mp hshort).2) hfree
  | group _ _ _ _ _ ih =>
      have hlex := (List.forall_mem_append.mp (List.forall_mem_cons.mp hlex).2).1
      have hshort := (List.forall_mem_append.mp (List.forall_mem_cons.mp hshort).2).1
      exact ih hlex hshort hfree
  | @literal t v hv =>
      exact .literal (written_of_denotes hv (hshort t (by simp)) hfree)
  | @name root ts names hroot hmembers =>
      have hpart : Lexical .ident root.text := hroot ▸ hlex root (by simp)
      exact .name (isPart_of_lexical hpart)
        (isPart_of_members hmembers (List.forall_mem_cons.mp hlex).2)

/-- An expression that can be written is read from its text; and all that is read from any text can
be written and read again, unless it holds a number with a fraction. -/
theorem parse_print :
    (∀ e, Plain e → parse (print e) = .ok e) ∧
      ∀ text e, parse text = .ok e → e.FloatFree → Plain e ∧ parse (print e) = .ok e := by
  refine ⟨fun e => parse_print_of_plain, fun text e hparse hfree => ?_⟩
  obtain ⟨stream, hstream, hderives, hshort⟩ := derives_of_parse hparse
  have hplain := hderives.plain (lexical_of_tokenize hstream) hshort hfree
  exact ⟨hplain, parse_print_of_plain hplain⟩

/-- An expression with operands that need parentheses, as it is written and read. -/
theorem parse_print_grouped :
    ∃ e, Plain e ∧ e.FloatFree ∧ print e = "( a || b . c ) && ! ( d == \"e\\\"f\" )" ∧
      parse "( a || b . c ) && ! ( d == \"e\\\"f\" )" = .ok e := by
  have hpart : IsPart "a" ∧ IsPart "b" ∧ IsPart "c" ∧ IsPart "d" :=
    ⟨⟨⟨'a', [], rfl, rfl, by simp⟩, by decide⟩, ⟨⟨'b', [], rfl, rfl, by simp⟩, by decide⟩,
      ⟨⟨'c', [], rfl, rfl, by simp⟩, by decide⟩, ⟨⟨'d', [], rfl, rfl, by simp⟩, by decide⟩⟩
  obtain ⟨ha, hb, hc, hd⟩ := hpart
  have hplain : Plain (.and (.or (.name "a" []) (.name "b" ["c"]))
      (.not (.compare .eq (.name "d" []) (.literal (.text "e\"f"))))) :=
    .and (.or (.name ha (by simp)) (.name hb (by simpa using hc)))
      (.not (.compare (by simp) (.name hd (by simp)) (.literal (.text _))))
  have hprint : print (.and (.or (.name "a" []) (.name "b" ["c"]))
      (.not (.compare .eq (.name "d" []) (.literal (.text "e\"f"))))) =
        "( a || b . c ) && ! ( d == \"e\\\"f\" )" := by
    cbv
  have hparse := parse_print.1 _ hplain
  rw [hprint] at hparse
  have hfree : (Expr.and (.or (.name "a" []) (.name "b" ["c"]))
      (.not (.compare .eq (.name "d" []) (.literal (.text "e\"f"))))).FloatFree := by
    simp [FloatFree]
  exact ⟨_, (parse_print.2 _ _ hparse hfree).1, hfree, hprint, hparse⟩

end Expr

end FeatureToggles
