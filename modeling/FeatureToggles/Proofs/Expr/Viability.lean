import FeatureToggles.Proofs.Expr.Derivation

/-!
# Where the parser stops

The parser looks one token ahead: of the tokens that it leaves only the first one counts for what it
answers.  Where it fails, the tokens before that place can be completed to an expression, by a name and by
the parentheses that are still open; but no expression goes on with the token that stands there.  So a
syntax error is told at the first token that is one too many.

Main statements: `Run.resume`, `Run.stuck` and `error_at_first_unviable`.
-/

namespace FeatureToggles

/-- The tokens of a condition, and none for its end. -/
def Token.Stream.symbols (stream : Token.Stream) : List (Option Token) :=
  stream.tokens.map some ++ [none]

/-- Where the tokens of a condition stand, and where it ends. -/
def Token.Stream.places (stream : Token.Stream) : List Nat :=
  stream.tokens.map Token.position ++ [stream.stop]

namespace Expr

open Token (Lexical)

/-- Whether the tokens of some condition that the parser accepts begin with these, the end being the last
of them. -/
def Viable (symbols : List (Option Token)) : Prop :=
  ∃ (stream : Token.Stream) (e : Expr), (∀ t ∈ stream.tokens, Lexical t.kind t.text) ∧
    ofTokens stream = .ok e ∧ symbols <+: stream.symbols

/-! ## Completions -/

/-- A name, which stands for an operand or a member wherever one is missing. -/
def someName : Token := ⟨.ident, ['a'], 0⟩

/-- The parenthesis that closes a group. -/
def closingToken : Token := ⟨.paren, [')'], 0⟩

/-- Whether a token may be used to complete others. -/
def IsFiller (t : Token) : Prop := t = someName ∨ t = closingToken

/-- Whether some tokens, completed by names and closing parentheses, lead from a goal to an expression. -/
def Goal.Completable (g : Goal) (us : List Token) : Prop :=
  ∃ ws e, (∀ t ∈ ws, IsFiller t) ∧ g.Derives (us ++ ws) e

lemma IsFiller.lexical {t : Token} (h : IsFiller t) : Lexical t.kind t.text := by
  obtain rfl | rfl := h
  · exact .ident ⟨'a', [], rfl, by decide, by simp⟩ (by decide)
  · exact .closing

lemma IsFiller.isShort {t : Token} (h : IsFiller t) : t.IsShort := by
  obtain rfl | rfl := h <;> exact isShort_of_kind_ne (by decide)

namespace Goal.Completable

variable {l : Level} {us vs : List Token} {a b : Expr}

lemma of_derives {g : Goal} (h : g.Derives us a) : g.Completable us :=
  ⟨[], a, by simp, by rwa [List.append_nil]⟩

lemma operand (h : (Goal.read l.operand).Completable us) :
    (Goal.read (.row l)).Completable us := by
  obtain ⟨ws, e, hws, he⟩ := h
  exact ⟨ws, e, hws, .operand he⟩

lemma primary (h : (Goal.read .primary).Completable us) : (Goal.read .unary).Completable us := by
  obtain ⟨ws, e, hws, he⟩ := h
  exact ⟨ws, e, hws, .primary he⟩

/-- A row whose first operand is complete. -/
lemma row (ha : Expr.Derives l.operand us a) (h : (Goal.extend l a).Completable vs) :
    (Goal.read (.row l)).Completable (us ++ vs) := by
  obtain ⟨ws, e, hws, he⟩ := h
  have hrow := he us (.operand ha)
  exact ⟨ws, e, hws, by rwa [List.append_assoc]⟩

/-- A row with one more operand, which is complete. -/
lemma more {op : Token} {f : Expr → Expr → Expr} (hop : l.build? op = some f)
    (hb : Expr.Derives l.operand us b) (h : (Goal.extend l (f a b)).Completable vs) :
    (Goal.extend l a).Completable (op :: (us ++ vs)) := by
  obtain ⟨ws, e, hws, he⟩ := h
  refine ⟨ws, e, hws, fun ts hts => ?_⟩
  have hrow := he _ (.join hts (Level.build?_eq_some_iff.mp hop) hb)
  simpa using hrow

/-- A row with one more operand, which is completed. -/
lemma last {op : Token} {f : Expr → Expr → Expr} (hop : l.build? op = some f)
    (h : (Goal.read l.operand).Completable us) : (Goal.extend l a).Completable (op :: us) := by
  obtain ⟨ws, e, hws, he⟩ := h
  exact ⟨ws, f a e, hws, fun ts hts => .join hts (Level.build?_eq_some_iff.mp hop) he⟩

lemma applied {op : Token} {f : Expr → Expr} (hop : prefixOp? op = some f)
    (h : (Goal.read .unary).Completable us) : (Goal.read .unary).Completable (op :: us) := by
  obtain ⟨ws, e, hws, he⟩ := h
  exact ⟨ws, f e, hws, .applied (prefixOp?_eq_some_iff.mp hop) he⟩

/-- A group is completed by its closing parenthesis. -/
lemma group {opening : Token} (hopening : isOpening opening = true)
    (h : (Goal.read (.row .or)).Completable us) :
    (Goal.read .primary).Completable (opening :: us) := by
  obtain ⟨ws, e, hws, he⟩ := h
  obtain ⟨hkind, htext⟩ := isOpening_eq_true_iff.mp hopening
  refine ⟨ws ++ [closingToken], e, List.forall_mem_append.mpr ⟨hws, ?_⟩, ?_⟩
  · exact List.forall_mem_singleton.mpr (.inr rfl)
  · have hgroup : Expr.Derives .primary (opening :: ((us ++ ws) ++ [closingToken])) e :=
      .group hkind htext he rfl rfl
    rw [List.append_assoc] at hgroup
    exact hgroup

/-- A missing operand is completed by a name. -/
lemma missing : (Goal.read .primary).Completable [] :=
  ⟨[someName], .name "a" [], List.forall_mem_singleton.mpr (.inl rfl), .name rfl .nil⟩

/-- A missing member is completed by a name. -/
lemma member {root : Token} {names : List String} (hroot : root.kind = .ident)
    (h : Members (us ++ [someName]) names) : (Goal.read .primary).Completable (root :: us) :=
  ⟨[someName], _, List.forall_mem_singleton.mpr (.inl rfl), .name hroot h⟩

end Goal.Completable

/-! ## One token ahead -/

lemma head?_append_congr {rest rest' : List Token} (h : rest'.head? = rest.head?)
    (us : List Token) : (us ++ rest').head? = (us ++ rest).head? := by
  rw [List.head?_append, List.head?_append, h]

/-- No dot follows the members that were read. -/
lemma isDot_of_answer {stop : Nat} {ts rest : List Token} {names : List String}
    (h : forget (members stop ts) = .ok (names, rest)) : ∀ t ∈ rest.head?, isDot t = false := by
  fun_induction members stop ts generalizing names with
  | case1 =>
      obtain ⟨-, rfl⟩ : [] = names ∧ [] = rest := by simpa [forget] using h
      simp
  | case2 => simp [forget] at h
  | case3 => simp [forget] at h
  | case4 dot hdot member ts hmember names' rest' hle hrest ih =>
      obtain ⟨-, rfl⟩ : String.ofList member.text :: names' = names ∧ rest' = rest := by
        simpa [forget] using h
      exact ih (by rw [hrest, forget])
  | case5 => simp [forget] at h
  | case6 t ts hdot =>
      obtain ⟨-, rfl⟩ : [] = names ∧ t :: ts = rest := by simpa [forget] using h
      simpa using hdot

/-- What the parser reads depends on the tokens that it reads and on the first one after them. -/
theorem Run.resume {stop : Nat} {g : Goal} {ts rest : List Token} {r : Reading Expr} {e : Expr}
    (h : Run stop g ts r) (hr : r = .ok (e, rest)) :
    ∃ us, ts = us ++ rest ∧ ∀ stop' rest', rest'.head? = rest.head? →
      Run stop' g (us ++ rest') (.ok (e, rest')) := by
  induction h generalizing e rest with
  | row _ _ ih ihrow =>
      obtain ⟨us, rfl, hus⟩ := ih rfl
      obtain ⟨vs, rfl, hvs⟩ := ihrow hr
      refine ⟨us ++ vs, by simp, fun stop' rest' hhead => ?_⟩
      rw [List.append_assoc]
      exact .row (hus stop' _ (head?_append_congr hhead vs)) (hvs stop' rest' hhead)
  | done h =>
      obtain ⟨rfl, rfl⟩ : _ = e ∧ _ = rest := by simpa using hr
      refine ⟨[], rfl, fun stop' rest' hhead => .done ?_⟩
      rwa [List.nil_append, hhead]
  | @more l a b t ts mid f r hop _ _ ih ihrow =>
      obtain ⟨us, rfl, hus⟩ := ih rfl
      obtain ⟨vs, rfl, hvs⟩ := ihrow hr
      refine ⟨t :: (us ++ vs), by simp, fun stop' rest' hhead => ?_⟩
      rw [List.cons_append, List.append_assoc]
      exact .more hop (hus stop' _ (head?_append_congr hhead vs)) (hvs stop' rest' hhead)
  | @applied a t ts mid f hop _ ih =>
      obtain ⟨rfl, rfl⟩ : f a = e ∧ mid = rest := by simpa using hr
      obtain ⟨us, rfl, hus⟩ := ih rfl
      exact ⟨t :: us, rfl, fun stop' rest' hhead => .applied hop (hus stop' rest' hhead)⟩
  | primary hnone _ ih =>
      obtain ⟨us, rfl, hus⟩ := ih hr
      refine ⟨us, rfl, fun stop' rest' hhead => .primary ?_ (hus stop' rest' hhead)⟩
      rwa [head?_append_congr hhead us]
  | @group a opening closing ts mid hopening _ hclosing ih =>
      obtain ⟨rfl, rfl⟩ : a = e ∧ mid = rest := by simpa using hr
      obtain ⟨us, rfl, hus⟩ := ih rfl
      refine ⟨opening :: (us ++ [closing]), by simp, fun stop' rest' _ => ?_⟩
      rw [List.cons_append, List.append_assoc]
      exact .group hopening (hus stop' (closing :: rest') rfl) hclosing
  | @number t ts v hkind hv =>
      obtain ⟨rfl, rfl⟩ : .literal v = e ∧ ts = rest := by simpa using hr
      exact ⟨[t], rfl, fun stop' rest' _ => .number hkind hv⟩
  | @string t ts hkind =>
      obtain ⟨rfl, rfl⟩ : .literal (stringLiteral t.text) = e ∧ ts = rest := by simpa using hr
      exact ⟨[t], rfl, fun stop' rest' _ => .string hkind⟩
  | @constant t ts v hkind hv =>
      obtain ⟨rfl, rfl⟩ : .literal v = e ∧ ts = rest := by simpa using hr
      exact ⟨[t], rfl, fun stop' rest' _ => .constant hkind hv⟩
  | @name root ts mid names hkind hmembers =>
      obtain ⟨rfl, rfl⟩ : .name (String.ofList root.text) names = e ∧ mid = rest := by
        simpa using hr
      obtain ⟨us, rfl, hus⟩ := members_of_answer hmembers
      refine ⟨root :: us, rfl, fun stop' rest' hhead => .name hkind (answer_of_members hus ?_)⟩
      rw [hhead]
      exact isDot_of_answer hmembers
  | _ => simp at hr

/-- What the parser reads is derived, and it is read again before other tokens that begin in the same
way. -/
lemma Run.derives_and_resumes {stop : Nat} {g : Goal} {ts rest : List Token} {e : Expr}
    (h : Run stop g ts (.ok (e, rest))) (hlex : ∀ t ∈ ts, Lexical t.kind t.text) :
    ∃ us, ts = us ++ rest ∧ g.Derives us e ∧ ∀ stop' rest', rest'.head? = rest.head? →
      Run stop' g (us ++ rest') (.ok (e, rest')) := by
  obtain ⟨us, rfl, hderives, -⟩ := h.derives hlex rfl
  obtain ⟨vs, hvs, hresume⟩ := h.resume rfl
  obtain rfl := List.append_cancel_right hvs
  exact ⟨us, rfl, hderives, hresume⟩

/-! ## Where the parser is stuck -/

/-- How the parser is stuck on the way from a goal.  What it has read can be completed; and it fails in the
same way before all tokens that begin with the same one, or before none if it is at the end. -/
structure Stuck (g : Goal) (expected : Expectation) (us rest : List Token) : Prop where
  completable : g.Completable us
  fails : ∀ stop' rest', rest'.head? = rest.head? →
    Run stop' g (us ++ rest') (.error (.unexpected expected stop' rest'))

/-- The parser is stuck among members where one is missing. -/
lemma stuck_of_members {stop : Nat} {ts : List Token} {e : ParseError}
    (h : forget (members stop ts) = .error e) :
    ∃ us rest, ts = us ++ rest ∧ e = .unexpected .memberName stop rest ∧
      (∃ names, Members (us ++ [someName]) names) ∧
      ∀ stop' rest', rest'.head? = rest.head? →
        forget (members stop' (us ++ rest')) = .error (.unexpected .memberName stop' rest') := by
  fun_induction members stop ts with
  | case1 => simp [forget] at h
  | case2 dot hdot =>
      obtain ⟨hkind, htext⟩ := isDot_eq_true_iff.mp hdot
      refine ⟨[dot], [], rfl, by simpa [forget, eq_comm] using h,
        ⟨_, .cons hkind htext rfl .nil⟩, fun stop' rest' hhead => ?_⟩
      obtain rfl : rest' = [] := by simpa using hhead
      rw [List.append_nil, members.eq_def]
      simp [hdot, forget]
  | case3 dot hdot member ts hmember e' he ih =>
      obtain rfl : e' = e := by simpa [forget] using h
      obtain ⟨us, rest, rfl, rfl, ⟨names, hnames⟩, hfails⟩ := ih (by rw [he, forget])
      obtain ⟨hkind, htext⟩ := isDot_eq_true_iff.mp hdot
      refine ⟨dot :: member :: us, rest, rfl, rfl, ⟨_, .cons hkind htext hmember hnames⟩,
        fun stop' rest' hhead => ?_⟩
      rw [List.cons_append, List.cons_append, answer_members_cons hdot hmember,
        hfails stop' rest' hhead]
  | case4 => simp [forget] at h
  | case5 dot hdot member ts hmember =>
      obtain ⟨hkind, htext⟩ := isDot_eq_true_iff.mp hdot
      refine ⟨[dot], member :: ts, rfl, by simpa [forget, eq_comm] using h,
        ⟨_, .cons hkind htext rfl .nil⟩, fun stop' rest' hhead => ?_⟩
      obtain ⟨ts', rfl⟩ := List.head?_eq_some_iff.mp hhead
      rw [List.singleton_append, members.eq_def]
      simp [hdot, hmember, forget]
  | case6 => simp [forget] at h

/-- Where all integers have few enough digits, the parser fails only by being stuck at some place. -/
theorem Run.stuck {stop : Nat} {g : Goal} {ts : List Token} {r : Reading Expr} {e : ParseError}
    (h : Run stop g ts r) (hlex : ∀ t ∈ ts, Lexical t.kind t.text) (hshort : ∀ t ∈ ts, t.IsShort)
    (hr : r = .error e) :
    ∃ expected us rest, ts = us ++ rest ∧ e = .unexpected expected stop rest ∧
      Stuck g expected us rest := by
  induction h with
  | @row l ts mid a r hleft _ _ ihrow =>
      obtain ⟨us, rfl, hus, hresume⟩ := hleft.derives_and_resumes hlex
      obtain ⟨expected, vs, rest, rfl, rfl, hstuck⟩ :=
        ihrow (List.forall_mem_append.mp hlex).2 (List.forall_mem_append.mp hshort).2 hr
      refine ⟨expected, us ++ vs, rest, by simp, rfl, .row hus hstuck.completable, ?_⟩
      intro stop' rest' hhead
      rw [List.append_assoc]
      exact .row (hresume stop' _ (head?_append_congr hhead vs)) (hstuck.fails stop' rest' hhead)
  | rowError _ ih =>
      obtain ⟨expected, us, rest, rfl, rfl, hstuck⟩ := ih hlex hshort hr
      exact ⟨expected, us, rest, rfl, rfl, hstuck.completable.operand,
        fun stop' rest' hhead => .rowError (hstuck.fails stop' rest' hhead)⟩
  | @more l a b t ts mid f r hop hright _ _ ihrow =>
      have htail := (List.forall_mem_cons.mp hlex).2
      have htail' := (List.forall_mem_cons.mp hshort).2
      obtain ⟨us, rfl, hus, hresume⟩ := hright.derives_and_resumes htail
      obtain ⟨expected, vs, rest, rfl, rfl, hstuck⟩ :=
        ihrow (List.forall_mem_append.mp htail).2 (List.forall_mem_append.mp htail').2 hr
      refine ⟨expected, t :: (us ++ vs), rest, by simp, rfl, .more hop hus hstuck.completable, ?_⟩
      intro stop' rest' hhead
      rw [List.cons_append, List.append_assoc]
      exact .more hop (hresume stop' _ (head?_append_congr hhead vs))
        (hstuck.fails stop' rest' hhead)
  | @moreError l a t ts f e' hop _ ih =>
      obtain ⟨expected, us, rest, rfl, rfl, hstuck⟩ :=
        ih (List.forall_mem_cons.mp hlex).2 (List.forall_mem_cons.mp hshort).2 hr
      exact ⟨expected, t :: us, rest, rfl, rfl, hstuck.completable.last hop,
        fun stop' rest' hhead => .moreError hop (hstuck.fails stop' rest' hhead)⟩
  | @appliedError t ts f e' hop _ ih =>
      obtain ⟨expected, us, rest, rfl, rfl, hstuck⟩ :=
        ih (List.forall_mem_cons.mp hlex).2 (List.forall_mem_cons.mp hshort).2 hr
      exact ⟨expected, t :: us, rest, rfl, rfl, hstuck.completable.applied hop,
        fun stop' rest' hhead => .appliedError hop (hstuck.fails stop' rest' hhead)⟩
  | primary hnone _ ih =>
      obtain ⟨expected, us, rest, rfl, rfl, hstuck⟩ := ih hlex hshort hr
      refine ⟨expected, us, rest, rfl, rfl, hstuck.completable.primary,
        fun stop' rest' hhead => .primary ?_ (hstuck.fails stop' rest' hhead)⟩
      rwa [head?_append_congr hhead us]
  | @groupError opening ts e' hopening _ ih =>
      obtain ⟨expected, us, rest, rfl, rfl, hstuck⟩ :=
        ih (List.forall_mem_cons.mp hlex).2 (List.forall_mem_cons.mp hshort).2 hr
      exact ⟨expected, opening :: us, rest, rfl, rfl, hstuck.completable.group hopening,
        fun stop' rest' hhead => .groupError hopening (hstuck.fails stop' rest' hhead)⟩
  | @unclosed a opening ts rest hopening hinner hrest _ =>
      obtain ⟨us, rfl, hus, hresume⟩ :=
        hinner.derives_and_resumes (List.forall_mem_cons.mp hlex).2
      refine ⟨.closingParenthesis, opening :: us, rest, rfl, by simpa [eq_comm] using hr,
        .group hopening (.of_derives hus), fun stop' rest' hhead => ?_⟩
      exact .unclosed hopening (hresume stop' rest' hhead) (by rwa [hhead])
  | @oversized t ts e' hkind he =>
      obtain ⟨v, hv⟩ := exists_numberLiteral (hlex t (by simp)) (hshort t (by simp)) hkind
      simp [hv] at he
  | @nameError root ts e' hkind hmembers =>
      obtain rfl : e' = e := by simpa using hr
      obtain ⟨us, rest, rfl, rfl, ⟨names, hnames⟩, hfails⟩ := stuck_of_members hmembers
      exact ⟨.memberName, root :: us, rest, rfl, rfl, .member hkind hnames,
        fun stop' rest' hhead => .nameError hkind (hfails stop' rest' hhead)⟩
  | @unexpected ts hts =>
      refine ⟨.operand, [], ts, rfl, by simpa [eq_comm] using hr, .missing, fun stop' rest' hhead => ?_⟩
      exact .unexpected (by rwa [List.nil_append, hhead])
  | _ => simp at hr

/-! ## The first token that is one too many -/

lemma take_symbols {stream : Token.Stream} {us rest : List Token}
    (h : stream.tokens = us ++ rest) :
    stream.symbols.take us.length = us.map some ∧
      stream.symbols.take (us.length + 1) = us.map some ++ [rest.head?] := by
  unfold Token.Stream.symbols
  rw [h, List.map_append, List.append_assoc]
  constructor
  · exact List.take_left' (List.length_map _)
  · rw [List.take_append, List.length_map, Nat.add_sub_cancel_left, List.take_of_length_le (by simp)]
    cases rest <;> rfl

/-- An unexpected token is told by its place, and an unexpected end by that of the end. -/
lemma exists_place_of_unexpected {stream : Token.Stream} {us rest : List Token}
    (h : stream.tokens = us ++ rest) (expected : Expectation) :
    ∃ position : Nat, stream.places[us.length]? = some position ∧
      Fault.ofParseError (.unexpected expected stream.stop rest) =
        .of (.malformed (ParseError.unexpected expected stream.stop rest).message
          (some position)) := by
  unfold Token.Stream.places
  rw [h, List.map_append, List.append_assoc,
    List.getElem?_append_right (by rw [List.length_map]), List.length_map, Nat.sub_self]
  cases rest with
  | nil => exact ⟨stream.stop, rfl, rfl⟩
  | cons t ts => exact ⟨t.position, rfl, rfl⟩

/-- Tokens and what follows them begin a condition exactly if they are its tokens up to there. -/
lemma starts_symbols_iff {stream : Token.Stream} {us : List Token} {next : Option Token} :
    us.map some ++ [next] <+: stream.symbols ↔
      ∃ rest, stream.tokens = us ++ rest ∧ rest.head? = next := by
  obtain ⟨ts, stop⟩ := stream
  simp only [Token.Stream.symbols]
  induction us generalizing ts with
  | nil => cases ts <;> simp [eq_comm]
  | cons u us ih =>
      cases ts with
      | nil => simp
      | cons t ts =>
          simp only [List.map_cons, List.cons_append, List.cons_prefix_cons, Option.some.injEq, ih,
            List.cons.injEq]
          constructor
          · rintro ⟨rfl, rest, rfl, hhead⟩
            exact ⟨rest, ⟨rfl, rfl⟩, hhead⟩
          · rintro ⟨rest, ⟨rfl, rfl⟩, hhead⟩
            exact ⟨rfl, rest, rfl, hhead⟩

/-- What can be completed begins a condition that the parser accepts. -/
lemma viable_of_completable {us : List Token} (h : (Goal.read (.row .or)).Completable us)
    (hlex : ∀ t ∈ us, Lexical t.kind t.text) (hshort : ∀ t ∈ us, t.IsShort) :
    Viable (us.map some) := by
  obtain ⟨ws, e, hws, hderives⟩ := h
  have hderives : Derives (.row .or) (us ++ ws) e := hderives
  refine ⟨⟨us ++ ws, 0⟩, e, ?_, ?_, ?_⟩
  · exact List.forall_mem_append.mpr ⟨hlex, fun t ht => (hws t ht).lexical⟩
  · have hall : ∀ t ∈ us ++ ws, t.IsShort :=
      List.forall_mem_append.mpr ⟨hshort, fun t ht => (hws t ht).isShort⟩
    rw [ofTokens_eq, if_neg hderives.ne_nil, hderives.answer_eq hall]
  · simp [Token.Stream.symbols]

/-- Where the parser fails on some tokens: they can be completed before that place, and it accepts no
tokens that are the same up to there, with the same one there or the end. -/
lemma exists_place_of_error {stream : Token.Stream} {error : ParseError}
    (hlex : ∀ t ∈ stream.tokens, Lexical t.kind t.text) (hshort : ∀ t ∈ stream.tokens, t.IsShort)
    (hne : stream.tokens ≠ []) (h : ofTokens stream = .error error) :
    ∃ expected us rest, stream.tokens = us ++ rest ∧ error = .unexpected expected stream.stop rest ∧
      (Goal.read (.row .or)).Completable us ∧
      ∀ stop' rest' e, rest'.head? = rest.head? → ofTokens ⟨us ++ rest', stop'⟩ ≠ .ok e := by
  rw [ofTokens_eq, if_neg hne] at h
  cases hanswer : (Goal.read (.row .or)).answer stream.stop stream.tokens with
  | error e =>
      obtain rfl : e = error := by simpa [hanswer] using h
      obtain ⟨expected, us, rest, htokens, rfl, hstuck⟩ :=
        (run_iff.mpr hanswer).stuck hlex hshort rfl
      refine ⟨expected, us, rest, htokens, rfl, hstuck.completable, fun stop' rest' e hhead => ?_⟩
      rw [ofTokens_eq, (hstuck.fails stop' rest' hhead).answer_eq]
      split <;> simp
  | ok p =>
      -- an expression was read, and a token is left that does not continue it
      obtain ⟨e, rest⟩ := p
      obtain ⟨us, htokens, hderives, hresume⟩ := (run_iff.mpr hanswer).derives_and_resumes hlex
      cases rest with
      | nil => simp [hanswer] at h
      | cons t ts =>
          refine ⟨.endOfExpression, us, t :: ts, htokens, by simpa [hanswer, eq_comm] using h,
            .of_derives hderives, fun stop' rest' e' hhead => ?_⟩
          obtain ⟨ts', rfl⟩ := List.head?_eq_some_iff.mp hhead
          rw [ofTokens_eq, (hresume stop' (t :: ts') hhead).answer_eq]
          simp

/-- A condition of at least one token, in which no integer is too long, is refused at the first of its
tokens, its end among them, up to which no condition that is accepted goes. -/
theorem error_at_first_unviable {text : String} {stream : Token.Stream} {error : ParseError}
    (hstream : Token.tokenize text.toList = .ok stream) (hne : stream.tokens ≠ [])
    (hshort : ∀ t ∈ stream.tokens, t.IsShort) (herror : parse text = .error error) :
    ∃ k position : Nat, Fault.ofParseError error = .of (.malformed error.message (some position)) ∧
      stream.places[k]? = some position ∧
      IsLeast {k | Viable (stream.symbols.take k) ∧ ¬ Viable (stream.symbols.take (k + 1))} k := by
  have hlex := lexical_of_tokenize hstream
  have htokens : ofTokens stream = .error error := by
    unfold parse parseChars at herror
    simpa only [hstream] using herror
  obtain ⟨expected, us, rest, hsplit, rfl, hcompletable, hfails⟩ :=
    exists_place_of_error hlex hshort hne htokens
  obtain ⟨position, hplace, hfault⟩ := exists_place_of_unexpected hsplit expected
  obtain ⟨htake, htake'⟩ := take_symbols hsplit
  have hviable : Viable (us.map some) := by
    rw [hsplit] at hlex hshort
    exact viable_of_completable hcompletable (List.forall_mem_append.mp hlex).1
      (List.forall_mem_append.mp hshort).1
  refine ⟨us.length, position, hfault, hplace, ⟨by rwa [htake], ?_⟩, fun j hj => ?_⟩
  · rw [htake']
    rintro ⟨⟨ts, stop⟩, e, -, haccepted, hstarts⟩
    obtain ⟨rest', rfl, hhead⟩ := starts_symbols_iff.mp hstarts
    exact hfails stop rest' e hhead haccepted
  · -- a shorter row of tokens begins what the longer one begins
    by_contra hlt
    obtain ⟨stream', e, hlex', haccepted, hstarts⟩ := hviable
    refine hj.2 ⟨stream', e, hlex', haccepted, .trans ?_ hstarts⟩
    rw [← htake]
    exact List.take_prefix_take_left (by omega)

/-- A parenthesis in the place of a member: the tokens before it can be completed, and it is the sixth
symbol. -/
theorem error_at_missing_member :
    ∃ stream error, Token.tokenize "(a || b.) && c".toList = .ok stream ∧ stream.tokens ≠ [] ∧
      (∀ t ∈ stream.tokens, t.IsShort) ∧ parse "(a || b.) && c" = .error error ∧
      Fault.ofParseError error = .of (.malformed error.message (some 8)) ∧
      IsLeast {k | Viable (stream.symbols.take k) ∧ ¬ Viable (stream.symbols.take (k + 1))} 5 := by
  have hstream : Token.tokenize "(a || b.) && c".toList =
      .ok ⟨[⟨.paren, ['('], 0⟩, ⟨.ident, ['a'], 1⟩, ⟨.op, ['|', '|'], 3⟩, ⟨.ident, ['b'], 6⟩,
        ⟨.dot, ['.'], 7⟩, ⟨.paren, [')'], 8⟩, ⟨.op, ['&', '&'], 10⟩, ⟨.ident, ['c'], 13⟩], 14⟩ := by
    cbv
  have herror : parse "(a || b.) && c" =
      .error (.unexpectedToken .memberName (some ⟨.paren, [')'], 8⟩) 8) := by
    cbv
  refine ⟨_, _, hstream, by simp, by simp [Token.IsShort], herror, ?_⟩
  obtain ⟨k, position, hfault, hplace, hleast⟩ :=
    error_at_first_unviable hstream (by simp) (by simp [Token.IsShort]) herror
  have hposition : (8 : Int) = position := by
    simpa [Fault.ofParseError, Fault.of, ParseError.position?] using hfault
  obtain rfl : 8 = position := by omega
  -- no two tokens stand at one place
  have hnodup : ([0, 1, 3, 6, 7, 8, 10, 13, 14] : List Nat).Nodup := by decide
  obtain rfl : 5 = k := (List.getElem?_inj (by decide) hnodup).mp hplace.symm
  exact ⟨hfault, hleast⟩

end Expr

end FeatureToggles
