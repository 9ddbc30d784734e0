import FeatureToggles.Proofs.Expr.Viability
import Mathlib.Computability.StateTransition

/-!
# The parser as a machine

The parser goes through the tokens with one cursor, which all of its procedures move.  Here it is written as a
machine that takes one step after the other: each step looks at the symbol under the cursor at most once, and
the calls that have not returned stand on a stack.

Main statements: the machine follows every way of the descent, whatever calls it stands in (`ends_of_run`),
and it halts with the answer of the parser (`reaches_answer`).
-/

namespace FeatureToggles.Expr.Machine

open Token (Stream)
open StateTransition (Reaches Reaches₁)

/-! ## The machine -/

/-- What the machine does next. -/
inductive Control where
  /-- It begins with all tokens. -/
  | start
  /-- It begins an expression of a nonterminal. -/
  | call (n : Nonterminal)
  /-- It has the left part of a row and looks for an operator. -/
  | row (l : Level) (left : Expr)
  /-- It has the expression in a parenthesis and looks for its end. -/
  | close (e : Expr)
  /-- It has a name and looks for a dot. -/
  | name (root : String) (members : List String)
  /-- It is behind a dot. -/
  | member (root : String) (members : List String)
  /-- It has the expression that a call gives. -/
  | give (e : Expr)
  /-- It has an expression and looks for the end of the tokens. -/
  | finish (e : Expr)
  /-- It has an answer. -/
  | halted (answer : Except ParseError Expr)
  /-- It looked for a symbol where there is none, or gave an expression to no call. -/
  | lost

/-- What is done with the expression that a call gives. -/
inductive Return where
  /-- It begins a row. -/
  | first (l : Level)
  /-- It is joined to the left part of a row. -/
  | next (l : Level) (join : Expr → Expr)
  /-- It is the operand of a unary operator, or given on as it is. -/
  | give (build : Expr → Expr)
  /-- It stands in a parenthesis. -/
  | group
  /-- It stands alone. -/
  | whole

/-- What the machine does with an expression that a call gave. -/
def Return.resume (e : Expr) : Return → Control
  | .first l => .row l e
  | .next l join => .row l (join e)
  | .give build => .give (build e)
  | .group => .close e
  | .whole => .finish e

/-- A call that has not returned: what was called, where the cursor stood, and how it goes on behind it. -/
structure Frame where
  procedure : Nonterminal
  entry : Nat
  back : Return

/-- A state of the machine; the innermost call stands first. -/
structure State where
  cursor : Nat
  control : Control
  frames : List Frame

/-- What is done about the symbol under the cursor: whether it is taken, and whether a call follows or
something else. -/
inductive Move where
  | enter (taken : Bool) (n : Nonterminal) (back : Return)
  | go (taken : Bool) (control : Control)

/-- Where the cursor is behind a symbol that is taken or not.  The end is left where it is if it is taken. -/
def moved (cursor : Nat) (next : Option Token) (taken : Bool) : Nat :=
  if taken ∧ next.isSome then cursor + 1 else cursor

/-- Calls a procedure with the cursor at some place. -/
def State.enter (s : State) (cursor : Nat) (n : Nonterminal) (back : Return) : State :=
  ⟨cursor, .call n, ⟨n, cursor, back⟩ :: s.frames⟩

/-- Does what is to be done about the symbol under the cursor. -/
def State.perform (s : State) (next : Option Token) : Move → State
  | .enter taken n back => s.enter (moved s.cursor next taken) n back
  | .go taken control => ⟨moved s.cursor next taken, control, s.frames⟩

/-- Halts with the error of meeting a symbol. -/
def fail (taken : Bool) (expected : Expectation) (stop : Nat) (next : Option Token) : Move :=
  .go taken (.halted (.error (.unexpected expected stop next.toList)))

/-- What a primary does about its first symbol. -/
def lookPrimary (stop : Nat) : Option Token → Move
  | none => fail true .operand stop none
  | some t =>
    if isOpening t then .enter true (.row .or) .group
    else match t.kind with
      | .number =>
        match numberLiteral t.text with
        | .ok v => .go true (.give (.literal v))
        | .error e => .go true (.halted (.error e))
      | .string => .go true (.give (.literal (stringLiteral t.text)))
      | .ident => .go true (.name (String.ofList t.text) [])
      | .keyword =>
        match constant? t.text with
        | some v => .go true (.give (.literal v))
        | none => fail true .operand stop (some t)
      | _ => fail true .operand stop (some t)

/-- What is done about the symbol under the cursor, where one is looked at. -/
def Control.look? (stop : Nat) : Control → Option (Option Token → Move)
  | .start => some fun next =>
    if next.isSome then .enter false (.row .or) .whole else .go false (.halted (.error .empty))
  | .call .unary => some fun next =>
    match next.bind prefixOp? with
    | some build => .enter true .unary (.give build)
    | none => .enter false .primary (.give id)
  | .call .primary => some (lookPrimary stop)
  | .row l left => some fun next =>
    match next.bind l.build? with
    | some build => .enter true l.operand (.next l (build left))
    | none => .go false (.give left)
  | .close e => some fun next =>
    if next.any isClosing then .go true (.give e) else fail true .closingParenthesis stop next
  | .name root members => some fun next =>
    if next.any isDot then .go true (.member root members)
    else .go false (.give (.name root members))
  | .member root members => some fun next =>
    match next with
    | some t =>
      if t.kind = .ident then .go true (.name root (members ++ [String.ofList t.text]))
      else fail true .memberName stop next
    | none => fail true .memberName stop next
  | .finish e => some fun next =>
    if next.isSome then fail false .endOfExpression stop next else .go false (.halted (.ok e))
  | _ => none

/-- The next state, if the machine has not halted.  A row calls its first operand at once, an expression is
given to the innermost call, and everything else depends on the symbol under the cursor. -/
def step (stream : Stream) (s : State) : Option State :=
  match s.control with
  | .call (.row l) => some (s.enter s.cursor l.operand (.first l))
  | .give e =>
    match s.frames with
    | [] => some { s with control := .lost }
    | frame :: frames => some ⟨s.cursor, frame.back.resume e, frames⟩
  | control =>
    (control.look? stream.stop).map fun look =>
      match stream.symbols[s.cursor]? with
      | none => { s with control := .lost }
      | some next => s.perform next (look next)

/-- The state in which the machine begins. -/
def State.initial : State := ⟨0, .start, []⟩

/-! ## What a step does -/

variable {stream : Stream} {s s' : State}

/-- Looking is not done where a row calls an operand, nor where an expression is given. -/
lemma step_of_look {c : Nat} {control : Control} {frames : List Frame} {next : Option Token}
    {look : Option Token → Move} (hlook : control.look? stream.stop = some look)
    (hnext : stream.symbols[c]? = some next) :
    step stream ⟨c, control, frames⟩ = some (State.perform ⟨c, control, frames⟩ next (look next)) := by
  have hcontrol : (∀ l, control ≠ .call (.row l)) ∧ ∀ e, control ≠ .give e := by
    constructor <;> rintro _ rfl <;> simp [Control.look?] at hlook
  unfold step
  split
  · rename_i l hrow
    exact absurd hrow (hcontrol.1 l)
  · rename_i e hgive
    exact absurd hgive (hcontrol.2 e)
  · simp [hlook, hnext]

/-- The ways that a step can go. -/
inductive Goes (stream : Stream) (s : State) : State → Prop where
  | descend {l : Level} :
      s.control = .call (.row l) → Goes stream s (s.enter s.cursor l.operand (.first l))
  | back {e : Expr} {frame : Frame} {frames : List Frame} :
      s.control = .give e → s.frames = frame :: frames →
      Goes stream s ⟨s.cursor, frame.back.resume e, frames⟩
  | unasked {e : Expr} :
      s.control = .give e → s.frames = [] → Goes stream s { s with control := .lost }
  | behind {look : Option Token → Move} :
      s.control.look? stream.stop = some look → stream.symbols[s.cursor]? = none →
      Goes stream s { s with control := .lost }
  | look {look : Option Token → Move} {next : Option Token} :
      s.control.look? stream.stop = some look → stream.symbols[s.cursor]? = some next →
      Goes stream s (s.perform next (look next))

lemma goes_of_step (h : step stream s = some s') : Goes stream s s' := by
  unfold step at h
  split at h
  · rename_i l hcontrol
    obtain rfl := Option.some.inj h
    exact .descend hcontrol
  · rename_i e hcontrol
    split at h <;> obtain rfl := Option.some.inj h
    · rename_i hframes
      exact .unasked hcontrol hframes
    · rename_i frame frames hframes
      exact .back hcontrol hframes
  · obtain ⟨look, hlook, rfl⟩ := Option.map_eq_some_iff.mp h
    split
    · rename_i hnext
      exact .behind hlook hnext
    · rename_i next hnext
      exact .look hlook hnext

/-! ## The machine follows the descent -/

/-- Whether some tokens are left from a place on. -/
def At (stream : Stream) (c : Nat) (ts : List Token) : Prop :=
  ∃ us, stream.tokens = us ++ ts ∧ us.length = c

lemma At.next {c : Nat} {ts : List Token} (h : At stream c ts) :
    stream.symbols[c]? = some ts.head? := by
  obtain ⟨us, htokens, rfl⟩ := h
  rw [Stream.symbols, htokens, List.map_append, List.append_assoc,
    List.getElem?_append_right (by simp)]
  cases ts <;> simp

lemma At.tail {c : Nat} {t : Token} {ts : List Token} (h : At stream c (t :: ts)) :
    At stream (c + 1) ts := by
  obtain ⟨us, htokens, rfl⟩ := h
  exact ⟨us ++ [t], by simpa using htokens, by simp⟩

/-- The control with which the machine meets a goal of the descent. -/
def Control.ofGoal : Goal → Control
  | .read n => .call n
  | .extend l a => .row l a

/-- How a reading shows in the machine: it comes to give the expression to the same calls, with the cursor at
what is left, or it halts. -/
inductive Ends (stream : Stream) (s : State) : Reading Expr → Prop where
  | ok {a : Expr} {c : Nat} {rest : List Token} :
      At stream c rest → Reaches (step stream) s ⟨c, .give a, s.frames⟩ → Ends stream s (.ok (a, rest))
  | error {e : ParseError} {c : Nat} {frames : List Frame} :
      Reaches (step stream) s ⟨c, .halted (.error e), frames⟩ → Ends stream s (.error e)

lemma Ends.of_reaches {r : Reading Expr} (h : Ends stream s' r) (hreaches : Reaches (step stream) s s')
    (hframes : s'.frames = s.frames) : Ends stream s r := by
  cases h with
  | ok hat hgive => exact .ok hat (hreaches.trans (hframes ▸ hgive))
  | error hhalted => exact .error (hreaches.trans hhalted)

lemma Ends.head {r : Reading Expr} (h : Ends stream s' r) (hstep : step stream s = some s')
    (hframes : s'.frames = s.frames) : Ends stream s r :=
  h.of_reaches (.single hstep) hframes

section

variable {c : Nat} {n : Nonterminal} {back : Return} {a : Expr} {rest : List Token} {e : ParseError}

/-- A call that ends with an expression goes on behind it. -/
lemma Ends.resume (h : Ends stream (s.enter c n back) (.ok (a, rest)))
    (hstep : step stream s = some (s.enter c n back)) :
    ∃ c', At stream c' rest ∧ Reaches (step stream) s ⟨c', back.resume a, s.frames⟩ := by
  cases h with
  | @ok _ c' _ hat hgive =>
      have hback : step stream ⟨c', .give a, ⟨n, c, back⟩ :: s.frames⟩ =
          some ⟨c', back.resume a, s.frames⟩ := rfl
      exact ⟨c', hat, (hgive.tail hback).head hstep⟩

/-- A call that ends with an error ends everything. -/
lemma Ends.abort (h : Ends stream (s.enter c n back) (.error e))
    (hstep : step stream s = some (s.enter c n back)) : Ends stream s (.error e) := by
  cases h with
  | error hhalted => exact .error (hhalted.head hstep)

end

section

variable {c : Nat} {ts : List Token} {t : Token} {control control' : Control} {frames : List Frame}
  {n : Nonterminal} {back : Return}

/-- A step does what is to be done about the first of the tokens that are left. -/
lemma At.step {move : Move} (h : At stream c ts)
    (hmove : (control.look? stream.stop).map (· ts.head?) = some move) :
    Machine.step stream ⟨c, control, frames⟩ =
      some (State.perform ⟨c, control, frames⟩ ts.head? move) := by
  obtain ⟨look, hlook, rfl⟩ := Option.map_eq_some_iff.mp hmove
  exact step_of_look hlook h.next

lemma At.step_take (h : At stream c (t :: ts))
    (hmove : (control.look? stream.stop).map (· (some t)) = some (.go true control')) :
    Machine.step stream ⟨c, control, frames⟩ = some ⟨c + 1, control', frames⟩ := h.step hmove

lemma At.step_peek (h : At stream c ts)
    (hmove : (control.look? stream.stop).map (· ts.head?) = some (.go false control')) :
    Machine.step stream ⟨c, control, frames⟩ = some ⟨c, control', frames⟩ := by
  rw [h.step hmove]
  simp [State.perform, moved]

lemma At.step_enter (h : At stream c (t :: ts))
    (hmove : (control.look? stream.stop).map (· (some t)) = some (.enter true n back)) :
    Machine.step stream ⟨c, control, frames⟩ = some (State.enter ⟨c, control, frames⟩ (c + 1) n back) :=
  h.step hmove

lemma At.step_descend (h : At stream c ts)
    (hmove : (control.look? stream.stop).map (· ts.head?) = some (.enter false n back)) :
    Machine.step stream ⟨c, control, frames⟩ = some (State.enter ⟨c, control, frames⟩ c n back) := by
  rw [h.step hmove]
  simp [State.perform, moved]

/-- Where the first token is one that fails, the machine halts with the error of meeting it. -/
lemma At.ends_of_fail (taken : Bool) {expected : Expectation} (h : At stream c ts)
    (hmove : (control.look? stream.stop).map (· ts.head?) =
      some (fail taken expected stream.stop ts.head?)) :
    Ends stream ⟨c, control, frames⟩ (.error (.unexpected expected stream.stop ts)) := by
  have herror : ParseError.unexpected expected stream.stop ts.head?.toList =
      .unexpected expected stream.stop ts := by
    cases ts <;> rfl
  rw [fail, herror] at hmove
  exact .error (.single (h.step hmove))

/-! ### Names -/

lemma step_name_of_isDot (h : At stream c (t :: ts)) (hdot : isDot t = true) (root : String)
    (names : List String) (frames : List Frame) :
    step stream ⟨c, .name root names, frames⟩ = some ⟨c + 1, .member root names, frames⟩ :=
  h.step_take (by simp [Control.look?, hdot])

lemma step_member_of_ident (h : At stream c (t :: ts)) (hkind : t.kind = .ident) (root : String)
    (names : List String) (frames : List Frame) :
    step stream ⟨c, .member root names, frames⟩ =
      some ⟨c + 1, .name root (names ++ [String.ofList t.text]), frames⟩ :=
  h.step_take (by simp [Control.look?, hkind])

lemma ends_name_of_head (h : At stream c ts) (hts : ∀ t ∈ ts.head?, isDot t = false)
    (root : String) (names : List String) (frames : List Frame) :
    Ends stream ⟨c, .name root names, frames⟩ (.ok (.name root names, ts)) := by
  have hnone : ts.head?.any isDot = false := (Option.any_eq_false _ _).mpr hts
  exact .ok h (.single (h.step_peek (by simp [Control.look?, hnone])))

/-- The members of a name are taken one after the other. -/
lemma ends_members (root : String) (h : At stream c ts) (names : List String) (frames : List Frame) :
    Ends stream ⟨c, .name root names, frames⟩
      (match forget (members stream.stop ts) with
        | .ok (more, rest) => .ok (.name root (names ++ more), rest)
        | .error e => .error e) := by
  fun_induction members stream.stop ts generalizing names c with
  | case1 => simpa [forget] using ends_name_of_head h (by simp) root names frames
  | case2 dot hdot =>
      have hfail : Ends stream ⟨c + 1, .member root names, frames⟩ _ := h.tail.ends_of_fail true rfl
      exact hfail.head (step_name_of_isDot h hdot root names frames) rfl
  | case3 dot hdot member ts hkind e hmembers ih =>
      have hends := ih h.tail.tail (names ++ [String.ofList member.text])
      rw [hmembers] at hends
      have hmember := hends.head (step_member_of_ident h.tail hkind root names frames) rfl
      exact hmember.head (step_name_of_isDot h hdot root names frames) rfl
  | case4 dot hdot member ts hkind more rest hle hmembers ih =>
      have hends := ih h.tail.tail (names ++ [String.ofList member.text])
      rw [hmembers] at hends
      have hmember := hends.head (step_member_of_ident h.tail hkind root names frames) rfl
      simpa [forget] using hmember.head (step_name_of_isDot h hdot root names frames) rfl
  | case5 dot hdot member ts hkind =>
      have hfail : Ends stream ⟨c + 1, .member root names, frames⟩
          (.error (.unexpected .memberName stream.stop (member :: ts))) :=
        h.tail.ends_of_fail true (by simp [Control.look?, hkind])
      exact hfail.head (step_name_of_isDot h hdot root names frames) rfl
  | case6 dot ts hdot =>
      simpa [forget] using ends_name_of_head h (by simpa using hdot) root names frames

/-! ### Expressions -/

lemma step_call_row (c : Nat) (l : Level) (frames : List Frame) :
    step stream ⟨c, .call (.row l), frames⟩ =
      some (State.enter ⟨c, .call (.row l), frames⟩ c l.operand (.first l)) := rfl

lemma step_row_of_build? {l : Level} {f : Expr → Expr → Expr} (h : At stream c (t :: ts))
    (hop : l.build? t = some f) (a : Expr) (frames : List Frame) :
    step stream ⟨c, .row l a, frames⟩ =
      some (State.enter ⟨c, .row l a, frames⟩ (c + 1) l.operand (.next l (f a))) :=
  h.step_enter (by simp [Control.look?, hop])

lemma step_row_of_head {l : Level} (h : At stream c ts) (hts : ∀ t ∈ ts.head?, l.build? t = none)
    (a : Expr) (frames : List Frame) :
    step stream ⟨c, .row l a, frames⟩ = some ⟨c, .give a, frames⟩ :=
  h.step_peek (by simp [Control.look?, Option.bind_eq_none_iff.mpr hts])

lemma step_unary_of_prefixOp? {f : Expr → Expr} (h : At stream c (t :: ts))
    (hop : prefixOp? t = some f) (frames : List Frame) :
    step stream ⟨c, .call .unary, frames⟩ =
      some (State.enter ⟨c, .call .unary, frames⟩ (c + 1) .unary (.give f)) :=
  h.step_enter (by simp [Control.look?, hop])

lemma step_unary_of_head (h : At stream c ts) (hts : ∀ t ∈ ts.head?, prefixOp? t = none)
    (frames : List Frame) :
    step stream ⟨c, .call .unary, frames⟩ =
      some (State.enter ⟨c, .call .unary, frames⟩ c .primary (.give id)) :=
  h.step_descend (by simp [Control.look?, Option.bind_eq_none_iff.mpr hts])

lemma step_primary_of_isOpening (h : At stream c (t :: ts)) (hopening : isOpening t = true)
    (frames : List Frame) :
    step stream ⟨c, .call .primary, frames⟩ =
      some (State.enter ⟨c, .call .primary, frames⟩ (c + 1) (.row .or) .group) :=
  h.step_enter (by simp [Control.look?, lookPrimary, hopening])

lemma step_primary (h : At stream c (t :: ts))
    (hmove : lookPrimary stream.stop (some t) = .go true control') (frames : List Frame) :
    step stream ⟨c, .call .primary, frames⟩ = some ⟨c + 1, control', frames⟩ :=
  h.step_take (by rw [Control.look?, Option.map_some, hmove])

lemma lookPrimary_of_number {stop : Nat} (h : t.kind = .number) :
    lookPrimary stop (some t) =
      match numberLiteral t.text with
      | .ok v => .go true (.give (.literal v))
      | .error e => .go true (.halted (.error e)) := by
  simp [lookPrimary, isOpening_eq_false, h]

lemma lookPrimary_of_string {stop : Nat} (h : t.kind = .string) :
    lookPrimary stop (some t) = .go true (.give (.literal (stringLiteral t.text))) := by
  simp [lookPrimary, isOpening_eq_false, h]

lemma lookPrimary_of_constant {stop : Nat} {v : Value} (h : t.kind = .keyword)
    (hv : constant? t.text = some v) :
    lookPrimary stop (some t) = .go true (.give (.literal v)) := by
  simp [lookPrimary, isOpening_eq_false, h, hv]

lemma lookPrimary_of_ident {stop : Nat} (h : t.kind = .ident) :
    lookPrimary stop (some t) = .go true (.name (String.ofList t.text) []) := by
  simp [lookPrimary, isOpening_eq_false, h]

lemma lookPrimary_of_not_begins {stop : Nat} (h : ∀ t ∈ ts.head?, ¬ BeginsPrimary t) :
    lookPrimary stop ts.head? = fail true .operand stop ts.head? := by
  cases ts with
  | nil => rfl
  | cons t ts =>
      have ht := h t rfl
      simp only [BeginsPrimary, not_or, not_and, not_not] at ht
      obtain ⟨hopening, hnumber, hstring, hident, hkeyword⟩ := ht
      cases hkind : t.kind <;> simp_all [lookPrimary]

lemma step_close_of_isClosing (h : At stream c (t :: ts)) (hclosing : isClosing t = true) (e : Expr)
    (frames : List Frame) :
    step stream ⟨c, .close e, frames⟩ = some ⟨c + 1, .give e, frames⟩ :=
  h.step_take (by simp [Control.look?, hclosing])

lemma ends_close_of_head (h : At stream c ts) (hts : ∀ t ∈ ts.head?, isClosing t = false) (e : Expr)
    (frames : List Frame) :
    Ends stream ⟨c, .close e, frames⟩
      (.error (.unexpected .closingParenthesis stream.stop ts)) := by
  have hnone : ts.head?.any isClosing = false := (Option.any_eq_false _ _).mpr hts
  exact h.ends_of_fail true (by simp [Control.look?, hnone])

/-- The machine follows every way that the descent can take, whatever calls it stands in. -/
theorem ends_of_run {g : Goal} {r : Reading Expr} (h : Run stream.stop g ts r)
    (hat : At stream c ts) (frames : List Frame) :
    Ends stream ⟨c, .ofGoal g, frames⟩ r := by
  -- a way within a call is followed with that call on top of the others, so these vary in the induction
  induction h generalizing c frames with
  | @row l _ _ _ _ _ _ ih ihrow =>
      obtain ⟨c', hat', hreaches⟩ := (ih hat _).resume (step_call_row c l frames)
      exact (ihrow hat' frames).of_reaches hreaches rfl
  | @rowError l _ _ _ ih => exact (ih hat _).abort (step_call_row c l frames)
  | done h => exact .ok hat (.single (step_row_of_head hat h _ frames))
  | more hop _ _ ih ihrow =>
      obtain ⟨c', hat', hreaches⟩ := (ih hat.tail _).resume (step_row_of_build? hat hop _ frames)
      exact (ihrow hat' frames).of_reaches hreaches rfl
  | moreError hop _ ih => exact (ih hat.tail _).abort (step_row_of_build? hat hop _ frames)
  | applied hop _ ih =>
      obtain ⟨c', hat', hreaches⟩ := (ih hat.tail _).resume (step_unary_of_prefixOp? hat hop frames)
      exact .ok hat' hreaches
  | appliedError hop _ ih => exact (ih hat.tail _).abort (step_unary_of_prefixOp? hat hop frames)
  | @primary ts r h _ ih =>
      -- unlike the calls above, this one has one rule for both of its readings
      have hstep := step_unary_of_head hat h frames
      cases r with
      | error e => exact (ih hat _).abort hstep
      | ok p =>
          obtain ⟨c', hat', hreaches⟩ := (ih hat _).resume hstep
          exact .ok hat' hreaches
  | group hopening _ hclosing ih =>
      have hstep := step_primary_of_isOpening hat hopening frames
      obtain ⟨c', hat', hreaches⟩ := (ih hat.tail _).resume hstep
      exact .ok hat'.tail (hreaches.tail (step_close_of_isClosing hat' hclosing _ frames))
  | groupError hopening _ ih =>
      exact (ih hat.tail _).abort (step_primary_of_isOpening hat hopening frames)
  | unclosed hopening _ hrest ih =>
      have hstep := step_primary_of_isOpening hat hopening frames
      obtain ⟨c', hat', hreaches⟩ := (ih hat.tail _).resume hstep
      exact (ends_close_of_head hat' hrest _ frames).of_reaches hreaches rfl
  | number hkind hv =>
      exact .ok hat.tail (.single (step_primary hat (by rw [lookPrimary_of_number hkind, hv]) frames))
  | oversized hkind he =>
      exact .error (.single (step_primary hat (by rw [lookPrimary_of_number hkind, he]) frames))
  | string hkind =>
      exact .ok hat.tail (.single (step_primary hat (lookPrimary_of_string hkind) frames))
  | constant hkind hv =>
      exact .ok hat.tail (.single (step_primary hat (lookPrimary_of_constant hkind hv) frames))
  | @name root ts rest names hkind hmembers =>
      have hends := ends_members (String.ofList root.text) hat.tail [] frames
      rw [hmembers] at hends
      exact hends.head (step_primary hat (lookPrimary_of_ident hkind) frames) rfl
  | @nameError root ts e hkind hmembers =>
      have hends := ends_members (String.ofList root.text) hat.tail [] frames
      rw [hmembers] at hends
      exact hends.head (step_primary hat (lookPrimary_of_ident hkind) frames) rfl
  | unexpected h =>
      exact hat.ends_of_fail true
        (by rw [Control.ofGoal, Control.look?, Option.map_some, lookPrimary_of_not_begins h])

end

/-- The machine halts with the answer of the parser. -/
theorem reaches_answer (stream : Stream) :
    ∃ c frames, Reaches (step stream) .initial ⟨c, .halted (ofTokens stream), frames⟩ := by
  have hat : At stream 0 stream.tokens := ⟨[], rfl, rfl⟩
  rw [ofTokens_eq]
  cases htokens : stream.tokens with
  | nil =>
      rw [htokens] at hat
      exact ⟨0, [], .single (hat.step_peek rfl)⟩
  | cons t ts =>
      rw [htokens] at hat
      have hstep : step stream .initial = some (State.initial.enter 0 (.row .or) .whole) :=
        hat.step_descend rfl
      have hends := ends_of_run (run_answer stream.stop (.read (.row .or)) (t :: ts)) hat
        [⟨.row .or, 0, .whole⟩]
      rw [if_neg (List.cons_ne_nil t ts)]
      cases hanswer : (Goal.read (.row .or)).answer stream.stop (t :: ts) with
      | error e =>
          rw [hanswer] at hends
          cases Ends.abort hends hstep with
          | error hhalted => exact ⟨_, _, hhalted⟩
      | ok p =>
          obtain ⟨e, rest⟩ := p
          rw [hanswer] at hends
          obtain ⟨c, hat', hreaches⟩ := Ends.resume hends hstep
          cases rest with
          | nil => exact ⟨c, [], hreaches.tail (hat'.step_peek rfl)⟩
          | cons t' rest => exact ⟨c, [], hreaches.tail (hat'.step_peek rfl)⟩

end FeatureToggles.Expr.Machine
