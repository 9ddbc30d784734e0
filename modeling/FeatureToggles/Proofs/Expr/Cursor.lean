import FeatureToggles.Expr.Fault
import FeatureToggles.Proofs.Expr.Machine
import FeatureToggles.Proofs.Expr.Printing

/-!
# Where the cursor stands

The cursor of the parser stays on the symbols, whatever the tokens are: it goes forward by one symbol at a
time and does not leave the end behind.  As a call leads to a primary, which takes a symbol, and as an
expression is given back through calls that are no more than before, no call is made again from within itself,
and no loop begins another round, before the cursor has moved.  So the parser comes to its answer, which is an
expression or an error with its place, unless it meets an integer with too many digits.

Main statements: `progress` says how a step moves the cursor, `Sound.step` what it preserves, and
`cursor_stays_within` what holds throughout.
-/

namespace FeatureToggles.Expr.Machine

open Token (Stream)
open StateTransition (Reaches Reaches₁)

variable {stream : Stream} {s s' : State}

/-! ## What the cursor and the calls keep to -/

/-- How far the machine still is from a step that takes a symbol or ends everything: it goes through the calls
down to a primary, and gives expressions back through the calls that stand. -/
def Control.distance (depth : Nat) : Control → Nat
  | .start => 7
  | .call n => 6 - n.rank
  | .give _ => 2 * depth + 1
  | .halted _ => 0
  | .lost => 0
  | _ => 2 * depth + 2

/-- The distance of a state. -/
def State.distance (s : State) : Nat := s.control.distance s.frames.length

/-- Whether a loop begins a round: one for the operators of a row, or for the members of a name. -/
def Control.isRound : Control → Bool
  | .row .. => true
  | .name .. => true
  | _ => false

/-- Whether something begins: everything, or a call. -/
def Control.begins : Control → Bool
  | .start => true
  | .call _ => true
  | _ => false

/-- What can be done about a symbol: a call is made, which takes the symbol but at the beginning and before a
primary, or something goes on, which takes the symbol or is closer to the next step that does. -/
inductive Settles (control : Control) (next : Option Token) : Move → Prop where
  | call {n : Nonterminal} {back : Return} :
      next.isSome = true → Settles control next (.enter true n back)
  | begin {back : Return} :
      control = .start → Settles control next (.enter false (.row .or) back)
  | primary {back : Return} :
      control = .call .unary → Settles control next (.enter false .primary back)
  | go {taken : Bool} {control' : Control} :
      control'.begins = false →
      (¬ (taken = true ∧ next.isSome = true) →
        ∀ depth, control'.distance depth < control.distance depth) →
      Settles control next (.go taken control')

/-- A failure ends everything. -/
lemma settles_fail {control : Control} {next : Option Token} (taken : Bool) (expected : Expectation)
    (stop : Nat) (h : ∀ depth, 0 < control.distance depth) :
    Settles control next (fail taken expected stop next) := .go rfl fun _ => h

lemma settles_lookPrimary (stop : Nat) (next : Option Token) :
    Settles (.call .primary) next (lookPrimary stop next) := by
  have hdistance : ∀ depth, 0 < (Control.call .primary).distance depth := fun _ => Nat.one_pos
  cases next with
  | none => exact settles_fail true .operand stop hdistance
  | some t =>
      unfold lookPrimary
      dsimp only
      repeat' split
      all_goals first | exact .call rfl | exact .go rfl fun h => absurd ⟨rfl, rfl⟩ h

lemma settles_of_look {control : Control} {stop : Nat} {look : Option Token → Move}
    (h : control.look? stop = some look) (next : Option Token) :
    Settles control next (look next) := by
  have hsome : ∀ {p : Token → Bool}, next.any p = true → next.isSome = true := by
    intro p hp
    cases next with
    | none => simp at hp
    | some t => rfl
  cases control with
  | start =>
      obtain rfl := Option.some.inj h
      dsimp only
      split
      · exact .begin rfl
      · exact .go rfl fun _ _ => Nat.succ_pos _
  | call n =>
      cases n with
      | row l => simp [Control.look?] at h
      | primary =>
          obtain rfl := Option.some.inj h
          exact settles_lookPrimary stop next
      | unary =>
          obtain rfl := Option.some.inj h
          dsimp only
          split
          · rename_i build hbuild
            obtain ⟨t, rfl, -⟩ := Option.bind_eq_some_iff.mp hbuild
            exact .call rfl
          · exact .primary rfl
  | row l left =>
      obtain rfl := Option.some.inj h
      dsimp only
      split
      · rename_i build hbuild
        obtain ⟨t, rfl, -⟩ := Option.bind_eq_some_iff.mp hbuild
        exact .call rfl
      · exact .go rfl fun _ _ => Nat.lt_succ_self _
  | close e =>
      obtain rfl := Option.some.inj h
      dsimp only
      split
      · rename_i hclosing
        exact .go rfl fun htaken => absurd ⟨rfl, hsome hclosing⟩ htaken
      · exact settles_fail _ _ _ fun _ => Nat.succ_pos _
  | name root members =>
      obtain rfl := Option.some.inj h
      dsimp only
      split
      · rename_i hdot
        exact .go rfl fun htaken => absurd ⟨rfl, hsome hdot⟩ htaken
      · exact .go rfl fun _ _ => Nat.lt_succ_self _
  | member root members =>
      obtain rfl := Option.some.inj h
      dsimp only
      repeat' split
      · exact .go rfl fun htaken => absurd ⟨rfl, rfl⟩ htaken
      all_goals exact settles_fail _ _ _ fun _ => Nat.succ_pos _
  | finish e =>
      obtain rfl := Option.some.inj h
      dsimp only
      split
      · exact settles_fail _ _ _ fun _ => Nat.succ_pos _
      · exact .go rfl fun _ _ => Nat.succ_pos _
  | _ => simp [Control.look?] at h

/-! ### The cursor -/

lemma le_of_symbols {c : Nat} {next : Option Token} (h : stream.symbols[c]? = some next) :
    c ≤ stream.tokens.length := by
  have hlt := (List.getElem?_eq_some_iff.mp h).1
  rw [Stream.symbols, List.length_append, List.length_map, List.length_singleton] at hlt
  exact Nat.le_of_lt_succ hlt

lemma lt_of_symbols {c : Nat} {t : Token} (h : stream.symbols[c]? = some (some t)) :
    c < stream.tokens.length := by
  refine Nat.lt_of_le_of_ne (le_of_symbols h) ?_
  rintro rfl
  rw [Stream.symbols, List.getElem?_append_right (by simp)] at h
  simp at h

/-- The cursor stays where it is or moves by one symbol, which is not the end. -/
lemma moved_cases {c : Nat} {next : Option Token} (taken : Bool)
    (h : stream.symbols[c]? = some next) :
    (moved c next taken = c ∧ ¬ (taken = true ∧ next.isSome = true)) ∨
      moved c next taken = c + 1 ∧ c < stream.tokens.length := by
  unfold moved
  split
  · rename_i htaken
    obtain ⟨t, rfl⟩ := Option.isSome_iff_exists.mp htaken.2
    exact .inr ⟨rfl, lt_of_symbols h⟩
  · rename_i htaken
    exact .inl ⟨rfl, htaken⟩

lemma distance_pos_of_look {control : Control} {stop : Nat} {look : Option Token → Move}
    (h : control.look? stop = some look) (depth : Nat) : 0 < control.distance depth := by
  cases control with
  | call n =>
      cases n with
      | row l => simp [Control.look?] at h
      | _ => exact Nat.succ_pos _
  | give | halted | lost => simp [Control.look?] at h
  | _ => exact Nat.succ_pos _

lemma distance_call_lt {n m : Nonterminal} (h : n.rank < m.rank) (depth depth' : Nat) :
    (Control.call m).distance depth' < (Control.call n).distance depth := by
  have hle : m.rank ≤ 5 := by
    cases m with
    | row l => cases l <;> decide
    | _ => decide
  simp only [Control.distance]
  omega

lemma distance_resume (back : Return) (e : Expr) (depth : Nat) :
    (back.resume e).distance depth < (Control.give e).distance (depth + 1) := by
  cases back <;> simp only [Return.resume, Control.distance] <;> omega

/-- Each step moves the cursor by one symbol, or brings a step that does so closer. -/
theorem progress (h : step stream s = some s') :
    (s'.cursor = s.cursor + 1 ∧ s.cursor < stream.tokens.length) ∨
      s'.cursor = s.cursor ∧ s'.distance < s.distance := by
  cases goes_of_step h with
  | @descend l hcontrol =>
      right
      refine ⟨rfl, ?_⟩
      rw [State.distance, State.distance, hcontrol]
      exact distance_call_lt (by rw [rank_operand]; exact Nat.lt_succ_self _) _ _
  | @back e frame frames hcontrol hframes =>
      right
      refine ⟨rfl, ?_⟩
      rw [State.distance, State.distance, hcontrol, hframes, List.length_cons]
      exact distance_resume _ _ _
  | unasked hcontrol hframes =>
      right
      refine ⟨rfl, ?_⟩
      rw [State.distance, State.distance, hcontrol]
      exact Nat.succ_pos _
  | behind hlook hnext => exact .inr ⟨rfl, distance_pos_of_look hlook _⟩
  | @look look next hlook hnext =>
      have hsettles := settles_of_look hlook next
      generalize look next = move at hsettles ⊢
      cases hsettles with
      | call hsome =>
          obtain ⟨t, rfl⟩ := Option.isSome_iff_exists.mp hsome
          exact .inl ⟨rfl, lt_of_symbols hnext⟩
      | begin hcontrol =>
          right
          refine ⟨by simp [State.perform, State.enter, moved], ?_⟩
          rw [State.distance, State.distance, hcontrol]
          exact Nat.lt_succ_self 6
      | primary hcontrol =>
          right
          refine ⟨by simp [State.perform, State.enter, moved], ?_⟩
          rw [State.distance, State.distance, hcontrol]
          exact distance_call_lt (by decide) _ _
      | @go taken control' _ hdistance =>
          rcases moved_cases taken hnext with ⟨hstay, htaken⟩ | ⟨hmove, hlt⟩
          · exact .inr ⟨hstay, hdistance htaken _⟩
          · exact .inl ⟨hmove, hlt⟩

/-! ### The calls -/

/-- Whether one call was made before another one, which stands in it: with the cursor farther back, or at the
same place for something looser. -/
def Frame.Before (outer inner : Frame) : Prop :=
  outer.entry < inner.entry ∨
    outer.entry = inner.entry ∧ outer.procedure.rank < inner.procedure.rank

/-- What holds in every state: the cursor is on a symbol, the calls that stand were made one before the other
and with the cursor no farther, and a call that begins is the innermost one. -/
structure Sound (stream : Stream) (s : State) : Prop where
  cursor_le : s.cursor ≤ stream.tokens.length
  entry_le : ∀ frame ∈ s.frames, frame.entry ≤ s.cursor
  nested : s.frames.Pairwise fun inner outer => outer.Before inner
  start : s.control = .start → s.frames = []
  call : ∀ n, s.control = .call n → ∃ back frames, s.frames = ⟨n, s.cursor, back⟩ :: frames

namespace Sound

/-- A call is made with the cursor moved, or else for something tighter than all calls that were made at this
place. -/
lemma enter (h : Sound stream s) {c : Nat} {n : Nonterminal} (back : Return)
    (hc : (c = s.cursor ∧ ∀ frame ∈ s.frames, frame.entry = c → frame.procedure.rank < n.rank) ∨
      c = s.cursor + 1 ∧ s.cursor < stream.tokens.length) : Sound stream (s.enter c n back) := by
  have hle : s.cursor ≤ c := by
    rcases hc with ⟨rfl, -⟩ | ⟨rfl, -⟩
    · exact le_rfl
    · exact Nat.le_succ _
  refine ⟨?_, ?_, ?_, ?_, ?_⟩
  · rcases hc with ⟨rfl, -⟩ | ⟨rfl, hlt⟩
    · exact h.cursor_le
    · exact hlt
  · intro frame hframe
    rcases List.mem_cons.mp hframe with rfl | hframe
    · exact le_rfl
    · exact (h.entry_le frame hframe).trans hle
  · refine List.pairwise_cons.mpr ⟨?_, h.nested⟩
    intro frame hframe
    have hentry := h.entry_le frame hframe
    rcases hc with ⟨rfl, hrank⟩ | ⟨rfl, -⟩
    · rcases Nat.lt_or_eq_of_le hentry with hlt | heq
      · exact .inl hlt
      · exact .inr ⟨heq, hrank frame hframe heq⟩
    · exact .inl (Nat.lt_succ_of_le hentry)
  · simp [State.enter]
  · intro m hm
    obtain rfl : n = m := Control.call.inj hm
    exact ⟨back, s.frames, rfl⟩

/-- All calls that were made where one begins are for looser things. -/
lemma rank_lt (h : Sound stream s) {n m : Nonterminal} (hcall : s.control = .call n)
    (hrank : n.rank < m.rank) :
    ∀ frame ∈ s.frames, frame.entry = s.cursor → frame.procedure.rank < m.rank := by
  obtain ⟨back, frames, hframes⟩ := h.call n hcall
  have hnested := h.nested
  rw [hframes, List.pairwise_cons] at hnested
  intro frame hframe hentry
  rw [hframes] at hframe
  rcases List.mem_cons.mp hframe with rfl | hframe
  · exact hrank
  · rcases hnested.1 frame hframe with hlt | ⟨-, hlooser⟩
    · exact absurd hentry (Nat.ne_of_lt hlt)
    · exact hlooser.trans hrank

/-- Nothing is lost where nothing begins. -/
lemma of_not_begins (h : Sound stream s) {c : Nat} {control : Control} {frames : List Frame}
    (hle : c ≤ stream.tokens.length) (hc : s.cursor ≤ c) (hframes : frames <:+ s.frames)
    (hcontrol : control.begins = false) : Sound stream ⟨c, control, frames⟩ := by
  refine ⟨hle, ?_, h.nested.sublist hframes.sublist, ?_, ?_⟩
  · intro frame hframe
    exact (h.entry_le frame (hframes.subset hframe)).trans hc
  · rintro rfl
    simp [Control.begins] at hcontrol
  · rintro n rfl
    simp [Control.begins] at hcontrol

/-- What holds in a state holds after a step. -/
theorem step (h : Sound stream s) (hstep : Machine.step stream s = some s') : Sound stream s' := by
  cases goes_of_step hstep with
  | @descend l hcontrol =>
      have hrank : (Nonterminal.row l).rank < l.operand.rank := by
        rw [rank_operand]
        exact Nat.lt_succ_self _
      exact h.enter _ (.inl ⟨rfl, h.rank_lt hcontrol hrank⟩)
  | @back e frame frames hcontrol hframes =>
      refine h.of_not_begins h.cursor_le le_rfl (hframes ▸ List.suffix_cons frame frames) ?_
      cases frame.back <;> rfl
  | unasked hcontrol hframes => exact h.of_not_begins h.cursor_le le_rfl (List.suffix_refl _) rfl
  | behind hlook hnext => exact h.of_not_begins h.cursor_le le_rfl (List.suffix_refl _) rfl
  | @look look next hlook hnext =>
      have hsettles := settles_of_look hlook next
      generalize look next = move at hsettles ⊢
      cases hsettles with
      | call hsome =>
          obtain ⟨t, rfl⟩ := Option.isSome_iff_exists.mp hsome
          exact h.enter _ (.inr ⟨rfl, lt_of_symbols hnext⟩)
      | begin hcontrol =>
          refine h.enter _ (.inl ⟨by simp [moved], ?_⟩)
          simp [h.start hcontrol]
      | primary hcontrol =>
          refine h.enter _ (.inl ⟨by simp [moved], ?_⟩)
          have hmoved : moved s.cursor next false = s.cursor := by simp [moved]
          rw [hmoved]
          exact h.rank_lt hcontrol (by decide)
      | @go taken control' hbegins _ =>
          rcases moved_cases taken hnext with ⟨hstay, -⟩ | ⟨hmove, hlt⟩
          · exact h.of_not_begins (hstay.trans_le h.cursor_le) hstay.ge (List.suffix_refl _) hbegins
          · exact h.of_not_begins (hmove.trans_le hlt) (hmove ▸ Nat.le_succ _) (List.suffix_refl _)
              hbegins

/-- Every state that the machine comes to is sound. -/
theorem of_reaches (h : Reaches (Machine.step stream) .initial s) : Sound stream s := by
  induction h with
  | refl =>
      refine ⟨Nat.zero_le _, by simp [State.initial], by simp [State.initial], fun _ => rfl, ?_⟩
      intro n hn
      cases hn
  | tail _ hstep ih => exact ih.step hstep

/-- Of two calls for the same thing the outer one was made with the cursor farther back. -/
lemma entry_lt (h : Sound stream s) :
    s.frames.Pairwise fun inner outer =>
      outer.procedure = inner.procedure → outer.entry < inner.entry := by
  refine h.nested.imp ?_
  rintro inner outer (hlt | ⟨-, hrank⟩) hsame
  · exact hlt
  · rw [hsame] at hrank
    exact absurd hrank (Nat.lt_irrefl _)

end Sound

/-! ### Rounds of loops -/

/-- Some steps move the cursor forward, or bring a step that does so closer. -/
lemma progress_of_reaches₁ (h : Reaches₁ (step stream) s s') :
    s.cursor < s'.cursor ∨ s.cursor = s'.cursor ∧ s'.distance < s.distance := by
  induction h with
  | single hstep =>
      rcases progress hstep with ⟨hcursor, -⟩ | ⟨hcursor, hdistance⟩
      · exact .inl (by omega)
      · exact .inr ⟨hcursor.symm, hdistance⟩
  | tail _ hstep ih =>
      rcases progress hstep with ⟨hcursor, -⟩ | ⟨hcursor, hdistance⟩
      · exact .inl (by omega)
      · omega

/-- A loop that begins another round in the same call has moved the cursor. -/
lemma cursor_lt_of_isRound (h : Reaches₁ (step stream) s s') (hs : s.control.isRound = true)
    (hs' : s'.control.isRound = true) (hframes : s'.frames = s.frames) : s.cursor < s'.cursor := by
  have hround : ∀ {control : Control} (depth : Nat), control.isRound = true →
      control.distance depth = 2 * depth + 2 := by
    intro control depth hcontrol
    cases control <;> first | rfl | simp [Control.isRound] at hcontrol
  rcases progress_of_reaches₁ h with hlt | ⟨-, hdistance⟩
  · exact hlt
  · -- both rounds are equally far from the next step that takes a symbol, as they are in the same call
    rw [State.distance, State.distance, hround _ hs, hround _ hs', hframes] at hdistance
    exact absurd hdistance (Nat.lt_irrefl _)

/-! ## Halting -/

lemma eq_of_step_eq_none (hs : step stream s = none) (h : Reaches (step stream) s s') : s' = s := by
  rcases h.cases_head with rfl | ⟨s'', hstep, -⟩
  · rfl
  · cases hs.symm.trans hstep

/-- Every state that the machine comes to is on its way to the answer. -/
lemma reaches_of_step_eq_none {final : State} (hfinal : Reaches (step stream) .initial final)
    (hnone : step stream final = none) (h : Reaches (step stream) .initial s) :
    Reaches (step stream) s final := by
  rcases StateTransition.reaches_total hfinal h with hback | hforth
  · rw [eq_of_step_eq_none hnone hback]
    exact .refl
  · exact hforth

/-! ## Integers with too many digits -/

/-- Whether a primary begins at an integer with too many digits, which are counted. -/
def State.Meets (stream : Stream) (s : State) (digits : Nat) : Prop :=
  s.control = .call .primary ∧
    ∃ t, stream.tokens[s.cursor]? = some t ∧ t.kind = .number ∧ '.' ∉ t.text ∧
      digitLimit < t.text.length ∧ t.text.length = digits

lemma numberLiteral_eq_error_iff {text : List Char} {n : Nat} :
    numberLiteral text = .error (.oversizedInteger n) ↔
      '.' ∉ text ∧ digitLimit < text.length ∧ text.length = n := by
  unfold numberLiteral
  by_cases hpoint : '.' ∈ text
  · cases h : Scientific.ofChars? text <;> simp [hpoint]
  · by_cases hlimit : digitLimit < text.length <;> simp [hpoint, hlimit]

lemma fail_ne_oversized {taken taken' : Bool} {expected : Expectation} {stop n : Nat}
    {next : Option Token} :
    fail taken expected stop next ≠ .go taken' (.halted (.error (.oversizedInteger n))) := by
  cases next <;> simp [fail, ParseError.unexpected]

lemma lookPrimary_eq_oversized {stop n : Nat} {next : Option Token} {taken : Bool}
    (h : lookPrimary stop next = .go taken (.halted (.error (.oversizedInteger n)))) :
    ∃ t, next = some t ∧ t.kind = .number ∧
      numberLiteral t.text = .error (.oversizedInteger n) := by
  cases next with
  | none => exact absurd h fail_ne_oversized
  | some t =>
      unfold lookPrimary at h
      dsimp only at h
      repeat' split at h
      case h_2 hkind _ e hnumber =>
          obtain ⟨-, rfl⟩ : true = taken ∧ e = .oversizedInteger n := by simpa using h
          exact ⟨t, rfl, hkind, hnumber⟩
      all_goals first | exact absurd h fail_ne_oversized | simp at h

/-- Only a primary finds that an integer has too many digits. -/
lemma look_eq_oversized {control : Control} {stop n : Nat} {look : Option Token → Move}
    (h : control.look? stop = some look) {next : Option Token} {taken : Bool}
    (hnext : look next = .go taken (.halted (.error (.oversizedInteger n)))) :
    control = .call .primary ∧ ∃ t, next = some t ∧ t.kind = .number ∧
      numberLiteral t.text = .error (.oversizedInteger n) := by
  cases control with
  | call n =>
      cases n with
      | row l => simp [Control.look?] at h
      | primary =>
          obtain rfl := Option.some.inj h
          exact ⟨rfl, lookPrimary_eq_oversized hnext⟩
      | unary =>
          obtain rfl := Option.some.inj h
          dsimp only at hnext
          split at hnext <;> simp at hnext
  | give | halted | lost => simp [Control.look?] at h
  | _ =>
      obtain rfl := Option.some.inj h
      dsimp only at hnext
      repeat' split at hnext
      all_goals first | exact absurd hnext fail_ne_oversized | simp at hnext

/-- The machine halts at an integer with too many digits exactly if a primary begins there. -/
lemma meets_of_step {n : Nat} (h : step stream s = some s')
    (hs' : s'.control = .halted (.error (.oversizedInteger n))) : s.Meets stream n := by
  cases goes_of_step h with
  | descend => simp [State.enter] at hs'
  | @back e frame frames =>
      cases hback : frame.back <;> simp [hback, Return.resume] at hs'
  | unasked => simp at hs'
  | behind => simp at hs'
  | @look look next hlook hnext =>
      cases hmove : look next with
      | enter taken n back => simp [hmove, State.perform, State.enter] at hs'
      | go taken control =>
          rw [hmove] at hs'
          obtain rfl : control = .halted (.error (.oversizedInteger n)) := hs'
          obtain ⟨hcontrol, t, rfl, hkind, hnumber⟩ := look_eq_oversized hlook hmove
          have ht : stream.tokens[s.cursor]? = some t := by
            rw [Stream.symbols, List.getElem?_append_left (by simpa using lt_of_symbols hnext)] at hnext
            simpa using hnext
          exact ⟨hcontrol, t, ht, hkind, numberLiteral_eq_error_iff.mp hnumber⟩

lemma step_of_meets {n : Nat} (h : s.Meets stream n) :
    step stream s = some ⟨s.cursor + 1, .halted (.error (.oversizedInteger n)), s.frames⟩ := by
  obtain ⟨hcontrol, t, ht, hkind, hnumber⟩ := h
  obtain ⟨cursor, control, frames⟩ := s
  obtain rfl : control = .call .primary := hcontrol
  obtain ⟨hlt, rfl⟩ := List.getElem?_eq_some_iff.mp ht
  have hat : At stream cursor (stream.tokens[cursor] :: stream.tokens.drop (cursor + 1)) :=
    ⟨stream.tokens.take cursor, by rw [List.getElem_cons_drop, List.take_append_drop],
      List.length_take_of_le hlt.le⟩
  refine step_primary hat ?_ frames
  rw [lookPrimary_of_number hkind, numberLiteral_eq_error_iff.mpr hnumber]

/-- The answer is an integer with too many digits exactly if the machine comes to one. -/
theorem ofTokens_eq_oversized_iff {n : Nat} :
    ofTokens stream = .error (.oversizedInteger n) ↔
      ∃ s, Reaches (step stream) .initial s ∧ s.Meets stream n := by
  obtain ⟨c, frames, hfinal⟩ := reaches_answer stream
  constructor
  · intro h
    -- the machine halts at the answer, so the state before it is where the token was met
    rcases hfinal.cases_tail with heq | ⟨s, hs, hstep⟩
    · cases heq
    · exact ⟨s, hs, meets_of_step hstep (by rw [h])⟩
  · rintro ⟨s, hs, hmeets⟩
    have hstep := step_of_meets hmeets
    have hhalted := eq_of_step_eq_none rfl (reaches_of_step_eq_none (hs.tail hstep) rfl hfinal)
    simpa using (congrArg State.control hhalted).symm

/-- The error of a text that is no expression is a syntax error with its place, unless it is an integer with
too many digits. -/
lemma ofParseError_cases (error : ParseError) :
    (∃ position, Fault.ofParseError error = .of (.malformed error.message (some position))) ∨
      ∃ n, error = .oversizedInteger n ∧ Fault.ofParseError error = .other .value error.message := by
  cases error with
  | oversizedInteger n => exact .inr ⟨n, rfl, rfl⟩
  | _ => exact .inl ⟨_, rfl⟩

lemma parse_eq_oversized_iff {text : String} {n : Nat} :
    parse text = .error (.oversizedInteger n) ↔
      ∃ stream s, Token.tokenize text.toList = .ok stream ∧
        Reaches (step stream) .initial s ∧ s.Meets stream n := by
  rw [parse, parseChars]
  cases htokens : Token.tokenize text.toList with
  | error e => simp
  | ok stream => simp [ofTokens_eq_oversized_iff]

/-- Every text is an expression, or it is none and the error is a syntax error with its place or says that an
integer has too many digits, the latter exactly if the parser comes to such a token.  Whatever the tokens are,
the parser halts with its answer.  In every state on the way there the cursor is on one of the symbols, the
last of which is the end; a step leaves it there or moves it by one, but not beyond the end; each call that
begins is noted with the cursor where it stands; of two calls for the same thing, one within the other, the
inner one has its cursor farther on; and between two rounds of one loop the cursor moves forward. -/
theorem cursor_stays_within :
    (∀ text, (∃ e, parse text = .ok e) ∨
        ∃ error, parse text = .error error ∧
          ((∃ position, Fault.ofParseError error = .of (.malformed error.message (some position))) ∨
            ∃ n, error = .oversizedInteger n ∧
              Fault.ofParseError error = .other .value error.message)) ∧
      (∀ text n, parse text = .error (.oversizedInteger n) ↔
        ∃ stream s, Token.tokenize text.toList = .ok stream ∧
          Reaches (step stream) .initial s ∧ s.Meets stream n) ∧
      ∀ stream : Stream, ∃ final : State,
        final.control = .halted (ofTokens stream) ∧
          ∀ s, Reaches (step stream) .initial s →
            Reaches (step stream) s final ∧
              s.cursor < stream.symbols.length ∧
              (∀ s', step stream s = some s' → s'.cursor = s.cursor ∨
                s'.cursor = s.cursor + 1 ∧ s.cursor < stream.tokens.length) ∧
              (∀ n, s.control = .call n → ∃ back frames, s.frames = ⟨n, s.cursor, back⟩ :: frames) ∧
              (s.frames.Pairwise fun inner outer =>
                outer.procedure = inner.procedure → outer.entry < inner.entry) ∧
              ∀ s', Reaches₁ (step stream) s s' → s.control.isRound = true →
                s'.control.isRound = true → s'.frames = s.frames → s.cursor < s'.cursor := by
  refine ⟨?_, fun text n => parse_eq_oversized_iff, ?_⟩
  · intro text
    cases parse text with
    | ok e => exact .inl ⟨e, rfl⟩
    | error error => exact .inr ⟨error, rfl, ofParseError_cases error⟩
  · intro stream
    obtain ⟨c, frames, hfinal⟩ := reaches_answer stream
    refine ⟨⟨c, .halted (ofTokens stream), frames⟩, rfl, ?_⟩
    intro s hs
    have hsound := Sound.of_reaches hs
    refine ⟨reaches_of_step_eq_none hfinal rfl hs, ?_, ?_, hsound.call, hsound.entry_lt, ?_⟩
    · rw [Stream.symbols, List.length_append, List.length_map, List.length_singleton]
      exact Nat.lt_succ_of_le hsound.cursor_le
    · intro s' hstep
      rcases progress hstep with hmoved | ⟨hstayed, -⟩
      · exact .inr hmoved
      · exact .inl hstayed
    · intro s' hreaches hround hround' hframes
      exact cursor_lt_of_isRound hreaches hround hround' hframes

end FeatureToggles.Expr.Machine
