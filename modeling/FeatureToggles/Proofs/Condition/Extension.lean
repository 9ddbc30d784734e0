import FeatureToggles.Proofs.Condition.Report
import FeatureToggles.Proofs.Expr.Connective

/-!
# More attributes

An expression is evaluated over the names that it mentions, and not all of these are asked for.  A scope that
binds at least as many of them, and the same values where both bind, gives the same value or the same error,
unless the evaluation ended at a name that was not bound.  So a condition that matched a mapping, or that did
not, is answered in the same way when attributes are added.

Main statements: `evaluate_eq_or_unbound` and `evaluate_and_test_extended`.
-/

namespace FeatureToggles

/-- Whether a scope keeps the values that another one binds to some names. -/
def Scope.Keeps (scope' scope : Scope) (names : List String) : Prop :=
  ∀ name ∈ names, ∀ v, scope.lookup name = some v → scope'.lookup name = some v

/-- The mapping that has texts for names. -/
def Value.ofNamed (named : List (String × Value)) : Value :=
  .map (named.map fun a => (.text a.1, a.2))

namespace Expr

/-! ## Evaluation -/

/-- The names of attributes that an expression mentions. -/
def roots : Expr → List String
  | .literal _ => []
  | .name root _ => [root]
  | .not e => e.roots
  | .negate e => e.roots
  | .compare _ l r => l.roots ++ r.roots
  | .and l r => l.roots ++ r.roots
  | .or l r => l.roots ++ r.roots
  | .foreign _ => []

/-- Whether an evaluation ended at a name that is not bound. -/
def EndsUnbound (r : Except EvalError Value) : Prop :=
  ∃ name, r = .error (.unknownAttribute name)

variable {scope scope' : Scope}

lemma keeps_append {names names' : List String} (h : scope'.Keeps scope (names ++ names')) :
    scope'.Keeps scope names ∧ scope'.Keeps scope names' :=
  ⟨fun name hname => h name (List.mem_append_left _ hname),
    fun name hname => h name (List.mem_append_right _ hname)⟩

/-- A connective is asked for the same, as far as it is asked. -/
lemma decidedBy_eq_or_unbound {l r : Expr} (d : Bool)
    (hl : evaluate scope' l = evaluate scope l ∨ EndsUnbound (evaluate scope l))
    (hr : evaluate scope' r = evaluate scope r ∨ EndsUnbound (evaluate scope r)) :
    evaluate scope' (decidedBy d l r) = evaluate scope (decidedBy d l r) ∨
      EndsUnbound (evaluate scope (decidedBy d l r)) := by
  rw [evaluate_decidedBy, evaluate_decidedBy]
  obtain heq | ⟨name, hname⟩ := hl
  · rw [heq]
    cases asBoolean (connectiveSymbol d) (evaluate scope l) with
    | error e => exact .inl rfl
    | ok b =>
        by_cases hb : b = d
        · exact .inl (by simp [inTurn, bind, Except.bind, hb])
        · -- the right operand is asked only where the left one does not decide
          obtain heq' | ⟨name, hname⟩ := hr
          · exact .inl (by rw [heq'])
          · exact .inr ⟨name, by rw [hname]; simp [inTurn, bind, Except.bind, hb, asBoolean, Except.map]⟩
  · exact .inr ⟨name, by rw [hname]; rfl⟩

/-- A scope that keeps the values of the names in an expression gives what the other one gives, where that
one does not lack a name. -/
theorem evaluate_eq_or_unbound {e : Expr} (h : scope'.Keeps scope e.roots) :
    evaluate scope' e = evaluate scope e ∨ EndsUnbound (evaluate scope e) := by
  induction e with
  | literal v => exact .inl rfl
  | foreign v => exact .inl rfl
  | name root members =>
      rw [evaluate, evaluate]
      cases hlookup : scope.lookup root with
      | none => exact .inr ⟨root, resolve_of_lookup_none members hlookup⟩
      | some v =>
          have hlookup' : scope'.lookup root = some v := h root (by simp [roots]) v hlookup
          exact .inl (by rw [resolve, resolve, hlookup, hlookup'])
  | not e ih =>
      rw [evaluate, evaluate]
      obtain heq | ⟨name, hname⟩ := ih h
      · exact .inl (by rw [heq])
      · exact .inr ⟨name, by rw [hname]; rfl⟩
  | negate e ih =>
      rw [evaluate, evaluate]
      obtain heq | ⟨name, hname⟩ := ih h
      · exact .inl (by rw [heq])
      · exact .inr ⟨name, by rw [hname]⟩
  | compare op l r ihl ihr =>
      obtain ⟨hl, hr⟩ := keeps_append h
      rw [evaluate, evaluate]
      obtain heq | ⟨name, hname⟩ := ihl hl
      · rw [heq]
        -- the right operand is evaluated only where the left one has a value
        cases evaluate scope l with
        | error e => exact .inl rfl
        | ok v =>
            obtain heq' | ⟨name, hname⟩ := ihr hr
            · exact .inl (by rw [heq'])
            · exact .inr ⟨name, by rw [hname]⟩
      · exact .inr ⟨name, by rw [hname]⟩
  | and l r ihl ihr =>
      obtain ⟨hl, hr⟩ := keeps_append h
      exact decidedBy_eq_or_unbound false (ihl hl) (ihr hr)
  | or l r ihl ihr =>
      obtain ⟨hl, hr⟩ := keeps_append h
      exact decidedBy_eq_or_unbound true (ihl hl) (ihr hr)

lemma evaluate_eq_of_keeps {e : Expr} (h : scope'.Keeps scope e.roots)
    (hbound : ∀ name, evaluate scope e ≠ .error (.unknownAttribute name)) :
    evaluate scope' e = evaluate scope e := by
  obtain heq | ⟨name, hname⟩ := evaluate_eq_or_unbound h
  · exact heq
  · exact absurd hname (hbound name)

/-- What is true or false stays so. -/
lemma holds_of_keeps {e : Expr} {b : Bool} (h : scope'.Keeps scope e.roots)
    (hholds : holds scope e = .ok b) : holds scope' e = .ok b := by
  have heq : evaluate scope' e = evaluate scope e := by
    refine evaluate_eq_of_keeps h fun name hname => ?_
    rw [holds, hname] at hholds
    cases hholds
  rwa [holds, heq]

end Expr

/-! ## Mappings -/

lemma Context.attributes_ofNamed (named : List (String × Value)) :
    (Context.entries (named.map fun a => (Value.text a.1, a.2))).attributes = .ok named := by
  have hrows : attributesOfRows
      ((named.map fun a => (Value.text a.1, a.2)).map fun entry => [entry.1, entry.2]) =
        .ok named := by
    induction named with
    | nil => rfl
    | cons a named ih =>
        simp only [List.map_cons, attributesOfRows, Value.toText, ih]
        rfl
  simp only [Context.attributes, rows, failure?, hrows]

/-- A name that occurs once among the names of a scope has the value that it is paired with. -/
lemma Scope.lookup_eq_some_of_mem {scope : Scope} (h : (scope.map Prod.fst).Nodup) {name : String}
    {v : Value} (hmem : (name, v) ∈ scope) : scope.lookup name = some v := by
  unfold Scope.lookup
  cases hfind : scope.reverse.find? fun binding => binding.1 == name with
  | none =>
      have hnone := List.find?_eq_none.mp hfind (name, v) (List.mem_reverse.mpr hmem)
      simp at hnone
  | some binding =>
      have hname : binding.1 = name := by simpa using List.find?_some hfind
      have hbinding := List.mem_reverse.mp (List.mem_of_find?_eq_some hfind)
      rw [List.inj_on_of_nodup_map h hbinding hmem hname]
      rfl

lemma Scope.mem_of_lookup {scope : Scope} {name : String} {v : Value}
    (h : scope.lookup name = some v) : (name, v) ∈ scope := by
  obtain ⟨binding, hfind, rfl⟩ := Option.map_eq_some_iff.mp h
  have hname : binding.1 = name := by simpa using List.find?_some hfind
  rw [← hname]
  exact List.mem_reverse.mp (List.mem_of_find?_eq_some hfind)

namespace Condition

/-- A test that had an answer has the same one when attributes are added under new names. -/
lemma Answers.extend {condition : String} {named named' : List (String × Value)} {b : Bool}
    (h : Answers condition (.ofNamed named) b) (hnodup : (named'.map Prod.fst).Nodup)
    (hsub : ∀ a ∈ named, a ∈ named') : Answers condition (.ofNamed named') b := by
  obtain ⟨context, e, attributes, hcontext, hparse, hattributes, hholds⟩ := h
  obtain rfl := Except.ok.inj hcontext
  obtain rfl : named = attributes :=
    Except.ok.inj ((Context.attributes_ofNamed named).symm.trans hattributes)
  refine ⟨_, e, named', rfl, hparse, Context.attributes_ofNamed named', ?_⟩
  refine Expr.holds_of_keeps (fun name _ v hv => ?_) hholds
  exact Scope.lookup_eq_some_of_mem hnodup (hsub _ (Scope.mem_of_lookup hv))

/-- What is left over of a test on a mapping stays so too: the error came up in a value, and not at a name. -/
lemma LeavesOver.extend {condition : String} {named named' : List (String × Value)} {fault : Fault}
    (h : LeavesOver condition (.ofNamed named) fault) (hnodup : (named'.map Prod.fst).Nodup)
    (hsub : ∀ a ∈ named, a ∈ named') : LeavesOver condition (.ofNamed named') fault := by
  cases h with
  | withheld h =>
      cases h with
      | refused hcontext => cases hcontext
      | unlisted hcontext hattributes =>
          obtain rfl := Option.some.inj (Except.ok.inj hcontext)
          simp [Context.attributes_ofNamed] at hattributes
  | unsuitable hcontext => cases hcontext
  | @undefined _ tree attributes e raised hcontext hparse hattributes hholds htext =>
      obtain rfl := Except.ok.inj hcontext
      obtain rfl : named = attributes :=
        Except.ok.inj ((Context.attributes_ofNamed named).symm.trans hattributes)
      refine .undefined rfl hparse (Context.attributes_ofNamed named') ?_ htext
      have heq : Expr.evaluate named' tree = Expr.evaluate named tree := by
        refine Expr.evaluate_eq_of_keeps (fun name _ v hv =>
          Scope.lookup_eq_some_of_mem hnodup (hsub _ (Scope.mem_of_lookup hv))) fun name hname => ?_
        rw [Expr.holds, hname] at hholds
        obtain rfl := Except.error.inj hholds
        cases htext
      rwa [Expr.holds, heq]

/-- An expression is evaluated alike over two scopes if the second one keeps what the first one binds of its
names, except where the evaluation over the first one ends at a name that it does not bind.  So a test that
matches a mapping, or does not, ends alike on a mapping with further attributes. -/
theorem evaluate_and_test_extended :
    (∀ (e : Expr) (scope scope' : Scope), scope'.Keeps scope e.roots →
      (∀ name, Expr.evaluate scope e ≠ .error (.unknownAttribute name)) →
      Expr.evaluate scope' e = Expr.evaluate scope e) ∧
    ∀ (condition : String) (named named' : List (String × Value)),
      (named'.map Prod.fst).Nodup → (∀ a ∈ named, a ∈ named') →
      status condition (.ofNamed named) ≠ .failed →
      test condition (.ofNamed named') = test condition (.ofNamed named) := by
  refine ⟨fun e scope scope' => Expr.evaluate_eq_of_keeps, ?_⟩
  intro condition named named' hnodup hsub hstatus
  cases htest : (test condition (.ofNamed named)).1 with
  | error fault =>
      have hleft := test_eq_error_iff.mp htest
      rw [test_of_leavesOver hleft, test_of_leavesOver (hleft.extend hnodup hsub)]
  | ok outcome =>
      obtain ⟨b, hb⟩ | hbreaks | ⟨fault, hwithheld⟩ :=
        exists_answers_or_breaks condition (.ofNamed named)
      · rw [test_of_answers hb, test_of_answers (hb.extend hnodup hsub)]
      · refine absurd ((status_iff condition (.ofNamed named)).2.2.mpr ⟨hbreaks, fun fault h => ?_⟩) hstatus
        simp [test_of_leavesOver h] at htest
      · simp [test_of_leavesOver (.withheld hwithheld)] at htest

/-- A name that is not asked for, and is bound by the larger mapping only. -/
theorem evaluate_and_test_extended_unasked :
    Expr.evaluate [("b", .text "x"), ("a", .bool true)]
          (.or (.name "a" []) (.compare .eq (.name "b" []) (.literal (.number (.int 1))))) =
        Expr.evaluate [("a", .bool true)]
          (.or (.name "a" []) (.compare .eq (.name "b" []) (.literal (.number (.int 1))))) ∧
      status "a or b = 1" (.ofNamed [("a", .bool true)]) ≠ .failed ∧
      test "a or b = 1" (.ofNamed [("b", .text "x"), ("a", .bool true)]) =
        test "a or b = 1" (.ofNamed [("a", .bool true)]) := by
  have hparse : Expr.parse (normalize "a or b = 1") =
      .ok (.or (.name "a" []) (.compare .eq (.name "b" []) (.literal (.number (.int 1))))) := by
    cbv
  have hstatus : status "a or b = 1" (.ofNamed [("a", .bool true)]) = .matched := by
    rw [status_of_parse hparse]
    cbv
  have hvalue : Expr.evaluate [("a", .bool true)]
      (.or (.name "a" []) (.compare .eq (.name "b" []) (.literal (.number (.int 1))))) =
        .ok (.bool true) := by
    cbv
  have hkeeps : Scope.Keeps [("b", .text "x"), ("a", .bool true)] [("a", .bool true)] ["a", "b"] := by
    intro name hname v hv
    have hmem := Scope.mem_of_lookup hv
    exact Scope.lookup_eq_some_of_mem (by decide) (List.mem_cons_of_mem _ hmem)
  refine ⟨?_, by rw [hstatus]; decide, ?_⟩
  · exact evaluate_and_test_extended.1 _ _ _ hkeeps (by rw [hvalue]; simp)
  · exact evaluate_and_test_extended.2 "a or b = 1" _ _ (by decide) (by simp)
      (by rw [hstatus]; decide)

end Condition

end FeatureToggles
