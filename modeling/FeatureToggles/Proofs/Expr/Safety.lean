import FeatureToggles.Proofs.Expr.Derivation
import FeatureToggles.Proofs.Value.Data
import Mathlib

/-!
# Evaluation over data

A tree that was assembled by hand, or a value that no document holds, can make an evaluation fail in ways
that are not of the language.  An expression that was read from a text is well-formed, and its literals are
data; over data it is true, false, or does not fit them, and nothing else can come of it.

Main statements: `OverData.evaluate`, which follows the tree, and `holds_of_parse`.
-/

namespace FeatureToggles

/-- Whether an error tells that an expression does not fit the values in scope.  Those errors do not which
tell of a tree that is no expression, of an operator that the language does not have, or of a failure
inside a value. -/
inductive EvalError.IsMisfit : EvalError → Prop where
  | unknownAttribute (name : String) : IsMisfit (.unknownAttribute name)
  | noMembers (owner : String) (kind : Value.Kind) : IsMisfit (.noMembers owner kind)
  | unknownMember (member owner : String) : IsMisfit (.unknownMember member owner)
  | notBoolean (operator : String) (kind : Value.Kind) : IsMisfit (.notBoolean operator kind)
  | notNumber (kind : Value.Kind) : IsMisfit (.notNumber kind)
  | incompatible (op : Comparison) (left right : Value.Kind) :
      IsMisfit (.incompatible op left right)
  | notCondition (kind : Value.Kind) : IsMisfit (.notCondition kind)

/-- A misfit is reported as an error of expressions, with its text. -/
lemma EvalError.IsMisfit.fault {error : EvalError} (h : error.IsMisfit) :
    Fault.ofEvalError error = .of (.undefined error.message none) := by
  cases h <;> rfl

/-- Whether all names in scope stand for data. -/
def Scope.IsData (scope : Scope) : Prop := ∀ binding ∈ scope, binding.2.IsData

namespace Expr

/-- Whether a tree is an expression throughout, and its literals are data. -/
inductive OverData : Expr → Prop where
  | literal {v : Value} : v.IsData → OverData (.literal v)
  | name (root : String) (members : List String) : OverData (.name root members)
  | not {e : Expr} : OverData e → OverData (.not e)
  | negate {e : Expr} : OverData e → OverData (.negate e)
  | compare {op : Comparison} {l r : Expr} :
      (∀ s, op ≠ .unknown s) → OverData l → OverData r → OverData (.compare op l r)
  | and {l r : Expr} : OverData l → OverData r → OverData (.and l r)
  | or {l r : Expr} : OverData l → OverData r → OverData (.or l r)

lemma OverData.wellFormed {e : Expr} (h : OverData e) : WellFormed e := by
  induction h with
  | literal => exact .literal _
  | name root members => exact .name root members
  | not _ ih => exact .not ih
  | negate _ ih => exact .negate ih
  | compare hop _ _ ihl ihr => exact .compare hop ihl ihr
  | and _ _ ihl ihr => exact .and ihl ihr
  | or _ _ ihl ihr => exact .or ihl ihr

/-! ## What is parsed is over data -/

lemma isData_of_denotes {kind : Token.Kind} {text : List Char} {v : Value}
    (h : Denotes kind text v) : v.IsData := by
  cases h with
  | integer | decimal => exact .number rfl
  | string => exact .text _
  | true | false => exact .bool _
  | null => exact .null

lemma Joins.overData {l : Level} {kind : Token.Kind} {text : List Char} {f : Expr → Expr → Expr}
    (h : Joins l kind text f) {a b : Expr} (ha : OverData a) (hb : OverData b) :
    OverData (f a b) := by
  cases h with
  | bars | or => exact .or ha hb
  | ampersands | and => exact .and ha hb
  | _ => exact .compare (by simp) ha hb

lemma Prefixes.overData {kind : Token.Kind} {text : List Char} {f : Expr → Expr}
    (h : Prefixes kind text f) {e : Expr} (he : OverData e) : OverData (f e) := by
  cases h with
  | exclamation | not => exact .not he
  | minus => exact .negate he

lemma Derives.overData {n : Nonterminal} {ts : List Token} {e : Expr} (h : Derives n ts e) :
    OverData e := by
  induction h with
  | operand _ ih | primary _ ih => exact ih
  | join _ hop _ iha ihb => exact hop.overData iha ihb
  | applied hop _ ih => exact hop.overData ih
  | group _ _ _ _ _ ih => exact ih
  | literal hv => exact .literal (isData_of_denotes hv)
  | name => exact .name _ _

lemma overData_of_parse {text : String} {e : Expr} (h : parse text = .ok e) : OverData e := by
  obtain ⟨_, _, hderives⟩ := derived_of_parse h
  exact hderives.overData

/-! ## What comes of the steps of an evaluation -/

/-- Whether a result has some property, or tells of a misfit. -/
def Lands {α : Type} (P : α → Prop) (r : Except EvalError α) : Prop :=
  (∃ a, r = .ok a ∧ P a) ∨ ∃ error, r = .error error ∧ error.IsMisfit

namespace Lands

variable {α β : Type} {P : α → Prop} {Q : β → Prop}

lemma ok {a : α} (h : P a) : Lands P (.ok a) := .inl ⟨a, rfl, h⟩

lemma error {e : EvalError} (h : e.IsMisfit) : Lands P (.error e) := .inr ⟨e, rfl, h⟩

lemma map {r : Except EvalError α} (h : Lands P r) {f : α → β} (hf : ∀ a, P a → Q (f a)) :
    Lands Q (r.map f) := by
  obtain ⟨a, rfl, ha⟩ | ⟨e, rfl, he⟩ := h
  · exact .ok (hf a ha)
  · exact .error he

end Lands

variable {scope : Scope}

lemma lands_resolveMembers {v : Value} (hv : v.IsData) (owner : String) (members : List String) :
    Lands Value.IsData (resolveMembers owner v members) := by
  induction members generalizing owner v with
  | nil => exact .ok hv
  | cons member rest ih =>
      rw [resolveMembers]
      rcases hv.members?_eq with hnone | ⟨entries, hsome, hentries⟩
      · rw [hnone]
        exact .error (.noMembers owner v.kind)
      · simp only [hsome]
        cases hlookup : Value.lookup entries (.text member) with
        | none => exact .error (.unknownMember member owner)
        | some w => exact ih (Value.of_lookup hentries hlookup) _

lemma lands_resolve (hscope : scope.IsData) (root : String) (members : List String) :
    Lands Value.IsData (resolve scope root members) := by
  rw [resolve]
  cases hlookup : scope.lookup root with
  | none => exact .error (.unknownAttribute root)
  | some v =>
      obtain ⟨binding, hfind, rfl⟩ := Option.map_eq_some_iff.mp hlookup
      have hmem := List.mem_reverse.mp (List.mem_of_find?_eq_some hfind)
      exact lands_resolveMembers (hscope binding hmem) root members

lemma lands_asBoolean {r : Except EvalError Value} (h : Lands Value.IsData r) (operator : String) :
    Lands (fun _ => True) (asBoolean operator r) := by
  obtain ⟨v, rfl, -⟩ | ⟨e, rfl, he⟩ := h
  · cases v with
    | bool b => exact .ok trivial
    | _ => exact .error (.notBoolean operator _)
  · exact .error he

lemma lands_minus {v : Value} (hv : v.IsData) : Lands Value.IsData (minus v) := by
  cases hv with
  | number hn =>
      obtain ⟨n', hneg, hn'⟩ := Number.exists_neg hn
      rw [minus, hneg]
      exact .ok (.number hn')
  | _ => exact .error (.notNumber _)

lemma lands_orderNumbers (op : Comparison) {a b : Number} (ha : a.isDecimal = false)
    (hb : b.isDecimal = false) : Lands (fun _ => True) (orderNumbers op a b) := by
  have hlands : ∀ {r : Except Decimal.Error Bool}, (∃ answer, r = .ok answer) →
      Lands (fun _ => True) (r.mapError fun e => EvalError.value (.arithmetic e)) := by
    rintro r ⟨answer, rfl⟩
    exact .ok trivial
  cases op with
  | lt | le => exact hlands (Number.exists_ordered _ ha hb)
  | _ => exact hlands (Number.exists_ordered _ hb ha)

/-- A comparison of data has an answer unless the operator is not defined on their kinds. -/
lemma lands_comparison {op : Comparison} (hop : ∀ s, op ≠ .unknown s) {v w : Value}
    (hv : v.IsData) (hw : w.IsData) : Lands (fun _ => True) (comparison op v w) := by
  obtain ⟨answer, hequal⟩ := hv.exists_equal hw
  cases op with
  | unknown s => exact absurd rfl (hop s)
  | eq | ne =>
      rw [comparison, hequal]
      split_ifs
      · exact .ok trivial
      · exact .error (.incompatible _ _ _)
  | lt | le | gt | ge =>
      cases hv with
      | number hn =>
          cases hw with
          | number hn' =>
              simp only [comparison]
              exact lands_orderNumbers _ hn hn'
          | _ => exact .error (.incompatible _ _ _)
      | text s =>
          cases hw with
          | text t => exact .ok trivial
          | _ => exact .error (.incompatible _ _ _)
      | _ => exact .error (.incompatible _ _ _)

/-! ## Evaluation -/

/-- Over data an expression has a value that is data, or does not fit them. -/
theorem OverData.evaluate {e : Expr} (he : OverData e) (hscope : scope.IsData) :
    Lands Value.IsData (e.evaluate scope) := by
  induction he with
  | literal hv => exact .ok hv
  | name root members => exact lands_resolve hscope root members
  | not _ ih =>
      rw [Expr.evaluate]
      exact (lands_asBoolean ih "!").map fun b _ => .bool !b
  | negate _ ih =>
      rw [Expr.evaluate]
      obtain ⟨v, hv, hdata⟩ | ⟨error, herror, hmisfit⟩ := ih
      · rw [hv]
        exact lands_minus hdata
      · rw [herror]
        exact .error hmisfit
  | compare hop _ _ ihl ihr =>
      rw [Expr.evaluate]
      obtain ⟨v, hv, hvdata⟩ | ⟨error, herror, hmisfit⟩ := ihl
      · obtain ⟨w, hw, hwdata⟩ | ⟨error, herror, hmisfit⟩ := ihr
        · rw [hv, hw]
          exact (lands_comparison hop hvdata hwdata).map fun b _ => .bool b
        · rw [hv, herror]
          exact .error hmisfit
      · rw [herror]
        exact .error hmisfit
  | and _ _ ihl ihr =>
      rw [Expr.evaluate]
      obtain ⟨b, hb, -⟩ | ⟨error, herror, hmisfit⟩ := lands_asBoolean ihl "&&"
      · rw [hb]
        cases b with
        | false => exact .ok (.bool false)
        | true => exact (lands_asBoolean ihr "&&").map fun b _ => .bool b
      · rw [herror]
        exact .error hmisfit
  | or _ _ ihl ihr =>
      rw [Expr.evaluate]
      obtain ⟨b, hb, -⟩ | ⟨error, herror, hmisfit⟩ := lands_asBoolean ihl "||"
      · rw [hb]
        cases b with
        | true => exact .ok (.bool true)
        | false => exact (lands_asBoolean ihr "||").map fun b _ => .bool b
      · rw [herror]
        exact .error hmisfit

/-- Over data an expression is true, is false, or does not fit them. -/
lemma OverData.holds {e : Expr} (he : OverData e) (hscope : scope.IsData) :
    Lands (fun _ => True) (e.holds scope) := by
  rw [Expr.holds]
  obtain ⟨v, hv, -⟩ | ⟨error, herror, hmisfit⟩ := he.evaluate hscope
  · rw [hv]
    cases v with
    | bool b => exact .ok trivial
    | _ => exact .error (.notCondition _)
  · rw [herror]
    exact .error hmisfit

/-- What parses is an expression throughout.  Over data it is true or false, or it fails with an error of
expressions, which tells of a misfit.  The attributes of a context that a JSON document holds are data. -/
theorem holds_of_parse {text : String} {e : Expr} (h : parse text = .ok e) :
    e.WellFormed ∧
      (∀ scope : Scope, scope.IsData →
        (∃ b, holds scope e = .ok b) ∨
          ∃ error, holds scope e = .error error ∧ error.IsMisfit ∧
            Fault.ofEvalError error = .of (.undefined error.message none)) ∧
      ∀ fields : Json.Fields, ∃ c attributes,
        Context.ofValue (Json.obj fields).toValue = .ok (some c) ∧
          c.attributes = .ok attributes ∧ Scope.IsData attributes := by
  have he := overData_of_parse h
  refine ⟨he.wellFormed, fun scope hscope => ?_, Context.exists_attributes_of_json⟩
  obtain ⟨b, hb, -⟩ | ⟨error, herror, hmisfit⟩ := he.holds hscope
  · exact .inl ⟨b, hb⟩
  · exact .inr ⟨error, herror, hmisfit, hmisfit.fault⟩

/-- A list in a mapping, which is compared with a list that holds what is not a number. -/
theorem holds_of_parse_member_equation :
    parse "a.b = c" = .ok (.compare .eq (.name "a" ["b"]) (.name "c" [])) ∧
      Scope.IsData [("a", .map [(.text "b", .list [.number (.int 1)])]),
        ("c", .list [.number (.float .noNumber)])] ∧
      ((∃ b, holds [("a", .map [(.text "b", .list [.number (.int 1)])]),
          ("c", .list [.number (.float .noNumber)])]
          (.compare .eq (.name "a" ["b"]) (.name "c" [])) = .ok b) ∨
        ∃ error, holds [("a", .map [(.text "b", .list [.number (.int 1)])]),
          ("c", .list [.number (.float .noNumber)])]
          (.compare .eq (.name "a" ["b"]) (.name "c" [])) = .error error ∧ error.IsMisfit ∧
            Fault.ofEvalError error = .of (.undefined error.message none)) := by
  have hparse : parse "a.b = c" = .ok (.compare .eq (.name "a" ["b"]) (.name "c" [])) := by cbv
  have hleft : Value.IsData (.map [(.text "b", .list [.number (.int 1)])]) := by
    refine .map (by simp) fun entry hentry => ?_
    obtain rfl := List.mem_singleton.mp hentry
    exact .list (by simpa using .number rfl)
  have hright : Value.IsData (.list [.number (.float .noNumber)]) := .list (by simpa using .number rfl)
  have hscope : Scope.IsData [("a", .map [(.text "b", .list [.number (.int 1)])]),
      ("c", .list [.number (.float .noNumber)])] :=
    List.forall_mem_cons.mpr ⟨hleft, List.forall_mem_singleton.mpr hright⟩
  exact ⟨hparse, hscope, (holds_of_parse hparse).2.1 _ hscope⟩

end Expr

end FeatureToggles
