import FeatureToggles.Proofs.Expr.Lexeme

/-!
# Terminals

The parser reads operators, literals and punctuation as the terminals of the grammar say.  Only
integers with too many digits have no reading.

Main statements: `build?_eq_some_iff`, `prefixOp?_eq_some_iff`, `numberLiteral_of_denotes`,
`stringLiteral_of_denotes` and `constant?_eq_some_iff`.
-/

namespace FeatureToggles

namespace Token

/-- Whether a token is no integer with too many digits to be read. -/
def IsShort (t : Token) : Prop :=
  t.kind = .number → '.' ∉ t.text → t.text.length ≤ digitLimit

lemma point_not_mem_of_isDigits {ds : List Char} (h : IsDigits ds) : '.' ∉ ds :=
  fun hmem => absurd (h.2 _ hmem) (by decide)

end Token

namespace Expr

open Token (IsDigits Spells Lexical)

/-! ## Operators -/

/-- The operators of a level are those that the grammar names. -/
theorem Level.build?_eq_some_iff {l : Level} {t : Token} {f : Expr → Expr → Expr} :
    l.build? t = some f ↔ Joins l t.kind t.text f := by
  obtain ⟨kind, text, position⟩ := t
  constructor
  · intro h
    cases l with
    | or =>
        simp only [Level.build?] at h
        split_ifs at h with hop
        obtain rfl := Option.some.inj h
        rcases hop with ⟨rfl, rfl⟩ | ⟨rfl, rfl⟩
        · exact .bars
        · exact .or
    | and =>
        simp only [Level.build?] at h
        split_ifs at h with hop
        obtain rfl := Option.some.inj h
        rcases hop with ⟨rfl, rfl⟩ | ⟨rfl, rfl⟩
        · exact .ampersands
        · exact .and
    | equality =>
        simp only [Level.build?, ne_eq, ite_not] at h
        split_ifs at h with hkind heq hne <;> obtain rfl := Option.some.inj h <;> subst hkind
        · rcases heq with rfl | rfl
          · exact .doubleEquals
          · exact .equals
        · rcases hne with rfl | rfl
          · exact .notEquals
          · exact .angles
    | ordering =>
        simp only [Level.build?, ne_eq, ite_not] at h
        split_ifs at h with hkind hlt hle hgt hge <;> obtain rfl := Option.some.inj h <;>
          subst hkind
        · exact hlt ▸ .less
        · exact hle ▸ .lessEquals
        · exact hgt ▸ .greater
        · exact hge ▸ .greaterEquals
  · intro h
    cases h <;> rfl

/-- The unary operators are those that the grammar names. -/
theorem prefixOp?_eq_some_iff {t : Token} {f : Expr → Expr} :
    prefixOp? t = some f ↔ Prefixes t.kind t.text f := by
  obtain ⟨kind, text, position⟩ := t
  constructor
  · intro h
    simp only [prefixOp?] at h
    split_ifs at h with hnot hminus <;> obtain rfl := Option.some.inj h
    · rcases hnot with ⟨rfl, rfl⟩ | ⟨rfl, rfl⟩
      · exact .exclamation
      · exact .not
    · obtain ⟨rfl, rfl⟩ := hminus
      exact .minus
  · intro h
    cases h <;> rfl

/-- No operator joins the operands of two levels. -/
lemma Joins.level_eq {l l' : Level} {kind : Token.Kind} {text : List Char}
    {f f' : Expr → Expr → Expr} (h : Joins l kind text f) (h' : Joins l' kind text f') : l = l' := by
  cases h <;> cases h' <;> rfl

/-- Operators are operator tokens or keywords. -/
lemma Joins.kind {l : Level} {kind : Token.Kind} {text : List Char} {f : Expr → Expr → Expr}
    (h : Joins l kind text f) : kind = .op ∨ kind = .keyword := by
  cases h <;> simp

/-! ## Literals -/

lemma unescape_of_spells {body s : List Char} (h : Spells body s) : unescape body = s := by
  induction h with
  | nil => rfl
  | plain _ hback _ ih => rw [unescape.eq_3 _ _ fun _ _ h => absurd h hback, ih]
  | escaped _ _ ih => rw [unescape, ih]

/-- A string token is read as the text that it spells. -/
theorem stringLiteral_of_denotes {text : List Char} {v : Value} (h : Denotes .string text v) :
    stringLiteral text = v := by
  cases h with
  | string hspells => simp [stringLiteral, unescape_of_spells hspells]

/-- A number token that is a literal is read as its value, unless it is an integer with too many
digits. -/
theorem numberLiteral_of_denotes {text : List Char} {v : Value} (h : Denotes .number text v) :
    numberLiteral text =
      if '.' ∉ text ∧ digitLimit < text.length then .error (.oversizedInteger text.length)
      else .ok v := by
  cases h with
  | integer hds =>
      -- digits are no point, so the text is taken for an integer
      have hpoint := Token.point_not_mem_of_isDigits hds
      simp [numberLiteral, hpoint]
  | @decimal whole fraction hwhole hfraction =>
      simp [numberLiteral, Scientific.ofChars?_point hwhole.1 hwhole.2 hfraction.2]

theorem constant?_eq_some_iff {text : List Char} {v : Value} :
    constant? text = some v ↔ Denotes .keyword text v := by
  constructor
  · intro h
    unfold constant? at h
    split_ifs at h with htrue hfalse hnull <;> obtain rfl := Option.some.inj h
    · exact htrue ▸ .true
    · exact hfalse ▸ .false
    · exact hnull ▸ .null
  · intro h
    cases h <;> rfl

/-- Every number and every string is a literal. -/
lemma exists_denotes {kind : Token.Kind} {text : List Char} (h : Lexical kind text)
    (hkind : kind = .number ∨ kind = .string) : ∃ v, Denotes kind text v := by
  cases h with
  | string hspells => exact ⟨_, .string hspells⟩
  | integer hds => exact ⟨_, .integer hds⟩
  | decimal hwhole hfraction => exact ⟨_, .decimal hwhole hfraction⟩
  | _ => simp at hkind

end Expr

end FeatureToggles
