import Mathlib.Data.List.Basic
import Mathlib.Tactic.Common

/-!
# The first and the last of some pairs

Where a key stands in several pairs of a row, the last one counts.  So it is with the attributes that a
context lists, with the pairs of a nested provider, and with headers.  In the entries of a mapping the
first one is found, which is the only one.

Main statements: a key has one last value at most (`IsLast.unique`), a pair at the end counts for its key
alone (`isLast_append_singleton`), and searches from both ends find the first and the last pair
(`find?_eq_some_iff_isFirst`, `find?_reverse_eq_some_iff`).
-/

namespace FeatureToggles

variable {α β : Type} {pairs : List (α × β)} {key : α} {v w : β}

/-- Whether a value stands in the last of some pairs with a key. -/
def IsLast (pairs : List (α × β)) (key : α) (v : β) : Prop :=
  ∃ before after, pairs = before ++ (key, v) :: after ∧ ∀ pair ∈ after, pair.1 ≠ key

/-- Whether a value stands in the first of some pairs with a key. -/
def IsFirst (pairs : List (α × β)) (key : α) (v : β) : Prop :=
  ∃ before after, pairs = before ++ (key, v) :: after ∧ ∀ pair ∈ before, pair.1 ≠ key

/-- A search with a test that the pairs with a key pass finds the first of them. -/
lemma find?_eq_some_iff_isFirst {p : α × β → Bool} (hp : ∀ pair, p pair = true ↔ pair.1 = key) :
    (pairs.find? p).map (·.2) = some v ↔ IsFirst pairs key v := by
  rw [Option.map_eq_some_iff]
  constructor
  · rintro ⟨⟨name, value⟩, hfind, rfl⟩
    obtain ⟨hname, before, after, rfl, hbefore⟩ := List.find?_eq_some_iff_append.mp hfind
    obtain rfl : name = key := (hp _).mp hname
    refine ⟨before, after, rfl, ?_⟩
    intro pair hpair heq
    simpa [(hp pair).mpr heq] using hbefore pair hpair
  · rintro ⟨before, after, rfl, hbefore⟩
    refine ⟨(key, v), List.find?_eq_some_iff_append.mpr ⟨(hp _).mpr rfl, before, after, rfl, ?_⟩, rfl⟩
    intro pair hpair
    simpa using fun h => hbefore pair hpair ((hp pair).mp h)

lemma not_isLast_nil : ¬ IsLast [] key v := by
  rintro ⟨before, after, h, -⟩
  simp at h

/-- A pair at the end counts for its key, and does not matter to the others. -/
lemma isLast_append_singleton {pair : α × β} :
    IsLast (pairs ++ [pair]) key v ↔ pair = (key, v) ∨ pair.1 ≠ key ∧ IsLast pairs key v := by
  constructor
  · rintro ⟨before, after, h, hafter⟩
    rcases List.eq_nil_or_concat' after with rfl | ⟨after, last, rfl⟩
    · have hlast : [pair] = [(key, v)] := (List.append_inj' h rfl).2
      exact .inl (by simpa using hlast)
    · rw [← List.cons_append, ← List.append_assoc] at h
      obtain ⟨rfl, hlast⟩ := List.append_inj' h rfl
      obtain rfl : pair = last := by simpa using hlast
      exact .inr ⟨hafter pair (by simp), before, after, rfl, fun p hp => hafter p (by simp [hp])⟩
  · rintro (rfl | ⟨hne, before, after, rfl, hafter⟩)
    · exact ⟨pairs, [], rfl, by simp⟩
    · refine ⟨before, after ++ [pair], by simp, ?_⟩
      intro p hp
      rcases List.mem_append.mp hp with hp | hp
      · exact hafter p hp
      · rwa [List.mem_singleton.mp hp]

/-- From the end of a row its last pair is the first. -/
lemma isFirst_reverse : IsFirst pairs.reverse key v ↔ IsLast pairs key v := by
  constructor
  · rintro ⟨before, after, h, hbefore⟩
    refine ⟨after.reverse, before.reverse, ?_, by simpa using hbefore⟩
    simpa using congrArg List.reverse h
  · rintro ⟨before, after, rfl, hafter⟩
    exact ⟨after.reverse, before.reverse, by simp, by simpa using hafter⟩

/-- A search from the end finds the last pair with a key. -/
lemma find?_reverse_eq_some_iff [BEq α] [LawfulBEq α] :
    (pairs.reverse.find? fun pair => pair.1 == key).map (·.2) = some v ↔ IsLast pairs key v := by
  rw [find?_eq_some_iff_isFirst fun _ => beq_iff_eq, isFirst_reverse]

/-- A key has one last value at most. -/
lemma IsLast.unique (h : IsLast pairs key v) (h' : IsLast pairs key w) : v = w := by
  classical
  rw [← find?_reverse_eq_some_iff] at h h'
  exact Option.some.inj (h.symm.trans h')

end FeatureToggles
