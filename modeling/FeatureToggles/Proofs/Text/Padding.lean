import FeatureToggles.Text.Blank
import FeatureToggles.Text.Split
import Mathlib.Tactic.Common

/-!
# White space around a text

Where a text is written with white space around it, trimming gives the text back, if it has none at its own
ends.

Main statement: `trim_padded`.
-/

namespace FeatureToggles.Text

/-- Whether a text is white space throughout. -/
def IsPadding (cs : List Char) : Prop := ∀ c ∈ cs, isBlank c = true

/-- Whether white space stands at neither end of a text. -/
def IsTrimmed (cs : List Char) : Prop :=
  (∀ c ∈ cs.head?, isBlank c = false) ∧ ∀ c ∈ cs.getLast?, isBlank c = false

instance : DecidablePred IsPadding := fun cs =>
  decidable_of_iff (cs.all isBlank = true) List.all_eq_true

instance : DecidablePred IsTrimmed := fun cs =>
  decidable_of_iff
    ((cs.head?.all fun c => !isBlank c) = true ∧ (cs.getLast?.all fun c => !isBlank c) = true)
    (by simp [IsTrimmed, Option.all_eq_true])

lemma IsPadding.not_mem {cs : List Char} {c : Char} (h : IsPadding cs) (hc : isBlank c = false) :
    c ∉ cs := by
  intro hmem
  simp [h c hmem] at hc

lemma IsPadding.append {cs ds : List Char} (hcs : IsPadding cs) (hds : IsPadding ds) :
    IsPadding (cs ++ ds) := fun c hc => (List.mem_append.mp hc).elim (hcs c) (hds c)

lemma trim_padding {cs : List Char} (h : IsPadding cs) : trim cs = [] := by
  rw [trim, dropWhile_eq_nil h]
  rfl

lemma dropWhile_isBlank_append {padding cs : List Char} (hpadding : IsPadding padding)
    (hcs : ∀ c ∈ cs.head?, isBlank c = false) : (padding ++ cs).dropWhile isBlank = cs := by
  rw [List.dropWhile_append_of_pos hpadding]
  cases cs with
  | nil => rfl
  | cons c cs => rw [List.dropWhile_cons_of_neg (by simp [hcs c rfl])]

/-- White space around a text that has none at its ends is what trimming drops. -/
lemma trim_padded {before cs after : List Char} (hbefore : IsPadding before) (hcs : IsTrimmed cs)
    (hafter : IsPadding after) : trim (before ++ cs ++ after) = cs := by
  have hreversed : IsPadding after.reverse := fun c hc => hafter c (List.mem_reverse.mp hc)
  cases cs with
  | nil =>
      rw [List.append_nil, trim_padding (hbefore.append hafter)]
  | cons c cs =>
      rw [trim, List.append_assoc, dropWhile_isBlank_append hbefore (by simpa using hcs.1),
        List.reverse_append, dropWhile_isBlank_append hreversed, List.reverse_reverse]
      rw [List.head?_reverse]
      exact hcs.2

end FeatureToggles.Text
