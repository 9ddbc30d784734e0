/-!
# Splitting

The parts of a text between the occurrences of a separator.

Main statements: there is always a part (`split_ne_nil`), a text without the separator is its own only
part (`split_of_not_mem`), in front of a separator it is split off (`split_append`), and texts that were
joined are the parts again (`split_intercalate`).  Of a text whose characters are all of some kind
everything is taken as long as they are of that kind, and nothing is left (`takeWhile_eq_self`,
`dropWhile_eq_nil`).
-/

namespace FeatureToggles.Text

/-- The parts of a text between the occurrences of a separator. -/
def split (separator : Char) : List Char → List (List Char)
  | [] => [[]]
  | c :: cs =>
    if c = separator then [] :: split separator cs
    else match split separator cs with
      | [] => [[c]]
      | part :: parts => (c :: part) :: parts

theorem takeWhile_eq_self {p : Char → Bool} {cs : List Char} (h : ∀ c ∈ cs, p c = true) :
    cs.takeWhile p = cs := by
  induction cs with
  | nil => rfl
  | cons c cs ih =>
    rw [List.takeWhile_cons, if_pos (h c (by simp)), ih fun d hd => h d (by simp [hd])]

theorem dropWhile_eq_nil {p : Char → Bool} {cs : List Char} (h : ∀ c ∈ cs, p c = true) :
    cs.dropWhile p = [] := by
  induction cs with
  | nil => rfl
  | cons c cs ih =>
    rw [List.dropWhile_cons, if_pos (h c (by simp)), ih fun d hd => h d (by simp [hd])]

theorem split_ne_nil (separator : Char) (cs : List Char) : split separator cs ≠ [] := by
  cases cs with
  | nil => simp [split]
  | cons c cs =>
    unfold split
    split
    · simp
    · split <;> simp

theorem split_of_not_mem {separator : Char} {cs : List Char} (h : separator ∉ cs) :
    split separator cs = [cs] := by
  induction cs with
  | nil => rfl
  | cons c cs ih =>
    simp only [List.mem_cons, not_or] at h
    simp [split, Ne.symm h.1, ih h.2]

theorem split_append {separator : Char} {part : List Char} (h : separator ∉ part)
    (cs : List Char) : split separator (part ++ separator :: cs) = part :: split separator cs := by
  induction part with
  | nil => simp [split]
  | cons c part ih =>
    simp only [List.mem_cons, not_or] at h
    simp [split, Ne.symm h.1, ih h.2]

/-- The parts of a text are those that were joined, if the separator is in none of them. -/
theorem split_intercalate {separator : Char} {parts : List (List Char)} (hne : parts ≠ [])
    (hparts : ∀ part ∈ parts, separator ∉ part) :
    split separator ([separator].intercalate parts) = parts := by
  induction parts with
  | nil => exact absurd rfl hne
  | cons part parts ih =>
    have hpart : separator ∉ part := hparts part (by simp)
    cases parts with
    | nil => simp [split_of_not_mem hpart]
    | cons next parts =>
      have htail := ih (by simp) fun p hp => hparts p (by simp [hp])
      rw [List.intercalate_cons_cons, List.append_assoc, List.singleton_append,
        split_append hpart, htail]

end FeatureToggles.Text
