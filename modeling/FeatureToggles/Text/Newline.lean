/-!
# Line ends

Texts in files may end their lines in three ways; read as text, each of them is a line feed.

Main statement: a text without carriage returns stays what it is (`unifyNewlines_of_not_mem`).
-/

namespace FeatureToggles.Text

/-- Replaces each carriage return, with the line feed after it if there is one, by a line feed. -/
def unifyNewlines : List Char → List Char
  | [] => []
  | '\r' :: '\n' :: cs => '\n' :: unifyNewlines cs
  | c :: cs => (if c = '\r' then '\n' else c) :: unifyNewlines cs

theorem unifyNewlines_of_not_mem {cs : List Char} (h : '\r' ∉ cs) : unifyNewlines cs = cs := by
  fun_induction unifyNewlines cs with
  | case1 => rfl
  | case2 => simp at h
  | case3 c cs _ ih =>
    simp only [List.mem_cons, not_or] at h
    rw [if_neg (Ne.symm h.1), ih h.2]

end FeatureToggles.Text
