import FeatureToggles.Proofs.Expr.Composition
import FeatureToggles.Proofs.Text.Padding

/-!
# Paths as texts

A dotted name is written as a path: its parts one after the other, with dots between them and with any white
space around the dots.

Main statements: `parse_path` says that a path is read as the name with its parts, and `dotted_inj` that no two
paths with nothing but the dots are written alike.
-/

namespace FeatureToggles

namespace Token

/-! ## The words of a path -/

/-- White space is no word. -/
lemma Cuts.padding {padding cs : List Char} {ws : List (Kind × List Char)} (h : Cuts cs ws)
    (hpadding : Text.IsPadding padding) : Cuts (padding ++ cs) ws := by
  induction padding with
  | nil => exact h
  | cons c padding ih =>
      intro q
      rw [List.cons_append, scan_of_isBlank (hpadding c (by simp))]
      exact ih (fun d hd => hpadding d (by simp [hd])) (q + 1)

/-- A dot is a word of its own, whatever follows it. -/
lemma Cuts.dot {cs : List Char} {ws : List (Kind × List Char)} (h : Cuts cs ws) :
    Cuts ('.' :: cs) ((.dot, ['.']) :: ws) := by
  intro q
  obtain ⟨ts, hts, rfl⟩ := h (q + 1)
  exact ⟨_, (scan_token_eq_ok_iff (lexeme?_eq_some_iff.mpr .dot)).mpr ⟨ts, hts, rfl⟩, rfl⟩

/-- An identifier is a word up to where it cannot go on. -/
lemma Cuts.part {name : String} {cs : List Char} {ws : List (Kind × List Char)} (h : Cuts cs ws)
    (hname : Expr.IsPart name) (hcs : ∀ c ∈ cs.head?, isIdentRest c = false) :
    Cuts (name.toList ++ cs) ((.ident, name.toList) :: ws) := by
  intro q
  obtain ⟨⟨c, rest, hchars, hc, hrest⟩, hkeyword⟩ := hname
  have hlength : ((rest ++ cs).takeWhile isIdentRest).length = rest.length := by
    rw [(takeWhile_append_of_head hcs rest).1, Text.takeWhile_eq_self hrest]
  have hbegins : Begins c (rest ++ cs) (some .ident) rest.length := by
    rw [← hlength]
    exact .ident hc
  obtain ⟨ts, hts, rfl⟩ := h (q + 1 + rest.length)
  rw [hchars] at hkeyword ⊢
  refine ⟨⟨.ident, c :: rest, q⟩ :: ts, ?_, rfl⟩
  rw [List.cons_append, scan_token_eq_ok_iff (lexeme?_eq_some_iff.mpr hbegins)]
  refine ⟨ts, by rwa [List.drop_left], ?_⟩
  simp only [ofLexeme, List.take_left, hkeyword, and_false, ↓reduceIte]

end Token

namespace Expr

open Token (Kind Cuts)

/-! ## Paths as texts -/

/-- How members are written behind a name: each behind a dot, with any white space around the dot. -/
inductive Trails : List String → List Char → Prop where
  | nil : Trails [] []
  | cons {before after cs : List Char} {member : String} {members : List String} :
      Text.IsPadding before → Text.IsPadding after → Trails members cs →
      Trails (member :: members) (before ++ '.' :: (after ++ (member.toList ++ cs)))

/-- Whether a text is a path whose parts are joined with dots, with any white space around the dots. -/
def IsPath (root : String) (members : List String) (text : String) : Prop :=
  ∃ cs, text.toList = root.toList ++ cs ∧ Trails members cs

lemma trails_intercalate (members : List String) :
    ∃ cs, Trails members cs ∧ ∀ root : String,
      ['.'].intercalate (root.toList :: members.map String.toList) = root.toList ++ cs := by
  induction members with
  | nil => exact ⟨[], .nil, fun root => by simp⟩
  | cons member members ih =>
      obtain ⟨cs, hcs, hjoined⟩ := ih
      refine ⟨[] ++ '.' :: ([] ++ (member.toList ++ cs)), .cons (by simp [Text.IsPadding])
        (by simp [Text.IsPadding]) hcs, ?_⟩
      intro root
      rw [List.map_cons, List.intercalate_cons_cons, hjoined]
      simp

/-- A path with nothing but dots between its parts is written as names are. -/
lemma isPath_dotted (root : String) (members : List String) :
    IsPath root members (dotted root members) := by
  obtain ⟨cs, hcs, hjoined⟩ := trails_intercalate members
  refine ⟨cs, ?_, hcs⟩
  rw [dotted, String.toList_intercalate, List.map_cons]
  exact hjoined root

/-- No identifier goes on into what is written behind it. -/
lemma Trails.head {members : List String} {cs : List Char} (h : Trails members cs) :
    ∀ c ∈ cs.head?, Token.isIdentRest c = false := by
  cases h with
  | nil => simp
  | @cons before after cs member members hbefore _ _ =>
      intro c hc
      cases before with
      | nil =>
          obtain rfl : '.' = c := by simpa using hc
          decide
      | cons d before =>
          obtain rfl : d = c := by simpa using hc
          exact Token.isIdentRest_eq_false_of_isSeparator (.inl (hbefore d (by simp)))

lemma Trails.cuts {members : List String} {cs : List Char} (h : Trails members cs)
    (hparts : ∀ member ∈ members, IsPart member) :
    Cuts cs (members.flatMap fun member => [(Kind.dot, ['.']), (Kind.ident, member.toList)]) := by
  induction h with
  | nil => exact Token.cuts_nil
  | cons hbefore hafter hrest ih =>
      obtain ⟨hmember, hmembers⟩ := List.forall_mem_cons.mp hparts
      exact ((((ih hmembers).part hmember hrest.head).padding hafter).dot).padding hbefore

/-- A path is read as the name with its parts. -/
theorem parse_path {root text : String} {members : List String}
    (hparts : ∀ part ∈ root :: members, IsPart part) (htext : IsPath root members text) :
    parse text = .ok (.name root members) := by
  obtain ⟨cs, hchars, htrails⟩ := htext
  obtain ⟨hroot, hmembers⟩ := List.forall_mem_cons.mp hparts
  have hplain : Plain (.name root members) := .name hroot hmembers
  have hwords : ((words (.name root members)).map unplaced).map Token.word =
      words (.name root members) := by
    rw [List.map_map]
    exact List.map_id _
  refine parse_eq_ok_iff_cuts.mpr ⟨(words (.name root members)).map unplaced, ?_,
    hplain.derives_words.of_rank_le (Nat.zero_le _), ?_⟩
  · rw [hwords, hchars]
    exact (htrails.cuts hmembers).part hroot htrails.head
  · intro t ht
    obtain ⟨w, hw, rfl⟩ := List.mem_map.mp ht
    exact isShort_of_isWord (hplain.isWord w hw)

/-- No two paths are written alike. -/
lemma dotted_inj {root root' : String} {members members' : List String}
    (hparts : ∀ part ∈ root :: members, IsPart part)
    (hparts' : ∀ part ∈ root' :: members', IsPart part)
    (h : dotted root members = dotted root' members') : root = root' ∧ members = members' := by
  have hpoint : ∀ {part : String}, IsPart part → '.' ∉ part.toList := by
    rintro part ⟨⟨c, rest, hchars, hc, hrest⟩, -⟩ hmem
    rw [hchars, List.mem_cons] at hmem
    rcases hmem with rfl | hmem
    · exact absurd hc (by decide)
    · exact absurd (hrest _ hmem) (by decide)
  have hsplit : ∀ {root : String} {members : List String},
      (∀ part ∈ root :: members, IsPart part) →
      Text.split '.' (dotted root members).toList = (root :: members).map String.toList := by
    intro root members hparts
    rw [dotted, String.toList_intercalate]
    refine Text.split_intercalate (by simp) ?_
    intro part hpart
    obtain ⟨name, hname, rfl⟩ := List.mem_map.mp hpart
    exact hpoint (hparts name hname)
  have hlists : (root :: members).map String.toList = (root' :: members').map String.toList := by
    rw [← hsplit hparts, ← hsplit hparts', h]
  exact List.cons.inj (List.map_injective_iff.mpr (fun _ _ => String.toList_inj.mp) hlists)

end Expr

end FeatureToggles
