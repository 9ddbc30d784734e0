/-!
# Halves of pairs

Besides characters a text may hold halves of pairs of UTF-16 units: code points that are no characters,
as they come from escapes by number and from bytes in the wider forms.  A half is kept as its mark, a
character of a block that Unicode leaves unassigned and that no other text is taken to use.

Main statements: the mark of a half is told from characters (`isHalf_ofHalf`), it stands for the code
point of the half (`point_ofHalf`), and no two characters stand for one code point (`point_inj`).
-/

namespace FeatureToggles.Text

/-- Whether a unit is half of a pair. -/
def isHalfUnit (u : Nat) : Bool := 0xD800 ≤ u && u < 0xE000

/-- The distance from the halves to their marks. -/
def markShift : Nat := 0xD2000

/-- The mark of a half. -/
def ofHalf (u : Nat) : Char := Char.ofNat (u + markShift)

/-- Whether a character is the mark of a half. -/
def isHalf (c : Char) : Bool := 0xDF800 ≤ c.toNat && c.toNat < 0xE0000

/-- The code point that a character stands for: its own, or that of the half whose mark it is. -/
def point (c : Char) : Nat := if isHalf c then c.toNat - markShift else c.toNat

/-- The code points of a text. -/
def points (s : String) : List Nat := s.toList.map point

variable {u : Nat} {c d : Char}

theorem toNat_ofHalf (h : isHalfUnit u = true) : (ofHalf u).toNat = u + markShift := by
  simp only [isHalfUnit, Bool.and_eq_true, decide_eq_true_eq] at h
  have hvalid : (u + markShift).isValidChar := by
    simp only [Nat.isValidChar, markShift]
    omega
  rw [ofHalf, Char.ofNat, dif_pos hvalid]
  rfl

theorem isHalf_ofHalf (h : isHalfUnit u = true) : isHalf (ofHalf u) = true := by
  have hmark := toNat_ofHalf h
  simp only [isHalfUnit, markShift, Bool.and_eq_true, decide_eq_true_eq] at h hmark
  simp only [isHalf, hmark, Bool.and_eq_true, decide_eq_true_eq]
  omega

theorem point_ofHalf (h : isHalfUnit u = true) : point (ofHalf u) = u := by
  simp [point, isHalf_ofHalf h, toNat_ofHalf h]

/-- No character has the code point of a half. -/
theorem isHalfUnit_toNat (c : Char) : isHalfUnit c.toNat = false := by
  have hvalid : c.toNat < 0xD800 ∨ 0xDFFF < c.toNat ∧ c.toNat < 0x110000 := c.valid
  simp only [isHalfUnit, Bool.and_eq_false_iff, decide_eq_false_iff_not]
  omega

/-- Characters are told apart by what they stand for. -/
theorem point_inj : point c = point d ↔ c = d := by
  refine ⟨fun h => Char.toNat_inj.mp ?_, congrArg point⟩
  have hc := isHalfUnit_toNat c
  have hd := isHalfUnit_toNat d
  simp only [isHalfUnit, Bool.and_eq_false_iff, decide_eq_false_iff_not] at hc hd
  simp only [point, isHalf, markShift, Bool.and_eq_true, decide_eq_true_eq] at h
  split at h <;> split at h <;> omega

end FeatureToggles.Text
