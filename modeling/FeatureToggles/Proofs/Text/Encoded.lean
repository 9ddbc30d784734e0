import FeatureToggles.Text.Decoding
import Mathlib.Tactic.Common

/-!
# Encoded texts

A text that is written in a form of Unicode is read back, whatever follows a character and wherever in the
bytes it stands.  This is told of single characters (`Codec.Reads`) and holds of whole texts by an induction on
them.

Main statements: `decode_encode` and `decode_mark_encode`, for bytes behind the mark of their encoding.
-/

namespace FeatureToggles.Text

/-! ## Numbers as bytes -/

namespace ByteOrder

lemma bytes_little_succ (count n : ℕ) :
    bytes .little (count + 1) n = UInt8.ofNat n :: bytes .little count (n / 256) := by
  have hfirst : n / Nat.pow 256 0 = n := Nat.div_one n
  have hnext : ∀ i, n / Nat.pow 256 (i + 1) = n / 256 / Nat.pow 256 i := by
    intro i
    rw [Nat.div_div_eq_div_mul, Nat.mul_comm]
    rfl
  simp only [bytes, List.range_succ_eq_map, List.map_cons, List.map_map, hfirst]
  exact congrArg _ (List.map_congr_left fun i _ => congrArg UInt8.ofNat (hnext i))

lemma number_little_cons (b : UInt8) (bs : List UInt8) :
    number .little (b :: bs) = number .little bs * 256 + b.toNat := by
  simp [number]

lemma number_bytes_little {count n : ℕ} (h : n < Nat.pow 256 count) :
    number .little (bytes .little count n) = n := by
  induction count generalizing n with
  | zero =>
      have hzero : n = 0 := Nat.lt_one_iff.mp h
      subst hzero
      rfl
  | succ count ih =>
      have hrest : n / 256 < Nat.pow 256 count := Nat.div_lt_of_lt_mul (by rwa [Nat.mul_comm])
      rw [bytes_little_succ, number_little_cons, ih hrest, UInt8.toNat_ofNat']
      omega

/-- A number of one byte is written with zeros behind it. -/
lemma bytes_little_of_lt {n : ℕ} (h : n < 256) (count : ℕ) :
    bytes .little (count + 1) n = UInt8.ofNat n :: List.replicate count 0 := by
  have hzeros : bytes .little count 0 = List.replicate count 0 := by
    simp [bytes, List.map_const']
  rw [bytes_little_succ, Nat.div_eq_of_lt h, hzeros]

/-- In the other order the zeros come first. -/
lemma bytes_big (count n : ℕ) : bytes .big count n = (bytes .little count n).reverse := rfl

/-- The bytes of a number write it, if there are enough of them. -/
lemma number_bytes (order : ByteOrder) {count n : ℕ} (h : n < Nat.pow 256 count) :
    order.number (order.bytes count n) = n := by
  cases order with
  | little => exact number_bytes_little h
  | big =>
      have hbig : number .big (bytes .big count n) =
          number .little (bytes .big count n).reverse := by
        simp [number]
      rw [hbig, bytes_big, List.reverse_reverse, number_bytes_little h]

lemma exists_bytes_two (order : ByteOrder) (n : ℕ) : ∃ a b, order.bytes 2 n = [a, b] := by
  cases order <;> exact ⟨_, _, rfl⟩

lemma exists_bytes_four (order : ByteOrder) (n : ℕ) : ∃ a b c d, order.bytes 4 n = [a, b, c, d] := by
  cases order <;> exact ⟨_, _, _, _, rfl⟩

end ByteOrder

/-! ## Characters -/

/-- Whether a reader of pieces reads each character of an encoding, whatever follows it. -/
def Codec.Reads (codec : Codec) (encoding : Encoding) : Prop :=
  ∀ c rest, ∃ a tail, encoding.encodeChar c = a :: tail ∧
    codec.piece a (tail ++ rest) = .ok (c, tail.length)

/-- A character is no half of a pair. -/
lemma lt_or_lt_toNat (c : Char) : c.toNat < 0xD800 ∨ 0xDFFF < c.toNat ∧ c.toNat < 0x110000 := c.valid

lemma utf32Codec_reads (policy : HalfPolicy) (order : ByteOrder) :
    (utf32Codec policy order).Reads (.utf32 order) := by
  intro c rest
  have hvalid := lt_or_lt_toNat c
  obtain ⟨a, b, d, e, hbytes⟩ := order.exists_bytes_four c.toNat
  refine ⟨a, [b, d, e], hbytes, ?_⟩
  have hnumber : order.number [a, b, d, e] = c.toNat := by
    rw [← hbytes]
    exact order.number_bytes (show c.toNat < 4294967296 by omega)
  have hhalf : (isHighHalf c.toNat || isLowHalf c.toNat) = false := by
    simp only [isHighHalf, isLowHalf, Bool.or_eq_false_iff, Bool.and_eq_false_iff, decide_eq_false_iff_not]
    omega
  have hbound : ¬ 0x110000 ≤ c.toNat := by omega
  simp [utf32Codec, utf32Piece, hnumber, hhalf, hbound]

lemma utf16Codec_reads (policy : HalfPolicy) (order : ByteOrder) :
    (utf16Codec policy order).Reads (.utf16 order) := by
  intro c rest
  have hvalid := lt_or_lt_toNat c
  by_cases hunit : c.toNat < 0x10000
  · obtain ⟨a, b, hbytes⟩ := order.exists_bytes_two c.toNat
    refine ⟨a, [b], ?_, ?_⟩
    · simp only [Encoding.encodeChar, Encoding.pointBytes, Encoding.utf16Bytes, if_pos hunit, hbytes]
    · have hnumber : order.number [a, b] = c.toNat := by
        rw [← hbytes]
        exact order.number_bytes hunit
      have hlow : isLowHalf c.toNat = false := by
        simp only [isLowHalf, Bool.and_eq_false_iff, decide_eq_false_iff_not]
        omega
      have hhigh : isHighHalf c.toNat = false := by
        simp only [isHighHalf, Bool.and_eq_false_iff, decide_eq_false_iff_not]
        omega
      simp [utf16Codec, utf16Piece, hnumber, hlow, hhigh]
  · -- a pair of halves, each of which is read as a number of two bytes
    generalize hu : 0xD800 + (c.toNat - 0x10000) / 0x400 = u
    generalize hv : 0xDC00 + (c.toNat - 0x10000) % 0x400 = v
    obtain ⟨a, b, hfirst⟩ := order.exists_bytes_two u
    obtain ⟨d, e, hsecond⟩ := order.exists_bytes_two v
    refine ⟨a, [b, d, e], ?_, ?_⟩
    · simp only [Encoding.encodeChar, Encoding.pointBytes, Encoding.utf16Bytes, if_neg hunit, hu, hv,
        hfirst, hsecond, List.cons_append, List.nil_append]
    · have hnumber : order.number [a, b] = u := by
        rw [← hfirst]
        exact order.number_bytes (show u < 65536 by omega)
      have hnumber' : order.number [d, e] = v := by
        rw [← hsecond]
        exact order.number_bytes (show v < 65536 by omega)
      have hlow : isLowHalf u = false := by
        simp only [isLowHalf, Bool.and_eq_false_iff, decide_eq_false_iff_not]
        omega
      have hhigh : isHighHalf u = true := by
        simp only [isHighHalf, Bool.and_eq_true, decide_eq_true_eq]
        omega
      have hlow' : isLowHalf v = true := by
        simp only [isLowHalf, Bool.and_eq_true, decide_eq_true_eq]
        omega
      have hpoint : 0x10000 + (u - 0xD800) * 0x400 + (v - 0xDC00) = c.toNat := by omega
      simp [utf16Codec, utf16Piece, hnumber, hnumber', hlow, hhigh, hlow', hpoint]

/-! ### UTF-8 -/

/-- A byte of the continuation adds its bits. -/
lemma utf8Tail_cons {n taken low high count m : ℕ} (rest : List UInt8) (hm : m < 64)
    (hlow : low ≤ 0x80 + m) (hhigh : 0x80 + m ≤ high) :
    utf8Tail n taken low high (count + 1) (UInt8.ofNat (0x80 + m) :: rest) =
      utf8Tail (n * 64 + m) (taken + 1) 0x80 0xBF count rest := by
  have hbyte : (UInt8.ofNat (0x80 + m)).toNat = 0x80 + m := by
    rw [UInt8.toNat_ofNat']
    omega
  rw [utf8Tail, hbyte, if_pos ⟨hlow, hhigh⟩, Nat.add_sub_cancel_left]

/-- A byte that calls for others is read with them. -/
lemma utf8Piece_of_lead {policy : HalfPolicy} {a count low high : ℕ} {rest : List UInt8}
    (hbyte : a < 256) (hlead : utf8Lead? a = some (count, low, high))
    (hhalf : utf8Half? a rest = none) :
    utf8Piece policy (UInt8.ofNat a) rest = utf8Tail (utf8LeadBits a count) 0 low high count rest := by
  have htoNat : (UInt8.ofNat a).toNat = a := by
    rw [UInt8.toNat_ofNat']
    omega
  have hbeyond : ¬ a < 0x80 := by
    intro h
    simp only [utf8Lead?] at hlead
    split_ifs at hlead <;> omega
  simp [utf8Piece, htoNat, hbeyond, hhalf, hlead]

/-- The bytes of a point with two bytes after the first keep within the bounds for the next one. -/
lemma exists_utf8Lead_two {n : ℕ} (hlow : 0x800 ≤ n) (hhigh : n < 0x10000)
    (hhalf : n < 0xD800 ∨ 0xDFFF < n) :
    ∃ low high, utf8Lead? (0xE0 + n / 0x1000) = some (2, low, high) ∧
      low ≤ 0x80 + n / 64 % 64 ∧ 0x80 + n / 64 % 64 ≤ high := by
  by_cases hfirst : n / 0x1000 = 0
  · exact ⟨0xA0, 0xBF, by simp [utf8Lead?, hfirst], by omega, by omega⟩
  · by_cases hnear : n / 0x1000 = 13
    · exact ⟨0x80, 0x9F, by simp [utf8Lead?, hnear], by omega, by omega⟩
    · refine ⟨0x80, 0xBF, ?_, by omega, by omega⟩
      rw [utf8Lead?, if_neg (by omega), if_neg (by omega), if_neg (by omega), if_pos (by omega)]

/-- The same with three bytes after the first. -/
lemma exists_utf8Lead_three {n : ℕ} (hlow : 0x10000 ≤ n) (hhigh : n < 0x110000) :
    ∃ low high, utf8Lead? (0xF0 + n / 0x40000) = some (3, low, high) ∧
      low ≤ 0x80 + n / 0x1000 % 64 ∧ 0x80 + n / 0x1000 % 64 ≤ high := by
  by_cases hfirst : n / 0x40000 = 0
  · exact ⟨0x90, 0xBF, by simp [utf8Lead?, hfirst], by omega, by omega⟩
  · by_cases hlast : n / 0x40000 = 4
    · exact ⟨0x80, 0x8F, by simp [utf8Lead?, hlast], by omega, by omega⟩
    · refine ⟨0x80, 0xBF, ?_, by omega, by omega⟩
      rw [utf8Lead?, if_neg (by omega), if_neg (by omega), if_neg (by omega), if_neg (by omega),
        if_neg (by omega), if_pos (by omega)]

/-- Only one first byte may begin half of a pair. -/
lemma utf8Half?_of_ne {a : ℕ} (h : a ≠ 0xED) (rest : List UInt8) : utf8Half? a rest = none := by
  unfold utf8Half?
  split <;> simp [h]

/-- Behind that byte a low one begins a character. -/
lemma utf8Half?_of_lt {b : UInt8} (h : b.toNat < 0xA0) (a : ℕ) (rest : List UInt8) :
    utf8Half? a (b :: rest) = none := by
  cases rest with
  | nil => rfl
  | cons c rest =>
      have hlow : decide (0xA0 ≤ b.toNat) = false := by
        rw [decide_eq_false_iff_not]
        omega
      simp [utf8Half?, hlow]

lemma utf8Codec_reads (policy : HalfPolicy) : (utf8Codec policy).Reads .utf8 := by
  intro c rest
  have hvalid := lt_or_lt_toNat c
  have hc : Char.ofNat c.toNat = c := Char.ofNat_toNat c
  show ∃ a tail, Encoding.utf8Bytes c.toNat = a :: tail ∧
    utf8Piece policy a (tail ++ rest) = .ok (c, tail.length)
  generalize c.toNat = n at hvalid hc
  by_cases hone : n < 0x80
  · refine ⟨UInt8.ofNat n, [], if_pos hone, ?_⟩
    have hbyte : (UInt8.ofNat n).toNat = n := by
      rw [UInt8.toNat_ofNat']
      omega
    simp [utf8Piece, hbyte, hone, hc]
  by_cases htwo : n < 0x800
  · refine ⟨UInt8.ofNat (0xC0 + n / 64), [UInt8.ofNat (0x80 + n % 64)], ?_, ?_⟩
    · simp [Encoding.utf8Bytes, hone, htwo]
    · have hlead : utf8Lead? (0xC0 + n / 64) = some (1, 0x80, 0xBF) :=
        if_pos ⟨by omega, by omega⟩
      have hbits : utf8LeadBits (0xC0 + n / 64) 1 * 64 + n % 64 = n := by
        rw [utf8LeadBits, if_pos rfl]
        omega
      rw [utf8Piece_of_lead (by omega) hlead (utf8Half?_of_ne (by omega) _), List.cons_append,
        utf8Tail_cons _ (by omega) (by omega) (by omega), hbits, utf8Tail, hc]
      rfl
  by_cases hthree : n < 0x10000
  · refine ⟨UInt8.ofNat (0xE0 + n / 0x1000),
      [UInt8.ofNat (0x80 + n / 64 % 64), UInt8.ofNat (0x80 + n % 64)], ?_, ?_⟩
    · simp [Encoding.utf8Bytes, hone, htwo, hthree]
    · obtain ⟨low, high, hlead, hlow, hhigh⟩ := exists_utf8Lead_two (by omega) hthree (by omega)
      have hhalf : utf8Half? (0xE0 + n / 0x1000)
          (UInt8.ofNat (0x80 + n / 64 % 64) :: UInt8.ofNat (0x80 + n % 64) :: rest) = none := by
        by_cases hnear : n / 0x1000 = 13
        · refine utf8Half?_of_lt ?_ _ _
          rw [UInt8.toNat_ofNat']
          omega
        · exact utf8Half?_of_ne (by omega) _
      have hbits : (utf8LeadBits (0xE0 + n / 0x1000) 2 * 64 + n / 64 % 64) * 64 + n % 64 = n := by
        rw [utf8LeadBits, if_neg (by decide), if_pos rfl]
        omega
      simp only [List.cons_append, List.nil_append]
      rw [utf8Piece_of_lead (by omega) hlead hhalf, utf8Tail_cons _ (by omega) hlow hhigh,
        utf8Tail_cons _ (by omega) (by omega) (by omega), hbits, utf8Tail, hc]
      rfl
  · refine ⟨UInt8.ofNat (0xF0 + n / 0x40000), [UInt8.ofNat (0x80 + n / 0x1000 % 64),
      UInt8.ofNat (0x80 + n / 64 % 64), UInt8.ofNat (0x80 + n % 64)], ?_, ?_⟩
    · simp [Encoding.utf8Bytes, hone, htwo, hthree]
    · obtain ⟨low, high, hlead, hlow, hhigh⟩ := @exists_utf8Lead_three n (by omega) (by omega)
      have hbits : ((utf8LeadBits (0xF0 + n / 0x40000) 3 * 64 + n / 0x1000 % 64) * 64 +
          n / 64 % 64) * 64 + n % 64 = n := by
        rw [utf8LeadBits, if_neg (by decide), if_neg (by decide)]
        omega
      simp only [List.cons_append, List.nil_append]
      rw [utf8Piece_of_lead (by omega) hlead (utf8Half?_of_ne (by omega) _),
        utf8Tail_cons _ (by omega) hlow hhigh, utf8Tail_cons _ (by omega) (by omega) (by omega),
        utf8Tail_cons _ (by omega) (by omega) (by omega), hbits, utf8Tail, hc]
      rfl

/-! ## Texts -/

/-- What is read character by character is read as a whole. -/
lemma Codec.Reads.decodePieces_encode {codec : Codec} {encoding : Encoding} (h : codec.Reads encoding)
    (position : ℕ) (cs : List Char) :
    decodePieces codec position (encoding.encode cs) = .ok cs := by
  induction cs generalizing position with
  | nil => exact decodePieces_nil codec position
  | cons c cs ih =>
      obtain ⟨a, tail, hbytes, hpiece⟩ := h c (encoding.encode cs)
      rw [Encoding.encode, List.flatMap_cons, ← Encoding.encode, hbytes, List.cons_append,
        decodePieces_ok hpiece, List.drop_left, ih]
      rfl

namespace Encoding

/-- The forms of Unicode, in each of the orders of bytes. -/
def forms : List Encoding := [.utf8, .utf16 .little, .utf16 .big, .utf32 .little, .utf32 .big]

lemma mem_forms {e : Encoding} :
    e ∈ forms ↔ e = .utf8 ∨ (∃ order, e = .utf16 order) ∨ ∃ order, e = .utf32 order := by
  simp only [forms, List.mem_cons, List.not_mem_nil, or_false]
  constructor
  · rintro (rfl | rfl | rfl | rfl | rfl) <;> simp
  · rintro (rfl | ⟨order, rfl⟩ | ⟨order, rfl⟩)
    · simp
    all_goals cases order <;> simp

/-- How the bytes of a form are read if a mark stands before them. -/
def marked : Encoding → Encoding
  | .utf8 => .utf8Marked
  | .utf16 _ => .utf16Marked
  | .utf32 _ => .utf32Marked
  | e => e

@[simp] lemma mark_utf8 : mark .utf8 = [0xEF, 0xBB, 0xBF] := by decide

@[simp] lemma mark_utf16_little : mark (.utf16 .little) = [0xFF, 0xFE] := by decide

@[simp] lemma mark_utf16_big : mark (.utf16 .big) = [0xFE, 0xFF] := by decide

@[simp] lemma mark_utf32_little : mark (.utf32 .little) = [0xFF, 0xFE, 0, 0] := by decide

@[simp] lemma mark_utf32_big : mark (.utf32 .big) = [0, 0, 0xFE, 0xFF] := by decide

end Encoding

/-- A mark tells the order of the bytes behind it, if the mark of the big order does not begin as the other. -/
lemma decodeMarked_append_mark {width : ℕ} {encoding : ByteOrder → Encoding} {codec : ByteOrder → Codec}
    (order : ByteOrder) (bs : List UInt8)
    (h : ¬ (encoding .little).mark <+: (encoding .big).mark ++ bs) :
    decodeMarked width encoding codec ((encoding order).mark ++ bs) =
      decodePieces (codec order) (encoding order).mark.length bs := by
  cases order with
  | little => simp [decodeMarked]
  | big => simp [decodeMarked, h]

variable {e : Encoding} (policy : HalfPolicy) (cs : List Char)

/-- A text in a form of Unicode is read back. -/
theorem decode_encode (he : e ∈ Encoding.forms) : decode e policy (e.encode cs) = .ok cs := by
  rcases Encoding.mem_forms.mp he with rfl | ⟨order, rfl⟩ | ⟨order, rfl⟩
  · exact (utf8Codec_reads policy).decodePieces_encode 0 cs
  · exact (utf16Codec_reads policy order).decodePieces_encode 0 cs
  · exact (utf32Codec_reads policy order).decodePieces_encode 0 cs

/-- So is one behind the mark of the form, which tells the order of the bytes. -/
theorem decode_mark_encode (he : e ∈ Encoding.forms) :
    decode e.marked policy (e.mark ++ e.encode cs) = .ok cs := by
  rcases Encoding.mem_forms.mp he with rfl | ⟨order, rfl⟩ | ⟨order, rfl⟩
  · have hread := (utf8Codec_reads policy).decodePieces_encode 0 cs
    simpa [decode, Encoding.marked, decodeUtf8Marked] using hread
  · exact (decodeMarked_append_mark order _ (by simp)).trans
      ((utf16Codec_reads policy order).decodePieces_encode _ cs)
  · exact (decodeMarked_append_mark order _ (by simp)).trans
      ((utf32Codec_reads policy order).decodePieces_encode _ cs)

end FeatureToggles.Text
