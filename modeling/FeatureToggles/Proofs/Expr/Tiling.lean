import FeatureToggles.Proofs.Expr.Concatenation
import Mathlib.Data.List.Basic

/-!
# How tokens tile a text

The tokens of a text are slices of it, one after the other, with nothing but white space between them,
and each slice is the longest lexeme of any class that stands at its place.  So the scan of a text can
be told without the order in which the classes are tried: it passes white space, takes the longest
lexeme wherever one stands, and fails where there is neither.

Main statements: `longest_iff` says which lexeme is the longest, `Passes.scan_eq` that the scan goes
this way, and `tokenize_tiles` what comes of it.
-/

namespace FeatureToggles

namespace Token

/-! ## The longest lexeme -/

/-- Whether a slice is the longest lexeme, of any class, with which a text begins. -/
structure Longest (cs : List Char) (kind : Kind) (slice : List Char) : Prop where
  lexeme : Lexeme kind slice
  begins : slice <+: cs
  longest : ∀ kind' slice', Lexeme kind' slice' → slice' <+: cs → slice'.length ≤ slice.length

/-- Only one lexeme begins at a place. -/
lemma Begins.unique {c : Char} {cs : List Char} {kind? kind?' : Option Kind} {n n' : Nat}
    (h : Begins c cs kind? n) (h' : Begins c cs kind?' n') : kind? = kind?' ∧ n = n' := by
  have heq := (lexeme?_eq_some_iff.mpr h).symm.trans (lexeme?_eq_some_iff.mpr h')
  exact Prod.mk.inj (Option.some.inj heq)

/-- A lexeme with which a text begins is no longer than the one that is read there. -/
lemma Lexeme.exists_begins_of_begins {kind : Kind} {slice : List Char} {c : Char} {cs : List Char}
    (h : Lexeme kind slice) (hbegins : slice <+: c :: cs) :
    ∃ n, slice.length ≤ n + 1 ∧ Begins c cs (some kind) n := by
  obtain ⟨d, tail, rfl⟩ := List.exists_cons_of_ne_nil h.ne_nil
  obtain ⟨rfl, rest, rfl⟩ := List.cons_prefix_cons.mp hbegins
  obtain ⟨n, hle, hn⟩ := h.exists_begins rest
  exact ⟨n, Nat.succ_le_succ hle, hn⟩

/-- The longest lexeme is the one that is read. -/
theorem longest_iff {c : Char} {cs : List Char} {kind : Kind} {slice : List Char} :
    Longest (c :: cs) kind slice ↔ ∃ n, slice = c :: cs.take n ∧ Begins c cs (some kind) n := by
  have htaken : ∀ n, c :: cs.take n <+: c :: cs :=
    fun n => List.cons_prefix_cons.mpr ⟨rfl, List.take_prefix n cs⟩
  have hlength : ∀ {kind n}, Begins c cs (some kind) n → (c :: cs.take n).length = n + 1 := by
    intro kind n h
    rw [List.length_cons, List.length_take_of_le h.le]
  constructor
  · intro h
    obtain ⟨n, hle, hn⟩ := h.lexeme.exists_begins_of_begins h.begins
    have hge := h.longest _ _ (lexeme_of_begins hn) (htaken n)
    refine ⟨n, ?_, hn⟩
    rw [← hlength hn] at hle
    exact (List.prefix_of_prefix_length_le h.begins (htaken n) hle).eq_of_length
      (Nat.le_antisymm hle hge)
  · rintro ⟨n, rfl, hn⟩
    refine ⟨lexeme_of_begins hn, htaken n, fun kind' slice' hlexeme hbegins => ?_⟩
    obtain ⟨n', hle, hn'⟩ := hlexeme.exists_begins_of_begins hbegins
    rw [hlength hn, (hn.unique hn').2]
    exact hle

/-- Whether a text goes on, but neither with white space nor with a lexeme. -/
structure Blocked (cs : List Char) : Prop where
  nonempty : cs ≠ []
  not_isBlank : ∀ c ∈ cs.head?, Text.isBlank c = false
  not_begins : ∀ kind slice, Lexeme kind slice → ¬ slice <+: cs

lemma blocked_of_lexeme? {c : Char} {cs : List Char} (h : lexeme? c cs = none) :
    Blocked (c :: cs) := by
  have hnone : ∀ kind? n, ¬ Begins c cs kind? n := by
    intro kind? n hn
    simp [lexeme?_eq_some_iff.mpr hn] at h
  refine ⟨by simp, fun d hd => ?_, fun kind slice hlexeme hbegins => ?_⟩
  · obtain rfl : c = d := by simpa using hd
    by_contra hblank
    exact hnone _ _ (.blank (by simpa using hblank))
  · obtain ⟨n, -, hn⟩ := hlexeme.exists_begins_of_begins hbegins
    exact hnone _ _ hn

lemma lexeme?_of_blocked {c : Char} {cs : List Char} (h : Blocked (c :: cs)) :
    lexeme? c cs = none := by
  cases hlexeme : lexeme? c cs with
  | none => rfl
  | some lexeme =>
      obtain ⟨kind?, n⟩ := lexeme
      have hn := lexeme?_eq_some_iff.mp hlexeme
      cases kind? with
      | some kind =>
          have hlongest := longest_iff.mpr ⟨n, rfl, hn⟩
          exact absurd hlongest.begins (h.not_begins _ _ hlongest.lexeme)
      | none =>
          cases hn with
          | blank hblank => simp [h.not_isBlank c rfl] at hblank

/-! ## The way of the scan -/

/-- How far the scan of a text gets, and which tokens it has taken until there.  It passes white space
and takes the longest lexemes. -/
inductive Passes (cs : List Char) : Nat → List Token → Prop where
  | start : Passes cs 0 []
  | blank {p : Nat} {ts : List Token} {c : Char} :
      Passes cs p ts → cs[p]? = some c → Text.isBlank c = true → Passes cs (p + 1) ts
  | token {p : Nat} {ts : List Token} {kind : Kind} {slice : List Char} :
      Passes cs p ts → Longest (cs.drop p) kind slice →
      Passes cs (p + slice.length) (ts ++ [ofLexeme kind slice p])

/-- The scan goes this way. -/
theorem Passes.scan_eq {cs : List Char} {p : Nat} {ts : List Token} (h : Passes cs p ts) :
    scan 0 cs = (scan p (cs.drop p)).map (ts ++ ·) := by
  induction h with
  | start =>
      rw [List.drop_zero]
      cases scan 0 cs <;> rfl
  | @blank p ts c _ hc hblank ih =>
      rw [ih, List.drop_eq_getElem?_toList_append, hc, Option.toList_some, List.singleton_append,
        scan_of_isBlank hblank]
  | @token p ts kind slice _ hlongest ih =>
      obtain ⟨c, tail, htail⟩ : ∃ c tail, cs.drop p = c :: tail :=
        List.exists_cons_of_ne_nil (hlongest.begins.ne_nil hlongest.lexeme.ne_nil)
      rw [htail, longest_iff] at hlongest
      obtain ⟨n, rfl, hn⟩ := hlongest
      have hdrop : cs.drop (p + (n + 1)) = tail.drop n := by
        rw [← List.drop_drop, htail, List.drop_succ_cons]
      rw [ih, htail, scan_token (lexeme?_eq_some_iff.mpr hn), List.length_cons,
        List.length_take_of_le hn.le, hdrop, Nat.add_assoc, Nat.add_comm 1]
      cases scan (p + (n + 1)) (tail.drop n) <;> simp [Except.map]

lemma Passes.le {cs : List Char} {p : Nat} {ts : List Token} (h : Passes cs p ts) :
    p ≤ cs.length := by
  induction h with
  | start => exact Nat.zero_le _
  | blank _ hc => exact (List.getElem?_eq_some_iff.mp hc).1
  | token _ hlongest ih =>
      have hle := hlongest.begins.length_le
      rw [List.length_drop] at hle
      omega

/-- From each place on the scan gets to the end of the text, or to a place where it is blocked. -/
lemma Passes.exists_end {cs : List Char} {p : Nat} {ts : List Token} (h : Passes cs p ts) :
    ∃ q us, Passes cs q us ∧ (q = cs.length ∨ Blocked (cs.drop q)) := by
  induction hleft : cs.length - p using Nat.strongRecOn generalizing p ts with
  | ind left ih =>
      subst hleft
      cases hdrop : cs.drop p with
      | nil => exact ⟨p, ts, h, .inl (Nat.le_antisymm h.le (List.drop_eq_nil_iff.mp hdrop))⟩
      | cons c tail =>
          have hlt : p < cs.length := by
            rw [← Nat.not_le, ← List.drop_eq_nil_iff, hdrop]
            simp
          cases hlexeme : lexeme? c tail with
          | none => exact ⟨p, ts, h, .inr (hdrop ▸ blocked_of_lexeme? hlexeme)⟩
          | some lexeme =>
              obtain ⟨kind?, n⟩ := lexeme
              have hn := lexeme?_eq_some_iff.mp hlexeme
              cases kind? with
              | none =>
                  have hblank : Text.isBlank c = true := by
                    cases hn with
                    | blank hc => exact hc
                  have hc : cs[p]? = some c := by
                    rw [← List.head?_drop, hdrop, List.head?_cons]
                  exact ih _ (by omega) (h.blank hc hblank) rfl
              | some kind =>
                  have hlongest : Longest (cs.drop p) kind (c :: tail.take n) :=
                    hdrop ▸ longest_iff.mpr ⟨n, rfl, hn⟩
                  exact ih _ (by rw [List.length_cons]; omega) (h.token hlongest) rfl

/-- A text is cut into tokens that the scan has taken when it gets to the end. -/
lemma tokenize_of_passes {cs : List Char} {ts : List Token} (h : Passes cs cs.length ts) :
    tokenize cs = .ok ⟨ts, cs.length⟩ := by
  rw [tokenize, h.scan_eq, List.drop_length, scan_nil]
  simp [Except.map]

/-- A text at a place of which the scan is blocked is not cut into tokens. -/
lemma tokenize_of_blocked {cs : List Char} {p : Nat} {ts : List Token} (h : Passes cs p ts)
    (hblocked : Blocked (cs.drop p)) : tokenize cs = .error ⟨p, cs.drop p⟩ := by
  obtain ⟨c, tail, htail⟩ := List.exists_cons_of_ne_nil hblocked.nonempty
  rw [htail] at hblocked
  rw [tokenize, h.scan_eq, htail, scan_error (lexeme?_of_blocked hblocked)]
  rfl

/-! ## Tiles -/

/-- The slice of a text at which a token stands. -/
def slice (cs : List Char) (t : Token) : List Char := (cs.drop t.position).take t.text.length

/-- Whether a token is the longest lexeme that stands at its position, as it stands there but that
keywords are in lower case. -/
structure IsTile (cs : List Char) (t : Token) : Prop where
  longest : ∃ kind, Longest (cs.drop t.position) kind (t.slice cs) ∧
    t = ofLexeme kind (t.slice cs) t.position
  text : t.text = if t.kind = .keyword then (t.slice cs).map Char.toLower else t.slice cs

/-- Whether tokens tile a text up to some place: they follow one after the other without an overlap,
and what is between them is white space. -/
structure Tiles (cs : List Char) (p : Nat) (ts : List Token) : Prop where
  tiles : ∀ t ∈ ts, IsTile cs t
  ends : ∀ t ∈ ts, t.position + t.text.length ≤ p
  ordered : ts.Pairwise fun t u => t.position < u.position ∧ t.position + t.text.length ≤ u.position
  between : ∀ i c, i < p → cs[i]? = some c →
    (∀ t ∈ ts, i < t.position ∨ t.position + t.text.length ≤ i) → Text.isBlank c = true

lemma position_ofLexeme (kind : Kind) (slice : List Char) (p : Nat) :
    (ofLexeme kind slice p).position = p := by
  unfold ofLexeme
  dsimp only
  split_ifs <;> rfl

lemma text_ofLexeme_eq {kind : Kind} (slice : List Char) (p : Nat) (hkind : kind ≠ .keyword) :
    (ofLexeme kind slice p).text =
      if (ofLexeme kind slice p).kind = .keyword then slice.map Char.toLower else slice := by
  unfold ofLexeme
  dsimp only
  split_ifs <;> simp_all

lemma length_text_ofLexeme (kind : Kind) (slice : List Char) (p : Nat) :
    (ofLexeme kind slice p).text.length = slice.length := by
  unfold ofLexeme
  dsimp only
  split_ifs <;> simp

lemma Lexeme.kind_ne {kind : Kind} {slice : List Char} (h : Lexeme kind slice) :
    kind ≠ .keyword := by
  cases h <;> simp

/-- The longest lexeme at a place makes a tile. -/
lemma isTile_of_longest {cs slice : List Char} {p : Nat} {kind : Kind}
    (h : Longest (cs.drop p) kind slice) : IsTile cs (ofLexeme kind slice p) := by
  have hslice : (ofLexeme kind slice p).slice cs = slice := by
    rw [Token.slice, position_ofLexeme, length_text_ofLexeme]
    exact (List.prefix_iff_eq_take.mp h.begins).symm
  refine ⟨⟨kind, ?_, ?_⟩, ?_⟩
  · rwa [hslice, position_ofLexeme]
  · rw [hslice, position_ofLexeme]
  · rw [hslice]
    exact text_ofLexeme_eq slice p h.lexeme.kind_ne

lemma IsTile.length_pos {cs : List Char} {t : Token} (h : IsTile cs t) : 0 < t.text.length := by
  obtain ⟨kind, hlongest, htoken⟩ := h.longest
  rw [htoken, length_text_ofLexeme]
  exact List.length_pos_iff.mpr hlongest.lexeme.ne_nil

/-- What the scan has taken tiles what it has passed. -/
lemma Passes.tiles {cs : List Char} {p : Nat} {ts : List Token} (h : Passes cs p ts) :
    Tiles cs p ts := by
  induction h with
  | start => exact ⟨by simp, by simp, .nil, fun i c hi => absurd hi (Nat.not_lt_zero i)⟩
  | @blank p ts c _ hc hblank ih =>
      refine ⟨ih.tiles, fun t ht => Nat.le_succ_of_le (ih.ends t ht), ih.ordered, ?_⟩
      intro i d hi hd houtside
      rcases Nat.lt_succ_iff_lt_or_eq.mp hi with hi | rfl
      · exact ih.between i d hi hd houtside
      · obtain rfl := Option.some.inj (hc.symm.trans hd)
        exact hblank
  | @token p ts kind slice _ hlongest ih =>
      have hpos := List.length_pos_iff.mpr hlongest.lexeme.ne_nil
      have hlength := length_text_ofLexeme kind slice p
      have hposition := position_ofLexeme kind slice p
      refine ⟨?_, ?_, ?_, ?_⟩
      · intro t ht
        rcases List.mem_append.mp ht with ht | ht
        · exact ih.tiles t ht
        · rw [List.mem_singleton.mp ht]
          exact isTile_of_longest hlongest
      · intro t ht
        rcases List.mem_append.mp ht with ht | ht
        · exact Nat.le_add_right_of_le (ih.ends t ht)
        · rw [List.mem_singleton.mp ht, hlength, hposition]
      · refine List.pairwise_append.mpr ⟨ih.ordered, List.pairwise_singleton _ _, ?_⟩
        intro t ht u hu
        have htile := (ih.tiles t ht).length_pos
        have hend := ih.ends t ht
        rw [List.mem_singleton.mp hu, hposition]
        omega
      · intro i c hi hc houtside
        refine ih.between i c ?_ hc fun t ht => houtside t (List.mem_append_left _ ht)
        -- a place that the last slice covers is not outside of it
        have hlast := houtside _ (List.mem_append_right _ (List.mem_singleton_self _))
        rw [hlength, hposition] at hlast
        omega

/-- A tile at the end can be taken off, and leaves tiles up to its position. -/
lemma Tiles.of_append {cs : List Char} {p : Nat} {ts : List Token} {t : Token}
    (h : Tiles cs p (ts ++ [t])) : Tiles cs t.position ts := by
  obtain ⟨hordered, -, hbefore⟩ := List.pairwise_append.mp h.ordered
  have hends : ∀ u ∈ ts, u.position + u.text.length ≤ t.position :=
    fun u hu => (hbefore u hu t (List.mem_singleton_self t)).2
  refine ⟨fun u hu => h.tiles u (List.mem_append_left _ hu), hends, hordered, ?_⟩
  intro i c hi hc houtside
  have hend := h.ends t (List.mem_append_right _ (List.mem_singleton_self t))
  refine h.between i c (by omega) hc fun u hu => ?_
  rcases List.mem_append.mp hu with hu | hu
  · exact houtside u hu
  · rw [List.mem_singleton.mp hu]
    exact .inl hi

/-- All tiles end before a place at which the last one does not end. -/
lemma Tiles.ends_lt {cs : List Char} {p : Nat} {ts : List Token} (h : Tiles cs p ts)
    (hlast : ∀ us t, ts = us ++ [t] → t.position + t.text.length ≠ p) :
    ∀ t ∈ ts, t.position + t.text.length < p := by
  intro u hu
  obtain ⟨us, t, rfl⟩ := (List.eq_nil_or_concat' ts).resolve_left (List.ne_nil_of_mem hu)
  have hmem : t ∈ us ++ [t] := List.mem_append_right _ (List.mem_singleton_self t)
  have hend := h.ends t hmem
  have hpos := (h.tiles t hmem).length_pos
  have hne := hlast us t rfl
  rcases List.mem_append.mp hu with hu | hu
  · have hle := h.of_append.ends u hu
    omega
  · rw [List.mem_singleton.mp hu]
    omega

/-- The scan takes what tiles a text. -/
lemma Tiles.passes {cs : List Char} {p : Nat} {ts : List Token} (h : Tiles cs p ts)
    (hp : p ≤ cs.length) : Passes cs p ts := by
  induction p using Nat.strongRecOn generalizing ts with
  | ind p ih =>
      by_cases hlast : ∃ us t, ts = us ++ [t] ∧ t.position + t.text.length = p
      · obtain ⟨us, t, rfl, rfl⟩ := hlast
        have htile := h.tiles t (List.mem_append_right _ (List.mem_singleton_self t))
        have hpos := htile.length_pos
        have hpasses := ih t.position (by omega) h.of_append (by omega)
        obtain ⟨kind, hlongest, htoken⟩ := htile.longest
        have hlength : t.text.length = (t.slice cs).length := by
          conv_lhs => rw [htoken]
          exact length_text_ofLexeme kind (t.slice cs) t.position
        rw [hlength]
        conv in [t] => rw [htoken]
        exact hpasses.token hlongest
      · -- no tile ends here, so the character before is white space, if there is one
        have hends := h.ends_lt fun us t hts hend => hlast ⟨us, t, hts, hend⟩
        cases p with
        | zero =>
            obtain rfl : ts = [] := List.eq_nil_iff_forall_not_mem.mpr
              fun t ht => absurd (hends t ht) (Nat.not_lt_zero _)
            exact .start
        | succ q =>
            have hc : cs[q]? = some cs[q] := List.getElem?_eq_getElem hp
            have hends' : ∀ t ∈ ts, t.position + t.text.length ≤ q :=
              fun t ht => Nat.le_of_lt_succ (hends t ht)
            have hbefore : Tiles cs q ts := by
              refine ⟨h.tiles, hends', h.ordered, fun i c hi => h.between i c (by omega)⟩
            have hblank := h.between q cs[q] (Nat.lt_succ_self q) hc fun t ht => .inr (hends' t ht)
            exact (ih q (Nat.lt_succ_self q) hbefore (Nat.le_of_lt hp)).blank hc hblank

/-- A text is cut into the tokens that tile it.  It is not cut exactly if the scan, which passes white
space and takes the longest lexemes, gets to a place where there is neither, and it is this place that
is told. -/
theorem tokenize_tiles (cs : List Char) :
    (∀ s, tokenize cs = .ok s ↔ Tiles cs cs.length s.tokens ∧ s.stop = cs.length) ∧
      ∀ e, tokenize cs = .error e ↔ (∃ ts, Passes cs e.position ts) ∧
        Blocked (cs.drop e.position) ∧ e.rest = cs.drop e.position := by
  obtain ⟨q, us, hpasses, hend⟩ := (Passes.start : Passes cs 0 []).exists_end
  refine ⟨fun s => ⟨fun hs => ?_, fun ⟨htiles, hstop⟩ => ?_⟩,
    fun e => ⟨fun he => ?_, fun ⟨⟨ts, hts⟩, hblocked, hrest⟩ => ?_⟩⟩
  · rcases hend with rfl | hblocked
    · obtain rfl := Except.ok.inj ((tokenize_of_passes hpasses).symm.trans hs)
      exact ⟨hpasses.tiles, rfl⟩
    · simp [tokenize_of_blocked hpasses hblocked] at hs
  · obtain ⟨tokens, stop⟩ := s
    obtain rfl : stop = cs.length := hstop
    exact tokenize_of_passes (htiles.passes le_rfl)
  · rcases hend with rfl | hblocked
    · simp [tokenize_of_passes hpasses] at he
    · obtain rfl := Except.error.inj ((tokenize_of_blocked hpasses hblocked).symm.trans he)
      exact ⟨⟨us, hpasses⟩, hblocked, rfl⟩
  · obtain ⟨position, rest⟩ := e
    obtain rfl : rest = cs.drop position := hrest
    exact tokenize_of_blocked hts hblocked

end Token

end FeatureToggles
