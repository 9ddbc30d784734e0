import FeatureToggles.Proofs.Condition.Raising
import Mathlib.Data.List.Forall2

/-!
# What a snapshot shows

A snapshot is put together from steps that can fail: a context may break off while it lists its attributes,
and each value may be without a text, which shows only deep inside of it.  The two kinds of failures are
caught apart.  One that breaks the listing is shown in the place of all attributes, and one of a value in the
place of this value alone, so that what is shown of the other attributes does not depend on it.

To show the failure of a listing its error is asked for its text.  If it has none, then nothing is shown, and
what came of asking is left over.

Main statements: `attributes_eq_ok_iff` and `attributes_eq_error_iff` about listings, `renders_iff`,
`snapshot_renders`, and `snapshot_of_mute_listing`, where nothing is shown.
-/

namespace FeatureToggles.Context

open Value (Unwritable)

/-! ## Listings -/

/-- Whether a row is a pair of a name that has a text and a value. -/
def Names (row : List Value) (a : String × Value) : Prop :=
  ∃ name, row = [name, a.2] ∧ name.toText = .ok a.1

/-- Whether a context lists some attributes: each row is one of them, and the listing ends well. -/
def Lists (c : Context) (attributes : List (String × Value)) : Prop :=
  List.Forall₂ Names c.rows attributes ∧ c.failure? = none

/-- How the listing of a context breaks off, which may be at any of its rows or behind them. -/
inductive Breaks (c : Context) : Value.Error → Prop where
  /-- A row that is not a pair. -/
  | unpaired {before after : List (List Value)} {row : List Value}
      {listed : List (String × Value)} :
      c.rows = before ++ row :: after → List.Forall₂ Names before listed → row.length ≠ 2 →
      Breaks c (.notPair row.length)
  /-- A name without a text. -/
  | unnamed {before after : List (List Value)} {name v : Value} {listed : List (String × Value)}
      {e : Value.Error} :
      c.rows = before ++ [name, v] :: after → List.Forall₂ Names before listed →
      name.toText = .error e → Breaks c e
  /-- A failure behind the rows. -/
  | raised {listed : List (String × Value)} {fault : Fault} :
      List.Forall₂ Names c.rows listed → c.failure? = some fault → Breaks c (.raised fault)

lemma attributesOfRows_of_length {row : List Value} (h : row.length ≠ 2)
    (rows : List (List Value)) : attributesOfRows (row :: rows) = .error (.notPair row.length) := by
  match row, h with
  | [], _ | [_], _ | _ :: _ :: _ :: _, _ => rfl
  | [_, _], h => simp at h

/-- Rows that are attributes are listed before all others. -/
lemma attributesOfRows_append {before : List (List Value)} {listed : List (String × Value)}
    (h : List.Forall₂ Names before listed) (rows : List (List Value)) :
    attributesOfRows (before ++ rows) = (attributesOfRows rows).map (listed ++ ·) := by
  induction h with
  | nil => cases h : attributesOfRows rows <;> simp [h, Except.map]
  | @cons row a before listed hrow _ ih =>
      obtain ⟨name, rfl, hname⟩ := hrow
      rw [List.cons_append, attributesOfRows, hname]
      cases h : attributesOfRows rows <;> simp [ih, h, Except.map]

lemma attributesOfRows_of_names {rows : List (List Value)} {listed : List (String × Value)}
    (h : List.Forall₂ Names rows listed) : attributesOfRows rows = .ok listed := by
  simpa [attributesOfRows, Except.map] using attributesOfRows_append h []

/-- A context that lists some attributes has them. -/
lemma Lists.attributes_eq {c : Context} {attributes : List (String × Value)}
    (h : c.Lists attributes) : c.attributes = .ok attributes := by
  rw [Context.attributes, attributesOfRows_of_names h.1, h.2]

/-- A context whose listing breaks off has no attributes, whatever it would list behind that place. -/
lemma Breaks.attributes_eq {c : Context} {e : Value.Error} (h : c.Breaks e) :
    c.attributes = .error e := by
  cases h with
  | unpaired hrows hbefore hlength =>
      rw [Context.attributes, hrows, attributesOfRows_append hbefore,
        attributesOfRows_of_length hlength]
      rfl
  | unnamed hrows hbefore hname =>
      rw [Context.attributes, hrows, attributesOfRows_append hbefore, attributesOfRows, hname]
      rfl
  | raised hlisted hfailure =>
      rw [Context.attributes, attributesOfRows_of_names hlisted, hfailure]

/-- Either all rows are attributes, or there is a first one that is not. -/
lemma exists_first_row (rows : List (List Value)) :
    (∃ listed, List.Forall₂ Names rows listed) ∨
      ∃ before row after listed, rows = before ++ row :: after ∧ List.Forall₂ Names before listed ∧
        (row.length ≠ 2 ∨ ∃ name v e, row = [name, v] ∧ name.toText = .error e) := by
  induction rows with
  | nil => exact .inl ⟨[], .nil⟩
  | cons row rows ih =>
      by_cases hlength : row.length = 2
      · obtain ⟨name, v, rfl⟩ := List.length_eq_two.mp hlength
        cases hname : name.toText with
        | error e =>
            exact .inr ⟨[], [name, v], rows, [], rfl, .nil, .inr ⟨name, v, e, rfl, hname⟩⟩
        | ok text =>
            have hrow : Names [name, v] (text, v) := ⟨name, rfl, hname⟩
            rcases ih with ⟨listed, hlisted⟩ | ⟨before, row, after, listed, rfl, hbefore, hfails⟩
            · exact .inl ⟨_, .cons hrow hlisted⟩
            · exact .inr ⟨_ :: before, row, after, _, rfl, .cons hrow hbefore, hfails⟩
      · exact .inr ⟨[], row, rows, [], rfl, .nil, .inl hlength⟩

/-- A context lists its attributes, or its listing breaks off. -/
theorem exists_lists_or_breaks (c : Context) :
    (∃ attributes, c.Lists attributes) ∨ ∃ e, c.Breaks e := by
  obtain ⟨listed, hlisted⟩ | ⟨before, row, after, listed, hrows, hbefore, hfails⟩ :=
    exists_first_row c.rows
  · cases hfailure : c.failure? with
    | none => exact .inl ⟨listed, hlisted, hfailure⟩
    | some fault => exact .inr ⟨_, .raised hlisted hfailure⟩
  · obtain hlength | ⟨name, v, e, rfl, hname⟩ := hfails
    · exact .inr ⟨_, .unpaired hrows hbefore hlength⟩
    · exact .inr ⟨e, .unnamed hrows hbefore hname⟩

lemma attributes_eq_ok_iff {c : Context} {attributes : List (String × Value)} :
    c.attributes = .ok attributes ↔ c.Lists attributes := by
  refine ⟨fun h => ?_, Lists.attributes_eq⟩
  obtain ⟨attributes', hlists⟩ | ⟨e, hbreaks⟩ := exists_lists_or_breaks c
  · obtain rfl : attributes' = attributes := Except.ok.inj (hlists.attributes_eq.symm.trans h)
    exact hlists
  · simp [hbreaks.attributes_eq] at h

lemma attributes_eq_error_iff {c : Context} {e : Value.Error} :
    c.attributes = .error e ↔ c.Breaks e := by
  refine ⟨fun h => ?_, Breaks.attributes_eq⟩
  obtain ⟨attributes, hlists⟩ | ⟨e', hbreaks⟩ := exists_lists_or_breaks c
  · simp [hlists.attributes_eq] at h
  · obtain rfl : e' = e := Except.error.inj (hbreaks.attributes_eq.symm.trans h)
    exact hbreaks

/-- The listing of rows does not depend on the value in one of them: it breaks off all the same, or lists
this value among the same attributes. -/
lemma attributesOfRows_replace (before after : List (List Value)) (name v v' : Value) :
    (∃ e, attributesOfRows (before ++ [name, v] :: after) = .error e ∧
        attributesOfRows (before ++ [name, v'] :: after) = .error e) ∨
      ∃ front label back, front.length = before.length ∧ name.toText = .ok label ∧
        attributesOfRows (before ++ [name, v] :: after) = .ok (front ++ (label, v) :: back) ∧
        attributesOfRows (before ++ [name, v'] :: after) = .ok (front ++ (label, v') :: back) := by
  obtain ⟨front, hfront⟩ | ⟨first, row, rest, listed, rfl, hfirst, hfails⟩ :=
    exists_first_row before
  · simp only [attributesOfRows_append hfront, attributesOfRows]
    cases hname : name.toText with
    | error e => exact .inl ⟨e, rfl, rfl⟩
    | ok label =>
        cases attributesOfRows after with
        | error e => exact .inl ⟨e, rfl, rfl⟩
        | ok back => exact .inr ⟨front, label, back, hfront.length_eq.symm, rfl, rfl, rfl⟩
  · left
    simp only [List.append_assoc, List.cons_append, attributesOfRows_append hfirst]
    obtain hlength | ⟨name', v'', e, rfl, hname⟩ := hfails
    · simp only [attributesOfRows_of_length hlength]
      exact ⟨_, rfl, rfl⟩
    · simp only [attributesOfRows, hname]
      exact ⟨_, rfl, rfl⟩

/-! ## Entries -/

/-- What is shown of an attribute: its name and the text of its value, or else a marker with the type of the
value. -/
inductive Entry : String × Value → String → Prop where
  | shown {name text : String} {v : Value} :
      Context.shown v = .ok text → Entry (name, v) (name ++ ": " ++ text)
  | unrenderable {name : String} {v : Value} :
      v.Unwritable → Entry (name, v) (name ++ ": " ++ ("<unrenderable " ++ v.typeName ++ ">"))

lemma exists_error_shown_iff (v : Value) : (∃ e, shown v = .error e) ↔ v.Unwritable := by
  rw [← Value.exists_error_toText_iff]
  cases v <;> simp [shown, Value.toText, Value.toQuoted]

/-- The entry of an attribute is what is shown of it. -/
lemma entry_iff {a : String × Value} {text : String} : Entry a text ↔ text = shownAttribute a := by
  obtain ⟨name, v⟩ := a
  constructor
  · rintro (⟨h⟩ | ⟨h⟩)
    · simp [shownAttribute, h]
    · obtain ⟨e, he⟩ := (exists_error_shown_iff v).mpr h
      simp [shownAttribute, he]
  · rintro rfl
    cases h : shown v with
    | ok text => simpa [shownAttribute, h] using Entry.shown h
    | error e =>
        simpa [shownAttribute, h] using
          Entry.unrenderable ((exists_error_shown_iff v).mp ⟨e, h⟩)

lemma forall₂_entry_iff {attributes : List (String × Value)} {texts : List String} :
    List.Forall₂ Entry attributes texts ↔ texts = attributes.map shownAttribute := by
  induction attributes generalizing texts with
  | nil => simp
  | cons a attributes ih =>
      rw [List.forall₂_cons_left_iff]
      simp [entry_iff, ih]

/-! ## Snapshots -/

/-- What a snapshot shows: that there is no context, the entries of all attributes in their order, or the
error that broke off the listing. -/
inductive Renders : Option Context → String → Prop where
  | absent : Renders none "No context details available (context is None)"
  | listed {c : Context} {attributes : List (String × Value)} {texts : List String} :
      c.Lists attributes → List.Forall₂ Entry attributes texts →
      Renders (some c) (", ".intercalate texts)
  | unavailable {c : Context} {e : Value.Error} {text : String} :
      c.Breaks e → e.fault.text = .ok text →
      Renders (some c)
        ("<context attributes unavailable: " ++ e.fault.failure.className ++ ": " ++ text ++ ">")

lemma snapshot_of_attributes {c : Context} {attributes : List (String × Value)}
    (h : c.attributes = .ok attributes) :
    snapshot (some c) = .ok (", ".intercalate (attributes.map shownAttribute)) := by
  simp only [snapshot, h]

lemma snapshot_of_error {c : Context} {e : Value.Error} (h : c.attributes = .error e) :
    snapshot (some c) = e.fault.text.map (unavailable e.fault) := by
  simp only [snapshot, h]

/-- A snapshot is what a context renders. -/
theorem renders_iff {context : Option Context} {text : String} :
    snapshot context = .ok text ↔ Renders context text := by
  constructor
  · intro h
    cases context with
    | none =>
        obtain rfl := Except.ok.inj h
        exact .absent
    | some c =>
        obtain ⟨attributes, hlists⟩ | ⟨e, hbreaks⟩ := exists_lists_or_breaks c
        · obtain rfl := Except.ok.inj ((snapshot_of_attributes hlists.attributes_eq).symm.trans h)
          exact .listed hlists (forall₂_entry_iff.mpr rfl)
        · rw [snapshot_of_error hbreaks.attributes_eq] at h
          cases htext : e.fault.text with
          | error raised => simp [htext, Except.map] at h
          | ok told =>
              obtain rfl : unavailable e.fault told = text := by simpa [htext, Except.map] using h
              exact .unavailable hbreaks htext
  · rintro (_ | ⟨hlists, hentries⟩ | ⟨hbreaks, htext⟩)
    · rfl
    · rw [snapshot_of_attributes hlists.attributes_eq, forall₂_entry_iff.mp hentries]
    · rw [snapshot_of_error hbreaks.attributes_eq, htext]
      rfl

lemma ofValue_toValue (c : Context) : ofValue c.toValue = .ok (some c) := by
  cases c <;> rfl

/-- A context is shown if all errors that are raised inside it have texts. -/
lemma exists_snapshot {c : Context}
    (h : ∀ fault, c.toValue.Raises fault → ∃ text, fault.text = .ok text) :
    ∃ text, snapshot (some c) = .ok text := by
  cases hattributes : c.attributes with
  | ok attributes => exact ⟨_, snapshot_of_attributes hattributes⟩
  | error e =>
      have htold := Condition.isTellable_or_raises_of_attributes (ofValue_toValue c) hattributes
      obtain ⟨text, htext⟩ : ∃ text, e.fault.text = .ok text :=
        htold.elim (fun htellable => htellable.hasTexts.exists_text) (h e.fault)
      exact ⟨_, by rw [snapshot_of_error hattributes, htext, Except.map]⟩

/-- Where the value of one attribute is another one, either the listing breaks off as before, or the snapshots
are joined from the same entries but for the entry of this attribute. -/
lemma snapshot_replace {c c' : Context} {before after : List (List Value)} {name v v' : Value}
    (hrows : c.rows = before ++ [name, v] :: after)
    (hrows' : c'.rows = before ++ [name, v'] :: after) (hfailure : c'.failure? = c.failure?) :
    (∃ e, c.Breaks e ∧ c'.Breaks e) ∨
      ∃ front label back text text', front.length = before.length ∧ name.toText = .ok label ∧
        Entry (label, v) text ∧ Entry (label, v') text' ∧
        snapshot (some c) = .ok (", ".intercalate (front ++ text :: back)) ∧
        snapshot (some c') = .ok (", ".intercalate (front ++ text' :: back)) := by
  obtain ⟨e, he, he'⟩ | ⟨front, label, back, hlength, hname, hok, hok'⟩ :=
    attributesOfRows_replace before after name v v'
  · left
    refine ⟨e, ?_, ?_⟩
    · rw [← attributes_eq_error_iff, attributes, hrows, he]
    · rw [← attributes_eq_error_iff, attributes, hrows', he']
  cases hlast : c.failure? with
  | some fault =>
      left
      refine ⟨.raised fault, ?_, ?_⟩
      · rw [← attributes_eq_error_iff, attributes, hrows, hok, hlast]
      · rw [← attributes_eq_error_iff, attributes, hrows', hok', hfailure, hlast]
  | none =>
      right
      have hlisted : c.attributes = .ok (front ++ (label, v) :: back) := by
        rw [attributes, hrows, hok, hlast]
      have hlisted' : c'.attributes = .ok (front ++ (label, v') :: back) := by
        rw [attributes, hrows', hok', hfailure, hlast]
      refine ⟨front.map shownAttribute, label, back.map shownAttribute, shownAttribute (label, v),
        shownAttribute (label, v'), by rw [List.length_map, hlength], hname, entry_iff.mpr rfl,
        entry_iff.mpr rfl, ?_, ?_⟩
      · rw [snapshot_of_attributes hlisted, List.map_append, List.map_cons]
      · rw [snapshot_of_attributes hlisted', List.map_append, List.map_cons]

/-- A provider of the caller that lists some ages and a truth value. -/
def agesProvider (ages : List Int) : Context :=
  .provider ⟨"Ages", 0, .ok "Ages"⟩
    [[.text "ages", .list (ages.map fun age => .number (.int age))],
      [.text "admin", .bool true]] none

/-- The least integer with too many digits. -/
def longInteger : Int := Nat.pow 10 digitLimit

end FeatureToggles.Context
