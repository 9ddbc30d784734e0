import FeatureToggles.Context
import FeatureToggles.Proofs.Value.Data
import FeatureToggles.Proofs.Value.Writing
import Mathlib.Tactic.Common

/-!
# Errors that values raise

A value may hold objects of the caller, at any depth, and each of them may raise an error of its own when it
is asked for its text, for its attributes, or for what it lists.  An operation on a value fails in a way of
its own, or with an error that something inside the value raises.

Main statements: `toText_raises`, `members?_raises`, `not_raised_of_equal` and `attributes_raises`.
-/

namespace FeatureToggles

namespace Value

/-- Whether something inside a value raises an error. -/
inductive Raises : Value → Fault → Prop where
  | providerText {self : Object} {fault : Fault} (rows : List (List Value))
      (failure : Option Fault) :
      self.text = .error fault → Raises (.provider self rows failure) fault
  | foreignText {self : Object} {fault : Fault} (failure : Option Fault) :
      self.text = .error fault → Raises (.foreign self failure) fault
  /-- A listing that breaks off. -/
  | listing (self : Object) (rows : List (List Value)) (fault : Fault) :
      Raises (.provider self rows (some fault)) fault
  /-- An object that raises an error when its attributes are looked for. -/
  | attributes (self : Object) (fault : Fault) : Raises (.foreign self (some fault)) fault
  | row {self : Object} {rows : List (List Value)} {failure : Option Fault} {row : List Value}
      {v : Value} {fault : Fault} :
      row ∈ rows → v ∈ row → Raises v fault → Raises (.provider self rows failure) fault
  | part {v p : Value} {fault : Fault} : p ∈ v.parts → Raises p fault → Raises v fault

lemma raises_of_entries {entries : List (Value × Value)} {entry : Value × Value}
    (hentry : entry ∈ entries) {v : Value} (hv : v = entry.1 ∨ v = entry.2) {fault : Fault}
    (h : v.Raises fault) : (map entries).Raises fault ∧ (context entries).Raises fault := by
  have hpart : v ∈ entries.flatMap fun entry => [entry.1, entry.2] :=
    List.mem_flatMap.mpr ⟨entry, hentry, by simpa using hv⟩
  exact ⟨.part (v := .map entries) hpart h, .part (v := .context entries) hpart h⟩

/-- Nothing inside data raises an error. -/
lemma IsData.not_raises {v : Value} (h : v.IsData) {fault : Fault} : ¬ v.Raises fault := by
  induction h with
  | null | bool | number | text =>
      intro hraises
      cases hraises with
      | part hp => simp [parts] at hp
  | list _ ih =>
      intro hraises
      cases hraises with
      | part hp hraises => exact ih _ hp hraises
  | map hkeys _ ih =>
      intro hraises
      cases hraises with
      | part hp hraises =>
          obtain ⟨entry, hentry, hp⟩ := List.mem_flatMap.mp hp
          obtain rfl | rfl : _ = entry.1 ∨ _ = entry.2 := by simpa using hp
          · obtain ⟨s, hs⟩ := hkeys _ hentry
            rw [hs] at hraises
            cases hraises with
            | part hp => simp [parts] at hp
          · exact ih _ hentry hraises

/-! ## Texts -/

lemma Lacks.raises {v : Value} {fault : Fault} (h : v.Lacks (.raised fault)) : v.Raises fault := by
  generalize he : Error.raised fault = e at h
  induction h with
  | integer => cases he
  | provider rows failure htext =>
      obtain rfl := Error.raised.inj he
      exact .providerText rows failure htext
  | foreign failure htext =>
      obtain rfl := Error.raised.inj he
      exact .foreignText failure htext
  | part hp _ ih => exact .part hp (ih he)

/-- The error of a value that cannot be written is raised inside it, unless it is about an integer. -/
theorem toText_raises {v : Value} {fault : Fault} (h : v.toText = .error (.raised fault)) :
    v.Raises fault := (lacks_of_toText h).raises

/-! ## Equality -/

lemma not_raised_of_equalNumbers {a b : Number} {fault : Fault} :
    equalNumbers a b ≠ .error (.raised fault) := by
  unfold equalNumbers
  cases a.equal b <;> simp [Except.mapError]

mutual

/-- Values are compared without asking an object for anything but which one it is. -/
theorem not_raised_of_equal (fault : Fault) : ∀ v w : Value, equal v w ≠ .error (.raised fault)
  | .null, w => by rw [equal_null]; simp
  | .bool _, w => by cases w <;> simp [equal, not_raised_of_equalNumbers]
  | .number _, w => by cases w <;> simp [equal, not_raised_of_equalNumbers]
  | .text _, w => by cases w <;> simp [equal]
  | .list xs, w => by
      cases w <;> simp only [equal, ne_eq, reduceCtorEq, not_false_eq_true]
      split
      · exact not_raised_of_equalItems fault xs _
      · simp
  | .map es, w => by
      cases w <;> simp only [equal, ne_eq, reduceCtorEq, not_false_eq_true]
      split
      · exact not_raised_of_equalEntries fault es _
      · simp
  | .context es, w => by
      cases w <;> simp only [equal, ne_eq, reduceCtorEq, not_false_eq_true]
      split
      · exact not_raised_of_equalEntries fault es _
      · simp
  | .provider .., w => by cases w <;> simp [equal]
  | .foreign .., w => by cases w <;> simp [equal]

theorem not_raised_of_equalItems (fault : Fault) : ∀ xs ys : List Value,
    equalItems xs ys ≠ .error (.raised fault)
  | [], ys => by simp [equalItems]
  | x :: xs, [] => by simp [equalItems]
  | x :: xs, y :: ys => by
      have hfirst := not_raised_of_equal fault x y
      have hrest := not_raised_of_equalItems fault xs ys
      rw [equalItems]
      rcases hequal : equal x y with e | _ | _ <;> split <;> simp_all

theorem not_raised_of_equalEntries (fault : Fault) : ∀ es fs : List (Value × Value),
    equalEntries es fs ≠ .error (.raised fault)
  | [], fs => by simp [equalEntries]
  | (key, v) :: es, fs => by
      have hrest := not_raised_of_equalEntries fault es fs
      rw [equalEntries]
      cases lookup fs key with
      | none => simp
      | some w =>
          have hfirst := not_raised_of_equal fault v w
          rcases hequal : equal v w with e | _ | _ <;> simp only [] <;> split <;> simp_all

end

/-! ## Members -/

lemma value_of_mem_insert {entries : List (Value × Value)} {key v : Value} {entry : Value × Value}
    (h : entry ∈ insert entries key v) : entry.2 = v ∨ ∃ old ∈ entries, entry.2 = old.2 := by
  unfold insert at h
  split at h
  · obtain ⟨old, hold, rfl⟩ := List.mem_map.mp h
    split
    · exact .inl rfl
    · exact .inr ⟨old, hold, rfl⟩
  · rcases List.mem_append.mp h with h | h
    · exact .inr ⟨entry, h, rfl⟩
    · exact .inl (by rw [List.mem_singleton.mp h])

/-- Rows fail on their shape or on their keys, and nothing is asked for its text. -/
lemma ne_raised_of_entriesOfRows {index : Nat} {entries : List (Value × Value)}
    {rows : List (List Value)} {e : Error} {fault : Fault}
    (h : entriesOfRows index entries rows = .error e) : e ≠ .raised fault := by
  induction rows generalizing index entries with
  | nil => simp [entriesOfRows] at h
  | cons row rows ih =>
      match row, h with
      | [], h | [_], h | _ :: _ :: _ :: _, h =>
          simp only [entriesOfRows, Except.error.injEq] at h
          simp [← h]
      | [key, v], h =>
          rw [entriesOfRows] at h
          cases hkey : keyError? key with
          | none => exact ih (by simpa [hkey] using h)
          | some e' =>
              obtain rfl : e' = e := by simpa [hkey] using h
              unfold keyError? at hkey
              split at hkey
              all_goals try split_ifs at hkey
              all_goals simp only [Option.some.injEq, reduceCtorEq] at hkey
              all_goals simp [← hkey]

/-- What the entries of some rows raise is raised in the entries before or in the rows. -/
lemma entriesOfRows_raises {fault : Fault} {index : Nat} {entries entries' : List (Value × Value)}
    {rows : List (List Value)} (h : entriesOfRows index entries rows = .ok entries')
    {entry : Value × Value} (hentry : entry ∈ entries') (hraises : entry.2.Raises fault) :
    (∃ old ∈ entries, old.2.Raises fault) ∨ ∃ row ∈ rows, ∃ v ∈ row, v.Raises fault := by
  induction rows generalizing index entries with
  | nil =>
      obtain rfl : entries = entries' := by simpa [entriesOfRows] using h
      exact .inl ⟨entry, hentry, hraises⟩
  | cons row rows ih =>
      match row, h with
      | [], h | [_], h | _ :: _ :: _ :: _, h => simp [entriesOfRows] at h
      | [key, v], h =>
          rw [entriesOfRows] at h
          cases hkey : keyError? key with
          | some e => simp [hkey] at h
          | none =>
              simp only [hkey] at h
              rcases ih h with ⟨old, hold, hraises⟩ | ⟨row', hrow', w, hw, hraises⟩
              · rcases value_of_mem_insert hold with hv | ⟨older, holder, hv⟩
                · exact .inr ⟨[key, v], by simp, v, by simp, hv ▸ hraises⟩
                · exact .inl ⟨older, holder, hv ▸ hraises⟩
              · exact .inr ⟨row', by simp [hrow'], w, hw, hraises⟩

/-- What the members of a value raise, or their listing, is raised inside it. -/
theorem members?_raises {v : Value} {fault : Fault} :
    (v.members? = .error (.raised fault) → v.Raises fault) ∧
      ∀ entries, v.members? = .ok (some entries) → ∀ entry ∈ entries, entry.2.Raises fault →
        v.Raises fault := by
  cases v with
  | null | bool | number | text | list => simp [members?]
  | map entries =>
      simp only [members?, reduceCtorEq, IsEmpty.forall_iff, Except.ok.injEq, Option.some.injEq,
        true_and]
      rintro _ rfl entry hentry hraises
      exact (raises_of_entries hentry (.inr rfl) hraises).1
  | context entries =>
      simp only [members?, reduceCtorEq, IsEmpty.forall_iff, Except.ok.injEq, Option.some.injEq,
        true_and]
      rintro _ rfl entry hentry hraises
      exact (raises_of_entries hentry (.inr rfl) hraises).2
  | foreign self failure =>
      cases failure with
      | none => simp [members?]
      | some fault' =>
          simp only [members?, Except.error.injEq, Error.raised.injEq, reduceCtorEq,
            IsEmpty.forall_iff, implies_true, and_true]
          rintro rfl
          exact .attributes self fault'
  | provider self rows failure =>
      simp only [members?]
      cases hrows : entriesOfRows 0 [] rows with
      | error e =>
          refine ⟨fun h => ?_, by simp⟩
          exact absurd (Except.error.inj h) (ne_raised_of_entriesOfRows hrows)
      | ok entries =>
          cases failure with
          | some fault' =>
              simp only [Except.error.injEq, Error.raised.injEq, reduceCtorEq, IsEmpty.forall_iff,
                implies_true, and_true]
              rintro rfl
              exact .listing self rows fault'
          | none =>
              simp only [reduceCtorEq, IsEmpty.forall_iff, Except.ok.injEq, Option.some.injEq,
                true_and]
              rintro _ rfl entry hentry hraises
              rcases entriesOfRows_raises hrows hentry hraises with ⟨_, hold, -⟩ | hrow
              · simp at hold
              · obtain ⟨row, hrow, w, hw, hraises⟩ := hrow
                exact .row hrow hw hraises

end Value

/-! ## Contexts -/

namespace Context

/-- The context that a value gives: a mapping, an evaluation context, or an attribute provider. -/
inductive Given : Value → Context → Prop where
  | map (es : List (Value × Value)) : Given (.map es) (.entries es)
  | context (es : List (Value × Value)) : Given (.context es) (.entries es)
  | provider (self : Object) (rows : List (List Value)) (failure : Option Fault) :
      Given (.provider self rows failure) (.provider self rows failure)

lemma given_iff {value : Value} {c : Context} : Given value c ↔ ofValue value = .ok (some c) := by
  constructor
  · rintro ⟨⟩ <;> rfl
  · intro h
    cases value with
    | null | bool | number | text | list => simp [ofValue] at h
    | foreign self failure => cases failure <;> simp [ofValue] at h
    | map es | context es | provider self rows failure =>
        obtain rfl := Option.some.inj (Except.ok.inj h)
        constructor

/-- A value that is not null gives a context, or an error says why it gives none. -/
lemma exists_given_or_error {value : Value} (h : value ≠ .null) :
    (∃ c, Given value c) ∨ ∃ fault, ofValue value = .error fault := by
  simp only [given_iff]
  cases value with
  | null => exact absurd rfl h
  | bool | number | text | list => exact .inr ⟨_, rfl⟩
  | foreign self failure => cases failure <;> exact .inr ⟨_, rfl⟩
  | map | context | provider => exact .inl ⟨_, rfl⟩

/-- What is raised while some rows are listed as attributes, or by the attributes, is raised in a row. -/
lemma attributesOfRows_raises {rows : List (List Value)} {fault : Fault} :
    (attributesOfRows rows = .error (.raised fault) → ∃ row ∈ rows, ∃ v ∈ row, v.Raises fault) ∧
      ∀ attributes, attributesOfRows rows = .ok attributes → ∀ a ∈ attributes, a.2.Raises fault →
        ∃ row ∈ rows, ∃ v ∈ row, v.Raises fault := by
  induction rows with
  | nil => simp [attributesOfRows]
  | cons row rows ih =>
      rcases row with _ | ⟨name, _ | ⟨v, _ | ⟨_, _⟩⟩⟩
      case nil | cons.nil | cons.cons.cons => simp [attributesOfRows]
      case cons.cons.nil =>
        rw [attributesOfRows]
        cases hname : name.toText with
        | error e =>
            simp only [Except.error.injEq, reduceCtorEq, IsEmpty.forall_iff, implies_true, and_true]
            rintro rfl
            exact ⟨[name, v], by simp, name, by simp, Value.toText_raises hname⟩
        | ok label =>
            cases hrows : attributesOfRows rows with
            | error e =>
                simp only [Except.map, Except.error.injEq, reduceCtorEq, IsEmpty.forall_iff,
                  implies_true, and_true]
                rintro rfl
                obtain ⟨row', hrow', hraises⟩ := ih.1 hrows
                exact ⟨row', by simp [hrow'], hraises⟩
            | ok attributes =>
                simp only [Except.map, reduceCtorEq, IsEmpty.forall_iff, Except.ok.injEq, true_and]
                rintro _ rfl a ha hraises
                rcases List.mem_cons.mp ha with rfl | ha
                · exact ⟨[name, v], by simp, v, by simp, hraises⟩
                · obtain ⟨row', hrow', hraises⟩ := ih.2 attributes hrows a ha hraises
                  exact ⟨row', by simp [hrow'], hraises⟩

/-- What is raised while a context lists its attributes, or by the attributes, is raised inside the value
that stands for the context. -/
theorem attributes_raises {value : Value} {c : Context} (h : ofValue value = .ok (some c))
    {fault : Fault} :
    (c.attributes = .error (.raised fault) → value.Raises fault) ∧
      ∀ attributes, c.attributes = .ok attributes → ∀ a ∈ attributes, a.2.Raises fault →
        value.Raises fault := by
  have hrows : ∀ row ∈ c.rows, ∀ v ∈ row, v.Raises fault → value.Raises fault := by
    intro row hrow v hv hraises
    cases given_iff.mpr h with
    | map entries =>
        obtain ⟨entry, hentry, rfl⟩ := List.mem_map.mp hrow
        exact (Value.raises_of_entries hentry (by simpa using hv) hraises).1
    | context entries =>
        obtain ⟨entry, hentry, rfl⟩ := List.mem_map.mp hrow
        exact (Value.raises_of_entries hentry (by simpa using hv) hraises).2
    | provider => exact .row hrow hv hraises
  have hlast : ∀ fault', c.failure? = some fault' → value.Raises fault' := by
    intro fault' hfailure
    cases given_iff.mpr h with
    | map | context => cases hfailure
    | provider self rows failure =>
        obtain rfl : failure = some fault' := hfailure
        exact .listing self rows fault'
  have hlisted := @attributesOfRows_raises c.rows fault
  unfold attributes
  cases hattributes : attributesOfRows c.rows with
  | error e =>
      simp only [Except.error.injEq, reduceCtorEq, IsEmpty.forall_iff, implies_true, and_true]
      rintro rfl
      obtain ⟨row, hrow, v, hv, hraises⟩ := hlisted.1 hattributes
      exact hrows row hrow v hv hraises
  | ok attributes =>
      cases hfailure : c.failure? with
      | some fault' =>
          simp only [Except.error.injEq, Value.Error.raised.injEq, reduceCtorEq, IsEmpty.forall_iff,
            implies_true, and_true]
          rintro rfl
          exact hlast fault' hfailure
      | none =>
          simp only [reduceCtorEq, IsEmpty.forall_iff, Except.ok.injEq, true_and]
          rintro _ rfl a ha hraises
          obtain ⟨row, hrow, v, hv, hraises⟩ := hlisted.2 attributes hattributes a ha hraises
          exact hrows row hrow v hv hraises

end Context

end FeatureToggles
