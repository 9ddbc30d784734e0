import FeatureToggles.Proofs.Lookup
import FeatureToggles.Value.Entries
import Mathlib.Data.List.Forall2
import Mathlib.Data.List.Induction

/-!
# The members of a value

Mappings, evaluation contexts and nested attribute providers have members, which are found by their names.  A
provider lists pairs, of which the last one with a name counts; it may also break off, and then nothing is
found in it.

Main statements: `members?_eq_none_iff` says which values have no members, `members?_eq_error_iff` how a listing
breaks off, and `member_iff` what is found.
-/

namespace FeatureToggles

namespace Value

/-! ## What there is to find -/

/-- Whether a value is not of a sort without members.  Of an object that raises an error where it is looked at
for its attributes this is not known. -/
def hasMembers : Value → Bool
  | .map _ => true
  | .context _ => true
  | .provider .. => true
  | .foreign _ failure => failure.isSome
  | _ => false

/-- Whether rows are pairs, the first part of each of which can be a key. -/
def Pairs (rows : List (List Value)) (pairs : List (Value × Value)) : Prop :=
  List.Forall₂ (fun row pair => row = [pair.1, pair.2] ∧ keyError? pair.1 = none) rows pairs

/-- What a value has at a name, if it is a mapping or lists pairs.  Of the pairs that a provider lists the
last one with the name counts. -/
inductive Member (name : String) (w : Value) : Value → Prop where
  | map {entries : List (Value × Value)} :
      IsFirst entries (.text name) w → Member name w (.map entries)
  | context {entries : List (Value × Value)} :
      IsFirst entries (.text name) w → Member name w (.context entries)
  | provider {self : Object} {rows : List (List Value)} {pairs : List (Value × Value)} :
      Pairs rows pairs → IsLast pairs (.text name) w → Member name w (.provider self rows none)

/-- How the listing of a nested provider breaks off, so that it has no pairs to look in, or the look at an
object fails. -/
inductive Broken : Value → Error → Prop where
  /-- A row that is not a pair, at its place among the rows. -/
  | unpaired {self : Object} {before after : List (List Value)} {row : List Value}
      {failure : Option Fault} {pairs : List (Value × Value)} :
      Pairs before pairs → row.length ≠ 2 →
      Broken (.provider self (before ++ row :: after) failure) (.badRow before.length row.length)
  /-- A name that no mapping can have as a key. -/
  | unhashable {self : Object} {before after : List (List Value)} {key v : Value}
      {failure : Option Fault} {pairs : List (Value × Value)} {e : Error} :
      Pairs before pairs → keyError? key = some e →
      Broken (.provider self (before ++ [key, v] :: after) failure) e
  /-- A failure behind the rows. -/
  | raised {self : Object} {rows : List (List Value)} {pairs : List (Value × Value)}
      {fault : Fault} :
      Pairs rows pairs → Broken (.provider self rows (some fault)) (.raised fault)
  /-- An object that raises an error where it is looked at for its attributes. -/
  | refused (self : Object) (fault : Fault) : Broken (.foreign self (some fault)) (.raised fault)

lemma sameKey_text_iff {key : Value} {s : String} : key.sameKey (.text s) = true ↔ key = .text s := by
  cases key <;> simp [sameKey]

lemma text_sameKey_iff {key : Value} {s : String} :
    (Value.text s).sameKey key = true ↔ key = .text s := by
  cases key with
  | text t => simp [sameKey, @eq_comm _ t]
  | _ => simp [sameKey]

lemma lookup_text_iff {entries : List (Value × Value)} {name : String} {w : Value} :
    lookup entries (.text name) = some w ↔ IsFirst entries (.text name) w :=
  find?_eq_some_iff_isFirst fun _ => sameKey_text_iff

/-- The value at a key where those of the entries with some other key were replaced. -/
lemma lookup_replace (entries : List (Value × Value)) (key v other : Value) :
    lookup (entries.map fun entry => if entry.1.sameKey key then (entry.1, v) else entry) other =
      (entries.find? fun entry => entry.1.sameKey other).map fun entry =>
        if entry.1.sameKey key then v else entry.2 := by
  have hkey : ∀ entry : Value × Value,
      (if entry.1.sameKey key then (entry.1, v) else entry).1 = entry.1 := by
    intro entry
    split <;> rfl
  rw [lookup, List.find?_map, Option.map_map]
  simp only [Function.comp_def, hkey]
  congr 1
  funext entry
  split <;> rfl

/-- A value that was put at a name is there. -/
lemma lookup_insert_self (entries : List (Value × Value)) (name : String) (v : Value) :
    lookup (insert entries (.text name) v) (.text name) = some v := by
  unfold insert
  split
  · rename_i hany
    rw [lookup_replace]
    have hsome := List.find?_isSome.mpr (List.any_eq_true.mp hany)
    obtain ⟨entry, hentry⟩ := Option.isSome_iff_exists.mp hsome
    have hkey := List.find?_some hentry
    simp [hentry, hkey]
  · rename_i hany
    have hnone : entries.find? (fun entry => entry.1.sameKey (.text name)) = none := by
      simpa using hany
    rw [lookup, List.find?_append, hnone]
    simp [sameKey]

/-- A value that was put at another key does not matter. -/
lemma lookup_insert_of_ne (entries : List (Value × Value)) {key : Value} {name : String}
    (h : key ≠ .text name) (v : Value) :
    lookup (insert entries key v) (.text name) = lookup entries (.text name) := by
  unfold insert
  split
  · rw [lookup_replace, lookup]
    cases hfind : entries.find? fun entry => entry.1.sameKey (.text name) with
    | none => rfl
    | some entry =>
        -- the entry that is found has the name for a key, so it was not replaced
        have hfound := List.find?_some hfind
        have hname : entry.1 = .text name := sameKey_text_iff.mp hfound
        have hkey : ¬ entry.1.sameKey key = true := by
          rw [hname, text_sameKey_iff]
          exact h
        simp [hkey]
  · have hkey : ¬ key.sameKey (.text name) = true := by rwa [sameKey_text_iff]
    rw [lookup, lookup, List.find?_append]
    simp [hkey]

/-- In the entries that pairs make there is the last of those with a name. -/
lemma lookup_entriesOf_iff {pairs : List (Value × Value)} {name : String} {w : Value} :
    lookup (entriesOf pairs) (.text name) = some w ↔ IsLast pairs (.text name) w := by
  induction pairs using List.reverseRecOn with
  | nil => simp [entriesOf, lookup, not_isLast_nil]
  | append_singleton pairs pair ih =>
      obtain ⟨key, v⟩ := pair
      rw [entriesOf, List.foldl_append, List.foldl_cons, List.foldl_nil, ← entriesOf,
        isLast_append_singleton, ← ih]
      by_cases h : key = .text name
      · subst h
        simp [lookup_insert_self]
      · simp [lookup_insert_of_ne _ h, h]

/-- Rows that are pairs are read before all others. -/
lemma entriesOfRows_append {before : List (List Value)} {pairs : List (Value × Value)}
    (h : Pairs before pairs) (index : Nat) (entries : List (Value × Value))
    (rows : List (List Value)) :
    entriesOfRows index entries (before ++ rows) =
      entriesOfRows (index + before.length)
        (pairs.foldl (fun entries pair => insert entries pair.1 pair.2) entries) rows := by
  induction h generalizing index entries with
  | nil => rfl
  | @cons row pair before pairs hrow _ ih =>
      obtain ⟨rfl, hkey⟩ := hrow
      simp only [List.cons_append, entriesOfRows, hkey]
      rw [ih, List.foldl_cons, List.length_cons, Nat.add_right_comm, Nat.add_assoc]

lemma entriesOfRows_of_pairs {rows : List (List Value)} {pairs : List (Value × Value)}
    (h : Pairs rows pairs) : entriesOfRows 0 [] rows = .ok (entriesOf pairs) := by
  simpa [entriesOfRows, entriesOf] using entriesOfRows_append h 0 [] []

/-- Either all rows are pairs, or there is a first one that is not. -/
lemma exists_first_unpaired (rows : List (List Value)) :
    (∃ pairs, Pairs rows pairs) ∨
      ∃ before row after pairs, rows = before ++ row :: after ∧ Pairs before pairs ∧
        (row.length ≠ 2 ∨ ∃ key v e, row = [key, v] ∧ keyError? key = some e) := by
  induction rows with
  | nil => exact .inl ⟨[], .nil⟩
  | cons row rows ih =>
      by_cases hlength : row.length = 2
      · obtain ⟨key, v, rfl⟩ := List.length_eq_two.mp hlength
        cases hkey : keyError? key with
        | some e =>
            exact .inr ⟨[], [key, v], rows, [], rfl, .nil, .inr ⟨key, v, e, rfl, hkey⟩⟩
        | none =>
            rcases ih with ⟨pairs, hpairs⟩ | ⟨before, row, after, pairs, rfl, hbefore, hfails⟩
            · exact .inl ⟨(key, v) :: pairs, .cons ⟨rfl, hkey⟩ hpairs⟩
            · exact .inr ⟨_ :: before, row, after, (key, v) :: pairs, rfl,
                .cons ⟨rfl, hkey⟩ hbefore, hfails⟩
      · exact .inr ⟨[], row, rows, [], rfl, .nil, .inl hlength⟩

lemma Broken.members?_eq {v : Value} {e : Error} (h : Broken v e) : v.members? = .error e := by
  cases h with
  | unpaired hbefore hlength =>
      simp only [members?, entriesOfRows_append hbefore, entriesOfRows_badRow _ _ _ hlength,
        Nat.zero_add]
  | unhashable hbefore hkey =>
      simp only [members?, entriesOfRows_append hbefore, entriesOfRows, hkey]
  | raised hpairs => simp only [members?, entriesOfRows_of_pairs hpairs]
  | refused => rfl

lemma Member.exists_entries {name : String} {v w : Value} (h : Member name w v) :
    ∃ entries, v.members? = .ok (some entries) ∧ lookup entries (.text name) = some w := by
  cases h with
  | map hfirst => exact ⟨_, rfl, lookup_text_iff.mpr hfirst⟩
  | context hfirst => exact ⟨_, rfl, lookup_text_iff.mpr hfirst⟩
  | provider hpairs hlast =>
      refine ⟨_, ?_, lookup_entriesOf_iff.mpr hlast⟩
      simp only [members?, entriesOfRows_of_pairs hpairs]

/-- A provider lists pairs, or its listing breaks off. -/
lemma exists_pairs_or_broken (self : Object) (rows : List (List Value)) (failure : Option Fault) :
    (∃ pairs, Pairs rows pairs ∧ failure = none) ∨ ∃ e, Broken (.provider self rows failure) e := by
  obtain ⟨pairs, hpairs⟩ | ⟨before, row, after, pairs, rfl, hbefore, hfails⟩ :=
    exists_first_unpaired rows
  · cases failure with
    | none => exact .inl ⟨pairs, hpairs, rfl⟩
    | some fault => exact .inr ⟨_, .raised hpairs⟩
  · obtain hlength | ⟨key, v, e, rfl, hkey⟩ := hfails
    · exact .inr ⟨_, .unpaired hbefore hlength⟩
    · exact .inr ⟨e, .unhashable hbefore hkey⟩

/-- What can be said of the members of a value: that it is of a sort without any, that their listing breaks
off, or what they are. -/
lemma members?_cases (v : Value) :
    (v.hasMembers = false ∧ v.members? = .ok none) ∨ (v.hasMembers = true ∧ ∃ e, Broken v e) ∨
      v.hasMembers = true ∧ ∃ entries, v.members? = .ok (some entries) ∧
        ∀ name w, lookup entries (.text name) = some w → Member name w v := by
  cases v with
  | map entries =>
      exact .inr (.inr ⟨rfl, entries, rfl, fun name w h => .map (lookup_text_iff.mp h)⟩)
  | context entries =>
      exact .inr (.inr ⟨rfl, entries, rfl, fun name w h => .context (lookup_text_iff.mp h)⟩)
  | provider self rows failure =>
      right
      obtain ⟨pairs, hpairs, rfl⟩ | hbroken := exists_pairs_or_broken self rows failure
      · refine .inr ⟨rfl, entriesOf pairs, ?_, fun name w h => ?_⟩
        · simp only [members?, entriesOfRows_of_pairs hpairs]
        · exact .provider hpairs (lookup_entriesOf_iff.mp h)
      · exact .inl ⟨rfl, hbroken⟩
  | foreign self failure =>
      cases failure with
      | none => exact .inl ⟨rfl, rfl⟩
      | some fault => exact .inr (.inl ⟨rfl, _, .refused self fault⟩)
  | _ => exact .inl ⟨rfl, rfl⟩

theorem members?_eq_none_iff {v : Value} : v.members? = .ok none ↔ v.hasMembers = false := by
  rcases v.members?_cases with ⟨hsort, h⟩ | ⟨hsort, e, hbroken⟩ | ⟨hsort, entries, h, -⟩
  · simp [hsort, h]
  · simp [hsort, hbroken.members?_eq]
  · simp [hsort, h]

theorem members?_eq_error_iff {v : Value} {e : Error} : v.members? = .error e ↔ Broken v e := by
  refine ⟨fun h => ?_, Broken.members?_eq⟩
  rcases v.members?_cases with ⟨-, h'⟩ | ⟨-, e', hbroken⟩ | ⟨-, entries, h', -⟩
  · simp [h'] at h
  · obtain rfl : e' = e := Except.error.inj (hbroken.members?_eq.symm.trans h)
    exact hbroken
  · simp [h'] at h

theorem member_iff {name : String} {v w : Value} :
    Member name w v ↔
      ∃ entries, v.members? = .ok (some entries) ∧ lookup entries (.text name) = some w := by
  refine ⟨Member.exists_entries, ?_⟩
  rintro ⟨entries, h, hlookup⟩
  rcases v.members?_cases with ⟨-, h'⟩ | ⟨-, e, hbroken⟩ | ⟨-, entries', h', hmember⟩
  · simp [h'] at h
  · simp [hbroken.members?_eq] at h
  · obtain rfl : entries' = entries := by simpa [h'] using h
    exact hmember name w hlookup

end Value

end FeatureToggles
