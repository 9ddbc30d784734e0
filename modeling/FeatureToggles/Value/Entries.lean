import FeatureToggles.Value.Render

/-!
# Entries

Entries can be had from values of several sorts.  A mapping has its own, and an attribute provider
lists them, row by row.  A mapping can also be made of any value that lists pairs; null, false, zero and
whatever is empty make the empty mapping.

Main statements: a mapping makes itself (`entries_map`), and a row that is no pair is an error that
tells its place among the rows (`entriesOfRows_badRow`).
-/

namespace FeatureToggles

/-- Whether a number is zero. -/
def Number.isZero : Number → Bool
  | .int i => i = 0
  | .float (.finite _ m _) => m = 0
  | .decimal (.finite _ c _) => c = 0
  | _ => false

namespace Value

/-! ## Rows -/

/-- The entries that the rows of a nested attribute provider make, given those of the rows before
and their number.  Each row has to be a pair whose first part can be a key. -/
def entriesOfRows (index : Nat) (entries : List (Value × Value)) :
    List (List Value) → Except Error (List (Value × Value))
  | [] => .ok entries
  | [key, v] :: rows =>
    match keyError? key with
    | some e => .error e
    | none => entriesOfRows (index + 1) (insert entries key v) rows
  | row :: _ => .error (.badRow index row.length)

/-- The members of a value, if it is a mapping or lists attributes. -/
def members? : Value → Except Error (Option (List (Value × Value)))
  | .map entries => .ok (some entries)
  | .context entries => .ok (some entries)
  | .provider _ rows failure =>
    match entriesOfRows 0 [] rows, failure with
    | .error e, _ => .error e
    | .ok _, some fault => .error (.raised fault)
    | .ok entries, none => .ok (some entries)
  | .foreign _ (some fault) => .error (.raised fault)
  | _ => .ok none

theorem entriesOfRows_badRow {row : List Value} (index : Nat) (entries : List (Value × Value))
    (rows : List (List Value)) (h : row.length ≠ 2) :
    entriesOfRows index entries (row :: rows) = .error (.badRow index row.length) := by
  match row with
  | [] => rfl
  | [_] => rfl
  | [_, _] => exact absurd rfl h
  | _ :: _ :: _ :: _ => rfl

/-! ## Values as mappings -/

/-- Whether a value is null, false, zero or empty. -/
def isVoid : Value → Bool
  | .null => true
  | .bool b => !b
  | .number n => n.isZero
  | .text s => s.isEmpty
  | .list items => items.isEmpty
  | .map es => es.isEmpty
  | .context es => es.isEmpty
  | _ => false

/-- The items that a value lists: those of a list, the characters of a text, the keys of a mapping. -/
def items? : Value → Option (List Value)
  | .list items => some items
  | .text s => some (s.toList.map fun c => .text (String.singleton c))
  | .map es => some (es.map (·.1))
  | _ => none

/-- The entries that some items make which are to list pairs, given those of the items before and
their number. -/
def entriesOfItems (index : Nat) (entries : List (Value × Value)) :
    List Value → Except Error (List (Value × Value))
  | [] => .ok entries
  | item :: rest =>
    match item.items? with
    | none => .error (.notSequence index)
    | some row =>
      match entriesOfRows index entries [row] with
      | .error e => .error e
      | .ok entries => entriesOfItems (index + 1) entries rest

/-- The entries of the mapping that a value makes. -/
def entries : Value → Except Error (List (Value × Value))
  | .map es => .ok es
  | v =>
    if v.isVoid then .ok []
    else match v.items? with
      | none => .error (.notIterable v.fullTypeName)
      | some items => entriesOfItems 0 [] items

theorem entries_map (es : List (Value × Value)) : entries (.map es) = .ok es := rfl

end Value

end FeatureToggles
