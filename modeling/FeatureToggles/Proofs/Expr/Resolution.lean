import FeatureToggles.Proofs.Context.Snapshot
import FeatureToggles.Proofs.Expr.Path
import FeatureToggles.Proofs.Value.Member

/-!
# Where a dotted name leads

A dotted name is a path: its first part is looked up among the attributes of the context, and each further
part among the members of the value that the parts before it lead to.  Such a value may be a mapping, an
evaluation context, or an attribute provider of the caller, which are mixed along a path as they come.  A
path that leads nowhere is reported with its longest part that leads somewhere, and with what is wrong there.

Main statements: `resolveMembers_append` about the walk along a path, `resolve_eq_ok_iff` and
`resolve_eq_error_iff` about what it comes to, and `name_leads` about the texts of paths.
-/

namespace FeatureToggles

namespace Expr

open Value (Member Broken)

/-! ## Walking along a path -/

/-- Whether a path of members leads from one value to another. -/
inductive Follows : Value → List String → Value → Prop where
  | nil {v : Value} : Follows v [] v
  | cons {member : String} {members : List String} {v u w : Value} :
      Member member u v → Follows u members w → Follows v (member :: members) w

/-- Why no step to a member can be taken from a value that `owner` leads to: values of its sort have no
members, it has none of this name, or it is a provider that cannot be listed or an object that cannot be
looked at, whose failure is passed on. -/
inductive Blocks (owner member : String) (v : Value) : EvalError → Prop where
  | noMembers : v.hasMembers = false → Blocks owner member v (.noMembers owner v.kind)
  | unknownMember : v.hasMembers = true → (∀ e, ¬ Broken v e) → (∀ w, ¬ Member member w v) →
      Blocks owner member v (.unknownMember member owner)
  | broken {e : Value.Error} : Broken v e → Blocks owner member v (.value e)

lemma resolveMembers_of_member {owner member : String} {v u : Value} (h : Member member u v)
    (members : List String) :
    resolveMembers owner v (member :: members) =
      resolveMembers (owner ++ "." ++ member) u members := by
  obtain ⟨entries, hentries, hlookup⟩ := Value.member_iff.mp h
  simp [resolveMembers, hentries, hlookup]

lemma resolveMembers_of_blocks {owner member : String} {v : Value} {e : EvalError}
    (h : Blocks owner member v e) (members : List String) :
    resolveMembers owner v (member :: members) = .error e := by
  cases h with
  | noMembers hsort => simp [resolveMembers, Value.members?_eq_none_iff.mpr hsort]
  | broken hbroken => simp [resolveMembers, Value.members?_eq_error_iff.mpr hbroken]
  | unknownMember hsort hbroken hmember =>
      rcases hmembers : v.members? with e | _ | entries
      · exact absurd (Value.members?_eq_error_iff.mp hmembers) (hbroken e)
      · simp [Value.members?_eq_none_iff.mp hmembers] at hsort
      · cases hlookup : Value.lookup entries (.text member) with
        | none => simp [resolveMembers, hmembers, hlookup]
        | some w => exact absurd (Value.member_iff.mpr ⟨entries, hmembers, hlookup⟩) (hmember w)

/-- A step can be taken or not, and if not, then for one of the reasons. -/
lemma exists_member_or_blocks (owner member : String) (v : Value) :
    (∃ u, Member member u v) ∨ ∃ e, Blocks owner member v e := by
  by_cases hmember : ∃ u, Member member u v
  · exact .inl hmember
  · right
    by_cases hbroken : ∃ e, Broken v e
    · obtain ⟨e, he⟩ := hbroken
      exact ⟨_, .broken he⟩
    · cases hsort : v.hasMembers with
      | false => exact ⟨_, .noMembers hsort⟩
      | true => exact ⟨_, .unknownMember hsort (not_exists.mp hbroken) (not_exists.mp hmember)⟩

/-- Either a path leads from a value to another one, or there is a first step on it that cannot be taken. -/
lemma exists_follows_or_blocks (root : String) (path members : List String) (v : Value) :
    (∃ w, Follows v members w) ∨
      ∃ front member back u e, members = front ++ member :: back ∧ Follows v front u ∧
        Blocks (dotted root (path ++ front)) member u e := by
  induction members generalizing path v with
  | nil => exact .inl ⟨v, .nil⟩
  | cons member members ih =>
      rcases exists_member_or_blocks (dotted root path) member v with ⟨u, hu⟩ | ⟨e, he⟩
      · rcases ih (path ++ [member]) u with
          ⟨w, hw⟩ | ⟨front, member', back, u', e, rfl, hfollows, hblocks⟩
        · exact .inl ⟨w, .cons hu hw⟩
        · refine .inr ⟨member :: front, member', back, u', e, rfl, .cons hu hfollows, ?_⟩
          rwa [← List.append_cons] at hblocks
      · exact .inr ⟨[], member, members, v, e, rfl, .nil, by rwa [List.append_nil]⟩

lemma dotted_append_singleton (root member : String) (path : List String) :
    dotted root (path ++ [member]) = dotted root path ++ "." ++ member := by
  rw [dotted, dotted, ← List.cons_append,
    String.intercalate_append_of_ne_nil (by simp) (by simp), String.intercalate_singleton]

/-- A path is walked part by part. -/
theorem resolveMembers_append {v u : Value} {front : List String} (h : Follows v front u)
    (root : String) (path rest : List String) :
    resolveMembers (dotted root path) v (front ++ rest) =
      resolveMembers (dotted root (path ++ front)) u rest := by
  induction h generalizing path with
  | nil => rw [List.nil_append, List.append_nil]
  | @cons member members v u w hmember _ ih =>
      calc resolveMembers (dotted root path) v (member :: members ++ rest)
          = resolveMembers (dotted root path ++ "." ++ member) u (members ++ rest) :=
            resolveMembers_of_member hmember _
        _ = resolveMembers (dotted root (path ++ [member])) u (members ++ rest) := by
            rw [dotted_append_singleton]
        _ = resolveMembers (dotted root (path ++ [member] ++ members)) w rest := ih _
        _ = resolveMembers (dotted root (path ++ member :: members)) w rest := by
            rw [← List.append_cons]

/-- Where a path leads, its beginnings lead as well. -/
lemma Follows.take {v u : Value} {members : List String} (h : Follows v members u) (j : Nat) :
    ∃ w, Follows v (members.take j) w := by
  induction h generalizing j with
  | nil => exact ⟨_, by rw [List.take_nil]; exact .nil⟩
  | @cons member members v u w hmember _ ih =>
      cases j with
      | zero => exact ⟨v, .nil⟩
      | succ j =>
          obtain ⟨w', hw'⟩ := ih j
          exact ⟨w', .cons hmember hw'⟩

/-! ## From the context on -/

/-- Whether a context that may be absent lists some attributes. -/
inductive Declares : Option Context → List (String × Value) → Prop where
  | absent : Declares none []
  | present {c : Context} {attributes : List (String × Value)} :
      c.Lists attributes → Declares (some c) attributes

lemma attributesOf_eq_ok_iff {context : Option Context} {attributes : List (String × Value)} :
    Context.attributesOf context = .ok attributes ↔ Declares context attributes := by
  cases context with
  | none =>
      constructor
      · intro h
        obtain rfl : [] = attributes := Except.ok.inj h
        exact .absent
      · rintro ⟨⟩
        rfl
  | some c =>
      rw [Context.attributesOf, Context.attributes_eq_ok_iff]
      exact ⟨.present, fun h => by cases h; assumption⟩

/-- Whether a dotted name leads to a value in a context: the last attribute with the name of the root has a
value from which the members lead there. -/
def Leads (context : Option Context) (root : String) (members : List String) (w : Value) : Prop :=
  ∃ attributes v, Declares context attributes ∧ IsLast attributes root v ∧ Follows v members w

/-- Why a dotted name leads nowhere, already if it is cut off behind the first `k` members: there is no
attribute with the name of the root, or what is in front of the last of these members leads to a value from
which no step to it can be taken. -/
inductive Strays (context : Option Context) (root : String) (members : List String) :
    Nat → EvalError → Prop where
  | root : (∀ w, ¬ Leads context root [] w) → Strays context root members 0 (.unknownAttribute root)
  | member {front back : List String} {member : String} {u : Value} {e : EvalError} :
      members = front ++ member :: back → Leads context root front u →
      Blocks (dotted root front) member u e → Strays context root members (front.length + 1) e

section

variable {context : Option Context} {attributes : List (String × Value)} {root : String}
  {members : List String} {w : Value} {k : Nat} {e : EvalError}

lemma lookup_eq_some_iff : Scope.lookup attributes root = some w ↔ IsLast attributes root w :=
  find?_reverse_eq_some_iff

lemma Declares.unique {attributes' : List (String × Value)} (h : Declares context attributes)
    (h' : Declares context attributes') : attributes = attributes' := by
  rw [← attributesOf_eq_ok_iff] at h h'
  exact Except.ok.inj (h.symm.trans h')

/-- In front of what is left of a path there is the value that it leads to up to there. -/
lemma resolve_append_of_leads (hdeclares : Declares context attributes)
    (h : Leads context root members w) (rest : List String) :
    resolve attributes root (members ++ rest) = resolveMembers (dotted root members) w rest := by
  obtain ⟨attributes', v, hdeclares', hroot, hfollows⟩ := h
  obtain rfl := hdeclares.unique hdeclares'
  have hdotted : root = dotted root [] := by rw [dotted, String.intercalate_singleton]
  calc resolve attributes root (members ++ rest)
      = resolveMembers root v (members ++ rest) := by rw [resolve, lookup_eq_some_iff.mpr hroot]
    _ = resolveMembers (dotted root []) v (members ++ rest) := by rw [← hdotted]
    _ = resolveMembers (dotted root members) w rest := resolveMembers_append hfollows root [] rest

lemma resolve_of_leads (hdeclares : Declares context attributes)
    (h : Leads context root members w) : resolve attributes root members = .ok w := by
  simpa [resolveMembers] using resolve_append_of_leads hdeclares h []

lemma resolve_of_strays (hdeclares : Declares context attributes)
    (h : Strays context root members k e) : resolve attributes root members = .error e := by
  cases h with
  | root hroot =>
      have hnone : Scope.lookup attributes root = none := by
        rw [Option.eq_none_iff_forall_ne_some]
        intro v hv
        exact hroot v ⟨attributes, v, hdeclares, lookup_eq_some_iff.mp hv, .nil⟩
      exact resolve_of_lookup_none members hnone
  | member hmembers hleads hblocks =>
      rw [hmembers, resolve_append_of_leads hdeclares hleads, resolveMembers_of_blocks hblocks]

lemma exists_leads_or_strays (hdeclares : Declares context attributes) (root : String)
    (members : List String) :
    (∃ w, Leads context root members w) ∨ ∃ k e, Strays context root members k e := by
  by_cases hroot : ∃ v, IsLast attributes root v
  · obtain ⟨v, hv⟩ := hroot
    obtain ⟨w, hw⟩ | ⟨front, member, back, u, e, hmembers, hfollows, hblocks⟩ :=
      exists_follows_or_blocks root [] members v
    · exact .inl ⟨w, attributes, v, hdeclares, hv, hw⟩
    · exact .inr ⟨_, e, .member hmembers ⟨attributes, v, hdeclares, hv, hfollows⟩ hblocks⟩
  · refine .inr ⟨0, _, .root ?_⟩
    rintro w ⟨attributes', v, hdeclares', hv, -⟩
    obtain rfl := hdeclares.unique hdeclares'
    exact hroot ⟨v, hv⟩

lemma Leads.take (h : Leads context root members w) (j : Nat) :
    ∃ u, Leads context root (members.take j) u := by
  obtain ⟨attributes, v, hdeclares, hroot, hfollows⟩ := h
  obtain ⟨u, hu⟩ := hfollows.take j
  exact ⟨u, attributes, v, hdeclares, hroot, hu⟩

/-- The beginning at which a name goes astray is the shortest one that leads nowhere. -/
lemma Strays.shortest (h : Strays context root members k e) :
    (∀ j < k, ∃ w, Leads context root (members.take j) w) ∧
      ∀ w, ¬ Leads context root (members.take k) w := by
  cases h with
  | root hroot => exact ⟨fun j hj => absurd hj (Nat.not_lt_zero j), hroot⟩
  | @member front back member u e hmembers hleads hblocks =>
      constructor
      · intro j hj
        have hfront : members.take j = front.take j := by
          rw [hmembers, List.take_append_of_le_length (by omega)]
        rw [hfront]
        exact hleads.take j
      · intro w hw
        have hlast : members.take (front.length + 1) = front ++ [member] := by
          rw [hmembers, List.take_length_add_append, List.take_succ_cons, List.take_zero]
        rw [hlast] at hw
        -- the name cut off there would have both a value and an error
        have ⟨attributes, _, hdeclares, _⟩ := hleads
        have hstrays : Strays context root (front ++ [member]) (front.length + 1) e :=
          .member rfl hleads hblocks
        have hok := resolve_of_leads hdeclares hw
        simp [resolve_of_strays hdeclares hstrays] at hok

theorem resolve_eq_ok_iff (hdeclares : Declares context attributes) :
    resolve attributes root members = .ok w ↔ Leads context root members w := by
  refine ⟨fun h => ?_, resolve_of_leads hdeclares⟩
  rcases exists_leads_or_strays hdeclares root members with ⟨v, hv⟩ | ⟨k, e, hstrays⟩
  · obtain rfl : v = w := Except.ok.inj ((resolve_of_leads hdeclares hv).symm.trans h)
    exact hv
  · simp [resolve_of_strays hdeclares hstrays] at h

theorem resolve_eq_error_iff (hdeclares : Declares context attributes) :
    resolve attributes root members = .error e ↔ ∃ k, Strays context root members k e := by
  constructor
  · intro h
    rcases exists_leads_or_strays hdeclares root members with ⟨v, hv⟩ | ⟨k, e', hstrays⟩
    · simp [resolve_of_leads hdeclares hv] at h
    · obtain rfl : e' = e := Except.error.inj ((resolve_of_strays hdeclares hstrays).symm.trans h)
      exact ⟨k, hstrays⟩
  · rintro ⟨k, hstrays⟩
    exact resolve_of_strays hdeclares hstrays

end

/-! ## Paths -/

/-- A path is read as the name with its parts, whatever white space stands around its dots.  In the
attributes of a context this name has the value that it leads to: the members of the last attribute with the
name of its root are followed one after the other.  If it leads nowhere, then its shortest beginning that
leads nowhere is found, and the error says whether there is no such root, what is in front of the last part
of this beginning has no members, or it does not have this one.  (A provider that breaks off while it lists
its pairs has none to look in, and neither has an object that cannot be looked at; there its own failure is
passed on.)  The path that stands in the error is
written as no other path is. -/
theorem name_leads {root text : String} {members : List String}
    (hparts : ∀ part ∈ root :: members, IsPart part) (htext : IsPath root members text) :
    parse text = .ok (.name root members) ∧
      (∀ context attributes, Context.attributesOf context = .ok attributes →
        (∀ w, evaluate attributes (.name root members) = .ok w ↔ Leads context root members w) ∧
          ∀ e, evaluate attributes (.name root members) = .error e ↔
            ∃ k, Strays context root members k e ∧
              (∀ j < k, ∃ w, Leads context root (members.take j) w) ∧
              ∀ w, ¬ Leads context root (members.take k) w) ∧
      ∀ root' members', (∀ part ∈ root' :: members', IsPart part) →
        dotted root members = dotted root' members' → root = root' ∧ members = members' := by
  refine ⟨parse_path hparts htext, ?_, fun _ _ hparts' h => dotted_inj hparts hparts' h⟩
  intro context attributes hattributes
  have hdeclares := attributesOf_eq_ok_iff.mp hattributes
  refine ⟨fun w => resolve_eq_ok_iff hdeclares, fun e => ?_⟩
  rw [evaluate, resolve_eq_error_iff hdeclares]
  constructor
  · rintro ⟨k, hstrays⟩
    exact ⟨k, hstrays, hstrays.shortest⟩
  · rintro ⟨k, hstrays, -⟩
    exact ⟨k, hstrays⟩

/-- A provider of the caller that lists two attributes with the same name: one by the text and one by null. -/
def placesProvider : Context :=
  .provider ⟨"Places", 0, .ok "Places"⟩
    [[.text "None", .text "nowhere"], [.null, .map [(.text "city", .text "Oslo")]]] none

/-- Of two attributes with the name of the root the last one counts. -/
theorem name_leads_last_attribute :
    parse "None .\tcity" = .ok (.name "None" ["city"]) ∧
      ∃ attributes, Context.attributesOf (some placesProvider) = .ok attributes ∧
        evaluate attributes (.name "None" ["city"]) = .ok (.text "Oslo") := by
  have hparts : ∀ part ∈ ["None", "city"], IsPart part := by
    intro part hpart
    simp only [List.mem_cons, List.not_mem_nil, or_false] at hpart
    rcases hpart with rfl | rfl
    · exact ⟨⟨'N', ['o', 'n', 'e'], rfl, rfl, List.all_eq_true.mp rfl⟩, by decide⟩
    · exact ⟨⟨'c', ['i', 't', 'y'], rfl, rfl, List.all_eq_true.mp rfl⟩, by decide⟩
  have htext : IsPath "None" ["city"] "None .\tcity" :=
    ⟨[' '] ++ '.' :: (['\t'] ++ ("city".toList ++ [])), by decide,
      .cons (by decide) (by decide) .nil⟩
  obtain ⟨hparse, hleads, -⟩ := name_leads hparts htext
  have hattributes : Context.attributesOf (some placesProvider) =
      .ok ([("None", .text "nowhere")] ++ [("None", .map [(.text "city", .text "Oslo")])]) := rfl
  have hmember : Value.Member "city" (.text "Oslo") (.map [(.text "city", .text "Oslo")]) :=
    .map ⟨[], [], rfl, by simp⟩
  refine ⟨hparse, _, hattributes, ((hleads _ _ hattributes).1 _).mpr ?_⟩
  exact ⟨_, _, attributesOf_eq_ok_iff.mp hattributes, isLast_append_singleton.mpr (.inl rfl),
    .cons hmember .nil⟩

end Expr

end FeatureToggles
