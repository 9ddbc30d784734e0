import FeatureToggles.Fault.Graph
import FeatureToggles.Proofs.Fault.Asking
import Mathlib.Data.Set.Card
import Mathlib.Data.List.Nodup

/-!
# Which errors a chain visits

In a graph of errors each error leads to at most one other, its cause or else its context, so from
each error there is one path, which ends or runs into itself.  The chain of an error visits the errors
on this path, each of them once, in the order of the path.  Their labels are told up to the first error
without a text, which is raised about instead.  The graph of a fault has no way back, and there the chain is
that of the fault.

Main statements: `chain_follows_path`, and `chain_ofFault` for graphs of faults.
-/

namespace FeatureToggles

namespace FaultGraph

/-! ## Paths -/

/-- The error to which an error leads. -/
def next? (g : FaultGraph) (i : Nat) : Option Nat :=
  (g.nodes[i]?.bind FaultNode.next?).filter (· < g.nodes.length)

/-- The error that is reached from an error by following links so many times. -/
def path (g : FaultGraph) (i : Nat) : Nat → Option Nat
  | 0 => some i
  | k + 1 => (g.path i k).bind g.next?

/-- Whether errors are those of the path from an error on, as far as it visits no error twice. -/
structure Follows (g : FaultGraph) (i : Nat) (js : List Nat) : Prop where
  nodup : js.Nodup
  path_eq : ∀ k j, js[k]? = some j → g.path i k = some j
  stops : ∀ j, g.path i js.length = some j → j ∈ js

lemma next?_lt {g : FaultGraph} {i j : Nat} (h : g.next? i = some j) : j < g.nodes.length := by
  simpa using (Option.filter_eq_some_iff.mp h).2

/-- A path goes on from the second error as it does from there. -/
lemma path_succ_of_next? {g : FaultGraph} {i j : Nat} (h : g.next? i = some j) (k : Nat) :
    g.path i (k + 1) = g.path j k := by
  induction k with
  | zero => simp [path, h]
  | succ k ih => rw [path, ih, path]

namespace Follows

variable {g : FaultGraph} {i : Nat} {js : List Nat}

/-- The path visits these errors and no other. -/
theorem mem_iff (h : g.Follows i js) {j : Nat} : j ∈ js ↔ ∃ k, g.path i k = some j := by
  constructor
  · intro hj
    obtain ⟨k, hk⟩ := List.mem_iff_getElem?.mp hj
    exact ⟨k, h.path_eq k j hk⟩
  · -- one step from an error of the list leads to the next one of the list, or to where it stops
    have hreach : ∀ k j, g.path i k = some j → k ≤ js.length → j ∈ js := by
      intro k j hj hk
      rcases Nat.lt_or_eq_of_le hk with hlt | rfl
      · have hget := List.getElem?_eq_getElem hlt
        rw [h.path_eq k _ hget, Option.some.injEq] at hj
        exact hj ▸ List.getElem_mem hlt
      · exact h.stops j hj
    rintro ⟨k, hk⟩
    induction k generalizing j with
    | zero => exact hreach 0 j hk (Nat.zero_le _)
    | succ k ih =>
        obtain ⟨l, hl, hnext⟩ := Option.bind_eq_some_iff.mp hk
        obtain ⟨m, hm⟩ := List.mem_iff_getElem?.mp (ih hl)
        have hstep : g.path i (m + 1) = some j := by rw [path, h.path_eq m l hm]; exact hnext
        exact hreach (m + 1) j hstep (List.getElem?_eq_some_iff.mp hm).1

/-- The first of them is the error itself. -/
theorem head?_eq (h : g.Follows i js) : js.head? = some i := by
  cases js with
  | nil => exact absurd (h.stops i rfl) List.not_mem_nil
  | cons j js => exact (h.path_eq 0 j rfl).symm

/-- There are as many of them as errors on the path. -/
theorem length_eq (h : g.Follows i js) : js.length = {j | ∃ k, g.path i k = some j}.ncard := by
  have hset : {j | ∃ k, g.path i k = some j} = (js.toFinset : Set Nat) := by
    ext j
    simp [← h.mem_iff]
  rw [hset, Set.ncard_coe_finset, List.toFinset_card_of_nodup h.nodup]

/-- There is only one such list. -/
theorem unique {js' : List Nat} (h : g.Follows i js) (h' : g.Follows i js') : js = js' := by
  have hlength : js.length = js'.length := h.length_eq.trans h'.length_eq.symm
  refine List.ext_getElem hlength fun k hk hk' => ?_
  have hpath := h.path_eq k _ (List.getElem?_eq_getElem hk)
  exact Option.some.inj (hpath.symm.trans (h'.path_eq k _ (List.getElem?_eq_getElem hk')))

end Follows

/-! ## Chains -/

/-- Whether errors are those of the path from an error on, until it ends, visits an error again, or
leads to one that was met before. -/
structure Trail (g : FaultGraph) (unmet : List Nat) (i : Nat) (js : List Nat) : Prop where
  nodup : js.Nodup
  mem_unmet : ∀ j ∈ js, j ∈ unmet
  path_eq : ∀ k j, js[k]? = some j → g.path i k = some j
  stops : ∀ j, g.path i js.length = some j → j ∈ unmet → j ∈ js

namespace Trail

variable {g : FaultGraph} {unmet : List Nat} {i : Nat}

/-- An error that was met before is not visited. -/
lemma of_not_mem (hi : i ∉ unmet) : g.Trail unmet i [] where
  nodup := .nil
  mem_unmet := by simp
  path_eq := by simp
  stops := by simp [path, hi]

/-- An error that leads to no other is visited alone. -/
lemma of_next?_eq_none (hi : i ∈ unmet) (hnext : g.next? i = none) : g.Trail unmet i [i] where
  nodup := List.nodup_singleton i
  mem_unmet := by simpa using hi
  path_eq := by simp [List.getElem?_singleton, path]
  stops := by simp [path, hnext]

/-- An error is visited before those that are visited from the error to which it leads. -/
lemma cons {j : Nat} {js : List Nat} (hi : i ∈ unmet) (hunmet : unmet.Nodup)
    (hnext : g.next? i = some j) (h : g.Trail (unmet.erase i) j js) : g.Trail unmet i (i :: js) where
  nodup := by
    refine List.nodup_cons.mpr ⟨fun hmem => ?_, h.nodup⟩
    exact hunmet.not_mem_erase (h.mem_unmet i hmem)
  mem_unmet := by
    intro l hl
    rcases List.mem_cons.mp hl with rfl | hl
    · exact hi
    · exact List.mem_of_mem_erase (h.mem_unmet l hl)
  path_eq := by
    intro k l hl
    cases k with
    | zero => simpa [path] using hl
    | succ k => rw [path_succ_of_next? hnext]; exact h.path_eq k l hl
  stops := by
    intro l hl hmem
    rw [List.length_cons, path_succ_of_next? hnext] at hl
    by_cases heq : l = i
    · exact heq ▸ List.mem_cons_self
    · exact List.mem_cons_of_mem i (h.stops l hl ((List.mem_erase_of_ne heq).mpr hmem))

end Trail

/-- A chain through unmet errors visits the errors of a trail. -/
lemma exists_trail (g : FaultGraph) {unmet : List Nat} (i : Nat) (hunmet : unmet.Nodup)
    (hlt : ∀ j ∈ unmet, j < g.nodes.length) :
    ∃ js, g.Trail unmet i js ∧
      List.Forall₂ (fun j f => ∃ n, g.nodes[j]? = some n ∧ n.failure = f) js
        (g.chainWithin unmet i) := by
  fun_induction chainWithin g unmet i with
  | case1 unmet i hi hn => simp [hlt i hi] at hn
  | case2 unmet i hi n hn hnext =>
      exact ⟨[i], .of_next?_eq_none hi (by simp [next?, hn, hnext]), .cons ⟨n, hn, rfl⟩ .nil⟩
  | case3 unmet i hi n hn j hnext _ ih =>
      by_cases hj : j < g.nodes.length
      · obtain ⟨js, hjs, htells⟩ := ih (hunmet.erase i) fun l hl => hlt l (List.mem_of_mem_erase hl)
        have hnext' : g.next? i = some j := by simp [next?, hn, hnext, hj]
        exact ⟨i :: js, hjs.cons hi hunmet hnext', .cons ⟨n, hn, rfl⟩ htells⟩
      · -- a link to nowhere: the chain ends here, as it does at an error without links
        have hend : g.chainWithin (unmet.erase i) j = [] := by
          rw [chainWithin, dif_neg fun hmem => hj (hlt j (List.mem_of_mem_erase hmem))]
        rw [hend]
        have hnext' : g.next? i = none := by simpa [next?, hn, hnext] using hj
        exact ⟨[i], .of_next?_eq_none hi hnext', .cons ⟨n, hn, rfl⟩ .nil⟩
  | case4 unmet i hi => exact ⟨[], .of_not_mem hi, .nil⟩

/-- A trail from an error of the graph of which nothing was met follows the whole path. -/
lemma Trail.follows {g : FaultGraph} {i : Nat} {js : List Nat} (hi : i < g.nodes.length)
    (h : g.Trail (List.range g.nodes.length) i js) : g.Follows i js where
  nodup := h.nodup
  path_eq := h.path_eq
  stops := by
    intro j hj
    refine h.stops j hj (List.mem_range.mpr ?_)
    cases hlength : js.length with
    | zero =>
        rw [hlength, path, Option.some.injEq] at hj
        exact hj ▸ hi
    | succ k =>
        rw [hlength] at hj
        obtain ⟨l, -, hnext⟩ := Option.bind_eq_some_iff.mp hj
        exact next?_lt hnext

/-- Whether an entry of a chain is that of an error of the graph: it is the text of the error, or the name of
its class if the text is empty. -/
def IsEntry (g : FaultGraph) (j : Nat) (entry : String) : Prop :=
  ∃ n text, g.nodes[j]? = some n ∧ n.failure.text = .ok text ∧
    entry = if text = "" then n.failure.className else text

/-- Whether asking for the entry of an error of the graph raises another error. -/
def IsMute (g : FaultGraph) (j : Nat) (raised : Failure) : Prop :=
  ∃ n, g.nodes[j]? = some n ∧ n.failure.text = .error raised

lemma label_eq_ok_iff {f : Failure} {entry : String} : f.label = .ok entry ↔
    ∃ text, f.text = .ok text ∧ entry = if text = "" then f.className else text := by
  unfold Failure.label
  cases f.text with
  | error raised => simp [Except.map]
  | ok text =>
      simp only [Except.map, String.isEmpty_iff, Except.ok.injEq, exists_eq_left']
      exact eq_comm

lemma label_eq_error_iff {f raised : Failure} : f.label = .error raised ↔ f.text = .error raised := by
  refine ⟨Fault.text_of_label_error, fun h => ?_⟩
  rw [Failure.label, h, Except.map]

lemma isEntry_iff {g : FaultGraph} {j : Nat} {n : FaultNode} (hn : g.nodes[j]? = some n)
    {entry : String} : g.IsEntry j entry ↔ n.failure.label = .ok entry := by
  simp [IsEntry, hn, label_eq_ok_iff]

section

variable {g : FaultGraph} {js : List Nat} {fs : List Failure}
  (h : List.Forall₂ (fun j f => ∃ n, g.nodes[j]? = some n ∧ n.failure = f) js fs)

include h

/-- All entries are told if each error has one. -/
lemma mapM_label_eq_ok_iff {entries : List String} :
    fs.mapM Failure.label = .ok entries ↔ List.Forall₂ g.IsEntry js entries := by
  induction h generalizing entries with
  | nil => simp [pure, Except.pure, eq_comm]
  | @cons j f js fs hfirst _ ih =>
      obtain ⟨n, hn, rfl⟩ := hfirst
      rw [List.mapM_cons]
      cases entries with
      | nil => cases n.failure.label <;> cases fs.mapM Failure.label <;>
          simp [bind, Except.bind, pure, Except.pure]
      | cons entry entries =>
          rw [List.forall₂_cons, isEntry_iff hn, ← ih]
          cases n.failure.label <;> cases fs.mapM Failure.label <;>
            simp [bind, Except.bind, pure, Except.pure]

/-- Where some error has no entry, the first such error is the one that is raised about. -/
lemma mapM_label_eq_error_iff {raised : Failure} :
    fs.mapM Failure.label = .error raised ↔ ∃ before j after entries, js = before ++ j :: after ∧
      List.Forall₂ g.IsEntry before entries ∧ g.IsMute j raised := by
  induction h with
  | nil => simp [pure, Except.pure]
  | @cons j f js fs hfirst _ ih =>
      obtain ⟨n, hn, rfl⟩ := hfirst
      rw [List.mapM_cons]
      constructor
      · intro hraised
        cases hlabel : n.failure.label with
        | error e =>
            obtain rfl : e = raised := by simpa [hlabel, bind, Except.bind] using hraised
            exact ⟨[], j, js, [], rfl, .nil, n, hn, label_eq_error_iff.mp hlabel⟩
        | ok label =>
            have hrest : fs.mapM Failure.label = .error raised := by
              cases hrest : fs.mapM Failure.label <;>
                simp_all [bind, Except.bind, pure, Except.pure]
            obtain ⟨before, j', after, entries, rfl, hentries, hmute⟩ := ih.mp hrest
            exact ⟨j :: before, j', after, label :: entries, rfl,
              .cons ((isEntry_iff hn).mpr hlabel) hentries, hmute⟩
      · rintro ⟨before, j', after, entries, hjs, hentries, hmute⟩
        cases before with
        | nil =>
            obtain ⟨rfl, rfl⟩ := List.cons.inj hjs
            obtain ⟨n', hn', htext⟩ := hmute
            obtain rfl := Option.some.inj (hn.symm.trans hn')
            rw [label_eq_error_iff.mpr htext]
            rfl
        | cons l before =>
            obtain ⟨rfl, hrest'⟩ := List.cons.inj hjs
            cases hentries with
            | cons hentry hrest =>
                rw [(isEntry_iff hn).mp hentry, ih.mpr ⟨before, j', after, _, hrest', hrest, hmute⟩]
                rfl

end

/-- The chain of an error tells of the errors on the path that follows the cause where there is one
and the context otherwise, of each once and in the order of the path, from the error itself to the end
of the links or to the last error before one that was visited already.  So it is as long as there are
errors on the path.  The entries are told unless some error on the path has no text; the first such error is
asked for it, and raises another one. -/
theorem chain_follows_path (g : FaultGraph) (i : Fin g.nodes.length) :
    (∃ js, g.Follows i js ∧ js.head? = some i.val ∧
      (∀ entries, (g.chain i).mapM Failure.label = .ok entries ↔
        List.Forall₂ g.IsEntry js entries) ∧
      ∀ raised, (g.chain i).mapM Failure.label = .error raised ↔
        ∃ before j after entries, js = before ++ j :: after ∧
          List.Forall₂ g.IsEntry before entries ∧ g.IsMute j raised) ∧
      (g.chain i).length = {j | ∃ k, g.path i k = some j}.ncard := by
  obtain ⟨js, htrail, hvisits⟩ :=
    exists_trail g i List.nodup_range fun j hj => List.mem_range.mp hj
  have hfollows := htrail.follows i.isLt
  refine ⟨⟨js, hfollows, hfollows.head?_eq, fun entries => mapM_label_eq_ok_iff hvisits,
    fun raised => mapM_label_eq_error_iff hvisits⟩, ?_⟩
  rw [← hfollows.length_eq]
  exact hvisits.length_eq.symm

/-- Four errors of which the first leads into a cycle of two others. -/
example (a b c d : Failure) :
    (FaultGraph.mk [⟨a, some 2, some 1⟩, ⟨b, none, none⟩, ⟨c, none, some 3⟩, ⟨d, some 2, none⟩]).chain
      0 = [a, c, d] := by
  cbv

/-! ## The graph of a fault -/

/-- Whether nodes stand in a graph from some number on, and are all unmet. -/
def Holds (g : FaultGraph) (unmet : List Nat) (first : Nat) (ns : List FaultNode) : Prop :=
  ∀ k n, ns[k]? = some n → g.nodes[first + k]? = some n ∧ first + k ∈ unmet

/-- What follows the first node still stands in the graph when that is met. -/
lemma Holds.tail {g : FaultGraph} {unmet : List Nat} {first : Nat} {n : FaultNode}
    {ns : List FaultNode} (h : g.Holds unmet first (n :: ns)) :
    g.Holds (unmet.erase first) (first + 1) ns := by
  intro k m hm
  obtain ⟨hget, hmem⟩ := h (k + 1) m hm
  have hplace : first + 1 + k = first + (k + 1) := by omega
  rw [hplace]
  exact ⟨hget, (List.mem_erase_of_ne (by omega)).mpr hmem⟩

/-- The chain from an unmet error with a link goes on along the link. -/
lemma chainWithin_of_next? {g : FaultGraph} {unmet : List Nat} {i j : Nat} {n : FaultNode}
    (hi : i ∈ unmet) (hn : g.nodes[i]? = some n) (hnext : n.next? = some j) :
    g.chainWithin unmet i = n.failure :: g.chainWithin (unmet.erase i) j := by
  rw [chainWithin]
  simp [hi, hn, hnext]

/-- Where a fault stands in a graph, the chain is that of the fault. -/
lemma chainWithin_of_holds {g : FaultGraph} {unmet : List Nat} {first : Nat} {f : Fault}
    (h : g.Holds unmet first (nodesOf first f)) : g.chainWithin unmet first = f.chain := by
  fun_induction nodesOf first f generalizing unmet with
  | case1 first failure =>
      obtain ⟨hget, hmem⟩ := h 0 _ rfl
      rw [chainWithin]
      simp_all [FaultNode.next?, Fault.chain]
  | case2 first failure cause ih =>
      obtain ⟨hget, hmem⟩ := h 0 _ rfl
      rw [Fault.chain, ← ih h.tail]
      exact chainWithin_of_next? hmem hget rfl
  | case3 first failure context ih =>
      obtain ⟨hget, hmem⟩ := h 0 _ rfl
      rw [Fault.chain, ← ih h.tail]
      exact chainWithin_of_next? hmem hget rfl
  | case4 first failure cause context causes second ih =>
      obtain ⟨hget, hmem⟩ := h 0 _ rfl
      have hcauses : g.Holds (unmet.erase first) (first + 1) causes := by
        intro k n hn
        exact h.tail k n (List.getElem?_append_left (List.getElem?_eq_some_iff.mp hn).1 ▸ hn)
      rw [Fault.chain, ← ih hcauses]
      exact chainWithin_of_next? hmem hget rfl

/-- The chain of a fault is the chain in its graph, from the fault itself on. -/
theorem chain_ofFault (f : Fault) : (ofFault f).chain 0 = f.chain := by
  refine chainWithin_of_holds fun k n hn => ?_
  rw [Nat.zero_add]
  exact ⟨hn, List.mem_range.mpr (List.getElem?_eq_some_iff.mp hn).1⟩

end FaultGraph

end FeatureToggles
