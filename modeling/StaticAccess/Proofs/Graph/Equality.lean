import StaticAccess.Graph.Views
import StaticAccess.Proofs.Graph.Arrangement

/-!
# Equality of graphs

Graphs are compared by the sets of their field reads and of their method calls. The order in
which the edges came does not matter: two reachable graphs are equal just if they contain the
same edges.

## Main results

- `Graph.mem_edgeSet_iff`: the set of a kind holds the contained edges of the kind.
- `Graph.edgeSet_eq_iff`: when the sets of a kind are equal.
- `Graph.equal_iff`: equality is agreement on which edges are contained.
- `Graph.equal_insertAll_of_perm`: equality does not depend on the order of additions.
- `Graph.size_insert`: a new edge makes a graph larger by one.
-/

namespace StaticAccess

namespace Graph

variable {g h : Graph} {es : List Edge}

/-- The edges of a kind are the listed edges of the kind. -/
theorem Records.edgesOf_eq (hg : g.Records es) (kind : Kind) :
    g.edgesOf kind = g.toList.filter fun e => e.kind = kind := by
  rw [edgesOf, toList, List.filter_map]
  congr 1
  apply List.filter_congr
  intro a ha
  -- Every arc carries an edge of its own kind.
  obtain ⟨e, -, rfl⟩ := List.mem_map.1 (hg.laid.mem_arcs.1 ha)
  rfl

theorem mem_toList_iff (hg : Reachable g) (e : Edge) : e ∈ g.toList ↔ g.contains e = true := by
  obtain ⟨es, hes⟩ := hg.records
  rw [hes.toList_perm.mem_iff, hes.contains_iff]

theorem mem_edgesOf_iff (hg : Reachable g) (kind : Kind) (e : Edge) :
    e ∈ g.edgesOf kind ↔ g.contains e = true ∧ e.kind = kind := by
  obtain ⟨es, hes⟩ := hg.records
  rw [hes.edgesOf_eq, List.mem_filter, mem_toList_iff hg, decide_eq_true_eq]

/-- The set of a kind holds the contained edges of the kind. -/
theorem mem_edgeSet_iff (hg : Reachable g) (kind : Kind) (e : Edge) :
    e ∈ g.edgeSet kind ↔ g.contains e = true ∧ e.kind = kind := by
  rw [edgeSet, SortedSet.mem_ofList, mem_edgesOf_iff hg]

/-- The sets of a kind are equal if the graphs contain the same edges of the kind. -/
theorem edgeSet_eq_iff (hg : Reachable g) (hh : Reachable h) (kind : Kind) :
    g.edgeSet kind = h.edgeSet kind ↔ ∀ e : Edge, e.kind = kind → g.contains e = h.contains e := by
  constructor
  · intro hset e he
    have hmem : e ∈ g.edgeSet kind ↔ e ∈ h.edgeSet kind := by rw [hset]
    rw [mem_edgeSet_iff hg, mem_edgeSet_iff hh, and_iff_left he, and_iff_left he] at hmem
    exact Bool.eq_iff_iff.2 hmem
  · intro hsame
    apply SortedSet.ext_mem
    intro e
    rw [mem_edgeSet_iff hg, mem_edgeSet_iff hh]
    exact and_congr_left fun he => by rw [hsame e he]

/-- Two graphs are equal if they contain the same edges. -/
theorem equal_iff (hg : Reachable g) (hh : Reachable h) :
    g.equal h = true ↔ ∀ e, g.contains e = h.contains e := by
  rw [equal, decide_eq_true_eq, edgeSet_eq_iff hg hh, edgeSet_eq_iff hg hh]
  constructor
  · -- An edge is looked for in the set of its own kind.
    rintro ⟨hreads, hcalls⟩ e
    cases hkind : e.kind with
    | fieldRead => exact hreads e hkind
    | methodCall => exact hcalls e hkind
  · intro hcontains
    exact ⟨fun e _ => hcontains e, fun e _ => hcontains e⟩

/-- After additions in a row the added edges are contained, and besides them what was contained
before. -/
theorem contains_insertAll (g : Graph) (es : List Edge) (e : Edge) :
    (g.insertAll es).contains e = (decide (e ∈ es) || g.contains e) := by
  induction es generalizing g with
  | nil => simp
  | cons f es ih =>
    rw [insertAll_cons, ih, contains_insert, Bool.eq_iff_iff]
    simp only [Bool.or_eq_true, decide_eq_true_eq, List.mem_cons]
    tauto

/-- A graph that was empty contains what was added to it. -/
theorem contains_insertAll_empty (announce : Bool) (es : List Edge) (e : Edge) :
    ((Graph.empty announce).insertAll es).contains e = decide (e ∈ es) := by
  have hempty : (Graph.empty announce).contains e = false := rfl
  rw [contains_insertAll, hempty, Bool.or_false]

/-- What is contained stays contained when edges are added. -/
theorem contains_insertAll_of_contains {e : Edge} (he : g.contains e = true) (es : List Edge) :
    (g.insertAll es).contains e = true := by
  rw [contains_insertAll, he, Bool.or_true]

/-- If no added edge of a kind is new, the contained edges of the kind stay the same. -/
theorem contains_insertAll_of_kind {kind : Kind}
    (hknown : ∀ e ∈ es, e.kind = kind → g.contains e = true) {e : Edge} (he : e.kind = kind) :
    (g.insertAll es).contains e = g.contains e := by
  rw [contains_insertAll]
  by_cases hmem : e ∈ es
  · rw [hknown e hmem he, Bool.or_true]
  · rw [decide_eq_false hmem, Bool.false_or]

/-- The order of additions does not matter for equality. -/
theorem equal_insertAll_of_perm (hg : Reachable g) {fs : List Edge} (h : es.Perm fs) :
    (g.insertAll es).equal (g.insertAll fs) = true := by
  apply (equal_iff (hg.insertAll es) (hg.insertAll fs)).2
  intro e
  rw [contains_insertAll, contains_insertAll, decide_eq_decide.2 h.mem_iff]

/-- Equal graphs may list their edges in different orders. -/
example :
    let read : Edge := ⟨.fieldRead, "app.Main", "run", "lib.Store", "value"⟩
    let call : Edge := ⟨.methodCall, "app.Test", "check", "app.Main", "run"⟩
    let g := (Graph.empty false).insertAll [read, call]
    let h := (Graph.empty false).insertAll [call, read]
    g.equal h = true ∧ g.toList ≠ h.toList := by
  decide

/-- A new edge makes a graph larger by one, a known one leaves the size as it is. -/
theorem size_insert (hg : Reachable g) (e : Edge) :
    (g.insert e).size = if g.contains e then g.size else g.size + 1 := by
  obtain ⟨es, hes⟩ := hg.records
  rw [(hes.insert e).size_eq, hes.size_eq]
  by_cases he : e ∈ es
  · rw [if_pos he, if_pos ((hes.contains_iff e).2 he)]
  · rw [if_neg he, if_neg fun hc => he ((hes.contains_iff e).1 hc)]
    exact List.length_append

end Graph

end StaticAccess
