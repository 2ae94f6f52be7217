import Mathlib.Data.Finset.Card
import Mathlib.Data.Finset.Dedup
import Mathlib.Data.Finset.Image
import StaticAccess.Proofs.Graph.Accesses
import StaticAccess.Proofs.Store.Degrees

/-!
# Counts of a graph

The counts of a graph are taken from different parts of it: the size from the degrees of the
locations, the counts by kind from the edges, the sets of a kind from the keys of the arcs, the
count of locations from the vertices, and the counts of classes from the names as they were given.
This module says what each of them counts, and how they fit together. As classes are counted by
their given names and named by their dotted ones, there may be more of them counted than named.

## Main definitions

- `Graph.CountsNames`: a count of given names, beside the set of their dotted forms.

## Main results

- `SortedSet.size_ofList`: the size of a set as a cardinality.
- `Graph.toList_edgeSet_perm`: the sets of a kind hold the listed edges of the kind.
- `Graph.size_edgeSet`: the sets of a kind are as large as the kinds are counted.
- `Graph.order_eq_card`: the vertices are counted by the ends of the edges.
- `Graph.counts_agree`: what is counted, and how the counts fit together.
-/

namespace StaticAccess

namespace SortedSet

variable {α β : Type} [Ranked α]

theorem nodup_toList (s : SortedSet α) : s.toList.Nodup := by
  rw [List.nodup_iff_pairwise_ne]
  refine s.ascending.imp fun {a b} h e => ?_
  simp [e, Ranked.irrefl] at h

/-- A set is as large as there are distinct members of the list that it is made of. -/
theorem size_ofList [DecidableEq α] (l : List α) : (ofList l).size = l.toFinset.card := by
  have hset : (ofList l).toList.toFinset = l.toFinset := by
    ext a
    simp
  rw [size, ← List.toFinset_card_of_nodup (nodup_toList _), hset]

/-- A set of images is as large as there are distinct images. -/
theorem size_ofList_map [DecidableEq α] [DecidableEq β] (f : β → α) (l : List β) :
    (ofList (l.map f)).size = (l.toFinset.image f).card := by
  have himage : (l.map f).toFinset = l.toFinset.image f := by
    ext a
    simp
  rw [size_ofList, himage]

end SortedSet

/-- Every edge is a field read or a method call. -/
theorem countP_kinds (es : List Edge) :
    (es.countP fun e => e.kind = .fieldRead) + (es.countP fun e => e.kind = .methodCall) =
      es.length := by
  have hother (e : Edge) : decide (e.kind = .methodCall) = decide ¬ e.kind = .fieldRead := by
    cases e.kind <;> rfl
  rw [List.length_eq_countP_add_countP fun e : Edge => e.kind = .fieldRead]
  simp [hother]

namespace Graph

variable {g : Graph} {es : List Edge}

/-- Every edge counts twice in the degrees of the locations, also one from a location to itself. -/
theorem Records.degreeSum_eq (h : g.Records es) : g.store.degreeSum = 2 * g.size := by
  refine h.laid.degreeSum_eq fun a ha => ?_
  obtain ⟨e, he, rfl⟩ := List.mem_map.1 ha
  rw [h.keys_eq]
  exact target_mem_locationsOf he

/-- The set of a kind holds the listed edges of the kind, each as often as it is listed: once. -/
theorem toList_edgeSet_perm (hg : Reachable g) (kind : Kind) :
    (g.edgeSet kind).toList.Perm (g.edgesOf kind) := by
  obtain ⟨es, hes⟩ := hg.records
  -- The set loses nothing of the list, as no edge is listed twice.
  have hnodup : (g.edgesOf kind).Nodup := by
    rw [hes.edgesOf_eq]
    exact hes.nodup_toList.filter _
  exact (List.perm_ext_iff_of_nodup (SortedSet.nodup_toList _) hnodup).2 fun e =>
    SortedSet.mem_ofList

/-- The set of a kind is as large as there are listed edges of the kind. -/
theorem size_edgeSet (hg : Reachable g) (kind : Kind) :
    (g.edgeSet kind).size = g.toList.countP fun e => e.kind = kind := by
  obtain ⟨es, hes⟩ := hg.records
  rw [SortedSet.size, (toList_edgeSet_perm hg kind).length_eq, hes.edgesOf_eq,
    List.countP_eq_length_filter]

/-- The locations are the sources and the targets of the edges. -/
theorem order_eq_card (hg : Reachable g) :
    g.store.order =
      (g.toList.toFinset.image Edge.source ∪ g.toList.toFinset.image Edge.target).card := by
  obtain ⟨es, hes⟩ := hg.records
  have hends : (locationsOf es).toFinset =
      g.toList.toFinset.image Edge.source ∪ g.toList.toFinset.image Edge.target := by
    ext u
    simp only [List.mem_toFinset, mem_locationsOf, Finset.mem_union, Finset.mem_image,
      hes.toList_perm.mem_iff]
    constructor
    · rintro ⟨e, he, rfl | rfl⟩
      · exact .inl ⟨e, he, rfl⟩
      · exact .inr ⟨e, he, rfl⟩
    · rintro (⟨e, he, rfl⟩ | ⟨e, he, rfl⟩)
      · exact ⟨e, he, .inl rfl⟩
      · exact ⟨e, he, .inr rfl⟩
  rw [hes.order_eq, ← hends, List.toFinset_card_of_nodup (nodup_locationsOf es)]

/-- A number counts the distinct names that `nameOf` gives to the edges of a graph, as they were
given. Beside it stands the set of their dotted forms: it is not larger, and as large only if no two
of the names have the same dotted form. -/
structure CountsNames (g : Graph) (nameOf : Edge → String) (count : Nat)
    (named : SortedSet String) : Prop where
  count_eq : count = (g.toList.toFinset.image nameOf).card
  size_le : named.size ≤ count
  size_eq_iff : named.size = count ↔ ∀ e ∈ g.toList, ∀ f ∈ g.toList,
    dotted (nameOf e) = dotted (nameOf f) → nameOf e = nameOf f

/-- The size of the set of given names counts them, and the set of the dotted forms stands beside
it. -/
theorem countsNames (g : Graph) (nameOf : Edge → String) :
    g.CountsNames nameOf (SortedSet.ofList (g.toList.map nameOf)).size
      (.ofList (g.toList.map fun e => dotted (nameOf e))) := by
  have hcount : (SortedSet.ofList (g.toList.map nameOf)).size =
      (g.toList.toFinset.image nameOf).card :=
    SortedSet.size_ofList_map nameOf g.toList
  have hnamed : (SortedSet.ofList (g.toList.map fun e => dotted (nameOf e))).size =
      ((g.toList.toFinset.image nameOf).image dotted).card := by
    rw [Finset.image_image]
    exact SortedSet.size_ofList_map (fun e => dotted (nameOf e)) g.toList
  refine ⟨hcount, ?_, ?_⟩
  · rw [hcount, hnamed]
    exact Finset.card_image_le
  · rw [hcount, hnamed, Finset.card_image_iff]
    -- What is left is injectivity on the given names, each of which is the name of an edge.
    constructor
    · intro hinj e he f hf
      exact hinj (by simpa using ⟨e, he, rfl⟩) (by simpa using ⟨f, hf, rfl⟩)
    · intro hinj c hc d hd
      obtain ⟨e, he, rfl⟩ : ∃ e ∈ g.toList, nameOf e = c := by simpa using hc
      obtain ⟨f, hf, rfl⟩ : ∃ e ∈ g.toList, nameOf e = d := by simpa using hd
      exact hinj e he f hf

/-- The counts of a graph agree. The size is half the sum of the degrees of all locations, the
number of listed edges, and the sum of the counts by kind. These are the sizes of the two sets of
edges by kind, which have no edge in common and together hold the listed edges. The count of
locations is the number of distinct sources and targets, and the counts of classes are the numbers
of the distinct names that were given to them; no more classes are named in dotted form, and as many
only if no two of the given names have the same dotted form. -/
theorem counts_agree (hg : Reachable g) :
    g.store.degreeSum = 2 * g.size ∧
      g.toList.length = g.size ∧
      g.statistics.fieldReads + g.statistics.methodCalls = g.size ∧
      (g.edgeSet .fieldRead).size = g.statistics.fieldReads ∧
      (g.edgeSet .methodCall).size = g.statistics.methodCalls ∧
      (∀ e, e ∈ g.edgeSet .fieldRead → e ∉ g.edgeSet .methodCall) ∧
      (∀ e, e ∈ g.edgeSet .fieldRead ∨ e ∈ g.edgeSet .methodCall ↔ e ∈ g.toList) ∧
      g.statistics.nodes =
        (g.toList.toFinset.image Edge.source ∪ g.toList.toFinset.image Edge.target).card ∧
      g.CountsNames Edge.sourceClass g.statistics.sourceClasses g.sourceClasses ∧
      g.CountsNames Edge.targetClass g.statistics.targetClasses g.targetClasses := by
  obtain ⟨es, hes⟩ := hg.records
  refine ⟨hes.degreeSum_eq, g.length_toList, ?_, size_edgeSet hg .fieldRead,
    size_edgeSet hg .methodCall, fun e hread hcall => ?_, fun e => ?_, order_eq_card hg,
    g.countsNames Edge.sourceClass, g.countsNames Edge.targetClass⟩
  · rw [← g.length_toList]
    exact countP_kinds g.toList
  · -- An edge is in the set of its own kind only.
    have hkind : Kind.fieldRead = Kind.methodCall :=
      ((mem_edgeSet_iff hg _ e).1 hread).2.symm.trans ((mem_edgeSet_iff hg _ e).1 hcall).2
    cases hkind
  · rw [mem_edgeSet_iff hg, mem_edgeSet_iff hg, mem_toList_iff hg, ← and_or_left]
    refine and_iff_left ?_
    cases e.kind with
    | fieldRead => exact .inl rfl
    | methodCall => exact .inr rfl

/-- Two edges from a location to itself, one of each kind, and a third one from another spelling of
its class. -/
theorem counts_agree_loops :
    let read : Edge := ⟨.fieldRead, "app/Main", "run", "app/Main", "run"⟩
    let call : Edge := ⟨.methodCall, "app/Main", "run", "app/Main", "run"⟩
    let mixed : Edge := ⟨.fieldRead, "app.Main", "run", "app/Main", "run"⟩
    let g := (Graph.empty true).insertAll [read, call, mixed]
    Reachable g ∧ g.size = 3 ∧ g.store.degreeSum = 6 ∧
      g.statistics.fieldReads + g.statistics.methodCalls = 3 ∧ g.statistics.nodes = 2 ∧
      g.sourceClasses.size < g.statistics.sourceClasses ∧
      g.targetClasses.size = g.statistics.targetClasses := by
  intro read call mixed g
  have hg : Reachable g := (Reachable.empty true).insertAll [read, call, mixed]
  obtain ⟨hdegrees, -, hkinds, -, -, -, -, -, hsources, htargets⟩ := counts_agree hg
  have hsize : g.size = 3 := by decide
  rw [hsize] at hdegrees hkinds
  refine ⟨hg, hsize, hdegrees, hkinds, by decide, lt_of_le_of_ne hsources.size_le fun hsame => ?_,
    htargets.size_eq_iff.2 (by decide)⟩
  have hspelled : read.sourceClass = mixed.sourceClass :=
    hsources.size_eq_iff.1 hsame read (by decide) mixed (by decide) (by decide)
  exact absurd hspelled (by decide)

end Graph

end StaticAccess
