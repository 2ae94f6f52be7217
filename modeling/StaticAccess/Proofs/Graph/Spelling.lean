import Mathlib.Data.Finset.Card
import Mathlib.Data.Finset.Dedup
import Mathlib.Data.Finset.Image
import StaticAccess.Proofs.Graph.Accesses
import StaticAccess.Proofs.Graph.Reports

/-!
# Spelling of class names

A graph keeps the names of classes as they are given, and brings them to dotted form only when it is
asked for a view. Hence it does not matter to the views that name classes whether the names were
given in dotted form in the first place. It matters to everything else: to which edges are the same,
and so to membership, to the counts of edges and locations, and to the counts of classes.

## Main definitions

- `Edge.dottedForm`: an edge with both classes in dotted form.
- `Graph.SameNames`: the views of two graphs that name classes agree.
- `Graph.DottedCopy`: a graph contains the edges of another one in dotted form.

## Main results

- `Graph.DottedCopy.sameNames`: the views that name classes are those of the stored spellings.
- `Graph.DottedCopy.size_le`, `Graph.DottedCopy.size_eq_iff`: how many edges become the same.
-/

namespace StaticAccess

/-- The edge of the same kind and members with both classes in dotted form. -/
def Edge.dottedForm (e : Edge) : Edge :=
  { e with sourceClass := dotted e.sourceClass, targetClass := dotted e.targetClass }

/-- A table of members does not tell the spellings of a class apart. -/
theorem MemberTable.ofEdges_map_dottedForm (es : List Edge) :
    ofEdges (es.map Edge.dottedForm) = ofEdges es := by
  -- A table files an edge under the dotted name of its target class, which is dotted already.
  have hadd (t : MemberTable) (e : Edge) : t.add e.dottedForm = t.add e := by
    rw [add, add]
    exact congrArg (fun c => t.upsert c fun members => (members.getD .empty).insert e.targetMember)
      (dotted_dotted e.targetClass)
  rw [ofEdges, List.foldl_map]
  simp only [hadd]
  rfl

namespace Graph

variable {g k : Graph}

/-- A graph is as large as the set of its edges. -/
theorem card_toList (hg : Reachable g) : g.toList.toFinset.card = g.size := by
  obtain ⟨es, hes⟩ := hg.records
  rw [List.toFinset_card_of_nodup hes.nodup_toList, length_toList]

/-- The views of two graphs that name classes agree. -/
structure SameNames (g k : Graph) : Prop where
  sourceClasses_eq : g.sourceClasses = k.sourceClasses
  targetClasses_eq : g.targetClasses = k.targetClasses
  staticMembers_eq : ∀ kind, g.staticMembers kind = k.staticMembers kind
  accessors_eq : ∀ kind className, g.accessors kind className = k.accessors kind className
  dependencies_eq : ∀ className, g.dependencies className = k.dependencies className

/-- Two reachable graphs of which one contains the edges of the other one in dotted form. -/
structure DottedCopy (k g : Graph) : Prop where
  reachable : Reachable k
  reachable_spelled : Reachable g
  mem_toList_iff : ∀ e, e ∈ k.toList ↔ ∃ f ∈ g.toList, f.dottedForm = e

/-- Edges in dotted form make up a copy in dotted form, in whatever order and however often they are
added. -/
theorem dottedCopy_insertAll (hg : Reachable g) (announce : Bool) {es : List Edge}
    (hes : ∀ e, e ∈ es ↔ e ∈ g.toList) :
    ((Graph.empty announce).insertAll (es.map Edge.dottedForm)).DottedCopy g where
  reachable := (Reachable.empty announce).insertAll _
  reachable_spelled := hg
  mem_toList_iff e := by
    rw [Graph.mem_toList_iff ((Reachable.empty announce).insertAll _), contains_insertAll_empty,
      decide_eq_true_eq, List.mem_map]
    exact exists_congr fun f => and_congr_left fun _ => hes f

namespace DottedCopy

variable (h : k.DottedCopy g)
include h

/-- Classes have the same accesses whether or not the stored names are in dotted form. -/
theorem accesses_iff (kind : Kind) (c d : String) :
    k.Accesses kind c d ↔ g.Accesses kind c d := by
  constructor
  · rintro ⟨e, he, rfl, rfl, rfl⟩
    obtain ⟨f, hf, rfl⟩ := (h.mem_toList_iff e).1 he
    exact ⟨f, hf, rfl, (dotted_dotted _).symm, (dotted_dotted _).symm⟩
  · rintro ⟨f, hf, rfl, rfl, rfl⟩
    exact ⟨f.dottedForm, (h.mem_toList_iff _).2 ⟨f, hf, rfl⟩, rfl, dotted_dotted _, dotted_dotted _⟩

/-- The edges of a kind are those of the kind in dotted form. -/
theorem mem_edgesOf_iff (kind : Kind) (e : Edge) :
    e ∈ k.edgesOf kind ↔ e ∈ (g.edgesOf kind).map Edge.dottedForm := by
  rw [Graph.mem_edgesOf_iff h.reachable, ← Graph.mem_toList_iff h.reachable, h.mem_toList_iff,
    List.mem_map]
  simp only [Graph.mem_edgesOf_iff h.reachable_spelled,
    ← Graph.mem_toList_iff h.reachable_spelled]
  constructor
  · rintro ⟨⟨f, hf, rfl⟩, hkind⟩
    exact ⟨f, ⟨hf, hkind⟩, rfl⟩
  · rintro ⟨f, ⟨hf, hkind⟩, rfl⟩
    exact ⟨⟨f, hf, rfl⟩, hkind⟩

/-- The views that name classes do not tell the spellings of a class apart. -/
theorem sameNames : k.SameNames g where
  sourceClasses_eq := SortedSet.ext_mem fun c => by
    simp only [mem_sourceClasses, h.accesses_iff]
  targetClasses_eq := SortedSet.ext_mem fun c => by
    simp only [mem_targetClasses, h.accesses_iff]
  staticMembers_eq kind := by
    rw [staticMembers_eq, staticMembers_eq, MemberTable.ofEdges_congr (h.mem_edgesOf_iff kind),
      MemberTable.ofEdges_map_dottedForm]
  accessors_eq kind c := SortedSet.ext_mem fun d => by
    simp only [mem_accessors, h.accesses_iff]
  dependencies_eq c := SortedSet.ext_mem fun d => by
    simp only [mem_dependencies, h.accesses_iff]

/-- What is read off the edges is read off the edges in dotted form. -/
theorem ofList_map_toList (f : Edge → String) :
    SortedSet.ofList (k.toList.map f) = .ofList (g.toList.map fun e => f e.dottedForm) := by
  refine SortedSet.ofList_congr fun c => ?_
  simp only [List.mem_map, h.mem_toList_iff]
  constructor
  · rintro ⟨-, ⟨e, he, rfl⟩, hc⟩
    exact ⟨e, he, hc⟩
  · rintro ⟨e, he, hc⟩
    exact ⟨e.dottedForm, ⟨e, he, rfl⟩, hc⟩

/-- If all names are in dotted form, there are as many sources as are named. -/
theorem sourceClasses_statistics : k.statistics.sourceClasses = g.sourceClasses.size :=
  congrArg SortedSet.size (h.ofList_map_toList Edge.sourceClass)

/-- If all names are in dotted form, there are as many targets as are named. -/
theorem targetClasses_statistics : k.statistics.targetClasses = g.targetClasses.size :=
  congrArg SortedSet.size (h.ofList_map_toList Edge.targetClass)

theorem toFinset_toList : k.toList.toFinset = g.toList.toFinset.image Edge.dottedForm := by
  ext e
  simp only [List.mem_toFinset, Finset.mem_image, h.mem_toList_iff]

/-- Edges may become the same in dotted form, but there are not more of them. -/
theorem size_le : k.size ≤ g.size := by
  rw [← card_toList h.reachable, ← card_toList h.reachable_spelled, h.toFinset_toList]
  exact Finset.card_image_le

/-- There are as many edges in dotted form if and only if no two of them become the same. -/
theorem size_eq_iff :
    k.size = g.size ↔
      ∀ e f, g.contains e = true → g.contains f = true → e.dottedForm = f.dottedForm → e = f := by
  rw [← card_toList h.reachable, ← card_toList h.reachable_spelled, h.toFinset_toList,
    Finset.card_image_iff]
  -- What is left is injectivity on the edges, said with sets on one side.
  simp only [← Graph.mem_toList_iff h.reachable_spelled]
  constructor
  · intro hinj e f he hf
    exact hinj (by simpa using he) (by simpa using hf)
  · intro hinj e he f hf
    exact hinj e f (by simpa using he) (by simpa using hf)

end DottedCopy

end Graph

end StaticAccess
