import StaticAccess.Store.OrderedMap

/-!
# Keyed directed multigraphs

Vertices with labels, and arcs between them. Between two vertices there is at most one arc per
key, and an arc carries a value. Vertices are listed in the order in which they were added. Arcs
are grouped by source in the order of the vertices, under one source by target in the order in
which the source first reached it, and between two vertices by key in the order of arrival.

## Main definitions

- `Multigraph`, `Vertex`, `Arc`.
- `Multigraph.addNode`, `Multigraph.connect`: growth.
- `Multigraph.nodes`, `Multigraph.arcs`: the two listings.
- `Multigraph.size`: the number of arcs.
- `Multigraph.degreeSum`: the sum of the degrees of all vertices.
- `Multigraph.copy`: a graph rebuilt from the two listings.

## Main results

- `Multigraph.keys_addNode`, `Multigraph.keys_connect`: what growth does to the vertices.
- `Multigraph.value?_addNode`, `Multigraph.value?_connect`: what growth does to the arcs.
- `Multigraph.mem_arcs_iff`: the listed arcs are those that have a value.
- `Multigraph.length_arcs`: as many arcs are listed as are counted.
-/

namespace StaticAccess

/-- What a multigraph holds of one vertex: its label, and for every vertex it reaches the arcs
to it by their keys. -/
structure Vertex (ν α κ ε : Type) where
  /-- The label of the vertex. -/
  label : α
  /-- The arcs that leave the vertex, by target and key. -/
  out : OrderedMap ν (OrderedMap κ ε)
  deriving DecidableEq

/-- The number of arcs that leave a vertex. -/
def Vertex.degree {ν α κ ε : Type} (w : Vertex ν α κ ε) : Nat :=
  w.out.entries.foldr (fun q n => q.2.size + n) 0

/-- An arc with its ends, its key and its value. -/
structure Arc (ν κ ε : Type) where
  /-- The vertex that the arc leaves. -/
  source : ν
  /-- The vertex that the arc enters. -/
  target : ν
  /-- The key that tells the arc from others with the same ends. -/
  key : κ
  /-- The value that the arc carries. -/
  value : ε
  deriving DecidableEq, Repr

/-- A directed multigraph whose vertices are named by `ν` and labelled by `α`, with arcs told
apart by keys in `κ` and carrying values in `ε`. -/
structure Multigraph (ν α κ ε : Type) where
  /-- The vertices in the order in which they were added. -/
  vertices : OrderedMap ν (Vertex ν α κ ε)
  deriving DecidableEq

namespace Multigraph

variable {ν α κ ε : Type} [DecidableEq ν] [DecidableEq κ]

/-- The graph without vertices. -/
def empty : Multigraph ν α κ ε := ⟨.empty⟩

/-- Add a vertex, or give a known one a new label. -/
def addNode (g : Multigraph ν α κ ε) (u : ν) (a : α) : Multigraph ν α κ ε :=
  ⟨g.vertices.upsert u fun
    | none => ⟨a, .empty⟩
    | some w => { w with label := a }⟩

/-- Draw an arc from a known vertex. An arc with the same ends and key gets the new value. -/
def connect (g : Multigraph ν α κ ε) (u v : ν) (k : κ) (x : ε) : Multigraph ν α κ ε :=
  ⟨g.vertices.modify u fun w =>
    { w with out := w.out.upsert v fun ks => (ks.getD .empty).set k x }⟩

/-- The value of the arc with given ends and key. -/
def value? (g : Multigraph ν α κ ε) (u v : ν) (k : κ) : Option ε :=
  (g.vertices.get? u).bind fun w => (w.out.get? v).bind fun ks => ks.get? k

/-- Whether there is an arc with given ends and key. -/
def hasArc (g : Multigraph ν α κ ε) (u v : ν) (k : κ) : Bool := (g.value? u v k).isSome

/-- The vertices and their labels, oldest first. -/
def nodes (g : Multigraph ν α κ ε) : List (ν × α) :=
  g.vertices.entries.map fun p => (p.1, p.2.label)

/-- The arcs that leave one vertex. -/
def arcsFrom (u : ν) (w : Vertex ν α κ ε) : List (Arc ν κ ε) :=
  w.out.entries.flatMap fun q => q.2.entries.map fun r => ⟨u, q.1, r.1, r.2⟩

/-- All arcs, grouped by source, then by target, then by key. -/
def arcs (g : Multigraph ν α κ ε) : List (Arc ν κ ε) :=
  g.vertices.entries.flatMap fun p => arcsFrom p.1 p.2

/-- The number of vertices. -/
def order (g : Multigraph ν α κ ε) : Nat := g.vertices.size

/-- The number of arcs from one vertex to another. -/
def multiplicity (g : Multigraph ν α κ ε) (u v : ν) : Nat :=
  match (g.vertices.get? u).bind fun w => w.out.get? v with
  | none => 0
  | some ks => ks.size

/-- The number of arcs that leave the vertex of a name. -/
def outDegree (g : Multigraph ν α κ ε) (u : ν) : Nat :=
  match g.vertices.get? u with
  | none => 0
  | some w => w.degree

/-- The number of arcs that enter the vertex of a name. -/
def inDegree (g : Multigraph ν α κ ε) (v : ν) : Nat :=
  g.vertices.keys.foldr (fun u n => g.multiplicity u v + n) 0

/-- The sum of all degrees: of the numbers of arcs that leave a vertex, and of those that enter
it. -/
def degreeSum (g : Multigraph ν α κ ε) : Nat :=
  g.vertices.keys.foldr (fun u n => g.outDegree u + g.inDegree u + n) 0

/-- The number of arcs. Every arc leaves one vertex. -/
def size (g : Multigraph ν α κ ε) : Nat := g.vertices.entries.foldr (fun p n => p.2.degree + n) 0

/-- A graph of its own with the same vertices and arcs, built by adding them in the order of the
listings. -/
def copy (g : Multigraph ν α κ ε) : Multigraph ν α κ ε :=
  g.arcs.foldl (fun h a => h.connect a.source a.target a.key a.value)
    (g.nodes.foldl (fun h p => h.addNode p.1 p.2) empty)

omit [DecidableEq κ] in
/-- A new vertex comes last, a known one keeps its place. -/
theorem keys_addNode (g : Multigraph ν α κ ε) (u : ν) (a : α) :
    (g.addNode u a).vertices.keys =
      if u ∈ g.vertices.keys then g.vertices.keys else g.vertices.keys ++ [u] :=
  OrderedMap.keys_upsert _ _ _

/-- An arc changes no vertex. -/
@[simp]
theorem keys_connect (g : Multigraph ν α κ ε) (u v : ν) (k : κ) (x : ε) :
    (g.connect u v k x).vertices.keys = g.vertices.keys :=
  OrderedMap.keys_modify _ _ _

/-- A vertex brings no arc with it. -/
@[simp]
theorem value?_addNode (g : Multigraph ν α κ ε) (u : ν) (a : α) (s t : ν) (k : κ) :
    (g.addNode u a).value? s t k = g.value? s t k := by
  simp only [value?, addNode, OrderedMap.get?_upsert]
  split
  · next h =>
    subst h
    cases g.vertices.get? s <;> simp
  · rfl

/-- An arc from a known vertex changes the value at its own place only. -/
theorem value?_connect {g : Multigraph ν α κ ε} {u : ν} (hu : u ∈ g.vertices.keys) (v : ν) (k : κ)
    (x : ε) (s t : ν) (l : κ) :
    (g.connect u v k x).value? s t l =
      if s = u ∧ t = v ∧ l = k then some x else g.value? s t l := by
  obtain ⟨w, hw⟩ := Option.isSome_iff_exists.1 (OrderedMap.mem_keys_iff.1 hu)
  simp only [value?, connect, OrderedMap.get?_modify]
  by_cases hs : s = u
  · subst hs
    by_cases ht : t = v
    · subst ht
      by_cases hl : l = k
      · simp [hw, hl, OrderedMap.get?_upsert, OrderedMap.get?_set]
      · cases hq : w.out.get? t <;>
          simp [hw, hl, hq, OrderedMap.get?_upsert, OrderedMap.get?_set]
    · simp [hw, ht, OrderedMap.get?_upsert]
  · simp [hs]

/-- The listed arcs are those that have a value. -/
theorem mem_arcs_iff {g : Multigraph ν α κ ε} {a : Arc ν κ ε} :
    a ∈ g.arcs ↔ g.value? a.source a.target a.key = some a.value := by
  simp only [arcs, arcsFrom, List.mem_flatMap, List.mem_map, value?, Option.bind_eq_some_iff]
  constructor
  · rintro ⟨p, hp, q, hq, r, hr, rfl⟩
    exact ⟨p.2, OrderedMap.mem_entries_iff.1 hp, q.2, OrderedMap.mem_entries_iff.1 hq,
      OrderedMap.mem_entries_iff.1 hr⟩
  · rintro ⟨w, hw, ks, hks, hx⟩
    exact ⟨(a.source, w), OrderedMap.mem_entries_iff.2 hw, (a.target, ks),
      OrderedMap.mem_entries_iff.2 hks, (a.key, a.value), OrderedMap.mem_entries_iff.2 hx, rfl⟩

omit [DecidableEq ν] [DecidableEq κ] in
theorem length_arcsFrom (u : ν) (w : Vertex ν α κ ε) : (arcsFrom u w).length = w.degree := by
  unfold arcsFrom Vertex.degree
  induction w.out.entries with
  | nil => rfl
  | cons q l ih =>
    rw [List.flatMap_cons, List.length_append, List.length_map, ih, List.foldr_cons]
    rfl

omit [DecidableEq ν] [DecidableEq κ] in
/-- As many arcs are listed as are counted. -/
theorem length_arcs (g : Multigraph ν α κ ε) : g.arcs.length = g.size := by
  unfold arcs size
  induction g.vertices.entries with
  | nil => rfl
  | cons p l ih =>
    rw [List.flatMap_cons, List.length_append, length_arcsFrom, ih, List.foldr_cons]

end Multigraph

end StaticAccess
