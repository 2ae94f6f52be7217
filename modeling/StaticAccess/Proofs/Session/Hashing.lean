import StaticAccess.Proofs.Graph.Counts
import StaticAccess.Proofs.Session.Merging

/-!
# Hashes of graphs

The hash of a graph is made of the hashes of two sets, its field reads and its method calls. A set
may hold its elements in any order, and their hashes are combined in that order. If the combination
is commutative and associative, the order leaves no trace: the hash depends on the sets alone, so
that equal graphs have the same hash, in whatever way they were built.

## Main results

- `SetHash.ofEdges_perm`: the order of the elements does not matter for the hash of a set.
- `Session.hashing_run`: the hash of a graph, equal graphs, and additions of known edges.
-/

namespace StaticAccess

namespace SetHash

variable {hash : SetHash} [Std.Commutative hash.combine] [Std.Associative hash.combine]

/-- Two hashes may be combined with a third one in either order. -/
theorem combine_right_comm (n x y : Int) :
    hash.combine (hash.combine n x) y = hash.combine (hash.combine n y) x :=
  calc hash.combine (hash.combine n x) y
      = hash.combine n (hash.combine x y) := Std.Associative.assoc n x y
    _ = hash.combine n (hash.combine y x) :=
      congrArg (hash.combine n) (Std.Commutative.comm x y)
    _ = hash.combine (hash.combine n y) x := (Std.Associative.assoc n y x).symm

/-- The order of the elements does not matter for the hash of a set. -/
theorem ofEdges_perm {es fs : List Edge} (h : es.Perm fs) : hash.ofEdges es = hash.ofEdges fs :=
  h.foldl_eq' (fun _ _ _ _ n => combine_right_comm n _ _) hash.start

end SetHash

namespace Session

/-- Let hashes of edges be combined by a commutative and associative operation. Then the hash of any
graph of a session is made of the hashes of its two sets, whatever orders these hold their edges in.
Graphs that are equal, built in any ways under any names, have the same hash; more closely, their
sets of a kind are as large as each other and have the same hash, in any orders. An action that adds
nothing but known edges, or nothing at all, leaves the hash as it is. -/
theorem hashing_run (hash : SetHash) [Std.Commutative hash.combine]
    [Std.Associative hash.combine] (p q : List Step) (a b : String) :
    let s := (start.run p).1
    let g := s.graph a
    let h := (start.run q).1.graph b
    (∀ reads calls : List Edge, reads.Perm (g.edgeSet .fieldRead).toList →
        calls.Perm (g.edgeSet .methodCall).toList →
          g.hash hash = 31 * (31 + hash.ofEdges reads) + hash.ofEdges calls) ∧
      (g.equal h = true → g.hash hash = h.hash hash) ∧
      (g.equal h = true → ∀ (kind : Kind) (es fs : List Edge), es.Perm (g.edgeSet kind).toList →
        fs.Perm (h.edgeSet kind).toList →
          es.length = fs.length ∧ hash.ofEdges es = hash.ofEdges fs) ∧
      ∀ action : Action, action.created = none →
        (∀ e ∈ action.additions s.listing, g.contains e = true) →
          ((s.step ⟨a, action⟩).1.graph a).hash hash = g.hash hash := by
  intro s g h
  have hg : g.Reachable := reachable_run p a
  have hh : h.Reachable := reachable_run q b
  refine ⟨fun reads calls hreads hcalls => ?_, fun hequal => ?_, ?_, ?_⟩
  · have hread : hash.ofEdges reads = hash.ofEdges (g.edgesOf .fieldRead) :=
      SetHash.ofEdges_perm (hreads.trans (g.toList_edgeSet_perm hg .fieldRead))
    have hcalled : hash.ofEdges calls = hash.ofEdges (g.edgesOf .methodCall) :=
      SetHash.ofEdges_perm (hcalls.trans (g.toList_edgeSet_perm hg .methodCall))
    rw [Graph.hash, hread, hcalled]
  · exact Graph.hash_eq_of_contains hg hh ((Graph.equal_iff hg hh).1 hequal)
      fun n e f => SetHash.combine_right_comm n _ _
  · -- The sets are the same, and the lists are arrangements of them.
    intro hequal kind es fs hes hfs
    have hset : g.edgeSet kind = h.edgeSet kind :=
      (Graph.edgeSet_eq_iff hg hh kind).2 fun e _ => (Graph.equal_iff hg hh).1 hequal e
    have hperm : es.Perm fs := hes.trans (hset ▸ hfs.symm)
    exact ⟨hperm.length_eq, SetHash.ofEdges_perm hperm⟩
  · intro action hretained hknown
    -- Known edges change nothing at all, so that there is nothing new to hash.
    have hgraph : (s.step ⟨a, action⟩).1.graph a = g := by
      rw [graph_step, if_pos rfl, hretained]
      exact Graph.insertAll_eq_self_of_contains hknown
    rw [hgraph]

/-- Two graphs that were built in opposite orders, one of them with a repetition, and the hash that
mixes code points. After all edges have been added once more to the first graph, its hash is still
made of those of its sets, of which the field reads are held in descending order here. -/
theorem hashing_run_reversed :
    let read : Edge := ⟨.fieldRead, "app.Main", "run", "lib.Store", "count"⟩
    let other : Edge := ⟨.fieldRead, "app.Main", "run", "lib.Store", "value"⟩
    let call : Edge := ⟨.methodCall, "app.Main", "run", "lib.Store", "value"⟩
    let p : List Step := [⟨"g", .record (.ofEdge read)⟩, ⟨"g", .record (.ofEdge call)⟩,
      ⟨"g", .record (.ofEdge other)⟩]
    let q : List Step := [⟨"g", .create (some (.bool false))⟩, ⟨"g", .record (.ofEdge other)⟩,
      ⟨"g", .record (.ofEdge call)⟩, ⟨"g", .record (.ofEdge read)⟩, ⟨"g", .record (.ofEdge call)⟩]
    let s := (start.run p).1
    let h := (start.run q).1.graph "g"
    let again : Step := ⟨"g", .update (.edges [.ofEdge call, .ofEdge other, .ofEdge read])⟩
    (s.graph "g").toList ≠ h.toList ∧ (s.graph "g").hash .mixing = h.hash .mixing ∧
      ((s.step again).1.graph "g").hash .mixing =
        31 * (31 + SetHash.mixing.ofEdges [other, read]) +
          SetHash.mixing.ofEdges [call] := by
  intro read other call p q s h again
  have hcommutative : Std.Commutative SetHash.mixing.combine := ⟨Int.add_comm⟩
  have hassociative : Std.Associative SetHash.mixing.combine := ⟨Int.add_assoc⟩
  obtain ⟨hmade, hequal, -, hknown⟩ := hashing_run .mixing p q "g" "g"
  refine ⟨by decide, hequal (by decide), ?_⟩
  rw [hknown again.action rfl (by decide)]
  exact hmade [other, read] [call] (by decide) (by decide)

-- Which names stand together in an edge counts for the hash that mixes code points.
example :
    let call (source target : String) : Edge :=
      ⟨.methodCall, "app.Main", source, "lib.Store", target⟩
    ((Graph.empty true).insertAll [call "a" "d", call "b" "c"]).hash .mixing ≠
      ((Graph.empty true).insertAll [call "a" "c", call "b" "d"]).hash .mixing := by
  decide +kernel

end Session

end StaticAccess
