import Mathlib.Data.Finset.Card
import Mathlib.Data.Finset.Dedup
import StaticAccess.Proofs.Graph.Equality
import StaticAccess.Proofs.Session.Ledger

/-!
# Contents of the graphs of a session

What a graph of a session holds after a run of any length: which edges it lists and in what
order, what it answers about an edge, and how large it is. All of this is said in terms of the
edges that were added to the graph since it was created, whichever action added them and whatever
else was done or failed in between.

## Main definitions

- `Draft.ofEdge`: the four names of an edge, as they are handed to a graph.

## Main results

- `Session.listing_run`: the edges and the locations are listed as they are arranged.
- `Session.answers_run`: the answers about an edge tell whether it was added.
-/

namespace StaticAccess

/-- The kind and the four names of an edge. -/
def Draft.ofEdge (e : Edge) : Draft :=
  ⟨e.kind, .string e.sourceClass, .string e.sourceMethod, .string e.targetClass,
    .string e.targetMember⟩

@[simp]
theorem Draft.edge_ofEdge (e : Edge) : (Draft.ofEdge e).edge = .ok e := by
  obtain ⟨kind, sourceClass, sourceMethod, targetClass, targetMember⟩ := e
  cases kind <;> rfl

theorem Edge.swap_ne (e : Edge) : e.swap ≠ e := by
  intro h
  have hkind : e.kind.swap = e.kind := congrArg Edge.kind h
  cases hk : e.kind <;> simp [hk, Kind.swap] at hkind

namespace Session

/-! ## Answers about one edge -/

section Answers

variable (s : Session) (name : String) (e : Edge)

theorem result_contains :
    (s.perform name (.contains (.edge (.ofEdge e)))).result =
      .ok (.flag ((s.graph name).contains e)) := by
  rw [perform, operand, Draft.edge_ofEdge]
  rfl

theorem result_recorded :
    (s.perform name (.recorded (.ofEdge e))).result = .ok (.flag ((s.graph name).contains e)) := by
  rw [perform, Draft.edge_ofEdge]
  rfl

theorem result_add :
    (s.perform name (.add (.edge (.ofEdge e)))).result =
      .ok (.flag (!(s.graph name).contains e)) := by
  rw [perform, operand, Draft.edge_ofEdge]
  rfl

/-- Adding an edge by its names adds it to its graph. -/
theorem graph_step_record :
    (s.step ⟨name, .record (.ofEdge e)⟩).1.graph name = (s.graph name).insert e := by
  rw [graph_step, if_pos rfl, Action.additions, Draft.edge_ofEdge]
  rfl

end Answers

/-! ## Runs -/

/-- After any run, a graph contains the edges that were added to it. -/
theorem contains_run (steps : List Step) (name : String) (e : Edge) :
    ((start.run steps).1.graph name).contains e = decide (e ∈ Ledger.start.run steps name) := by
  rw [Bool.eq_iff_iff, (records_run steps name).contains_iff, List.mem_eraseDups,
    decide_eq_true_eq]

/-- After any run, a graph is as large as there are distinct edges that were added to it. -/
theorem size_run (steps : List Step) (name : String) :
    ((start.run steps).1.graph name).size = (Ledger.start.run steps name).toFinset.card := by
  -- Distinct edges are counted by their first occurrences.
  have hset : (Ledger.start.run steps name).toFinset =
      (Ledger.start.run steps name).eraseDups.toFinset := by
    ext f
    simp
  rw [(records_run steps name).size_eq, hset, List.toFinset_card_of_nodup (nodup_eraseDups _)]

/-- After any run, a graph lists the first occurrences `d` of the edges that were added to it
since it was created: its locations in the order in which they are first seen in `d`, and its
edges grouped by source in this order, under one source by target in the order in which the
source first reaches it, and between two locations in the order of `d`. -/
theorem listing_run (steps : List Step) (name : String) :
    let s := (start.run steps).1
    let d := (Ledger.start.run steps name).eraseDups
    (s.perform name .edges).result = .ok (.edges (arranged d)) ∧
      (s.graph name).toList = arranged d ∧
      (s.graph name).store.nodes.map Prod.fst = locationsOf d := by
  intro s d
  -- The ledger alone decides how the graph is laid out, and with it the listings.
  have h : (s.graph name).Records d := records_run steps name
  refine ⟨?_, h.toList_eq, ?_⟩
  · rw [← h.toList_eq]
    rfl
  · rw [h.nodes_eq, List.map_map]
    exact List.map_id _

/-- After any run, a graph answers of an edge that it is recorded if and only if the edge was
added to it since it was created, and that it is new if and only if it was not; the size is the
number of distinct edges that were added. The edge of the other kind with the same names has no
part in the answers. -/
theorem answers_run (steps : List Step) (name : String) (e : Edge) :
    let s := (start.run steps).1
    let added := Ledger.start.run steps name
    (s.perform name (.contains (.edge (.ofEdge e)))).result = .ok (.flag (decide (e ∈ added))) ∧
      (s.perform name (.recorded (.ofEdge e))).result = .ok (.flag (decide (e ∈ added))) ∧
      (s.perform name (.add (.edge (.ofEdge e)))).result = .ok (.flag (decide (e ∉ added))) ∧
      (s.graph name).size = added.toFinset.card ∧
      ((s.step ⟨name, .record (.ofEdge e.swap)⟩).1.perform name (.recorded (.ofEdge e))).result =
        (s.perform name (.recorded (.ofEdge e))).result := by
  intro s added
  have hcontains : (s.graph name).contains e = decide (e ∈ added) := contains_run steps name e
  refine ⟨?_, ?_, ?_, size_run steps name, ?_⟩
  · rw [result_contains, hcontains]
  · rw [result_recorded, hcontains]
  · rw [result_add, hcontains, decide_not]
  · -- The edge of the other kind is added, and it is another edge.
    rw [result_recorded, result_recorded, graph_step_record, Graph.contains_insert]
    simp [(Edge.swap_ne e).symm]

end Session

end StaticAccess
