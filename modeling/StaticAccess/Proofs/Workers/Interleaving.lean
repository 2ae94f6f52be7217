import StaticAccess.Graph.Operand
import StaticAccess.Proofs.Graph.Equality
import StaticAccess.Workers

/-!
# Workers that add edges to one graph

Each call that adds an edge is one step, so what several workers do to a graph is a sequence of
calls in which each worker's calls keep their order. The graphs that two such sequences leave may
list their edges differently, since the first call that brings a location decides its place. They
contain the same edges, and of the calls that add a new edge the first one alone answers that the
edge is new.

## Main definitions

- `Workers.Call`: a call that adds an edge, with its answer.
- `Workers.addEach`: calls in a row.
- `Workers.inTurn`: workers one after another.

## Main results

- `Interleaving.perm`: an interleaving takes each element of the lists once.
- `Workers.exists_first_call`: a new edge is answered to be new once.
- `Workers.interleaved_additions`: what any interleaving of workers does to a graph.
-/

namespace StaticAccess

/-! ## Interleavings -/

/-- An interleaving takes each element of the lists once. -/
theorem Interleaving.perm {α : Type} {lists : List (List α)} {l : List α}
    (h : Interleaving lists l) : l.Perm lists.flatten := by
  induction h with
  | done hempty => rw [List.flatten_eq_nil_iff.2 hempty]
  | @turn before after a l rest _ ih =>
    -- The element that is taken stands at the head of its list, behind the lists before it.
    have hflatten : (before ++ (a :: l) :: after).flatten =
        before.flatten ++ a :: (l ++ after.flatten) := by
      simp
    rw [hflatten]
    refine (List.Perm.cons a ?_).trans List.perm_middle.symm
    simpa using ih

namespace Workers

/-! ## Calls -/

/-- A call that adds an edge, with the answer that it gets. -/
structure Call where
  /-- The edge that is added. -/
  edge : Edge
  /-- Whether the edge is new, or the failure of the call. -/
  answer : Except Error Bool
  deriving DecidableEq

/-- Whether a call answers that its edge is new. -/
def Call.isNew (c : Call) : Bool := decide (c.answer = .ok true)

/-- Add some edges by one call after another: the graph that the calls leave, and the calls. -/
def addEach (g : Graph) : List Edge → Graph × List Call
  | [] => (g, [])
  | e :: es =>
    let first := g.add (.edge e)
    let rest := addEach first.graph es
    (rest.1, ⟨e, first.result⟩ :: rest.2)

/-- Let workers add their edges to a graph, one worker after another. -/
def inTurn (g : Graph) (workers : List (List Edge)) : Graph :=
  workers.foldl (fun g es => (addEach g es).1) g

variable {g : Graph} {e : Edge} {es : List Edge}

theorem addEach_cons (g : Graph) (e : Edge) (es : List Edge) :
    addEach g (e :: es) =
      ((addEach (g.insert e) es).1, ⟨e, .ok (!g.contains e)⟩ :: (addEach (g.insert e) es).2) := rfl

theorem graph_addEach (g : Graph) (es : List Edge) : (addEach g es).1 = g.insertAll es := by
  induction es generalizing g with
  | nil => rfl
  | cons e es ih =>
    rw [addEach_cons, ih, Graph.insertAll_cons]

theorem calls_append (g : Graph) (es fs : List Edge) :
    (addEach g (es ++ fs)).2 = (addEach g es).2 ++ (addEach (g.insertAll es) fs).2 := by
  induction es generalizing g with
  | nil => rfl
  | cons e es ih =>
    rw [List.cons_append, addEach_cons, addEach_cons, ih, Graph.insertAll_cons, List.cons_append]

/-- There is one call for each edge, in the order of the edges. -/
theorem edges_calls (g : Graph) (es : List Edge) : (addEach g es).2.map Call.edge = es := by
  induction es generalizing g with
  | nil => rfl
  | cons e es ih =>
    rw [addEach_cons, List.map_cons, ih]

theorem inTurn_eq (g : Graph) (workers : List (List Edge)) :
    inTurn g workers = g.insertAll workers.flatten := by
  induction workers generalizing g with
  | nil => rfl
  | cons es workers ih =>
    show inTurn (addEach g es).1 workers = _
    rw [ih, graph_addEach, List.flatten_cons, Graph.insertAll_append]

/-! ## Answers -/

/-- A call that adds a contained edge answers that the edge is known. -/
theorem answer_of_contains (he : g.contains e = true) :
    ∀ c ∈ (addEach g es).2, c.edge = e → c.answer = .ok false := by
  induction es generalizing g with
  | nil =>
    intro c hc
    cases hc
  | cons f es ih =>
    intro c hc hedge
    rw [addEach_cons] at hc
    rcases List.mem_cons.1 hc with rfl | hc
    · show Except.ok (!g.contains f) = _
      have hf : f = e := hedge
      rw [hf, he]
      rfl
    · -- The edge stays contained, whatever is added first.
      refine ih ?_ c hc hedge
      rw [Graph.contains_insert, he, Bool.or_true]

/-- Of the calls that add a new edge the first one answers that it is new, and no other does. -/
theorem exists_first_call (hnew : g.contains e = false) (he : e ∈ es) :
    ∃ before after, (addEach g es).2 = before ++ ⟨e, .ok true⟩ :: after ∧
      ∀ c ∈ before ++ after, c.edge = e → c.answer = .ok false := by
  -- Split the edges at the first `e`.
  obtain ⟨early, late, rfl, hearly⟩ := List.eq_append_cons_of_mem he
  have hstill : (g.insertAll early).contains e = false := by
    rw [Graph.contains_insertAll, hnew, decide_eq_false hearly]
    rfl
  have hthen : ((g.insertAll early).insert e).contains e = true := by
    rw [Graph.contains_insert, decide_eq_true rfl, Bool.true_or]
  refine ⟨(addEach g early).2, (addEach ((g.insertAll early).insert e) late).2, ?_, ?_⟩
  · rw [calls_append, addEach_cons, hstill]
    rfl
  · intro c hc hedge
    rcases List.mem_append.1 hc with hc | hc
    · -- No earlier call adds `e`.
      have hmem : c.edge ∈ (addEach g early).2.map Call.edge := List.mem_map_of_mem hc
      rw [edges_calls, hedge] at hmem
      exact absurd hmem hearly
    · exact answer_of_contains hthen c hc hedge

/-- A graph grows by as many edges as calls answer that their edge is new. -/
theorem size_addEach (hg : g.Reachable) (es : List Edge) :
    (addEach g es).1.size = g.size + (addEach g es).2.countP Call.isNew := by
  induction es generalizing g with
  | nil => rfl
  | cons e es ih =>
    -- A call answers that its edge is new just when it makes the graph larger.
    have hcount : (addEach g (e :: es)).2.countP Call.isNew =
        (addEach (g.insert e) es).2.countP Call.isNew + if g.contains e then 0 else 1 := by
      rw [addEach_cons, List.countP_cons]
      cases g.contains e <;> rfl
    rw [hcount]
    show (addEach (g.insert e) es).1.size = _
    rw [ih (hg.insert e), Graph.size_insert hg]
    split <;> omega

/-- However workers take turns in adding their edges to a graph, no edge is lost, and they leave a
graph equal to the one that they leave one after another, in any order. Of the calls that add an
edge that was not in the graph one answers that it is new and all others that it is not; no call
that adds an edge that was in the graph answers that it is new. So the graph grows by the number of
calls that answer so. -/
theorem interleaved_additions (hg : g.Reachable) {workers : List (List Edge)}
    (h : Interleaving workers es) :
    (∀ order, order.Perm workers →
        (addEach g es).1.equals (.graph (inTurn g order)) = true) ∧
      (∀ e, (addEach g es).1.contains e = (decide (e ∈ workers.flatten) || g.contains e)) ∧
      (∀ e ∈ workers.flatten, g.contains e = false →
        ∃ before after, (addEach g es).2 = before ++ ⟨e, .ok true⟩ :: after ∧
          ∀ c ∈ before ++ after, c.edge = e → c.answer = .ok false) ∧
      (∀ c ∈ (addEach g es).2, g.contains c.edge = true → c.answer = .ok false) ∧
      (addEach g es).1.size = g.size + (addEach g es).2.countP Call.isNew := by
  refine ⟨?_, ?_, ?_, ?_, size_addEach hg es⟩
  · -- Both runs add the same edges, in different orders.
    intro order horder
    have hperm : es.Perm order.flatten := h.perm.trans horder.flatten.symm
    rw [graph_addEach, inTurn_eq]
    exact Graph.equal_insertAll_of_perm hg hperm
  · intro e
    rw [graph_addEach, Graph.contains_insertAll, decide_eq_decide.2 h.perm.mem_iff]
  · intro e he hnew
    exact exists_first_call hnew (h.perm.mem_iff.2 he)
  · intro c hc hold
    exact answer_of_contains hold c hc rfl

/-- Two workers that share a method call, and a graph that holds the field read of the same names:
the call is recorded once, by the second worker. -/
theorem interleaved_additions_shared :
    let read : Edge := ⟨.fieldRead, "app.Main", "run", "lib.Store", "value"⟩
    let g := (Graph.empty false).insert read
    let workers := [[read, read.swap], [read.swap]]
    let es := [read.swap, read, read.swap]
    g.Reachable ∧ Interleaving workers es ∧
      (addEach g es).1.equals (.graph (inTurn g workers.reverse)) = true ∧
      (∃ before after, (addEach g es).2 = before ++ ⟨read.swap, .ok true⟩ :: after ∧
        ∀ c ∈ before ++ after, c.edge = read.swap → c.answer = .ok false) ∧
      (addEach g es).1.size = 2 := by
  intro read g workers es
  have hg : g.Reachable := .insert read (.empty false)
  have h : Interleaving workers es :=
    @Interleaving.turn _ [[read, read.swap]] [] read.swap [] [read, read.swap]
      (@Interleaving.turn _ [] [[]] read [read.swap] [read.swap]
        (@Interleaving.turn _ [] [[]] read.swap [] [] (.done (by simp))))
  obtain ⟨hequal, -, honce, -, hsize⟩ := interleaved_additions hg h
  refine ⟨hg, h, hequal _ workers.reverse_perm, honce read.swap ?_ ?_, ?_⟩
  · simp [workers]
  · decide
  · rw [hsize]
    decide

end Workers

end StaticAccess
