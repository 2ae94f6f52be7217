import Mathlib.Data.Finset.Lattice.Basic
import Mathlib.Data.Finset.Insert
import StaticAccess.Proofs.Graph.Growth
import StaticAccess.Proofs.Session.Similarity

/-!
# Merging graphs

A graph that is updated with another graph takes over its edges, in the order in which that one
lists them. Which edges a graph contains after some merges depends only on which graphs have
reached it, not on the order and the grouping of the merges. The order of the edges does depend on
these, but the edges from a source that is new stay in the order in which they come.

## Main definitions

- `Merge`: an update of one graph of a session with another one.
- `Origins`, `Origins.run`: the graphs whose edges have reached each graph.
- `Origins.Feed`: the graphs of a session contain what their origins contained.

## Main results

- `Graph.size_insertAll`: the growth of a graph by edges some of which it contains.
- `Graph.edgesFrom_update`: a merge keeps the order of the edges from each new source.
- `Origins.Feed.step`, `Origins.Feed.run`: merges keep graphs fed by their origins.
- `Session.merging_run`: the laws of merging.
-/

namespace StaticAccess

namespace Graph

variable {g h : Graph} {es : List Edge}

/-- A graph grows by the number of added edges less those that it contains already. -/
theorem size_insertAll (hg : Reachable g) (hes : es.Nodup) :
    (g.insertAll es).size + es.countP g.contains = g.size + es.length := by
  -- The induction moves one edge into the graph, so the graph varies.
  induction es generalizing g with
  | nil => rfl
  | cons e es ih =>
    obtain ⟨he, hes⟩ := List.nodup_cons.1 hes
    have hcount : es.countP (g.insert e).contains = es.countP g.contains := by
      refine List.countP_congr fun f hf => ?_
      have hne : f ≠ e := fun h => he (h ▸ hf)
      rw [contains_insert, decide_eq_false hne, Bool.false_or]
    have hrest := ih (hg.insert e) hes
    rw [hcount, size_insert hg] at hrest
    rw [insertAll_cons, List.countP_cons, List.length_cons]
    split at hrest
    · next hknown =>
      rw [if_pos hknown]
      omega
    · next hnew =>
      rw [if_neg hnew]
      omega

/-- A graph that is updated with another one takes over its edges in the order of its listing. -/
theorem graph_update_graph (g h : Graph) : (g.update (.graph h)).graph = g.insertAll h.toList := by
  have hadded : (Operand.graph h).added = h.toList := Item.leading_map_edge h.toList
  rw [graph_update, hadded]

/-- A merge keeps the order of each source. If no edge of `g` starts at a location, then after the
merge of `h` into `g` the edges that start there are those of `h`, in the same order, although `g`
may have the location as a target, and may list the sources among each other in another order than
`h`. -/
theorem edgesFrom_update (hg : Reachable g) (hh : Reachable h) {u : Location}
    (hnone : ∀ e, g.contains e = true → e.source ≠ u) :
    (g.update (.graph h)).result = .ok () ∧
      (g.update (.graph h)).graph.edgesFrom u = h.edgesFrom u := by
  refine ⟨result_update_graph g h, ?_⟩
  obtain ⟨es, hes⟩ := hh.records
  have hnodup : (h.edgesFrom u).Nodup := hes.nodup_toList.filter _
  calc (g.update (.graph h)).graph.edgesFrom u
      = grouped Edge.target (h.edgesFrom u).eraseDups := by
        rw [graph_update_graph]
        exact edgesFrom_insertAll hg hnone h.toList
    _ = grouped Edge.target (h.edgesFrom u) := by rw [eraseDups_of_nodup hnodup]
    -- The listing of `h` is grouped by target already.
    _ = h.edgesFrom u := by rw [hes.edgesFrom_eq, grouped_grouped]

/-- A location that is a target of `g` becomes a source, and its edges come in the order of `h`; as
it stands earlier among the locations of `g`, they come before the others, unlike in `h`. -/
theorem edgesFrom_update_target :
    let known : Edge := ⟨.methodCall, "app.Test", "check", "app.Main", "run"⟩
    let other : Edge := ⟨.fieldRead, "app.Init", "setup", "lib.Store", "value"⟩
    let read : Edge := ⟨.fieldRead, "app.Main", "run", "lib.Store", "value"⟩
    let call : Edge := ⟨.methodCall, "app.Main", "run", "lib.Store", "load"⟩
    let again : Edge := ⟨.methodCall, "app.Main", "run", "lib.Store", "value"⟩
    let g := (Graph.empty true).insertAll [known]
    let h := (Graph.empty true).insertAll [other, read, call, again]
    Reachable g ∧ Reachable h ∧ (∀ e, g.contains e = true → e.source ≠ read.source) ∧
      h.toList = [other, read, again, call] ∧
      (g.update (.graph h)).graph.edgesFrom read.source = [read, again, call] ∧
      (g.update (.graph h)).graph.toList = [known, read, again, call, other] := by
  intro known other read call again g h
  have hg : Reachable g := (Reachable.empty true).insertAll _
  have hh : Reachable h := (Reachable.empty true).insertAll _
  have hnone : ∀ e, g.contains e = true → e.source ≠ read.source := by
    intro e he
    rw [contains_insertAll_empty, decide_eq_true_eq, List.mem_singleton] at he
    rw [he]
    decide
  obtain ⟨-, hsame⟩ := edgesFrom_update hg hh hnone
  refine ⟨hg, hh, hnone, by decide, ?_, by decide⟩
  rw [hsame]
  decide

end Graph

/-- An update of one graph of a session with another one. -/
structure Merge where
  /-- The name of the graph that grows. -/
  target : String
  /-- The name of the graph whose edges are added. -/
  source : String

/-- A merge as a step. -/
def Merge.step (m : Merge) : Step := ⟨m.target, .update (.graph m.source)⟩

/-- The names of the graphs whose edges have reached each graph. -/
abbrev Origins := String → Finset String

namespace Origins

/-- Before any merge each graph has its own edges. -/
def own : Origins := fun name => {name}

/-- The origins after a merge. -/
def step (o : Origins) (m : Merge) : Origins := fun name =>
  if name = m.target then o m.target ∪ o m.source else o name

/-- The origins after some merges. -/
def run (o : Origins) (ms : List Merge) : Origins := ms.foldl step o

/-- Each graph of a session `t` contains what its origins contain in a session `s`. -/
structure Feed (o : Origins) (s t : Session) : Prop where
  reachable : t.AllReachable
  contains_iff : ∀ name e, (t.graph name).contains e = true ↔
    ∃ origin ∈ o name, (s.graph origin).contains e = true

end Origins

namespace Session

/-! ## One merge -/

section Merge

variable (s : Session) (m : Merge)

theorem graph_merge (name : String) :
    (s.step m.step).1.graph name =
      if name = m.target then (s.graph m.target).insertAll (s.graph m.source).toList
      else s.graph name :=
  s.graph_step m.step name

theorem result_merge : (s.step m.step).2.result = .ok .none := by
  show Except.map _ ((s.graph m.target).update (.graph (s.graph m.source))).result = _
  rw [Graph.result_update_graph]
  rfl

variable {s}

/-- A merge makes the union of two graphs. -/
theorem contains_merge (hs : s.AllReachable) (e : Edge) :
    ((s.step m.step).1.graph m.target).contains e =
      ((s.graph m.target).contains e || (s.graph m.source).contains e) := by
  rw [graph_merge, if_pos rfl, Graph.contains_insertAll, Bool.or_comm, Bool.eq_iff_iff]
  simp only [Bool.or_eq_true, decide_eq_true_eq, Graph.mem_toList_iff (hs m.source)]

/-- The merge of a graph with nothing new changes nothing. -/
theorem graph_merge_eq_self (hs : s.AllReachable)
    (h : ∀ e, (s.graph m.source).contains e = true → (s.graph m.target).contains e = true)
    (name : String) : (s.step m.step).1.graph name = s.graph name := by
  rw [graph_merge]
  split
  · next hname =>
    rw [hname]
    refine Graph.insertAll_eq_self_of_contains fun e he => h e ?_
    exact (Graph.mem_toList_iff (hs m.source) e).1 he
  · rfl

end Merge

end Session

namespace Origins

/-! ## Any number of merges -/

namespace Feed

variable {o : Origins} {s t : Session}

theorem own (hs : s.AllReachable) : own.Feed s s where
  reachable := hs
  contains_iff name e := by simp [Origins.own]

theorem step (h : o.Feed s t) (m : Merge) : (o.step m).Feed s (t.step m.step).1 where
  reachable := h.reachable.perform m.target _
  contains_iff name e := by
    rw [Origins.step]
    split
    · next hname =>
      rw [hname, Session.contains_merge m h.reachable, Bool.or_eq_true, h.contains_iff,
        h.contains_iff]
      simp only [Finset.mem_union, or_and_right, exists_or]
    · next hname =>
      rw [Session.graph_merge, if_neg hname]
      exact h.contains_iff name e

theorem run (h : o.Feed s t) (ms : List Merge) :
    (o.run ms).Feed s (t.run (ms.map Merge.step)).1 := by
  induction ms generalizing o t with
  | nil => exact h
  | cons m ms ih => exact ih (h.step m)

end Feed

end Origins

namespace Session

/-- Graphs that the same graphs have reached are equal. -/
theorem equal_of_origins_eq {s : Session} (hs : s.AllReachable) {ms ns : List Merge}
    {a b : String} (h : Origins.own.run ms a = Origins.own.run ns b) :
    ((s.run (ms.map Merge.step)).1.graph a).equal ((s.run (ns.map Merge.step)).1.graph b) =
      true := by
  have hms := (Origins.Feed.own hs).run ms
  have hns := (Origins.Feed.own hs).run ns
  refine (Graph.equal_iff (hms.reachable a) (hns.reachable b)).2 fun e => ?_
  rw [Bool.eq_iff_iff, hms.contains_iff, hns.contains_iff, h]

/-- Merging is union, after any run. The merge of a graph `b` into a graph `a` succeeds; `a`
then contains what either contained, all other graphs are what they were, `b` included, and `a` is
larger by the size of `b` less the number of shared edges. If `a` contains all of `b`, then nothing
changes at all, and so it is if `b` is `a` itself or has been merged already. An empty graph
becomes equal to what is merged into it. Merging is commutative and associative; more generally,
any merges in any order and grouping make graphs equal that the same graphs have reached. -/
theorem merging_run (steps : List Step) (a b c : String) :
    let s := (start.run steps).1
    let g := s.graph a
    let h := s.graph b
    let merged := (s.step (Merge.step ⟨a, b⟩)).1
    (s.step (Merge.step ⟨a, b⟩)).2.result = .ok .none ∧
      (∀ e, (merged.graph a).contains e = (g.contains e || h.contains e)) ∧
      merged.graph b = h ∧
      (∀ name, name ≠ a → merged.graph name = s.graph name) ∧
      (merged.graph a).size + h.toList.countP g.contains = g.size + h.size ∧
      ((∀ e, h.contains e = true → g.contains e = true) →
        ∀ name, merged.graph name = s.graph name) ∧
      (∀ name, (s.step (Merge.step ⟨a, a⟩)).1.graph name = s.graph name) ∧
      (∀ name, (merged.step (Merge.step ⟨a, b⟩)).1.graph name = merged.graph name) ∧
      (∀ announce, ((Graph.empty announce).update (.graph h)).graph.equal h = true) ∧
      (merged.graph a).equal ((s.step (Merge.step ⟨b, a⟩)).1.graph b) = true ∧
      ((s.run ([⟨a, b⟩, ⟨a, c⟩].map Merge.step)).1.graph a).equal
        ((s.run ([⟨b, c⟩, ⟨a, b⟩].map Merge.step)).1.graph a) = true ∧
      ∀ (ms ns : List Merge) (name other : String),
        Origins.own.run ms name = Origins.own.run ns other →
          ((s.run (ms.map Merge.step)).1.graph name).equal
            ((s.run (ns.map Merge.step)).1.graph other) = true := by
  intro s g h merged
  have hs : s.AllReachable := AllReachable.start.run steps
  have hmerged : merged.AllReachable := hs.perform a _
  have hcontains (e : Edge) : (merged.graph a).contains e = (g.contains e || h.contains e) :=
    contains_merge ⟨a, b⟩ hs e
  have hself (name : String) : (s.step (Merge.step ⟨a, a⟩)).1.graph name = s.graph name :=
    graph_merge_eq_self ⟨a, a⟩ hs (fun _ => id) name
  have hother (name : String) (hname : name ≠ a) : merged.graph name = s.graph name := by
    rw [graph_merge, if_neg hname]
  -- The source stays also if it is the target.
  have hsource : merged.graph b = h := by
    by_cases hb : b = a
    · subst hb
      exact hself b
    · exact hother b hb
  refine ⟨result_merge s ⟨a, b⟩, hcontains, hsource, hother, ?_,
    graph_merge_eq_self ⟨a, b⟩ hs, hself, ?_, ?_, ?_, ?_,
    fun ms ns name other => equal_of_origins_eq hs⟩
  · obtain ⟨es, hes⟩ := (hs b).records
    rw [graph_merge, if_pos rfl, ← h.length_toList]
    exact Graph.size_insertAll (hs a) hes.nodup_toList
  · -- What a second merge would add is there since the first one.
    refine graph_merge_eq_self ⟨a, b⟩ hmerged fun e he => ?_
    rw [hsource] at he
    rw [hcontains, he, Bool.or_true]
  · intro announce
    rw [Graph.graph_update]
    have hadded : (Operand.graph h).added = h.toList := Item.leading_map_edge h.toList
    refine (Graph.equal_iff ((Graph.Reachable.empty announce).insertAll _) (hs b)).2 fun e => ?_
    have hempty : (Graph.empty announce).contains e = false := rfl
    rw [hadded, Graph.contains_insertAll, hempty, Bool.or_false, Bool.eq_iff_iff,
      decide_eq_true_eq, Graph.mem_toList_iff (hs b)]
  · refine @equal_of_origins_eq s hs [⟨a, b⟩] [⟨b, a⟩] a b ?_
    simp [Origins.run, Origins.step, Origins.own, Finset.union_comm]
  · refine equal_of_origins_eq hs ?_
    ext n
    -- The three names need not be different.
    rcases eq_or_ne a b with rfl | hab <;> rcases eq_or_ne c a with rfl | hca <;>
      simp [Origins.run, Origins.step, Origins.own, *]
    · exact or_comm
    · exact or_left_comm

/-- A merge that brings nothing new, and two ways to bring three graphs together. -/
theorem merging_run_known :
    let read : Edge := ⟨.fieldRead, "app.Main", "run", "lib.Store", "value"⟩
    let call : Edge := ⟨.methodCall, "app.Test", "check", "app.Main", "run"⟩
    let steps : List Step := [⟨"a", .create none⟩, ⟨"b", .create none⟩, ⟨"c", .create none⟩,
      ⟨"a", .record (.ofEdge read)⟩, ⟨"a", .record (.ofEdge call)⟩, ⟨"b", .record (.ofEdge read)⟩]
    let s := (start.run steps).1
    (s.graph "a").size = 2 ∧ (s.graph "b").toList = [read] ∧
      (∀ name, (s.step (Merge.step ⟨"a", "b"⟩)).1.graph name = s.graph name) ∧
      ((s.run ([⟨"c", "b"⟩, ⟨"c", "a"⟩].map Merge.step)).1.graph "c").equal
        ((s.run ([⟨"a", "c"⟩, ⟨"b", "a"⟩].map Merge.step)).1.graph "b") = true := by
  intro read call steps s
  obtain ⟨-, -, -, -, -, hknown, -, -, -, -, -, hgrouping⟩ := merging_run steps "a" "b" "c"
  refine ⟨by decide, by decide, hknown fun e => ?_, hgrouping _ _ "c" "b" (by decide)⟩
  rw [contains_run, contains_run, decide_eq_true_eq, decide_eq_true_eq]
  have hb : Ledger.start.run steps "b" = [read] := rfl
  have ha : Ledger.start.run steps "a" = [read, call] := rfl
  rw [hb, ha]
  exact fun h => List.mem_cons.2 (.inl (List.mem_singleton.1 h))

end Session

end StaticAccess
