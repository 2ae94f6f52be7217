import StaticAccess.Proofs.Graph.Spelling
import StaticAccess.Proofs.Session.Contents
import StaticAccess.Proofs.Session.Similarity

/-!
# Spelling of class names in a session

The edges of any graph of a session may be added once more, to an empty graph and with all classes
in dotted form. The graph of the session answers about an edge as it was spelled when it was added.
The views that name classes are those of the graph with the dotted names.

## Main results

- `Session.spelling_run`: a graph after any run, and its edges in dotted form.
-/

namespace StaticAccess

namespace Session

/-- After any run, let the edges `es` of a graph `g` be added to an empty graph with both classes in
dotted form, in any order and any number of times. The graph `dottedNames` that is built so has the
views of `g` that name classes: the classes that have accesses and those that are accessed, the
fields and methods by class, and for every class, asked for in any form, its readers, callers and
dependencies. Whether an edge is recorded in `g` depends on its spelling: it is if it was added so.
The counts of classes of `dottedNames` are the numbers of classes that `g` names. `dottedNames` has
at most as many edges as `g`, and as many just if no two edges of `g` are the same in dotted
form. -/
theorem spelling_run (steps : List Step) (name : String) (announce : Bool) {es : List Edge}
    (hes : ∀ e, e ∈ es ↔ e ∈ ((start.run steps).1.graph name).toList) :
    let s := (start.run steps).1
    let g := s.graph name
    let dottedNames := (Graph.empty announce).insertAll (es.map Edge.dottedForm)
    dottedNames.SameNames g ∧
      (∀ e, (s.perform name (.recorded (.ofEdge e))).result =
        .ok (.flag (decide (e ∈ Ledger.start.run steps name)))) ∧
      dottedNames.statistics.sourceClasses = g.sourceClasses.size ∧
      dottedNames.statistics.targetClasses = g.targetClasses.size ∧
      dottedNames.size ≤ g.size ∧
      (dottedNames.size = g.size ↔ ∀ e f, g.contains e = true → g.contains f = true →
        e.dottedForm = f.dottedForm → e = f) := by
  intro s g dottedNames
  have h : dottedNames.DottedCopy g :=
    Graph.dottedCopy_insertAll (reachable_run steps name) announce hes
  refine ⟨h.sameNames, fun e => ?_, h.sourceClasses_statistics, h.targetClasses_statistics,
    h.size_le, h.size_eq_iff⟩
  rw [result_recorded, contains_run]

/-- Two spellings of one field read are two edges, and one edge in dotted form. Its class is named
once in either graph, and the dotted spelling of the other class, which was never used, is not
recorded. -/
theorem spelling_run_two_spellings :
    let slashed : Edge := ⟨.fieldRead, "app/Main", "run", "lib/Store", "value"⟩
    let mixed : Edge := ⟨.fieldRead, "app.Main", "run", "lib/Store", "value"⟩
    let steps : List Step := [⟨"g", .record (.ofEdge slashed)⟩, ⟨"g", .record (.ofEdge mixed)⟩]
    let s := (start.run steps).1
    let g := s.graph "g"
    let dottedNames := (Graph.empty true).insertAll (g.toList.map Edge.dottedForm)
    dottedNames.accessors .fieldRead "lib/Store" = g.accessors .fieldRead "lib/Store" ∧
      (s.perform "g" (.recorded (.ofEdge mixed))).result = .ok (.flag true) ∧
      (s.perform "g" (.recorded (.ofEdge slashed.dottedForm))).result = .ok (.flag false) ∧
      dottedNames.statistics.sourceClasses = 1 ∧ g.statistics.sourceClasses = 2 ∧
      dottedNames.size ≠ g.size := by
  intro slashed mixed steps s g dottedNames
  obtain ⟨hviews, hrecorded, hsources, -, -, hsize⟩ :=
    spelling_run steps "g" true fun e => (Iff.rfl : e ∈ g.toList ↔ e ∈ g.toList)
  refine ⟨hviews.accessors_eq .fieldRead "lib/Store", ?_, ?_, ?_, by decide, fun hsame => ?_⟩
  · rw [hrecorded]
    decide
  · rw [hrecorded]
    decide
  · rw [hsources]
    decide
  · have heq : slashed = mixed := hsize.1 hsame slashed mixed (by decide) (by decide) (by decide)
    exact absurd heq (by decide)

end Session

end StaticAccess
