import StaticAccess.Proofs.Graph.Reports
import StaticAccess.Proofs.Session.Announcements
import StaticAccess.Proofs.Session.Contents

/-!
# Journals of graphs

A journal keeps, for each graph of a session, the records that were emitted on the logger of graphs
by the steps on this graph, since it was created. It is collected from what the steps of a run show.

The journal and the ledger of a run keep pace: for every edge in the ledger of a graph there is one
record in its journal, at the same place, and there are no others.

## Main definitions

- `Journal`, `Journal.run`: the records of each graph since it was created.
- `Journal.Matches`: a journal holds the reports of what a ledger holds.

## Main results

- `Session.graphLog_step`: the records of one step.
- `Journal.Matches.step`, `Journal.Matches.run`: a journal goes on to match the ledger.
- `Session.journal_run`: the journal of any run.
-/

namespace StaticAccess

namespace Session

/-- On the logger of graphs a step emits the reports of the edges that it adds, and nothing else. -/
theorem graphLog_step (s : Session) (x : Step) :
    (s.step x).2.graphLog = (s.graph x.target).reports (x.action.additions s.listing) := by
  have hlog : (s.step x).2.log =
      x.action.warnings ++ (s.graph x.target).reports (x.action.additions s.listing) :=
    s.log_perform x.target x.action
  -- The warnings have a logger of their own.
  have hwarnings : x.action.warnings.filter (fun r => r.logger = .graphs) = [] := by
    rw [List.filter_eq_nil_iff]
    intro r hr
    rw [Action.logger_of_mem_warnings hr]
    decide
  have hreports : ((s.graph x.target).reports (x.action.additions s.listing)).filter
      (fun r => r.logger = .graphs) =
        (s.graph x.target).reports (x.action.additions s.listing) := by
    rw [List.filter_eq_self]
    intro r hr
    rw [Graph.logger_of_mem_reports hr]
    decide
  rw [Outcome.graphLog, hlog, List.filter_append, hwarnings, hreports, List.nil_append]

/-- A graph announces as it did when it was begun anew, and a step begins only its own graph
anew. -/
theorem announce_step (s : Session) (x : Step) (name : String) :
    ((s.step x).1.graph name).announce =
      if name = x.target then (x.action.created.getD (s.graph name)).announce
      else (s.graph name).announce := by
  rw [graph_step]
  by_cases hname : name = x.target
  · subst hname
    rw [if_pos rfl, if_pos rfl]
    cases x.action.created with
    | none => exact Graph.announce_insertAll _ _
    | some g => rfl
  · rw [if_neg hname, if_neg hname]

end Session

/-- The records that the steps on each graph have emitted since the graph was created. -/
abbrev Journal := String → List Record

namespace Journal

/-- Before the first step there are no records. -/
def start : Journal := fun _ => []

/-- The journal after a step that shows a given outcome: a graph that is begun anew drops its
earlier records. -/
def step (j : Journal) (x : Step) (outcome : Outcome) : Journal := fun name =>
  if name = x.target then
    (if x.action.created.isSome then [] else j name) ++ outcome.graphLog
  else j name

/-- The journal after some steps that show given outcomes. -/
def run (j : Journal) : List Step → List Outcome → Journal
  | x :: steps, outcome :: outcomes => (j.step x outcome).run steps outcomes
  | _, _ => j

/-- A journal holds of each graph of a session the reports of the edges that a ledger holds of it,
added one after another to an empty graph that announces alike. -/
def Matches (j : Journal) (l : Ledger) (s : Session) : Prop :=
  ∀ name, j name = (Graph.empty (s.graph name).announce).reports (l name)

namespace Matches

variable {j : Journal} {l : Ledger} {s : Session}

theorem start : Journal.start.Matches Ledger.start .start := fun _ => rfl

/-- Journal and ledger match after a step if they do before it. -/
theorem step (h : j.Matches l s) (hl : l.Keeps s) (x : Step) :
    (j.step x (s.step x).2).Matches (l.step x) (s.step x).1 := by
  intro name
  rw [Session.announce_step, Journal.step, Ledger.step, Session.graphLog_step, hl.listing_eq]
  by_cases hname : name = x.target
  · subst hname
    rw [if_pos rfl, if_pos rfl, if_pos rfl]
    cases hcreated : x.action.created with
    | none =>
      -- The graph contains what the ledger holds, so it reports like the graph that the ledger
      -- fills.
      have hcontains (e : Edge) : (s.graph x.target).contains e =
          ((Graph.empty (s.graph x.target).announce).insertAll (l x.target)).contains e := by
        rw [Graph.contains_insertAll_empty, Bool.eq_iff_iff, (hl x.target).contains_iff,
          List.mem_eraseDups, decide_eq_true_eq]
      have hannounce : (s.graph x.target).announce =
          ((Graph.empty (s.graph x.target).announce).insertAll (l x.target)).announce :=
        (Graph.announce_insertAll_empty _ _).symm
      show j x.target ++ _ = Graph.reports _ (l x.target ++ _)
      rw [Graph.reports_append, h x.target, Graph.reports_congr hannounce hcontains]
      rfl
    | some g =>
      -- Journal and ledger of the graph both begin anew.
      have hnone : x.action.additions l.listing = [] :=
        Action.additions_of_created (by rw [hcreated]; rfl) l.listing
      rw [hnone]
      rfl
  · rw [if_neg hname, if_neg hname, if_neg hname]
    exact h name

/-- Journal and ledger match after a run if they do before it. -/
theorem run (h : j.Matches l s) (hl : l.Keeps s) (steps : List Step) :
    (j.run steps (s.run steps).2).Matches (l.run steps) (s.run steps).1 := by
  induction steps generalizing j l s with
  | nil => exact h
  | cons x steps ih => exact ih (h.step hl x) (hl.step x)

end Matches

end Journal

namespace Session

/-- After any run, the journal of a graph has one record for every addition of an edge to the graph
since it was created, in the order of the additions. It is the announcement of the edge if the graph
announces all additions or the edge was not added before, and the note of a duplicate otherwise,
with the text of the edge as it is. So the announcements of a graph that does not announce
duplicates are those of the distinct edges, in the order of their first additions, and there are as
many of them as there are edges in the graph. A step emits one record for every edge that it adds
and no other, and changes the way of announcing only if it begins the graph anew. -/
theorem journal_run (steps : List Step) (name : String) :
    let s := (start.run steps).1
    let g := s.graph name
    let added := Ledger.start.run steps name
    let records := Journal.start.run steps (start.run steps).2 name
    (∀ k : Nat, records[k]? = added[k]?.map fun e =>
      if g.announce = true ∨ e ∉ added.take k then
        ⟨.graphs, .info, "Adding new static " ++ e.kind.phrase ++ ": " ++ e.text⟩
      else ⟨.graphs, .debug, "Ignoring duplicate static " ++ e.kind.phrase ++ ": " ++ e.text⟩) ∧
      records.filter (fun r => r.level = .info) =
        (if g.announce then added else added.eraseDups).map Graph.announcement ∧
      added.eraseDups.length = g.size ∧
      ∀ x : Step,
        (s.step x).2.graphLog = (s.graph x.target).reports (x.action.additions s.listing) ∧
        (s.step x).2.graphLog.length = (x.action.additions s.listing).length ∧
        ((s.step x).1.graph x.target).announce =
          (x.action.created.getD (s.graph x.target)).announce := by
  intro s g added records
  -- All that is said of the journal holds of any row of reports of a graph that was empty.
  have hrecords : records = (Graph.empty g.announce).reports added :=
    Journal.Matches.start.run .start steps name
  refine ⟨fun k => ?_, ?_, (records_run steps name).size_eq.symm,
    fun x => ⟨s.graphLog_step x, ?_, ?_⟩⟩
  · rw [hrecords, Graph.getElem?_reports]
    congr 1
    funext e
    exact Graph.report_insertAll_empty g.announce (added.take k) e
  · rw [hrecords, Graph.filter_info_reports]
  · rw [graphLog_step, Graph.length_reports]
  · rw [announce_step, if_pos rfl]

/-- The text of an edge is no format: what looks like a directive stays. -/
example :
    let read : Edge := ⟨.fieldRead, "app.Main", "%s", "lib.Store", "value"⟩
    let steps : List Step := [⟨"g", .create (some (.bool false))⟩, ⟨"g", .record (.ofEdge read)⟩,
      ⟨"g", .edges⟩, ⟨"g", .add (.edge (.ofEdge read))⟩]
    Journal.start.run steps (start.run steps).2 "g" =
      [⟨.graphs, .info, "Adding new static field read: app.Main.%s -> lib.Store.value"⟩,
        ⟨.graphs, .debug,
          "Ignoring duplicate static field read: app.Main.%s -> lib.Store.value"⟩] := by
  decide

end Session

end StaticAccess
