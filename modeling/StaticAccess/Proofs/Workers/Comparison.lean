import Mathlib.Data.List.Infix
import StaticAccess.Proofs.Graph.Equality
import StaticAccess.Workers

/-!
# Comparison with a graph that grows

A comparison reads the field reads of a graph first and its method calls afterwards. Each of the two
reads is one atomic step, but the comparison is not: workers may add edges between the reads, and
then the two sets that are compared stem from different states of the graph.

Such a comparison with a graph that stays as it is may find no difference although there is one at
any time from the first read to the second one. It is so if a new field read is added before a new
method call. All that the comparison tells is that the other graph lies between the two states: it
contains what was there at the first read, and nothing that was not there at the second one.

## Main definitions

- `Comparing.twoReads`: the turns of a comparison that reads the graph twice.

## Main results

- `Comparing.run_read_read`: without additions between the reads, one state is compared.
- `Comparing.exists_reads`: a comparison that finds no difference has read the graph twice.
- `Comparing.answer_eq_true_iff`: when such a comparison finds no difference.
- `Comparing.between_reads`: what this tells of the states from the first read to the second one.
- `Comparing.no_equal_state`: none of these states need be equal to the other graph.
-/

namespace StaticAccess

namespace Comparing

variable {g h : Graph}

/-! ## Runs -/

theorem run_cons (h : Graph) (c : Comparing) (t : Turn) (turns : List Turn) :
    run h c (t :: turns) = run h (step h c t) turns := rfl

theorem run_append (h : Graph) (c : Comparing) (turns later : List Turn) :
    run h c (turns ++ later) = run h (run h c turns) later := List.foldl_append

/-- Additions make no progress in a comparison. -/
theorem run_map_add (h : Graph) (c : Comparing) (es : List Edge) :
    run h c (es.map .add) = { c with graph := c.graph.insertAll es } := by
  induction es generalizing c with
  | nil => rfl
  | cons e es ih => exact ih _

/-- An answer that has been given stays. -/
theorem progress_run_of_answered {c : Comparing} {b : Bool} (hc : c.progress = .answered b)
    (turns : List Turn) : (run h c turns).progress = .answered b := by
  induction turns generalizing c with
  | nil => exact hc
  | cons t turns ih =>
    refine ih ?_
    cases t with
    | add e => exact hc
    | read =>
      show advance c.graph h c.progress = .answered b
      rw [hc]
      rfl

/-- If nothing is added between the two reads, one state is compared. -/
theorem run_read_read (g h : Graph) :
    (run h ⟨g, .begun⟩ [.read, .read]).progress = .answered (g.equal h) := by
  show advance g h (advance g h .begun) = _
  unfold Graph.equal
  by_cases hreads : g.edgeSet .fieldRead = h.edgeSet .fieldRead
  · simp [advance, hreads]
  · simp [advance, hreads]

/-! ## The two reads -/

/-- The turns of a comparison that reads the graph twice, with additions before the first read and
between the two. -/
def twoReads (before between : List Edge) (after : List Turn) : List Turn :=
  before.map .add ++ .read :: (between.map .add ++ .read :: after)

/-- A comparison that has come further has read the graph, after some additions. -/
theorem exists_read {c : Comparing} {turns : List Turn}
    (hprogress : (run h c turns).progress ≠ c.progress) :
    ∃ (before : List Edge) (after : List Turn), turns = before.map .add ++ .read :: after := by
  induction turns generalizing c with
  | nil => exact absurd rfl hprogress
  | cons t turns ih =>
    cases t with
    | add e =>
      obtain ⟨before, after, rfl⟩ := ih (c := step h c (.add e)) hprogress
      exact ⟨e :: before, after, rfl⟩
    | read => exact ⟨[], turns, rfl⟩

/-- The state of a comparison behind some additions and a read. -/
theorem run_additions_read (h : Graph) (c : Comparing) (es : List Edge) (after : List Turn) :
    run h c (es.map .add ++ .read :: after) =
      run h ⟨c.graph.insertAll es, advance (c.graph.insertAll es) h c.progress⟩ after := by
  rw [run_append, run_map_add, run_cons, step]

/-- A comparison that finds no difference has read the graph twice, with additions before, between
and after the reads. -/
theorem exists_reads {turns : List Turn}
    (htrue : (run h ⟨g, .begun⟩ turns).progress = .answered true) :
    ∃ before between after, turns = twoReads before between after := by
  obtain ⟨before, rest, rfl⟩ := exists_read (h := h) (c := ⟨g, .begun⟩) (by rw [htrue]; nofun)
  rw [run_additions_read] at htrue
  by_cases hreads : (g.insertAll before).edgeSet .fieldRead = h.edgeSet .fieldRead
  · rw [advance, if_pos hreads] at htrue
    obtain ⟨between, after, rfl⟩ := exists_read (by rw [htrue]; nofun)
    exact ⟨before, between, after, rfl⟩
  · -- A difference in the field reads ends the comparison.
    rw [advance, if_neg hreads, progress_run_of_answered rfl] at htrue
    cases htrue

/-- A comparison finds no difference if the field reads at its first read and the method calls at
its second one are those of the other graph. -/
theorem answer_eq_true_iff (hg : g.Reachable) (hh : h.Reachable) (before between : List Edge)
    (after : List Turn) :
    (run h ⟨g, .begun⟩ (twoReads before between after)).progress = .answered true ↔
      (∀ e : Edge, e.kind = .fieldRead → (g.insertAll before).contains e = h.contains e) ∧
        ∀ e : Edge, e.kind = .methodCall →
          ((g.insertAll before).insertAll between).contains e = h.contains e := by
  have hfirst := hg.insertAll before
  rw [← Graph.edgeSet_eq_iff hfirst hh, ← Graph.edgeSet_eq_iff (hfirst.insertAll between) hh,
    twoReads, run_additions_read]
  by_cases hreads : (g.insertAll before).edgeSet .fieldRead = h.edgeSet .fieldRead
  · rw [advance, if_pos hreads, run_additions_read, progress_run_of_answered rfl,
      Progress.answered.injEq, decide_eq_true_eq, and_iff_right hreads]
  · rw [advance, if_neg hreads, progress_run_of_answered rfl]
    simp [hreads]

/-- A comparison of a graph with `h` that finds no difference has read the graph twice. In any such
comparison, `h` contains all that the graph contained at the first read, and the graph contains all
of `h` at the second one. The graph is equal to `h` in some state from the first read to the second
one if and only if there is a turn among the additions between the reads: before it no field read is
new, and after it no method call is new. -/
theorem between_reads (hg : g.Reachable) (hh : h.Reachable) :
    (∀ turns, (run h ⟨g, .begun⟩ turns).progress = .answered true →
      ∃ before between after, turns = twoReads before between after) ∧
      ∀ (before between : List Edge) (after : List Turn),
        let first := g.insertAll before
        (run h ⟨g, .begun⟩ (twoReads before between after)).progress = .answered true →
        (∀ e, first.contains e = true → h.contains e = true) ∧
          (∀ e, h.contains e = true → (first.insertAll between).contains e = true) ∧
          ((∃ added, added <+: between ∧ (first.insertAll added).equal h = true) ↔
            ∃ early late, between = early ++ late ∧
              (∀ e ∈ early, e.kind = .fieldRead → first.contains e = true) ∧
              ∀ e ∈ late, e.kind = .methodCall → (first.insertAll early).contains e = true) := by
  refine ⟨fun turns => exists_reads, ?_⟩
  intro before between after first htrue
  obtain ⟨hreads, hcalls⟩ := (answer_eq_true_iff hg hh before between after).1 htrue
  have hfirst : first.Reachable := hg.insertAll before
  refine ⟨fun e he => ?_, fun e he => ?_, ?_, ?_⟩
  · cases hkind : e.kind with
    | fieldRead => rw [← hreads e hkind, he]
    | methodCall => rw [← hcalls e hkind, Graph.contains_insertAll_of_contains he]
  · cases hkind : e.kind with
    | fieldRead =>
      rw [← hreads e hkind] at he
      exact Graph.contains_insertAll_of_contains he between
    | methodCall => rw [hcalls e hkind, he]
  · rintro ⟨early, ⟨late, rfl⟩, hstate⟩
    have hsame := (Graph.equal_iff (hfirst.insertAll early) hh).1 hstate
    refine ⟨early, late, rfl, fun e he hkind => ?_, fun e he hkind => ?_⟩
    · -- A field read that is in `h` was there at the first read.
      rw [hreads e hkind, ← hsame e, Graph.contains_insertAll, decide_eq_true he, Bool.true_or]
    · -- A method call that is there at the second read is in `h`.
      have hlast : (first.insertAll (early ++ late)).contains e = true := by
        rw [Graph.contains_insertAll, decide_eq_true (List.mem_append_right early he), Bool.true_or]
      rw [hsame e, ← hcalls e hkind, hlast]
  · rintro ⟨early, late, rfl, hearly, hlate⟩
    refine ⟨early, List.prefix_append early late,
      (Graph.equal_iff (hfirst.insertAll early) hh).2 fun e => ?_⟩
    -- At the turn, the field reads are still those of the first read, and the method calls are
    -- already those of the second one.
    cases hkind : e.kind with
    | fieldRead => rw [Graph.contains_insertAll_of_kind hearly hkind, hreads e hkind]
    | methodCall =>
      have hlast := hcalls e hkind
      rw [Graph.insertAll_append, Graph.contains_insertAll_of_kind hlate hkind] at hlast
      exact hlast

/-- Between the two reads a method call is added before a field read, and in the meantime the graph
is equal to the other one. -/
theorem between_reads_call_first :
    let read : Edge := ⟨.fieldRead, "app.Main", "run", "lib.Store", "value"⟩
    let call : Edge := ⟨.methodCall, "app.Main", "run", "lib.Store", "load"⟩
    let g := Graph.empty true
    let h := (Graph.empty true).insert call
    g.Reachable ∧ h.Reachable ∧
      (run h ⟨g, .begun⟩ [.read, .add call, .add read, .read]).progress = .answered true ∧
      (∀ e, h.contains e = true → (g.insertAll [call, read]).contains e = true) ∧
      ∃ added, added <+: [call, read] ∧ (g.insertAll added).equal h = true := by
  intro read call g h
  have hg : g.Reachable := .empty true
  have hh : h.Reachable := .insert call (.empty true)
  have htrue : (run h ⟨g, .begun⟩ [.read, .add call, .add read, .read]).progress =
      .answered true := by decide
  obtain ⟨-, hbelow, hturn⟩ := (between_reads hg hh).2 [] [call, read] [] htrue
  exact ⟨hg, hh, htrue, hbelow, hturn.2 ⟨[call], [read], rfl, by decide, by decide⟩⟩

/-- A comparison that finds no difference does not tell that the graph was ever equal to the other
one. If between its two reads a field read is added first and a method call afterwards, then it
finds no difference from a graph with the method call alone, and none of the three states from its
first read to its second one is equal to that graph. -/
theorem no_equal_state :
    let read : Edge := ⟨.fieldRead, "app.Main", "run", "lib.Store", "value"⟩
    let call : Edge := ⟨.methodCall, "app.Main", "run", "lib.Store", "load"⟩
    let g := Graph.empty true
    let h := (Graph.empty true).insert call
    g.Reachable ∧ h.Reachable ∧
      (run h ⟨g, .begun⟩ [.read, .add read, .add call, .read]).progress = .answered true ∧
      ∀ added, added <+: [read, call] → (g.insertAll added).equal h = false := by
  intro read call g h
  have hstates : ∀ added ∈ [read, call].inits, (g.insertAll added).equal h = false := by decide
  exact ⟨.empty true, .insert call (.empty true), by decide,
    fun added hadded => hstates added ((List.mem_inits _ _).2 hadded)⟩

end Comparing

end StaticAccess
