import StaticAccess.Proofs.Graph.Equality
import StaticAccess.Proofs.Order.FirstSeen

/-!
# Reports of additions

A graph reports every addition by one record, new edge or not. In a row of additions, each is
reported as the graph stands when it comes to it.

## Main results

- `Graph.getElem?_reports`: each record of a row of additions.
- `Graph.reports_congr`: what the reports depend on.
- `Graph.filter_info_reports`: the announcements among the reports of a graph that was empty.
-/

namespace StaticAccess

namespace Graph

variable {g h : Graph}

/-- An addition is announced if the edge is new, or if all additions are. -/
theorem report_eq (g : Graph) (e : Edge) :
    g.report e =
      if g.announce = true ∨ g.contains e = false then announcement e else duplicateNote e := by
  unfold report
  cases g.announce <;> cases g.contains e <;> rfl

/-- Additions in a row leave the way of announcing as it is. -/
@[simp]
theorem announce_insertAll (g : Graph) (es : List Edge) :
    (g.insertAll es).announce = g.announce := by
  induction es generalizing g with
  | nil => rfl
  | cons e es ih => rw [insertAll_cons, ih, announce_insert]

theorem announce_insertAll_empty (announce : Bool) (es : List Edge) :
    ((Graph.empty announce).insertAll es).announce = announce :=
  announce_insertAll _ es

/-- Each addition of a row is reported by the graph that the additions before it have left. -/
theorem getElem?_reports (g : Graph) (es : List Edge) (k : Nat) :
    (g.reports es)[k]? = es[k]?.map (g.insertAll (es.take k)).report := by
  induction es generalizing g k with
  | nil => rfl
  | cons e es ih =>
    cases k with
    | zero => rfl
    | succ k => exact ih (g.insert e) k

/-- A report announces an edge, or it notes a duplicate. -/
theorem exists_of_mem_reports {g : Graph} {es : List Edge} {r : Record} (hr : r ∈ g.reports es) :
    ∃ e, r = announcement e ∨ r = duplicateNote e := by
  induction es generalizing g with
  | nil => cases hr
  | cons e es ih =>
    obtain rfl | hr := List.mem_cons.1 hr
    · refine ⟨e, ?_⟩
      rw [report_eq]
      split
      · exact .inl rfl
      · exact .inr rfl
    · exact ih hr

theorem logger_of_mem_reports {g : Graph} {es : List Edge} {r : Record} (hr : r ∈ g.reports es) :
    r.logger = .graphs := by
  obtain ⟨e, rfl | rfl⟩ := exists_of_mem_reports hr <;> rfl

/-- Reports are less severe than warnings. -/
theorem level_lt_of_mem_reports {g : Graph} {es : List Edge} {r : Record}
    (hr : r ∈ g.reports es) : r.level.number < Level.warning.number := by
  obtain ⟨e, rfl | rfl⟩ := exists_of_mem_reports hr
  · show Level.info.number < Level.warning.number
    decide
  · show Level.debug.number < Level.warning.number
    decide

/-- Every addition is reported by one record. -/
@[simp]
theorem length_reports (g : Graph) (es : List Edge) : (g.reports es).length = es.length := by
  induction es generalizing g with
  | nil => rfl
  | cons e es ih => exact congrArg (· + 1) (ih (g.insert e))

theorem reports_append (g : Graph) (es fs : List Edge) :
    g.reports (es ++ fs) = g.reports es ++ (g.insertAll es).reports fs := by
  induction es generalizing g with
  | nil => rfl
  | cons e es ih => exact congrArg (g.report e :: ·) (ih (g.insert e))

/-- Reports depend only on how a graph announces and on which edges it contains. -/
theorem reports_congr (hannounce : g.announce = h.announce)
    (hcontains : ∀ e, g.contains e = h.contains e) (es : List Edge) :
    g.reports es = h.reports es := by
  apply List.ext_getElem?
  intro k
  rw [getElem?_reports, getElem?_reports]
  congr 1
  funext e
  rw [report_eq, report_eq, announce_insertAll, announce_insertAll, contains_insertAll,
    contains_insertAll, hannounce, hcontains]

/-- A graph that was empty announces an addition if its edge was not added before, or if it
announces all additions. -/
theorem report_insertAll_empty (announce : Bool) (es : List Edge) (e : Edge) :
    ((Graph.empty announce).insertAll es).report e =
      if announce = true ∨ e ∉ es then announcement e else duplicateNote e := by
  simp only [report_eq, announce_insertAll_empty, contains_insertAll_empty,
    decide_eq_false_iff_not]

/-- The records of severity `info` that a graph emits since it is empty are announcements: of every
addition, or of the first addition of every edge. -/
theorem filter_info_reports (announce : Bool) (es : List Edge) :
    ((Graph.empty announce).reports es).filter (fun r => r.level = .info) =
      (if announce then es else es.eraseDups).map announcement := by
  induction es using List.reverseRecOn with
  | nil => cases announce <;> rfl
  | append_singleton es e ih =>
    have hlast : ((Graph.empty announce).insertAll es).reports [e] =
        [if announce = true ∨ e ∉ es then announcement e else duplicateNote e] :=
      congrArg ([·]) (report_insertAll_empty announce es e)
    rw [reports_append, List.filter_append, ih, hlast, eraseDups_concat]
    cases announce with
    | true => simp [announcement]
    | false =>
      -- The last addition is announced just if its edge is a first occurrence.
      by_cases he : e ∈ es
      · simp [he, duplicateNote]
      · simp [he, announcement]

end Graph

end StaticAccess
