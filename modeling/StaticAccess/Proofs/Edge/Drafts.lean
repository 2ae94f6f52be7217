import StaticAccess.Edge.Fields

/-!
# Edges that drafts describe

A draft describes an edge if its four values are strings, and then the edge of its kind with these
names. Nothing else about a draft matters, so drafts of the two kinds are checked alike.

## Main definitions

- `Draft.swap`: the draft of the other kind with the same values.

## Main results

- `Draft.toOption_edge`: the edge that a draft describes, if it does.
- `Draft.toOption_edge_swap`, `Draft.toOption_edges_swap`: drafts with the kinds exchanged.
-/

namespace StaticAccess

/-- The string that is given for a field, if one is. -/
theorem Fields.toOption_string (fields : Fields) (name : String) :
    (fields.string name).toOption = (fields.get? name).bind Value.string? := by
  rw [string]
  cases fields.get? name with
  | none => rfl
  | some v => cases v <;> rfl

namespace Draft

/-- A draft describes an edge if its four values are strings. -/
theorem toOption_edge (d : Draft) :
    d.edge.toOption =
      d.sourceClass.string?.bind fun sourceClass => d.sourceMethod.string?.bind fun sourceMethod =>
        d.targetClass.string?.bind fun targetClass => d.targetMember.string?.map fun targetMember =>
          { kind := d.kind, sourceClass, sourceMethod, targetClass, targetMember } := by
  have hgiven {name : String} {v : Value} (h : d.fields.get? name = some v) :
      v.string? = (d.fields.string name).toOption := by
    rw [Fields.toOption_string, h]
    rfl
  have hsourceClass : d.fields.get? "source_class" = some d.sourceClass := rfl
  have hsourceMethod : d.fields.get? "source_method" = some d.sourceMethod := rfl
  have htargetClass : d.fields.get? "target_class" = some d.targetClass := rfl
  have htargetMember : d.fields.get? d.kind.memberField = some d.targetMember := by
    -- The name of the fourth field depends on the kind, but differs from the other three.
    rw [fields]
    cases d.kind <;> rfl
  rw [edge, Edge.ofFields, hgiven hsourceClass, hgiven hsourceMethod, hgiven htargetClass,
    hgiven htargetMember]
  -- What is left is to read four strings, each of which may be missing.
  cases d.fields.string "source_class" with
  | error e => rfl
  | ok a =>
    cases d.fields.string "source_method" with
    | error e => rfl
    | ok b =>
      cases d.fields.string "target_class" with
      | error e => rfl
      | ok c => cases d.fields.string d.kind.memberField <;> rfl

/-- The draft of the other kind with the same four values. -/
def swap (d : Draft) : Draft := { d with kind := d.kind.swap }

/-- The values of an edge are checked in the same way for both kinds. -/
theorem toOption_edge_swap (d : Draft) : d.swap.edge.toOption = d.edge.toOption.map Edge.swap := by
  rw [toOption_edge, toOption_edge]
  simp only [Option.map_bind, Function.comp_def, Option.map_map]
  rfl

/-- Drafts describe edges if each of them does. -/
theorem toOption_edges_cons (d : Draft) (ds : List Draft) :
    (edges (d :: ds)).toOption =
      d.edge.toOption.bind fun e => (edges ds).toOption.map (e :: ·) := by
  rw [edges, List.mapM_cons, edges]
  cases d.edge with
  | error f => rfl
  | ok e =>
    show (Except.bind (ds.mapM edge) _).toOption = _
    cases ds.mapM edge <;> rfl

theorem toOption_edges_swap (ds : List Draft) :
    (edges (ds.map swap)).toOption = (edges ds).toOption.map (List.map Edge.swap) := by
  induction ds with
  | nil => rfl
  | cons d ds ih =>
    rw [List.map_cons, toOption_edges_cons, toOption_edges_cons, ih, toOption_edge_swap]
    simp [Option.map_bind, Option.bind_map, Function.comp_def]

end Draft

end StaticAccess
