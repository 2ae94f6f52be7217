import StaticAccess.Proofs.Session.Agreement

/-!
# Steps that fail

A step can fail because a name is not a string, because an operand is no edge or lists none,
because settings are not valid or because a snapshot cannot be changed. In each case it fails
before it has done anything: an action either returns an answer, or it begins no graph anew, adds
no edge and keeps no snapshot. All that it may have done is to warn about an assignment file.

An update of a graph can fail half-way, at something else among edges, and it then keeps the edges
before it. In a session this does not happen, since no operand there mixes edges with other things.

## Main definitions

- `Action.Fails`: the causes for which an action fails.

## Main results

- `Graph.result_update_eq_error_iff`, `Graph.update_of_mixed`: when an update fails, and what it
  leaves.
- `Session.result_eq_error_iff`: an action fails for one of these causes, and for no other.
- `Session.failed_step`: a step that fails leaves no trace but warnings about an assignment file.
- `Session.failing_settings_warn`: it can leave those.
-/

namespace StaticAccess

namespace Action

/-- The argument that an action looks up and checks, if it has one. An edge that is given by its
names is an argument as well. -/
def argument? : Action → Option Argument
  | .record d => some (.edge d)
  | .recorded d => some (.edge d)
  | .add argument => some argument
  | .contains argument => some argument
  | .update argument => some argument
  | .equals argument => some argument
  | _ => none

/-- The class that an action asks for, if it asks for one. -/
def className? : Action → Option Value
  | .accessors _ className => some className
  | .dependencies className => some className
  | _ => none

/-- The causes for which an action fails in a session. -/
inductive Fails (s : Session) : Action → Error → Prop
  /-- The settings are not valid. -/
  | settings {sources : Sources} {e : Error} :
      Settings.load sources = .error e → Fails s (.configure sources) e
  /-- A name of an edge is not a string. -/
  | name {action : Action} {argument : Argument} {e : Error} :
      action.argument? = some argument → s.operand argument = .error e → Fails s action e
  /-- Something other than an edge is to be added as one. -/
  | notEdge {argument : Argument} {operand : Operand} {typeName : String} :
      s.operand argument = .ok operand → operand.item = .foreign typeName →
        Fails s (.add argument) (.notEdge typeName)
  /-- What is to be added edge by edge lists nothing. -/
  | notIterable {argument : Argument} {operand : Operand} {e : Error} :
      s.operand argument = .ok operand → operand.items = .error e → Fails s (.update argument) e
  /-- What is to be added edge by edge begins with something else. -/
  | notEdges {argument : Argument} {operand : Operand} {typeName : String} {items : List Item} :
      s.operand argument = .ok operand → operand.items = .ok (.foreign typeName :: items) →
        Fails s (.update argument) (.notEdge typeName)
  /-- The class that is asked for is not a string. -/
  | className {action : Action} {className : Value} {e : Error} :
      action.className? = some className → classNameOf className = .error e → Fails s action e
  /-- A snapshot cannot be changed. -/
  | frozen (name : String) (change : Change) : Fails s (.changeSnapshot name change) .frozenGraph

end Action

/-! ## Updates that fail -/

section Updates

variable {g : Graph} {operand : Operand} {es : List Edge} {typeName : String} {rest : List Item}
  {e : Error}

/-- Items that are not all edges: behind some edges comes something else. -/
def Item.mixed (es : List Edge) (typeName : String) (rest : List Item) : List Item :=
  es.map .edge ++ .foreign typeName :: rest

/-- Items cannot all be added if there is something else among the edges. The first such item is
named. -/
theorem Item.verdict_eq_error_iff {items : List Item} :
    Item.verdict items = .error e ↔
      ∃ es typeName rest, items = mixed es typeName rest ∧ e = .notEdge typeName := by
  constructor
  · intro h
    induction items with
    | nil => cases h
    | cons item items ih =>
      cases item with
      | edge f =>
        obtain ⟨es, typeName, rest, rfl, he⟩ := ih h
        exact ⟨f :: es, typeName, rest, rfl, he⟩
      | foreign typeName => exact ⟨[], typeName, items, rfl, (Except.error.inj h).symm⟩
  · rintro ⟨es, typeName, rest, rfl, rfl⟩
    induction es with
    | nil => rfl
    | cons f es ih => exact ih

theorem Item.leading_mixed (es : List Edge) (typeName : String) (rest : List Item) :
    leading (mixed es typeName rest) = es := by
  induction es with
  | nil => rfl
  | cons f es ih => exact congrArg (f :: ·) ih

/-- An update fails if there is nothing to list, or if something else is listed among edges. -/
theorem Graph.result_update_eq_error_iff :
    (g.update operand).result = .error e ↔
      operand.items = .error e ∨
        ∃ es typeName rest, operand.items = .ok (Item.mixed es typeName rest) ∧
          e = .notEdge typeName := by
  rw [update_eq]
  show operand.items.bind Item.verdict = .error e ↔ _
  cases operand.items with
  | error f => simp [Except.bind]
  | ok items =>
    rw [or_iff_right nofun]
    simp only [Except.ok.injEq]
    exact Item.verdict_eq_error_iff

/-- An update that fails among edges has added and announced those before the failure. -/
theorem Graph.update_of_mixed (h : operand.items = .ok (Item.mixed es typeName rest)) :
    g.update operand = ⟨g.insertAll es, g.reports es, .error (.notEdge typeName)⟩ := by
  have hadded : operand.added = es := by
    rw [Operand.added, h]
    exact Item.leading_mixed es typeName rest
  have hverdict : operand.verdict = .error (.notEdge typeName) := by
    rw [Operand.verdict, h]
    exact Item.verdict_eq_error_iff.2 ⟨es, typeName, rest, rfl, rfl⟩
  rw [update_eq, hadded, hverdict]

/-- Of a list with an edge and a number, the edge is added before the number ends the update. -/
example :
    let read : Edge := ⟨.fieldRead, "app.Main", "run", "lib.Store", "value"⟩
    let g := Graph.empty true
    g.update (.list [.edge read, .foreign "int"]) =
      ⟨g.insert read, [g.report read], .error (.notEdge "int")⟩ := rfl

/-- The operands of a session do not mix edges with other things: if anything else is listed, then
it is listed first. -/
theorem Session.eq_nil_of_mixed {s : Session} {argument : Argument}
    (hoperand : s.operand argument = .ok operand)
    (h : operand.items = .ok (Item.mixed es typeName rest)) : es = [] := by
  have hedges (fs : List Edge) (hfs : fs.map .edge = Item.mixed es typeName rest) : False := by
    have hverdict := congrArg Item.verdict hfs
    rw [Item.verdict_map_edge, eq_comm] at hverdict
    cases hverdict.symm.trans (Item.verdict_eq_error_iff.2 ⟨es, typeName, rest, rfl, rfl⟩)
  have hforeign {α : Type} (names : α → String) (xs : List α)
      (hxs : (xs.map fun x => .foreign (names x)) = Item.mixed es typeName rest) : es = [] := by
    have hleading := congrArg Item.leading hxs
    rwa [Item.leading_map_foreign, Item.leading_mixed, eq_comm] at hleading
  cases argument with
  | edge d =>
    rw [Session.operand] at hoperand
    cases hd : d.edge with
    | error f =>
      rw [hd] at hoperand
      cases hoperand
    | ok f =>
      rw [hd] at hoperand
      obtain rfl := Except.ok.inj hoperand
      exact hforeign (fun _ => "tuple") f.fields (Except.ok.inj h)
  | graph name =>
    obtain rfl := Except.ok.inj hoperand
    exact (hedges _ (Except.ok.inj h)).elim
  | edges ds =>
    rw [Session.operand] at hoperand
    cases hds : Draft.edges ds with
    | error f =>
      rw [hds] at hoperand
      cases hoperand
    | ok fs =>
      rw [hds] at hoperand
      obtain rfl := Except.ok.inj hoperand
      exact (hedges fs (Except.ok.inj h)).elim
  | bare =>
    obtain rfl := Except.ok.inj hoperand
    exact hforeign (fun _ => "tuple") [(), (), ()] (Except.ok.inj h)
  | value v =>
    obtain rfl := Except.ok.inj hoperand
    rw [Operand.items] at h
    cases hv : v.items? with
    | none =>
      rw [hv] at h
      cases h
    | some values =>
      rw [hv] at h
      exact hforeign Value.typeName values (Except.ok.inj h)

end Updates

namespace Session

variable {s : Session} {target : String} {action : Action} {e : Error}

/-! ## Causes -/

theorem fails_of_error (h : (s.perform target action).result = .error e) : action.Fails s e := by
  cases action with
  | configure sources =>
    rw [perform] at h
    cases hload : Settings.load sources with
    | error f =>
      rw [hload] at h
      cases h
      exact .settings hload
    | ok settings =>
      rw [hload] at h
      cases h
  | record d =>
    rw [perform] at h
    cases hd : d.edge with
    | error f =>
      rw [hd] at h
      cases h
      exact .name rfl (map_eq_error_iff.2 hd)
    | ok f =>
      rw [hd] at h
      cases h
  | recorded d => exact .name rfl (map_eq_error_iff.2 (map_eq_error_iff.1 h))
  | contains argument => exact .name rfl (map_eq_error_iff.1 h)
  | equals argument => exact .name rfl (map_eq_error_iff.1 h)
  | add argument =>
    rw [perform] at h
    cases hargument : s.operand argument with
    | error f =>
      rw [hargument] at h
      cases h
      exact .name rfl hargument
    | ok operand =>
      rw [hargument] at h
      replace h : ((s.graph target).add operand.item).result = .error e := map_eq_error_iff.1 h
      cases hitem : operand.item with
      | edge f =>
        rw [hitem] at h
        cases h
      | foreign typeName =>
        rw [hitem] at h
        cases h
        exact .notEdge hargument hitem
  | update argument =>
    rw [perform] at h
    cases hargument : s.operand argument with
    | error f =>
      rw [hargument] at h
      cases h
      exact .name rfl hargument
    | ok operand =>
      rw [hargument] at h
      obtain hitems | ⟨es, typeName, rest, hitems, rfl⟩ :=
        Graph.result_update_eq_error_iff.1 (map_eq_error_iff.1 h)
      · exact .notIterable hargument hitems
      · obtain rfl := eq_nil_of_mixed hargument hitems
        exact .notEdges hargument hitems
  | accessors kind className => exact .className rfl (map_eq_error_iff.1 h)
  | dependencies className => exact .className rfl (map_eq_error_iff.1 h)
  | changeSnapshot name change =>
    obtain rfl : .frozenGraph = e := Except.error.inj h
    exact .frozen name change
  | _ => cases h

theorem error_of_fails (h : action.Fails s e) : (s.perform target action).result = .error e := by
  cases h with
  | settings hload => rw [perform, hload]
  | name hargument hoperand =>
    cases action with
    | record d =>
      obtain rfl := Option.some.inj hargument
      have hd : d.edge = .error e := map_eq_error_iff.1 hoperand
      rw [perform, hd]
      rfl
    | recorded d =>
      obtain rfl := Option.some.inj hargument
      exact map_eq_error_iff.2 (map_eq_error_iff.1 hoperand)
    | add argument =>
      obtain rfl := Option.some.inj hargument
      rw [perform, hoperand]
      rfl
    | update argument =>
      obtain rfl := Option.some.inj hargument
      rw [perform, hoperand]
      rfl
    | contains argument =>
      obtain rfl := Option.some.inj hargument
      exact map_eq_error_iff.2 hoperand
    | equals argument =>
      obtain rfl := Option.some.inj hargument
      exact map_eq_error_iff.2 hoperand
    | _ => cases hargument
  | notEdge hoperand hitem =>
    rw [perform, hoperand]
    refine map_eq_error_iff.2 ?_
    rw [hitem]
    rfl
  | notIterable hoperand hitems =>
    rw [perform, hoperand]
    refine map_eq_error_iff.2 ?_
    rw [Graph.update, hitems]
  | notEdges hoperand hitems =>
    rw [perform, hoperand]
    refine map_eq_error_iff.2 ?_
    rw [Graph.update, hitems]
    rfl
  | className hclass hname =>
    cases action with
    | accessors kind className =>
      obtain rfl := Option.some.inj hclass
      exact map_eq_error_iff.2 hname
    | dependencies className =>
      obtain rfl := Option.some.inj hclass
      exact map_eq_error_iff.2 hname
    | _ => cases hclass
  | frozen name change => rfl

/-- An action fails for one of the causes, and for no other. -/
theorem result_eq_error_iff : (s.perform target action).result = .error e ↔ action.Fails s e :=
  ⟨fails_of_error, error_of_fails⟩

end Session

/-! ## Consequences -/

namespace Action.Fails

open Session

variable {s : Session} {action : Action} {e : Error}

/-- An action that fails begins no graph anew. -/
theorem created_eq_none (h : action.Fails s e) : action.created = none := by
  cases h with
  | settings hload => rw [Action.created, hload]
  | name hargument hoperand =>
    cases action with
    | create announce => cases hargument
    | configure sources => cases hargument
    | _ => rfl
  | className hclass hname =>
    cases action with
    | create announce => cases hclass
    | configure sources => cases hclass
    | _ => rfl
  | _ => rfl

/-- An action that fails adds no edge. -/
theorem additions_eq_nil (h : action.Fails s e) : action.additions s.listing = [] := by
  cases h with
  | name hargument hoperand =>
    cases action with
    | record d =>
      obtain rfl := Option.some.inj hargument
      have hd : d.edge = .error e := map_eq_error_iff.1 hoperand
      rw [Action.additions, hd]
      rfl
    | add argument =>
      obtain rfl := Option.some.inj hargument
      rw [additions_add, hoperand]
    | update argument =>
      obtain rfl := Option.some.inj hargument
      rw [additions_update, hoperand]
    | _ => rfl
  | notEdge hoperand hitem =>
    rw [additions_add, hoperand]
    show Item.leading [_] = []
    rw [hitem]
    rfl
  | notIterable hoperand hitems =>
    rw [additions_update, hoperand]
    show Operand.added _ = []
    rw [Operand.added, hitems]
  | notEdges hoperand hitems =>
    -- Only the edges before the first other item would be added, and there are none.
    rw [additions_update, hoperand]
    show Operand.added _ = []
    rw [Operand.added, hitems]
    rfl
  | className hclass hname =>
    cases action with
    | accessors kind className => rfl
    | dependencies className => rfl
    | _ => cases hclass
  | _ => rfl

/-- An action that fails keeps no snapshot. -/
theorem keptName_eq_none (h : action.Fails s e) : action.keptName = none := by
  cases h with
  | name hargument hoperand =>
    cases action with
    | snapshot name => cases hargument
    | _ => rfl
  | className hclass hname =>
    cases action with
    | snapshot name => cases hclass
    | _ => rfl
  | _ => rfl

/-- An action that fails changes nothing that is under a name. -/
theorem indistinct_perform (h : action.Fails s e) (target : String) :
    (s.perform target action).session.Indistinct s where
  graph_eq name := by
    rw [graph_perform, h.created_eq_none, h.additions_eq_nil]
    exact (s.graph_eq_ite target name).symm
  snapshot_eq name := by
    rw [snapshot_perform, h.keptName_eq_none, if_neg nofun]

/-- An action that fails announces no addition. -/
theorem log_perform (h : action.Fails s e) (target : String) :
    (s.perform target action).log = action.warnings := by
  rw [Session.log_perform, h.additions_eq_nil]
  exact List.append_nil _

end Action.Fails

namespace Session

/-- A step that fails leaves no trace, whatever made it fail and whatever was done before: each
graph and each kept snapshot is what it was, the graphs emit no record, and all later steps show
what they would have shown without it. At most there are the warnings of the reader of an
assignment file, which has a logger of its own. -/
theorem failed_step (s : Session) (x : Step) (e : Error) (h : (s.step x).2.result = .error e) :
    x.action.Fails s e ∧
      (∀ name, (s.step x).1.graph name = s.graph name) ∧
      (∀ name, (s.step x).1.snapshot name = s.snapshot name) ∧
      (s.step x).2.graphLog = [] ∧
      (s.step x).2.log = x.action.warnings ∧
      ∀ later, ((s.step x).1.run later).2 = (s.run later).2 := by
  have hfails : x.action.Fails s e := result_eq_error_iff.1 h
  have hsame : (s.step x).1.Indistinct s := hfails.indistinct_perform x.target
  have hlog : (s.step x).2.log = x.action.warnings := hfails.log_perform x.target
  refine ⟨hfails, hsame.graph_eq, hsame.snapshot_eq, ?_, hlog, fun later => (hsame.run later).2⟩
  rw [Outcome.graphLog, hlog, List.filter_eq_nil_iff]
  intro r hr
  rw [Action.logger_of_mem_warnings hr]
  decide

/-- A list of numbers cannot be added to a graph that holds an edge, and settings with an unknown
level cannot take its place, though the assignment file is read and a warning emitted. -/
theorem failed_step_update_and_settings :
    let read : Edge := ⟨.fieldRead, "app.Main", "run", "lib.Store", "value"⟩
    let s := (start.run [⟨"g", .record (.ofEdge read)⟩, ⟨"g", .snapshot "kept"⟩]).1
    let update : Step := ⟨"g", .update (.value (.list [.int 1]))⟩
    let settings : Step := ⟨"g", .configure ⟨[("log_level", .string "verbose")], [], some "=x"⟩⟩
    (s.step update).2.result = .error (.notEdge "int") ∧
      (s.step update).1.graph "g" = s.graph "g" ∧ ((s.step update).1.graph "g").toList = [read] ∧
      (s.step update).1.snapshot "kept" = s.snapshot "kept" ∧ (s.step update).2.log = [] ∧
      (s.step settings).2.result =
        .error (.invalid .settings [("log_level", .unknownLevel "verbose")]) ∧
      (s.step settings).1.graph "g" = s.graph "g" ∧
      (s.step settings).1.snapshot "kept" = s.snapshot "kept" ∧
      (s.step settings).2.graphLog = [] ∧ (s.step settings).2.log = [Sources.warning 1] := by
  intro read s update settings
  have hupdate : (s.step update).2.result = .error (.notEdge "int") := rfl
  have hsettings : (s.step settings).2.result =
      .error (.invalid .settings [("log_level", .unknownLevel "verbose")]) := by decide +kernel
  have hwarnings : settings.action.warnings = [Sources.warning 1] := by decide +kernel
  obtain ⟨-, hgraph, hsnapshot, -, hlog, -⟩ := failed_step s update _ hupdate
  obtain ⟨-, hgraph', hsnapshot', hgraphLog', hlog', -⟩ := failed_step s settings _ hsettings
  refine ⟨hupdate, hgraph "g", ?_, hsnapshot "kept", hlog, hsettings, hgraph' "g",
    hsnapshot' "kept", hgraphLog', hlog'.trans hwarnings⟩
  rw [hgraph]
  decide

/-- A step that fails can leave a record. Here an assignment file begins with an equals sign, which
the reader warns about, before the level turns out to be unknown. -/
theorem failing_settings_warn :
    let x : Step := ⟨"g", .configure ⟨[("log_level", .string "verbose")], [], some "=x"⟩⟩
    (start.step x).2.result =
        .error (.invalid .settings [("log_level", .unknownLevel "verbose")]) ∧
      (start.step x).2.log = [Sources.warning 1] ∧ (start.step x).2.log ≠ [] := by
  decide +kernel

end Session

end StaticAccess
