import StaticAccess.Edge.Fields
import StaticAccess.Edge.Role
import StaticAccess.Store.OrderedMap
import StaticAccess.Value.Part

/-!
# Attributes of edges

An edge answers by name: with its fields, and with what they determine, its views. No field can be
assigned or deleted, but notes may be left on an edge: any values, under names that begin with an
underscore. A note can be replaced, but not deleted. Fields and notes are kept in one table, which
itself goes by a name. Only as a whole it can be replaced by any other table, and the views are then
those of the new table.

Beside the table, an edge has a few slots. What the slot of extra attributes holds answers to names
to which neither the table nor a view has an answer. A note may set names apart, which then have a
slot of their own to answer to them.

A note under the name of what the library needs for an assignment or for a listing of the fields
takes its place. It cannot do its work, so that from then on such requests fail.

This models attributes of `UsageEdge`, `FieldReadEdge` and `MethodCallEdge` that are read, assigned
or deleted, with `target_member`, `edge_type`, `source`, `target` and `__str__` among them, and the
listing of the fields. It leaves out what the classes hold, and not the edges: methods and class
variables that are asked for by their names.

## Main definitions

- `Request`: a question to an edge, or an attempt to change it.
- `Attributes`: an edge as a table of values, with `Attributes.answer` and `Attributes.assign`.
- `Attributes.step`, `Attributes.run`: requests to an edge, each with the reply to it.

## Main results

- `Attributes.get?_run`: requests that do not replace the table change no field.
- `Attributes.value_ofEdge`: before any request, the fields stand for what was recorded.
-/

namespace StaticAccess

/-- What an edge may be asked to do. -/
inductive Request where
  /-- To answer what goes by a name. -/
  | ask (name : String)
  /-- To let a name stand for a value. -/
  | assign (name : String) (value : Value)
  /-- To drop what goes by a name. -/
  | delete (name : String)
  /-- To do any of these with a value that is no name. -/
  | misnamed (name : Value)

/-- Whether a request is to replace the whole table of an edge. -/
def Request.replacesTable : Request → Bool
  | .assign name _ => Role.ofName name = .table
  | _ => false

/-- An edge as a table of values by name. -/
structure Attributes where
  /-- The kind of the edge; a bare edge has none. -/
  kind : Option Kind
  /-- The fields and the notes. -/
  table : OrderedMap String Value
  /-- The values of the slots. A slot without a value holds nothing. -/
  slots : OrderedMap String Value

namespace Attributes

/-- The attributes of an edge that was just built. -/
def ofEdge (e : AnyEdge) : Attributes where
  kind := e.kind?
  table := .ofList (e.fields.map fun p => (p.1, .string p.2))
  slots := .ofList [(Role.givenFieldsSlot, .list (e.fields.map fun p => .string p.1))]

/-- The form of the edge. -/
def schema (s : Attributes) : Schema := .ofKind s.kind

/-- The names of the declared fields. -/
def declared (s : Attributes) : List String :=
  ["source_class", "source_method", "target_class"] ++ (s.kind.map Kind.memberField).toList

/-- What a slot holds. -/
def slot (s : Attributes) (name : String) : Value := (s.slots.get? name).getD .null

/-- The refusal to answer what goes by a name. -/
def unknown (s : Attributes) (name : String) : Error := .noAttribute s.schema.name name

/-- Whether a name is set apart. Only an object can set names apart that are then looked up. -/
def isApart (s : Attributes) (name : String) : Except Error Bool := do
  let apart := (s.table.get? Role.apartName).getD (.object [])
  if ← apart.holds name then
    let _ ← apart.part? name
    return true
  else return false

/-- The extra attribute of a name. What counts as empty holds none. -/
def extra? (s : Attributes) (name : String) : Except Error (Option Value) := do
  let extra := s.slot Role.extraSlot
  if extra.truthy then
    if ← extra.holds name then extra.part? name else return none
  else return none

/-- What answers to a name to which neither the table nor a view has an answer. If nothing does,
that is a given error. -/
def otherwise (s : Attributes) (name : String) (missing : Error) : Except Error Value := do
  if ← s.isApart name then
    match ← (s.slot Role.apartSlot).part? name with
    | some v => return v
    | none => throw (s.unknown name)
  else
    match ← s.extra? name with
    | some v => return v
    | none => throw missing

/-- The field or note of a name, or what else answers to it. -/
def value (s : Attributes) (name : String) : Except Error Value :=
  match s.table.get? name with
  | some v => .ok v
  | none => s.otherwise name (s.unknown name)

/-- The answer of a view. For a view that lacks a field, something else may answer to its name. -/
def view (s : Attributes) (name : String) : Except Error Value → Except Error Value
  | .error (.noAttribute typeName asked) => s.otherwise name (.noAttribute typeName asked)
  | answer => answer

/-- The accessed member, which a bare edge does not have. -/
def member (s : Attributes) : Except Error Value :=
  match s.kind with
  | none => .error .undetermined
  | some kind => s.view "target_member" (s.value kind.memberField)

/-- The name of the kind, which a bare edge does not have. -/
def kindName (s : Attributes) : Except Error Value :=
  match s.kind with
  | none => .error .undetermined
  | some kind => .ok (.string kind.name)

/-- The class and the method that hold the access. -/
def source (s : Attributes) : Except Error Value :=
  s.view "source" do return .list [← s.value "source_class", ← s.value "source_method"]

/-- The class that owns the accessed member, and the member. -/
def target (s : Attributes) : Except Error Value :=
  s.view "target" do return .list [← s.value "target_class", ← s.member]

/-- The text of the edge: its source and its target, with an arrow between them. -/
def text (s : Attributes) : Except Error Value := do
  let sourceClass ← s.value "source_class"
  let sourceMethod ← s.value "source_method"
  let targetClass ← s.value "target_class"
  let targetMember ← s.member
  return .string (sourceClass.text ++ "." ++ sourceMethod.text ++ " -> " ++ targetClass.text ++
    "." ++ targetMember.text)

/-- The declared fields with their values. -/
def dump (s : Attributes) : Except Error Value :=
  match s.table.get? Role.dumpName, s.table.get? Role.writerName with
  | some v, _ => .error (.notCallable v.typeName)
  | none, some v => .error (.noAttribute v.typeName "to_python")
  | none, none => .ok (.object (s.table.entries.filter fun p => p.1 ∈ s.declared))

/-- What answers to a name according to its role. -/
def part (s : Attributes) (name : String) : Except Error Value :=
  match Role.ofName name with
  | .table => .ok (.object s.table.entries)
  | .slot => .ok (s.slot name)
  | .givenFields => .ok (s.slot Role.givenFieldsSlot)
  | .references => .ok .null
  | _ => s.value name

/-- The answer to a question by name: a view, or a part. -/
def answer (s : Attributes) (name : String) : Except Error Value :=
  match name with
  | "str" => s.text
  | "source" => s.source
  | "target" => s.target
  | "target_member" => s.member
  | "edge_type" => s.kindName
  | "dump" => s.dump
  | name => s.part name

/-- The refusal to change what goes by a name. -/
def refusal (s : Attributes) (name : String) : Error := .invalid s.schema [(name, .frozen)]

/-- The error of an assignment to a name that the notes in the way of assignments cause. -/
def obstacle (s : Attributes) (name : String) : Option Error :=
  let setter := (s.table.get? Role.setterName).map fun v => .notCallable v.typeName
  match s.table.get? Role.settersName with
  | none => setter
  | some (.object setters) =>
    match setters.find? fun p => p.1 = name with
    | none => setter
    | some (_, .null) => setter
    | some (_, v) => some (.notCallable v.typeName)
  | some v => some (.noAttribute v.typeName "get")

/-- The attributes after an assignment that nothing is in the way of. -/
def write (s : Attributes) (name : String) (value : Value) : Except Error Attributes :=
  match Role.ofName name with
  | .frozen => .error (s.refusal name)
  | .note => .ok { s with table := s.table.set name value }
  | .slot => .ok { s with slots := s.slots.set name value }
  | .table =>
    match value with
    | .object members => .ok { s with table := .ofList members }
    | value => .error (.notTable value.typeName)
  | .givenFields => .error (.readOnly s.schema.name name)
  | .edgeClass => .error (.notClass value.typeName)
  | .references => .error (.notWritable Schema.bareEdge.name name)

/-- The attributes after an assignment. -/
def assign (s : Attributes) (name : String) (value : Value) : Except Error Attributes :=
  match s.obstacle name with
  | some e => .error e
  | none => s.write name value

/-- The attributes without what goes by a name. Only what answers to a name that is set apart can
be dropped. -/
def erase (s : Attributes) (name : String) : Except Error Attributes := do
  if ← s.isApart name then
    match ← (s.slot Role.apartSlot).without? name with
    | some rest => return { s with slots := s.slots.set Role.apartSlot rest }
    | none => throw (s.unknown name)
  else throw (s.refusal name)

/-- The attributes after a request, and the reply to it. What is granted without an answer has
none. -/
def step (s : Attributes) : Request → Attributes × Except Error (Option Value)
  | .ask name => (s, (s.answer name).map some)
  | .assign name value =>
    match s.assign name value with
    | .ok s' => (s', .ok none)
    | .error e => (s, .error e)
  | .delete name =>
    match s.erase name with
    | .ok s' => (s', .ok none)
    | .error e => (s, .error e)
  | .misnamed name => (s, .error (.notName name.typeName))

/-- The attributes after some requests, and the reply to each. -/
def run (s : Attributes) : List Request → Attributes × List (Except Error (Option Value))
  | [] => (s, [])
  | r :: requests =>
    let (s, reply) := s.step r
    let (s, replies) := s.run requests
    (s, reply :: replies)

/-- An assignment that does not replace the table changes only names that begin with an
underscore. -/
theorem get?_assign {s t : Attributes} {name field : String} {value : Value}
    (h : s.assign name value = .ok t) (hn : Role.ofName name ≠ .table)
    (hf : isNoteName field = false) : t.table.get? field = s.table.get? field := by
  unfold assign at h
  split at h
  · cases h
  unfold write at h
  split at h
  · cases h
  · next hr =>
    cases h
    rw [OrderedMap.get?_set, if_neg]
    rintro rfl
    rw [Role.ofName_eq_frozen_iff.2 hf] at hr
    cases hr
  · cases h
    rfl
  · next hr => exact absurd hr hn
  all_goals cases h

/-- To drop what goes by a name does not change the table. -/
theorem table_erase {s t : Attributes} {name : String} (h : s.erase name = .ok t) :
    t.table = s.table := by
  simp only [erase, bind, Except.bind] at h
  repeat' split at h
  all_goals cases h
  rfl

/-- A request that does not replace the table changes no field. -/
theorem get?_step (s : Attributes) {r : Request} {field : String} (hr : r.replacesTable = false)
    (hf : isNoteName field = false) : (s.step r).1.table.get? field = s.table.get? field := by
  cases r with
  | ask name => rfl
  | assign name value =>
    simp only [step]
    split
    · next ha => exact get?_assign ha (of_decide_eq_false hr) hf
    · rfl
  | delete name =>
    simp only [step]
    split
    · next he => rw [table_erase he]
    · rfl
  | misnamed name => rfl

/-- Requests that do not replace the table change no field, however many there are. -/
theorem get?_run (s : Attributes) {requests : List Request} {field : String}
    (hr : ∀ r ∈ requests, r.replacesTable = false) (hf : isNoteName field = false) :
    (s.run requests).1.table.get? field = s.table.get? field := by
  induction requests generalizing s with
  | nil => rfl
  | cons r requests ih =>
    rw [List.forall_mem_cons] at hr
    exact (ih _ hr.2).trans (s.get?_step hr.1 hf)

/-- Before any request, the fields stand for what was recorded. -/
theorem value_ofEdge (e : AnyEdge) {name value : String} (h : (name, value) ∈ e.fields) :
    (ofEdge e).value name = .ok (.string value) := by
  have hm : (ofEdge e).table.get? name = some (.string value) := by
    cases e with
    | bare e =>
      simp only [AnyEdge.fields, List.mem_cons, List.not_mem_nil, or_false, Prod.mk.injEq] at h
      rcases h with ⟨rfl, rfl⟩ | ⟨rfl, rfl⟩ | ⟨rfl, rfl⟩ <;> rfl
    | full e =>
      obtain ⟨kind, _, _, _, _⟩ := e
      simp only [AnyEdge.fields, Edge.fields, List.mem_cons, List.not_mem_nil, or_false,
        Prod.mk.injEq] at h
      rcases h with ⟨rfl, rfl⟩ | ⟨rfl, rfl⟩ | ⟨rfl, rfl⟩ | ⟨rfl, rfl⟩ <;> cases kind <;> rfl
  simp only [Attributes.value, hm]

end Attributes

end StaticAccess
