import StaticAccess.Order.SortedSet

/-!
# Edges

An edge records that a method of a class reads a static field of a class, or calls a static
method of it. The name of a class has an internal form, `a/b/C`, and a dotted form, `a.b.C`. Edges
keep names as they are given; their internal form is meant, though nothing depends on that.

This models the values of `EdgeType`, `FieldReadEdge` and `MethodCallEdge`, and `to_dotted_name`.
How edges are built from values is modelled by `Edge.ofFields`, and what else they answer to by
`Attributes`.

## Main definitions

- `dotted`: the dotted form of a name in either form or in a mixture.
- `Kind`: field read or method call.
- `Location`: a member of a class.
- `Edge`: a static access, with `Edge.source`, `Edge.target` and `Edge.text`.
- `Edge.swap`: the edge of the other kind with the same names.

## Main results

- `Edge.eq_of_ends`: an edge is determined by its source, its target and its kind.
-/

namespace StaticAccess

/-- The character that stands in the dotted form of a name where `c` stands in the name. -/
def dottedChar (c : Char) : Char := if c = '/' then '.' else c

/-- The dotted form of a class name: every slash becomes a dot. -/
def dotted (name : String) : String := String.ofList (name.toList.map dottedChar)

@[simp]
theorem toList_dotted (name : String) : (dotted name).toList = name.toList.map dottedChar := by
  simp [dotted]

/-- A name in dotted form is its own dotted form. -/
@[simp]
theorem dotted_dotted (name : String) : dotted (dotted name) = dotted name := by
  rw [← String.toList_inj]
  simp only [toList_dotted, List.map_map]
  apply List.map_congr_left
  intro c _
  simp only [Function.comp, dottedChar]
  split <;> simp_all

/-- The two ways to access a static member. -/
inductive Kind where
  | fieldRead
  | methodCall
  deriving DecidableEq, Repr

namespace Kind

/-- The name of a kind in answers, also the key under which edges of the kind are kept. -/
def name : Kind → String
  | .fieldRead => "field_read"
  | .methodCall => "method_call"

/-- How log messages speak of a kind. -/
def phrase : Kind → String
  | .fieldRead => "field read"
  | .methodCall => "method call"

/-- The other kind. -/
def swap : Kind → Kind
  | .fieldRead => .methodCall
  | .methodCall => .fieldRead

theorem name_injective {k l : Kind} (h : k.name = l.name) : k = l := by
  cases k <;> cases l <;> simp_all [name]

end Kind

/-- A member of a class: a field or a method. -/
structure Location where
  /-- The class that owns the member. -/
  className : String
  /-- The name of the member. -/
  member : String
  deriving DecidableEq, Repr

/-- A static access: a method reads a static field or calls a static method. -/
structure Edge where
  /-- Whether a field is read or a method called. -/
  kind : Kind
  /-- The class that holds the access. -/
  sourceClass : String
  /-- The method that holds the access. -/
  sourceMethod : String
  /-- The class that owns the accessed member. -/
  targetClass : String
  /-- The accessed field or method. -/
  targetMember : String
  deriving DecidableEq, Repr

namespace Edge

/-- The location of the access. -/
def source (e : Edge) : Location := ⟨e.sourceClass, e.sourceMethod⟩

/-- The location that is accessed. -/
def target (e : Edge) : Location := ⟨e.targetClass, e.targetMember⟩

/-- The text of an edge: its source and its target, with an arrow between them. -/
def text (e : Edge) : String :=
  e.sourceClass ++ "." ++ e.sourceMethod ++ " -> " ++ e.targetClass ++ "." ++ e.targetMember

/-- The strings of an edge, the name of its kind first. -/
def strings (e : Edge) : List String :=
  [e.kind.name, e.sourceClass, e.sourceMethod, e.targetClass, e.targetMember]

/-- The edge of the other kind with the same four names. -/
def swap (e : Edge) : Edge := { e with kind := e.kind.swap }

/-- An edge is determined by its source, its target and its kind. -/
theorem eq_of_ends {e f : Edge} (hs : e.source = f.source) (ht : e.target = f.target)
    (hk : e.kind = f.kind) : e = f := by
  cases e; cases f
  simp_all [source, target]

theorem strings_injective {e f : Edge} (h : e.strings = f.strings) : e = f := by
  cases e; cases f
  simp only [strings, List.cons.injEq] at h
  simp [Kind.name_injective h.1, h]

/-- Edges in the order of their strings. -/
instance : Ranked Edge := .ofKey strings strings_injective

end Edge

end StaticAccess
