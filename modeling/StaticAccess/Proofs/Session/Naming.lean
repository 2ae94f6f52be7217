import StaticAccess.Proofs.Graph.Accesses
import StaticAccess.Proofs.Session.Contents
import StaticAccess.Proofs.Session.Similarity

/-!
# Classes that a session names

The actions that name classes filter and convert the edges of a graph at different points. What they
answer after a run is said here in terms of the edges that were added, whatever spellings were used
for them and are used in the question: names count as the same if their dotted forms are.

## Main definitions

- `Session.Names`: an action answers with the names that have a property.

## Main results

- `Session.accesses_run`: the accesses between classes after a run.
- `Session.naming_run`: the names in all answers after a run.
-/

namespace StaticAccess

namespace Session

/-- An action answers with the names that have a property, each of them once and in order. -/
def Names (s : Session) (target : String) (action : Action) (p : String → Prop) : Prop :=
  ∃ names : SortedSet String,
    (s.perform target action).result = .ok (.names names.toList) ∧ ∀ c, c ∈ names ↔ p c

/-- Actions that answer with the same names have the same result. -/
theorem Names.result_eq {s t : Session} {a b : String} {x y : Action} {p q : String → Prop}
    (hx : s.Names a x p) (hy : t.Names b y q) (h : ∀ c, p c ↔ q c) :
    (s.perform a x).result = (t.perform b y).result := by
  obtain ⟨names, hresult, hnames⟩ := hx
  obtain ⟨others, hother, hothers⟩ := hy
  -- A set, and with it the order in which it is listed, is determined by its elements.
  have hsame : names = others :=
    SortedSet.ext_mem fun c => (hnames c).trans ((h c).trans (hothers c).symm)
  rw [hresult, hother, hsame]

/-- After any run, a class has an access to another one if an edge with these ends was added. -/
theorem accesses_run (steps : List Step) (name : String) {kind : Kind} {c d : String} :
    ((start.run steps).1.graph name).Accesses kind c d ↔
      ∃ e ∈ Ledger.start.run steps name,
        e.kind = kind ∧ dotted e.sourceClass = c ∧ dotted e.targetClass = d := by
  simp only [Graph.Accesses, Graph.mem_toList_iff (reachable_run steps name), contains_run,
    decide_eq_true_eq]

section Run

variable (steps : List Step) (name : String)

theorem names_accessors_run (kind : Kind) (className : String) :
    (start.run steps).1.Names name (.accessors kind (.string className)) fun c =>
      ∃ e ∈ Ledger.start.run steps name, e.kind = kind ∧ dotted e.sourceClass = c ∧
        dotted e.targetClass = dotted className :=
  ⟨_, rfl, fun _ => Graph.mem_accessors.trans (accesses_run steps name)⟩

theorem names_dependencies_run (className : String) :
    (start.run steps).1.Names name (.dependencies (.string className)) fun c =>
      ∃ e ∈ Ledger.start.run steps name, dotted e.sourceClass = dotted className ∧
        dotted e.targetClass = c := by
  refine ⟨_, rfl, fun c => Graph.mem_dependencies.trans ?_⟩
  simp only [accesses_run]
  constructor
  · rintro ⟨kind, e, he, -, hends⟩
    exact ⟨e, he, hends⟩
  · rintro ⟨e, he, hends⟩
    exact ⟨e.kind, e, he, rfl, hends⟩

theorem names_sourceClasses_run :
    (start.run steps).1.Names name .sourceClasses fun c =>
      ∃ e ∈ Ledger.start.run steps name, dotted e.sourceClass = c := by
  refine ⟨_, rfl, fun c => Graph.mem_sourceClasses.trans ?_⟩
  simp only [accesses_run]
  constructor
  · rintro ⟨kind, d, e, he, -, hc, -⟩
    exact ⟨e, he, hc⟩
  · rintro ⟨e, he, hc⟩
    exact ⟨e.kind, _, e, he, rfl, hc, rfl⟩

theorem names_targetClasses_run :
    (start.run steps).1.Names name .targetClasses fun c =>
      ∃ e ∈ Ledger.start.run steps name, dotted e.targetClass = c := by
  refine ⟨_, rfl, fun c => Graph.mem_targetClasses.trans ?_⟩
  simp only [accesses_run]
  constructor
  · rintro ⟨kind, d, e, he, -, -, hc⟩
    exact ⟨e, he, hc⟩
  · rintro ⟨e, he, hc⟩
    exact ⟨e.kind, _, e, he, rfl, rfl, hc⟩

end Run

/-- After any run, every action that names classes answers with exactly the dotted names that the
edges added to its graph give. The classes with accesses of a kind to a class, and those that a
class accesses, are found through the dotted form of the class. Hence two spellings of a class with
the same dotted form get the same answers. -/
theorem naming_run (steps : List Step) (name : String) :
    let s := (start.run steps).1
    let added := Ledger.start.run steps name
    (∀ kind className, s.Names name (.accessors kind (.string className)) fun c =>
        ∃ e ∈ added, e.kind = kind ∧ dotted e.sourceClass = c ∧
          dotted e.targetClass = dotted className) ∧
      (∀ className, s.Names name (.dependencies (.string className)) fun c =>
        ∃ e ∈ added, dotted e.sourceClass = dotted className ∧ dotted e.targetClass = c) ∧
      (s.Names name .sourceClasses fun c => ∃ e ∈ added, dotted e.sourceClass = c) ∧
      (s.Names name .targetClasses fun c => ∃ e ∈ added, dotted e.targetClass = c) ∧
      ∀ className spelling, dotted spelling = dotted className →
        (∀ kind, (s.perform name (.accessors kind (.string spelling))).result =
          (s.perform name (.accessors kind (.string className))).result) ∧
        (s.perform name (.dependencies (.string spelling))).result =
          (s.perform name (.dependencies (.string className))).result := by
  intro s added
  refine ⟨names_accessors_run steps name, names_dependencies_run steps name,
    names_sourceClasses_run steps name, names_targetClasses_run steps name,
    fun className spelling hsame => ⟨fun kind => ?_, ?_⟩⟩
  -- What is asked for enters the answers in dotted form only.
  · refine (names_accessors_run steps name kind spelling).result_eq
      (names_accessors_run steps name kind className) fun c => ?_
    rw [hsame]
  · refine (names_dependencies_run steps name spelling).result_eq
      (names_dependencies_run steps name className) fun c => ?_
    rw [hsame]

/-- Two spellings of a class that reads, and of a class that is read, stand for one class each, and
a third spelling may be used to ask for it. -/
theorem naming_run_spellings :
    let slashed : Edge := ⟨.fieldRead, "app/core/Main", "run", "lib/Store", "value"⟩
    let mixed : Edge := ⟨.fieldRead, "app.core/Main", "stop", "lib.Store", "limit"⟩
    let steps : List Step := [⟨"g", .record (.ofEdge slashed)⟩, ⟨"g", .record (.ofEdge mixed)⟩]
    let s := (start.run steps).1
    dotted "app/core.Main" = dotted "app.core.Main" ∧
      (s.graph "g").sourceClasses.toList = ["app.core.Main"] ∧
      (s.perform "g" (.accessors .fieldRead (.string "lib/Store"))).result =
        (s.perform "g" (.accessors .fieldRead (.string "lib.Store"))).result ∧
      (s.perform "g" (.dependencies (.string "app/core.Main"))).result =
        (s.perform "g" (.dependencies (.string "app.core.Main"))).result := by
  intro slashed mixed steps s
  obtain ⟨-, -, -, -, hsame⟩ := naming_run steps "g"
  have hclass : dotted "app/core.Main" = dotted "app.core.Main" := by decide
  exact ⟨hclass, by decide, (hsame "lib.Store" "lib/Store" (by decide)).1 .fieldRead,
    (hsame "app.core.Main" "app/core.Main" hclass).2⟩

end Session

end StaticAccess
