import StaticAccess.Proofs.Graph.Members

/-!
# Names up to separators

Slashes and dots separate the parts of a class name. The dotted form of a name has dots only, and so
two names have the same dotted form if and only if one of them turns into the other by exchanging
separators. As the views of a graph bring all names to dotted form, and compare them in this form
with the name that is asked for, these are the names that they do not tell apart, and they tell all
others apart.

## Main definitions

- `SameUpToSeparators`: two names differ in their separators at most.
- `SortedSet.Represents`: names that stand for others, up to separators.
- `Graph.NamesUpToSeparators`: the views of a graph, up to separators.

## Main results

- `dotted_eq_dotted_iff`: the names with the same dotted form.
- `Graph.same_answers_iff`: the names that get the same answers from every graph.
- `Graph.dotted_names`: laws of the dotted form, and what follows for the views of a graph.
-/

namespace StaticAccess

/-- Two names have the same length, and at every position the same character or two separators. -/
structure SameUpToSeparators (x y : String) : Prop where
  length_eq : x.length = y.length
  at_position : ∀ (i : Nat) (c d : Char), x.toList[i]? = some c → y.toList[i]? = some d →
    c = d ∨ (c = '/' ∨ c = '.') ∧ (d = '/' ∨ d = '.')

section Dotted

variable {x y : String}

theorem dottedChar_eq_iff {c d : Char} :
    dottedChar c = dottedChar d ↔ c = d ∨ (c = '/' ∨ c = '.') ∧ (d = '/' ∨ d = '.') := by
  rw [dottedChar, dottedChar]
  split_ifs with hc hd hd
  · simp [hc, hd]
  · simp [hc, hd, eq_comm]
  · simp [hc, hd]
  · simp only [hc, hd, false_or, iff_self_or]
    rintro ⟨rfl, rfl⟩
    rfl

/-- Names have the same dotted form if and only if they are the same up to separators. -/
theorem dotted_eq_dotted_iff : dotted x = dotted y ↔ SameUpToSeparators x y := by
  rw [← String.toList_inj, toList_dotted, toList_dotted]
  constructor
  · intro h
    have hlength : x.length = y.length := by
      simpa [String.length_toList] using congrArg List.length h
    refine ⟨hlength, fun i c d hc hd => dottedChar_eq_iff.1 ?_⟩
    have hi : (x.toList.map dottedChar)[i]? = (y.toList.map dottedChar)[i]? := by rw [h]
    simpa [hc, hd] using hi
  · rintro ⟨hlength, hposition⟩
    refine List.ext_getElem (by simpa [String.length_toList] using hlength) fun i hx hy => ?_
    rw [List.getElem_map, List.getElem_map, dottedChar_eq_iff]
    exact hposition i _ _ (List.getElem?_eq_getElem _) (List.getElem?_eq_getElem _)

/-- There are no slashes in a dotted form. -/
theorem slash_notMem_dotted (x : String) : '/' ∉ (dotted x).toList := by
  rw [toList_dotted, List.mem_map]
  rintro ⟨c, -, hc⟩
  rw [dottedChar] at hc
  split_ifs at hc with hslash
  · cases hc
  · exact hslash hc

theorem length_dotted (x : String) : (dotted x).length = x.length := by
  rw [← String.length_toList, toList_dotted, List.length_map, String.length_toList]

/-- Names may be brought to dotted form part by part. -/
theorem dotted_append (x y : String) : dotted (x ++ y) = dotted x ++ dotted y := by
  rw [← String.toList_inj, String.toList_append]
  simp only [toList_dotted, String.toList_append, List.map_append]

/-- A name is its dotted form up to separators. -/
theorem sameUpToSeparators_dotted (x : String) : SameUpToSeparators x (dotted x) :=
  dotted_eq_dotted_iff.1 (dotted_dotted x).symm

end Dotted

/-- Names without slashes stand for the names that have a property: there is exactly one for each of
these, up to separators, and none besides. Two of them share one if and only if they are the same up
to separators. -/
structure SortedSet.Represents (names : SortedSet String) (p : String → Prop) : Prop where
  slash_notMem : ∀ n ∈ names, '/' ∉ n.toList
  exists_same : ∀ n ∈ names, ∃ c, p c ∧ SameUpToSeparators c n
  existsUnique_same : ∀ c, p c → ∃! n, n ∈ names ∧ SameUpToSeparators c n
  shared_iff : ∀ c d, p c → p d →
    ((∃ n ∈ names, SameUpToSeparators c n ∧ SameUpToSeparators d n) ↔ SameUpToSeparators c d)

/-- The dotted forms of the names that have a property stand for these names. -/
theorem SortedSet.represents_of_mem_iff {names : SortedSet String} {p : String → Prop}
    (h : ∀ n, n ∈ names ↔ ∃ c, p c ∧ dotted c = n) : names.Represents p where
  slash_notMem n hn := by
    obtain ⟨c, -, rfl⟩ := (h n).1 hn
    exact slash_notMem_dotted c
  exists_same n hn := by
    obtain ⟨c, hc, rfl⟩ := (h n).1 hn
    exact ⟨c, hc, sameUpToSeparators_dotted c⟩
  existsUnique_same c hc := by
    refine ⟨dotted c, ⟨(h _).2 ⟨c, hc, rfl⟩, sameUpToSeparators_dotted c⟩, ?_⟩
    -- Whatever else is listed is a dotted form itself, and so its own one.
    rintro n ⟨hn, hsame⟩
    obtain ⟨d, -, rfl⟩ := (h n).1 hn
    rw [← dotted_eq_dotted_iff, dotted_dotted] at hsame
    exact hsame.symm
  shared_iff c d hc hd := by
    simp only [← dotted_eq_dotted_iff]
    constructor
    · rintro ⟨n, -, hcn, hdn⟩
      rw [hcn, hdn]
    · intro hsame
      exact ⟨dotted c, (h _).2 ⟨c, hc, rfl⟩, (dotted_dotted c).symm, by rw [dotted_dotted, hsame]⟩

namespace Graph

variable {g : Graph}

/-- The views of a graph name one class for all recorded ones that are the same up to separators,
and take these for the class that is asked for. -/
structure NamesUpToSeparators (g : Graph) : Prop where
  sourceClasses : g.sourceClasses.Represents fun c => ∃ e, g.contains e = true ∧ e.sourceClass = c
  targetClasses : g.targetClasses.Represents fun c => ∃ e, g.contains e = true ∧ e.targetClass = c
  accessors : ∀ kind className, (g.accessors kind className).Represents fun c =>
    ∃ e, g.contains e = true ∧ e.kind = kind ∧ SameUpToSeparators e.targetClass className ∧
      e.sourceClass = c
  dependencies : ∀ className, (g.dependencies className).Represents fun c =>
    ∃ e, g.contains e = true ∧ SameUpToSeparators e.sourceClass className ∧ e.targetClass = c
  staticMembers : ∀ kind, (g.staticMembers kind).classes.Represents fun c =>
    ∃ e, g.contains e = true ∧ e.kind = kind ∧ e.targetClass = c
  lists_staticMembers : ∀ kind c m, (g.staticMembers kind).Lists (dotted c) m ↔
    ∃ e, g.contains e = true ∧ e.kind = kind ∧ SameUpToSeparators e.targetClass c ∧
      e.targetMember = m

theorem namesUpToSeparators (hg : Reachable g) : g.NamesUpToSeparators where
  sourceClasses := SortedSet.represents_of_mem_iff fun n => by
    simp [sourceClasses, mem_toList_iff hg]
  targetClasses := SortedSet.represents_of_mem_iff fun n => by
    simp [targetClasses, mem_toList_iff hg]
  accessors kind className := SortedSet.represents_of_mem_iff fun n => by
    simp [accessors, mem_toList_iff hg, dotted_eq_dotted_iff]
  dependencies className := SortedSet.represents_of_mem_iff fun n => by
    simp [dependencies, mem_toList_iff hg, dotted_eq_dotted_iff]
  staticMembers kind := SortedSet.represents_of_mem_iff fun n => by
    rw [staticMembers_eq, MemberTable.mem_classes_ofEdges]
    simp [mem_edgesOf_iff hg]
  lists_staticMembers kind c m := by
    rw [staticMembers_eq, MemberTable.lists_ofEdges]
    simp [mem_edgesOf_iff hg, dotted_eq_dotted_iff, and_assoc]

/-- Two names get the same answers from every graph, to all questions about the class of the name,
if and only if they are the same up to separators. -/
theorem same_answers_iff {x y : String} :
    SameUpToSeparators x y ↔ ∀ k, Reachable k →
      (∀ kind, k.accessors kind x = k.accessors kind y) ∧ k.dependencies x = k.dependencies y := by
  rw [← dotted_eq_dotted_iff]
  constructor
  · intro h k _
    simp only [accessors, dependencies, h, implies_true, and_self]
  · intro h
    -- A graph with one access tells the class of the one name apart from all others.
    let e : Edge := ⟨.fieldRead, "", "", x, ""⟩
    let k : Graph := (empty true).insertAll [e]
    have hk : Reachable k := (Reachable.empty true).insertAll [e]
    have hmem (f : Edge) : f ∈ k.toList ↔ f = e := by
      rw [mem_toList_iff hk, contains_insertAll_empty, decide_eq_true_eq, List.mem_singleton]
    have hx : dotted "" ∈ k.accessors .fieldRead x :=
      mem_accessors.2 ⟨e, (hmem e).2 rfl, rfl, rfl, rfl⟩
    rw [(h k hk).1 .fieldRead] at hx
    obtain ⟨f, hf, -, -, hy⟩ := mem_accessors.1 hx
    rw [← hy, (hmem f).1 hf]

/-- Two names have the same dotted form if and only if they are of the same length, and have the
same character or two separators at every position. A dotted form has no slashes and the length of
the name, it is its own dotted form, and it may be put together from those of the parts of a name.
Hence two names get the same answers from all graphs if and only if they are the same up to
separators, and each view of a graph lists one name for all classes that are the same up to
separators. -/
theorem dotted_names (hg : Reachable g) (x y : String) :
    (dotted x = dotted y ↔ SameUpToSeparators x y) ∧
      '/' ∉ (dotted x).toList ∧ (dotted x).length = x.length ∧ dotted (dotted x) = dotted x ∧
      dotted (x ++ y) = dotted x ++ dotted y ∧
      (SameUpToSeparators x y ↔ ∀ k, Reachable k →
        (∀ kind, k.accessors kind x = k.accessors kind y) ∧ k.dependencies x = k.dependencies y) ∧
      g.NamesUpToSeparators :=
  ⟨dotted_eq_dotted_iff, slash_notMem_dotted x, length_dotted x, dotted_dotted x,
    dotted_append x y, same_answers_iff, namesUpToSeparators hg⟩

/-- Two spellings of a class share one name, and a third one may be used to ask for it. A name that
has another character in the place of a separator is the name of another class. -/
theorem dotted_names_spellings :
    let slashed : Edge := ⟨.fieldRead, "app/core/Main", "run", "lib/Store", "value"⟩
    let mixed : Edge := ⟨.methodCall, "app.core/Main", "stop", "lib.Store", "close"⟩
    let other : Edge := ⟨.fieldRead, "app_core/Main", "run", "lib/Store", "limit"⟩
    let g := (empty true).insertAll [slashed, mixed, other]
    Reachable g ∧ SameUpToSeparators "app/core.Main" "app.core/Main" ∧
      ¬ SameUpToSeparators "app_core/Main" "app.core/Main" ∧
      (∃! n, n ∈ g.sourceClasses ∧ SameUpToSeparators "app/core/Main" n) ∧
      g.dependencies "app/core.Main" = g.dependencies "app.core/Main" := by
  intro slashed mixed other g
  have hg : Reachable g := (Reachable.empty true).insertAll [slashed, mixed, other]
  obtain ⟨hkernel, -, -, -, -, hanswers, hviews⟩ :=
    dotted_names hg "app/core.Main" "app.core/Main"
  have hsame : SameUpToSeparators "app/core.Main" "app.core/Main" := hkernel.1 (by decide)
  refine ⟨hg, hsame, fun h => ?_, ?_, (hanswers.1 hsame g hg).2⟩
  · exact absurd ((dotted_names hg "app_core/Main" "app.core/Main").1.2 h) (by decide)
  · exact hviews.sourceClasses.existsUnique_same _ ⟨slashed, by decide, rfl⟩

end Graph

end StaticAccess
