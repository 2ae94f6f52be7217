import StaticAccess.Proofs.Settings.Lines
import StaticAccess.Proofs.Settings.References

/-!
# Rewriting assignment files

What an assignment file gives a setting depends on the assignments to this setting and on what their
values refer to. So in a file of lines, blank lines, remarks and assignments to names that are
referred to by none of these can be inserted anywhere; white space and the word `export` can be put
before a name; and lines can end in either way.

The place of a name is that of its first assignment. Hence the last assignment to a setting counts
for sure if there is no other spelling of its name, whatever the values before it are.

## Main definitions

- `Sources.withFile`: sources with a row of lines for their assignment file.
- `Line.Context`: the lines around a line of a file.
- `Line.Context.LeavesTo`: the lines around it leave the value of a setting to a line.
- `Sources.withLine`: sources with a line among others for their assignment file.
- `Rewritten`: the rewriting of lines that does not matter to some names.
- `Setting.isNamed`: the names of settings.

## Main results

- `Rewritten.agrees`: rewriting keeps the values of the names that it may not matter to.
- `Sources.outcome_of_rewritten`: rewriting does not change the outcome.
- `Sources.fromFile_withLine`: a line gives a setting its value if the other lines leave it to that.
- `Sources.outcome_of_lines`: rewriting changes nothing, and the last line counts.
-/

namespace StaticAccess

/-! ## Files of lines as sources -/

namespace Sources

variable {s : Sources} {x : Setting}

/-- The sources with a row of lines for their assignment file. -/
def withFile (s : Sources) (f : Listing) : Sources := { s with file := some f.text }

theorem statements_withFile (s : Sources) (f : Listing) :
    (s.withFile f).statements = f.assignments := by
  rw [statements, withFile, Option.elim_some, f.ofText_text]

theorem assignmentFor_withFile (s : Sources) (f : Listing) (x : Setting) :
    (s.withFile f).assignmentFor x =
      (((Assignment.table (.ofList s.env) f.assignments).entries.filter fun p =>
        Text.lowerCase p.1 = x.variableName).getLast?.map Prod.snd).join.map .string := by
  rw [assignmentFor, statements_withFile]
  rfl

theorem warnings_withFile (h : s.options = .standard) (f : Listing) :
    (s.withFile f).warnings = [] := by
  have hreading : (s.withFile f).reading = ⟨[f.text], none⟩ := by
    have hoptions : (s.withFile f).options = .standard := h
    rw [reading, hoptions, Options.reading_standard]
    rfl
  rw [warnings, hreading, List.flatMap_singleton, f.malformedLines_text, List.map_nil]

end Sources

/-! ## A line among others -/

/-- The lines around a line of a file. -/
structure Line.Context where
  /-- The lines before it, each with its end. -/
  before : List (Line × LineEnd)
  /-- The lines behind it, each with the line end that precedes it. -/
  after : List (LineEnd × Line)

namespace Line.Context

/-- The text of a file with a line among others. -/
def fill (k : Context) (line : List Char) : String :=
  .ofList (k.before.flatMap (fun p => p.1.chars ++ p.2.chars) ++ line ++
    k.after.flatMap fun p => p.1.chars ++ p.2.chars)

/-- The assignments before a line. -/
def earlier (k : Context) : List Assignment := k.before.filterMap fun p => p.1.assignment?

/-- The assignments behind a line. -/
def later (k : Context) : List Assignment := k.after.filterMap fun p => p.2.assignment?

/-- No line behind a line names a setting, and the lines before it name the setting by one name
only. -/
def LeavesTo (k : Context) (x : Setting) (name : String) : Prop :=
  (∀ a ∈ k.earlier, Text.lowerCase a.1 = x.variableName → a.1 = name) ∧
    ∀ a ∈ k.later, Text.lowerCase a.1 ≠ x.variableName

theorem exists_listing (k : Context) (l : Line) :
    ∃ f : Listing, f.text = k.fill l.chars ∧
      f.lines = k.before.map Prod.fst ++ l :: k.after.map Prod.snd := by
  obtain ⟨before, after⟩ := k
  -- A line behind joins the lines before with the end that precedes it.
  induction after generalizing before l with
  | nil => exact ⟨⟨before, l⟩, by simp [Listing.text, fill], rfl⟩
  | cons p after ih =>
    obtain ⟨f, htext, hlines⟩ := ih p.2 (before ++ [(l, p.1)])
    exact ⟨f, by rw [htext]; simp [fill], by rw [hlines]; simp⟩

end Line.Context

/-- The sources with a line among others for their assignment file. -/
def Sources.withLine (s : Sources) (k : Line.Context) (line : List Char) : Sources :=
  { s with file := some (k.fill line) }

/-! ## Rewriting lines -/

/-- A row of lines becomes another one: lines are inserted that assign nothing to the names that are
kept, and what leads an entry may change. -/
inductive Rewritten (kept : String → Bool) : List Line → List Line → Prop
  | nil : Rewritten kept [] []
  | keep {k m : List Line} (l : Line) : Rewritten kept k m → Rewritten kept (l :: k) (l :: m)
  | lead {k m : List Line} {e e' : Line.Entry} : e'.name = e.name → e'.tail = e.tail →
      Rewritten kept k m → Rewritten kept (.entry e :: k) (.entry e' :: m)
  | insert {k m : List Line} {l : Line} : (∀ a ∈ l.assignment?, kept a.1 = false) →
      Rewritten kept k m → Rewritten kept k (l :: m)

namespace Rewritten

variable {kept : String → Bool} {environment : OrderedMap String String}
  {assigned assigned' : OrderedMap String (Option String)}

/-- The values that names have after one more line. -/
def assignLine (environment : OrderedMap String String)
    (assigned : OrderedMap String (Option String)) (l : Line) :
    OrderedMap String (Option String) :=
  match l.assignment? with
  | some a => Assignment.assign environment assigned a
  | none => assigned

theorem table_eq_foldl (environment : OrderedMap String String) (f : Listing) :
    Assignment.table environment f.assignments =
      f.lines.foldl (assignLine environment) .empty := by
  rw [Assignment.table_eq_foldl, Listing.assignments, List.foldl_filterMap]
  refine List.foldl_ext _ _ _ fun assigned l _ => ?_
  rw [assignLine]
  cases l.assignment? <;> rfl

theorem agrees_line {l : Line} (h : assigned.Agrees kept assigned')
    (hl : ∀ a ∈ l.assignment?, kept a.1 = true → a.RefersTo kept) :
    (assignLine environment assigned l).Agrees kept (assignLine environment assigned' l) := by
  rw [assignLine, assignLine]
  cases ha : l.assignment? with
  | none => exact h
  | some a => exact Assignment.agrees_assign h (hl a ha)

theorem agrees_line_right {l : Line} (h : assigned.Agrees kept assigned')
    (hl : ∀ a ∈ l.assignment?, kept a.1 = false) :
    assigned.Agrees kept (assignLine environment assigned' l) := by
  rw [assignLine]
  cases ha : l.assignment? with
  | none => exact h
  | some a => exact Assignment.agrees_assign_right h (hl a ha)

/-- Rewriting keeps the values of some names if none of them refers to another name. -/
theorem agrees {k m : List Line} (h : Rewritten kept k m)
    (hrefers : ∀ l ∈ k, ∀ a ∈ l.assignment?, kept a.1 = true → a.RefersTo kept)
    (hassigned : assigned.Agrees kept assigned') :
    (k.foldl (assignLine environment) assigned).Agrees kept
      (m.foldl (assignLine environment) assigned') := by
  -- The lines that are left to read start from tables that agree already.
  induction h generalizing assigned assigned' with
  | nil => exact hassigned
  | keep l _ ih =>
    obtain ⟨hl, hk⟩ := List.forall_mem_cons.1 hrefers
    exact ih hk (agrees_line hassigned hl)
  | @lead _ _ e e' hname htail _ ih =>
    obtain ⟨he, hk⟩ := List.forall_mem_cons.1 hrefers
    have hassignment : e'.assignment = e.assignment := by
      rw [Line.Entry.assignment, hname, htail, Line.Entry.assignment]
    have hsame : assignLine environment assigned' (.entry e') =
        assignLine environment assigned' (.entry e) := by
      rw [assignLine, Line.assignment?, hassignment]
      rfl
    rw [List.foldl_cons, List.foldl_cons, hsame]
    exact ih hk (agrees_line hassigned he)
  | insert hl _ ih => exact ih hrefers (agrees_line_right hassigned hl)

end Rewritten

/-- Whether a name is that of a variable for a setting. -/
def Setting.isNamed (name : String) : Bool :=
  Text.lowerCase name = logLevel.variableName ∨
    Text.lowerCase name = announceDuplicates.variableName

theorem Setting.isNamed_of_eq {name : String} {x : Setting}
    (h : Text.lowerCase name = x.variableName) : isNamed name = true := by
  cases x <;> simp [isNamed, h]

namespace Sources

variable {s : Sources} {x : Setting}

/-- Rewriting does not change what a file gives a setting. -/
theorem assignmentFor_of_rewritten {kept : String → Bool} {f g : Listing}
    (h : Rewritten kept f.lines g.lines)
    (hkept : ∀ name, Text.lowerCase name = x.variableName → kept name = true)
    (hrefers : ∀ a ∈ f.assignments, kept a.1 = true → a.RefersTo kept) :
    (s.withFile g).assignmentFor x = (s.withFile f).assignmentFor x := by
  have htable : (Assignment.table (.ofList s.env) f.assignments).Agrees kept
      (Assignment.table (.ofList s.env) g.assignments) := by
    rw [Rewritten.table_eq_foldl, Rewritten.table_eq_foldl]
    refine h.agrees (fun l hl a ha => ?_) rfl
    exact hrefers a (List.mem_filterMap.2 ⟨l, hl, ha⟩)
  have hnamed : (Assignment.table (.ofList s.env) f.assignments).Agrees
      (fun name => Text.lowerCase name = x.variableName)
      (Assignment.table (.ofList s.env) g.assignments) :=
    htable.mono fun name hname => hkept name (of_decide_eq_true hname)
  rw [assignmentFor_withFile, assignmentFor_withFile, hnamed]

/-- Rewriting does not change the outcome if the settings are among the names that it keeps, and
these refer to nothing else. -/
theorem outcome_of_rewritten (h : s.options = .standard) {kept : String → Bool} {f g : Listing}
    (hfg : Rewritten kept f.lines g.lines)
    (hkept : ∀ name, Setting.isNamed name = true → kept name = true)
    (hrefers : ∀ a ∈ f.assignments, kept a.1 = true → a.RefersTo kept) :
    Settings.load (s.withFile g) = Settings.load (s.withFile f) ∧
      (s.withFile g).warnings = (s.withFile f).warnings := by
  have hwith (f : Listing) : (s.withFile f).options = .standard := h
  have hwinning (x : Setting) : (s.withFile g).winning x = (s.withFile f).winning x := by
    have hnames (name : String) (hname : Text.lowerCase name = x.variableName) :
        kept name = true := hkept name (Setting.isNamed_of_eq hname)
    have hvalue : (s.withFile g).assignmentFor x = (s.withFile f).assignmentFor x :=
      assignmentFor_of_rewritten hfg hnames hrefers
    rw [winning, winning, hvalue]
    -- Neither the arguments nor the environment depend on the file.
    rfl
  rw [load_eq (hwith f), load_eq (hwith g), hwinning, hwinning, warnings_withFile h,
    warnings_withFile h]
  exact ⟨rfl, rfl⟩

/-- A line that assigns to a setting gives its value, if the lines around it leave it to that. -/
theorem fromFile_withLine (h : s.options = .standard) {k : Line.Context} {e : Line.Entry}
    (hname : Text.lowerCase e.assignment.1 = x.variableName) (hliteral : e.assignment.Literal)
    (hk : k.LeavesTo x e.assignment.1) :
    (s.withLine k e.chars).fromFile x = e.assignment.2.map .string := by
  obtain ⟨f, htext, hlines⟩ := k.exists_listing (.entry e)
  have hwith : s.withLine k e.chars = s.withFile f := by
    rw [withLine, withFile, htext, Line.chars]
  have hoptions : (s.withFile f).options = .standard := h
  have hassignments : f.assignments = k.earlier ++ e.assignment :: k.later := by
    rw [Listing.assignments, hlines, List.filterMap_append, List.filterMap_map]
    exact congrArg _ (congrArg _ (List.filterMap_map ..))
  have hlast : ((Assignment.table (.ofList s.env) f.assignments).entries.filter fun p =>
      Text.lowerCase p.1 = x.variableName) = [e.assignment] := by
    rw [hassignments]
    exact Assignment.filter_table_last (fun name => Text.lowerCase name = x.variableName)
      (fun b hb hsame => hk.1 b hb (of_decide_eq_true hsame)) (decide_eq_true hname) hliteral
      fun b hb => decide_eq_false (hk.2 b hb)
  rw [hwith, fromFile_eq hoptions, assignmentFor_withFile, hlast]
  rfl

/-- Without options among the arguments, files of lines may be rewritten: lines that name no setting
may be inserted, lines may be led by other white space and by the word `export`, and they may end in
either way. If the values that are assigned to settings have no references, the outcome is the same,
and so is what is recorded of lines that cannot be read, which is nothing. With references this is
still so if the names that are assigned in between are none that a value of a setting refers to, be
it by way of other names. Besides, a line that names a setting gives its value, or none if it
assigns nothing, if no later line names the setting and no earlier one in another spelling, whatever
values the earlier ones assign. -/
theorem outcome_of_lines (h : s.options = .standard) :
    (∀ f g : Listing, Rewritten Setting.isNamed f.lines g.lines →
      (∀ a ∈ f.assignments, Setting.isNamed a.1 = true → a.Literal) →
      Settings.load (s.withFile g) = Settings.load (s.withFile f) ∧
        (s.withFile g).warnings = (s.withFile f).warnings) ∧
    (∀ (kept : String → Bool) (f g : Listing), Rewritten kept f.lines g.lines →
      (∀ name, Setting.isNamed name = true → kept name = true) →
      (∀ a ∈ f.assignments, kept a.1 = true → a.RefersTo kept) →
      Settings.load (s.withFile g) = Settings.load (s.withFile f) ∧
        (s.withFile g).warnings = (s.withFile f).warnings) ∧
    ∀ (k : Line.Context) (e : Line.Entry) (x : Setting),
      Text.lowerCase e.assignment.1 = x.variableName → e.assignment.Literal →
      k.LeavesTo x e.assignment.1 →
      (s.withLine k e.chars).fromFile x = e.assignment.2.map .string := by
  refine ⟨fun f g hfg hliteral => ?_, ?_, fun k e x hname hliteral hk => ?_⟩
  · -- What has no references refers to settings only, if to anything.
    exact outcome_of_rewritten h hfg (fun _ hname => hname) fun a ha hname =>
      (hliteral a ha hname).refersTo
  · exact fun kept f g hfg hkept hrefers => outcome_of_rewritten h hfg hkept hrefers
  · exact fromFile_withLine h hname hliteral hk

/-- A remark is inserted, a word precedes the name, and another line end is used. Besides, a line
behind one without a value. -/
theorem outcome_of_lines_exported :
    let s : Sources := ⟨[], [], none⟩
    ∃ (f g : Listing) (k : Line.Context) (line : List Char),
      f.text = "STATIC_USAGE_LOG_LEVEL=debug\n" ∧
      g.text = "# level\r\n export STATIC_USAGE_LOG_LEVEL=debug\r\n" ∧
      k.fill line = "STATIC_USAGE_LOG_LEVEL\nSTATIC_USAGE_LOG_LEVEL=debug" ∧
      Settings.load (s.withFile g) = Settings.load (s.withFile f) ∧
      (s.withLine k line).fromFile .logLevel = some (.string "debug") := by
  intro s
  have hs : s.options = .standard := Options.ofArguments_eq_standard (by simp [s])
  obtain ⟨hrewritten, -, hlast⟩ := outcome_of_lines hs
  let value : Line.Plain := ⟨"debug".toList, by decide, by
    simp [Statement.dropGap, Statement.isGap, Text.isBlank]⟩
  let e : Line.Entry := .ofName "STATIC_USAGE_LOG_LEVEL".toList
    (.assigned [] (.plain value) (by decide)) (by decide) (by decide)
  let exported : Line.Entry := { e with
    lead := [' '], exported := some [' '], lead_isGap := by decide,
    exported_isGap := by decide, name_ne_export := by simp }
  let bare : Line.Entry := .ofName "STATIC_USAGE_LOG_LEVEL".toList
    (.bare ⟨[], none, by decide, by simp⟩) (by decide) (by decide)
  let note : Line := .remark [] " level".toList (by decide) (by decide)
  let blank : Line := .blank [] (by decide)
  let f : Listing := ⟨[(.entry e, .lf)], blank⟩
  let g : Listing := ⟨[(note, .crlf), (.entry exported, .crlf)], blank⟩
  let k : Line.Context := ⟨[(.entry bare, .lf)], []⟩
  have hname : Text.lowerCase e.assignment.1 = Setting.logLevel.variableName := by decide +kernel
  have hliteral : e.assignment.Literal := by
    rintro value ⟨⟩
    exact Reference.free_of_notMem (by decide +kernel)
  have hmade : Rewritten Setting.isNamed f.lines g.lines :=
    .insert (by rintro a ⟨⟩) (.lead rfl rfl (.keep blank .nil))
  have hall : ∀ a ∈ f.assignments, a.Literal := List.forall_mem_singleton.2 hliteral
  have hk : k.LeavesTo .logLevel e.assignment.1 := by
    refine ⟨List.forall_mem_singleton.2 ?_, List.forall_mem_nil _⟩
    exact fun _ => rfl
  exact ⟨f, g, k, e.chars, by decide +kernel, by decide +kernel, by decide +kernel,
    (hrewritten f g hmade fun a ha _ => hall a ha).1, hlast k e .logLevel hname hliteral hk⟩

end Sources

end StaticAccess
