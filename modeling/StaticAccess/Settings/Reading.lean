import StaticAccess.Error
import StaticAccess.Settings.Options
import StaticAccess.Text.CodePage

/-!
# Reading the sources

What is read from the assignment file, and what ends the reading of the sources before its time.

An assignment file is named by a string, and several are by a list of strings or the names of an
object. Only one file of assignments can exist, so that all other names name nothing. It is read
once for every mention.

Instead of being read, the sources can be replaced as a whole by a pair of sources and arguments. No
source can be written as a value, so that nothing but no source at all is of use.

This models how the sources of `Settings` are opened with the options of the call, and in which
order the ill-formed ones are found. It leaves out files other than `.env`, directories with secrets
that exist, and encodings other than those of `CodePage` and of Unicode.

## Main definitions

- `Reading`: texts that are read, and what ends the reading.
- `Options.decode`: a stored text as it is read.
- `Options.reading`: the reading of the sources.

## Main results

- `Options.reading_standard`: with the standard options, the assignment file is read once and as it
  is.
-/

namespace StaticAccess

/-- What is read from the sources. -/
structure Reading where
  /-- The texts of assignment files, in the order in which they are read. -/
  texts : List String
  /-- What ends the reading before its time. -/
  fault : Option Error

namespace Options

/-- The parts of a path, between its slashes. -/
def pathParts : List Char → List (List Char)
  | [] => [[]]
  | c :: path =>
    if c = '/' then [] :: pathParts path
    else
      match pathParts path with
      | [] => [[c]]
      | part :: parts => (c :: part) :: parts

/-- Whether a path leads to the assignment file. Steps that stay in a directory do not matter. -/
def namesFile (path : List Char) : Bool :=
  path.head? ≠ some '/' &&
    (pathParts path).filter (fun part => part ≠ [] && part ≠ ['.']) = [fileName.toList]

/-- The paths that a value lists; a string is a path. -/
def paths : Value → Except Error (List Value)
  | .null => .ok []
  | .string path => .ok [.string path]
  | v =>
    match v.items? with
    | some items => .ok items
    | none => .error (.notIterable v.typeName)

/-- The text that is read where a given one is stored. Encodings other than the code pages are taken
for the encoding of Unicode. -/
def decode (o : Options) (text : String) : Except Error String :=
  match o.encoding with
  | .string name =>
    match Text.CodePage.ofName? name with
    | none => .ok text
    | some page => (page.reread text).mapError fun p => .undecodable page p.1 p.2
  | v => if v.truthy then .error (.notEncoding v.typeName) else .ok text

/-- The text of the assignment file at a path. -/
def textAt (o : Options) (file : Option String) (path : Value) : Except Error (Option String) :=
  match path with
  | .string path => if namesFile path.toList then file.mapM o.decode else .ok none
  | v => .error (.notPath v.typeName)

/-- The texts at some paths, one after another. -/
def readPaths (o : Options) (file : Option String) : List Value → Reading
  | [] => ⟨[], none⟩
  | path :: paths =>
    match o.textAt file path with
    | .error e => ⟨[], some e⟩
    | .ok text =>
      let rest := o.readPaths file paths
      ⟨text.toList ++ rest.texts, rest.fault⟩

/-- The error of a count of divisions that is no number. -/
def divisionsFault (o : Options) : Option Error :=
  if o.divisions.truthy && o.divisions.items?.isSome then some (.notNumber o.divisions.typeName)
  else none

/-- The error of a lead that has no length. -/
def leadFault (o : Options) : Option Error :=
  if o.lead.items?.isSome then none else some (.noLength o.lead.typeName)

/-- The error of a lead that leads no name, for the first setting. -/
def nameFault (o : Options) (first : String) : Option Error :=
  if o.leadsSettings && o.lead.string?.isNone then some (.unreadable first) else none

/-- The error of the names of directories with secrets. -/
def secretsFault (o : Options) : Option Error :=
  match paths o.secrets with
  | .error e => some e
  | .ok paths => (paths.find? fun v => v.string?.isNone).map fun v => .notPath v.typeName

/-- The reading of the sources, if nothing is given in their place. -/
def readSources (o : Options) (file : Option String) (first : String) : Reading :=
  match o.divisionsFault <|> o.leadFault with
  | some e => ⟨[], some e⟩
  | none =>
    match paths o.files with
    | .error e => ⟨[], some e⟩
    | .ok paths =>
      let r := o.readPaths file paths
      ⟨r.texts, r.fault <|> o.nameFault first <|> o.secretsFault⟩

/-- The error of what is given in the place of all sources. -/
def replacementFault (o : Options) : Option Error :=
  match o.replacement.items? with
  | none => some (.notSeparable o.replacement.typeName)
  | some [sources, _] =>
    if sources.truthy then
      match sources.items? with
      | some (source :: _) => some (.notCallable source.typeName)
      | _ => some (.notIterable sources.typeName)
    else none
  | some items => some (if items.length < 2 then .tooFewItems items.length else .tooManyItems)

/-- The reading of the sources. -/
def reading (o : Options) (file : Option String) (first : String) : Reading :=
  if o.namesSelf then ⟨[], some (.givenTwice selfName)⟩
  else if o.replaced then ⟨[], o.replacementFault⟩
  else o.readSources file first

/-- With the standard options, the assignment file is read once and as it is. -/
theorem reading_standard (file : Option String) (first : String) :
    standard.reading file first = ⟨file.toList, none⟩ := by
  cases file <;> rfl

end Options

end StaticAccess
