import StaticAccess.Text.LowerCase
import StaticAccess.Value

/-!
# Options of a call

Among the arguments of a call there may be options, under names that begin with an underscore. They
say how the environment and the assignment file are read. An option that is not given, or given
without a value, is as the library has it; but if the assignment file is given without a value, no
file is read.

The values of options are plain values. For a flag any value will do. What leads the names of
variables has to be a string. It leads the names of settings unless another target is given for it.

This models what the constructor of `Settings` takes as options of its own and what `model_config`
says where none is given: `_case_sensitive`, `_env_prefix`, `_env_prefix_target`, `_env_file`,
`_env_file_encoding`, `_env_ignore_empty`, `_env_parse_none_str`, `_env_nested_max_split`,
`_secrets_dir` and `_build_sources`. It leaves out the options for the words of a command line, and
those that only matter to settings within settings.

## Main definitions

- `Options`: how the sources of settings are read.
- `Options.ofArguments`: the options among the arguments of a call.
- `Options.form`: the form in which names are compared.
- `Options.variableName`: the name under which a setting is looked up.
- `Options.kept`: whether a text counts as given.
- `Options.meaning`: the value that a text stands for.

## Main results

- `Options.ofArguments_eq_standard`: without options among the arguments, all is as the library has
  it.
-/

namespace StaticAccess

/-- How the sources of settings are read. -/
structure Options where
  /-- Whether names are compared as they are, and not in lower case. -/
  exactCase : Bool
  /-- Whether empty texts count as not given. -/
  ignoreEmpty : Bool
  /-- The text that stands for no value, if it is a string. -/
  nullText : Value
  /-- The text that leads the names of variables, if it is a string. -/
  lead : Value
  /-- What is led by that text. -/
  target : Value
  /-- The name or the names of the assignment files. -/
  files : Value
  /-- The encoding of the assignment files. -/
  encoding : Value
  /-- How many times a name may be divided, which no setting is in need of. -/
  divisions : Value
  /-- The name or the names of directories with secrets, of which there are none. -/
  secrets : Value
  /-- What is given in the place of all sources, with the arguments for it. -/
  replacement : Value
  /-- Whether the settings themselves are among the arguments. -/
  namesSelf : Bool

namespace Options

/-- Whether an argument is an option, by its name. -/
def isOption (name : String) : Bool := name.toList.head? = some '_'

/-- The name of the assignment file. -/
def fileName : String := ".env"

/-- The name of the argument that stands for the settings themselves. -/
def selfName : String := "__pydantic_self__"

/-- The argument of a name. -/
def argument? (arguments : List (String × Value)) (name : String) : Option Value :=
  (arguments.find? fun p => p.1 = name).map Prod.snd

/-- The argument of a name, or a default if there is none or if it is no value. -/
def argument (arguments : List (String × Value)) (name : String) (default : Value) : Value :=
  match argument? arguments name with
  | none => default
  | some .null => default
  | some v => v

/-- The options among some arguments. -/
def ofArguments (arguments : List (String × Value)) : Options where
  exactCase := (argument arguments "_case_sensitive" (.bool false)).truthy
  ignoreEmpty := (argument arguments "_env_ignore_empty" (.bool false)).truthy
  nullText := argument arguments "_env_parse_none_str" .null
  lead := argument arguments "_env_prefix" (.string "STATIC_USAGE_")
  target := argument arguments "_env_prefix_target" (.string "variable")
  files := (argument? arguments "_env_file").getD (.string fileName)
  encoding := argument arguments "_env_file_encoding" (.string "utf-8")
  divisions := argument arguments "_env_nested_max_split" .null
  secrets := argument arguments "_secrets_dir" .null
  replacement := argument arguments "_build_sources" .null
  namesSelf := (argument? arguments selfName).isSome

/-- The options that no argument changes. -/
def standard : Options := ofArguments []

/-- Among arguments that are no options, there is none of the name of an option. -/
theorem argument?_eq_none {arguments : List (String × Value)} {name : String}
    (h : ∀ p ∈ arguments, isOption p.1 = false) (hn : isOption name = true) :
    argument? arguments name = none := by
  rw [argument?, Option.map_eq_none_iff, List.find?_eq_none]
  intro p hp he
  have hf := h p hp
  rw [of_decide_eq_true he, hn] at hf
  cases hf

/-- Arguments that are no options do not change the options. -/
theorem ofArguments_eq_standard {arguments : List (String × Value)}
    (h : ∀ p ∈ arguments, isOption p.1 = false) : ofArguments arguments = standard := by
  have ha (name : String) (hn : isOption name = true) :
      argument? arguments name = argument? [] name := argument?_eq_none h hn
  simp only [standard, ofArguments, argument, ha "_case_sensitive" rfl, ha "_env_ignore_empty" rfl,
    ha "_env_parse_none_str" rfl, ha "_env_prefix" rfl, ha "_env_prefix_target" rfl,
    ha "_env_file" rfl, ha "_env_file_encoding" rfl, ha "_env_nested_max_split" rfl,
    ha "_secrets_dir" rfl, ha "_build_sources" rfl, ha selfName rfl]

/-- The form in which names are compared. -/
def form (o : Options) (name : String) : String :=
  if o.exactCase then name else Text.lowerCase name

/-- The name of a setting behind the lead. -/
def ledName (o : Options) (setting : String) : String := o.lead.string?.getD "" ++ setting

/-- Whether the lead leads the names of settings. -/
def leadsSettings (o : Options) : Bool :=
  o.target.string? = some "variable" || o.target.string? = some "all"

/-- The name of the variable for a setting. -/
def variableName (o : Options) (setting : String) : String :=
  if o.leadsSettings then o.ledName setting else setting

/-- Whether a text counts as given. -/
def kept (o : Options) (text : String) : Bool := !(o.ignoreEmpty && text = "")

/-- The value that a text stands for. -/
def meaning (o : Options) (text : String) : Value :=
  if o.nullText.string? = some text then .null else .string text

/-- Whether something is given in the place of all sources. -/
def replaced (o : Options) : Bool :=
  match o.replacement with
  | .null => false
  | _ => true

end Options

end StaticAccess
