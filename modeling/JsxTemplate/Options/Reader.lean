import JsxTemplate.Options.Json

namespace JsxTemplate

/-!
# Options

* `Options` — the settings of a run, each with a default.
* `Options.isSupportSource` — the modules whose imports count as imports of the helpers.
* `Options.ofJson` — reads the settings. They come as an object, in which unknown fields are
  skipped, or as an array in the order of `OptionField.all`; what is missing keeps its default.

A field that is there twice, or a value of the wrong type, is a fault of its own.
-/

/-! ### Settings -/

/-- The settings of a run. -/
structure Options where
  /-- The module that the helpers are imported from. -/
  packageName : String := "kaori.js"
  /-- A module whose name contains this text is taken for a module of helpers, unless the text is
      empty. -/
  packageHint : String := "kaori"
  /-- Whether blank text without a line break is kept. -/
  preserveInlineWhitespace : Bool := true
  /-- Whether a source map is made. -/
  sourceMap : Bool := true
  /-- Whether a host should print the warnings as well. -/
  logWarnings : Bool := true
  deriving DecidableEq, Repr, Inhabited

/-- Whether a text occurs in another one. -/
def Text.occursIn (part : List Char) : List Char → Bool
  | [] => part.isEmpty
  | c :: cs => part.isPrefixOf (c :: cs) || occursIn part cs

/-- Whether the helpers may be imported from a module with this name. -/
def Options.isSupportSource (options : Options) (source : String) : Bool :=
  source == options.packageName ||
    (!options.packageHint.isEmpty && Text.occursIn options.packageHint.toList source.toList)

/-! ### Settings from a JSON text -/

/-- The fields of the settings. -/
inductive OptionField where
  | packageName
  | packageHint
  | preserveInlineWhitespace
  | sourceMap
  | logWarnings
  deriving DecidableEq, Repr

namespace OptionField

/-- The fields in the order of an array. -/
def all : List OptionField :=
  [packageName, packageHint, preserveInlineWhitespace, sourceMap, logWarnings]

/-- The key of a field in an object. -/
def key : OptionField → String
  | packageName => "packageName"
  | packageHint => "packageHint"
  | preserveInlineWhitespace => "preserveInlineWhitespace"
  | sourceMap => "sourceMap"
  | logWarnings => "logWarnings"

/-- The field with a key. -/
def named? (text : String) : Option OptionField :=
  all.find? (·.key = text)

end OptionField

namespace Json

/-- Tells what is wrong with a value of a kind that is not asked for. -/
def wrongValue {α : Type} : Reader α := do
  match ← rest with
  | [] => throw .unfinished
  | c :: cs =>
    match c with
    | 'n' => word "null".toList
    | 't' => word "true".toList
    | 'f' => word "false".toList
    | '"' =>
      set cs
      let _ ← string true
    | '-' =>
      set cs
      if ← number .unfinished then throw .malformed
    | '[' | '{' => pure ()
    | _ =>
      if !c.isDigit then throw .malformed
      if ← number .unfinished then throw .malformed
    throw .mistyped

/-- Reads a string. -/
def text : Reader String := do
  match ← rest with
  | '"' :: cs =>
    set cs
    string true
  | _ => wrongValue

/-- Reads a truth value. -/
def flag : Reader Bool := do
  match ← rest with
  | 't' :: _ =>
    word "true".toList
    return true
  | 'f' :: _ =>
    word "false".toList
    return false
  | _ => wrongValue

/-- Reads the value of a field. -/
def field (options : Options) : OptionField → Reader Options
  | .packageName => return { options with packageName := ← text }
  | .packageHint => return { options with packageHint := ← text }
  | .preserveInlineWhitespace => return { options with preserveInlineWhitespace := ← flag }
  | .sourceMap => return { options with sourceMap := ← flag }
  | .logWarnings => return { options with logWarnings := ← flag }

/-- Reads the colon between a key and its value. -/
def colon : Reader Unit := do
  match ← rest with
  | [] => throw .unfinished
  | ':' :: cs => set cs
  | _ => throw .malformed

/-- Reads one field with its key, and gives the fields that have been read. -/
def keyed (seen : List OptionField) (options : Options) : Reader (List OptionField × Options) := do
  match ← rest with
  | [] => throw .unfinished
  | '"' :: cs =>
    set cs
    match OptionField.named? (← string true) with
    | some name =>
      if seen.contains name then throw .mistyped
      colon
      return (name :: seen, ← field options name)
    | none =>
      colon
      skipValue ((← get).length + 1)
      return (seen, options)
  | _ => throw .malformed

/-- Reads the fields of an object after the first one, and its brace. -/
def fields : Nat → List OptionField → Options → Reader Options
  | 0, _, _ => throw .unfinished
  | n + 1, seen, options => do
    match ← rest with
    | [] => throw .unfinished
    | '}' :: cs =>
      set cs
      return options
    | ',' :: cs =>
      set cs
      let (seen, options) ← keyed seen options
      fields n seen options
    | _ => throw .malformed

/-- Reads an object after its brace. -/
def object : Reader Options := do
  match ← rest with
  | '}' :: cs =>
    set cs
    return {}
  | cs =>
    let (seen, options) ← keyed [] {}
    fields (cs.length + 1) seen options

/-- Reads the bracket at the end of an array with all fields. -/
def closing (options : Options) : Reader Options := do
  match ← rest with
  | [] => throw .unfinished
  | ']' :: cs =>
    set cs
    return options
  | _ => throw .malformed

/-- Reads the values of the fields after the first one, and the bracket. -/
def positions (options : Options) : List OptionField → Reader Options
  | [] => closing options
  | name :: names => do
    match ← rest with
    | ',' :: cs =>
      set cs
      match ← rest with
      | ']' :: _ => throw .malformed
      | _ => positions (← field options name) names
    | _ => closing options

/-- Reads an array after its bracket. -/
def array : Reader Options := do
  match ← rest with
  | ']' :: cs =>
    set cs
    return {}
  | _ => positions (← field {} .packageName) (OptionField.all.drop 1)

/-- Reads the settings, with nothing after them. -/
def options : Reader Options := do
  let found ← match ← rest with
    | '[' :: cs =>
      set cs
      array
    | '{' :: cs =>
      set cs
      object
    | _ => wrongValue
  if (← rest).isEmpty then return found else throw .malformed

end Json

/-- The settings in a JSON text, or what is wrong with it. -/
def Options.ofJson (json : String) : Except Json.Fault Options :=
  (Json.options.run json.toList).map (·.1)

end JsxTemplate
