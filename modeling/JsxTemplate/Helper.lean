import JsxTemplate.Options.Reader
import JsxTemplate.Syntax.Outermost
import JsxTemplate.Text.Escapes

namespace JsxTemplate

/-!
# Helpers

The functions of the runtime that compiled code calls, and their names in a module.

* `Helper` — the helpers; `Helper.all` lists them in the order of an import.
* `freeName` — a name that is not taken yet.
* `Bindings.of` — a name for each helper: that of an import which is there already, or a free one.
* `Bindings.pending` — the helpers that have to be imported.
* `Bindings.statement?` — the import declaration that does so.
-/

/-- The functions of the runtime that compiled code calls. -/
inductive Helper where
  /-- The tag of a template. -/
  | html
  /-- Calls a component with its properties. -/
  | component
  /-- Hands an element over. -/
  | ref
  /-- Sets a style. -/
  | styleMap
  /-- Sets classes. -/
  | classMap
  /-- Joins several sources of properties. -/
  | mergeProps
  /-- Sets the attributes that an object holds. -/
  | spread
  deriving DecidableEq, Repr

namespace Helper

/-- All helpers, in the order of an import. -/
def all : List Helper :=
  [html, component, ref, styleMap, classMap, mergeProps, spread]

/-- The name under which the runtime exports a helper. -/
def name : Helper → String
  | html => "html"
  | component => "component"
  | ref => "ref"
  | styleMap => "styleMap"
  | classMap => "classMap"
  | mergeProps => "mergeProps"
  | spread => "spread"

/-- The helper with a name. -/
def named? (text : String) : Option Helper :=
  all.find? (·.name = text)

end Helper

/-! ### Free names -/

/-- A name with a number after it. -/
def numbered (name : String) (k : Nat) : String :=
  name ++ toString k

/-- The first name that is free, from number `k` on, if it is among the next few. -/
def firstFree (name : String) (taken : List String) : Nat → Nat → String
  | 0, k => numbered name k
  | few + 1, k =>
    if taken.contains (numbered name k) then firstFree name taken few (k + 1) else numbered name k

/-- The name itself if it is free, else the name with the least number that makes it free. -/
def freeName (name : String) (taken : List String) : String :=
  if taken.contains name then firstFree name taken taken.length 1 else name

/-! ### Names in a module -/

/-- The name of a helper in a module. -/
structure Binding where
  name : String
  /-- The module imports the helper itself. -/
  isImported : Bool
  deriving DecidableEq, Repr

/-- The names of the helpers in a module. -/
structure Bindings where
  entries : List (Helper × Binding)
  deriving DecidableEq, Repr

/-- The helpers that an import declaration brings in, with their names in the module. -/
def Import.helpers (options : Options) (declaration : Import) : List (Helper × String) :=
  if declaration.isType || !options.isSupportSource declaration.source then []
  else declaration.specifiers.filterMap fun s =>
    if s.isType then none else (Helper.named? s.imported.text).map (·, s.bound)

/-- The helpers that a module imports, with their names. -/
def Program.helpers (options : Options) (program : Program) : List (Helper × String) :=
  program.items.flatMap fun item => match item with
    | .imports declaration => declaration.helpers options
    | .code _ => []

namespace Bindings

/-- Names for helpers: the first one of an import, or a name that is not taken. -/
def assign (imported : List (Helper × String)) :
    List String → List Helper → List (Helper × Binding)
  | _, [] => []
  | taken, h :: rest =>
    match imported.lookup h with
    | some name => (h, ⟨name, true⟩) :: assign imported taken rest
    | none =>
      let name := freeName h.name taken
      (h, ⟨name, false⟩) :: assign imported (name :: taken) rest

/-- The names of the helpers in a module. -/
def of (program : Program) (options : Options) : Bindings :=
  ⟨assign (program.helpers options) program.names.eraseDups Helper.all⟩

/-- The binding of a helper. -/
def get (bindings : Bindings) (h : Helper) : Binding :=
  (bindings.entries.lookup h).getD ⟨h.name, false⟩

/-- The name of a helper. -/
def nameOf (bindings : Bindings) (h : Helper) : String :=
  (bindings.get h).name

/-- The needed helpers that are not imported, in the order of an import. -/
def pending (bindings : Bindings) (needs : List Helper) : List Helper :=
  Helper.all.filter fun h => needs.contains h && !(bindings.get h).isImported

/-- A helper in the braces of an import. -/
def specifier (bindings : Bindings) (h : Helper) : String :=
  if bindings.nameOf h = h.name then h.name else h.name ++ " as " ++ bindings.nameOf h

/-- The import of the needed helpers, if one is missing. -/
def statement? (bindings : Bindings) (package : String) (needs : List Helper) : Option String :=
  match bindings.pending needs with
  | [] => none
  | missing =>
    let list := String.intercalate ", " (missing.map bindings.specifier)
    some ("import " ++ braced (" " ++ list ++ " ") ++ " from " ++
      String.ofList (Text.quoted package.toList) ++ ";")

end Bindings

end JsxTemplate
