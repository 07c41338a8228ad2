import JsxTemplate.Helper
import JsxTemplate.Output.Layout

namespace JsxTemplate

/-!
# Compiled code

* `Entry α` — a property of an object literal with its value, which may stand in a getter.
* `Template α` — static text with holes of type `α` in it; `t ++ u` puts the one after the other,
  and texts that meet become one.
* `Code` — the code that markup becomes. It says which helpers are called and which expressions of
  the source are copied, and nothing about names or layout.
* `Entry.renderAll`, `Template.render`, `Code.render` — the text, for given names of the helpers.
-/

/-! ### Object literals -/

/-- A property of an object literal. -/
structure Entry (α : Type) where
  key : String
  value : α
  /-- The value is computed each time the property is read. -/
  isGetter : Bool
  deriving DecidableEq, Repr, Inhabited

namespace Entry

/-- Texts with a separator between any two of them. -/
def joined (separator : List Char) (texts : List (List Char)) : List Char :=
  (texts.intersperse separator).flatten

/-- What stands between the key of a getter and its value. -/
def bodyOpening : List Char :=
  "() ".toList ++ '{' :: " return ".toList

/-- One property. -/
def render (entry : Entry (List Char)) : List Char :=
  let key := Text.propertyKey entry.key.toList
  if entry.isGetter then
    "get ".toList ++ key ++ bodyOpening ++ entry.value ++ [';', ' ', '}']
  else key ++ ": ".toList ++ entry.value

/-- The object literal of several properties. -/
def renderAll (entries : List (Entry (List Char))) : List Char :=
  if entries.isEmpty then ['{', '}']
  else ['{', ' '] ++ joined ", ".toList (entries.map render) ++ [' ', '}']

end Entry

/-! ### Template literals -/

/-- Static text with holes in it: each hole with the text before it, then the text after the
    last. -/
structure Template (α : Type) where
  holes : List (List Char × α)
  tail : List Char
  deriving DecidableEq, Repr, Inhabited

namespace Template

variable {α : Type}

/-- A template without anything. -/
def empty : Template α := ⟨[], []⟩

/-- A template that is static text. -/
def text (cs : List Char) : Template α := ⟨[], cs⟩

/-- A template that is one hole. -/
def hole (a : α) : Template α := ⟨[([], a)], []⟩

/-- Two templates, the one after the other. -/
def append (t u : Template α) : Template α :=
  match u.holes with
  | [] => ⟨t.holes, t.tail ++ u.tail⟩
  | (before, a) :: rest => ⟨t.holes ++ (t.tail ++ before, a) :: rest, u.tail⟩

instance : Append (Template α) := ⟨append⟩

/-- Several templates, one after the other. -/
def concat (ts : List (Template α)) : Template α :=
  ts.foldr (· ++ ·) empty

/-- The holes, each with the text before it, as they stand in a literal. -/
def renderHoles (holes : List (List Char × List Char)) : List Char :=
  holes.flatMap fun (before, code) =>
    Text.escapeTemplate before ++ '$' :: '{' :: code ++ ['}']

/-- The literal with a tag in front of it. -/
def render (tag : List Char) (t : Template (List Char)) : List Char :=
  tag ++ '`' :: renderHoles t.holes ++ Text.escapeTemplate t.tail ++ ['`']

end Template

/-! ### Code -/

/-- Code that markup becomes. -/
inductive Code where
  /-- A string literal. -/
  | string (text : List Char)
  /-- The literal `true`. -/
  | flag
  /-- The value that a tag names. -/
  | name (tag : TagName)
  /-- An expression of the source, with the markup in it replaced. -/
  | copy (e : Expr) (patches : List (Span × Code))
  /-- Code in parentheses. -/
  | paren (inner : Code)
  /-- The values that code stands for, `...inner`. -/
  | spread (inner : Code)
  /-- An array literal. -/
  | array (items : List Code)
  /-- An object literal. -/
  | object (entries : List (Entry Code))
  /-- A call of a helper. -/
  | call (helper : Helper) (arguments : List Code)
  /-- A template literal for the renderer. -/
  | template (content : Template Code)

namespace Code

variable (bindings : Bindings) (source : List Char)

mutual

/-- The text of code, if every span in it is one of the source. -/
def render : Code → Option (List Char)
  | string text => some (Text.quoted text)
  | flag => some "true".toList
  | name tag => some tag.text.toList
  | copy e patches => do
    splice source e.span (← renderPatches patches)
  | paren inner => do
    return '(' :: (← render inner) ++ [')']
  | spread inner => do
    return "...".toList ++ (← render inner)
  | array items => do
    return '[' :: Entry.joined ", ".toList (← renderAll items) ++ [']']
  | object entries => do
    return Entry.renderAll (← renderEntries entries)
  | call helper arguments => do
    let texts ← renderAll arguments
    return (bindings.nameOf helper).toList ++ '(' :: Entry.joined ", ".toList texts ++ [')']
  | template ⟨holes, tail⟩ => do
    let holes ← renderHoles holes
    return Template.render (bindings.nameOf .html).toList ⟨holes, tail⟩

/-- The texts of several pieces of code. -/
def renderAll : List Code → Option (List (List Char))
  | [] => some []
  | code :: rest => do
    return (← render code) :: (← renderAll rest)

/-- The replacements that patches of an expression stand for. -/
def renderPatches : List (Span × Code) → Option (List Replacement)
  | [] => some []
  | (span, code) :: rest => do
    return ⟨span, ← render code⟩ :: (← renderPatches rest)

/-- The entries of an object literal with their values as text. -/
def renderEntries : List (Entry Code) → Option (List (Entry (List Char)))
  | [] => some []
  | ⟨key, value, isGetter⟩ :: rest => do
    return ⟨key, ← render value, isGetter⟩ :: (← renderEntries rest)

/-- The holes of a template with their code as text. -/
def renderHoles : List (List Char × Code) → Option (List (List Char × List Char))
  | [] => some []
  | (before, code) :: rest => do
    return (before, ← render code) :: (← renderHoles rest)

end

end Code

end JsxTemplate
