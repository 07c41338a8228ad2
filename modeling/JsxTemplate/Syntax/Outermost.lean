import JsxTemplate.Syntax.Tree

namespace JsxTemplate

/-!
# Names and outermost markup

What is collected from a tree in the order of the text.

* `Program.names` — every name that a module spells: references, bindings, labels and property
  names. A name that is on the list nowhere cannot capture anything, nor be captured. Attribute
  names are not part of it, and a tag is if it refers to a variable.
* `Program.sortedNames` — the same names in order, each once.
* `Expr.outermost` — the markup of an expression that no other markup of it encloses, with its
  spans.
* `Program.outermost` — the same for a module.
-/

/-! ### Names -/

mutual

/-- The names in an expression. -/
def Expr.names : Expr → List String
  | .name _ text => [text]
  | .paren _ inner => inner.names
  | .markup _ node => node.names
  | .compound _ _ parts => Part.namesOf parts

/-- The names in a part. -/
def Part.names : Part → List String
  | .name _ text => [text]
  | .expr value => value.names
  | .spread value => value.names
  | .function parts => Part.namesOf parts

/-- The names in several parts. -/
def Part.namesOf : List Part → List String
  | [] => []
  | part :: rest => part.names ++ Part.namesOf rest

/-- The names in markup. -/
def Markup.names : Markup → List String
  | .element _ tag types attributes children =>
    tag.reference?.toList ++ Part.namesOf types ++ Attribute.namesOf attributes ++
      Markup.namesOf children
  | .component _ tag types attributes children =>
    tag.reference?.toList ++ Part.namesOf types ++ Attribute.namesOf attributes ++
      Markup.namesOf children
  | .fragment children => Markup.namesOf children
  | .text _ => []
  | .hole _ value => value.names

/-- The names in several pieces of markup. -/
def Markup.namesOf : List Markup → List String
  | [] => []
  | node :: rest => node.names ++ Markup.namesOf rest

/-- The names in the value of an attribute. -/
def Attribute.names : Attribute → List String
  | .named _ value => value.names
  | .spread value => value.names

/-- The names in the values of several attributes. -/
def Attribute.namesOf : List Attribute → List String
  | [] => []
  | a :: rest => a.names ++ Attribute.namesOf rest

/-- The names in the value of an attribute. -/
def AttributeValue.names : AttributeValue → List String
  | .literal _ => []
  | .bare => []
  | .expr value => value.names
  | .markup node => node.names

end

/-- The name itself, unless it stands between quotes. -/
def ModuleName.names (name : ModuleName) : List String :=
  if name.isQuoted then [] else [name.text]

/-- The names in an import declaration. -/
def Import.names (declaration : Import) : List String :=
  declaration.whole ++
    declaration.specifiers.flatMap (fun s => s.imported.names ++ [s.bound]) ++
    declaration.attributes

/-- The names in a statement of a module. -/
def Item.names : Item → List String
  | .imports declaration => declaration.names
  | .code parts => Part.namesOf parts

/-- The names spelled in a module. -/
def Program.names (program : Program) : List String :=
  program.items.flatMap Item.names

/-- The names spelled in a module by code points, each once. -/
def Program.sortedNames (program : Program) : List String :=
  program.names.eraseDups.mergeSort

/-! ### Outermost markup -/

mutual

/-- The outermost markup of an expression. -/
def Expr.outermost : Expr → List (Span × Markup)
  | .name _ _ => []
  | .paren _ inner => inner.outermost
  | .markup span node => [(span, node)]
  | .compound _ _ parts => Part.outermostOf parts

/-- The outermost markup of a part. -/
def Part.outermost : Part → List (Span × Markup)
  | .name _ _ => []
  | .expr value => value.outermost
  | .spread value => value.outermost
  | .function parts => Part.outermostOf parts

/-- The outermost markup of several parts. -/
def Part.outermostOf : List Part → List (Span × Markup)
  | [] => []
  | part :: rest => part.outermost ++ Part.outermostOf rest

end

/-- The outermost markup of a statement of a module. -/
def Item.outermost : Item → List (Span × Markup)
  | .imports _ => []
  | .code parts => Part.outermostOf parts

/-- The outermost markup of a module. -/
def Program.outermost (program : Program) : List (Span × Markup) :=
  program.items.flatMap Item.outermost

end JsxTemplate
