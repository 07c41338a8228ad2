import JsxTemplate.Compile.Placement

namespace JsxTemplate

/-!
# Compiling markup

* `Markup.value` — the code of markup that stands as a value.
* `Markup.template` — the code of markup inside an open template.
* `Markup.leaves` — the values that markup contributes to a list.
* `Expr.patches` — the code for the outermost markup of an expression, with its spans.

Expressions are copied with their markup replaced, so the four call each other.
-/

/-- Code for an expression among others, where a bare comma would split it. -/
def operand (e : Expr) (code : Code) : Code :=
  if e.isSequence then .paren code else code

mutual

/-- The code for the outermost markup of an expression. -/
def Expr.patches (options : Options) : Expr → Emit (List (Span × Code))
  | .name _ _ => return []
  | .paren _ inner => inner.patches options
  | .markup span node => return [(span, ← node.value options)]
  | .compound _ _ parts => Part.patchesOf options parts

/-- The code for the outermost markup of a part. -/
def Part.patches (options : Options) : Part → Emit (List (Span × Code))
  | .name _ _ => return []
  | .expr value => value.patches options
  | .spread value => value.patches options
  | .function parts => Part.patchesOf options parts

/-- The code for the outermost markup of several parts. -/
def Part.patchesOf (options : Options) : List Part → Emit (List (Span × Code))
  | [] => return []
  | part :: rest => return (← part.patches options) ++ (← Part.patchesOf options rest)

/-- The code of markup that stands as a value. -/
def Markup.value (options : Options) : Markup → Emit Code
  | .element span tag _ attributes children => do
    inTemplate (← elementTemplate span tag attributes
      (Attribute.templateOf options attributes) (Markup.templateOf options children))
  | .component span tag _ attributes children => do
    let call ← componentCall span tag attributes children
      (Attribute.propsOf options (Markup.flattenAll children).isEmpty attributes)
      (Markup.leavesOf options children)
    inTemplate (.hole call)
  | .fragment children => do
    fragmentValue (← Markup.leavesOf options children)
  | .text raw => return .string (Text.decodeEntities raw.toList)
  | .hole _ value => return .copy value (← value.patches options)

/-- The code of markup inside an open template. -/
def Markup.template (options : Options) : Markup → Emit (Template Code)
  | .element span tag types attributes children => do
    if Markup.isStatic (.element span tag types attributes children) then
      return .text (← Markup.staticText options (.element span tag types attributes children))
    elementTemplate span tag attributes
      (Attribute.templateOf options attributes) (Markup.templateOf options children)
  | .component span tag _ attributes children => do
    let call ← componentCall span tag attributes children
      (Attribute.propsOf options (Markup.flattenAll children).isEmpty attributes)
      (Markup.leavesOf options children)
    return .hole call
  | .fragment children => Markup.templateOf options children
  | .text raw => return if keepsText options raw.toList then .text raw.toList else .empty
  | .hole _ value => return .hole (.copy value (← value.patches options))

/-- The code of several pieces of markup inside an open template. -/
def Markup.templateOf (options : Options) : List Markup → Emit (Template Code)
  | [] => return .empty
  | node :: rest => return (← node.template options) ++ (← Markup.templateOf options rest)

/-- The values that markup contributes to a list: none for blank text, those inside for a
    fragment. -/
def Markup.leaves (options : Options) : Markup → Emit (List Leaf)
  | .element span tag _ attributes children => do
    let code ← inTemplate (← elementTemplate span tag attributes
      (Attribute.templateOf options attributes) (Markup.templateOf options children))
    return [.plain code]
  | .component span tag _ attributes children => do
    let call ← componentCall span tag attributes children
      (Attribute.propsOf options (Markup.flattenAll children).isEmpty attributes)
      (Markup.leavesOf options children)
    return [⟨call, false, true⟩]
  | .fragment children => Markup.leavesOf options children
  | .text raw =>
    return if Text.allBlank raw.toList then []
      else [.plain (.string (Text.decodeEntities (Text.trim raw.toList)))]
  | .hole isSpread value => do
    let code := operand value (.copy value (← value.patches options))
    return [if isSpread then ⟨.spread code, true, false⟩ else .plain code]

/-- The values that several pieces of markup contribute to a list. -/
def Markup.leavesOf (options : Options) : List Markup → Emit (List Leaf)
  | [] => return []
  | node :: rest => return (← node.leaves options) ++ (← Markup.leavesOf options rest)

/-- The code of an attribute in the tag of an element. -/
def Attribute.template (options : Options) : Attribute → Emit (Template Code)
  | .named name value => do
    attributeTemplate name value (← value.code options)
  | .spread value => do
    return directive (← callHelper .spread [.copy value (← value.patches options)])

/-- The code of several attributes in the tag of an element. -/
def Attribute.templateOf (options : Options) : List Attribute → Emit (Template Code)
  | [] => return .empty
  | a :: rest => return (← a.template options) ++ (← Attribute.templateOf options rest)

/-- The properties that an attribute gives to a component. An attribute for the content counts only
    if there is no other content. -/
def Attribute.props (options : Options) (isEmpty : Bool) : Attribute → Emit (List PropItem)
  | .named name value => do
    if !isEmpty && name == "children" then return []
    return [.entry ⟨name, ← value.code options, value.needsGetter⟩]
  | .spread value => return [.source (.copy value (← value.patches options))]

/-- The properties that several attributes give to a component. -/
def Attribute.propsOf (options : Options) (isEmpty : Bool) : List Attribute → Emit (List PropItem)
  | [] => return []
  | a :: rest => return (← a.props options isEmpty) ++ (← Attribute.propsOf options isEmpty rest)

/-- The code of the value of an attribute. -/
def AttributeValue.code (options : Options) : AttributeValue → Emit Code
  | .literal text => return .string (Text.decodeEntities text.toList)
  | .bare => return .flag
  | .expr value => return operand value (.copy value (← value.patches options))
  | .markup node => node.value options

end

/-- The code for the outermost markup of a statement of a module. -/
def Item.patches (options : Options) : Item → Emit (List (Span × Code))
  | .imports _ => return []
  | .code parts => Part.patchesOf options parts

/-- The code for the outermost markup of a module, with its spans. -/
def Program.patches (options : Options) (program : Program) : Emit (List (Span × Code)) := do
  return (← program.items.mapM (Item.patches options)).flatten

end JsxTemplate
