import JsxTemplate.Analysis.Reads
import JsxTemplate.Code
import JsxTemplate.Output.Warning

namespace JsxTemplate

/-!
# Where compiled values go

The steps of compiling that do not look into markup, other than static markup: each takes code for
the parts and puts it in its place.

* `keepsText` — the text that counts inside an element.
* `Markup.staticText` — the text of static markup.
* `reportClasses` — the notice for a tag that has both a class and a map of classes.
* `attributeTemplate` — an attribute of an element, in the opening tag.
* `elementTemplate` — an element around its attributes and its content.
* `Leaf`, `fragmentValue`, `childrenValue` — several values as one.
* `PropItem`, `propsValue` — the properties of a component.
* `componentCall` — the call of a component.
-/

/-! ### Markup written out as text -/

/-- Whether a text inside an element is kept: all but blanks, which are dropped if they hold a line
    break or if the options say so. -/
def keepsText (options : Options) (raw : List Char) : Bool :=
  !Text.allBlank raw || (!raw.contains '\n' && options.preserveInlineWhitespace)

/-- The name of an attribute that has one. -/
def Attribute.name? : Attribute → Option String
  | .named name _ => some name
  | .spread _ => none

/-- Whether the class is set in two ways. -/
def hasClassConflict (attributes : List Attribute) : Bool :=
  let names := attributes.filterMap Attribute.name?
  names.any isClassName && names.contains "classMap"

/-- Reports a tag that sets its class in two ways. -/
def reportClasses (span : Span) (tag : TagName) (attributes : List Attribute) : Emit Unit :=
  if hasClassConflict attributes then .report ⟨.classes, tag.text, span.start⟩ else pure ()

/-- Text of an attribute with a value. -/
def attributeText (name : String) (value : String) : List Char :=
  ' ' :: name.toList ++ '=' :: '"' :: Text.escapeAttribute value.toList ++ ['"']

/-- Text of a static attribute. -/
def Attribute.staticText : Attribute → List Char
  | .named name value =>
    let name := if name = "classMap" then "class" else normalName name
    match value with
    | .literal text => attributeText name text
    | .bare => ' ' :: name.toList
    | _ => []
  | .spread _ => []

/-- The end of an element with content. -/
def closingTag (tag : TagName) : List Char :=
  '<' :: '/' :: tag.text.toList ++ ['>']

mutual

/-- The text of static markup. -/
def Markup.staticText (options : Options) : Markup → Emit (List Char)
  | .element span tag _ attributes children => do
    reportClasses span tag attributes
    let opening := '<' :: tag.text.toList ++ attributes.flatMap Attribute.staticText
    if isVoidTag tag.text then return opening ++ " />".toList
    let content ← Markup.staticTexts options children
    return opening ++ '>' :: content ++ closingTag tag
  | .text raw => return if keepsText options raw.toList then raw.toList else []
  | _ => return []

/-- The text of several pieces of static markup. -/
def Markup.staticTexts (options : Options) : List Markup → Emit (List Char)
  | [] => return []
  | node :: rest => do
    let text ← node.staticText options
    return text ++ (← Markup.staticTexts options rest)

end

/-! ### Templates -/

/-- Code in a template of its own. -/
def inTemplate (content : Template Code) : Emit Code := do
  .need .html
  return .template content

/-- A call of a helper. -/
def callHelper (helper : Helper) (arguments : List Code) : Emit Code := do
  .need helper
  return .call helper arguments

/-- An attribute whose value is a hole. -/
def boundAttribute (name : String) (code : Code) : Template Code :=
  .text (' ' :: name.toList ++ ['=']) ++ .hole code

/-- A hole in a tag that sets attributes by itself. -/
def directive (code : Code) : Template Code :=
  .text [' '] ++ .hole code

/-- An attribute that is text of the document if its value is. -/
def plainAttribute (name : String) (value : AttributeValue) (code : Code) : Template Code :=
  match value with
  | .literal text => .text (attributeText name text)
  | _ => boundAttribute name code

/-- An attribute that goes through a helper if the value asks for it. -/
def mappedAttribute (helper : Helper) (name : String) (value : AttributeValue) (code : Code) :
    Emit (Template Code) := do
  if value.isWrappable then return boundAttribute name (← callHelper helper [code])
  return plainAttribute name value code

/-- An attribute of an element, where `code` is its value. -/
def attributeTemplate (name : String) (value : AttributeValue) (code : Code) :
    Emit (Template Code) := do
  match AttributeKind.of name with
  | .ref => return directive (← callHelper .ref [code])
  | .style => mappedAttribute .styleMap "style" value code
  | .classMap => mappedAttribute .classMap "class" value code
  | .event event => return boundAttribute ("@" ++ event) code
  | .property property => return boundAttribute ("." ++ property) code
  | .boolean flag => return boundAttribute ("?" ++ flag) code
  | .namespaced name => return boundAttribute name code
  | .plain name => return plainAttribute name value code

/-- An element with its attributes and its content. -/
def elementTemplate (span : Span) (tag : TagName) (attributes : List Attribute)
    (inTag content : Emit (Template Code)) : Emit (Template Code) := do
  reportClasses span tag attributes
  let opening := .text ('<' :: tag.text.toList) ++ (← inTag)
  if isVoidTag tag.text then return opening ++ .text " />".toList
  return opening ++ .text ['>'] ++ (← content) ++ .text (closingTag tag)

/-! ### Lists of values -/

/-- One value of a list. -/
structure Leaf where
  code : Code
  /-- The code stands for several values, and for them only in an array. -/
  isSpread : Bool
  /-- The code is a call of a component, which a template has to wrap. -/
  isCall : Bool

namespace Leaf

/-- A value that needs nothing around it. -/
def plain (code : Code) : Leaf := ⟨code, false, false⟩

/-- The code of the value standing alone. -/
def alone (leaf : Leaf) : Code :=
  if leaf.isSpread then .array [leaf.code] else leaf.code

end Leaf

/-- A fragment as a value: a template for at most one value, an array for more. -/
def fragmentValue : List Leaf → Emit Code
  | [] => inTemplate .empty
  | [leaf] => inTemplate (.hole leaf.alone)
  | leaves => return .array (leaves.map Leaf.code)

/-- The content of a component as one value, if there is any. -/
def childrenValue : List Leaf → Emit (Option Code)
  | [] => return none
  | [leaf] => do
    if leaf.isCall then return some (← inTemplate (.hole leaf.code))
    return some leaf.alone
  | leaves => return some (.array (leaves.map Leaf.code))

/-! ### Components -/

/-- A piece of the properties of a component. -/
inductive PropItem where
  /-- One property. -/
  | entry (entry : Entry Code)
  /-- An object with properties. -/
  | source (code : Code)

namespace PropItem

/-- The property of an item that is one. -/
def entry? : PropItem → Option (Entry Code)
  | entry e => some e
  | source _ => none

/-- Whether an item is an object with properties. -/
def isSource : PropItem → Bool
  | entry _ => false
  | source _ => true

/-- The arguments that give items to the helper which joins them: properties next to each other
    become one object. `waiting` are those before the items. -/
def arguments (waiting : List (Entry Code)) : List PropItem → List Code
  | [] => if waiting.isEmpty then [] else [.object waiting]
  | entry e :: rest => arguments (waiting ++ [e]) rest
  | source code :: rest =>
    (if waiting.isEmpty then [] else [.object waiting]) ++ code :: arguments [] rest

end PropItem

/-- The properties of a component: an object literal, one source as it is, or several joined. -/
def propsValue (items : List PropItem) : Emit Code :=
  match items with
  | [.source code] => return code
  | items =>
    if items.any PropItem.isSource then callHelper .mergeProps (PropItem.arguments [] items)
    else return .object (items.filterMap PropItem.entry?)

/-- Whether a component has an attribute for its content. -/
def hasChildrenAttribute (attributes : List Attribute) : Bool :=
  (attributes.filterMap Attribute.name?).contains "children"

/-- Whether the value of an attribute becomes a getter. -/
def AttributeValue.needsGetter : AttributeValue → Bool
  | .literal _ => false
  | .bare => false
  | .expr value => value.needsGetter
  | .markup node => node.reads

/-- Reports a component that has both content and an attribute for it. -/
def reportChildren (span : Span) (tag : TagName) (attributes : List Attribute) (hasContent : Bool) :
    Emit Unit :=
  if hasContent && hasChildrenAttribute attributes then
    .report ⟨.children, tag.text, span.start⟩
  else pure ()

/-- The call of a component. Of its attributes, `props` are those that count. -/
def componentCall (span : Span) (tag : TagName) (attributes : List Attribute)
    (children : List Markup) (props : Emit (List PropItem)) (leaves : Emit (List Leaf)) :
    Emit Code := do
  let content := Markup.flattenAll children
  reportClasses span tag attributes
  reportChildren span tag attributes (!content.isEmpty)
  let items ← props
  let value ← childrenValue (← leaves)
  let last := value.toList.map fun code => .entry ⟨"children", code, childrenNeedGetter content⟩
  let argument ← propsValue (items ++ last)
  callHelper .component [.name tag, argument]

end JsxTemplate
