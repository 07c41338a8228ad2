import JsxTemplate.Syntax.Tree
import JsxTemplate.Text.Characters

namespace JsxTemplate

/-!
# Kinds of attributes, and static markup

How a renderer takes an attribute of an element is decided by the name alone.

* `AttributeKind.of name` — the kind of an attribute.
* `normalName` — the name under which a plain attribute is written.
* `isClassName` — the two spellings of the class attribute.
* `isVoidTag` — the elements that have no content.
* `Attribute.isStatic` — an attribute that is text in the document.
* `Markup.isStatic` — an element or a text that is nothing but text of the document, at every depth.
-/

/-! ### Kinds -/

/-- The kinds of attributes. -/
inductive AttributeKind where
  /-- Hands the element itself over. -/
  | ref
  /-- The style of the element. -/
  | style
  /-- The classes of the element, each with its condition. -/
  | classMap
  /-- A listener; the name of the event is in lower case. -/
  | event (name : String)
  /-- A property of the element. -/
  | property (name : String)
  /-- An attribute that is present or absent. -/
  | boolean (name : String)
  /-- A name with any other namespace, kept whole. -/
  | namespaced (name : String)
  /-- All other attributes. -/
  | plain (name : String)
  deriving DecidableEq, Repr

/-- The name of a plain attribute in a document. -/
def normalName (name : String) : String :=
  if name = "className" then "class" else name

/-- Whether an attribute sets the class. -/
def isClassName (name : String) : Bool :=
  name == "class" || name == "className"

/-- The texts before and after the first colon. -/
def splitColon : List Char → Option (List Char × List Char)
  | [] => none
  | ':' :: cs => some ([], cs)
  | c :: cs => (splitColon cs).map fun (space, name) => (c :: space, name)

/-- The kind of an attribute that is neither special nor a listener. -/
def AttributeKind.ofSpace (name : String) : AttributeKind :=
  match splitColon name.toList with
  | some (space, rest) =>
    if space = "prop".toList then .property (String.ofList rest)
    else if space = "bool".toList then .boolean (String.ofList rest)
    else .namespaced name
  | none => .plain (normalName name)

/-- The kind of an attribute. -/
def AttributeKind.of (name : String) : AttributeKind :=
  if name = "ref" then .ref
  else if name = "style" then .style
  else if name = "classMap" then .classMap
  else match name.toList with
    | 'o' :: 'n' :: c :: cs => .event (String.ofList (Text.lowercase (c :: cs)))
    | _ => .ofSpace name

/-- The tags of elements that have no content. -/
def voidTags : List String :=
  ["area", "base", "br", "col", "embed", "hr", "img", "input", "link", "meta", "param", "source",
    "track", "wbr"]

/-- Whether a tag, in any case, names an element that has no content. -/
def isVoidTag (tag : String) : Bool :=
  voidTags.contains (String.ofList (Text.asciiLowercase tag.toList))

/-! ### Static markup -/

/-- Whether the value of an attribute is known without running the program. -/
def AttributeValue.isConstant : AttributeValue → Bool
  | .literal _ | .bare => true
  | _ => false

/-- Whether attributes of this kind can stand as text in the document. -/
def AttributeKind.isTextual : AttributeKind → Bool
  | .plain _ | .style | .classMap => true
  | _ => false

/-- Whether an attribute is text of the document. -/
def Attribute.isStatic : Attribute → Bool
  | .named name value => (AttributeKind.of name).isTextual && value.isConstant
  | .spread _ => false

mutual

/-- Whether markup is text of the document, with everything inside it. -/
def Markup.isStatic : Markup → Bool
  | .element _ _ _ attributes children =>
      attributes.all Attribute.isStatic && Markup.allStatic children
  | .text _ => true
  | _ => false

/-- Whether several pieces of markup are text of the document. -/
def Markup.allStatic : List Markup → Bool
  | [] => true
  | node :: rest => node.isStatic && Markup.allStatic rest

end

end JsxTemplate
