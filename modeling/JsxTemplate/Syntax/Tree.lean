namespace JsxTemplate

/-!
# Syntax trees

User code is copied into the output as it is written, so a tree keeps only what a decision can
depend on: the form and the span of each expression, the names that are spelled, where functions
start, and all of the markup.

* `Expr` — an expression; the parts of a compound one stand in the order of the text.
* `Part` — what a construct may consist of: names, expressions, functions.
* `Markup` — an element, a component, a fragment, a text or a braced hole.
* `Program` — a module: its prologue, then imports and other code.
-/

/-- A stretch of the source, from byte offset `start` up to `stop`. -/
structure Span where
  start : Nat
  stop : Nat
  deriving DecidableEq, Repr, Inhabited

/-- What a name does where it is spelled. -/
inductive Role where
  /-- Declares a value: a variable, parameter, function, class or import. -/
  | binding
  /-- Declares a type: an alias, an interface or a type parameter. -/
  | typeBinding
  /-- Refers to a value or a type. -/
  | reference
  /-- Names a property, a member, or an imported or exported thing. -/
  | property
  /-- Names a statement, or the statement to leave. -/
  | label
  deriving DecidableEq, Repr

/-- The forms of compound expressions. -/
inductive Form where
  /-- A string literal. -/
  | string
  /-- A number, a regular expression, `null`, `true` or `false`. -/
  | literal
  /-- A template literal without a tag; its parts are the holes. -/
  | template
  /-- The keyword `this`. -/
  | this
  /-- An array literal; its parts are the elements that are not left out. -/
  | array
  /-- An object literal. -/
  | object
  /-- A property access of any kind: the object, then the key. -/
  | member
  /-- A call: the callee, type arguments, arguments. -/
  | call
  /-- A choice, `a ? b : c`. -/
  | conditional
  /-- One of `a && b`, `a || b` and `a ?? b`. -/
  | logical
  /-- A function written with an arrow. -/
  | arrow
  /-- A function written with the keyword `function`. -/
  | function
  /-- Expressions between commas, `a, b`, without parentheses around them. -/
  | sequence
  /-- Any other expression. -/
  | other
  deriving DecidableEq, Repr

/-- The name in a tag. -/
inductive TagName where
  /-- One name, such as `div`, `my-item` or `Button`. -/
  | plain (name : String)
  /-- A name in a namespace, `space:name`. -/
  | namespaced (space name : String)
  /-- A member access, `root.a.b`, where no root stands for `this`. -/
  | member (root : Option String) (path : List String)
  deriving DecidableEq, Repr

mutual

/-- An expression. -/
inductive Expr where
  /-- A reference to a variable. -/
  | name (span : Span) (text : String)
  /-- An expression in parentheses, which are included in the span. -/
  | paren (span : Span) (inner : Expr)
  /-- Markup standing as a value. -/
  | markup (span : Span) (node : Markup)
  /-- All other expressions. -/
  | compound (form : Form) (span : Span) (parts : List Part)

/-- A piece of a construct. -/
inductive Part where
  /-- A name that is not an expression. -/
  | name (role : Role) (text : String)
  /-- An expression. -/
  | expr (value : Expr)
  /-- A spread, `...value`, in a literal or an argument list. -/
  | spread (value : Expr)
  /-- A function that is no expression: a declaration, a method or an accessor. -/
  | function (parts : List Part)

/-- Markup. -/
inductive Markup where
  /-- A tag of the document. -/
  | element (span : Span) (tag : TagName) (types : List Part) (attributes : List Attribute)
      (children : List Markup)
  /-- A tag that names a value of the program. -/
  | component (span : Span) (tag : TagName) (types : List Part) (attributes : List Attribute)
      (children : List Markup)
  /-- Children without a tag, `<>children</>`. -/
  | fragment (children : List Markup)
  /-- Text as it is written, its character references unresolved. -/
  | text (raw : String)
  /-- An expression between braces, or a spread `{...value}`. -/
  | hole (spread : Bool) (value : Expr)

/-- An attribute of a tag. -/
inductive Attribute where
  /-- A name, or `space:name`, with its value. -/
  | named (name : String) (value : AttributeValue)
  /-- The attributes that an object holds, `{...value}`. -/
  | spread (value : Expr)

/-- The value of an attribute. -/
inductive AttributeValue where
  /-- The text between quotes, as it is written. -/
  | literal (text : String)
  /-- No value at all. -/
  | bare
  /-- An expression between braces. -/
  | expr (value : Expr)
  /-- Markup without braces around it. -/
  | markup (node : Markup)

end

/-- A name that an import or export declaration spells, bare or between quotes. -/
structure ModuleName where
  text : String
  isQuoted : Bool
  deriving DecidableEq, Repr

/-- One name inside the braces of an import, `imported as bound`. -/
structure Specifier where
  imported : ModuleName
  bound : String
  isType : Bool
  deriving DecidableEq, Repr

/-- An import declaration. -/
structure Import where
  source : String
  isType : Bool
  /-- The names bound to the default export and to the whole module. -/
  whole : List String
  specifiers : List Specifier
  /-- The keys of its attributes. -/
  attributes : List String
  deriving DecidableEq, Repr

/-- A statement at the top of a module. -/
inductive Item where
  | imports (declaration : Import)
  | code (parts : List Part)

/-- A module. -/
structure Program where
  /-- The first line, if it names an interpreter. -/
  hashbang : Option Span
  /-- The string literals that stand as statements before all else. -/
  directives : List Span
  items : List Item

/-! ### Small views -/

/-- The span of an expression. -/
def Expr.span : Expr → Span
  | .name span _ => span
  | .paren span _ => span
  | .markup span _ => span
  | .compound _ span _ => span

/-- The expression inside all parentheses around it. -/
def Expr.unparenthesized : Expr → Expr
  | .paren _ inner => inner.unparenthesized
  | e => e

/-- Whether the expression is a comma expression without parentheses. -/
def Expr.isSequence : Expr → Bool
  | .compound .sequence _ _ => true
  | _ => false

namespace TagName

/-- The tag as it is written, without the blanks that may stand inside. -/
def text : TagName → String
  | plain name => name
  | namespaced space name => space ++ ":" ++ name
  | member root path => String.intercalate "." (root.getD "this" :: path)

/-- A tag names a value of the program if it is a member access, or one name that starts with a
    capital of ASCII. -/
def isComponent : TagName → Bool
  | plain name => name.toList.head?.any Char.isUpper
  | namespaced _ _ => false
  | member _ _ => true

/-- The variable that a tag refers to: the root of a member access, or a lone name that neither
    starts with a small letter of ASCII nor holds a hyphen. -/
def reference? : TagName → Option String
  | plain name =>
    if name.toList.head?.any Char.isLower || name.toList.contains '-' then none else some name
  | namespaced _ _ => none
  | member root _ => root

end TagName

/-- The node for a tag: a component or an element, as its name tells. -/
def Markup.ofTag (span : Span) (tag : TagName) (types : List Part) (attributes : List Attribute)
    (children : List Markup) : Markup :=
  if tag.isComponent then .component span tag types attributes children
  else .element span tag types attributes children

end JsxTemplate
