import JsxTemplate.Analysis.Attribute

namespace JsxTemplate

/-!
# Values that have to be read again

A component gets its properties once. A value that may change is handed over as a getter, so that
the component can read it again.

* `Shape`, `Expr.shape` — the coarse kind of a value, as far as it can be told from its text;
  parentheses do not count.
* `Shape.isWrappable` — the values that a helper has to look at when the program runs.
* `Shape.isInert` — the values that keep an array of them constant.
* `Expr.reads`, `Markup.reads` — evaluating it reads something that may change: there is a call, a
  property access or markup that runs user code, outside of nested functions.
* `Expr.needsGetter` — whether a property with this value becomes a getter.
* `Markup.flatten` — the children that count as values.
* `Markup.needsGetter`, `childrenNeedGetter` — the same question for the children of a component.
-/

/-! ### Shapes -/

/-- The shapes of expressions. -/
inductive Shape where
  | string
  | literal
  | name
  | object
  | array
  | member
  | call
  | conditional
  | logical
  | function
  | markup
  | other
  deriving DecidableEq, Repr

/-- The shape of a compound expression. -/
def Form.shape : Form → Shape
  | .string => .string
  | .literal => .literal
  | .template => .literal
  | .this => .other
  | .array => .array
  | .object => .object
  | .member => .member
  | .call => .call
  | .conditional => .conditional
  | .logical => .logical
  | .arrow => .function
  | .function => .function
  | .sequence => .other
  | .other => .other

/-- The shape of an expression. -/
def Expr.shape : Expr → Shape
  | .name _ _ => .name
  | .paren _ inner => inner.shape
  | .markup _ _ => .markup
  | .compound form _ _ => form.shape

namespace Shape

/-- Whether a style or a map of classes of this shape goes through a helper. -/
def isWrappable : Shape → Bool
  | object | name | member | call | conditional | logical => true
  | _ => false

/-- Whether an array stays constant with an element of this shape. -/
def isInert : Shape → Bool
  | string | literal | name | function => true
  | _ => false

end Shape

/-! ### Reading -/

/-- Whether a style or a map of classes with this value goes through a helper. -/
def AttributeValue.isWrappable : AttributeValue → Bool
  | .expr value => value.shape.isWrappable
  | _ => false

mutual

/-- Whether evaluating an expression reads something that may change. -/
def Expr.reads : Expr → Bool
  | .name _ _ => false
  | .paren _ inner => inner.reads
  | .markup _ node => node.reads
  | .compound form _ parts =>
    match form with
    | .member | .call => true
    | .arrow | .function => false
    | _ => Part.anyReads parts

/-- Whether a part reads when what it is part of is evaluated. -/
def Part.reads : Part → Bool
  | .name _ _ => false
  | .expr value => value.reads
  | .spread value => value.reads
  | .function _ => false

/-- Whether some part reads. -/
def Part.anyReads : List Part → Bool
  | [] => false
  | part :: rest => part.reads || Part.anyReads rest

/-- Whether building markup reads something that may change or runs user code. -/
def Markup.reads : Markup → Bool
  | .element _ _ _ attributes children => Attribute.anyReads attributes || Markup.anyReads children
  | .component _ _ _ _ _ => true
  | .fragment children => Markup.anyReads children
  | .text _ => false
  | .hole _ value => value.reads

/-- Whether some piece of markup reads. -/
def Markup.anyReads : List Markup → Bool
  | [] => false
  | node :: rest => node.reads || Markup.anyReads rest

/-- Whether setting an attribute of an element reads or calls a helper. -/
def Attribute.reads : Attribute → Bool
  | .named name value =>
    match AttributeKind.of name with
    | .ref => true
    | .style | .classMap => value.isWrappable || value.reads
    | _ => value.reads
  | .spread _ => true

/-- Whether some attribute reads. -/
def Attribute.anyReads : List Attribute → Bool
  | [] => false
  | a :: rest => a.reads || Attribute.anyReads rest

/-- Whether the value of an attribute reads. -/
def AttributeValue.reads : AttributeValue → Bool
  | .literal _ => false
  | .bare => false
  | .expr value => value.reads
  | .markup node => node.reads

end

/-! ### Getters -/

/-- Whether an element of an array literal leaves the array constant. -/
def Part.isInert : Part → Bool
  | .expr value => value.shape.isInert
  | _ => false

/-- Whether an expression is an array literal of elements that leave it constant. -/
def Expr.isInertArray (e : Expr) : Bool :=
  match e.unparenthesized with
  | .compound .array _ parts => parts.all Part.isInert
  | _ => false

/-- Whether a property with this value becomes a getter. -/
def Expr.needsGetter (e : Expr) : Bool :=
  match e.shape with
  | .function => false
  | .array => !e.isInertArray && e.reads
  | _ => e.reads

/-- Whether the children of a component become a getter if this node is the only one. -/
def Markup.needsGetter : Markup → Bool
  | .text _ => false
  | .hole _ value => value.needsGetter
  | node => node.reads

/-- Whether a child leaves a list of children constant. -/
def Markup.isInert : Markup → Bool
  | .text _ => true
  | .hole _ value => value.shape.isInert
  | _ => false

/-- Whether the children of a component become a getter. -/
def childrenNeedGetter : List Markup → Bool
  | [only] => only.needsGetter
  | nodes => !nodes.all Markup.isInert && Markup.anyReads nodes

/-! ### Children that count -/

mutual

/-- The values among children: blank text is dropped, fragments are opened. -/
def Markup.flatten : Markup → List Markup
  | .text raw => if Text.allBlank raw.toList then [] else [.text raw]
  | .fragment children => Markup.flattenAll children
  | node => [node]

/-- The values among several children. -/
def Markup.flattenAll : List Markup → List Markup
  | [] => []
  | node :: rest => node.flatten ++ Markup.flattenAll rest

end

end JsxTemplate
