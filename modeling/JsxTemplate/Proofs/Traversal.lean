import JsxTemplate.Proofs.Emit

namespace JsxTemplate

/-!
# One induction over the functions that compile

Thirteen functions compile trees, and each calls others of them. What is to be shown of their
results is stated for all of them together, and shown by the same induction each time. So the
induction is made once here, and a property is shown by saying why each step keeps it.

* `Traversal` — a property of compiling: a relation between trees and results for each function.
* `Traversal.Closed` — each step keeps the property. The steps are given the results of the parts of
  a tree and know nothing else of them; only the markup of a copied expression is compiled in place.
* `Traversal.Closed.value` and its companions — then the property holds of what is compiled.

The results of steps that only put values together are written with `Emit.map` and `Emit.both`,
which keep the log as it is.
-/

/-! ### Properties of compiling -/

/-- A property of compiling: for each function, a relation between the tree that it is given and its
    result. -/
structure Traversal where
  /-- Of the code for the markup of an expression. -/
  patches : Expr → Emit (List (Span × Code)) → Prop
  /-- Of the code for the markup of a part. -/
  part : Part → Emit (List (Span × Code)) → Prop
  /-- Of the code for the markup of several parts. -/
  parts : List Part → Emit (List (Span × Code)) → Prop
  /-- Of an element around its attributes and its content. -/
  element : Span → TagName → List Part → List Attribute → List Markup →
    Emit (Template Code) → Prop
  /-- Of the call of a component. -/
  call : Span → TagName → List Part → List Attribute → List Markup → Emit Code → Prop
  /-- Of markup that stands as a value. -/
  value : Markup → Emit Code → Prop
  /-- Of markup inside an open template. -/
  template : Markup → Emit (Template Code) → Prop
  /-- Of several pieces of markup inside an open template. -/
  templates : List Markup → Emit (Template Code) → Prop
  /-- Of the values that markup contributes to a list. -/
  leaves : Markup → Emit (List Leaf) → Prop
  /-- Of the values that several pieces of markup contribute to a list. -/
  leavesOf : List Markup → Emit (List Leaf) → Prop
  /-- Of an attribute in the tag of an element. -/
  setting : Attribute → Emit (Template Code) → Prop
  /-- Of several attributes in the tag of an element. -/
  settings : List Attribute → Emit (Template Code) → Prop
  /-- Of the properties that an attribute gives to a component, which may be empty. -/
  props : Bool → Attribute → Emit (List PropItem) → Prop
  /-- Of the properties that several attributes give to a component. -/
  propsOf : Bool → List Attribute → Emit (List PropItem) → Prop
  /-- Of the value of an attribute. -/
  code : AttributeValue → Emit Code → Prop

namespace Traversal

/-- Each step of compiling keeps the property. -/
structure Closed (m : Traversal) (options : Options) : Prop where
  name : ∀ span text, m.patches (.name span text) (pure [])
  paren : ∀ {span inner x}, m.patches inner x → m.patches (.paren span inner) x
  markup : ∀ {span node x}, m.value node x →
    m.patches (.markup span node) (x.map fun code => [(span, code)])
  compound : ∀ {form span parts x}, m.parts parts x → m.patches (.compound form span parts) x
  partName : ∀ role text, m.part (.name role text) (pure [])
  partExpr : ∀ {value x}, m.patches value x → m.part (.expr value) x
  partSpread : ∀ {value x}, m.patches value x → m.part (.spread value) x
  partFunction : ∀ {parts x}, m.parts parts x → m.part (.function parts) x
  partsNil : m.parts [] (pure [])
  partsCons : ∀ {part rest x y}, m.part part x → m.parts rest y →
    m.parts (part :: rest) (.both (· ++ ·) x y)
  element : ∀ {span tag types attributes children inTag content},
    m.settings attributes inTag → m.templates children content →
    m.element span tag types attributes children
      (elementTemplate span tag attributes inTag content)
  call : ∀ {span tag types attributes children props leaves},
    m.propsOf (Markup.flattenAll children).isEmpty attributes props → m.leavesOf children leaves →
    m.call span tag types attributes children
      (componentCall span tag attributes children props leaves)
  valueElement : ∀ {span tag types attributes children x},
    m.element span tag types attributes children x →
    m.value (.element span tag types attributes children) (x >>= inTemplate)
  valueComponent : ∀ {span tag types attributes children x},
    m.call span tag types attributes children x →
    m.value (.component span tag types attributes children)
      (x >>= fun call => inTemplate (.hole call))
  valueFragment : ∀ {children x}, m.leavesOf children x →
    m.value (.fragment children) (x >>= fragmentValue)
  valueText : ∀ raw : String,
    m.value (.text raw) (pure (.string (Text.decodeEntities raw.toList)))
  valueHole : ∀ {isSpread value}, m.patches value (value.patches options) →
    m.value (.hole isSpread value) ((value.patches options).map (.copy value))
  templateStatic : ∀ {span tag types attributes children},
    (Markup.element span tag types attributes children).isStatic = true →
    m.template (.element span tag types attributes children)
      (((Markup.element span tag types attributes children).staticText options).map .text)
  templateElement : ∀ {span tag types attributes children x},
    (Markup.element span tag types attributes children).isStatic = false →
    m.element span tag types attributes children x →
    m.template (.element span tag types attributes children) x
  templateComponent : ∀ {span tag types attributes children x},
    m.call span tag types attributes children x →
    m.template (.component span tag types attributes children) (x.map .hole)
  templateFragment : ∀ {children x}, m.templates children x → m.template (.fragment children) x
  templateText : ∀ raw : String, m.template (.text raw)
    (pure (if keepsText options raw.toList then .text raw.toList else .empty))
  templateHole : ∀ {isSpread value}, m.patches value (value.patches options) →
    m.template (.hole isSpread value)
      ((value.patches options).map fun patches => .hole (.copy value patches))
  templatesNil : m.templates [] (pure .empty)
  templatesCons : ∀ {node rest x y}, m.template node x → m.templates rest y →
    m.templates (node :: rest) (.both (· ++ ·) x y)
  leavesElement : ∀ {span tag types attributes children x},
    m.element span tag types attributes children x →
    m.leaves (.element span tag types attributes children)
      ((x >>= inTemplate).map fun code => [.plain code])
  leavesComponent : ∀ {span tag types attributes children x},
    m.call span tag types attributes children x →
    m.leaves (.component span tag types attributes children)
      (x.map fun call => [⟨call, false, true⟩])
  leavesFragment : ∀ {children x}, m.leavesOf children x → m.leaves (.fragment children) x
  leavesText : ∀ raw : String, m.leaves (.text raw)
    (pure (if Text.allBlank raw.toList then []
      else [.plain (.string (Text.decodeEntities (Text.trim raw.toList)))]))
  leavesHole : ∀ {isSpread value}, m.patches value (value.patches options) →
    m.leaves (.hole isSpread value) ((value.patches options).map fun patches =>
      [if isSpread then ⟨.spread (operand value (.copy value patches)), true, false⟩
        else .plain (operand value (.copy value patches))])
  leavesNil : m.leavesOf [] (pure [])
  leavesCons : ∀ {node rest x y}, m.leaves node x → m.leavesOf rest y →
    m.leavesOf (node :: rest) (.both (· ++ ·) x y)
  settingNamed : ∀ {name value x}, m.code value x →
    m.setting (.named name value) (x >>= attributeTemplate name value)
  settingSpread : ∀ {value}, m.patches value (value.patches options) →
    m.setting (.spread value) ((value.patches options >>= fun patches =>
      callHelper .spread [.copy value patches]).map directive)
  settingsNil : m.settings [] (pure .empty)
  settingsCons : ∀ {a rest x y}, m.setting a x → m.settings rest y →
    m.settings (a :: rest) (.both (· ++ ·) x y)
  propsOverridden : ∀ value, m.props false (.named "children" value) (pure [])
  propsNamed : ∀ {isEmpty name value x}, (!isEmpty && name == "children") = false →
    m.code value x → m.props isEmpty (.named name value)
      (x.map fun code => [.entry ⟨name, code, value.needsGetter⟩])
  propsSpread : ∀ {isEmpty value}, m.patches value (value.patches options) →
    m.props isEmpty (.spread value)
      ((value.patches options).map fun patches => [.source (.copy value patches)])
  propsNil : ∀ isEmpty, m.propsOf isEmpty [] (pure [])
  propsCons : ∀ {isEmpty a rest x y}, m.props isEmpty a x → m.propsOf isEmpty rest y →
    m.propsOf isEmpty (a :: rest) (.both (· ++ ·) x y)
  codeLiteral : ∀ text : String,
    m.code (.literal text) (pure (.string (Text.decodeEntities text.toList)))
  codeBare : m.code .bare (pure .flag)
  codeExpr : ∀ {value}, m.patches value (value.patches options) →
    m.code (.expr value) ((value.patches options).map fun patches =>
      operand value (.copy value patches))
  codeMarkup : ∀ {node x}, m.value node x → m.code (.markup node) x

/-! ### The induction -/

namespace Closed

open Emit (bind_pure_eq_map bind_bind_pure_eq_both)

variable {m : Traversal} {options : Options} (h : m.Closed options)

include h

mutual

/-- The property holds of the code for the markup of an expression. -/
theorem holds_patches : (e : Expr) → m.patches e (e.patches options)
  | .name span text => h.name span text
  | .paren _ inner => h.paren (holds_patches inner)
  | .markup span node => by
    rw [Expr.patches, bind_pure_eq_map]
    exact h.markup (holds_value node)
  | .compound _ _ parts => h.compound (holds_parts parts)

/-- Of that for the markup of a part. -/
theorem holds_part : (part : Part) → m.part part (part.patches options)
  | .name role text => h.partName role text
  | .expr value => h.partExpr (holds_patches value)
  | .spread value => h.partSpread (holds_patches value)
  | .function parts => h.partFunction (holds_parts parts)

/-- Of that for the markup of several parts. -/
theorem holds_parts : (parts : List Part) → m.parts parts (Part.patchesOf options parts)
  | [] => h.partsNil
  | part :: rest => by
    rw [Part.patchesOf, bind_bind_pure_eq_both]
    exact h.partsCons (holds_part part) (holds_parts rest)

/-- **The induction over compiling.** A property that each step keeps holds of compiled markup. -/
theorem holds_value : (node : Markup) → m.value node (node.value options)
  | .element _ _ _ attributes children =>
    h.valueElement (h.element (holds_settings attributes) (holds_templates children))
  | .component _ _ _ attributes children =>
    h.valueComponent (h.call (holds_propsOf _ attributes) (holds_leavesOf children))
  | .fragment children => h.valueFragment (holds_leavesOf children)
  | .text raw => h.valueText raw
  | .hole isSpread value => by
    rw [Markup.value, bind_pure_eq_map]
    exact h.valueHole (holds_patches value)

/-- Of markup inside an open template. Static elements are compiled in a way of their own. -/
theorem holds_template : (node : Markup) → m.template node (node.template options)
  | .element span tag types attributes children => by
    unfold Markup.template
    -- a static element is written as text, without its attributes and children being compiled
    split
    next hstatic =>
      rw [bind_pure_eq_map]
      exact h.templateStatic hstatic
    next hstatic =>
      exact h.templateElement (Bool.eq_false_iff.2 hstatic)
        (h.element (holds_settings attributes) (holds_templates children))
  | .component _ _ _ attributes children => by
    rw [Markup.template, bind_pure_eq_map]
    exact h.templateComponent (h.call (holds_propsOf _ attributes) (holds_leavesOf children))
  | .fragment children => h.templateFragment (holds_templates children)
  | .text raw => h.templateText raw
  | .hole isSpread value => by
    rw [Markup.template, bind_pure_eq_map]
    exact h.templateHole (holds_patches value)

/-- Of several pieces of markup inside an open template. -/
theorem holds_templates : (nodes : List Markup) →
    m.templates nodes (Markup.templateOf options nodes)
  | [] => h.templatesNil
  | node :: rest => by
    rw [Markup.templateOf, bind_bind_pure_eq_both]
    exact h.templatesCons (holds_template node) (holds_templates rest)

/-- Of the values that markup contributes to a list. -/
theorem holds_leaves : (node : Markup) → m.leaves node (node.leaves options)
  | .element _ _ _ attributes children => by
    rw [Markup.leaves, ← bind_assoc, bind_pure_eq_map]
    exact h.leavesElement (h.element (holds_settings attributes) (holds_templates children))
  | .component _ _ _ attributes children => by
    rw [Markup.leaves, bind_pure_eq_map]
    exact h.leavesComponent (h.call (holds_propsOf _ attributes) (holds_leavesOf children))
  | .fragment children => h.leavesFragment (holds_leavesOf children)
  | .text raw => h.leavesText raw
  | .hole isSpread value => by
    rw [Markup.leaves, bind_pure_eq_map]
    exact h.leavesHole (holds_patches value)

/-- Of those of several pieces of markup. -/
theorem holds_leavesOf : (nodes : List Markup) → m.leavesOf nodes (Markup.leavesOf options nodes)
  | [] => h.leavesNil
  | node :: rest => by
    rw [Markup.leavesOf, bind_bind_pure_eq_both]
    exact h.leavesCons (holds_leaves node) (holds_leavesOf rest)

/-- Of an attribute in the tag of an element. -/
theorem holds_setting : (a : Attribute) → m.setting a (a.template options)
  | .named name value => h.settingNamed (holds_code value)
  | .spread value => by
    rw [Attribute.template, ← bind_assoc, bind_pure_eq_map]
    exact h.settingSpread (holds_patches value)

/-- Of several of them. -/
theorem holds_settings : (attributes : List Attribute) →
    m.settings attributes (Attribute.templateOf options attributes)
  | [] => h.settingsNil
  | a :: rest => by
    rw [Attribute.templateOf, bind_bind_pure_eq_both]
    exact h.settingsCons (holds_setting a) (holds_settings rest)

/-- Of the properties that an attribute gives to a component. -/
theorem holds_props (isEmpty : Bool) : (a : Attribute) → m.props isEmpty a (a.props options isEmpty)
  | .named name value => by
    unfold Attribute.props
    split
    next hname =>
      -- the attribute for the content of a component that has some
      rw [Bool.and_eq_true, Bool.not_eq_true', beq_iff_eq] at hname
      rw [hname.1, hname.2]
      exact h.propsOverridden value
    next hname =>
      rw [bind_pure_eq_map]
      exact h.propsNamed (Bool.eq_false_iff.2 hname) (holds_code value)
  | .spread value => by
    rw [Attribute.props, bind_pure_eq_map]
    exact h.propsSpread (holds_patches value)

/-- Of those of several attributes. -/
theorem holds_propsOf (isEmpty : Bool) : (attributes : List Attribute) →
    m.propsOf isEmpty attributes (Attribute.propsOf options isEmpty attributes)
  | [] => h.propsNil isEmpty
  | a :: rest => by
    rw [Attribute.propsOf, bind_bind_pure_eq_both]
    exact h.propsCons (holds_props isEmpty a) (holds_propsOf isEmpty rest)

/-- Of the value of an attribute. -/
theorem holds_code : (value : AttributeValue) → m.code value (value.code options)
  | .literal text => h.codeLiteral text
  | .bare => h.codeBare
  | .expr value => by
    rw [AttributeValue.code, bind_pure_eq_map]
    exact h.codeExpr (holds_patches value)
  | .markup node => h.codeMarkup (holds_value node)

end

end Closed

end Traversal

end JsxTemplate
