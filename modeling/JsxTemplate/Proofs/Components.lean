import JsxTemplate.Syntax.Outermost

namespace JsxTemplate

/-!
# Components of a tree

* `Program.components` — the tags of the components in a module, at any depth.
* `Program.components_eq_outermost` — all of them are in its outermost markup.
* `Expr.Hold P`, `Part.AllHold P`, … — the property `P` holds of each component in a tree.
-/

/-! ### Components of a tree -/

mutual

/-- The tags of the components in an expression. -/
@[simp] def Expr.components : Expr → List TagName
  | .name _ _ => []
  | .paren _ inner => inner.components
  | .markup _ node => node.components
  | .compound _ _ parts => Part.componentsOf parts

/-- Those in a part. -/
@[simp] def Part.components : Part → List TagName
  | .name _ _ => []
  | .expr value => value.components
  | .spread value => value.components
  | .function parts => Part.componentsOf parts

/-- Those in several parts. -/
@[simp] def Part.componentsOf : List Part → List TagName
  | [] => []
  | part :: rest => part.components ++ Part.componentsOf rest

/-- The tags of the components in markup, each before those inside of it. -/
@[simp] def Markup.components : Markup → List TagName
  | .element _ _ types attributes children =>
    Part.componentsOf types ++ Attribute.componentsOf attributes ++ Markup.componentsOf children
  | .component _ tag types attributes children =>
    tag :: (Part.componentsOf types ++ Attribute.componentsOf attributes ++
      Markup.componentsOf children)
  | .fragment children => Markup.componentsOf children
  | .text _ => []
  | .hole _ value => value.components

/-- Those in several pieces of markup. -/
@[simp] def Markup.componentsOf : List Markup → List TagName
  | [] => []
  | node :: rest => node.components ++ Markup.componentsOf rest

/-- Those in an attribute. -/
@[simp] def Attribute.components : Attribute → List TagName
  | .named _ value => value.components
  | .spread value => value.components

/-- Those in several attributes. -/
@[simp] def Attribute.componentsOf : List Attribute → List TagName
  | [] => []
  | a :: rest => a.components ++ Attribute.componentsOf rest

/-- Those in the value of an attribute. -/
@[simp] def AttributeValue.components : AttributeValue → List TagName
  | .literal _ => []
  | .bare => []
  | .expr value => value.components
  | .markup node => node.components

end

/-- Those in a statement of a module. -/
def Item.components : Item → List TagName
  | .imports _ => []
  | .code parts => Part.componentsOf parts

/-- The tags of the components in a module, in the order of the text. -/
def Program.components (program : Program) : List TagName :=
  program.items.flatMap Item.components

/-! ### Components of outermost markup -/

mutual

/-- The components of an expression are those of its outermost markup. -/
theorem Expr.components_eq_outermost : (e : Expr) →
    e.components = e.outermost.flatMap fun p => p.2.components
  | .name _ _ => rfl
  | .paren _ inner => Expr.components_eq_outermost inner
  | .markup _ _ => (List.append_nil _).symm
  | .compound _ _ parts => Part.componentsOf_eq_outermostOf parts

theorem Part.components_eq_outermost : (part : Part) →
    part.components = part.outermost.flatMap fun p => p.2.components
  | .name _ _ => rfl
  | .expr value => Expr.components_eq_outermost value
  | .spread value => Expr.components_eq_outermost value
  | .function parts => Part.componentsOf_eq_outermostOf parts

theorem Part.componentsOf_eq_outermostOf : (parts : List Part) →
    Part.componentsOf parts = (Part.outermostOf parts).flatMap fun p => p.2.components
  | [] => rfl
  | part :: rest => by
    rw [Part.componentsOf, Part.outermostOf, List.flatMap_append,
      Part.components_eq_outermost part, Part.componentsOf_eq_outermostOf rest]

end

/-- The components of a statement are those of its outermost markup. -/
theorem Item.components_eq_outermost (item : Item) :
    item.components = item.outermost.flatMap fun p => p.2.components := by
  cases item with
  | imports declaration => rfl
  | code parts => exact Part.componentsOf_eq_outermostOf parts

/-- The components of a module are those of its outermost markup. -/
theorem Program.components_eq_outermost (program : Program) :
    program.components = program.outermost.flatMap fun p => p.2.components := by
  rw [Program.components, Program.outermost, List.flatMap_assoc,
    funext Item.components_eq_outermost]

/-! ### Properties of all components of a tree -/

section Hold

variable (P : TagName → Prop)

/-- The property holds of each component in the expression. -/
def Expr.Hold (e : Expr) : Prop := ∀ tag ∈ e.components, P tag

/-- The property holds of each component in the part. -/
def Part.Hold (part : Part) : Prop := ∀ tag ∈ part.components, P tag

/-- The property holds of each component in the parts. -/
def Part.AllHold (parts : List Part) : Prop := ∀ tag ∈ Part.componentsOf parts, P tag

/-- The property holds of each component in the markup. -/
def Markup.Hold (node : Markup) : Prop := ∀ tag ∈ node.components, P tag

/-- The property holds of each component in the pieces of markup. -/
def Markup.AllHold (nodes : List Markup) : Prop := ∀ tag ∈ Markup.componentsOf nodes, P tag

/-- The property holds of each component in the attribute. -/
def Attribute.Hold (a : Attribute) : Prop := ∀ tag ∈ a.components, P tag

/-- The property holds of each component in the attributes. -/
def Attribute.AllHold (attributes : List Attribute) : Prop :=
  ∀ tag ∈ Attribute.componentsOf attributes, P tag

/-- The property holds of each component in the value of an attribute. -/
def AttributeValue.Hold (value : AttributeValue) : Prop := ∀ tag ∈ value.components, P tag

variable {P}

/-- A variable holds no components. -/
theorem Expr.hold_name (span : Span) (text : String) : (Expr.name span text).Hold P := by
  simp [Expr.Hold]

/-- The parts of a list can be looked at one by one. -/
theorem Markup.allHold_iff {nodes : List Markup} :
    Markup.AllHold P nodes ↔ ∀ node ∈ nodes, node.Hold P := by
  induction nodes with
  | nil => simp [Markup.AllHold]
  | cons node rest ih =>
    rw [Markup.AllHold, Markup.componentsOf, List.forall_mem_append, List.forall_mem_cons, ← ih]
    exact Iff.rfl

/-- Attributes can be looked at one by one. -/
theorem Attribute.allHold_iff {attributes : List Attribute} :
    Attribute.AllHold P attributes ↔ ∀ a ∈ attributes, a.Hold P := by
  induction attributes with
  | nil => simp [Attribute.AllHold]
  | cons a rest ih =>
    rw [Attribute.AllHold, Attribute.componentsOf, List.forall_mem_append, List.forall_mem_cons,
      ← ih]
    exact Iff.rfl

/-- Text holds no components. -/
theorem Markup.hold_text (raw : String) : (Markup.text raw).Hold P := by simp [Markup.Hold]

/-- A tag is asked about only if it is that of a component. -/
theorem Markup.hold_ofTag {tag : TagName} (htag : tag.isComponent = true → P tag) {span : Span}
    {types : List Part} (htypes : Part.AllHold P types) {attributes : List Attribute}
    (hattributes : Attribute.AllHold P attributes) {children : List Markup}
    (hchildren : Markup.AllHold P children) :
    (Markup.ofTag span tag types attributes children).Hold P := by
  have hinside :=
    List.forall_mem_append.2 ⟨List.forall_mem_append.2 ⟨htypes, hattributes⟩, hchildren⟩
  unfold Markup.ofTag
  split
  next hcomponent => exact List.forall_mem_cons.2 ⟨htag hcomponent, hinside⟩
  next => exact hinside

end Hold

end JsxTemplate
