import JsxTemplate.Proofs.Fragments
import JsxTemplate.Proofs.Inlining
import JsxTemplate.Proofs.References
import JsxTemplate.Proofs.Traversal

namespace JsxTemplate

/-!
# Parentheses do not count

Parentheses are nodes of the tree, and every decision about an expression has to look through them
by itself. None of the decisions sees them, wherever they stand: around the expression, around a
part of it at any depth, or in the holes of markup.

* `Expr.stripped`, `Markup.stripped` — the tree without parentheses at any depth, and without
  places in the source. Two trees that differ in nothing else are the same after that.
* `Expr.shape_stripped`, `Expr.reads_stripped`, `Expr.needsGetter_stripped`,
  `Markup.isStatic_stripped` — decisions do not change.
* `needs_componentCall` — which helpers the call of a component needs besides its parts: it matters
  only which properties are sources and which children are calls.
* `Traversal.needsStripped`, `Markup.needs_value_stripped` — compiled markup calls the same helpers.
* `parentheses_do_not_count` — all of it for two trees that are the same without parentheses.
-/

/-! ### Trees without parentheses -/

mutual

/-- The expression without parentheses and places, at every depth. -/
def Expr.stripped : Expr → Expr
  | .name _ text => .name default text
  | .paren _ inner => inner.stripped
  | .markup _ node => .markup default node.stripped
  | .compound form _ parts => .compound form default (Part.strippedAll parts)

/-- The part without parentheses and places. -/
def Part.stripped : Part → Part
  | .name role text => .name role text
  | .expr value => .expr value.stripped
  | .spread value => .spread value.stripped
  | .function parts => .function (Part.strippedAll parts)

/-- Several parts without parentheses and places. -/
def Part.strippedAll : List Part → List Part
  | [] => []
  | part :: rest => part.stripped :: Part.strippedAll rest

/-- The markup without parentheses and places. -/
def Markup.stripped : Markup → Markup
  | .element _ tag types attributes children =>
    .element default tag (Part.strippedAll types) (Attribute.strippedAll attributes)
      (Markup.strippedAll children)
  | .component _ tag types attributes children =>
    .component default tag (Part.strippedAll types) (Attribute.strippedAll attributes)
      (Markup.strippedAll children)
  | .fragment children => .fragment (Markup.strippedAll children)
  | .text raw => .text raw
  | .hole isSpread value => .hole isSpread value.stripped

/-- Several pieces of markup without parentheses and places. -/
def Markup.strippedAll : List Markup → List Markup
  | [] => []
  | node :: rest => node.stripped :: Markup.strippedAll rest

/-- The attribute without parentheses and places. -/
def Attribute.stripped : Attribute → Attribute
  | .named name value => .named name value.stripped
  | .spread value => .spread value.stripped

/-- Several attributes without parentheses and places. -/
def Attribute.strippedAll : List Attribute → List Attribute
  | [] => []
  | a :: rest => a.stripped :: Attribute.strippedAll rest

/-- The value of an attribute without parentheses and places. -/
def AttributeValue.stripped : AttributeValue → AttributeValue
  | .literal text => .literal text
  | .bare => .bare
  | .expr value => .expr value.stripped
  | .markup node => .markup node.stripped

end

/-- Parts are stripped one by one. -/
theorem Part.strippedAll_eq_map (parts : List Part) :
    Part.strippedAll parts = parts.map Part.stripped := by
  induction parts with
  | nil => rfl
  | cons part rest ih => rw [Part.strippedAll, List.map_cons, ih]

/-- Attributes are stripped one by one. -/
theorem Attribute.strippedAll_eq_map (attributes : List Attribute) :
    Attribute.strippedAll attributes = attributes.map Attribute.stripped := by
  induction attributes with
  | nil => rfl
  | cons a rest ih => rw [Attribute.strippedAll, List.map_cons, ih]

/-- Pieces of markup in a row are stripped in a row. -/
theorem Markup.strippedAll_append (as bs : List Markup) :
    Markup.strippedAll (as ++ bs) = Markup.strippedAll as ++ Markup.strippedAll bs := by
  induction as with
  | nil => rfl
  | cons a as ih => rw [List.cons_append, Markup.strippedAll, Markup.strippedAll, ih,
      List.cons_append]

/-! ### Decisions -/

/-- Nothing is seen of parentheses in the shape of an expression. -/
theorem Expr.shape_stripped (e : Expr) : e.stripped.shape = e.shape := by
  induction e using Expr.shape.induct with
  | case1 span text => rfl
  | case2 span inner ih => exact ih
  | case3 span node => rfl
  | case4 form span parts => rfl

/-- A value of an attribute is wrapped with and without them. -/
theorem AttributeValue.isWrappable_stripped (value : AttributeValue) :
    value.stripped.isWrappable = value.isWrappable := by
  cases value with
  | literal text => rfl
  | bare => rfl
  | expr e => exact congrArg Shape.isWrappable e.shape_stripped
  | markup node => rfl

mutual

/-- An expression reads with and without parentheses. -/
theorem Expr.reads_stripped : (e : Expr) → e.stripped.reads = e.reads
  | .name _ _ => rfl
  | .paren _ inner => by rw [Expr.stripped, Expr.reads, Expr.reads_stripped inner]
  | .markup _ node => by rw [Expr.stripped, Expr.reads, Expr.reads, Markup.reads_stripped node]
  | .compound form _ parts => by
    cases form <;> simp only [Expr.stripped, Expr.reads, Part.anyReads_stripped parts]

theorem Part.reads_stripped : (part : Part) → part.stripped.reads = part.reads
  | .name _ _ => rfl
  | .expr value => Expr.reads_stripped value
  | .spread value => Expr.reads_stripped value
  | .function _ => rfl

theorem Part.anyReads_stripped : (parts : List Part) →
    Part.anyReads (Part.strippedAll parts) = Part.anyReads parts
  | [] => rfl
  | part :: rest => by
    rw [Part.strippedAll, Part.anyReads, Part.anyReads, Part.reads_stripped part,
      Part.anyReads_stripped rest]

theorem Markup.reads_stripped : (node : Markup) → node.stripped.reads = node.reads
  | .element _ _ _ attributes children => by
    rw [Markup.stripped, Markup.reads, Markup.reads, Attribute.anyReads_stripped attributes,
      Markup.anyReads_stripped children]
  | .component _ _ _ _ _ => rfl
  | .fragment children => Markup.anyReads_stripped children
  | .text _ => rfl
  | .hole _ value => Expr.reads_stripped value

theorem Markup.anyReads_stripped : (nodes : List Markup) →
    Markup.anyReads (Markup.strippedAll nodes) = Markup.anyReads nodes
  | [] => rfl
  | node :: rest => by
    rw [Markup.strippedAll, Markup.anyReads, Markup.anyReads, Markup.reads_stripped node,
      Markup.anyReads_stripped rest]

theorem Attribute.reads_stripped : (a : Attribute) → a.stripped.reads = a.reads
  | .named name value => by
    rw [Attribute.stripped, Attribute.reads, Attribute.reads, AttributeValue.isWrappable_stripped,
      AttributeValue.reads_stripped value]
  | .spread _ => rfl

theorem Attribute.anyReads_stripped : (attributes : List Attribute) →
    Attribute.anyReads (Attribute.strippedAll attributes) = Attribute.anyReads attributes
  | [] => rfl
  | a :: rest => by
    rw [Attribute.strippedAll, Attribute.anyReads, Attribute.anyReads, Attribute.reads_stripped a,
      Attribute.anyReads_stripped rest]

theorem AttributeValue.reads_stripped : (value : AttributeValue) →
    value.stripped.reads = value.reads
  | .literal _ => rfl
  | .bare => rfl
  | .expr value => Expr.reads_stripped value
  | .markup node => Markup.reads_stripped node

end

/-- A part does something with and without parentheses. -/
theorem Part.isInert_stripped (part : Part) : part.stripped.isInert = part.isInert := by
  cases part with
  | name role text => rfl
  | expr value => exact congrArg Shape.isInert value.shape_stripped
  | spread value => rfl
  | function parts => rfl

/-- An array of parts that do nothing is one without parentheses, too. -/
theorem Expr.isInertArray_stripped (e : Expr) : e.stripped.isInertArray = e.isInertArray := by
  induction e using Expr.shape.induct with
  | case1 span text => rfl
  | case2 span inner ih => exact ih
  | case3 span node => rfl
  | case4 form span parts =>
    have hall : (Part.strippedAll parts).all Part.isInert = parts.all Part.isInert := by
      rw [Part.strippedAll_eq_map, List.all_map]
      exact congrArg parts.all (funext Part.isInert_stripped)
    -- only the parts of an array are looked at
    cases form with
    | array => exact hall
    | _ => rfl

/-- **Parentheses do not decide about accessors.** -/
theorem Expr.needsGetter_stripped (e : Expr) : e.stripped.needsGetter = e.needsGetter := by
  rw [Expr.needsGetter, Expr.needsGetter, e.shape_stripped, e.isInertArray_stripped,
    e.reads_stripped]

/-- An attribute is static with and without parentheses. -/
theorem Attribute.isStatic_stripped (a : Attribute) : a.stripped.isStatic = a.isStatic := by
  cases a with
  | named name value => cases value <;> rfl
  | spread value => rfl

mutual

theorem Markup.isStatic_stripped : (node : Markup) → node.stripped.isStatic = node.isStatic
  | .element _ _ _ attributes children => by
    have hall : (Attribute.strippedAll attributes).all Attribute.isStatic =
        attributes.all Attribute.isStatic := by
      rw [Attribute.strippedAll_eq_map, List.all_map]
      exact congrArg attributes.all (funext Attribute.isStatic_stripped)
    rw [Markup.stripped, Markup.isStatic, Markup.isStatic, hall,
      Markup.allStatic_stripped children]
  | .component _ _ _ _ _ => rfl
  | .fragment _ => rfl
  | .text _ => rfl
  | .hole _ _ => rfl

theorem Markup.allStatic_stripped : (nodes : List Markup) →
    Markup.allStatic (Markup.strippedAll nodes) = Markup.allStatic nodes
  | [] => rfl
  | node :: rest => by
    rw [Markup.strippedAll, Markup.allStatic, Markup.allStatic, Markup.isStatic_stripped node,
      Markup.allStatic_stripped rest]

end

mutual

/-- The children that count are the same. -/
theorem Markup.flatten_stripped : (node : Markup) →
    node.stripped.flatten = Markup.strippedAll node.flatten
  | .element _ _ _ _ _ => rfl
  | .component _ _ _ _ _ => rfl
  | .fragment children => Markup.flattenAll_stripped children
  | .text raw => by
    rw [Markup.stripped, Markup.flatten]
    split <;> rfl
  | .hole _ _ => rfl

theorem Markup.flattenAll_stripped : (nodes : List Markup) →
    Markup.flattenAll (Markup.strippedAll nodes) = Markup.strippedAll (Markup.flattenAll nodes)
  | [] => rfl
  | node :: rest => by
    rw [Markup.strippedAll, Markup.flattenAll, Markup.flattenAll, Markup.flatten_stripped node,
      Markup.flattenAll_stripped rest, Markup.strippedAll_append]

end

/-- There is content with and without parentheses. -/
theorem Markup.isEmpty_flattenAll_stripped (nodes : List Markup) :
    (Markup.flattenAll (Markup.strippedAll nodes)).isEmpty = (Markup.flattenAll nodes).isEmpty := by
  rw [Markup.flattenAll_stripped]
  cases Markup.flattenAll nodes <;> rfl

/-! ### Helpers of the steps -/

/-- An element needs what its tag and its content need, unless it can have no content. -/
theorem needs_elementTemplate (span : Span) (tag : TagName) (attributes : List Attribute)
    (inTag content : Emit (Template Code)) :
    (elementTemplate span tag attributes inTag content).needs =
      inTag.needs ++ if isVoidTag tag.text then [] else content.needs := by
  rw [elementTemplate, Emit.needs_bind, needs_reportClasses, List.nil_append, Emit.needs_bind]
  split <;> simp only [Emit.needs_bind, Emit.needs_pure, List.append_nil]

/-- The content of a component is put in a template if it is the call of another one. -/
theorem needs_childrenValue (leaves : List Leaf) :
    (childrenValue leaves).needs = if leaves.map Leaf.isCall = [true] then [.html] else [] := by
  cases leaves with
  | nil => rfl
  | cons leaf rest =>
    cases rest with
    | nil =>
      rw [childrenValue, List.map_cons, List.map_nil]
      cases leaf.isCall <;> rfl
    | cons second more => simp [childrenValue]

/-- There is one value for the content of a component, unless there is no content. -/
theorem length_childrenValue (leaves : List Leaf) :
    (childrenValue leaves).value.toList.length =
      if leaves.map Leaf.isCall = [] then 0 else 1 := by
  cases leaves with
  | nil => rfl
  | cons leaf rest =>
    cases rest with
    | nil =>
      rw [childrenValue, List.map_cons, if_neg (List.cons_ne_nil _ _)]
      cases leaf.isCall <;> rfl
    | cons second more => rfl

/-- Properties are joined by a helper if there is a source among them and something else. -/
theorem needs_propsValue (items : List PropItem) :
    (propsValue items).needs =
      if 2 ≤ items.length ∧ items.any PropItem.isSource then [.mergeProps] else [] := by
  unfold propsValue
  split
  next => rfl
  next hone =>
    by_cases hsource : items.any PropItem.isSource = true
    · -- a source that stands alone is the first case
      have hlength : 2 ≤ items.length := by
        cases items with
        | nil => cases hsource
        | cons item rest =>
          cases rest with
          | nil =>
            cases item with
            | entry e => cases hsource
            | source code => exact absurd rfl (hone code)
          | cons second more => simp
      rw [if_pos hsource, if_pos ⟨hlength, hsource⟩]
      rfl
    · rw [if_neg hsource, if_neg fun h => hsource h.2]
      rfl

/-- The helpers that the call of a component needs besides those in its properties and its content:
    it matters which properties are sources, and which values of the content are calls. -/
def callNeeds (sources calls : List Bool) : List Helper :=
  (if calls = [true] then [.html] else []) ++
    ((if 2 ≤ sources.length + (if calls = [] then 0 else 1) ∧ sources.any id then [.mergeProps]
      else []) ++ [.component])

/-- **What the call of a component needs.** Besides what its parts need, this depends on which
    properties are spread and which values are calls. -/
theorem needs_componentCall (span : Span) (tag : TagName) (attributes : List Attribute)
    (children : List Markup) (props : Emit (List PropItem)) (leaves : Emit (List Leaf)) :
    (componentCall span tag attributes children props leaves).needs =
      props.needs ++ (leaves.needs ++
        callNeeds (props.value.map PropItem.isSource) (leaves.value.map Leaf.isCall)) := by
  -- the content of a component is a property of its own, never a spread
  have hlast : ∀ (codes : List Code) (flag : Bool),
      (codes.map fun code => PropItem.entry ⟨"children", code, flag⟩).any PropItem.isSource =
        false := by
    simp [PropItem.isSource]
  have hcall : ∀ arguments, (callHelper .component arguments).needs = [.component] := fun _ => rfl
  unfold componentCall callNeeds
  simp only [Emit.needs_bind, needs_reportClasses, needs_reportChildren, List.nil_append,
    needs_childrenValue, needs_propsValue, hcall, List.length_append, List.length_map,
    length_childrenValue, List.any_append, List.any_map, Function.id_comp, hlast, Bool.or_false]

/-! ### Helpers of compiled markup -/

/-- The helper for a style or a map of classes depends on the shape of the value alone. -/
theorem needs_attributeTemplate_congr (name : String) {value value' : AttributeValue}
    (h : value.isWrappable = value'.isWrappable) (code code' : Code) :
    (attributeTemplate name value code).needs = (attributeTemplate name value' code').needs := by
  -- only the two mapped kinds look at the value, and they ask nothing but whether it is wrapped
  have hmapped : ∀ helper text, (mappedAttribute helper text value code).needs =
      (mappedAttribute helper text value' code').needs := by
    intro helper text
    rw [mappedAttribute, mappedAttribute, h]
    split <;> rfl
  unfold attributeTemplate
  cases AttributeKind.of name with
  | style => exact hmapped .styleMap "style"
  | classMap => exact hmapped .classMap "class"
  | _ => rfl

open Emit (bind_pure_eq_map bind_bind_pure_eq_both needs_bind needs_map needs_both value_map_apply
  value_both)

variable (options : Options)

/-- A result needs the helpers that the tree without parentheses needs. The same values of a list
    are calls of components, and the same properties of a component are sources. -/
def Traversal.needsStripped : Traversal where
  patches e x := (e.stripped.patches options).needs = x.needs
  part part x := (part.stripped.patches options).needs = x.needs
  parts parts x := (Part.patchesOf options (Part.strippedAll parts)).needs = x.needs
  element _ tag _ attributes children x :=
    (elementTemplate default tag (Attribute.strippedAll attributes)
      (Attribute.templateOf options (Attribute.strippedAll attributes))
      (Markup.templateOf options (Markup.strippedAll children))).needs = x.needs
  call _ tag _ attributes children x :=
    (componentCall default tag (Attribute.strippedAll attributes) (Markup.strippedAll children)
      (Attribute.propsOf options (Markup.flattenAll (Markup.strippedAll children)).isEmpty
        (Attribute.strippedAll attributes))
      (Markup.leavesOf options (Markup.strippedAll children))).needs = x.needs
  value node x := (node.stripped.value options).needs = x.needs
  template node x := (node.stripped.template options).needs = x.needs
  templates nodes x := (Markup.templateOf options (Markup.strippedAll nodes)).needs = x.needs
  leaves node x := (node.stripped.leaves options).needs = x.needs ∧
    (node.stripped.leaves options).value.map Leaf.isCall = x.value.map Leaf.isCall
  leavesOf nodes x := (Markup.leavesOf options (Markup.strippedAll nodes)).needs = x.needs ∧
    (Markup.leavesOf options (Markup.strippedAll nodes)).value.map Leaf.isCall =
      x.value.map Leaf.isCall
  setting a x := (a.stripped.template options).needs = x.needs
  settings attributes x :=
    (Attribute.templateOf options (Attribute.strippedAll attributes)).needs = x.needs
  props isEmpty a x := (a.stripped.props options isEmpty).needs = x.needs ∧
    (a.stripped.props options isEmpty).value.map PropItem.isSource = x.value.map PropItem.isSource
  propsOf isEmpty attributes x :=
    (Attribute.propsOf options isEmpty (Attribute.strippedAll attributes)).needs = x.needs ∧
    (Attribute.propsOf options isEmpty (Attribute.strippedAll attributes)).value.map
      PropItem.isSource = x.value.map PropItem.isSource
  code value x := (value.stripped.code options).needs = x.needs

/-- No step looks at parentheses to decide which helpers it needs. -/
theorem Traversal.closed_needsStripped : (needsStripped options).Closed options where
  name _ _ := rfl
  paren hx := hx
  markup {span node x} hx := by
    show (Expr.patches options (.markup default node.stripped)).needs = _
    rw [Expr.patches, bind_pure_eq_map]
    exact hx
  compound hx := hx
  partName _ _ := rfl
  partExpr hx := hx
  partSpread hx := hx
  partFunction hx := hx
  partsNil := rfl
  partsCons {part rest x y} hx hy := by
    show (Part.patchesOf options (part.stripped :: Part.strippedAll rest)).needs = _
    rw [Part.patchesOf, bind_bind_pure_eq_both]
    exact congrArg₂ _ hx hy
  element {span tag types attributes children inTag content} hinTag hcontent := by
    dsimp only [needsStripped] at *
    rw [needs_elementTemplate, needs_elementTemplate, hinTag, hcontent]
  call {span tag types attributes children props leaves} hprops hleaves := by
    dsimp only [needsStripped] at *
    rw [needs_componentCall, needs_componentCall, Markup.isEmpty_flattenAll_stripped, hprops.1,
      hprops.2, hleaves.1, hleaves.2]
  valueElement hx := congrArg (· ++ [Helper.html]) hx
  valueComponent hx := congrArg (· ++ [Helper.html]) hx
  valueFragment {children x} hx := by
    have hlength := congrArg List.length hx.2
    rw [List.length_map, List.length_map] at hlength
    show (Markup.value options (.fragment (Markup.strippedAll children))).needs = _
    rw [Markup.value, needs_bind, needs_bind, (notices_and_needs_fragmentValue _).2,
      (notices_and_needs_fragmentValue _).2, hlength, hx.1]
  valueText _ := rfl
  valueHole {isSpread value} hx := by
    show (Markup.value options (.hole isSpread value.stripped)).needs = _
    rw [Markup.value, bind_pure_eq_map]
    exact hx
  -- parentheses change nothing about being static, so both sides take the same branch
  templateStatic {span tag types attributes children} hstatic := by
    have hstripped := Markup.isStatic_stripped (.element span tag types attributes children)
    rw [hstatic, Markup.stripped] at hstripped
    show (Markup.template options (.element default tag _ _ _)).needs = _
    rw [Markup.template, if_pos hstripped, bind_pure_eq_map, needs_map, needs_map,
      Markup.needs_staticText, Markup.needs_staticText]
  templateElement {span tag types attributes children x} hstatic hx := by
    have hstripped := Markup.isStatic_stripped (.element span tag types attributes children)
    rw [hstatic, Markup.stripped] at hstripped
    show (Markup.template options (.element default tag _ _ _)).needs = _
    rw [Markup.template, if_neg (Bool.eq_false_iff.1 hstripped)]
    exact hx
  templateComponent {span tag types attributes children x} hx := by
    show (Markup.template options (.component default tag _ _ _)).needs = _
    rw [Markup.template, bind_pure_eq_map]
    exact hx
  templateFragment hx := hx
  templateText _ := rfl
  templateHole {isSpread value} hx := by
    show (Markup.template options (.hole isSpread value.stripped)).needs = _
    rw [Markup.template, bind_pure_eq_map]
    exact hx
  templatesNil := rfl
  templatesCons {node rest x y} hx hy := by
    show (Markup.templateOf options (node.stripped :: Markup.strippedAll rest)).needs = _
    rw [Markup.templateOf, bind_bind_pure_eq_both]
    exact congrArg₂ _ hx hy
  leavesElement {span tag types attributes children x} hx := by
    show (Markup.leaves options (.element default tag _ _ _)).needs = _ ∧ _
    rw [Markup.leaves, ← bind_assoc, bind_pure_eq_map]
    exact ⟨congrArg (· ++ [Helper.html]) hx, rfl⟩
  leavesComponent {span tag types attributes children x} hx := by
    show (Markup.leaves options (.component default tag _ _ _)).needs = _ ∧ _
    rw [Markup.leaves, bind_pure_eq_map]
    exact ⟨hx, rfl⟩
  leavesFragment hx := hx
  leavesText _ := ⟨rfl, rfl⟩
  leavesHole {isSpread value} hx := by
    show (Markup.leaves options (.hole isSpread value.stripped)).needs = _ ∧ _
    rw [Markup.leaves, bind_pure_eq_map]
    refine ⟨hx, ?_⟩
    cases isSpread <;> rfl
  leavesNil := ⟨rfl, rfl⟩
  leavesCons {node rest x y} hx hy := by
    dsimp only [needsStripped] at *
    rw [Markup.strippedAll, Markup.leavesOf, bind_bind_pure_eq_both, needs_both, needs_both,
      value_both, value_both, List.map_append, List.map_append, hx.1, hx.2, hy.1, hy.2]
    exact ⟨rfl, rfl⟩
  settingNamed {name value x} hx := by
    show (Attribute.template options (.named name value.stripped)).needs = _
    rw [Attribute.template, needs_bind, needs_bind,
      needs_attributeTemplate_congr name value.isWrappable_stripped _ x.value]
    exact congrArg (· ++ _) hx
  settingSpread {value} hx := by
    show (Attribute.template options (.spread value.stripped)).needs = _
    rw [Attribute.template, ← bind_assoc, bind_pure_eq_map]
    exact congrArg (· ++ [Helper.spread]) hx
  settingsNil := rfl
  settingsCons {a rest x y} hx hy := by
    show (Attribute.templateOf options (a.stripped :: Attribute.strippedAll rest)).needs = _
    rw [Attribute.templateOf, bind_bind_pure_eq_both]
    exact congrArg₂ _ hx hy
  propsOverridden _ := ⟨rfl, rfl⟩
  propsNamed {isEmpty name value x} hname hx := by
    show (Attribute.props options isEmpty (.named name value.stripped)).needs = _ ∧ _
    rw [Attribute.stripped, Attribute.props, if_neg (Bool.eq_false_iff.1 hname), bind_pure_eq_map]
    exact ⟨hx, rfl⟩
  propsSpread {isEmpty value} hx := by
    show (Attribute.props options isEmpty (.spread value.stripped)).needs = _ ∧ _
    rw [Attribute.props, bind_pure_eq_map]
    exact ⟨hx, rfl⟩
  propsNil _ := ⟨rfl, rfl⟩
  propsCons {isEmpty a rest x y} hx hy := by
    dsimp only [needsStripped] at *
    rw [Attribute.strippedAll, Attribute.propsOf, bind_bind_pure_eq_both, needs_both, needs_both,
      value_both, value_both, List.map_append, List.map_append, hx.1, hx.2, hy.1, hy.2]
    exact ⟨rfl, rfl⟩
  codeLiteral _ := rfl
  codeBare := rfl
  codeExpr {value} hx := by
    show (AttributeValue.code options (.expr value.stripped)).needs = _
    rw [AttributeValue.code, bind_pure_eq_map]
    exact hx
  codeMarkup hx := hx

/-- **Compiled markup calls the same helpers** without parentheses. -/
theorem Markup.needs_value_stripped (node : Markup) :
    (node.stripped.value options).needs = (node.value options).needs :=
  (Traversal.closed_needsStripped options).holds_value node

/-- **Parentheses do not count.** Take two trees that are the same without parentheses: one comes
    from the other by putting parentheses around any occurrences of expressions, at any depth, and
    taking others away. Two such expressions have the same shape, read reactive state alike and need
    a getter alike. Two such pieces of markup read alike, are inlined as text alike and are compiled
    to calls of the same helpers in the same order. Two such values of an attribute are handed to
    the same helper, for a style, a map of classes or any other attribute. -/
theorem parentheses_do_not_count :
    (∀ e e' : Expr, e.stripped = e'.stripped →
      e.shape = e'.shape ∧ e.reads = e'.reads ∧ e.needsGetter = e'.needsGetter) ∧
    (∀ node node' : Markup, node.stripped = node'.stripped →
      node.reads = node'.reads ∧ node.isStatic = node'.isStatic ∧
      ∀ options, (node.value options).needs = (node'.value options).needs) ∧
    (∀ value value' : AttributeValue, value.stripped = value'.stripped →
      value.isWrappable = value'.isWrappable ∧ ∀ name code code',
        (attributeTemplate name value code).needs =
          (attributeTemplate name value' code').needs) := by
  refine ⟨?_, ?_, ?_⟩
  · intro e e' h
    refine ⟨?_, ?_, ?_⟩
    · rw [← e.shape_stripped, h, e'.shape_stripped]
    · rw [← e.reads_stripped, h, e'.reads_stripped]
    · rw [← e.needsGetter_stripped, h, e'.needsGetter_stripped]
  · intro node node' h
    refine ⟨?_, ?_, fun options => ?_⟩
    · rw [← node.reads_stripped, h, node'.reads_stripped]
    · rw [← node.isStatic_stripped, h, node'.isStatic_stripped]
    · rw [← node.needs_value_stripped options, h, node'.needs_value_stripped options]
  · intro value value' h
    have hwrappable : value.isWrappable = value'.isWrappable := by
      rw [← value.isWrappable_stripped, h, value'.isWrappable_stripped]
    exact ⟨hwrappable, fun name => needs_attributeTemplate_congr name hwrappable⟩

/-- `[a, <p style={b.c}>{d}</p>]` and `[((a)), (<p style={(b.c)}>{(d)}</p>)]`: both are arrays that
    need a getter, and both templates call the helper for styles. -/
theorem parentheses_do_not_count_array :
    let style : Expr := .compound .member default [.expr (.name default "b"), .name .property "c"]
    let node : Markup := .element default (.plain "p") [] [.named "style" (.expr style)]
      [.hole false (.name default "d")]
    let node' : Markup := .element default (.plain "p") []
      [.named "style" (.expr (.paren default style))]
      [.hole false (.paren default (.name default "d"))]
    let e : Expr := .compound .array default
      [.expr (.name default "a"), .expr (.markup default node)]
    let e' : Expr := .compound .array default
      [.expr (.paren default (.paren default (.name default "a"))),
        .expr (.paren default (.markup default node'))]
    (e.shape = e'.shape ∧ e.reads = e'.reads ∧ e.needsGetter = e'.needsGetter) ∧
    (node.reads = node'.reads ∧ node.isStatic = node'.isStatic ∧
      (node.value {}).needs = (node'.value {}).needs) ∧
    (attributeTemplate "style" (.expr style) (.name (.plain "s"))).needs =
      (attributeTemplate "style" (.expr (.paren default style)) (.name (.plain "s"))).needs := by
  intro style node node' e e'
  have hnode := parentheses_do_not_count.2.1 node node' rfl
  have hstyle := parentheses_do_not_count.2.2 (.expr style) (.expr (.paren default style)) rfl
  exact ⟨parentheses_do_not_count.1 e e' rfl, ⟨hnode.1, hnode.2.1, hnode.2.2 {}⟩, hstyle.2 _ _ _⟩

end JsxTemplate
