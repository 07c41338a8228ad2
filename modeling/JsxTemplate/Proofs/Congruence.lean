import JsxTemplate.Proofs.Alike
import JsxTemplate.Proofs.Children
import JsxTemplate.Proofs.Inlining

namespace JsxTemplate

/-!
# Trees that compile alike

If two trees differ in parts that compile alike and are judged alike, the trees do as well. So it
suffices to look at the place of a change.

* `Markup.Alike options source` — two pieces of markup give the same text, notices and helpers
  wherever they stand, and the same decisions are made about them. `Expr.Alike`, `Attribute.Alike`
  and so on — this for the other kinds of trees.
* `Markup.AlikeAll` — two lists of children, which need not have the same length.
* `Expr.Alike.compound`, `Markup.Alike.element` and the like — one lemma for each constructor.
-/

/-! ### What is compared -/

/-- The same decisions are made about two pieces of markup that are children of a component. -/
structure Markup.Judged (node node' : Markup) : Prop where
  reads : node.reads = node'.reads
  needsGetter : node.needsGetter = node'.needsGetter
  isInert : node.isInert = node'.isInert

section

variable (options : Options) (source : List Char)

/-- Expressions at the same place that compile alike and are judged alike. -/
structure Expr.Alike (e e' : Expr) : Prop where
  span : e.span = e'.span
  isSequence : e.isSequence = e'.isSequence
  shape : e.shape = e'.shape
  isInertArray : e.isInertArray = e'.isInertArray
  reads : e.reads = e'.reads
  patches : Emit.Same (List.Forall₂ (Code.AlikeAt source)) (e.patches options) (e'.patches options)

/-- Parts that compile alike and are judged alike. -/
structure Part.Alike (part part' : Part) : Prop where
  isInert : part.isInert = part'.isInert
  reads : part.reads = part'.reads
  patches : Emit.Same (List.Forall₂ (Code.AlikeAt source)) (part.patches options)
    (part'.patches options)

/-- Values of an attribute that compile alike and are judged alike. -/
structure AttributeValue.Alike (value value' : AttributeValue) : Prop
    extends AttributeValue.Matches value value' where
  isConstant : value.isConstant = value'.isConstant
  needsGetter : value.needsGetter = value'.needsGetter
  reads : value.reads = value'.reads
  code : Emit.Same (Code.Alike source) (value.code options) (value'.code options)

/-- Attributes of the same name that compile alike, on elements and on components, and are judged
    alike. -/
structure Attribute.Alike (a a' : Attribute) : Prop where
  name : a.name? = a'.name?
  isBare : a.isBare = a'.isBare
  isStatic : a.isStatic = a'.isStatic
  reads : a.reads = a'.reads
  template : Emit.Same (Template.Alike source) (a.template options) (a'.template options)
  props : ∀ isEmpty, Emit.Same (List.Forall₂ (PropItem.Alike source)) (a.props options isEmpty)
    (a'.props options isEmpty)

/-- Markup that compiles alike wherever it stands, as a value, inside of a template and in a list,
    and is judged alike. -/
structure Markup.Alike (node node' : Markup) : Prop extends Markup.Judged node node' where
  value : Emit.Same (Code.Alike source) (node.value options) (node'.value options)
  template : Emit.Same (Template.Alike source) (node.template options) (node'.template options)
  leaves : Emit.Same (List.Forall₂ (Leaf.Alike source)) (node.leaves options) (node'.leaves options)
  flat : List.Forall₂ Markup.Judged node.flatten node'.flatten

/-- Children that compile alike, in a template and in a list, and are judged alike. -/
structure Markup.AlikeAll (nodes nodes' : List Markup) : Prop where
  reads : Markup.anyReads nodes = Markup.anyReads nodes'
  template : Emit.Same (Template.Alike source) (Markup.templateOf options nodes)
    (Markup.templateOf options nodes')
  leaves : Emit.Same (List.Forall₂ (Leaf.Alike source)) (Markup.leavesOf options nodes)
    (Markup.leavesOf options nodes')
  flat : List.Forall₂ Markup.Judged (Markup.flattenAll nodes) (Markup.flattenAll nodes')

end

variable {options : Options} {source : List Char}

/-! ### Nothing changed -/

/-- The same is decided about markup and itself. -/
theorem Markup.Judged.refl (node : Markup) : node.Judged node := ⟨rfl, rfl, rfl⟩

/-- The code in place of markup is alike to itself. -/
theorem Emit.Same.refl_patches (x : Emit (List (Span × Code))) :
    Emit.Same (List.Forall₂ (Code.AlikeAt source)) x x :=
  .refl (fun _ => List.forall₂_same.2 fun p _ => ⟨rfl, .refl p.2⟩) x

/-- A value of a list is alike to itself. -/
theorem Leaf.Alike.refl (leaf : Leaf) : leaf.Alike source leaf := ⟨.refl _, rfl, rfl⟩

theorem PropItem.Alike.refl (item : PropItem) : PropItem.Alike source item item := by
  cases item with
  | entry e => exact .entry ⟨rfl, .refl _, rfl⟩
  | source code => exact .source (.refl _)

theorem Expr.Alike.refl (e : Expr) : e.Alike options source e :=
  ⟨rfl, rfl, rfl, rfl, rfl, .refl_patches _⟩

theorem Part.Alike.refl (part : Part) : part.Alike options source part :=
  ⟨rfl, rfl, .refl_patches _⟩

theorem AttributeValue.Alike.refl (value : AttributeValue) : value.Alike options source value :=
  ⟨.refl value, rfl, rfl, rfl, .refl Code.Alike.refl _⟩

theorem Attribute.Alike.refl (a : Attribute) : a.Alike options source a where
  name := rfl
  isBare := rfl
  isStatic := rfl
  reads := rfl
  template := .refl Template.Alike.refl _
  props := fun _ => .refl (fun _ => List.forall₂_same.2 fun item _ => .refl item) _

theorem Markup.Alike.refl (node : Markup) : node.Alike options source node where
  toJudged := .refl node
  value := .refl Code.Alike.refl _
  template := .refl Template.Alike.refl _
  leaves := .refl (fun _ => List.forall₂_same.2 fun leaf _ => .refl leaf) _
  flat := List.forall₂_same.2 fun n _ => .refl n

theorem Markup.AlikeAll.refl (nodes : List Markup) :
    Markup.AlikeAll options source nodes nodes where
  reads := rfl
  template := .refl Template.Alike.refl _
  leaves := .refl (fun _ => List.forall₂_same.2 fun leaf _ => .refl leaf) _
  flat := List.forall₂_same.2 fun n _ => .refl n

/-! ### Expressions -/

namespace Expr.Alike

variable {e e' : Expr}

/-- Expressions that are alike get an accessor both or not at all. -/
theorem needsGetter_eq (h : e.Alike options source e') : e.needsGetter = e'.needsGetter := by
  unfold Expr.needsGetter
  rw [h.shape, h.isInertArray, h.reads]

/-- Copies of the two expressions are written alike. -/
theorem copy (h : e.Alike options source e') :
    Emit.Same (fun ps qs => (Code.copy e ps).Alike source (.copy e' qs)) (e.patches options)
      (e'.patches options) :=
  ⟨.copy h.span h.patches.value, h.patches.notices, h.patches.needs⟩

/-- Parentheses around expressions that are alike. -/
theorem paren (span : Span) (h : e.Alike options source e') :
    (Expr.paren span e).Alike options source (.paren span e') where
  span := rfl
  isSequence := rfl
  shape := h.shape
  isInertArray := h.isInertArray
  reads := h.reads
  patches := h.patches

/-- Markup that is alike, as a value. -/
theorem markup (span : Span) {node node' : Markup} (h : node.Alike options source node') :
    (Expr.markup span node).Alike options source (.markup span node') where
  span := rfl
  isSequence := rfl
  shape := rfl
  isInertArray := rfl
  reads := h.reads
  patches := h.value.bind fun _ _ hcode => .pure (.cons ⟨rfl, hcode⟩ .nil)

end Expr.Alike

/-! ### Parts -/

namespace Part.Alike

variable {parts parts' : List Part}

/-- Of parts that are alike some read in both lists or in none. -/
theorem anyReads_eq (h : List.Forall₂ (Part.Alike options source) parts parts') :
    Part.anyReads parts = Part.anyReads parts' := by
  induction h with
  | nil => rfl
  | cons hpart _ ih => rw [Part.anyReads, Part.anyReads, hpart.reads, ih]

/-- Parts that are alike do nothing both or not at all. -/
theorem all_isInert_eq (h : List.Forall₂ (Part.Alike options source) parts parts') :
    parts.all Part.isInert = parts'.all Part.isInert := by
  induction h with
  | nil => rfl
  | cons hpart _ ih => rw [List.all_cons, List.all_cons, hpart.isInert, ih]

/-- The code in place of the markup of parts that are alike, part by part. -/
theorem patchesOf (h : List.Forall₂ (Part.Alike options source) parts parts') :
    Emit.Same (List.Forall₂ (Code.AlikeAt source)) (Part.patchesOf options parts)
      (Part.patchesOf options parts') := by
  induction h with
  | nil => exact .pure .nil
  | cons hpart _ ih =>
    exact hpart.patches.bind fun _ _ hps => ih.bind fun _ _ hqs => .pure (List.rel_append hps hqs)

/-- Expressions that are alike are so as parts. -/
theorem expr {e e' : Expr} (h : e.Alike options source e') :
    (Part.expr e).Alike options source (.expr e') where
  isInert := by rw [Part.isInert, Part.isInert, h.shape]
  reads := h.reads
  patches := h.patches

/-- They are so where they are spread, too. -/
theorem spread {e e' : Expr} (h : e.Alike options source e') :
    (Part.spread e).Alike options source (.spread e') :=
  ⟨rfl, h.reads, h.patches⟩

/-- Functions of parts that are alike. -/
theorem function (h : List.Forall₂ (Part.Alike options source) parts parts') :
    (Part.function parts).Alike options source (.function parts') :=
  ⟨rfl, rfl, patchesOf h⟩

end Part.Alike

/-- Expressions of one form whose parts are alike. -/
theorem Expr.Alike.compound (form : Form) (span : Span) {parts parts' : List Part}
    (h : List.Forall₂ (Part.Alike options source) parts parts') :
    (Expr.compound form span parts).Alike options source (.compound form span parts') where
  span := rfl
  isSequence := by cases form <;> rfl
  shape := rfl
  isInertArray := by
    cases form with
    | array => exact Part.Alike.all_isInert_eq h
    | _ => rfl
  -- members and calls always read and functions never do; any other form reads as its parts
  reads := by
    cases form with
    | member => rfl
    | call => rfl
    | arrow => rfl
    | function => rfl
    | _ => exact Part.Alike.anyReads_eq h
  patches := Part.Alike.patchesOf h

/-! ### Attributes -/

/-- Expressions that are alike are so as values of attributes. -/
theorem AttributeValue.Alike.expr {e e' : Expr} (h : e.Alike options source e') :
    (AttributeValue.expr e).Alike options source (.expr e') where
  toMatches := .of_ne (by simp) (by simp)
    (by rw [AttributeValue.isWrappable, AttributeValue.isWrappable, h.shape])
  isConstant := rfl
  needsGetter := h.needsGetter_eq
  reads := h.reads
  code := h.copy.bind fun _ _ hcopy => .pure (alike_operand h.isSequence hcopy)

/-- Markup that is alike is so as the value of an attribute. -/
theorem AttributeValue.Alike.markup {node node' : Markup} (h : node.Alike options source node') :
    (AttributeValue.markup node).Alike options source (.markup node') where
  toMatches := .of_ne (by simp) (by simp) rfl
  isConstant := rfl
  needsGetter := h.reads
  reads := h.reads
  code := h.value

/-- A bare attribute is one without a value. -/
theorem Attribute.isBare_named_iff {name : String} {value : AttributeValue} :
    (Attribute.named name value).isBare = true ↔ value = .bare := by
  cases value <;> simp [Attribute.isBare]

/-- No value is the one constant that is not written as text. -/
theorem AttributeValue.eq_bare_iff {value : AttributeValue} :
    value = .bare ↔ value.isConstant = true ∧ ∀ text, value ≠ .literal text := by
  cases value <;> simp [AttributeValue.isConstant]

namespace Attribute.Alike

/-- Attributes of one name whose values are alike. -/
theorem named (name : String) {value value' : AttributeValue}
    (h : value.Alike options source value') :
    (Attribute.named name value).Alike options source (.named name value') where
  name := rfl
  isBare := by
    -- a bare value is a constant that is no literal, and alike values agree on both
    rw [Bool.eq_iff_iff, Attribute.isBare_named_iff, Attribute.isBare_named_iff,
      AttributeValue.eq_bare_iff, AttributeValue.eq_bare_iff, h.isConstant]
    simp only [ne_eq, h.literal]
  isStatic := by rw [Attribute.isStatic, Attribute.isStatic, h.isConstant]
  reads := by rw [Attribute.reads, Attribute.reads, h.isWrappable, h.reads]
  template := h.code.bind fun _ _ hcode => same_attributeTemplate name h.toMatches hcode
  props := by
    intro isEmpty
    unfold Attribute.props
    split
    · exact .pure .nil
    · refine h.code.bind fun _ _ hcode => .pure (.cons (.entry ⟨rfl, hcode, ?_⟩) .nil)
      exact h.needsGetter

/-- Attributes that spread expressions that are alike. -/
theorem spread {e e' : Expr} (h : e.Alike options source e') :
    (Attribute.spread e).Alike options source (.spread e') where
  name := rfl
  isBare := rfl
  isStatic := rfl
  reads := rfl
  template := h.copy.bind fun _ _ hcopy =>
    (same_callHelper .spread (.cons hcopy .nil)).bind fun _ _ hcall => .pure (alike_directive hcall)
  props := fun _ => h.copy.bind fun _ _ hcopy => .pure (.cons (.source hcopy) .nil)

variable {attributes attributes' : List Attribute}

/-- Attributes that are alike have the same names. -/
theorem filterMap_name?_eq
    (h : List.Forall₂ (Attribute.Alike options source) attributes attributes') :
    attributes.filterMap Attribute.name? = attributes'.filterMap Attribute.name? := by
  induction h with
  | nil => rfl
  | cons ha _ ih => rw [List.filterMap_cons, List.filterMap_cons, ha.name, ih]

/-- If none of the one list is bare, none of the other is. -/
theorem forall_not_isBare (h : List.Forall₂ (Attribute.Alike options source) attributes attributes')
    (hbare : ∀ a ∈ attributes, a.isBare = false) : ∀ a ∈ attributes', a.isBare = false := by
  induction h with
  | nil => exact hbare
  | cons ha _ ih =>
    obtain ⟨hhead, hrest⟩ := List.forall_mem_cons.1 hbare
    exact List.forall_mem_cons.2 ⟨ha.isBare ▸ hhead, ih hrest⟩

/-- Attributes that are alike are static both or not at all. -/
theorem all_isStatic_eq (h : List.Forall₂ (Attribute.Alike options source) attributes attributes') :
    attributes.all Attribute.isStatic = attributes'.all Attribute.isStatic := by
  induction h with
  | nil => rfl
  | cons ha _ ih => rw [List.all_cons, List.all_cons, ha.isStatic, ih]

/-- Of attributes that are alike some read in both lists or in none. -/
theorem anyReads_eq (h : List.Forall₂ (Attribute.Alike options source) attributes attributes') :
    Attribute.anyReads attributes = Attribute.anyReads attributes' := by
  induction h with
  | nil => rfl
  | cons ha _ ih => rw [Attribute.anyReads, Attribute.anyReads, ha.reads, ih]

/-- Attributes that are alike are alike in the tag of an element. -/
theorem templateOf (h : List.Forall₂ (Attribute.Alike options source) attributes attributes') :
    Emit.Same (Template.Alike source) (Attribute.templateOf options attributes)
      (Attribute.templateOf options attributes') := by
  induction h with
  | nil => exact .pure .empty
  | cons ha _ ih =>
    exact ha.template.bind fun _ _ ht => ih.bind fun _ _ hu => .pure (ht.append hu)

/-- They are alike as properties of a component, too. -/
theorem propsOf (h : List.Forall₂ (Attribute.Alike options source) attributes attributes')
    (isEmpty : Bool) :
    Emit.Same (List.Forall₂ (PropItem.Alike source)) (Attribute.propsOf options isEmpty attributes)
      (Attribute.propsOf options isEmpty attributes') := by
  induction h with
  | nil => exact .pure .nil
  | cons ha _ ih =>
    exact (ha.props isEmpty).bind fun _ _ hs => ih.bind fun _ _ ht => .pure (List.rel_append hs ht)

end Attribute.Alike

/-! ### Children -/

namespace Markup.Judged

variable {nodes nodes' : List Markup}

/-- Lists of children about which the same decisions are made become getters both or not. -/
theorem childrenNeedGetter_eq (h : List.Forall₂ Markup.Judged nodes nodes') :
    childrenNeedGetter nodes = childrenNeedGetter nodes' := by
  have hinert : nodes.all Markup.isInert = nodes'.all Markup.isInert := by
    induction h with
    | nil => rfl
    | cons hnode _ ih => rw [List.all_cons, List.all_cons, hnode.isInert, ih]
  have hreads : Markup.anyReads nodes = Markup.anyReads nodes' := by
    clear hinert
    induction h with
    | nil => rfl
    | cons hnode _ ih => rw [Markup.anyReads, Markup.anyReads, hnode.reads, ih]
  by_cases hmany : 2 ≤ nodes.length
  · rw [childrenNeedGetter_of_two_le hmany, childrenNeedGetter_of_two_le (h.length_eq ▸ hmany),
      hinert, hreads]
  -- one child is asked by itself; several are asked only for what `hinert` and `hreads` compare
  · cases h with
    | nil => rfl
    | cons hnode hrest =>
      cases hrest with
      | nil => exact hnode.needsGetter
      | cons _ _ => simp at hmany

end Markup.Judged

namespace Markup.AlikeAll

variable {nodes nodes' rest rest' : List Markup}

/-- Of two lists of children that are alike both have content or none. -/
theorem isEmpty_eq (h : Markup.AlikeAll options source nodes nodes') :
    (Markup.flattenAll nodes).isEmpty = (Markup.flattenAll nodes').isEmpty := by
  rw [Bool.eq_iff_iff, List.isEmpty_iff_length_eq_zero, List.isEmpty_iff_length_eq_zero,
    h.flat.length_eq]

/-- No children are alike to no children. -/
theorem nil : Markup.AlikeAll options source [] [] :=
  ⟨rfl, .pure .empty, .pure .nil, .nil⟩

/-- One more child on both sides, alike. -/
theorem cons {node node' : Markup} (hnode : node.Alike options source node')
    (hrest : Markup.AlikeAll options source rest rest') :
    Markup.AlikeAll options source (node :: rest) (node' :: rest') where
  reads := by rw [Markup.anyReads, Markup.anyReads, hnode.reads, hrest.reads]
  template := hnode.template.bind fun _ _ ht => hrest.template.bind fun _ _ hu =>
    .pure (ht.append hu)
  leaves := hnode.leaves.bind fun _ _ hs => hrest.leaves.bind fun _ _ ht =>
    .pure (List.rel_append hs ht)
  flat := List.rel_append hnode.flat hrest.flat

end Markup.AlikeAll

/-! ### Markup -/

/-- An element inside of an open template is compiled as any other, also if it is static, unless it
    is static with a bare attribute. -/
theorem Markup.template_element (options : Options) (span : Span) (tag : TagName)
    (types : List Part) {attributes : List Attribute} {children : List Markup}
    (h : attributes.all Attribute.isStatic = false ∨ ∀ a ∈ attributes, a.isBare = false) :
    (Markup.element span tag types attributes children).template options =
      elementTemplate span tag attributes (Attribute.templateOf options attributes)
        (Markup.templateOf options children) := by
  by_cases hstatic : (Markup.element span tag types attributes children).isStatic = true
  · rw [Markup.template, if_pos hstatic, Markup.staticText_element]
    rw [Markup.isStatic, Bool.and_eq_true] at hstatic
    obtain ⟨hattributes, hchildren⟩ := hstatic
    -- a static element writes a bare attribute without its value, so there must be none here
    have hbare : ∀ a ∈ attributes, a.isBare = false := by
      rcases h with h | h
      · rw [hattributes] at h
        cases h
      · exact h
    rw [elementTemplate_of_static options span tag (List.all_eq_true.1 hattributes) hchildren,
      Attribute.concat_pushed_of_not_isBare hbare]
    simp only [bind_assoc, pure_bind, Template.text_append_text]
  · rw [Markup.template, if_neg hstatic]

namespace Markup.Alike

variable {attributes attributes' : List Attribute} {children children' : List Markup}

/-- Elements of one tag whose attributes and children are alike. Static attributes must not be bare,
    since a bare attribute is written in another way in static markup. -/
theorem element (span : Span) (tag : TagName) (types : List Part)
    (hattributes : List.Forall₂ (Attribute.Alike options source) attributes attributes')
    (hchildren : Markup.AlikeAll options source children children')
    (hplain : attributes.all Attribute.isStatic = false ∨ ∀ a ∈ attributes, a.isBare = false) :
    (Markup.element span tag types attributes children).Alike options source
      (.element span tag types attributes' children') := by
  have hplain' : attributes'.all Attribute.isStatic = false ∨
      ∀ a ∈ attributes', a.isBare = false := by
    rcases hplain with hstatic | hbare
    · exact .inl (Attribute.Alike.all_isStatic_eq hattributes ▸ hstatic)
    · exact .inr (Attribute.Alike.forall_not_isBare hattributes hbare)
  have hreads : (Markup.element span tag types attributes children).reads =
      (Markup.element span tag types attributes' children').reads := by
    rw [Markup.reads, Markup.reads, Attribute.Alike.anyReads_eq hattributes, hchildren.reads]
  have htemplate := same_elementTemplate (Attribute.Alike.filterMap_name?_eq hattributes) span tag
    (Attribute.Alike.templateOf hattributes) hchildren.template
  -- an element needs a getter just when it reads, so `hreads` answers both questions
  exact {
    reads := hreads
    needsGetter := hreads
    isInert := rfl
    value := htemplate.bind fun _ _ => same_inTemplate
    template := by
      rw [Markup.template_element options span tag types hplain,
        Markup.template_element options span tag types hplain']
      exact htemplate
    leaves := htemplate.bind fun _ _ ht => (same_inTemplate ht).bind fun _ _ hcode =>
      .pure (.cons ⟨hcode, rfl, rfl⟩ .nil)
    flat := .cons ⟨hreads, hreads, rfl⟩ .nil }

/-- Components of one tag whose attributes and children are alike. -/
theorem component (span : Span) (tag : TagName) (types : List Part)
    (hattributes : List.Forall₂ (Attribute.Alike options source) attributes attributes')
    (hchildren : Markup.AlikeAll options source children children') :
    (Markup.component span tag types attributes children).Alike options source
      (.component span tag types attributes' children') := by
  have hcall : Emit.Same (Code.Alike source)
      (componentCall span tag attributes children
        (Attribute.propsOf options (Markup.flattenAll children).isEmpty attributes)
        (Markup.leavesOf options children))
      (componentCall span tag attributes' children'
        (Attribute.propsOf options (Markup.flattenAll children').isEmpty attributes')
        (Markup.leavesOf options children')) := by
    refine same_componentCall span tag (Attribute.Alike.filterMap_name?_eq hattributes)
      hchildren.isEmpty_eq (Markup.Judged.childrenNeedGetter_eq hchildren.flat) ?_ hchildren.leaves
    -- whether there is content decides what an attribute gives, so it is compared first
    rw [hchildren.isEmpty_eq]
    exact Attribute.Alike.propsOf hattributes _
  exact {
    reads := rfl
    needsGetter := rfl
    isInert := rfl
    value := hcall.bind fun _ _ h => same_inTemplate (.hole h)
    template := hcall.bind fun _ _ h => .pure (.hole h)
    leaves := hcall.bind fun _ _ h => .pure (.cons ⟨h, rfl, rfl⟩ .nil)
    flat := .cons ⟨rfl, rfl, rfl⟩ .nil }

/-- Fragments whose children are alike. -/
theorem fragment (hchildren : Markup.AlikeAll options source children children') :
    (Markup.fragment children).Alike options source (.fragment children') where
  reads := hchildren.reads
  needsGetter := hchildren.reads
  isInert := rfl
  value := hchildren.leaves.bind fun _ _ => same_fragmentValue
  template := hchildren.template
  leaves := hchildren.leaves
  flat := hchildren.flat

/-- Braces around expressions that are alike. -/
theorem hole (isSpread : Bool) {e e' : Expr} (h : e.Alike options source e') :
    (Markup.hole isSpread e).Alike options source (.hole isSpread e') := by
  have hinert : e.shape.isInert = e'.shape.isInert := by rw [h.shape]
  exact {
    reads := h.reads
    needsGetter := h.needsGetter_eq
    isInert := hinert
    value := h.copy.bind fun _ _ hcopy => .pure hcopy
    template := h.copy.bind fun _ _ hcopy => .pure (.hole hcopy)
    leaves := by
      refine h.copy.bind fun _ _ hcopy => ?_
      have hoperand := alike_operand h.isSequence hcopy
      cases isSpread with
      | true => exact .pure (.cons ⟨hoperand.spread, rfl, rfl⟩ .nil)
      | false => exact .pure (.cons ⟨hoperand, rfl, rfl⟩ .nil)
    flat := .cons ⟨h.reads, h.needsGetter_eq, hinert⟩ .nil }

end Markup.Alike

end JsxTemplate
