import JsxTemplate.Proofs.Emit

namespace JsxTemplate

/-!
# Properties that compiled code has part by part

A property of code that holds of the whole as soon as it holds of the parts is kept by every step
that puts code in its place.

* `Code.Hereditary P T` — `P` goes up through every constructor but that of a copied expression, if
  the components that are named have tags that satisfy `T`.
* `Emit.Ensures N P (componentCall ..)` and the like — one lemma for each step of
  `Compile/Placement`, for a hereditary `P` of its code and an `N` that holds of notices at the
  tag's start.
-/

open Emit

/-! ### Hereditary properties -/

/-- All holes of a template satisfy a property. -/
def Template.All {α : Type} (P : α → Prop) (t : Template α) : Prop := ∀ h ∈ t.holes, P h.2

namespace Template

variable {α : Type} {P : α → Prop}

/-- There is no hole in the empty template. -/
theorem all_empty : (empty : Template α).All P := by simp [All, empty]

/-- There is no hole in text. -/
theorem all_text (cs : List Char) : (text cs : Template α).All P := by simp [All, text]

/-- A lone hole has the property that its value has. -/
theorem all_hole {a : α} (h : P a) : (hole a).All P := by simpa [All, hole] using h

/-- The holes of two templates in a row are those of both. -/
theorem All.append {t u : Template α} (ht : t.All P) (hu : u.All P) : (t ++ u).All P := by
  obtain ⟨holes, tail⟩ := u
  show (Template.append t ⟨holes, tail⟩).All P
  -- without holes in the second template its text only prolongs the tail of the first
  cases holes with
  | nil => exact ht
  | cons hole rest =>
    intro h hmem
    simp only [Template.append, List.mem_append, List.mem_cons] at hmem
    rcases hmem with hmem | rfl | hmem
    · exact ht h hmem
    · exact hu hole (by simp)
    · exact hu h (by simp [hmem])

end Template

/-- A property that code has if its parts have it, except where an expression is copied. Of the name
    of a component it may ask that the tag satisfies `T`. -/
structure Code.Hereditary (P : Code → Prop) (T : TagName → Prop := fun _ => True) : Prop where
  string : ∀ text, P (.string text)
  flag : P .flag
  name : ∀ tag, T tag → P (.name tag)
  paren : ∀ {inner}, P inner → P (.paren inner)
  spread : ∀ {inner}, P inner → P (.spread inner)
  array : ∀ {items}, (∀ c ∈ items, P c) → P (.array items)
  object : ∀ {entries : List (Entry Code)}, (∀ e ∈ entries, P e.value) → P (.object entries)
  call : ∀ {helper arguments}, (∀ c ∈ arguments, P c) → P (.call helper arguments)
  template : ∀ {content : Template Code}, content.All P → P (.template content)

/-- The code of an item satisfies a property. -/
def PropItem.Holds (P : Code → Prop) : PropItem → Prop
  | entry e => P e.value
  | source code => P code

/-! ### Templates -/

section

variable {N : Notice → Prop} {P : Code → Prop} {T : TagName → Prop} (hP : Code.Hereditary P T)

include hP

/-- A template around holes that have the property has it. -/
theorem ensures_inTemplate {content : Template Code} (h : content.All P) :
    Ensures N P (inTemplate content) :=
  (Ensures.need .html).bind fun _ _ => .pure (hP.template h)

/-- The call of a helper has the property if its arguments have it. -/
theorem ensures_callHelper {helper : Helper} {arguments : List Code} (h : ∀ c ∈ arguments, P c) :
    Ensures N P (callHelper helper arguments) :=
  (Ensures.need helper).bind fun _ _ => .pure (hP.call h)

/-- Parentheses around an operand, where it needs them, keep the property. -/
theorem holds_operand (e : Expr) {code : Code} (h : P code) : P (operand e code) := by
  unfold operand
  split
  · exact hP.paren h
  · exact h

omit hP in
/-- An attribute with a hole for its value. -/
theorem all_boundAttribute (name : String) {code : Code} (h : P code) :
    (boundAttribute name code).All P :=
  (Template.all_text _).append (Template.all_hole h)

omit hP in
/-- A hole in a tag with a blank before it. -/
theorem all_directive {code : Code} (h : P code) : (directive code).All P :=
  (Template.all_text _).append (Template.all_hole h)

omit hP in
/-- An attribute as text or with a hole for its value. -/
theorem all_plainAttribute (name : String) (value : AttributeValue) {code : Code} (h : P code) :
    (plainAttribute name value code).All P := by
  unfold plainAttribute
  split
  · exact Template.all_text _
  · exact all_boundAttribute name h

/-- An attribute whose value goes through a helper unless it is a literal. -/
theorem ensures_mappedAttribute (helper : Helper) (name : String) (value : AttributeValue)
    {code : Code} (h : P code) :
    Ensures N (Template.All P) (mappedAttribute helper name value code) := by
  unfold mappedAttribute
  split
  · exact (ensures_callHelper hP (by simpa using h)).bind fun _ hcall =>
      .pure (all_boundAttribute name hcall)
  · exact .pure (all_plainAttribute name value h)

/-- An attribute of an element, whichever of the eight ways it is written in. -/
theorem ensures_attributeTemplate (name : String) (value : AttributeValue) {code : Code}
    (h : P code) : Ensures N (Template.All P) (attributeTemplate name value code) := by
  unfold attributeTemplate
  split
  · exact (ensures_callHelper hP (by simpa using h)).bind fun _ hcall => .pure (all_directive hcall)
  · exact ensures_mappedAttribute hP _ _ value h
  · exact ensures_mappedAttribute hP _ _ value h
  · exact .pure (all_boundAttribute _ h)
  · exact .pure (all_boundAttribute _ h)
  · exact .pure (all_boundAttribute _ h)
  · exact .pure (all_boundAttribute _ h)
  · exact .pure (all_plainAttribute _ value h)

omit hP in
/-- What is reported about classes is reported at the start of the tag. -/
theorem ensures_reportClasses {span : Span} (hN : ∀ conflict tag, N ⟨conflict, tag, span.start⟩)
    (tag : TagName) (attributes : List Attribute) :
    Ensures N (fun _ => True) (reportClasses span tag attributes) := by
  unfold reportClasses
  split
  · exact .report (hN _ _)
  · exact .pure trivial

omit hP in
/-- An element keeps what its tag and its content have. -/
theorem ensures_elementTemplate {span : Span} (hN : ∀ conflict tag, N ⟨conflict, tag, span.start⟩)
    (tag : TagName) (attributes : List Attribute) {inTag content : Emit (Template Code)}
    (hinTag : Ensures N (Template.All P) inTag) (hcontent : Ensures N (Template.All P) content) :
    Ensures N (Template.All P) (elementTemplate span tag attributes inTag content) := by
  unfold elementTemplate
  refine (ensures_reportClasses hN tag attributes).bind fun _ _ => hinTag.bind fun t ht => ?_
  have hopening := (Template.all_text (P := P) ('<' :: tag.text.toList)).append ht
  -- a void element ends here, any other one after its content
  split
  · exact .pure (hopening.append (Template.all_text _))
  · exact hcontent.bind fun u hu =>
      .pure (((hopening.append (Template.all_text _)).append hu).append (Template.all_text _))

/-! ### Lists of values -/

/-- A value that stands alone, in an array if it is spread. -/
theorem Leaf.holds_alone {leaf : Leaf} (h : P leaf.code) : P leaf.alone := by
  unfold Leaf.alone
  split
  · exact hP.array (by simpa using h)
  · exact h

/-- The value of a fragment: a template, what it holds, or an array of that. -/
theorem ensures_fragmentValue {leaves : List Leaf} (h : ∀ leaf ∈ leaves, P leaf.code) :
    Ensures N P (fragmentValue leaves) := by
  unfold fragmentValue
  split
  · exact ensures_inTemplate hP Template.all_empty
  · exact ensures_inTemplate hP (Template.all_hole (Leaf.holds_alone hP (h _ (by simp))))
  · exact .pure (hP.array (List.forall_mem_map.2 h))

/-- The content of a component, if there is any. -/
theorem ensures_childrenValue {leaves : List Leaf} (h : ∀ leaf ∈ leaves, P leaf.code) :
    Ensures N (fun value => ∀ c ∈ value, P c) (childrenValue leaves) := by
  unfold childrenValue
  split
  · exact .pure (by simp)
  next leaf =>
    have hleaf := h leaf (by simp)
    split
    · exact (ensures_inTemplate hP (Template.all_hole hleaf)).bind fun c hc =>
        .pure (by simpa using hc)
    · exact .pure (by simpa using Leaf.holds_alone hP hleaf)
  · exact .pure (by simpa using hP.array (List.forall_mem_map.2 h))

/-! ### Components -/

/-- The arguments that join items are code of the items, or objects of entries among them. -/
theorem PropItem.holds_arguments {items : List PropItem} {waiting : List (Entry Code)}
    (hwaiting : ∀ e ∈ waiting, P e.value) (h : ∀ item ∈ items, item.Holds P) :
    ∀ c ∈ PropItem.arguments waiting items, P c := by
  have hflush : ∀ c ∈ (if waiting.isEmpty then [] else [Code.object waiting]), P c := by
    intro c hc
    split at hc
    · simp at hc
    · rw [List.mem_singleton.1 hc]
      exact hP.object hwaiting
  induction items generalizing waiting with
  | nil => exact hflush
  | cons item rest ih =>
    have hrest : ∀ i ∈ rest, i.Holds P := fun i hi => h i (List.mem_cons_of_mem _ hi)
    have hitem := h item (by simp)
    cases item with
    | entry e =>
      have hmore : ∀ e' ∈ waiting ++ [e], P e'.value := by
        intro e' he'
        rcases List.mem_append.1 he' with he' | he'
        · exact hwaiting e' he'
        · exact List.mem_singleton.1 he' ▸ hitem
      -- the entry waits with the others until a source comes
      refine ih hmore hrest ?_
      intro c hc
      rw [if_neg (by simp), List.mem_singleton] at hc
      exact hc ▸ hP.object hmore
    | source code =>
      intro c hc
      rcases List.mem_append.1 hc with hc | hc
      · exact hflush c hc
      · rcases List.mem_cons.1 hc with rfl | hc
        · exact hitem
        · exact ih (by simp) hrest (by simp) c hc

/-- The argument of a component: an object, a value that is spread, or a call that joins them. -/
theorem ensures_propsValue {items : List PropItem} (h : ∀ item ∈ items, item.Holds P) :
    Ensures N P (propsValue items) := by
  unfold propsValue
  split
  -- a single spread is passed on as it is
  next code => exact .pure (h (.source code) (by simp))
  next =>
    split
    · exact ensures_callHelper hP (PropItem.holds_arguments hP (by simp) h)
    · -- without a spread among them all properties are entries of one object
      refine .pure (hP.object fun e he => ?_)
      obtain ⟨item, hmem, hitem⟩ := List.mem_filterMap.1 he
      cases item with
      | entry e' =>
        have := h _ hmem
        rw [PropItem.entry?, Option.some.injEq] at hitem
        exact hitem ▸ this
      | source code => cases hitem

omit hP in
/-- What is reported about content is reported at the start of the tag. -/
theorem ensures_reportChildren {span : Span} (hN : ∀ conflict tag, N ⟨conflict, tag, span.start⟩)
    (tag : TagName) (attributes : List Attribute) (hasContent : Bool) :
    Ensures N (fun _ => True) (reportChildren span tag attributes hasContent) := by
  unfold reportChildren
  split
  · exact .report (hN _ _)
  · exact .pure trivial

/-- **The call of a component has the property** if its properties and its content have it and the
    tag is as the property asks. -/
theorem ensures_componentCall {span : Span} (hN : ∀ conflict tag, N ⟨conflict, tag, span.start⟩)
    {tag : TagName} (htag : T tag) (attributes : List Attribute) (children : List Markup)
    {props : Emit (List PropItem)} {leaves : Emit (List Leaf)}
    (hprops : Ensures N (fun items => ∀ item ∈ items, item.Holds P) props)
    (hleaves : Ensures N (fun leaves => ∀ leaf ∈ leaves, P leaf.code) leaves) :
    Ensures N P (componentCall span tag attributes children props leaves) := by
  unfold componentCall
  refine (ensures_reportClasses hN tag attributes).bind fun _ _ => ?_
  refine (ensures_reportChildren hN tag attributes _).bind fun _ _ => ?_
  refine hprops.bind fun items hitems => hleaves.bind fun leaves hleaves => ?_
  refine (ensures_childrenValue hP hleaves).bind fun value hvalue => ?_
  -- the content is one more property, after all attributes
  have hall : ∀ item ∈ items ++ value.toList.map (fun code =>
      .entry ⟨"children", code, childrenNeedGetter (Markup.flattenAll children)⟩),
      item.Holds P := by
    intro item hitem
    rcases List.mem_append.1 hitem with hitem | hitem
    · exact hitems item hitem
    · obtain ⟨code, hcode, rfl⟩ := List.mem_map.1 hitem
      exact hvalue code (by simpa using hcode)
  refine (ensures_propsValue hP hall).bind fun argument hargument => ?_
  refine ensures_callHelper hP fun c hc => ?_
  rcases List.mem_cons.1 hc with rfl | hc
  · exact hP.name tag htag
  · exact List.mem_singleton.1 hc ▸ hargument

end

end JsxTemplate
