import JsxTemplate.Proofs.Outlines
import JsxTemplate.Proofs.Traversal
import Mathlib.Data.List.Forall2

namespace JsxTemplate

/-!
# `this` and `arguments` in getters

A getter has a frame of its own, so a value that is moved into a getter loses the frame that it was
written in. Which getters a module gets is read off the outlines of its markup.

* `Outline.Agree` — code uses the frame, and gives properties, as markup does.
* `outline_componentCall` and its companions — the outline of what each step of `Compile/Placement`
  gives.
* `Traversal.agrees`, `Markup.agree_value` — compiled markup agrees with the markup.
* `Program.accessor_uses_frame_iff` — so a getter of a compiled module uses the frame of the
  function around it if and only if a value that uses it has to be read again.
-/

open Emit

/-! ### Agreement -/

namespace Outline

/-- Code uses the frame if and only if markup does, and has the properties that it gives. -/
structure Agree (o : Outline (Entry Code)) (p : Outline Handed) : Prop where
  usesFrame_eq : o.usesFrame = p.usesFrame
  given : List.Forall₂ (fun e handed => Handed.IsGivenBy handed e) o.properties p.properties

namespace Agree

variable {o o' : Outline (Entry Code)} {p p' : Outline Handed}

/-- Nothing agrees with nothing. -/
theorem empty : Agree Outline.empty Outline.empty := ⟨rfl, .nil⟩

/-- Using the frame agrees with using the frame. -/
theorem word (usesFrame : Bool) : Agree (Outline.word usesFrame) (Outline.word usesFrame) :=
  ⟨rfl, .nil⟩

/-- Outlines in a row agree if their parts do. -/
theorem append (h : Agree o p) (h' : Agree o' p') : Agree (o ++ o') (p ++ p') :=
  ⟨congrArg₂ or h.usesFrame_eq h'.usesFrame_eq, List.rel_append h.given h'.given⟩

/-- What agrees with nothing is nothing. -/
theorem eq_empty (h : Agree o Outline.empty) : o = Outline.empty := by
  ext1
  · exact h.usesFrame_eq
  · exact List.forall₂_nil_right_iff.1 h.given

/-- Outlines that agree do so inside of any frame. -/
theorem within (isShared : Bool) (h : Agree o p) : Agree (o.within isShared) (p.within isShared) :=
  ⟨congrArg (isShared && ·) h.usesFrame_eq, h.given⟩

/-- A property agrees if its name, its kind and its value do. -/
theorem entry {e : Entry Code} (handed : Handed) (hgiven : handed.IsGivenBy e)
    (h : Agree e.value.outline p) : Agree e.outline (.given handed handed.needsGetter p) := by
  refine ⟨?_, .cons hgiven h.given⟩
  show (!e.isGetter && e.value.outline.usesFrame) = (!handed.needsGetter && p.usesFrame)
  rw [hgiven.isGetter_eq, h.usesFrame_eq]

/-- Outlines that agree one by one do so in the same frames. -/
theorem inFrames {os : List (Outline (Entry Code))} {ps : List (Outline Handed)}
    (h : List.Forall₂ Agree os ps) (shares : List Bool) :
    Agree (.inFrames shares os) (.inFrames shares ps) := by
  induction h generalizing shares with
  | nil =>
    rw [Outline.inFrames, Outline.inFrames, List.zipWith_nil_right, List.zipWith_nil_right]
    exact empty
  | cons hhead _ ih =>
    -- frames beyond those of the markup, or markup beyond its frames, are left out on both sides
    cases shares with
    | nil => exact empty
    | cons isShared rest => exact (hhead.within isShared).append (ih rest)

end Agree

end Outline

open Outline (Agree)

/-- A copied expression agrees with the expression if the code for its markup does. -/
theorem Outline.Agree.copy {e : Expr} {patches : List (Span × Code)}
    (h : List.Forall₂ Agree (patches.map fun p => p.2.outline) (outlinesOf e.outermost)) :
    Agree (Code.copy e patches).outline e.outline := by
  -- seen from outside of no function, an expression comes apart into its words and its markup
  rw [← Outline.within_true e.outline, e.outline_within true, Bool.true_and, Code.outline,
    Code.outlinesOfPatches_eq]
  exact (Agree.word e.spellsFrame).append (Agree.inFrames h _)

/-! ### Static markup has no outline -/

/-- Static attributes have no outline. -/
theorem Attribute.outlineOf_of_isStatic {attributes : List Attribute}
    (h : ∀ a ∈ attributes, a.isStatic = true) : Attribute.outlineOf attributes = .empty := by
  induction attributes with
  | nil => rfl
  | cons a rest ih =>
    rw [Attribute.outlineOf, ih fun b hb => h b (List.mem_cons_of_mem _ hb), Outline.append_empty]
    have hstatic := h a (by simp)
    cases a with
    | spread value => cases hstatic
    | named name value =>
      rw [Attribute.isStatic, Bool.and_eq_true] at hstatic
      cases value with
      | literal text => rfl
      | bare => rfl
      | expr value => cases hstatic.2
      | markup node => cases hstatic.2

mutual

/-- Static markup has none. -/
theorem Markup.outline_of_isStatic : (node : Markup) → node.isStatic = true →
    node.outline = .empty
  | .element _ tag _ attributes children, h => by
    rw [Markup.isStatic, Bool.and_eq_true, List.all_eq_true] at h
    rw [Markup.outline, Attribute.outlineOf_of_isStatic h.1,
      Markup.outlineOf_of_allStatic children h.2, ite_self, Outline.append_empty]
  | .text _, _ => rfl
  | .component .., h => nomatch h
  | .fragment _, h => nomatch h
  | .hole .., h => nomatch h

/-- Nor have several pieces of it. -/
theorem Markup.outlineOf_of_allStatic : (nodes : List Markup) → Markup.allStatic nodes = true →
    Markup.outlineOf nodes = .empty
  | [], _ => rfl
  | node :: rest, h => by
    rw [Markup.allStatic, Bool.and_eq_true] at h
    rw [Markup.outlineOf, node.outline_of_isStatic h.1, Markup.outlineOf_of_allStatic rest h.2,
      Outline.append_empty]

end

/-! ### The steps -/

/-- A template has the outline of its content. -/
theorem outline_inTemplate (content : Template Code) :
    (inTemplate content).value.outline = content.outline :=
  Code.outline_template content

/-- Parentheses around an operand have none. -/
theorem outline_operand (e : Expr) (code : Code) : (operand e code).outline = code.outline := by
  unfold operand
  split <;> rfl

/-- An attribute has the outline of its value. -/
@[simp] theorem outline_boundAttribute (name : String) (code : Code) :
    (boundAttribute name code).outline = code.outline := by
  simp [boundAttribute]

/-- So has a hole in a tag. -/
@[simp] theorem outline_directive (code : Code) : (directive code).outline = code.outline := by
  simp [directive]

/-- So has an attribute that is written as text if its value is a literal, as literals have none. -/
theorem outline_plainAttribute (name : String) {value : AttributeValue} {code : Code}
    (h : ∀ text, value = .literal text → code.outline = .empty) :
    (plainAttribute name value code).outline = code.outline := by
  unfold plainAttribute
  split
  next text => rw [Template.outline_text, h text rfl]
  next => exact outline_boundAttribute name code

/-- So has one whose value goes through a helper. -/
theorem outline_mappedAttribute (helper : Helper) (name : String) {value : AttributeValue}
    {code : Code} (h : ∀ text, value = .literal text → code.outline = .empty) :
    (mappedAttribute helper name value code).value.outline = code.outline := by
  unfold mappedAttribute
  split
  · simp [callHelper]
  · exact outline_plainAttribute name h

/-- An attribute of an element has the outline of its value, whatever its kind. -/
theorem outline_attributeTemplate (name : String) {value : AttributeValue} {code : Code}
    (h : ∀ text, value = .literal text → code.outline = .empty) :
    (attributeTemplate name value code).value.outline = code.outline := by
  unfold attributeTemplate
  cases AttributeKind.of name with
  | ref => simp [callHelper]
  | style => exact outline_mappedAttribute _ _ h
  | classMap => exact outline_mappedAttribute _ _ h
  | event event => exact outline_boundAttribute _ code
  | property property => exact outline_boundAttribute _ code
  | boolean flag => exact outline_boundAttribute _ code
  | namespaced name => exact outline_boundAttribute _ code
  | plain name => exact outline_plainAttribute _ h

/-- An element has the outlines of its tag and its content, unless it can have no content. -/
theorem outline_elementTemplate (span : Span) (tag : TagName) (attributes : List Attribute)
    (inTag content : Emit (Template Code)) :
    (elementTemplate span tag attributes inTag content).value.outline =
      inTag.value.outline ++ if isVoidTag tag.text then .empty else content.value.outline := by
  rw [elementTemplate, value_bind, value_bind]
  split <;> simp

/-- A value that stands alone has the outline that it has in a list. -/
theorem Leaf.outline_alone (leaf : Leaf) : leaf.alone.outline = leaf.code.outline := by
  unfold Leaf.alone
  split <;> simp

/-- The outline of a list of values. -/
def Leaf.outlineOf (leaves : List Leaf) : Outline (Entry Code) :=
  .ofAll (fun leaf => leaf.code.outline) leaves

/-- A fragment has the outlines of its values. -/
theorem outline_fragmentValue (leaves : List Leaf) :
    (fragmentValue leaves).value.outline = Leaf.outlineOf leaves := by
  unfold fragmentValue Leaf.outlineOf
  split
  · exact outline_inTemplate .empty
  next leaf => simp [outline_inTemplate, Leaf.outline_alone]
  next => simp [Outline.ofAll_map]

/-- The content of a component is there if there are values, and has their outline. -/
theorem exists_childrenValue {leaves : List Leaf} (h : leaves ≠ []) :
    ∃ code, (childrenValue leaves).value = some code ∧ code.outline = Leaf.outlineOf leaves := by
  unfold childrenValue Leaf.outlineOf
  split
  -- no content was excluded; one leaf stands alone, several make an array
  · exact absurd rfl h
  next leaf =>
    split
    · exact ⟨_, rfl, by simp [outline_inTemplate]⟩
    · exact ⟨_, rfl, by simp [Leaf.outline_alone]⟩
  next => exact ⟨_, rfl, by simp [Outline.ofAll_map]⟩

/-- Where nothing is spread, entries have the outlines of the properties. -/
theorem PropItem.outline_entries {items : List PropItem}
    (h : ∀ item ∈ items, item.isSource = false) :
    Outline.ofAll Entry.outline (items.filterMap PropItem.entry?) =
      .ofAll PropItem.outline items := by
  induction items with
  | nil => rfl
  | cons item rest ih =>
    cases item with
    | entry e =>
      show e.outline ++ .ofAll Entry.outline (rest.filterMap PropItem.entry?) = _
      rw [ih fun i hi => h i (List.mem_cons_of_mem _ hi)]
      rfl
    | source code => cases h (.source code) (by simp)

/-- Joining items keeps their outlines, after those of the entries before them. -/
theorem PropItem.outline_arguments (items : List PropItem) (waiting : List (Entry Code)) :
    Outline.ofAll Code.outline (PropItem.arguments waiting items) =
      .ofAll Entry.outline waiting ++ .ofAll PropItem.outline items := by
  -- an object for the entries that wait has their outline, and there is none for no entries
  have hwaiting : Outline.ofAll Code.outline (if waiting.isEmpty then [] else [.object waiting]) =
      .ofAll Entry.outline waiting := by
    split
    next h => rw [List.isEmpty_iff.1 h]; rfl
    next => rw [Outline.ofAll_cons, Code.outline_object, Outline.ofAll_nil, Outline.append_empty]
  induction items generalizing waiting with
  | nil => rw [PropItem.arguments, hwaiting, Outline.ofAll_nil, Outline.append_empty]
  | cons item rest ih =>
    cases item with
    | entry e =>
      -- an entry moves from the items to those that wait
      rw [PropItem.arguments, ih]
      · simp [PropItem.outline, Outline.append_assoc]
      · simp
    | source code =>
      rw [PropItem.arguments, Outline.ofAll_append, Outline.ofAll_cons, hwaiting, ih [] rfl]
      rfl

/-- The argument of a component has the outlines of its properties. -/
theorem outline_propsValue (items : List PropItem) :
    (propsValue items).value.outline = .ofAll PropItem.outline items := by
  unfold propsValue
  split
  next code => exact (Outline.append_empty code.outline).symm
  next =>
    split
    · exact (Code.outline_call _ _).trans (PropItem.outline_arguments items [])
    -- without a spread the object has an entry for each property
    next hsource =>
      exact (Code.outline_object _).trans (PropItem.outline_entries (by simpa using hsource))

/-- A component names its tag, and gives what its attributes and its content are. -/
theorem outline_componentCall (span : Span) (tag : TagName) (attributes : List Attribute)
    (children : List Markup) (props : Emit (List PropItem)) (leaves : Emit (List Leaf)) :
    (componentCall span tag attributes children props leaves).value.outline =
      .word tag.usesFrame ++ (.ofAll PropItem.outline props.value ++
        .ofAll Entry.outline ((childrenValue leaves.value).value.toList.map fun code =>
          ⟨"children", code, childrenNeedGetter (Markup.flattenAll children)⟩)) := by
  simp [componentCall, callHelper, outline_propsValue, Outline.ofAll_map, PropItem.outline]

/-! ### Markup -/

/-- An element agrees with its tree if its tag and its content do. -/
theorem agree_elementTemplate (span : Span) (tag : TagName) (types : List Part)
    {attributes : List Attribute} {children : List Markup} {inTag content : Emit (Template Code)}
    (hattributes : Agree inTag.value.outline (Attribute.outlineOf attributes))
    (hchildren : Agree content.value.outline (Markup.outlineOf children)) :
    Agree (elementTemplate span tag attributes inTag content).value.outline
      (Markup.element span tag types attributes children).outline := by
  rw [outline_elementTemplate, Markup.outline]
  refine hattributes.append ?_
  split
  · exact .empty
  · exact hchildren

/-- **The call of a component agrees with its tree** if its properties and its content do, and there
    is content on both sides or on none. -/
theorem agree_componentCall (span : Span) (tag : TagName) (types : List Part)
    {attributes : List Attribute} {children : List Markup} {props : Emit (List PropItem)}
    {leaves : Emit (List Leaf)}
    (hprops : Agree (.ofAll PropItem.outline props.value)
      (Attribute.givenOf (Markup.flattenAll children).isEmpty attributes))
    (hleaves : Agree (Leaf.outlineOf leaves.value) (Markup.outlineOf children))
    (hnil : leaves.value = [] ↔ Markup.flattenAll children = []) :
    Agree (componentCall span tag attributes children props leaves).value.outline
      (Markup.component span tag types attributes children).outline := by
  rw [outline_componentCall, Markup.outline]
  refine (Agree.word tag.usesFrame).append (hprops.append ?_)
  by_cases hempty : Markup.flattenAll children = []
  · -- no content counts, so there is neither a value for it nor a property
    rw [hnil.2 hempty, hempty]
    exact .empty
  · obtain ⟨code, hvalue, hcode⟩ := exists_childrenValue (mt hnil.1 hempty)
    rw [← hcode] at hleaves
    rw [if_neg (by rwa [List.isEmpty_iff]), hvalue]
    show Agree (Entry.outline _ ++ .empty) _
    rw [Outline.append_empty]
    exact .entry (.content children) ⟨rfl, rfl, hleaves.usesFrame_eq⟩ hleaves

/-- Compiled trees use the frame and give properties as the trees do. Of the values for a list it is
    also said whether there are any, since a component without content is given none. -/
def Traversal.agrees : Traversal where
  patches e x :=
    List.Forall₂ Agree (x.value.map fun p => p.2.outline) (outlinesOf e.outermost)
  part part x :=
    List.Forall₂ Agree (x.value.map fun p => p.2.outline) (outlinesOf part.outermost)
  parts parts x :=
    List.Forall₂ Agree (x.value.map fun p => p.2.outline) (outlinesOf (Part.outermostOf parts))
  element span tag types attributes children x :=
    Agree x.value.outline (Markup.element span tag types attributes children).outline
  call span tag types attributes children x :=
    Agree x.value.outline (Markup.component span tag types attributes children).outline
  value node x := Agree x.value.outline node.outline
  template node x := Agree x.value.outline node.outline
  templates nodes x := Agree x.value.outline (Markup.outlineOf nodes)
  leaves node x :=
    Agree (Leaf.outlineOf x.value) node.outline ∧ (x.value = [] ↔ node.flatten = [])
  leavesOf nodes x :=
    Agree (Leaf.outlineOf x.value) (Markup.outlineOf nodes) ∧
      (x.value = [] ↔ Markup.flattenAll nodes = [])
  setting a x := Agree x.value.outline a.outline
  settings attributes x := Agree x.value.outline (Attribute.outlineOf attributes)
  props isEmpty a x := Agree (.ofAll PropItem.outline x.value) (a.given isEmpty)
  propsOf isEmpty attributes x :=
    Agree (.ofAll PropItem.outline x.value) (Attribute.givenOf isEmpty attributes)
  code value x := Agree x.value.outline value.outline

/-- The code and the markup agree after each step. -/
theorem Traversal.closed_agrees (options : Options) : agrees.Closed options where
  name _ _ := .nil
  paren hx := hx
  markup hx := .cons hx .nil
  compound hx := hx
  partName _ _ := .nil
  partExpr hx := hx
  partSpread hx := hx
  partFunction hx := hx
  partsNil := .nil
  partsCons {part rest x y} hx hy := by
    show List.Forall₂ Agree ((x.value ++ y.value).map _) (outlinesOf (part.outermost ++ _))
    rw [List.map_append, outlinesOf, List.map_append]
    exact List.rel_append hx hy
  element hinTag hcontent := agree_elementTemplate _ _ _ hinTag hcontent
  call hprops hleaves := agree_componentCall _ _ _ hprops hleaves.1 hleaves.2
  valueElement hx := by
    show Agree (inTemplate _).value.outline _
    rwa [outline_inTemplate]
  valueComponent hx := by
    show Agree (inTemplate _).value.outline _
    rwa [outline_inTemplate, Template.outline_hole]
  valueFragment hx := by
    show Agree (fragmentValue _).value.outline _
    rw [outline_fragmentValue]
    exact hx.1
  valueText _ := .empty
  valueHole hx := .copy hx
  templateStatic hstatic := by
    -- static markup becomes text, and there is no expression in it
    dsimp only [agrees]
    rw [Markup.outline_of_isStatic _ hstatic]
    exact .empty
  templateElement _ hx := hx
  templateComponent {span tag types attributes children x} hx := by
    show Agree (Template.hole x.value).outline _
    rwa [Template.outline_hole]
  templateFragment hx := hx
  templateText raw := by
    dsimp only [agrees]
    rw [value_pure]
    split <;> exact .empty
  templateHole {isSpread value} hx := by
    show Agree (Template.hole (.copy value (value.patches options).value)).outline _
    rw [Template.outline_hole]
    exact .copy hx
  templatesNil := .empty
  templatesCons {node rest x y} hx hy := by
    show Agree (x.value ++ y.value).outline _
    rw [Template.outline_append]
    exact hx.append hy
  leavesElement {span tag types attributes children x} hx := by
    refine ⟨?_, by simp [Markup.flatten]⟩
    show Agree (Code.outline _ ++ .empty) _
    rwa [Outline.append_empty, Leaf.plain, value_bind, outline_inTemplate]
  leavesComponent {span tag types attributes children x} hx := by
    refine ⟨?_, by simp [Markup.flatten]⟩
    show Agree (Code.outline _ ++ .empty) _
    rwa [Outline.append_empty]
  leavesFragment hx := hx
  leavesText raw := by
    dsimp only [agrees]
    rw [value_pure, Markup.flatten]
    split
    · exact ⟨.empty, by simp⟩
    · exact ⟨.empty, by simp⟩
  leavesHole {isSpread value} hx := by
    refine ⟨?_, by simp [Markup.flatten]⟩
    have hcopy := Agree.copy hx
    rw [← outline_operand value] at hcopy
    show Agree (Code.outline _ ++ .empty) _
    rw [Outline.append_empty]
    cases isSpread with
    | true => exact hcopy
    | false => exact hcopy
  leavesNil := ⟨.empty, by simp [Markup.flattenAll]⟩
  leavesCons {node rest x y} hx hy := by
    refine ⟨?_, ?_⟩
    · show Agree (Leaf.outlineOf (x.value ++ y.value)) _
      rw [Leaf.outlineOf, Outline.ofAll_append]
      exact hx.1.append hy.1
    · show x.value ++ y.value = [] ↔ node.flatten ++ Markup.flattenAll rest = []
      rw [List.append_eq_nil_iff, List.append_eq_nil_iff, hx.2, hy.2]
  settingNamed {name value x} hx := by
    show Agree (attributeTemplate name value x.value).value.outline _
    rw [outline_attributeTemplate]
    · exact hx
    · rintro text rfl
      exact hx.eq_empty
  settingSpread {value} hx := by
    dsimp only [agrees]
    rw [value_map_apply, outline_directive]
    show Agree (Code.outline _ ++ .empty) _
    rw [Outline.append_empty]
    exact .copy hx
  settingsNil := .empty
  settingsCons {a rest x y} hx hy := by
    show Agree (x.value ++ y.value).outline _
    rw [Template.outline_append]
    exact hx.append hy
  propsOverridden _ := .empty
  propsNamed {isEmpty name value x} hname hx := by
    dsimp only [agrees]
    rw [Attribute.given, if_neg (Bool.eq_false_iff.1 hname), value_map_apply, Outline.ofAll_cons,
      Outline.ofAll_nil, Outline.append_empty]
    exact .entry (.named name value) ⟨rfl, rfl, hx.usesFrame_eq⟩ hx
  propsSpread {isEmpty value} hx := by
    dsimp only [agrees]
    rw [value_map_apply, Outline.ofAll_cons, Outline.ofAll_nil, Outline.append_empty]
    exact .copy hx
  propsNil _ := .empty
  propsCons {isEmpty a rest x y} hx hy := by
    show Agree (.ofAll PropItem.outline (x.value ++ y.value)) _
    rw [Outline.ofAll_append]
    exact hx.append hy
  codeLiteral _ := .empty
  codeBare := .empty
  codeExpr {value} hx := by
    dsimp only [agrees]
    rw [value_map_apply, outline_operand]
    exact .copy hx
  codeMarkup hx := hx

/-- **Compiled markup uses the frame and gives properties as the markup does.** -/
theorem Markup.agree_value (node : Markup) (options : Options) :
    Agree (node.value options).value.outline node.outline :=
  (Traversal.closed_agrees options).holds_value node

/-- Markup gives no value to a list if and only if none of it counts. -/
theorem Markup.leavesOf_eq_nil_iff (options : Options) (nodes : List Markup) :
    (Markup.leavesOf options nodes).value = [] ↔ Markup.flattenAll nodes = [] :=
  ((Traversal.closed_agrees options).holds_leavesOf nodes).2

/-! ### Modules -/

/-- The properties in the code for a module are those that its components are given, in order. -/
theorem Program.forall₂_properties (program : Program) (options : Options) :
    List.Forall₂ (fun e handed => Handed.IsGivenBy handed e) (program.properties options)
      program.handed := by
  rw [Program.properties, program.patches_eq options, value_mapM, List.flatMap_map, Program.handed]
  have hsame : List.Forall₂ Eq program.outermost program.outermost := List.forall₂_refl _
  refine List.rel_flatMap hsame ?_
  rintro piece _ rfl
  exact (piece.2.agree_value options).given

/-- A getter that uses the frame is a property that has to be read again and uses it. -/
theorem exists_getter_iff {es : List (Entry Code)} {all : List Handed}
    (h : List.Forall₂ (fun e handed => Handed.IsGivenBy handed e) es all) :
    (∃ e ∈ es, e.isGetter = true ∧ e.value.usesFrame = true) ↔
      ∃ handed ∈ all, handed.needsGetter = true ∧ handed.usesFrame = true := by
  induction h with
  | nil => simp
  | cons hgiven _ ih =>
    rw [List.exists_mem_cons_iff, List.exists_mem_cons_iff, ih, hgiven.isGetter_eq,
      hgiven.usesFrame_eq]

/-- **When a getter uses the frame of the function around it.** The object literals in the code for
    a module have one property for each attribute that counts and for the content of each component,
    in the order of the text: under its name, as a getter if and only if it has to be read again,
    and with a value that uses the frame around it if and only if it is written so. So some getter
    uses a frame that is not its own if and only if, for some component, something that has to be
    read again uses `this` or `arguments` outside of functions that have their own. -/
theorem Program.accessor_uses_frame_iff (program : Program) (options : Options) :
    List.Forall₂ (fun e handed => Handed.IsGivenBy handed e) (program.properties options)
      program.handed ∧
    ((∃ e ∈ program.properties options, e.isGetter = true ∧ e.value.usesFrame = true) ↔
      ∃ handed ∈ program.handed, handed.needsGetter = true ∧ handed.usesFrame = true) :=
  ⟨program.forall₂_properties options, exists_getter_iff (program.forall₂_properties options)⟩

/-- Reading a property of `this` is put in a getter, where `this` is another one. -/
theorem transform_getter_of_this :
    ∃ (source : String) (program : Program) (out : Compiled),
      source = "function f() " ++ braced (" return <A b=" ++ braced "this.c" ++ " />; ") ∧
      Program.parse? (Grammar.Dialect.ofPath "a.jsx") source.toList = some program ∧
      transform source "a.jsx" {} = .ok out ∧
      out.code = "import " ++ braced " html, component " ++ " from \"kaori.js\";\nfunction f() " ++
          braced (" return html`$" ++ braced ("component(A, " ++ braced (" get b() " ++
          braced " return this.c; " ++ " ") ++ ")") ++ "`; ") ∧
      ∃ e ∈ program.properties {}, e.key = "b" ∧ e.isGetter = true ∧ e.value.usesFrame = true := by
  obtain ⟨source, hsource⟩ : ∃ s,
      s = "function f() " ++ braced (" return <A b=" ++ braced "this.c" ++ " />; ") := ⟨_, rfl⟩
  have hread : (Program.parse? (Grammar.Dialect.ofPath "a.jsx") source.toList).any (fun program =>
      (program.properties {}).any fun e =>
        e.key == "b" && e.isGetter && e.value.usesFrame) = true := by
    rw [hsource]
    decide +kernel
  have hcode : (transform source "a.jsx" {}).toOption.map Compiled.code =
      some ("import " ++ braced " html, component " ++ " from \"kaori.js\";\nfunction f() " ++
          braced (" return html`$" ++ braced ("component(A, " ++ braced (" get b() " ++
          braced " return this.c; " ++ " ") ++ ")") ++ "`; ")) := by
    rw [hsource]
    decide +kernel
  obtain ⟨program, hparse, hproperties⟩ := (Option.any_eq_true _ _).1 hread
  obtain ⟨e, he, hchecks⟩ := List.any_eq_true.1 hproperties
  simp only [Bool.and_eq_true, beq_iff_eq, and_assoc] at hchecks
  cases hout : transform source "a.jsx" {} with
  | error problem =>
    rw [hout] at hcode
    cases hcode
  | ok out =>
    rw [hout] at hcode
    exact ⟨source, program, out, hsource, hparse, hout, Option.some.inj hcode, e, he, hchecks⟩

end JsxTemplate
