import JsxTemplate.Proofs.Inlining
import JsxTemplate.Proofs.Sites
import JsxTemplate.Proofs.Traversal
import Mathlib.Data.List.Perm.Basic

namespace JsxTemplate

/-!
# The helpers that code refers to

Compiling notes in a log which helpers it needs, and the code that it gives calls helpers by their
names. The two agree: each note belongs to one call and each call to one note.

* `Code.references` — the helpers that code calls, one for each call.
* `Code.render_congr` — only their names matter for the text of the code.
* `Emit.Uses before refs x` — the helpers of the value of `x` are those of `before` and those that
  `x` notes. There is one rule for each operation, and `Uses.frame` leaves room for other code.
* `Traversal.uses`, `Markup.uses_value` — this for markup. There is one lemma for each step of
  `Compile/Placement`.
-/

/-! ### References of code -/

namespace Code

mutual

/-- The helpers that code calls, one for each call, from left to right. -/
def references : Code → List Helper
  | string _ => []
  | flag => []
  | name _ => []
  | copy _ patches => referencesOfPatches patches
  | paren inner => inner.references
  | spread inner => inner.references
  | array items => referencesOf items
  | object entries => referencesOfEntries entries
  | call h arguments => h :: referencesOf arguments
  | template ⟨holes, _⟩ => .html :: referencesOfHoles holes

/-- Those of several pieces of code. -/
def referencesOf : List Code → List Helper
  | [] => []
  | code :: rest => code.references ++ referencesOf rest

/-- Those of the code in place of markup. -/
def referencesOfPatches : List (Span × Code) → List Helper
  | [] => []
  | (_, code) :: rest => code.references ++ referencesOfPatches rest

/-- Those of the values of properties. -/
def referencesOfEntries : List (Entry Code) → List Helper
  | [] => []
  | ⟨_, value, _⟩ :: rest => value.references ++ referencesOfEntries rest

/-- Those of the holes of a template. -/
def referencesOfHoles : List (List Char × Code) → List Helper
  | [] => []
  | (_, code) :: rest => code.references ++ referencesOfHoles rest

end

end Code

/-- The helpers that the holes of a template call. -/
def Template.references (t : Template Code) : List Helper := t.values.flatMap Code.references

@[simp] theorem Template.references_empty : (empty : Template Code).references = [] := rfl

@[simp] theorem Template.references_text (cs : List Char) :
    (text cs : Template Code).references = [] := rfl

/-- A hole calls what its code calls. -/
@[simp] theorem Template.references_hole (code : Code) :
    (hole code).references = code.references := by
  simp [Template.references]

/-- Two templates in a row call what both call. -/
@[simp] theorem Template.references_append (t u : Template Code) :
    (t ++ u).references = t.references ++ u.references := by
  simp [Template.references]

namespace Code

/-- The helpers of several pieces of code, piece by piece. -/
theorem referencesOf_eq (codes : List Code) : referencesOf codes = codes.flatMap references := by
  induction codes with
  | nil => rfl
  | cons code rest ih => rw [referencesOf, ih, List.flatMap_cons]

@[simp] theorem referencesOfPatches_eq (patches : List (Span × Code)) :
    referencesOfPatches patches = patches.flatMap fun p => p.2.references := by
  induction patches with
  | nil => rfl
  | cons patch rest ih => rw [referencesOfPatches, ih, List.flatMap_cons]

@[simp] theorem references_string (text : List Char) : (string text).references = [] := rfl

@[simp] theorem references_flag : flag.references = [] := rfl

@[simp] theorem references_name (tag : TagName) : (name tag).references = [] := rfl

/-- A copied expression calls what the code in place of its markup calls. -/
@[simp] theorem references_copy (e : Expr) (patches : List (Span × Code)) :
    (copy e patches).references = patches.flatMap fun p => p.2.references :=
  referencesOfPatches_eq patches

@[simp] theorem references_paren (inner : Code) : (paren inner).references = inner.references := rfl

@[simp] theorem references_spread (inner : Code) : (spread inner).references = inner.references :=
  rfl

/-- An array calls what its items call. -/
@[simp] theorem references_array (items : List Code) :
    (array items).references = items.flatMap references :=
  referencesOf_eq items

/-- An object calls what its values call. -/
@[simp] theorem references_object (entries : List (Entry Code)) :
    (object entries).references = entries.flatMap fun e => e.value.references := by
  rw [references]
  induction entries with
  | nil => rfl
  | cons e rest ih => rw [referencesOfEntries, ih, List.flatMap_cons]

/-- A call calls its helper, and what its arguments call. -/
@[simp] theorem references_call (helper : Helper) (arguments : List Code) :
    (call helper arguments).references = helper :: arguments.flatMap references := by
  rw [references, referencesOf_eq]

/-- A template calls the tag of templates, and what its holes call. -/
@[simp] theorem references_template (t : Template Code) :
    (template t).references = .html :: t.references := by
  obtain ⟨holes, tail⟩ := t
  rw [references]
  congr 1
  induction holes with
  | nil => rfl
  | cons hole rest ih =>
    rw [referencesOfHoles, ih]
    rfl

/-! ### Names that do not matter -/

section

variable {bindings other : Bindings} (source : List Char)

mutual

/-- **The text of code depends on the names of the helpers that it calls**, and on no other name. -/
theorem render_congr : (code : Code) →
    (∀ h ∈ code.references, bindings.nameOf h = other.nameOf h) →
    code.render bindings source = code.render other source
  | string _, _ => rfl
  | flag, _ => rfl
  | name _, _ => rfl
  | copy e patches, h => by
    rw [references_copy] at h
    rw [render, render, renderPatches_congr patches h]
  | paren inner, h => by
    rw [render, render, render_congr inner h]
  | spread inner, h => by
    rw [render, render, render_congr inner h]
  | array items, h => by
    rw [references_array] at h
    rw [render, render, renderAll_congr items h]
  | object entries, h => by
    rw [references_object] at h
    rw [render, render, renderEntries_congr entries h]
  -- a call names its helper, and a template the one for templates; nothing else names any
  | call helper arguments, h => by
    rw [references_call, List.forall_mem_cons] at h
    rw [render, render, renderAll_congr arguments h.2, h.1]
  | template ⟨holes, tail⟩, h => by
    rw [references_template, Template.references, Template.values, List.flatMap_map,
      List.forall_mem_cons] at h
    rw [render, render, renderHoles_congr holes h.2, h.1]

theorem renderAll_congr : (codes : List Code) →
    (∀ h ∈ codes.flatMap references, bindings.nameOf h = other.nameOf h) →
    renderAll bindings source codes = renderAll other source codes
  | [], _ => rfl
  | code :: rest, h => by
    rw [List.flatMap_cons, List.forall_mem_append] at h
    rw [renderAll, renderAll, render_congr code h.1, renderAll_congr rest h.2]

theorem renderPatches_congr : (patches : List (Span × Code)) →
    (∀ h ∈ patches.flatMap (fun p => p.2.references), bindings.nameOf h = other.nameOf h) →
    renderPatches bindings source patches = renderPatches other source patches
  | [], _ => rfl
  | (_, code) :: rest, h => by
    rw [List.flatMap_cons, List.forall_mem_append] at h
    rw [renderPatches, renderPatches, render_congr code h.1, renderPatches_congr rest h.2]

theorem renderEntries_congr : (entries : List (Entry Code)) →
    (∀ h ∈ entries.flatMap (fun e => e.value.references), bindings.nameOf h = other.nameOf h) →
    renderEntries bindings source entries = renderEntries other source entries
  | [], _ => rfl
  | ⟨_, value, _⟩ :: rest, h => by
    rw [List.flatMap_cons, List.forall_mem_append] at h
    rw [renderEntries, renderEntries, render_congr value h.1, renderEntries_congr rest h.2]

theorem renderHoles_congr : (holes : List (List Char × Code)) →
    (∀ h ∈ holes.flatMap (fun hole => hole.2.references), bindings.nameOf h = other.nameOf h) →
    renderHoles bindings source holes = renderHoles other source holes
  | [], _ => rfl
  | (_, code) :: rest, h => by
    rw [List.flatMap_cons, List.forall_mem_append] at h
    rw [renderHoles, renderHoles, render_congr code h.1, renderHoles_congr rest h.2]

end

end

end Code

/-! ### What a computation uses -/

namespace Emit

variable {α β : Type}

/-- The helpers that the value refers to are those of `before` and those that are noted on the way
    to it. -/
def Uses (before : List Helper) (refs : α → List Helper) (x : Emit α) : Prop :=
  (before ++ x.needs).Perm (refs x.value)

namespace Uses

variable {before : List Helper} {refs : α → List Helper} {others : β → List Helper}

/-- A value that refers to what was there before, with nothing noted. -/
theorem pure {a : α} (h : before.Perm (refs a)) : Uses before refs (Pure.pure a : Emit α) := by
  rw [Uses, needs_pure, List.append_nil]
  exact h

/-- What the value of the first step refers to is there before the second. -/
theorem bind_value {x : Emit α} {f : α → Emit β} (hx : Uses before refs x)
    (hf : Uses (refs x.value) others (f x.value)) : Uses before others (x >>= f) := by
  rw [Uses, needs_bind, ← List.append_assoc]
  exact (hx.append_right _).trans hf

/-- The rule for two steps where the second one is known for all values. -/
theorem bind {x : Emit α} {f : α → Emit β} (hx : Uses before refs x)
    (hf : ∀ a, Uses (refs a) others (f a)) : Uses before others (x >>= f) :=
  hx.bind_value (hf x.value)

/-- A helper that is noted is there from then on. -/
theorem need (helper : Helper) : Uses before (fun _ => helper :: before) (Emit.need helper) :=
  List.perm_append_singleton helper before

/-- A step that notes no helper and gives no code changes nothing. -/
theorem quiet {x : Emit Unit} (h : x.needs = []) : Uses before (fun _ => before) x := by
  rw [Uses, h, List.append_nil]

/-- Other code stays as it is. -/
theorem frame {x : Emit α} (others : List Helper) (h : Uses before refs x) :
    Uses (others ++ before) (fun a => others ++ refs a) x := by
  rw [Uses, List.append_assoc]
  exact h.append_left others

/-- The same for a step before which there is no code. -/
theorem frame_nil {x : Emit α} (others : List Helper) (h : Uses [] refs x) :
    Uses others (fun a => others ++ refs a) x := by
  have hframe := h.frame others
  rwa [List.append_nil] at hframe

/-- The value put into something that refers to the same helpers. -/
theorem map {x : Emit α} {f : α → β} (hx : Uses before refs x) (hf : ∀ a, others (f a) = refs a) :
    Uses before others (x.map f) := by
  rw [Uses, needs_map, value_map_apply, hf]
  exact hx

/-- Two steps one after the other, whose values are put together. -/
theorem both {γ : Type} {x : Emit α} {y : Emit β} {f : α → β → γ} {total : γ → List Helper}
    (hx : Uses [] refs x) (hy : Uses [] others y)
    (htotal : ∀ a b, total (f a b) = refs a ++ others b) :
    Uses [] total (Emit.both f x y) := by
  rw [Uses, needs_both, value_both, htotal]
  exact hx.append hy

end Uses

end Emit

open Emit

/-! ### Templates -/

/-- A template notes the tag of templates. -/
theorem uses_inTemplate (content : Template Code) :
    Uses content.references Code.references (inTemplate content) :=
  (Uses.need .html).bind fun _ => .pure (by simp)

/-- A call notes its helper. -/
theorem uses_callHelper (helper : Helper) (arguments : List Code) :
    Uses (arguments.flatMap Code.references) Code.references (callHelper helper arguments) :=
  (Uses.need helper).bind fun _ => .pure (by simp)

/-- Parentheses around an operand call nothing. -/
@[simp] theorem references_operand (e : Expr) (code : Code) :
    (operand e code).references = code.references := by
  unfold operand
  split <;> simp

/-- An attribute calls what its value calls. -/
@[simp] theorem references_boundAttribute (name : String) (code : Code) :
    (boundAttribute name code).references = code.references := by
  simp [boundAttribute]

/-- So does a hole in a tag. -/
@[simp] theorem references_directive (code : Code) :
    (directive code).references = code.references := by
  simp [directive]

/-- So does an attribute that is written as text if its value is a literal, as literals call
    nothing. -/
theorem references_plainAttribute (name : String) {value : AttributeValue} {code : Code}
    (h : ∀ text, value = .literal text → code.references = []) :
    (plainAttribute name value code).references = code.references := by
  unfold plainAttribute
  split
  next text => rw [Template.references_text, h text rfl]
  next => exact references_boundAttribute name code

/-- An attribute around the call of a helper refers to the helper and to what its value refers
    to. -/
theorem uses_call_bind (helper : Helper) (code : Code) {wrap : Code → Template Code}
    (hwrap : ∀ call, (wrap call).references = call.references) :
    Uses code.references Template.references
      (callHelper helper [code] >>= fun call => pure (wrap call)) := by
  have hcall := uses_callHelper helper [code]
  rw [List.flatMap_singleton] at hcall
  exact hcall.bind fun call => .pure (by rw [hwrap])

/-- An attribute whose value goes through a helper notes that helper unless the value is a literal.
    -/
theorem uses_mappedAttribute (helper : Helper) (name : String) {value : AttributeValue}
    {code : Code} (h : ∀ text, value = .literal text → code.references = []) :
    Uses code.references Template.references (mappedAttribute helper name value code) := by
  unfold mappedAttribute
  split
  · exact uses_call_bind helper code (references_boundAttribute name)
  · exact .pure (by rw [references_plainAttribute name h])

/-- An attribute refers to what its value refers to, and to the helper that it goes through. -/
theorem uses_attributeTemplate (name : String) {value : AttributeValue} {code : Code}
    (h : ∀ text, value = .literal text → code.references = []) :
    Uses code.references Template.references (attributeTemplate name value code) := by
  unfold attributeTemplate
  split
  · exact uses_call_bind .ref code references_directive
  · exact uses_mappedAttribute _ _ h
  · exact uses_mappedAttribute _ _ h
  · exact .pure (by simp)
  · exact .pure (by simp)
  · exact .pure (by simp)
  · exact .pure (by simp)
  · exact .pure (by rw [references_plainAttribute _ h])

/-- An element notes what its tag and its content note. If it can have no content, that is not even
    compiled. -/
theorem uses_elementTemplate (span : Span) (tag : TagName) (attributes : List Attribute)
    {inTag content : Emit (Template Code)} (hinTag : Uses [] Template.references inTag)
    (hcontent : Uses [] Template.references content) :
    Uses [] Template.references (elementTemplate span tag attributes inTag content) := by
  unfold elementTemplate
  refine (Uses.quiet (needs_reportClasses span tag attributes)).bind fun _ => ?_
  refine hinTag.bind fun t => ?_
  dsimp only
  -- a void element stops before the content, whose needs are then not asked for
  split
  · exact .pure (by simp)
  · exact (hcontent.frame_nil t.references).bind fun u => .pure (by simp)

/-! ### Lists of values -/

/-- The helpers that the values of a list call. -/
def Leaf.referencesOf (leaves : List Leaf) : List Helper :=
  leaves.flatMap fun leaf => leaf.code.references

/-- A value that stands alone calls what it calls in a list. -/
@[simp] theorem Leaf.references_alone (leaf : Leaf) :
    leaf.alone.references = leaf.code.references := by
  unfold Leaf.alone
  split <;> simp

/-- A fragment is a template, which is noted, or an array. -/
theorem uses_fragmentValue (leaves : List Leaf) :
    Uses (Leaf.referencesOf leaves) Code.references (fragmentValue leaves) := by
  unfold fragmentValue
  split
  · exact uses_inTemplate .empty
  next leaf =>
    have htemplate := uses_inTemplate (.hole leaf.alone)
    rw [Template.references_hole, Leaf.references_alone] at htemplate
    rwa [Leaf.referencesOf, List.flatMap_singleton]
  next => exact .pure (by simp [Leaf.referencesOf, List.flatMap_map])

/-- So is the content of a component. -/
theorem uses_childrenValue (leaves : List Leaf) :
    Uses (Leaf.referencesOf leaves) (fun value => value.toList.flatMap Code.references)
      (childrenValue leaves) := by
  unfold childrenValue
  split
  · exact .pure .nil
  next leaf =>
    rw [Leaf.referencesOf, List.flatMap_singleton]
    split
    · have htemplate := uses_inTemplate (.hole leaf.code)
      rw [Template.references_hole] at htemplate
      exact htemplate.bind fun code => .pure (by simp)
    · exact .pure (by simp)
  next => exact .pure (by simp [Leaf.referencesOf, List.flatMap_map])

/-! ### Components -/

/-- The helpers that properties call. -/
def PropItem.referencesOf (items : List PropItem) : List Helper :=
  items.flatMap fun item => item.code.references

/-- Joining items keeps what they refer to, after what the entries before them refer to. -/
theorem PropItem.references_arguments (items : List PropItem) (waiting : List (Entry Code)) :
    (PropItem.arguments waiting items).flatMap Code.references =
      waiting.flatMap (fun e => e.value.references) ++ PropItem.referencesOf items := by
  induction items generalizing waiting with
  | nil =>
    rw [PropItem.arguments]
    split
    next h => simp [List.isEmpty_iff.1 h, PropItem.referencesOf]
    next => simp [PropItem.referencesOf]
  | cons item rest ih =>
    cases item with
    | entry e =>
      -- an entry moves from the items to those that wait
      rw [PropItem.arguments, ih]
      simp [PropItem.referencesOf, PropItem.code]
    | source code =>
      rw [PropItem.arguments, List.flatMap_append, List.flatMap_cons, ih]
      split
      next h => simp [List.isEmpty_iff.1 h, PropItem.referencesOf, PropItem.code]
      next => simp [PropItem.referencesOf, PropItem.code]

/-- The argument of a component notes the helper that joins properties if it has to. -/
theorem uses_propsValue (items : List PropItem) :
    Uses (PropItem.referencesOf items) Code.references (propsValue items) := by
  unfold propsValue
  split
  next code => exact .pure (by simp [PropItem.referencesOf, PropItem.code])
  next =>
    split
    · have hcall := uses_callHelper .mergeProps (PropItem.arguments [] items)
      rwa [PropItem.references_arguments, List.flatMap_nil, List.nil_append] at hcall
    next hsource =>
      -- all properties are entries here, so the object refers to what they refer to
      have hentries : ∀ item ∈ items, item.isSource = false := by simpa using hsource
      have hrefs : (Code.object (items.filterMap PropItem.entry?)).references =
          PropItem.referencesOf items := by
        calc (Code.object (items.filterMap PropItem.entry?)).references
            = ((items.filterMap PropItem.entry?).map Entry.value).flatMap Code.references := by
              rw [Code.references_object, List.flatMap_map]
          _ = PropItem.referencesOf items := by
              rw [PropItem.map_value_entries hentries, List.flatMap_map]
              rfl
      exact .pure (by rw [hrefs])

/-- Reporting notes no helper. -/
theorem needs_reportChildren (span : Span) (tag : TagName) (attributes : List Attribute)
    (hasContent : Bool) : (reportChildren span tag attributes hasContent).needs = [] := by
  unfold reportChildren
  split <;> rfl

/-- A component refers to what its properties and its content refer to, and to the helpers that join
    them and call it. -/
theorem uses_componentCall (span : Span) (tag : TagName) (attributes : List Attribute)
    (children : List Markup) {props : Emit (List PropItem)} {leaves : Emit (List Leaf)}
    (hprops : Uses [] PropItem.referencesOf props) (hleaves : Uses [] Leaf.referencesOf leaves) :
    Uses [] Code.references (componentCall span tag attributes children props leaves) := by
  unfold componentCall
  refine (Uses.quiet (needs_reportClasses span tag attributes)).bind fun _ => ?_
  refine (Uses.quiet (needs_reportChildren span tag attributes _)).bind fun _ => ?_
  refine hprops.bind fun items => ?_
  refine (hleaves.frame_nil (PropItem.referencesOf items)).bind fun leaves => ?_
  refine ((uses_childrenValue leaves).frame (PropItem.referencesOf items)).bind fun value => ?_
  -- the content is one more property, after all attributes
  have hlast : ∀ isGetter, PropItem.referencesOf items ++ value.toList.flatMap Code.references =
      PropItem.referencesOf (items ++ value.toList.map fun code =>
        .entry ⟨"children", code, isGetter⟩) := by
    intro isGetter
    simp [PropItem.referencesOf, PropItem.code, List.flatMap_map]
  rw [hlast (childrenNeedGetter (Markup.flattenAll children))]
  refine (uses_propsValue _).bind fun argument => ?_
  have hcall := uses_callHelper .component [.name tag, argument]
  rwa [List.flatMap_cons, List.flatMap_singleton, Code.references_name, List.nil_append] at hcall

/-! ### Markup -/

section

variable (options : Options)

/-- The helpers that a result refers to are those that it notes. -/
def Traversal.uses : Traversal where
  patches _ := Uses [] Code.referencesOfPatches
  part _ := Uses [] Code.referencesOfPatches
  parts _ := Uses [] Code.referencesOfPatches
  element _ _ _ _ _ := Uses [] Template.references
  call _ _ _ _ _ := Uses [] Code.references
  value _ := Uses [] Code.references
  template _ := Uses [] Template.references
  templates _ := Uses [] Template.references
  leaves _ := Uses [] Leaf.referencesOf
  leavesOf _ := Uses [] Leaf.referencesOf
  setting _ := Uses [] Template.references
  settings _ := Uses [] Template.references
  props _ _ := Uses [] PropItem.referencesOf
  propsOf _ _ := Uses [] PropItem.referencesOf
  -- a literal is not looked at where it is written as text
  code value x := Uses [] Code.references x ∧
    ∀ text, value = .literal text → x.value.references = []

/-- Each step notes the helpers that it calls. -/
theorem Traversal.closed_uses : uses.Closed options where
  name _ _ := .pure .nil
  paren hx := hx
  markup hx := Uses.map hx (by simp)
  compound hx := hx
  partName _ _ := .pure .nil
  partExpr hx := hx
  partSpread hx := hx
  partFunction hx := hx
  partsNil := .pure .nil
  partsCons hx hy := Uses.both hx hy (by simp)
  element hinTag hcontent := uses_elementTemplate _ _ _ hinTag hcontent
  call hprops hleaves := uses_componentCall _ _ _ _ hprops hleaves
  valueElement hx := Uses.bind hx uses_inTemplate
  valueComponent hx := Uses.bind hx fun call => by
    have htemplate := uses_inTemplate (.hole call)
    rwa [Template.references_hole] at htemplate
  valueFragment hx := Uses.bind hx uses_fragmentValue
  valueText _ := .pure .nil
  valueHole hx := Uses.map hx (by simp)
  -- a static element is text alone, so it neither refers to a helper nor asks for one
  templateStatic {span tag types attributes children} _ := by
    show ([] ++ (Markup.staticText options _).needs).Perm _
    rw [Markup.needs_staticText]
    exact .nil
  templateElement _ hx := hx
  templateComponent hx := Uses.map hx (by simp)
  templateFragment hx := hx
  templateText raw := by
    refine Uses.pure ?_
    split <;> exact .nil
  templateHole hx := Uses.map hx (by simp)
  templatesNil := .pure .nil
  templatesCons hx hy := Uses.both hx hy Template.references_append
  leavesElement hx :=
    Uses.map (Uses.bind hx uses_inTemplate) (by simp [Leaf.referencesOf, Leaf.plain])
  leavesComponent hx := Uses.map hx (by simp [Leaf.referencesOf])
  leavesFragment hx := hx
  leavesText raw := by
    refine Uses.pure ?_
    split <;> exact .nil
  leavesHole {isSpread value} hx := by
    refine Uses.map hx fun patches => ?_
    cases isSpread <;> simp [Leaf.referencesOf, Leaf.plain]
  leavesNil := .pure .nil
  leavesCons hx hy := Uses.both hx hy fun _ _ => List.flatMap_append
  settingNamed hx := Uses.bind_value hx.1 (uses_attributeTemplate _ hx.2)
  settingSpread {value} hx := by
    -- the helper for spreads is called with the copied expression, inside the open tag
    have hcall : Uses [] Code.references (value.patches options >>= fun patches =>
        callHelper .spread [.copy value patches]) := by
      refine Uses.bind hx fun patches => ?_
      have hcall := uses_callHelper .spread [.copy value patches]
      rwa [List.flatMap_singleton, Code.references_copy, ← Code.referencesOfPatches_eq] at hcall
    exact hcall.map references_directive
  settingsNil := .pure .nil
  settingsCons hx hy := Uses.both hx hy Template.references_append
  propsOverridden _ := .pure .nil
  propsNamed _ hx := Uses.map hx.1 (by simp [PropItem.referencesOf, PropItem.code])
  propsSpread hx := Uses.map hx (by simp [PropItem.referencesOf, PropItem.code])
  propsNil _ := .pure .nil
  propsCons hx hy := Uses.both hx hy fun _ _ => List.flatMap_append
  codeLiteral _ := ⟨.pure .nil, fun _ _ => rfl⟩
  codeBare := ⟨.pure .nil, fun _ h => by cases h⟩
  codeExpr hx := ⟨Uses.map hx (by simp), fun _ h => by cases h⟩
  codeMarkup hx := ⟨hx, fun _ h => by cases h⟩

/-- **Compiled markup refers to the helpers that it notes**, each as often as it notes it. -/
theorem Markup.uses_value (node : Markup) : Uses [] Code.references (node.value options) :=
  (Traversal.closed_uses options).holds_value node

/-- The markup of a module refers to the helpers that it notes. -/
theorem Program.uses_patches (program : Program) :
    Uses [] Code.referencesOfPatches (program.patches options) := by
  rw [Uses, List.nil_append, Program.patches_eq, needs_mapM, value_mapM,
    Code.referencesOfPatches_eq, List.flatMap_map]
  refine List.Perm.flatMap_left _ fun piece _ => ?_
  rw [Markup.patch, needs_bind, needs_pure, List.append_nil]
  exact piece.2.uses_value options

end

end JsxTemplate
