import JsxTemplate.Proofs.CodeSigns
import JsxTemplate.Proofs.Parsed
import JsxTemplate.Proofs.Traversal

namespace JsxTemplate

/-!
# What is reported about markup

Markup is compiled along several ways: inside an open template, written out as text, as one value of
a list, as a property, or in the middle of an expression that is copied. On each of them a tag is
looked at once, and before everything inside of it.

* `Opening` — an opening tag with what may be in conflict on it.
* `Markup.openings` — the opening tags of markup that is kept, in the order of the text.
* `Traversal.reports`, `Markup.notices_value` — compiling reports the conflicts of these tags and
  nothing else. There is one lemma for each step of `Compile/Placement`.
* `Notice.IsReportedAs` — what a warning says, and where.
* `warnings_exact` — the warnings of markup and of a module.
-/

open Text Emit

/-! ### Opening tags -/

/-- An opening tag. -/
structure Opening where
  span : Span
  tag : TagName
  /-- The names of its attributes. -/
  names : List String
  /-- It is the tag of a component, and among the children there is a value. -/
  hasContent : Bool

namespace Opening

/-- What is in conflict on a tag: the two ways to set the class, then the content of a component and
    an attribute for it. -/
def conflicts (o : Opening) : List Conflict :=
  (if ("class" ∈ o.names ∨ "className" ∈ o.names) ∧ "classMap" ∈ o.names then [.classes] else []) ++
    if o.hasContent = true ∧ "children" ∈ o.names then [.children] else []

/-- The notices of a tag, at its start. -/
def notices (o : Opening) : List Notice :=
  o.conflicts.map fun conflict => ⟨conflict, o.tag.text, o.span.start⟩

end Opening

mutual

/-- The opening tags of the markup in an expression, also of that inside functions. -/
def Expr.openings : Expr → List Opening
  | .name _ _ => []
  | .paren _ inner => inner.openings
  | .markup _ node => node.openings
  | .compound _ _ parts => Part.openingsOf parts

/-- Those of the markup in a part. -/
def Part.openings : Part → List Opening
  | .name _ _ => []
  | .expr value => value.openings
  | .spread value => value.openings
  | .function parts => Part.openingsOf parts

/-- Those of the markup in several parts. -/
def Part.openingsOf : List Part → List Opening
  | [] => []
  | part :: rest => part.openings ++ Part.openingsOf rest

/-- The opening tags of markup, each before those inside of it. The content of an element that has
    none by its tag does not count, nor does an attribute for the content of a component that has
    other content. -/
def Markup.openings : Markup → List Opening
  | .element span tag _ attributes children =>
    ⟨span, tag, attributes.filterMap Attribute.name?, false⟩ ::
      (Attribute.openingsOf false attributes ++
        if isVoidTag tag.text then [] else Markup.openingsOf children)
  | .component span tag _ attributes children =>
    ⟨span, tag, attributes.filterMap Attribute.name?, !(Markup.flattenAll children).isEmpty⟩ ::
      (Attribute.openingsOf (!(Markup.flattenAll children).isEmpty) attributes ++
        Markup.openingsOf children)
  | .fragment children => Markup.openingsOf children
  | .text _ => []
  | .hole _ value => value.openings

/-- Those of several pieces of markup. -/
def Markup.openingsOf : List Markup → List Opening
  | [] => []
  | node :: rest => node.openings ++ Markup.openingsOf rest

/-- Those in an attribute, of a component with content if `hasContent` is set. -/
def Attribute.openings (hasContent : Bool) : Attribute → List Opening
  | .named name value => if hasContent && name == "children" then [] else value.openings
  | .spread value => value.openings

/-- Those in several attributes. -/
def Attribute.openingsOf (hasContent : Bool) : List Attribute → List Opening
  | [] => []
  | a :: rest => a.openings hasContent ++ Attribute.openingsOf hasContent rest

/-- Those in the value of an attribute. -/
def AttributeValue.openings : AttributeValue → List Opening
  | .literal _ => []
  | .bare => []
  | .expr value => value.openings
  | .markup node => node.openings

end

/-- The opening tags of the markup in a module. -/
def Program.openings (program : Program) : List Opening :=
  program.outermost.flatMap fun piece => piece.2.openings

/-! ### Steps that report -/

/-- There is a conflict of classes if there are a class and a map of classes. -/
theorem hasClassConflict_iff {attributes : List Attribute} :
    hasClassConflict attributes = true ↔
      ("class" ∈ attributes.filterMap Attribute.name? ∨
        "className" ∈ attributes.filterMap Attribute.name?) ∧
      "classMap" ∈ attributes.filterMap Attribute.name? := by
  -- the two names for classes are the same to the check
  have hclass : ∀ names : List String,
      names.any isClassName = true ↔ "class" ∈ names ∨ "className" ∈ names := by
    intro names
    rw [List.any_eq_true]
    constructor
    · rintro ⟨name, hmem, hname⟩
      rw [isClassName, Bool.or_eq_true, beq_iff_eq, beq_iff_eq] at hname
      rcases hname with rfl | rfl
      · exact .inl hmem
      · exact .inr hmem
    · rintro (hmem | hmem)
      · exact ⟨"class", hmem, rfl⟩
      · exact ⟨"className", hmem, rfl⟩
  rw [hasClassConflict, Bool.and_eq_true, hclass, List.contains_iff_mem]

/-- That conflict is reported as one of the tag without content. -/
theorem notices_reportClasses (span : Span) (tag : TagName) (attributes : List Attribute) :
    (reportClasses span tag attributes).notices =
      Opening.notices ⟨span, tag, attributes.filterMap Attribute.name?, false⟩ := by
  unfold reportClasses Opening.notices Opening.conflicts
  by_cases h : hasClassConflict attributes = true
  · rw [if_pos h, if_pos (hasClassConflict_iff.1 h)]
    rfl
  · rw [if_neg h, if_neg (fun hin => h (hasClassConflict_iff.2 hin))]
    rfl

/-- A component reports the conflict of classes first, then that of its content. -/
theorem notices_reportClasses_reportChildren (span : Span) (tag : TagName)
    (attributes : List Attribute) (hasContent : Bool) :
    (reportClasses span tag attributes).notices ++
        (reportChildren span tag attributes hasContent).notices =
      Opening.notices ⟨span, tag, attributes.filterMap Attribute.name?, hasContent⟩ := by
  -- content counts as a conflict only together with the attribute
  have hchildren : (reportChildren span tag attributes hasContent).notices =
      (if hasContent = true ∧ "children" ∈ attributes.filterMap Attribute.name? then
        [Conflict.children] else []).map fun conflict => ⟨conflict, tag.text, span.start⟩ := by
    simp only [reportChildren, hasChildrenAttribute, Bool.and_eq_true, List.contains_iff_mem]
    split <;> rfl
  rw [notices_reportClasses, hchildren, Opening.notices, Opening.notices, Opening.conflicts,
    Opening.conflicts, ← List.map_append]
  congr 1
  simp

/-! ### Steps that report nothing -/

/-- A template reports nothing. -/
theorem notices_inTemplate (content : Template Code) : (inTemplate content).notices = [] := rfl

/-- Nor does a call. -/
theorem notices_callHelper (helper : Helper) (arguments : List Code) :
    (callHelper helper arguments).notices = [] := rfl

/-- Nor does an attribute whose value goes through a helper. -/
theorem notices_mappedAttribute (helper : Helper) (name : String) (value : AttributeValue)
    (code : Code) : (mappedAttribute helper name value code).notices = [] := by
  unfold mappedAttribute
  split <;> rfl

/-- Nor does any other one. -/
theorem notices_attributeTemplate (name : String) (value : AttributeValue) (code : Code) :
    (attributeTemplate name value code).notices = [] := by
  unfold attributeTemplate
  cases AttributeKind.of name with
  | style => exact notices_mappedAttribute _ _ value code
  | classMap => exact notices_mappedAttribute _ _ value code
  | ref => rfl
  | event event => rfl
  | property property => rfl
  | boolean flag => rfl
  | namespaced name => rfl
  | plain name => rfl

/-- Nor does the value of a fragment. -/
theorem notices_fragmentValue (leaves : List Leaf) : (fragmentValue leaves).notices = [] := by
  unfold fragmentValue
  split <;> rfl

/-- Nor does the content of a component. -/
theorem notices_childrenValue (leaves : List Leaf) : (childrenValue leaves).notices = [] := by
  unfold childrenValue
  split
  · rfl
  · split <;> rfl
  · rfl

/-- Nor do its properties. -/
theorem notices_propsValue (items : List PropItem) : (propsValue items).notices = [] := by
  unfold propsValue
  split
  · rfl
  · split <;> rfl

/-! ### Elements and components -/

/-- An element reports its own conflicts, those in its attributes and those in its content. -/
theorem notices_elementTemplate (span : Span) (tag : TagName) (attributes : List Attribute)
    (inTag content : Emit (Template Code)) :
    (elementTemplate span tag attributes inTag content).notices =
      Opening.notices ⟨span, tag, attributes.filterMap Attribute.name?, false⟩ ++
        (inTag.notices ++ if isVoidTag tag.text then [] else content.notices) := by
  rw [elementTemplate, notices_bind, notices_reportClasses, notices_bind]
  dsimp only
  by_cases hvoid : isVoidTag tag.text = true
  · rw [if_pos hvoid, if_pos hvoid, notices_pure]
  · rw [if_neg hvoid, if_neg hvoid, notices_bind, notices_pure, List.append_nil]

/-- A component reports its own conflicts, those in its properties and those in its content. -/
theorem notices_componentCall (span : Span) (tag : TagName) (attributes : List Attribute)
    (children : List Markup) (props : Emit (List PropItem)) (leaves : Emit (List Leaf)) :
    (componentCall span tag attributes children props leaves).notices =
      Opening.notices ⟨span, tag, attributes.filterMap Attribute.name?,
        !(Markup.flattenAll children).isEmpty⟩ ++ (props.notices ++ leaves.notices) := by
  rw [componentCall, ← notices_reportClasses_reportChildren]
  simp only [notices_bind, notices_childrenValue, notices_propsValue, notices_callHelper,
    List.append_nil, List.append_assoc]

/-! ### Static markup -/

/-- There are no tags in static attributes. -/
theorem Attribute.openingsOf_of_isStatic {attributes : List Attribute}
    (h : ∀ a ∈ attributes, a.isStatic = true) : Attribute.openingsOf false attributes = [] := by
  induction attributes with
  | nil => rfl
  | cons a rest ih =>
    have hstatic := h a (by simp)
    -- a constant value opens no tag
    have hnone : a.openings false = [] := by
      cases a with
      | spread value => cases hstatic
      | named name value =>
        rw [Attribute.isStatic, Bool.and_eq_true] at hstatic
        cases value with
        | literal text => rfl
        | bare => rfl
        | expr value => cases hstatic.2
        | markup node => cases hstatic.2
    rw [Attribute.openingsOf, hnone, ih fun b hb => h b (List.mem_cons_of_mem _ hb)]
    rfl

section

variable (options : Options)

mutual

/-- Writing static markup out reports the conflicts of its tags. -/
theorem Markup.notices_staticText : (node : Markup) → node.isStatic = true →
    (node.staticText options).notices = node.openings.flatMap Opening.notices
  | .element span tag types attributes children, h => by
    rw [Markup.isStatic, Bool.and_eq_true, List.all_eq_true] at h
    rw [Markup.staticText, notices_bind, notices_reportClasses, Markup.openings,
      Attribute.openingsOf_of_isStatic h.1, List.nil_append, List.flatMap_cons]
    dsimp only
    -- a void element has no content that could report anything
    by_cases hvoid : isVoidTag tag.text = true
    · rw [if_pos hvoid, if_pos hvoid, notices_pure, List.flatMap_nil]
    · rw [if_neg hvoid, if_neg hvoid, notices_bind, notices_pure, List.append_nil,
        Markup.notices_staticTexts children h.2]
  | .text _, _ => rfl
  | .component .., h => nomatch h
  | .fragment _, h => nomatch h
  | .hole .., h => nomatch h

theorem Markup.notices_staticTexts : (nodes : List Markup) → Markup.allStatic nodes = true →
    (Markup.staticTexts options nodes).notices =
      (Markup.openingsOf nodes).flatMap Opening.notices
  | [], _ => rfl
  | node :: rest, h => by
    rw [Markup.allStatic, Bool.and_eq_true] at h
    rw [Markup.staticTexts, notices_bind, notices_bind, notices_pure, List.append_nil,
      node.notices_staticText h.1, Markup.notices_staticTexts rest h.2, Markup.openingsOf,
      List.flatMap_append]

end

end

/-! ### Compiled markup -/

/-- The notices of a result are those of the given tags. -/
def Emit.Reports {α : Type} (tags : List Opening) (x : Emit α) : Prop :=
  x.notices = tags.flatMap Opening.notices

namespace Emit.Reports

variable {α β γ : Type} {tags more : List Opening} {x : Emit α} {y : Emit β}

/-- A step that reports nothing itself. -/
theorem bind_quiet {f : α → Emit β} (hx : Reports tags x) (hf : ∀ a, (f a).notices = []) :
    Reports tags (x >>= f) := by
  rw [Reports, notices_bind, hf, List.append_nil]
  exact hx

/-- Two steps one after the other report the tags of both. -/
theorem both (f : α → β → γ) (hx : Reports tags x) (hy : Reports more y) :
    Reports (tags ++ more) (Emit.both f x y) := by
  rw [Reports, notices_both, hx, hy, List.flatMap_append]

end Emit.Reports

section

variable (options : Options)

/-- A result reports the tags of its tree. -/
def Traversal.reports : Traversal where
  patches e := Reports e.openings
  part part := Reports part.openings
  parts parts := Reports (Part.openingsOf parts)
  element span tag types attributes children :=
    Reports (Markup.element span tag types attributes children).openings
  call span tag types attributes children :=
    Reports (Markup.component span tag types attributes children).openings
  value node := Reports node.openings
  template node := Reports node.openings
  templates nodes := Reports (Markup.openingsOf nodes)
  leaves node := Reports node.openings
  leavesOf nodes := Reports (Markup.openingsOf nodes)
  setting a := Reports (a.openings false)
  settings attributes := Reports (Attribute.openingsOf false attributes)
  props isEmpty a := Reports (a.openings (!isEmpty))
  propsOf isEmpty attributes := Reports (Attribute.openingsOf (!isEmpty) attributes)
  code value := Reports value.openings

/-- Elements and components report their own tag first; no other step reports anything. -/
theorem Traversal.closed_reports : reports.Closed options where
  name _ _ := rfl
  paren hx := hx
  markup hx := hx
  compound hx := hx
  partName _ _ := rfl
  partExpr hx := hx
  partSpread hx := hx
  partFunction hx := hx
  partsNil := rfl
  partsCons hx hy := hx.both _ hy
  element {span tag types attributes children inTag content} hinTag hcontent := by
    show (elementTemplate _ _ _ _ _).notices = _
    rw [notices_elementTemplate, hinTag, hcontent, Markup.openings, List.flatMap_cons,
      List.flatMap_append]
    by_cases hvoid : isVoidTag tag.text = true
    · rw [if_pos hvoid, if_pos hvoid, List.flatMap_nil]
    · rw [if_neg hvoid, if_neg hvoid]
  call hprops hleaves := by
    show (componentCall _ _ _ _ _ _).notices = _
    rw [notices_componentCall, hprops, hleaves, Markup.openings, List.flatMap_cons,
      List.flatMap_append]
  valueElement hx := hx.bind_quiet notices_inTemplate
  valueComponent hx := hx.bind_quiet fun _ => notices_inTemplate _
  valueFragment hx := hx.bind_quiet notices_fragmentValue
  valueText _ := rfl
  valueHole hx := hx
  -- the other way: the element is written out and not compiled
  templateStatic hstatic := Markup.notices_staticText options _ hstatic
  templateElement _ hx := hx
  templateComponent hx := hx
  templateFragment hx := hx
  templateText _ := rfl
  templateHole hx := hx
  templatesNil := rfl
  templatesCons hx hy := hx.both _ hy
  leavesElement hx := hx.bind_quiet notices_inTemplate
  leavesComponent hx := hx
  leavesFragment hx := hx
  leavesText _ := rfl
  leavesHole hx := hx
  leavesNil := rfl
  leavesCons hx hy := hx.both _ hy
  settingNamed {name value x} hx := hx.bind_quiet (notices_attributeTemplate name value)
  settingSpread hx := hx.bind_quiet fun _ => notices_callHelper _ _
  settingsNil := rfl
  settingsCons hx hy := hx.both _ hy
  propsOverridden _ := rfl
  propsNamed {isEmpty name value x} hname hx := by
    show x.notices = (Attribute.openings (!isEmpty) (.named name value)).flatMap Opening.notices
    rw [Attribute.openings, hname]
    exact hx
  propsSpread hx := hx
  propsNil _ := rfl
  propsCons hx hy := hx.both _ hy
  codeLiteral _ := rfl
  codeBare := rfl
  codeExpr hx := hx
  codeMarkup hx := hx

/-- **Compiling markup reports the conflicts of its tags**, each tag before those inside of it. -/
theorem Markup.notices_value (node : Markup) :
    (node.value options).notices = node.openings.flatMap Opening.notices :=
  (Traversal.closed_reports options).holds_value node

/-- Compiling a module reports the conflicts of its tags. -/
theorem Program.notices_patches (program : Program) :
    (program.patches options).notices = program.openings.flatMap Opening.notices := by
  rw [Program.patches_eq, notices_mapM, Program.openings, List.flatMap_assoc]
  congr 1
  funext piece
  rw [Markup.patch, notices_bind, notices_pure, List.append_nil, piece.2.notices_value]

end

/-! ### Warnings -/

/-- The warning is about the notice: it has the code and the wording of the conflict, the file, and
    the line and column at which the tag starts. The line is one more than the number of line feeds
    before the tag, the column one more than the number of characters since the last of them. -/
structure Notice.IsReportedAs (file : String) (source : List Char) (notice : Notice) (w : Warning) :
    Prop where
  code : w.code = notice.conflict.code
  message : w.message = notice.conflict.message notice.tag
  resolution : w.resolution = JsxTemplate.resolution notice.conflict.code
  file : w.file = file
  place : ∃ before after, source = before ++ after ∧ byteLength before = notice.start ∧
    w.line = before.count '\n' + 1 ∧ w.column = (lastLine before).length + 1

/-- A notice whose place is one of the source becomes the warning about it, and no other one. -/
theorem Notice.warning?_eq_some_iff {file : String} {source : List Char} {notice : Notice}
    {w : Warning} :
    notice.warning? file (Lines.of source) source = some w ↔
      notice.IsReportedAs file source w := by
  rw [Notice.warning?]
  constructor
  · intro h
    obtain ⟨place, hplace, hw⟩ := Option.bind_eq_some_iff.1 h
    obtain ⟨before, after, hsource, hstart, rfl⟩ := Lines.location_eq_some_iff.1 hplace
    obtain rfl := Option.some.inj hw
    exact ⟨rfl, rfl, rfl, rfl, before, after, hsource, hstart, rfl, rfl⟩
  · rintro ⟨hcode, hmessage, hresolution, hfile, before, after, hsource, hstart, hline, hcolumn⟩
    rw [Lines.location_eq_some_iff.2 ⟨before, after, hsource, hstart, rfl⟩]
    -- the fields of a warning are all there is of it
    obtain ⟨code, message, resolution, file', line, column⟩ := w
    cases hcode
    cases hmessage
    cases hresolution
    cases hfile
    cases hline
    cases hcolumn
    rfl

/-- The warnings of several notices are about them, one by one. -/
theorem Notice.mapM_warning?_eq_some_iff {file : String} {source : List Char}
    {notices : List Notice} {warnings : List Warning} :
    notices.mapM (Notice.warning? file (Lines.of source) source) = some warnings ↔
      List.Forall₂ (Notice.IsReportedAs file source) notices warnings := by
  rw [mapM_eq_some_iff]
  simp only [Notice.warning?_eq_some_iff]

/-- The warnings of a compiled module are about the conflicts of its tags. -/
theorem Program.forall₂_warnings {program : Program} {source : List Char} {file : String}
    {options : Options} {out : Compiled} (h : program.compile source file options = some out) :
    List.Forall₂ (Notice.IsReportedAs file source) (program.openings.flatMap Opening.notices)
      out.warnings := by
  unfold Program.compile at h
  obtain ⟨rs, -, h⟩ := Option.bind_eq_some_iff.1 h
  obtain ⟨warnings, hwarnings, h⟩ := Option.bind_eq_some_iff.1 h
  rw [Program.notices_patches, Notice.mapM_warning?_eq_some_iff] at hwarnings
  -- with or without a new import, the warnings go into the output as they are
  suffices hout : out.warnings = warnings by
    rw [hout]
    exact hwarnings
  dsimp only at h
  split at h
  · obtain ⟨header, -, h⟩ := Option.bind_eq_some_iff.1 h
    obtain ⟨draft, -, hout⟩ := Option.bind_eq_some_iff.1 h
    rw [← Option.some.inj hout]
  · obtain ⟨offset, -, h⟩ := Option.bind_eq_some_iff.1 h
    obtain ⟨header, -, h⟩ := Option.bind_eq_some_iff.1 h
    obtain ⟨draft, -, hout⟩ := Option.bind_eq_some_iff.1 h
    rw [← Option.some.inj hout]

/-- **Warnings are exact.** Compiling markup reports the conflicts of its opening tags, those of
    each tag before those of the tags inside of it, and nothing else. If the markup lies in the
    source, each of them becomes a warning at the line and column of its tag. A module that is read
    is compiled, its markup lies in the source, and its warnings are those of its markup. -/
theorem warnings_exact (node : Markup) (program : Program) (source file : String)
    (options : Options) :
    (node.value options).notices = node.openings.flatMap Opening.notices ∧
    (node.isPlaced source.toList = true → ∃ warnings,
      (node.value options).notices.mapM
        (Notice.warning? file (Lines.of source.toList) source.toList) = some warnings ∧
      List.Forall₂ (Notice.IsReportedAs file source.toList)
        (node.openings.flatMap Opening.notices) warnings) ∧
    (program.isPlaced source.toList = true →
      (∀ piece ∈ program.outermost, piece.2.isPlaced source.toList = true) ∧
      ∃ out, program.compile source.toList file options = some out) ∧
    (Program.parse? (Grammar.Dialect.ofPath file) source.toList = some program →
      program.isPlaced source.toList = true ∧
      ∃ out, transform source file options = .ok out ∧
        program.compile source.toList file options = some out) ∧
    ∀ out, program.compile source.toList file options = some out →
      List.Forall₂ (Notice.IsReportedAs file source.toList)
        (program.openings.flatMap Opening.notices) out.warnings := by
  refine ⟨node.notices_value options, fun hplaced => ?_, fun hplaced => ?_, fun hparse => ?_,
    fun out hout => ?_⟩
  · have hensures : Ensures (Notice.IsPlaced source.toList) (Code.Renders ⟨[]⟩ source.toList)
        (node.value options) := node.ensures_value options hplaced
    -- every notice points at a place of the text, which has a line and a column
    have hfound : ∀ notice ∈ (node.value options).notices,
        ∃ w, notice.warning? file (Lines.of source.toList) source.toList = some w := by
      intro notice hnotice
      obtain ⟨position, hposition⟩ := Lines.exists_location (hensures.2 notice hnotice)
      exact ⟨_, by rw [Notice.warning?, hposition]; rfl⟩
    obtain ⟨warnings, hwarnings, -⟩ := exists_mapM_eq_some hfound
    refine ⟨warnings, hwarnings, ?_⟩
    rw [← node.notices_value options]
    exact Notice.mapM_warning?_eq_some_iff.1 hwarnings
  · obtain ⟨out, hout, -⟩ := Program.exists_compile hplaced file options
    exact ⟨fun piece => Program.isPlaced_of_mem_outermost hplaced, out, hout⟩
  · have hplaced := Program.isPlaced_of_parse? hparse
    obtain ⟨out, hout, -⟩ := Program.exists_compile hplaced file options
    exact ⟨hplaced, out, transform_eq_ok hparse hout, hout⟩
  · exact Program.forall₂_warnings hout

/-- A component with both conflicts, around a tag in the attribute that is overridden, one in an
    element that has no content, and one in a function. All have a class and a map of classes. The
    component is the one piece of markup of the module, and has all of its warnings. -/
theorem warnings_exact_component :
    ∃ (source : String) (program : Program) (piece : Span × Markup) (out : Compiled),
      source = "é;\nx = <A class classMap children=" ++ braced "<i class classMap/>" ++
          "><br><u class classMap/></br>" ++ braced "() => <b className classMap/>" ++ "</A>;" ∧
      Program.parse? (Grammar.Dialect.ofPath "a.jsx") source.toList = some program ∧
      program.outermost = [piece] ∧
      piece.2.openings.map (fun o => (o.tag.text, o.conflicts)) =
        [("A", [.classes, .children]), ("br", []), ("b", [.classes])] ∧
      (piece.2.value {}).notices = piece.2.openings.flatMap Opening.notices ∧
      transform source "a.jsx" {} = .ok out ∧
      (piece.2.value {}).notices.mapM
        (Notice.warning? "a.jsx" (Lines.of source.toList) source.toList) = some out.warnings ∧
      out.warnings.map (fun w => (w.code, w.line, w.column)) =
        [("KAORI-W002", 2, 5), ("KAORI-W001", 2, 5), ("KAORI-W002", 2, 89)] ∧
      List.Forall₂ (Notice.IsReportedAs "a.jsx" source.toList)
        (program.openings.flatMap Opening.notices) out.warnings := by
  obtain ⟨source, hsource⟩ : ∃ s,
      s = "é;\nx = <A class classMap children=" ++ braced "<i class classMap/>" ++
          "><br><u class classMap/></br>" ++ braced "() => <b className classMap/>" ++
          "</A>;" := ⟨_, rfl⟩
  have hread : (Program.parse? (Grammar.Dialect.ofPath "a.jsx") source.toList).any (fun program =>
      decide (program.outermost.map (fun p => p.2.openings.map fun o => (o.tag.text, o.conflicts)) =
        [[("A", [.classes, .children]), ("br", []), ("b", [.classes])]])) = true := by
    rw [hsource]
    decide +kernel
  obtain ⟨program, hparse, hchecks⟩ := (Option.any_eq_true _ _).1 hread
  obtain ⟨piece, houtermost, hopenings⟩ :=
    List.map_eq_singleton_iff.1 (of_decide_eq_true hchecks)
  obtain ⟨hnotices, hnode, hmarkup, hmodule, hwarnings⟩ :=
    warnings_exact piece.2 program source "a.jsx" {}
  obtain ⟨hplaced, out, hout, hcompile⟩ := hmodule hparse
  obtain ⟨warnings, hfound, hreported⟩ :=
    hnode ((hmarkup hplaced).1 piece (by rw [houtermost]; exact List.mem_singleton.2 rfl))
  -- the warnings of the module are about the same notices
  have hall := hwarnings out hcompile
  have hsame : out.warnings = warnings := by
    have hprogram : program.openings = piece.2.openings := by
      rw [Program.openings, houtermost, List.flatMap_singleton]
    have hboth := Notice.mapM_warning?_eq_some_iff.2 hall
    rw [hprogram, Notice.mapM_warning?_eq_some_iff.2 hreported] at hboth
    exact (Option.some.inj hboth).symm
  have hplaces : (transform source "a.jsx" {}).toOption.map
      (fun out => out.warnings.map fun w => (w.code, w.line, w.column)) =
      some [("KAORI-W002", 2, 5), ("KAORI-W001", 2, 5), ("KAORI-W002", 2, 89)] := by
    rw [hsource]
    decide +kernel
  rw [hout] at hplaces
  exact ⟨source, program, piece, out, hsource, hparse, houtermost, hopenings, hnotices, hout,
    by rw [hsame]; exact hfound, Option.some.inj hplaces, hall⟩

end JsxTemplate
