import JsxTemplate.Proofs.Imports
import JsxTemplate.Proofs.Traversal

namespace JsxTemplate

/-!
# Markup that reads nothing calls no helper

Two walks over markup decide about helpers on their own: the analysis, which takes a component, a
spread, a reference or a value that goes through a helper for a reading, and the compiler, which
writes the calls. They agree in the direction that matters: what does not read is compiled to
templates alone.

The analysis does not look into functions, which run later, and the compiler does. So nothing can be
said about markup inside of functions.

* `Markup.hasFunction` — whether there is a function in some expression of markup, at any depth.
* `Emit.OnlyHtml` — the only helper that is needed is the tag of templates. There is one rule for
  each operation.
* `Traversal.quiet` — this for what is compiled, unless it reads or has a function in it.
* `Markup.only_html_of_not_reads` — this for all markup that neither reads nor has a function in it.
-/

open Text Emit

/-! ### Functions in expressions -/

mutual

/-- Whether there is a function in an expression, or in markup inside of it. -/
def Expr.hasFunction : Expr → Bool
  | .name _ _ => false
  | .paren _ inner => inner.hasFunction
  | .markup _ node => node.hasFunction
  | .compound form _ parts => form = .arrow || form = .function || Part.anyFunction parts

/-- Whether a part is a function or has one in it. -/
def Part.hasFunction : Part → Bool
  | .name _ _ => false
  | .expr value => value.hasFunction
  | .spread value => value.hasFunction
  | .function _ => true

/-- Whether there is a function among several parts. -/
def Part.anyFunction : List Part → Bool
  | [] => false
  | part :: rest => part.hasFunction || Part.anyFunction rest

/-- Whether there is a function in some expression of markup. -/
def Markup.hasFunction : Markup → Bool
  | .element _ _ _ attributes children =>
    Attribute.anyFunction attributes || Markup.anyFunction children
  | .component _ _ _ attributes children =>
    Attribute.anyFunction attributes || Markup.anyFunction children
  | .fragment children => Markup.anyFunction children
  | .text _ => false
  | .hole _ value => value.hasFunction

/-- Whether there is a function in one of several pieces of markup. -/
def Markup.anyFunction : List Markup → Bool
  | [] => false
  | node :: rest => node.hasFunction || Markup.anyFunction rest

/-- Whether there is a function in an attribute. -/
def Attribute.hasFunction : Attribute → Bool
  | .named _ value => value.hasFunction
  | .spread value => value.hasFunction

/-- Whether there is a function in one of several attributes. -/
def Attribute.anyFunction : List Attribute → Bool
  | [] => false
  | a :: rest => a.hasFunction || Attribute.anyFunction rest

/-- Whether there is a function in the value of an attribute. -/
def AttributeValue.hasFunction : AttributeValue → Bool
  | .literal _ => false
  | .bare => false
  | .expr value => value.hasFunction
  | .markup node => node.hasFunction

end

/-- Of an expression that does not read and has no function in it, no part reads or has one. -/
theorem Expr.parts_of_not_reads {form : Form} {span : Span} {parts : List Part}
    (hfree : (Expr.compound form span parts).hasFunction = false)
    (hreads : (Expr.compound form span parts).reads = false) :
    Part.anyFunction parts = false ∧ Part.anyReads parts = false := by
  simp only [Expr.hasFunction, Bool.or_eq_false_iff, decide_eq_false_iff_not] at hfree
  obtain ⟨⟨harrow, hfunction⟩, hparts⟩ := hfree
  refine ⟨hparts, ?_⟩
  -- an access and a call read at once, and functions are excluded: all other forms ask their parts
  cases form with
  | member => cases hreads
  | call => cases hreads
  | arrow => exact absurd rfl harrow
  | function => exact absurd rfl hfunction
  | _ => exact hreads

/-! ### Only the tag of templates -/

namespace Emit

variable {α β : Type}

/-- The only helper that is needed is the tag of templates. -/
def OnlyHtml (x : Emit α) : Prop := ∀ h ∈ x.needs, h = .html

namespace OnlyHtml

/-- What notes no helper notes none but the tag of templates. -/
theorem of_needs_eq_nil {x : Emit α} (h : x.needs = []) : OnlyHtml x := by
  intro k hk
  rw [h] at hk
  cases hk

/-- A value alone notes nothing. -/
theorem pure (a : α) : OnlyHtml (Pure.pure a : Emit α) := of_needs_eq_nil rfl

/-- Two steps that note nothing else do so together. -/
theorem bind {x : Emit α} {f : α → Emit β} (hx : OnlyHtml x) (hf : ∀ a, OnlyHtml (f a)) :
    OnlyHtml (x >>= f) := by
  intro h hh
  rw [needs_bind, List.mem_append] at hh
  rcases hh with hh | hh
  · exact hx h hh
  · exact hf x.value h hh

/-- The tag of templates may be noted. -/
theorem need_html : OnlyHtml (Emit.need .html) := by
  intro h hh
  exact List.mem_singleton.1 hh

end OnlyHtml

end Emit

/-- A template notes its tag. -/
theorem onlyHtml_inTemplate (content : Template Code) : OnlyHtml (inTemplate content) :=
  OnlyHtml.need_html.bind fun _ => .pure _

/-- A fragment notes that tag or nothing. -/
theorem onlyHtml_fragmentValue (leaves : List Leaf) : OnlyHtml (fragmentValue leaves) := by
  unfold fragmentValue
  split
  · exact onlyHtml_inTemplate _
  · exact onlyHtml_inTemplate _
  · exact .pure _

/-- An element notes what its tag and its content note. -/
theorem onlyHtml_elementTemplate (span : Span) (tag : TagName) (attributes : List Attribute)
    {inTag content : Emit (Template Code)} (hinTag : OnlyHtml inTag) (hcontent : OnlyHtml content) :
    OnlyHtml (elementTemplate span tag attributes inTag content) := by
  unfold elementTemplate
  refine (OnlyHtml.of_needs_eq_nil (needs_reportClasses span tag attributes)).bind fun _ => ?_
  refine hinTag.bind fun opening => ?_
  dsimp only
  split
  · exact .pure _
  · exact hcontent.bind fun _ => .pure _

/-- A value that is not wrapped goes through no helper. -/
theorem onlyHtml_mappedAttribute (helper : Helper) (name : String) {value : AttributeValue}
    (hvalue : value.isWrappable = false) (code : Code) :
    OnlyHtml (mappedAttribute helper name value code) := by
  rw [mappedAttribute, hvalue]
  exact .pure _

/-- An attribute that does not read sets the element without a helper, whatever its kind. -/
theorem onlyHtml_attributeTemplate {name : String} {value : AttributeValue}
    (h : (Attribute.named name value).reads = false) (code : Code) :
    OnlyHtml (attributeTemplate name value code) := by
  rw [Attribute.reads] at h
  unfold attributeTemplate
  -- only a reference calls a helper at once; the mapped kinds do if the value is wrapped
  cases hkind : AttributeKind.of name with
  | ref =>
    rw [hkind] at h
    cases h
  | style =>
    rw [hkind, Bool.or_eq_false_iff] at h
    exact onlyHtml_mappedAttribute _ _ h.1 code
  | classMap =>
    rw [hkind, Bool.or_eq_false_iff] at h
    exact onlyHtml_mappedAttribute _ _ h.1 code
  | event event => exact .pure _
  | property property => exact .pure _
  | boolean flag => exact .pure _
  | namespaced name => exact .pure _
  | plain name => exact .pure _

/-- The value of an attribute that does not read does not read. -/
theorem Attribute.reads_value_of_named {name : String} {value : AttributeValue}
    (h : (Attribute.named name value).reads = false) : value.reads = false := by
  rw [Attribute.reads] at h
  cases hkind : AttributeKind.of name with
  | ref =>
    rw [hkind] at h
    cases h
  | style =>
    rw [hkind, Bool.or_eq_false_iff] at h
    exact h.2
  | classMap =>
    rw [hkind, Bool.or_eq_false_iff] at h
    exact h.2
  | event event => rwa [hkind] at h
  | property property => rwa [hkind] at h
  | boolean flag => rwa [hkind] at h
  | namespaced name => rwa [hkind] at h
  | plain name => rwa [hkind] at h

/-! ### Markup -/

/-- A result of a tree needs the tag of templates only, unless there is a function in the tree or it
    reads. -/
def Emit.QuietUnless {α : Type} (hasFunction reads : Bool) (x : Emit α) : Prop :=
  hasFunction = false → reads = false → OnlyHtml x

namespace Emit.QuietUnless

variable {α β γ : Type} {f r g s : Bool} {x : Emit α} {y : Emit β}

/-- A value alone is quiet. -/
theorem pure (a : α) : QuietUnless f r (Pure.pure a : Emit α) :=
  fun _ _ => OnlyHtml.pure a

/-- Nothing is said of what reads in any case. -/
theorem reading : QuietUnless f true x := by
  intro _ h
  cases h

/-- A step that is quiet itself may come after. -/
theorem bind {next : α → Emit β} (hx : QuietUnless f r x) (hnext : ∀ a, OnlyHtml (next a)) :
    QuietUnless f r (x >>= next) :=
  fun hfree hreads => (hx hfree hreads).bind hnext

/-- Of two trees side by side, neither may read or have a function in it. -/
theorem both (next : α → β → γ) (hx : QuietUnless f r x) (hy : QuietUnless g s y) :
    QuietUnless (f || g) (r || s) (Emit.both next x y) := by
  intro hfree hreads
  rw [Bool.or_eq_false_iff] at hfree hreads
  rintro h hh
  rw [needs_both, List.mem_append] at hh
  rcases hh with hh | hh
  · exact hx hfree.1 hreads.1 h hh
  · exact hy hfree.2 hreads.2 h hh

end Emit.QuietUnless

section

variable (options : Options)

/-- A result needs the tag of templates only, unless its tree reads or has a function in it. A
    component always reads, so nothing is said of its properties. -/
def Traversal.quiet : Traversal where
  patches e := QuietUnless e.hasFunction e.reads
  part part := QuietUnless part.hasFunction part.reads
  parts parts := QuietUnless (Part.anyFunction parts) (Part.anyReads parts)
  element span tag types attributes children :=
    QuietUnless (Markup.element span tag types attributes children).hasFunction
      (Markup.element span tag types attributes children).reads
  call _ _ _ _ _ _ := True
  value node := QuietUnless node.hasFunction node.reads
  template node := QuietUnless node.hasFunction node.reads
  templates nodes := QuietUnless (Markup.anyFunction nodes) (Markup.anyReads nodes)
  leaves node := QuietUnless node.hasFunction node.reads
  leavesOf nodes := QuietUnless (Markup.anyFunction nodes) (Markup.anyReads nodes)
  setting a := QuietUnless a.hasFunction a.reads
  settings attributes :=
    QuietUnless (Attribute.anyFunction attributes) (Attribute.anyReads attributes)
  props _ _ _ := True
  propsOf _ _ _ := True
  code value := QuietUnless value.hasFunction value.reads

/-- No step needs another helper unless what it is given reads. -/
theorem Traversal.closed_quiet : quiet.Closed options where
  name _ _ := .pure _
  paren hx := hx
  markup hx := hx
  compound hx := fun hfree hreads =>
    hx (Expr.parts_of_not_reads hfree hreads).1 (Expr.parts_of_not_reads hfree hreads).2
  partName _ _ := .pure _
  partExpr hx := hx
  partSpread hx := hx
  partFunction _ := fun hfree => by cases hfree
  partsNil := .pure _
  partsCons hx hy := hx.both _ hy
  element {span tag types attributes children inTag content} hinTag hcontent := by
    intro hfree hreads
    rw [Markup.hasFunction, Bool.or_eq_false_iff] at hfree
    rw [Markup.reads, Bool.or_eq_false_iff] at hreads
    exact onlyHtml_elementTemplate span tag attributes (hinTag hfree.1 hreads.1)
      (hcontent hfree.2 hreads.2)
  call _ _ := trivial
  valueElement hx := hx.bind onlyHtml_inTemplate
  valueComponent _ := .reading
  valueFragment hx := hx.bind onlyHtml_fragmentValue
  valueText _ := .pure _
  valueHole hx := hx
  -- static markup becomes text, which needs nothing
  templateStatic _ := fun _ _ => .of_needs_eq_nil (Markup.needs_staticText _)
  templateElement _ hx := hx
  templateComponent _ := .reading
  templateFragment hx := hx
  templateText _ := .pure _
  templateHole hx := hx
  templatesNil := .pure _
  templatesCons hx hy := hx.both _ hy
  leavesElement hx := hx.bind onlyHtml_inTemplate
  leavesComponent _ := .reading
  leavesFragment hx := hx
  leavesText _ := .pure _
  leavesHole hx := hx
  leavesNil := .pure _
  leavesCons hx hy := hx.both _ hy
  settingNamed hx := fun hfree hreads =>
    (hx hfree (Attribute.reads_value_of_named hreads)).bind (onlyHtml_attributeTemplate hreads)
  settingSpread _ := .reading
  settingsNil := .pure _
  settingsCons hx hy := hx.both _ hy
  propsOverridden _ := trivial
  propsNamed _ _ := trivial
  propsSpread _ := trivial
  propsNil _ := trivial
  propsCons _ _ := trivial
  codeLiteral _ := .pure _
  codeBare := .pure _
  codeExpr hx := hx
  codeMarkup hx := hx

/-- **Markup that does not read is compiled to templates alone**, if there is no function in it. -/
theorem Markup.onlyHtml_value (node : Markup) (hfree : node.hasFunction = false)
    (hreads : node.reads = false) : OnlyHtml (node.value options) :=
  (Traversal.closed_quiet options).holds_value node hfree hreads

end

/-- **The analysis is sound for the compiler.** Markup in whose expressions there is no function,
    and which does not read, is compiled without a helper other than the tag of templates: no other
    one is needed, the code calls no other one at any depth, and if the markup lies in a source, no
    other one is referred to in the text of the code. -/
theorem Markup.only_html_of_not_reads (node : Markup) (options : Options)
    (hfree : node.hasFunction = false) (hreads : node.reads = false) :
    (∀ h ∈ (node.value options).needs, h = .html) ∧
    (∀ h ∈ (node.value options).value.references, h = .html) ∧
    ∀ (bindings : Bindings) (source : List Char), node.isPlaced source = true →
      ∀ h, Sign.RefersTo bindings ((node.value options).value.signs bindings source) h →
        h = .html := by
  have hneeds := node.onlyHtml_value options hfree hreads
  refine ⟨hneeds, fun h hh => hneeds h ?_, fun bindings source hplaced h hh => hneeds h ?_⟩
  · exact (node.uses_value options).mem_iff.2 hh
  · exact (Markup.refersTo_value_iff hplaced options bindings h).1 hh

/-- Markup in an attribute, and two fragments in a choice: five templates, and no call. -/
theorem Markup.only_html_of_not_reads_choice :
    ∃ (source : String) (program : Program) (span : Span) (node : Markup),
      source = "x = <p title=<b/> class=" ++ braced "a" ++ ">" ++ braced ("c ? <><i/>" ++
          braced "d" ++ "</> : <>" ++ braced ("<u style=\"e\">" ++ braced "f" ++ "</u>") ++
          "</>") ++ "</p>;" ∧
      Program.parse? (Grammar.Dialect.ofPath "a.jsx") source.toList = some program ∧
      program.outermost.head? = some (span, node) ∧
      node.isPlaced source.toList = true ∧ node.hasFunction = false ∧ node.reads = false ∧
      (node.value {}).value.references = [.html, .html, .html, .html, .html] ∧
      (∀ h ∈ (node.value {}).needs, h = .html) ∧
      ∀ h, Sign.RefersTo (Bindings.of program {})
        ((node.value {}).value.signs (Bindings.of program {}) source.toList) h → h = .html := by
  obtain ⟨source, hsource⟩ : ∃ s,
      s = "x = <p title=<b/> class=" ++ braced "a" ++ ">" ++ braced ("c ? <><i/>" ++ braced "d" ++
          "</> : <>" ++ braced ("<u style=\"e\">" ++ braced "f" ++ "</u>") ++ "</>") ++
          "</p>;" := ⟨_, rfl⟩
  have hread : (Program.parse? (Grammar.Dialect.ofPath "a.jsx") source.toList).any (fun program =>
      program.outermost.head?.any fun found =>
        !found.2.hasFunction && !found.2.reads &&
        decide ((found.2.value {}).value.references = [.html, .html, .html, .html, .html])) =
      true := by
    rw [hsource]
    decide +kernel
  obtain ⟨program, hparse, hfound⟩ := (Option.any_eq_true _ _).1 hread
  obtain ⟨⟨span, node⟩, hnode, hchecks⟩ := (Option.any_eq_true _ _).1 hfound
  simp only [Bool.and_eq_true, Bool.not_eq_true', decide_eq_true_eq] at hchecks
  obtain ⟨⟨hfree, hreads⟩, hreferences⟩ := hchecks
  have hplaced : node.isPlaced source.toList = true :=
    Program.isPlaced_of_mem_outermost (Program.isPlaced_of_parse? hparse) (List.mem_of_head? hnode)
  obtain ⟨hneeds, -, hrefers⟩ := node.only_html_of_not_reads {} hfree hreads
  exact ⟨source, program, span, node, hsource, hparse, hnode, hplaced, hfree, hreads, hreferences,
    hneeds, hrefers (Bindings.of program {}) source.toList hplaced⟩

end JsxTemplate
