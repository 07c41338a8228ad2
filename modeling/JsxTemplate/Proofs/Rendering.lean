import JsxTemplate.Proofs.Components
import JsxTemplate.Proofs.Placed
import JsxTemplate.Proofs.Placement
import JsxTemplate.Proofs.Traversal

namespace JsxTemplate

/-!
# Compiled markup has a text

Copied expressions are looked up in the source, and a span that is none of the source makes the
whole text fail. For markup that lies in the source it never does.

* `Code.Renders bindings source code` — the text of `code` is found.
* `Code.HereditaryIn source options P` — `P` goes up through every constructor, also through that of
  a copied expression if it lies in the source.
* `Traversal.holds`, `Markup.holds_value` — compiled markup has such a property, and its notices are
  at places of the source.
* `Markup.ensures_value` — so it has a text.
* `Code.exists_renderPatches` — the replacements that patches stand for, in their order.
-/

open Text Emit

/-- A loop over values that are all found finds all of them. -/
theorem exists_mapM_eq_some {α β : Type} {f : α → Option β} {as : List α}
    (h : ∀ a ∈ as, ∃ b, f a = some b) :
    ∃ bs, as.mapM f = some bs ∧ List.Forall₂ (fun a b => f a = some b) as bs := by
  induction as with
  | nil => exact ⟨[], rfl, .nil⟩
  | cons a as ih =>
    obtain ⟨b, hb⟩ := h a (by simp)
    obtain ⟨bs, hbs, hall⟩ := ih fun x hx => h x (List.mem_cons_of_mem _ hx)
    refine ⟨b :: bs, ?_, .cons hb hall⟩
    rw [List.mapM_cons, hb, hbs]
    rfl

/-- A loop finds values exactly if each step finds its own. -/
theorem mapM_eq_some_iff {α β : Type} {f : α → Option β} {as : List α} {bs : List β} :
    as.mapM f = some bs ↔ List.Forall₂ (fun a b => f a = some b) as bs := by
  constructor
  · intro h
    induction as generalizing bs with
    | nil =>
      obtain rfl := Option.some.inj h
      exact .nil
    | cons a as ih =>
      rw [List.mapM_cons] at h
      obtain ⟨b, hb, h⟩ := Option.bind_eq_some_iff.1 h
      obtain ⟨rest, hrest, h⟩ := Option.bind_eq_some_iff.1 h
      obtain rfl := Option.some.inj h
      exact .cons hb (ih hrest)
  · intro h
    induction h with
    | nil => rfl
    | cons hhead _ ih =>
      rw [List.mapM_cons, hhead, ih]
      rfl

/-- Replacements for the spans of other things, one by one, have these spans. -/
theorem map_span_eq {α : Type} {f : α → Span} {Q : α → Replacement → Prop} {as : List α}
    {rs : List Replacement} (h : List.Forall₂ (fun a r => f a = r.span ∧ Q a r) as rs) :
    rs.map Replacement.span = as.map f := by
  induction h with
  | nil => rfl
  | cons hhead _ ih => rw [List.map_cons, List.map_cons, ih, hhead.1]

/-! ### Code -/

namespace Code

variable (bindings : Bindings) (source : List Char)

/-- The text of code is found. -/
def Renders (code : Code) : Prop := ∃ text, code.render bindings source = some text

/-- Several pieces of code have a text if each has one. -/
theorem renderAll_eq (codes : List Code) :
    renderAll bindings source codes = codes.mapM (render bindings source) := by
  induction codes with
  | nil => rfl
  | cons code rest ih => rw [renderAll, ih, List.mapM_cons]

theorem renderPatches_eq (patches : List (Span × Code)) :
    renderPatches bindings source patches = patches.mapM fun p =>
      (p.2.render bindings source).map fun text => ⟨p.1, text⟩ := by
  induction patches with
  | nil => rfl
  | cons patch rest ih =>
    rw [renderPatches, ih, List.mapM_cons]
    cases patch.2.render bindings source <;> rfl

theorem renderEntries_eq (entries : List (Entry Code)) :
    renderEntries bindings source entries = entries.mapM fun e =>
      (e.value.render bindings source).map fun text => ⟨e.key, text, e.isGetter⟩ := by
  induction entries with
  | nil => rfl
  | cons e rest ih =>
    rw [renderEntries, ih, List.mapM_cons]
    cases e.value.render bindings source <;> rfl

theorem renderHoles_eq (holes : List (List Char × Code)) :
    renderHoles bindings source holes = holes.mapM fun h =>
      (h.2.render bindings source).map fun text => (h.1, text) := by
  induction holes with
  | nil => rfl
  | cons h rest ih =>
    rw [renderHoles, ih, List.mapM_cons]
    cases h.2.render bindings source <;> rfl

variable {bindings source}

/-- What is made of the text of code is there if the text is. -/
theorem Renders.exists_map {β : Type} {code : Code} (h : code.Renders bindings source)
    (f : List Char → β) : ∃ b, (code.render bindings source).map f = some b := by
  obtain ⟨text, htext⟩ := h
  exact ⟨f text, by rw [htext]; rfl⟩

/-- The replacements of patches: the same spans in the same order, with the text of the code. -/
theorem exists_renderPatches {patches : List (Span × Code)}
    (h : ∀ p ∈ patches, p.2.Renders bindings source) :
    ∃ rs, renderPatches bindings source patches = some rs ∧
      List.Forall₂ (fun p r => p.1 = r.span ∧ p.2.render bindings source = some r.code)
        patches rs := by
  obtain ⟨rs, hrs, hall⟩ := exists_mapM_eq_some fun p hp =>
    (h p hp).exists_map fun text => (⟨p.1, text⟩ : Replacement)
  refine ⟨rs, by rw [renderPatches_eq]; exact hrs, hall.imp fun p r hr => ?_⟩
  obtain ⟨text, htext, rfl⟩ := Option.map_eq_some_iff.1 hr
  exact ⟨rfl, htext⟩

/-- Having a text goes up from the parts of code to the whole. -/
theorem renders_hereditary : Hereditary (Renders bindings source) where
  string text := ⟨_, rfl⟩
  flag := ⟨_, rfl⟩
  name tag _ := ⟨_, rfl⟩
  -- each kind of code renders as soon as the pieces of code in it do
  paren := by
    rintro inner ⟨text, htext⟩
    exact ⟨_, by rw [render, htext]; rfl⟩
  spread := by
    rintro inner ⟨text, htext⟩
    exact ⟨_, by rw [render, htext]; rfl⟩
  array := by
    intro items h
    obtain ⟨texts, htexts, -⟩ := exists_mapM_eq_some h
    exact ⟨_, by rw [render, renderAll_eq, htexts]; rfl⟩
  object := by
    intro entries h
    obtain ⟨texts, htexts, -⟩ := exists_mapM_eq_some fun e he =>
      (h e he).exists_map fun text => (⟨e.key, text, e.isGetter⟩ : Entry (List Char))
    exact ⟨_, by rw [render, renderEntries_eq, htexts]; rfl⟩
  call := by
    intro helper arguments h
    obtain ⟨texts, htexts, -⟩ := exists_mapM_eq_some h
    exact ⟨_, by rw [render, renderAll_eq, htexts]; rfl⟩
  template := by
    rintro ⟨holes, tail⟩ h
    obtain ⟨texts, htexts, -⟩ := exists_mapM_eq_some fun hole hmem =>
      (h hole hmem).exists_map fun text => (hole.1, text)
    exact ⟨_, by rw [render, renderHoles_eq, htexts]; rfl⟩

end Code

/-! ### Static markup -/

/-- The notice is at a place of the source. -/
def Notice.IsPlaced (source : List Char) (notice : Notice) : Prop := PlaceIn 0 source notice.start

variable {source : List Char}

/-- A notice at the start of a span of the source is at a place of it. -/
theorem Span.isPlaced_notice {span : Span} (h : span.isOn source = true) (conflict : Conflict)
    (tag : String) : Notice.IsPlaced source ⟨conflict, tag, span.start⟩ :=
  (Span.isOn_iff.1 h).start_place

mutual

/-- What is reported about static markup is at places of the source. -/
theorem Markup.ensures_staticText (options : Options) : (node : Markup) →
    node.isPlaced source = true →
    Ensures (Notice.IsPlaced source) (fun _ => True) (node.staticText options)
  | .element span tag types attributes children, h => by
    simp only [Markup.isPlaced, Bool.and_eq_true] at h
    unfold Markup.staticText
    -- only the report about classes gives notices; texts never do
    refine (ensures_reportClasses (Span.isPlaced_notice h.1.1) tag attributes).bind fun _ _ => ?_
    dsimp only
    split
    · exact .pure trivial
    · exact (Markup.ensures_staticTexts options children h.2).bind fun _ _ => .pure trivial
  | .component .., _ => .pure trivial
  | .fragment .., _ => .pure trivial
  | .text _, _ => .pure trivial
  | .hole .., _ => .pure trivial

theorem Markup.ensures_staticTexts (options : Options) : (nodes : List Markup) →
    Markup.allPlaced source nodes = true →
    Ensures (Notice.IsPlaced source) (fun _ => True) (Markup.staticTexts options nodes)
  | [], _ => .pure trivial
  | node :: rest, h => by
    simp only [Markup.allPlaced, Bool.and_eq_true] at h
    exact (node.ensures_staticText options h.1).bind fun _ _ =>
      (Markup.ensures_staticTexts options rest h.2).bind fun _ _ => .pure trivial

end

/-! ### Markup -/

/-- A property of code that also goes up to the copy of a placed expression, from the code in place
    of its markup. -/
structure Code.HereditaryIn (source : List Char) (options : Options) (P : Code → Prop)
    (T : TagName → Prop := fun _ => True) : Prop extends Code.Hereditary P T where
  copy : ∀ e : Expr, e.isPlaced source = true → (∀ p ∈ (e.patches options).value, P p.2) →
    P (.copy e (e.patches options).value)

/-- A result of a placed tree, whose components have tags that satisfy `T`, satisfies a property,
    and what is reported is at places of the source. -/
def Emit.WhenPlaced {α : Type} (source : List Char) (T : TagName → Prop) (isPlaced : Bool)
    (tags : List TagName) (Q : α → Prop) (x : Emit α) : Prop :=
  isPlaced = true → (∀ tag ∈ tags, T tag) → Ensures (Notice.IsPlaced source) Q x

namespace Emit.WhenPlaced

variable {α β γ : Type} {T : TagName → Prop} {p q : Bool} {ts us : List TagName} {Q : α → Prop}
  {R : β → Prop} {S : γ → Prop}

/-- A value alone, whatever tree it is from. -/
theorem pure {a : α} (h : Q a) : WhenPlaced source T p ts Q (Pure.pure a : Emit α) :=
  fun _ _ => Ensures.pure h

/-- The value put into something. -/
theorem map {x : Emit α} {f : α → β} (hx : WhenPlaced source T p ts Q x)
    (hf : ∀ a, Q a → R (f a)) : WhenPlaced source T p ts R (x.map f) :=
  fun h htags => (hx h htags).map hf

/-- A step that ensures the property after one that does. -/
theorem bind {x : Emit α} {f : α → Emit β} (hx : WhenPlaced source T p ts Q x)
    (hf : ∀ a, Q a → Ensures (Notice.IsPlaced source) R (f a)) :
    WhenPlaced source T p ts R (x >>= f) :=
  fun h htags => (hx h htags).bind hf

/-- Of two trees side by side, both are placed, and the components are those of both. -/
theorem both {x : Emit α} {y : Emit β} {f : α → β → γ} (hx : WhenPlaced source T p ts Q x)
    (hy : WhenPlaced source T q us R y) (hf : ∀ a b, Q a → R b → S (f a b)) :
    WhenPlaced source T (p && q) (ts ++ us) S (Emit.both f x y) := by
  intro h htags
  rw [Bool.and_eq_true] at h
  rw [List.forall_mem_append] at htags
  exact (hx h.1 htags.1).both (hy h.2 htags.2) hf

end Emit.WhenPlaced

section

variable {options : Options} {P : Code → Prop} {T : TagName → Prop}

/-- The results of placed trees satisfy a property of code, wherever there is code in them. -/
def Traversal.holds (source : List Char) (P : Code → Prop) (T : TagName → Prop) : Traversal where
  patches e := WhenPlaced source T (e.isPlaced source) e.components fun ps => ∀ p ∈ ps, P p.2
  part part :=
    WhenPlaced source T (part.isPlaced source) part.components fun ps => ∀ p ∈ ps, P p.2
  parts parts := WhenPlaced source T (Part.allPlaced source parts) (Part.componentsOf parts)
    fun ps => ∀ p ∈ ps, P p.2
  element span tag types attributes children := WhenPlaced source T
    ((Markup.element span tag types attributes children).isPlaced source)
    (Markup.element span tag types attributes children).components (Template.All P)
  call span tag types attributes children := WhenPlaced source T
    ((Markup.component span tag types attributes children).isPlaced source)
    (Markup.component span tag types attributes children).components P
  value node := WhenPlaced source T (node.isPlaced source) node.components P
  template node := WhenPlaced source T (node.isPlaced source) node.components (Template.All P)
  templates nodes := WhenPlaced source T (Markup.allPlaced source nodes)
    (Markup.componentsOf nodes) (Template.All P)
  leaves node := WhenPlaced source T (node.isPlaced source) node.components
    fun ls => ∀ leaf ∈ ls, P leaf.code
  leavesOf nodes := WhenPlaced source T (Markup.allPlaced source nodes) (Markup.componentsOf nodes)
    fun ls => ∀ leaf ∈ ls, P leaf.code
  setting a := WhenPlaced source T (a.isPlaced source) a.components (Template.All P)
  settings attributes := WhenPlaced source T (Attribute.allPlaced source attributes)
    (Attribute.componentsOf attributes) (Template.All P)
  props _ a := WhenPlaced source T (a.isPlaced source) a.components
    fun items => ∀ item ∈ items, item.Holds P
  propsOf _ attributes := WhenPlaced source T (Attribute.allPlaced source attributes)
    (Attribute.componentsOf attributes) fun items => ∀ item ∈ items, item.Holds P
  code value := WhenPlaced source T (value.isPlaced source) value.components P

/-- A copied expression has the property if the code in place of its markup does. -/
theorem Expr.holds_copy (hP : Code.HereditaryIn source options P T) {e : Expr}
    (h : (Traversal.holds source P T).patches e (e.patches options)) :
    WhenPlaced source T (e.isPlaced source) e.components (fun ps => P (.copy e ps))
      (e.patches options) :=
  fun hplaced htags =>
    ⟨hP.copy e hplaced (h hplaced htags).1, (h hplaced htags).2⟩

/-- A hereditary property goes up through each step. -/
theorem Traversal.closed_holds (hP : Code.HereditaryIn source options P T) :
    (holds source P T).Closed options where
  name _ _ := .pure (by simp)
  paren hx := by
    intro h htags
    rw [Expr.isPlaced, Bool.and_eq_true] at h
    exact hx h.2 htags
  markup {span node x} hx := by
    intro h htags
    rw [Expr.isPlaced, Bool.and_eq_true] at h
    exact (hx h.2 htags).map (by simp)
  compound hx := by
    intro h htags
    rw [Expr.isPlaced, Bool.and_eq_true] at h
    exact hx h.2 htags
  partName _ _ := .pure (by simp)
  partExpr hx := hx
  partSpread hx := hx
  partFunction hx := hx
  partsNil := .pure (by simp)
  partsCons hx hy := hx.both hy fun _ _ hps hqs => List.forall_mem_append.2 ⟨hps, hqs⟩
  -- the span of a tag is where notices about it point, so it has to be placed
  element {span tag types attributes children inTag content} hinTag hcontent := by
    intro h htags
    simp only [Markup.isPlaced, Bool.and_eq_true] at h
    simp only [Markup.components, List.forall_mem_append] at htags
    exact ensures_elementTemplate (Span.isPlaced_notice h.1.1) tag attributes
      (hinTag h.1.2 htags.1.2) (hcontent h.2 htags.2)
  call {span tag types attributes children props leaves} hprops hleaves := by
    intro h htags
    simp only [Markup.isPlaced, Bool.and_eq_true] at h
    simp only [Markup.components, List.forall_mem_cons, List.forall_mem_append] at htags
    exact ensures_componentCall hP.toHereditary (Span.isPlaced_notice h.1.1) htags.1 attributes
      children (hprops h.1.2 htags.2.1.2) (hleaves h.2 htags.2.2)
  valueElement hx := hx.bind fun _ => ensures_inTemplate hP.toHereditary
  valueComponent hx := hx.bind fun _ hcall =>
    ensures_inTemplate hP.toHereditary (Template.all_hole hcall)
  valueFragment hx := hx.bind fun _ => ensures_fragmentValue hP.toHereditary
  valueText _ := .pure (hP.toHereditary.string _)
  valueHole hx := (Expr.holds_copy hP hx).map fun _ hcopy => hcopy
  -- a static element holds no code at all: only its notices are asked about
  templateStatic {span tag types attributes children} _ := fun h _ =>
    (Markup.ensures_staticText options (.element span tag types attributes children) h).map
      fun _ _ => Template.all_text _
  templateElement _ hx := hx
  templateComponent hx := hx.map fun _ => Template.all_hole
  templateFragment hx := hx
  templateText raw := by
    refine WhenPlaced.pure ?_
    split
    · exact Template.all_text _
    · exact Template.all_empty
  templateHole hx := (Expr.holds_copy hP hx).map fun _ => Template.all_hole
  templatesNil := .pure Template.all_empty
  templatesCons hx hy := hx.both hy fun _ _ ht hu => ht.append hu
  leavesElement hx :=
    (hx.bind fun _ => ensures_inTemplate hP.toHereditary).map (by simp [Leaf.plain])
  leavesComponent hx := hx.map (by simp)
  leavesFragment hx := hx
  leavesText raw := by
    refine WhenPlaced.pure ?_
    split
    · simp
    · simpa [Leaf.plain] using hP.toHereditary.string _
  -- the copied expression may get parentheses first, and points in front after that
  leavesHole {isSpread value} hx := by
    refine (Expr.holds_copy hP hx).map fun patches hcopy leaf hleaf => ?_
    have hoperand := holds_operand hP.toHereditary value hcopy
    rw [List.mem_singleton.1 hleaf]
    cases isSpread with
    | true => exact hP.toHereditary.spread hoperand
    | false => exact hoperand
  leavesNil := .pure (by simp)
  leavesCons hx hy := hx.both hy fun _ _ hs ht => List.forall_mem_append.2 ⟨hs, ht⟩
  settingNamed {name value x} hx :=
    hx.bind fun _ => ensures_attributeTemplate hP.toHereditary name value
  settingSpread hx := ((Expr.holds_copy hP hx).bind fun _ hcopy =>
    ensures_callHelper hP.toHereditary (by simpa using hcopy)).map fun _ => all_directive
  settingsNil := .pure Template.all_empty
  settingsCons hx hy := hx.both hy fun _ _ ht hu => ht.append hu
  propsOverridden _ := .pure (by simp)
  propsNamed _ hx := hx.map (by simp [PropItem.Holds])
  propsSpread hx := (Expr.holds_copy hP hx).map (by simp [PropItem.Holds])
  propsNil _ := .pure (by simp)
  propsCons hx hy := hx.both hy fun _ _ hs ht => List.forall_mem_append.2 ⟨hs, ht⟩
  codeLiteral _ := .pure (hP.toHereditary.string _)
  codeBare := .pure hP.toHereditary.flag
  codeExpr {value} hx := (Expr.holds_copy hP hx).map fun _ => holds_operand hP.toHereditary value
  codeMarkup hx := hx

/-- **Compiled markup has each hereditary property** if the tags of its components are as the
    property asks, and what is reported about it is at places of the source. -/
theorem Markup.holds_value_of_hold (hP : Code.HereditaryIn source options P T) (node : Markup)
    (h : node.isPlaced source = true) (htags : node.Hold T) :
    Ensures (Notice.IsPlaced source) P (node.value options) :=
  (Traversal.closed_holds hP).holds_value node h htags

/-- The same for a property that asks nothing of tags. -/
theorem Markup.holds_value (hP : Code.HereditaryIn source options P) (node : Markup)
    (h : node.isPlaced source = true) : Ensures (Notice.IsPlaced source) P (node.value options) :=
  node.holds_value_of_hold hP h fun _ _ => trivial

end

/-! ### Copied expressions -/

/-- The spans of patches are those of the outermost markup. -/
theorem Expr.map_fst_patches (e : Expr) (options : Options) :
    (e.patches options).value.map Prod.fst = e.outermost.map Prod.fst := by
  rw [Expr.patches_eq, value_mapM, List.map_map]
  rfl

/-- The code in place of the markup of a placed expression can be exchanged piece by piece. -/
theorem Expr.fitIn_patches {e : Expr} (h : e.isPlaced source = true) (options : Options) :
    Span.FitIn source e.span ((e.patches options).value.map Prod.fst) := by
  rw [e.map_fst_patches]
  exact e.fitIn_outermost h

/-- Having a text goes up to the copy of a placed expression. -/
theorem Code.renders_hereditaryIn (bindings : Bindings) (source : List Char) (options : Options) :
    HereditaryIn source options (Renders bindings source) where
  toHereditary := renders_hereditary
  copy := by
    intro e he h
    obtain ⟨rs, hrs, hall⟩ := exists_renderPatches h
    -- the spans of the replacements are those of the markup, which fit into the expression
    have hfit : Span.FitIn source e.span (rs.map Replacement.span) := by
      rw [map_span_eq hall]
      exact Expr.fitIn_patches he options
    obtain ⟨text, -, hsplice⟩ := splice_eq_exchanged (e.on_span he) hfit
    exact ⟨_, by rw [render, hrs]; exact hsplice⟩

/-- **Placed markup has a text.** The code of markup that lies in the source renders, and what is
    reported about it is at places of the source. -/
theorem Markup.ensures_value {bindings : Bindings} (options : Options) (node : Markup)
    (h : node.isPlaced source = true) :
    Ensures (Notice.IsPlaced source) (Code.Renders bindings source) (node.value options) :=
  Markup.holds_value (Code.renders_hereditaryIn bindings source options) node h

end JsxTemplate
