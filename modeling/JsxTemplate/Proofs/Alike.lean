import JsxTemplate.Proofs.Rendering
import JsxTemplate.Proofs.Templates

namespace JsxTemplate

/-!
# Code with the same text

Two pieces of code may be built in different ways and still be written alike. Every step that puts
code in its place keeps this: from parts that are written alike it makes wholes that are written
alike.

* `Code.Alike source` — two pieces of code have the same text, whatever the helpers are called.
  `Template.Alike`, `Leaf.Alike`, `PropItem.Alike` — this for what code is put into.
* `Emit.Same R` — two computations have the same log, and their values are related by `R`.
* `same_elementTemplate`, `same_componentCall` and the like — one lemma for each step of
  `Compile/Placement`.
-/

open Text

/-- Loops over related values find the same if related values give the same. -/
theorem mapM_eq_of_forall₂ {α β γ : Type} {f : α → Option γ} {g : β → Option γ} {as : List α}
    {bs : List β} (h : List.Forall₂ (fun a b => f a = g b) as bs) : as.mapM f = bs.mapM g := by
  induction h with
  | nil => rfl
  | cons hab _ ih => rw [List.mapM_cons, List.mapM_cons, hab, ih]

/-! ### Two computations -/

/-- The values of two computations are related, and their logs are the same. -/
structure Emit.Same {α β : Type} (R : α → β → Prop) (x : Emit α) (y : Emit β) : Prop where
  value : R x.value y.value
  notices : x.notices = y.notices
  needs : x.needs = y.needs

namespace Emit.Same

variable {α β γ δ : Type} {R : α → β → Prop} {S : γ → δ → Prop}

/-- Values that are related, with nothing logged. -/
theorem pure {a : α} {b : β} (h : R a b) : Same R (Pure.pure a) (Pure.pure b) :=
  ⟨h, rfl, rfl⟩

/-- A result is the same as itself if each value is related to itself. -/
theorem refl {R : α → α → Prop} (hrefl : ∀ a, R a a) (x : Emit α) : Same R x x :=
  ⟨hrefl _, rfl, rfl⟩

/-- Two steps go on alike if they start alike and the rest is alike on related values. -/
theorem bind {x : Emit α} {y : Emit β} {f : α → Emit γ} {g : β → Emit δ} (hx : Same R x y)
    (hf : ∀ a b, R a b → Same S (f a) (g b)) : Same S (x >>= f) (y >>= g) where
  value := (hf _ _ hx.value).value
  notices := by
    rw [Emit.notices_bind, Emit.notices_bind, hx.notices, (hf _ _ hx.value).notices]
  needs := by
    rw [Emit.needs_bind, Emit.needs_bind, hx.needs, (hf _ _ hx.value).needs]

end Emit.Same

/-! ### Code -/

section

variable (source : List Char)

/-- Two pieces of code have the same text, whatever the helpers are called. If one of them has no
    text, neither has the other. -/
def Code.Alike (c d : Code) : Prop :=
  ∀ bindings, c.render bindings source = d.render bindings source

/-- Code that stands in the same place and is written alike. -/
structure Code.AlikeAt {α : Type} (p q : α × Code) : Prop where
  place : p.1 = q.1
  code : p.2.Alike source q.2

/-- Properties with the same key, both getters or both not, whose values are written alike. -/
structure Entry.Alike (e f : Entry Code) : Prop where
  key : e.key = f.key
  value : e.value.Alike source f.value
  isGetter : e.isGetter = f.isGetter

/-- Templates with the same text around holes that are written alike. -/
structure Template.Alike (t u : Template Code) : Prop where
  holes : List.Forall₂ (Code.AlikeAt source) t.holes u.holes
  tail : t.tail = u.tail

/-- Values of a list that are placed the same way and written alike. -/
structure Leaf.Alike (l m : Leaf) : Prop where
  code : l.code.Alike source m.code
  isSpread : l.isSpread = m.isSpread
  isCall : l.isCall = m.isCall

/-- Items that are both properties or both sources, and written alike. -/
inductive PropItem.Alike : PropItem → PropItem → Prop
  | entry {e f : Entry Code} (h : e.Alike source f) : Alike (.entry e) (.entry f)
  | source {c d : Code} (h : c.Alike source d) : Alike (.source c) (.source d)

end

variable {source : List Char}

namespace Code.Alike

variable {c d : Code}

/-- Code is alike to itself. -/
theorem refl (c : Code) : c.Alike source c := fun _ => rfl

/-- Parentheses around code that is alike. -/
theorem paren (h : c.Alike source d) : (Code.paren c).Alike source (.paren d) := by
  intro bindings
  rw [render, render, h bindings]

/-- Code that is alike, spread. -/
theorem spread (h : c.Alike source d) : (Code.spread c).Alike source (.spread d) := by
  intro bindings
  rw [render, render, h bindings]

/-- Arrays of items that are alike. -/
theorem array {cs ds : List Code} (h : List.Forall₂ (Code.Alike source) cs ds) :
    (Code.array cs).Alike source (.array ds) := by
  intro bindings
  have htexts : renderAll bindings source cs = renderAll bindings source ds := by
    rw [renderAll_eq, renderAll_eq]
    exact mapM_eq_of_forall₂ (h.imp fun a b hab => hab bindings)
  rw [render, render, htexts]

/-- Calls of one helper with arguments that are alike. -/
theorem call (helper : Helper) {cs ds : List Code} (h : List.Forall₂ (Code.Alike source) cs ds) :
    (Code.call helper cs).Alike source (.call helper ds) := by
  intro bindings
  have htexts : renderAll bindings source cs = renderAll bindings source ds := by
    rw [renderAll_eq, renderAll_eq]
    exact mapM_eq_of_forall₂ (h.imp fun a b hab => hab bindings)
  rw [render, render, htexts]

/-- Objects of entries that are alike. -/
theorem object {es fs : List (Entry Code)} (h : List.Forall₂ (Entry.Alike source) es fs) :
    (Code.object es).Alike source (.object fs) := by
  intro bindings
  have hentries : renderEntries bindings source es = renderEntries bindings source fs := by
    rw [renderEntries_eq, renderEntries_eq]
    refine mapM_eq_of_forall₂ (h.imp fun e f hef => ?_)
    rw [hef.key, hef.value bindings, hef.isGetter]
  rw [render, render, hentries]

/-- Templates that are alike, as code. -/
theorem template {t u : Template Code} (h : t.Alike source u) :
    (Code.template t).Alike source (.template u) := by
  obtain ⟨ts, tail⟩ := t
  obtain ⟨us, tail'⟩ := u
  obtain ⟨hholes, rfl⟩ : List.Forall₂ (Code.AlikeAt source) ts us ∧ tail = tail' :=
    ⟨h.holes, h.tail⟩
  intro bindings
  -- holes at the same places with the same texts in them are rendered to the same texts
  have htexts : renderHoles bindings source ts = renderHoles bindings source us := by
    rw [renderHoles_eq, renderHoles_eq]
    refine mapM_eq_of_forall₂ (hholes.imp fun a b hab => ?_)
    rw [hab.place, hab.code bindings]
  rw [render, render, htexts]

/-- Copies of the same stretch of the source are written alike if what is put into them is. -/
theorem copy {e e' : Expr} {ps qs : List (Span × Code)} (hspan : e.span = e'.span)
    (h : List.Forall₂ (Code.AlikeAt source) ps qs) :
    (Code.copy e ps).Alike source (.copy e' qs) := by
  intro bindings
  have hpatches : renderPatches bindings source ps = renderPatches bindings source qs := by
    rw [renderPatches_eq, renderPatches_eq]
    refine mapM_eq_of_forall₂ (h.imp fun a b hab => ?_)
    rw [hab.place, hab.code bindings]
  rw [render, render, hspan, hpatches]

end Code.Alike

/-- Operands that both need parentheses or both do not. -/
theorem alike_operand {e e' : Expr} (hcomma : e.isSequence = e'.isSequence) {c d : Code}
    (h : c.Alike source d) : (operand e c).Alike source (operand e' d) := by
  unfold operand
  rw [hcomma]
  split
  · exact h.paren
  · exact h

/-! ### Templates -/

namespace Template.Alike

/-- Text is alike to itself. -/
theorem text (cs : List Char) : Template.Alike source (.text cs) (.text cs) := ⟨.nil, rfl⟩

theorem empty : Template.Alike source .empty .empty := ⟨.nil, rfl⟩

/-- Holes for code that is alike. -/
theorem hole {c d : Code} (h : c.Alike source d) :
    Template.Alike source (.hole c) (.hole d) :=
  ⟨.cons ⟨rfl, h⟩ .nil, rfl⟩

/-- A template is alike to itself. -/
theorem refl (t : Template Code) : t.Alike source t :=
  ⟨List.forall₂_same.2 fun h _ => ⟨rfl, .refl h.2⟩, rfl⟩

/-- Templates in a row are alike if they are one by one. -/
theorem append {t t' u u' : Template Code} (ht : t.Alike source t') (hu : u.Alike source u') :
    (t ++ u).Alike source (t' ++ u') := by
  obtain ⟨us, tail⟩ := u
  obtain ⟨us', tail'⟩ := u'
  obtain ⟨hholes, rfl⟩ : List.Forall₂ (Code.AlikeAt source) us us' ∧ tail = tail' :=
    ⟨hu.holes, hu.tail⟩
  cases hholes with
  | nil => exact ⟨ht.holes, by simp only [Template.append_nil_holes, ht.tail]⟩
  | cons hhole hrest =>
    -- the text at the end of the first template goes to the first hole of the second
    refine ⟨List.rel_append ht.holes (.cons ⟨?_, hhole.code⟩ hrest), rfl⟩
    rw [ht.tail, hhole.place]

end Template.Alike

/-- Templates that are alike, with the tag of templates noted on both sides. -/
theorem same_inTemplate {t u : Template Code} (h : t.Alike source u) :
    Emit.Same (Code.Alike source) (inTemplate t) (inTemplate u) :=
  ⟨.template h, rfl, rfl⟩

/-- Calls of one helper with arguments that are alike, with the helper noted on both sides. -/
theorem same_callHelper (helper : Helper) {cs ds : List Code}
    (h : List.Forall₂ (Code.Alike source) cs ds) :
    Emit.Same (Code.Alike source) (callHelper helper cs) (callHelper helper ds) :=
  ⟨.call helper h, rfl, rfl⟩

/-- Attributes of one name with values that are alike in their holes. -/
theorem alike_boundAttribute (name : String) {c d : Code} (h : c.Alike source d) :
    (boundAttribute name c).Alike source (boundAttribute name d) :=
  (Template.Alike.text _).append (.hole h)

/-- Holes in a tag. -/
theorem alike_directive {c d : Code} (h : c.Alike source d) :
    (directive c).Alike source (directive d) :=
  (Template.Alike.text _).append (.hole h)

/-! ### Attributes -/

/-- Values of an attribute that are treated the same way: both are the same text or none is a text,
    and both go through a helper or none does. -/
structure AttributeValue.Matches (value value' : AttributeValue) : Prop where
  literal : ∀ text, value = .literal text ↔ value' = .literal text
  isWrappable : value.isWrappable = value'.isWrappable

/-- A value matches itself. -/
theorem AttributeValue.Matches.refl (value : AttributeValue) : value.Matches value :=
  ⟨fun _ => Iff.rfl, rfl⟩

section

variable {value value' : AttributeValue} {c d : Code}

/-- Values that are no literals match if they are both wrapped or both not. -/
theorem AttributeValue.Matches.of_ne (h : ∀ text, value ≠ .literal text)
    (h' : ∀ text, value' ≠ .literal text) (hwrappable : value.isWrappable = value'.isWrappable) :
    value.Matches value' :=
  ⟨fun text => ⟨fun heq => absurd heq (h text), fun heq => absurd heq (h' text)⟩, hwrappable⟩

/-- Attributes that are written as text if their values are literals. -/
theorem alike_plainAttribute (name : String) (hvalue : value.Matches value')
    (h : c.Alike source d) :
    (plainAttribute name value c).Alike source (plainAttribute name value' d) := by
  -- a literal is written as text, without the code; anything else is bound to the code
  by_cases hliteral : ∃ text, value = .literal text
  · obtain ⟨text, rfl⟩ := hliteral
    obtain rfl := (hvalue.literal text).1 rfl
    exact .text _
  · have hbound : plainAttribute name value c = boundAttribute name c := by
      unfold plainAttribute
      split
      next text => exact absurd ⟨text, rfl⟩ hliteral
      next => rfl
    have hbound' : plainAttribute name value' d = boundAttribute name d := by
      unfold plainAttribute
      split
      next text => exact absurd ⟨text, (hvalue.literal text).2 rfl⟩ hliteral
      next => rfl
    rw [hbound, hbound']
    exact alike_boundAttribute name h

/-- Attributes whose values go through a helper unless they are literals. -/
theorem same_mappedAttribute (helper : Helper) (name : String) (hvalue : value.Matches value')
    (h : c.Alike source d) :
    Emit.Same (Template.Alike source) (mappedAttribute helper name value c)
      (mappedAttribute helper name value' d) := by
  unfold mappedAttribute
  rw [hvalue.isWrappable]
  split
  · exact (same_callHelper helper (.cons h .nil)).bind fun _ _ hcall =>
      .pure (alike_boundAttribute name hcall)
  · exact .pure (alike_plainAttribute name hvalue h)

/-- Attributes of one name, whichever of the eight ways they are written in. The name alone decides
    which one it is. -/
theorem same_attributeTemplate (name : String) (hvalue : value.Matches value')
    (h : c.Alike source d) :
    Emit.Same (Template.Alike source) (attributeTemplate name value c)
      (attributeTemplate name value' d) := by
  unfold attributeTemplate
  cases AttributeKind.of name with
  | ref =>
    exact (same_callHelper .ref (.cons h .nil)).bind fun _ _ hcall => .pure (alike_directive hcall)
  | style => exact same_mappedAttribute .styleMap _ hvalue h
  | classMap => exact same_mappedAttribute .classMap _ hvalue h
  | event event => exact .pure (alike_boundAttribute _ h)
  | property property => exact .pure (alike_boundAttribute _ h)
  | boolean flag => exact .pure (alike_boundAttribute _ h)
  | namespaced name => exact .pure (alike_boundAttribute _ h)
  | plain name => exact .pure (alike_plainAttribute _ hvalue h)

end

/-! ### Elements -/

section

variable {attributes attributes' : List Attribute}
  (hnames : attributes.filterMap Attribute.name? = attributes'.filterMap Attribute.name?)

include hnames

/-- What is reported about classes depends on the names of the attributes. -/
theorem reportClasses_congr (span : Span) (tag : TagName) :
    reportClasses span tag attributes = reportClasses span tag attributes' := by
  unfold reportClasses hasClassConflict
  rw [hnames]

/-- So does what is reported about content. -/
theorem reportChildren_congr (span : Span) (tag : TagName) (hasContent : Bool) :
    reportChildren span tag attributes hasContent =
      reportChildren span tag attributes' hasContent := by
  unfold reportChildren hasChildrenAttribute
  rw [hnames]

/-- Elements of one tag around attributes and content that are the same. -/
theorem same_elementTemplate (span : Span) (tag : TagName)
    {inTag inTag' content content' : Emit (Template Code)}
    (hinTag : Emit.Same (Template.Alike source) inTag inTag')
    (hcontent : Emit.Same (Template.Alike source) content content') :
    Emit.Same (Template.Alike source) (elementTemplate span tag attributes inTag content)
      (elementTemplate span tag attributes' inTag' content') := by
  unfold elementTemplate
  rw [reportClasses_congr hnames]
  refine (Emit.Same.refl (fun _ => rfl) _).bind fun _ _ _ => hinTag.bind fun t u htu => ?_
  -- both elements open alike; a void one is closed at once, the other after its content
  have hopening : Template.Alike source (.text ('<' :: tag.text.toList) ++ t)
      (.text ('<' :: tag.text.toList) ++ u) := (Template.Alike.text _).append htu
  split
  · exact .pure (hopening.append (.text _))
  · exact hcontent.bind fun v w hvw =>
      .pure (((hopening.append (.text _)).append hvw).append (.text _))

end

/-! ### Lists of values -/

/-- Values that stand alone. -/
theorem Leaf.alike_alone {l m : Leaf} (h : l.Alike source m) : l.alone.Alike source m.alone := by
  unfold Leaf.alone
  rw [h.isSpread]
  split
  · exact .array (.cons h.code .nil)
  · exact h.code

/-- The code of values that are alike, one by one. -/
theorem Leaf.alike_codes {ls ms : List Leaf} (h : List.Forall₂ (Leaf.Alike source) ls ms) :
    List.Forall₂ (Code.Alike source) (ls.map Leaf.code) (ms.map Leaf.code) := by
  rw [List.forall₂_map_left_iff, List.forall₂_map_right_iff]
  exact h.imp fun _ _ hleaf => hleaf.code

/-- Values of fragments. The lists have the same length, so they are put together in the same way.
    -/
theorem same_fragmentValue {ls ms : List Leaf} (h : List.Forall₂ (Leaf.Alike source) ls ms) :
    Emit.Same (Code.Alike source) (fragmentValue ls) (fragmentValue ms) := by
  cases h with
  | nil => exact same_inTemplate .empty
  | cons hleaf hrest =>
    cases hrest with
    | nil => exact same_inTemplate (.hole (Leaf.alike_alone hleaf))
    | cons hsecond hmore =>
      exact .pure (.array (Leaf.alike_codes (.cons hleaf (.cons hsecond hmore))))

/-- The content of components, if there is any. -/
theorem same_childrenValue {ls ms : List Leaf} (h : List.Forall₂ (Leaf.Alike source) ls ms) :
    Emit.Same (Option.Rel (Code.Alike source)) (childrenValue ls) (childrenValue ms) := by
  cases h with
  | nil => exact .pure .none
  | @cons leaf leaf' rest rest' hleaf hrest =>
    cases hrest with
    | nil =>
      unfold childrenValue
      dsimp only
      -- a call alone is put in a template, and alike leaves are calls together
      rw [hleaf.isCall]
      split
      · exact (same_inTemplate (.hole hleaf.code)).bind fun _ _ hcode => .pure (.some hcode)
      · exact .pure (.some (Leaf.alike_alone hleaf))
    | cons hsecond hmore =>
      exact .pure (.some (.array (Leaf.alike_codes (.cons hleaf (.cons hsecond hmore)))))

/-! ### Components -/

namespace PropItem.Alike

variable {items items' : List PropItem}

/-- Properties that are alike hold something spread in both lists or in none. -/
theorem any_isSource_eq (h : List.Forall₂ (PropItem.Alike source) items items') :
    items.any PropItem.isSource = items'.any PropItem.isSource := by
  induction h with
  | nil => rfl
  | cons hitem _ ih =>
    rw [List.any_cons, List.any_cons, ih]
    cases hitem <;> rfl

/-- The entries among properties that are alike. -/
theorem filterMap_entry? (h : List.Forall₂ (PropItem.Alike source) items items') :
    List.Forall₂ (Entry.Alike source) (items.filterMap PropItem.entry?)
      (items'.filterMap PropItem.entry?) := by
  induction h with
  | nil => exact .nil
  | cons hitem _ ih =>
    cases hitem with
    | entry hentry => exact .cons hentry ih
    | source hcode => exact ih

/-- What is waiting becomes an object on both sides or on none. -/
theorem flush {waiting waiting' : List (Entry Code)}
    (h : List.Forall₂ (Entry.Alike source) waiting waiting') :
    List.Forall₂ (Code.Alike source) (if waiting.isEmpty then [] else [Code.object waiting])
      (if waiting'.isEmpty then [] else [Code.object waiting']) := by
  cases h with
  | nil => exact .nil
  | cons hentry hrest => exact .cons (.object (.cons hentry hrest)) .nil

/-- The arguments that join properties. Entries that wait are alike on both sides. -/
theorem arguments (h : List.Forall₂ (PropItem.Alike source) items items')
    {waiting waiting' : List (Entry Code)}
    (hwaiting : List.Forall₂ (Entry.Alike source) waiting waiting') :
    List.Forall₂ (Code.Alike source) (PropItem.arguments waiting items)
      (PropItem.arguments waiting' items') := by
  induction h generalizing waiting waiting' with
  | nil => exact flush hwaiting
  | cons hitem _ ih =>
    cases hitem with
    | entry hentry => exact ih (List.rel_append hwaiting (.cons hentry .nil))
    | source hcode => exact List.rel_append (flush hwaiting) (.cons hcode (ih .nil))

end PropItem.Alike

/-- Unless all is one value that is spread, properties are joined by a call or are one object. -/
theorem propsValue_of_not_lone {items : List PropItem} (h : ¬∃ code, items = [.source code]) :
    propsValue items =
      if items.any PropItem.isSource then callHelper .mergeProps (PropItem.arguments [] items)
      else return .object (items.filterMap PropItem.entry?) := by
  unfold propsValue
  split
  next code => exact absurd ⟨code, rfl⟩ h
  next => rfl

/-- The arguments of components. -/
theorem same_propsValue {items items' : List PropItem}
    (h : List.Forall₂ (PropItem.Alike source) items items') :
    Emit.Same (Code.Alike source) (propsValue items) (propsValue items') := by
  -- a lone source on one side is one on the other
  by_cases hlone : ∃ code, items = [.source code]
  · obtain ⟨code, rfl⟩ := hlone
    cases h with
    | cons hitem hrest =>
      cases hrest
      cases hitem with
      | source hcode => exact .pure hcode
  · have hlone' : ¬∃ code, items' = [.source code] := by
      rintro ⟨code, rfl⟩
      cases h with
      | cons hitem hrest =>
        cases hrest
        cases hitem with
        | source hcode => exact hlone ⟨_, rfl⟩
    rw [propsValue_of_not_lone hlone, propsValue_of_not_lone hlone',
      PropItem.Alike.any_isSource_eq h]
    split
    · exact same_callHelper .mergeProps (PropItem.Alike.arguments h .nil)
    · exact .pure (.object (PropItem.Alike.filterMap_entry? h))

/-- **Calls of one component are alike** if their properties and their content are, and both have
    content or none. -/
theorem same_componentCall (span : Span) (tag : TagName) {attributes attributes' : List Attribute}
    (hnames : attributes.filterMap Attribute.name? = attributes'.filterMap Attribute.name?)
    {children children' : List Markup}
    (hempty : (Markup.flattenAll children).isEmpty = (Markup.flattenAll children').isEmpty)
    (hgetter : childrenNeedGetter (Markup.flattenAll children) =
      childrenNeedGetter (Markup.flattenAll children'))
    {props props' : Emit (List PropItem)} {leaves leaves' : Emit (List Leaf)}
    (hprops : Emit.Same (List.Forall₂ (PropItem.Alike source)) props props')
    (hleaves : Emit.Same (List.Forall₂ (Leaf.Alike source)) leaves leaves') :
    Emit.Same (Code.Alike source) (componentCall span tag attributes children props leaves)
      (componentCall span tag attributes' children' props' leaves') := by
  unfold componentCall
  dsimp only
  -- what is reported and whether there is content do not depend on the codes, so they go first
  rw [reportClasses_congr hnames, reportChildren_congr hnames, hempty, hgetter]
  refine (Emit.Same.refl (fun _ => rfl) _).bind fun _ _ _ => ?_
  refine (Emit.Same.refl (fun _ => rfl) _).bind fun _ _ _ => ?_
  refine hprops.bind fun items items' hitems => hleaves.bind fun ls ms hls => ?_
  refine (same_childrenValue hls).bind fun value value' hvalue => ?_
  refine (same_propsValue (List.rel_append hitems ?_)).bind fun c d hcd => ?_
  · cases hvalue with
    | none => exact .nil
    | some hcode => exact .cons (.entry ⟨rfl, hcode, rfl⟩) .nil
  · exact same_callHelper .component (.cons (.refl _) (.cons hcd .nil))

end JsxTemplate
