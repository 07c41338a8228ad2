import JsxTemplate.Proofs.Contents

namespace JsxTemplate

open Text

/-!
# Sound trees

Expressions are read one after another, so they lie in the text in their order. When several of them
become the parts of one, its span is a stretch of the text around them.

* `Expr.IsSound source P` — the expression lies in the text as a tree does, its components have the
  property `P`, and its outermost markup is tags that open with an angle bracket.
* `Expr.Within source P start stop es` — sound expressions in their order between two offsets.
* `Expr.Within.compound` — they are the parts of a sound expression.
* `Markup.isSound_ofTag` — an element of sound attributes and children is sound.
-/

/-! ### Sound trees -/

/-- What is shown of an expression that is read from a text. -/
structure Expr.IsSound (source : List Char) (P : TagName → Prop) (e : Expr) : Prop where
  placed : e.isPlaced source = true
  hold : e.Hold P
  opens : ∀ p ∈ e.outermost, p.1.opensTag source = true ∧ p.2.isTag = true

/-- What is shown of markup that is read from a text. -/
structure Markup.IsSound (source : List Char) (P : TagName → Prop) (node : Markup) : Prop where
  placed : node.isPlaced source = true
  hold : node.Hold P

/-- Sound expressions, one after another between two offsets. -/
structure Expr.Within (source : List Char) (P : TagName → Prop) (start stop : Nat)
    (es : List Expr) : Prop where
  sound : ∀ e ∈ es, e.IsSound source P
  start_le : ∀ e ∈ es, start ≤ e.span.start
  le_stop : ∀ e ∈ es, e.span.stop ≤ stop
  ordered : es.Pairwise fun e e' => e.span.stop ≤ e'.span.start

/-- What is shown of an attribute that is read from a text. -/
structure Attribute.IsSound (source : List Char) (P : TagName → Prop) (a : Attribute) : Prop where
  placed : a.isPlaced source = true
  hold : a.Hold P

/-- What is shown of the value of an attribute that is read from a text. -/
structure AttributeValue.IsSound (source : List Char) (P : TagName → Prop)
    (value : AttributeValue) : Prop where
  placed : value.isPlaced source = true
  hold : value.Hold P

variable {source : List Char} {P : TagName → Prop}

namespace Expr

/-- The span of a sound expression is a stretch of the text. -/
theorem IsSound.on {e : Expr} (h : e.IsSound source P) : e.span.On source := e.on_span h.placed

/-- A variable. -/
theorem isSound_name {span : Span} (h : span.On source) (text : String) :
    (Expr.name span text).IsSound source P where
  placed := Span.isOn_iff.2 h
  hold := Expr.hold_name span text
  opens := by simp [Expr.outermost]

/-- An expression in parentheses. -/
theorem IsSound.paren {inner : Expr} (h : inner.IsSound source P) {span : Span}
    (hspan : span.On source) (hwithin : inner.span.isWithin span = true) :
    (Expr.paren span inner).IsSound source P where
  placed := by rw [Expr.isPlaced, Span.isOn_iff.2 hspan, hwithin, h.placed]; rfl
  hold := h.hold
  opens := h.opens

/-- Markup where a value is meant. -/
theorem isSound_markup {span : Span} {node : Markup} (hspan : span.On source)
    (hlt : span.start < span.stop) (hopens : span.opensTag source = true)
    (htag : node.isTag = true) (hnode : node.IsSound source P) :
    (Expr.markup span node).IsSound source P where
  placed := by rw [Expr.isPlaced, Span.isOn_iff.2 hspan, decide_eq_true hlt, hnode.placed]; rfl
  hold := hnode.hold
  opens := by
    intro p hp
    rw [Expr.outermost, List.mem_singleton] at hp
    subst hp
    exact ⟨hopens, htag⟩

namespace Within

variable {s t s' t' : Nat} {es es' : List Expr}

/-- No expressions lie anywhere. -/
theorem nil : Within source P s t [] := ⟨by simp, by simp, by simp, .nil⟩

/-- One expression. -/
theorem singleton {e : Expr} (h : e.IsSound source P) (hs : s ≤ e.span.start)
    (ht : e.span.stop ≤ t) : Within source P s t [e] :=
  ⟨by simpa using h, by simpa using hs, by simpa using ht, List.pairwise_singleton _ _⟩

/-- The offsets may lie further apart. -/
theorem mono (h : Within source P s t es) (hs : s' ≤ s) (ht : t ≤ t') :
    Within source P s' t' es where
  sound := h.sound
  start_le e he := Nat.le_trans hs (h.start_le e he)
  le_stop e he := Nat.le_trans (h.le_stop e he) ht
  ordered := h.ordered

/-- Some of the expressions may be left out. -/
theorem sublist (h : Within source P s t es) (hes : es'.Sublist es) : Within source P s t es' where
  sound e he := h.sound e (hes.subset he)
  start_le e he := h.start_le e (hes.subset he)
  le_stop e he := h.le_stop e (hes.subset he)
  ordered := h.ordered.sublist hes

/-- Expressions that are read after others. -/
theorem append (h : Within source P s t es) (h' : Within source P s' t' es') (hs : s ≤ s')
    (hgap : t ≤ s') (ht : t ≤ t') : Within source P s t' (es ++ es') := by
  have hfirst := h.mono (Nat.le_refl s) ht
  have hsecond := h'.mono hs (Nat.le_refl t')
  refine ⟨?_, ?_, ?_, List.pairwise_append.2 ⟨h.ordered, h'.ordered, fun e he e' he' => ?_⟩⟩
  · exact List.forall_mem_append.2 ⟨hfirst.sound, hsecond.sound⟩
  · exact List.forall_mem_append.2 ⟨hfirst.start_le, hsecond.start_le⟩
  · exact List.forall_mem_append.2 ⟨hfirst.le_stop, hsecond.le_stop⟩
  · -- an expression of the first list and one of the second have the gap between them
    exact Nat.le_trans (h.le_stop e he) (Nat.le_trans hgap (h'.start_le e' he'))

/-- Where there is an expression, the offsets are in order. -/
theorem start_le_stop (h : Within source P s t es) (hes : es ≠ []) : s ≤ t := by
  obtain ⟨e, he⟩ := List.exists_mem_of_ne_nil es hes
  have hon := (h.sound e he).on.start_le_stop
  have hstart := h.start_le e he
  have hstop := h.le_stop e he
  omega

/-- The first expression may be where the counting starts. -/
theorem fromFirst {first : Expr} {more : List Expr} (h : Within source P s t (first :: more)) :
    Within source P first.span.start t (first :: more) where
  sound := h.sound
  start_le := by
    intro e he
    have hon := (h.sound first (by simp)).on.start_le_stop
    rcases List.mem_cons.1 he with rfl | he
    · exact Nat.le_refl _
    · have hle := List.rel_of_pairwise_cons h.ordered he
      omega
  le_stop := h.le_stop
  ordered := h.ordered

/-- The last expression may be where it ends. -/
theorem toLast {last : Expr} {front : List Expr} (h : Within source P s t (front ++ [last])) :
    Within source P s last.span.stop (front ++ [last]) where
  sound := h.sound
  start_le := h.start_le
  le_stop := by
    intro e he
    have hon := (h.sound last (by simp)).on.start_le_stop
    rcases List.mem_append.1 he with he | he
    · have hle := (List.pairwise_append.1 h.ordered).2.2 e he last (by simp)
      omega
    · rw [List.mem_singleton.1 he]
  ordered := h.ordered

/-- Expressions between the offsets of a span are the parts of an expression there. -/
theorem compound {span : Span} {parts : List Part}
    (h : Within source P span.start span.stop (exprs parts)) (hspan : span.On source)
    (form : Form) :
    (Expr.compound form span parts).IsSound source P := by
  rw [exprs_eq_exprsOf] at h
  refine ⟨?_, ?_, ?_⟩
  · -- the spans of the parts are inside of the whole and in order, so the expression is placed
    have hwithin : ∀ s ∈ Part.spansOf parts, s.isWithin span = true := by
      rw [Part.spansOf_eq, List.forall_mem_map]
      exact fun e he => Span.isWithin_iff.2 ⟨h.start_le e he, h.le_stop e he⟩
    have hapart : (Part.spansOf parts).Pairwise Span.Apart := by
      rw [Part.spansOf_eq, List.pairwise_map]
      exact h.ordered.imp Or.inl
    rw [Expr.isPlaced, Span.isOn_iff.2 hspan, List.all_eq_true.2 hwithin, decide_eq_true hapart,
      Part.allPlaced_of_exprsOf parts fun e he => (h.sound e he).placed]
    rfl
  · intro tag htag
    rw [Expr.components, Part.componentsOf_eq, List.mem_flatMap] at htag
    obtain ⟨e, he, htag⟩ := htag
    exact (h.sound e he).hold tag htag
  · intro p hp
    rw [Expr.outermost, Part.outermostOf_eq, List.mem_flatMap] at hp
    obtain ⟨e, he, hp⟩ := hp
    exact (h.sound e he).opens p hp

/-- Expressions from the first to the last of them are the parts of an expression. -/
theorem joined {parts : List Part} {first last : Expr} (h : Within source P s t (exprs parts))
    (hfirst : (exprs parts).head? = some first) (hlast : (exprs parts).getLast? = some last)
    (form : Form) :
    Within source P s t [.compound form ⟨first.span.start, last.span.stop⟩ parts] := by
  obtain ⟨more, hmore⟩ := List.head?_eq_some_iff.1 hfirst
  obtain ⟨front, hfront⟩ := List.getLast?_eq_some_iff.1 hlast
  have hmem : first ∈ exprs parts := by simp [hmore]
  have hmem' : last ∈ exprs parts := by simp [hfront]
  -- cutting at the first start and at the last stop loses no expression, since they are in order
  have hinner : Within source P first.span.start last.span.stop (exprs parts) := by
    rw [hmore] at h
    have hstart := h.fromFirst
    rw [← hmore, hfront] at hstart
    rw [hfront]
    exact hstart.toLast
  have hspan : (⟨first.span.start, last.span.stop⟩ : Span).On source :=
    ⟨hinner.start_le_stop (List.ne_nil_of_mem hmem), (h.sound first hmem).on.start_place,
      (h.sound last hmem').on.stop_place⟩
  exact .singleton (hinner.compound hspan form) (h.start_le first hmem) (h.le_stop last hmem')

end Within

end Expr

/-! ### Sound markup -/

/-- Pieces of markup are placed if each of them is. -/
theorem Markup.allPlaced_of_forall {nodes : List Markup}
    (h : ∀ node ∈ nodes, node.isPlaced source = true) : Markup.allPlaced source nodes = true := by
  induction nodes with
  | nil => rfl
  | cons node rest ih =>
    rw [List.forall_mem_cons] at h
    rw [Markup.allPlaced, h.1, ih h.2, Bool.and_self]

/-- Attributes are placed if each of them is. -/
theorem Attribute.allPlaced_of_forall {attributes : List Attribute}
    (h : ∀ a ∈ attributes, a.isPlaced source = true) :
    Attribute.allPlaced source attributes = true := by
  induction attributes with
  | nil => rfl
  | cons a rest ih =>
    rw [List.forall_mem_cons] at h
    rw [Attribute.allPlaced, h.1, ih h.2, Bool.and_self]

namespace Markup

/-- Text between tags. -/
theorem isSound_text (raw : String) : (Markup.text raw).IsSound source P :=
  ⟨rfl, Markup.hold_text raw⟩

/-- A value between tags. -/
theorem isSound_hole (isSpread : Bool) {value : Expr} (h : value.IsSound source P) :
    (Markup.hole isSpread value).IsSound source P :=
  ⟨h.placed, h.hold⟩

/-- A fragment of sound children. -/
theorem isSound_fragment {nodes : List Markup} (h : ∀ node ∈ nodes, node.IsSound source P) :
    (Markup.fragment nodes).IsSound source P where
  placed := Markup.allPlaced_of_forall fun node hnode => (h node hnode).placed
  hold := Markup.allHold_iff.2 fun node hnode => (h node hnode).hold

/-- Parts hold only components with the property if their expressions are sound. -/
theorem allHold_types {types : List Part} (h : ∀ e ∈ exprs types, e.IsSound source P) :
    Part.AllHold P types := by
  intro tag htag
  rw [Part.componentsOf_eq, ← exprs_eq_exprsOf, List.mem_flatMap] at htag
  obtain ⟨e, he, htag⟩ := htag
  exact (h e he).hold tag htag

/-- An element or a component, by its tag. -/
theorem isSound_ofTag {span : Span} (hspan : span.On source) {tag : TagName}
    (htag : tag.isComponent = true → P tag) {types : List Part}
    (htypes : ∀ e ∈ exprs types, e.IsSound source P) {attributes : List Attribute}
    (hattributes : ∀ a ∈ attributes, a.IsSound source P) {children : List Markup}
    (hchildren : ∀ node ∈ children, node.IsSound source P) :
    (Markup.ofTag span tag types attributes children).IsSound source P where
  placed := by
    have hattrs := Attribute.allPlaced_of_forall fun a ha => (hattributes a ha).placed
    have hnodes := Markup.allPlaced_of_forall fun node hnode => (hchildren node hnode).placed
    unfold Markup.ofTag
    -- a component and an element ask for the same spans
    split
    · rw [Markup.isPlaced, Span.isOn_iff.2 hspan, hattrs, hnodes]
      rfl
    · rw [Markup.isPlaced, Span.isOn_iff.2 hspan, hattrs, hnodes]
      rfl
  hold := Markup.hold_ofTag htag (allHold_types htypes)
    (Attribute.allHold_iff.2 fun a ha => (hattributes a ha).hold)
    (Markup.allHold_iff.2 fun node hnode => (hchildren node hnode).hold)

/-- An element is a tag, whatever its name. -/
theorem isTag_ofTag (span : Span) (tag : TagName) (types : List Part)
    (attributes : List Attribute) (children : List Markup) :
    (Markup.ofTag span tag types attributes children).isTag = true := by
  unfold Markup.ofTag
  split <;> rfl

end Markup

end JsxTemplate
