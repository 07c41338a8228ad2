import JsxTemplate.Analysis.Reads
import JsxTemplate.Grammar.Module
import JsxTemplate.Proofs.AttributeKinds
import JsxTemplate.Proofs.Getters
import Mathlib.Logic.Relation

namespace JsxTemplate

/-!
# What makes an expression read

An expression reads if there is a reason for it somewhere inside, in a place that is evaluated
together with the expression.

* `Phrase` — an expression, a piece of markup or an attribute; markup and expressions hold each
  other, so the places inside are of all three sorts.
* `Phrase.parts` — what is next inside, and evaluated at once. Functions are not entered, and
  neither are the type arguments of tags.
* `Phrase.IsRead` — the reasons: calls, property accesses, components, and the attributes that run
  a helper.
* `Phrase.reads_iff_step` — one step: a phrase reads if it is a reason or has a part that reads.
* `Phrase.reads_iff_reaches` — all steps: a phrase reads exactly if it reaches a reason.
-/

/-! ### Phrases -/

/-- A place in an expression. -/
inductive Phrase where
  | expr (e : Expr)
  | markup (node : Markup)
  | attr (a : Attribute)

/-- The expression that is evaluated with the construct to which a part belongs. -/
def Part.evaluated? : Part → Option Expr
  | .name _ _ => none
  | .expr value => some value
  | .spread value => some value
  | .function _ => none

/-- Whether the parts of an expression of this form are those of a function. -/
def Form.isFunction : Form → Bool
  | .arrow | .function => true
  | _ => false

namespace Phrase

/-- Whether evaluating a phrase reads something that may change. -/
def reads : Phrase → Bool
  | expr e => e.reads
  | markup node => node.reads
  | attr a => a.reads

@[simp] theorem reads_expr (e : Expr) : (expr e).reads = e.reads := rfl
@[simp] theorem reads_markup (node : Markup) : (markup node).reads = node.reads := rfl
@[simp] theorem reads_attr (a : Attribute) : (attr a).reads = a.reads := rfl

/-- The phrases next inside of one, without entering a function or the types of a tag. -/
def parts : Phrase → List Phrase
  | expr (.name _ _) => []
  | expr (.paren _ inner) => [expr inner]
  | expr (.markup _ node) => [markup node]
  | expr (.compound form _ parts) =>
    if form.isFunction then [] else (parts.filterMap Part.evaluated?).map expr
  | markup (.element _ _ _ attributes children) => attributes.map attr ++ children.map markup
  | markup (.component _ _ _ attributes children) => attributes.map attr ++ children.map markup
  | markup (.fragment children) => children.map markup
  | markup (.text _) => []
  | markup (.hole _ value) => [expr value]
  | attr (.named _ (.literal _)) => []
  | attr (.named _ .bare) => []
  | attr (.named _ (.expr value)) => [expr value]
  | attr (.named _ (.markup node)) => [markup node]
  | attr (.spread value) => [expr value]

/-- The expressions in the type arguments of a tag. -/
def typeArguments : Phrase → List Phrase
  | markup (.element _ _ types _ _) => (types.filterMap Part.evaluated?).map expr
  | markup (.component _ _ types _ _) => (types.filterMap Part.evaluated?).map expr
  | _ => []

/-- The reasons to read. -/
inductive IsRead : Phrase → Prop where
  | call {span : Span} {parts : List Part} : IsRead (expr (.compound .call span parts))
  | member {span : Span} {parts : List Part} : IsRead (expr (.compound .member span parts))
  | component {span : Span} {tag : TagName} {types : List Part} {attributes : List Attribute}
      {children : List Markup} : IsRead (markup (.component span tag types attributes children))
  | spread {value : Expr} : IsRead (attr (.spread value))
  | ref {value : AttributeValue} : IsRead (attr (.named "ref" value))
  | style {value : Expr} (h : value.shape.isWrappable = true) :
      IsRead (attr (.named "style" (.expr value)))
  | classMap {value : Expr} (h : value.shape.isWrappable = true) :
      IsRead (attr (.named "classMap" (.expr value)))

/-- A phrase is inside of another at any depth, or it is the same one. -/
def Reaches : Phrase → Phrase → Prop :=
  Relation.ReflTransGen fun outer inner => inner ∈ outer.parts

end Phrase

/-! ### One step -/

/-- A part reads if the expression that is evaluated in it does. -/
theorem Part.reads_iff {part : Part} :
    part.reads = true ↔ ∃ value, part.evaluated? = some value ∧ value.reads = true := by
  cases part <;> simp [Part.reads, Part.evaluated?]

/-- Some of the attributes read if one of them does. -/
theorem Attribute.anyReads_iff {attributes : List Attribute} :
    Attribute.anyReads attributes = true ↔ ∃ a ∈ attributes, a.reads = true := by
  induction attributes with
  | nil => simp [Attribute.anyReads]
  | cons a rest ih => simp [Attribute.anyReads, ih]

/-- A compound expression reads by its form, or by its parts unless it is a function. -/
theorem Expr.reads_compound_iff {form : Form} {span : Span} {parts : List Part} :
    (Expr.compound form span parts).reads = true ↔ form = .call ∨ form = .member ∨
      form.isFunction = false ∧ Part.anyReads parts = true := by
  cases form <;> simp [Expr.reads, Form.isFunction]

/-- The attribute that hands out the element. -/
theorem AttributeKind.of_ref : AttributeKind.of "ref" = .ref := by decide

/-- The attribute for styles. -/
theorem AttributeKind.of_style : AttributeKind.of "style" = .style := by decide

/-- The attribute for a map of classes. -/
theorem AttributeKind.of_classMap : AttributeKind.of "classMap" = .classMap := by decide

/-- Only expressions are wrapped, and of these those of two shapes. -/
theorem AttributeValue.isWrappable_iff {value : AttributeValue} :
    value.isWrappable = true ↔ ∃ e, value = .expr e ∧ e.shape.isWrappable = true := by
  cases value <;> simp [AttributeValue.isWrappable]

namespace Phrase

/-- What is read itself reads. -/
theorem IsRead.reads {n : Phrase} (h : n.IsRead) : n.reads = true := by
  cases h with
  | call => rfl
  | member => rfl
  | component => rfl
  | spread => rfl
  -- the other attributes are read because of their names, which fix their kinds
  | ref => rw [Phrase.reads, Attribute.reads, AttributeKind.of_ref]
  | style h =>
    rw [Phrase.reads, Attribute.reads, AttributeKind.of_style]
    simp [AttributeValue.isWrappable, h]
  | classMap h =>
    rw [Phrase.reads, Attribute.reads, AttributeKind.of_classMap]
    simp [AttributeValue.isWrappable, h]

/-- An attribute reads if its value does, or by its name. -/
theorem reads_named_iff {name : String} {value : AttributeValue} :
    (attr (.named name value)).reads = true ↔
      (attr (.named name value)).IsRead ∨ value.reads = true := by
  constructor
  · intro h
    rw [Phrase.reads, Attribute.reads] at h
    have hnames := AttributeKind.names_of name
    generalize AttributeKind.of name = kind at h hnames
    -- the kind tells the name, so the reasons that are stated by names come out here
    cases hnames with
    | ref => exact .inl .ref
    | style =>
      obtain hwrap | hvalue := Bool.or_eq_true_iff.1 h
      · obtain ⟨e, rfl, he⟩ := AttributeValue.isWrappable_iff.1 hwrap
        exact .inl (.style he)
      · exact .inr hvalue
    | classMap =>
      obtain hwrap | hvalue := Bool.or_eq_true_iff.1 h
      · obtain ⟨e, rfl, he⟩ := AttributeValue.isWrappable_iff.1 hwrap
        exact .inl (.classMap he)
      · exact .inr hvalue
    | event hname => exact .inr h
    | property hname => exact .inr h
    | boolean hname => exact .inr h
    | namespaced hcolon => exact .inr h
    | plain hcolon hmap => exact .inr h
  · rintro (hread | hvalue)
    · exact hread.reads
    · rw [Phrase.reads, Attribute.reads]
      cases AttributeKind.of name <;> simp [hvalue]

/-- Some of the phrases made from a list read if one does. -/
theorem exists_map_reads_iff {α : Type} {f : α → Phrase} {as : List α} :
    (∃ n ∈ as.map f, n.reads = true) ↔ ∃ a ∈ as, (f a).reads = true := by
  rw [← List.any_eq_true, ← List.any_eq_true, List.any_map]
  rfl

/-- Parts read if the expressions that are evaluated with them do. -/
theorem exists_evaluated_reads_iff {parts : List Part} :
    (∃ n ∈ (parts.filterMap Part.evaluated?).map expr, n.reads = true) ↔
      Part.anyReads parts = true := by
  rw [exists_map_reads_iff, Part.anyReads_iff]
  constructor
  · rintro ⟨value, hvalue, hreads⟩
    obtain ⟨part, hpart, heval⟩ := List.mem_filterMap.1 hvalue
    exact ⟨part, hpart, Part.reads_iff.2 ⟨value, heval, hreads⟩⟩
  · rintro ⟨part, hpart, hreads⟩
    obtain ⟨value, heval, hreads⟩ := Part.reads_iff.1 hreads
    exact ⟨value, List.mem_filterMap.2 ⟨part, hpart, heval⟩, hreads⟩

/-- Some of the children of a tag read if one does. -/
theorem exists_children_reads_iff {children : List Markup} :
    (∃ n ∈ children.map markup, n.reads = true) ↔ Markup.anyReads children = true :=
  exists_map_reads_iff.trans Markup.anyReads_iff.symm

/-- So it is with the attributes of a tag. -/
theorem exists_attributes_reads_iff {attributes : List Attribute} :
    (∃ n ∈ attributes.map attr, n.reads = true) ↔ Attribute.anyReads attributes = true :=
  exists_map_reads_iff.trans Attribute.anyReads_iff.symm

/-- The parts of an attribute are those of its value. -/
theorem exists_value_reads_iff {name : String} {value : AttributeValue} :
    (∃ n ∈ (attr (.named name value)).parts, n.reads = true) ↔ value.reads = true := by
  cases value <;> simp [parts, AttributeValue.reads]

/-- Of compound expressions, calls and member accesses are read. -/
theorem isRead_compound_iff {form : Form} {span : Span} {parts : List Part} :
    (expr (.compound form span parts)).IsRead ↔ form = .call ∨ form = .member := by
  constructor
  · rintro (_ | _)
    · exact .inl rfl
    · exact .inr rfl
  · rintro (rfl | rfl)
    · exact .call
    · exact .member

/-- What a phrase does that is no reason itself is what its parts do. -/
theorem step_of_not_isRead {n : Phrase} (hno : ¬ n.IsRead)
    (h : (∃ part ∈ n.parts, part.reads = true) ↔ n.reads = true) :
    n.reads = true ↔ n.IsRead ∨ ∃ part ∈ n.parts, part.reads = true := by
  rw [or_iff_right hno, h]

/-- The step for a phrase that is read itself. -/
theorem step_of_isRead {n : Phrase} (h : n.IsRead) :
    n.reads = true ↔ n.IsRead ∨ ∃ part ∈ n.parts, part.reads = true :=
  iff_of_true h.reads (.inl h)

/-- The parts of a function are not looked at. -/
theorem exists_parts_reads_compound_iff {form : Form} {span : Span} {parts : List Part} :
    (∃ n ∈ (expr (.compound form span parts)).parts, n.reads = true) ↔
      form.isFunction = false ∧ Part.anyReads parts = true := by
  rw [Phrase.parts]
  split
  next h => simp [h]
  next h => rw [exists_evaluated_reads_iff, Bool.eq_false_iff.2 h, and_iff_right rfl]

/-- **One step.** A phrase reads if it is a reason to, or if a phrase next inside of it reads. -/
theorem reads_iff_step (n : Phrase) :
    n.reads = true ↔ n.IsRead ∨ ∃ part ∈ n.parts, part.reads = true := by
  cases n with
  | expr e =>
    cases e with
    | name span text => exact step_of_not_isRead (by rintro ⟨⟩) (by simp [parts, Expr.reads])
    | paren span inner =>
      exact step_of_not_isRead (by rintro ⟨⟩) (by simp [parts, Expr.reads])
    | markup span node =>
      exact step_of_not_isRead (by rintro ⟨⟩) (by simp [parts, Expr.reads])
    | compound form span parts =>
      rw [exists_parts_reads_compound_iff, reads_expr, Expr.reads_compound_iff,
        isRead_compound_iff, or_assoc]
  | markup node =>
    cases node with
    | element span tag types attributes children =>
      -- an element itself reads nothing; its attributes and children may
      refine step_of_not_isRead (by rintro ⟨⟩) ?_
      rw [parts, reads, Markup.reads, Bool.or_eq_true, ← exists_attributes_reads_iff,
        ← exists_children_reads_iff]
      simp only [List.mem_append, or_and_right, exists_or]
    | component span tag types attributes children => exact step_of_isRead .component
    | fragment children => exact step_of_not_isRead (by rintro ⟨⟩) exists_children_reads_iff
    | text raw => exact step_of_not_isRead (by rintro ⟨⟩) (by simp [parts, Markup.reads])
    | hole isSpread value =>
      exact step_of_not_isRead (by rintro ⟨⟩) (by simp [parts, Markup.reads])
  | attr a =>
    cases a with
    | named name value => rw [exists_value_reads_iff, reads_named_iff]
    | spread value => exact step_of_isRead .spread

/-! ### All steps -/

/-- Phrases made from a list are not larger than the list. -/
theorem sizeOf_le_of_mem_map {α : Type} [SizeOf α] {f : α → Phrase} {as : List α} {n : Phrase}
    (hf : ∀ a, sizeOf (f a) = 1 + sizeOf a) (h : n ∈ as.map f) : sizeOf n ≤ sizeOf as := by
  obtain ⟨a, ha, rfl⟩ := List.mem_map.1 h
  have hlt : sizeOf a < sizeOf as := List.sizeOf_lt_of_mem ha
  rw [hf]
  omega

/-- So are those that are evaluated in parts. -/
theorem sizeOf_le_of_mem_evaluated {parts : List Part} {n : Phrase}
    (h : n ∈ (parts.filterMap Part.evaluated?).map expr) : sizeOf n ≤ sizeOf parts := by
  obtain ⟨value, hvalue, rfl⟩ := List.mem_map.1 h
  obtain ⟨part, hpart, heval⟩ := List.mem_filterMap.1 hvalue
  have hlt : sizeOf part < sizeOf parts := List.sizeOf_lt_of_mem hpart
  have hle : sizeOf (expr value) ≤ sizeOf part := by
    cases part <;> cases heval <;> exact Nat.le_refl _
  omega

/-- And those in a tag and between tags. -/
theorem sizeOf_le_of_mem_tag {attributes : List Attribute} {children : List Markup} {n : Phrase}
    (h : n ∈ attributes.map attr ++ children.map markup) :
    sizeOf n ≤ sizeOf attributes + sizeOf children := by
  obtain h | h := List.mem_append.1 h
  · exact Nat.le_add_right_of_le (sizeOf_le_of_mem_map attr.sizeOf_spec h)
  · exact Nat.le_add_left_of_le (sizeOf_le_of_mem_map markup.sizeOf_spec h)

/-- What is inside of a phrase is smaller. -/
theorem sizeOf_lt_of_mem_parts {n part : Phrase} (h : part ∈ n.parts) : sizeOf part < sizeOf n := by
  cases n with
  | expr e =>
    rw [expr.sizeOf_spec]
    cases e with
    | name span text => cases h
    | paren span inner =>
      obtain rfl := List.mem_singleton.1 h
      rw [expr.sizeOf_spec, Expr.paren.sizeOf_spec]
      omega
    | markup span node =>
      obtain rfl := List.mem_singleton.1 h
      rw [markup.sizeOf_spec, Expr.markup.sizeOf_spec]
      omega
    | compound form span parts =>
      rw [Phrase.parts] at h
      -- inside of a function nothing is evaluated, so it has no parts
      split at h
      · cases h
      · have hle := sizeOf_le_of_mem_evaluated h
        rw [Expr.compound.sizeOf_spec]
        omega
  | markup node =>
    rw [markup.sizeOf_spec]
    cases node with
    | element span tag types attributes children =>
      have hle := sizeOf_le_of_mem_tag h
      rw [Markup.element.sizeOf_spec]
      omega
    | component span tag types attributes children =>
      have hle := sizeOf_le_of_mem_tag h
      rw [Markup.component.sizeOf_spec]
      omega
    | fragment children =>
      have hle := sizeOf_le_of_mem_map markup.sizeOf_spec h
      rw [Markup.fragment.sizeOf_spec]
      omega
    | text raw => cases h
    | hole isSpread value =>
      obtain rfl := List.mem_singleton.1 h
      rw [expr.sizeOf_spec, Markup.hole.sizeOf_spec]
      omega
  | attr a =>
    rw [attr.sizeOf_spec]
    cases a with
    | named name value =>
      rw [Attribute.named.sizeOf_spec]
      cases value with
      | literal text => cases h
      | bare => cases h
      | expr e =>
        obtain rfl := List.mem_singleton.1 h
        rw [expr.sizeOf_spec, AttributeValue.expr.sizeOf_spec]
        omega
      | markup node =>
        obtain rfl := List.mem_singleton.1 h
        rw [markup.sizeOf_spec, AttributeValue.markup.sizeOf_spec]
        omega
    | spread value =>
      obtain rfl := List.mem_singleton.1 h
      rw [expr.sizeOf_spec, Attribute.spread.sizeOf_spec]
      omega

/-- A phrase that reads reaches a reason to. -/
theorem exists_reaches {n : Phrase} (h : n.reads = true) : ∃ m, n.Reaches m ∧ m.IsRead := by
  -- by the size of the phrase: a part that reads is smaller
  obtain hread | ⟨part, hmem, hpart⟩ := n.reads_iff_step.1 h
  · exact ⟨n, .refl, hread⟩
  · obtain ⟨m, hreaches, hread⟩ := exists_reaches hpart
    exact ⟨m, .head hmem hreaches, hread⟩
termination_by sizeOf n
decreasing_by exact sizeOf_lt_of_mem_parts hmem

/-- Reading goes from the inside to the outside. -/
theorem Reaches.reads {outer inner : Phrase} (h : outer.Reaches inner)
    (hinner : inner.reads = true) : outer.reads = true := by
  induction h with
  | refl => exact hinner
  | tail _ hmem ih => exact ih ((reads_iff_step _).2 (.inr ⟨_, hmem, hinner⟩))

/-- **What makes a phrase read.** An expression, a piece of markup or an attribute reads exactly if
    it reaches a call, a property access, a component, a spread attribute, a reference, or a style
    or map of classes that goes through a helper. So whatever reads makes everything around it
    read, up to the next function. -/
theorem reads_iff_reaches (outer : Phrase) :
    (outer.reads = true ↔ ∃ n, outer.Reaches n ∧ n.IsRead) ∧
      ∀ inner, outer.Reaches inner → inner.reads = true → outer.reads = true := by
  refine ⟨⟨exists_reaches, ?_⟩, fun inner => Reaches.reads⟩
  rintro ⟨n, hreaches, hread⟩
  exact hreaches.reads hread.reads

/-- A hole with a property access in it makes the element around it read. -/
theorem reads_iff_reaches_hole :
    let value := Expr.compound .member ⟨4, 7⟩ [.expr (.name ⟨4, 5⟩ "a"), .name .property "b"]
    (expr value).reads = true ∧
      (markup (.element ⟨0, 12⟩ (.plain "p") [] [] [.hole false value])).reads = true := by
  intro value
  have hreaches : (markup (.element ⟨0, 12⟩ (.plain "p") [] [] [.hole false value])).Reaches
      (expr value) :=
    .head (List.mem_singleton_self (markup (.hole false value)))
      (.single (List.mem_singleton_self (expr value)))
  exact ⟨rfl, (reads_iff_reaches _).2 (expr value) hreaches rfl⟩

example :
    (["a.b", "a[b]", "a?.b", "a()", "a?.()", "[...a.b]"].all fun source =>
      (Expr.parse? (Grammar.Dialect.ofPath "a.tsx") source.toList).any Expr.reads) = true ∧
    (["a => a.b", "function (a = b.c) " ++ braced "", "class " ++ braced (" a() " ++
        braced " b.c " ++ " ")].all
      fun source => (Expr.parse? (Grammar.Dialect.ofPath "a.tsx") source.toList).any
        (!·.reads)) = true := by
  decide +kernel

/-- A property access in the type arguments of a tag is not reached, though one in any other type
    is. -/
theorem not_reads_typeArguments :
    (∃ e n, Expr.parse? (Grammar.Dialect.ofPath "a.tsx")
        ("<b<" ++ braced " [c.d]: string " ++ "> />").toList = some e ∧ e.reads = false ∧
      Relation.ReflTransGen (fun outer inner => inner ∈ outer.parts ++ outer.typeArguments)
        (expr e) n ∧ n.IsRead) ∧
    ∃ e, Expr.parse? (Grammar.Dialect.ofPath "a.tsx")
      ("x as " ++ braced " [c.d]: string ").toList = some e ∧ e.reads = true := by
  have htag : (Expr.parse? (Grammar.Dialect.ofPath "a.tsx")
      ("<b<" ++ braced " [c.d]: string " ++ "> />").toList).any (fun e => !e.reads &&
        (expr e).parts.any fun node => node.typeArguments.any Phrase.reads) = true := by
    decide +kernel
  have htype : (Expr.parse? (Grammar.Dialect.ofPath "a.tsx")
      ("x as " ++ braced " [c.d]: string ").toList).any Expr.reads = true := by
    decide +kernel
  -- the key reads, so it reaches a reason, and the tag reaches the key by its type arguments
  obtain ⟨e, he, h⟩ := (Option.any_eq_true _ _).1 htag
  rw [Bool.and_eq_true, Bool.not_eq_true', List.any_eq_true] at h
  obtain ⟨hreads, node, hnode, hany⟩ := h
  obtain ⟨key, hkey, hkeyReads⟩ := List.any_eq_true.1 hany
  obtain ⟨n, hreaches, hread⟩ := exists_reaches hkeyReads
  refine ⟨⟨e, n, he, hreads, ?_, hread⟩, (Option.any_eq_true _ _).1 htype⟩
  exact .head (List.mem_append_left _ hnode) (.head (List.mem_append_right _ hkey)
    (Relation.ReflTransGen.mono (fun _ _ => List.mem_append_left _) _ _ hreaches))

end Phrase

end JsxTemplate
