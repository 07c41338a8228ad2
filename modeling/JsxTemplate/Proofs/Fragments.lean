import JsxTemplate.Proofs.Congruence

namespace JsxTemplate

/-!
# Fragments among children leave no trace

A fragment among children may be replaced by what is in it. This holds in each of the ways in which
children are treated: those of an element are joined into its template, those of a component and of
a fragment become a list of values, and both are looked through for something that is read. The one
exception is an element with a bare attribute, which is written in another way if it is static, and
no element with a fragment inside counts as static.

* `Markup.Opens` — some fragments among the children are replaced by what is in them, at any depth.
* `Markup.hasBare` — some tag has a bare attribute.
* `Markup.alike_of_opens` — opening fragments changes nothing.
* `Markup.exists_leaves_fragment` — a fragment as a value, by the children that count.
* `Markup.fragments_transparent` — both together.
-/

/-! ### Bare attributes -/

mutual

/-- Whether some tag of the markup has an attribute without a value. Expressions are not looked
    into. -/
def Markup.hasBare : Markup → Bool
  | .element _ _ _ attributes children =>
    Attribute.anyHasBare attributes || Markup.anyHasBare children
  | .component _ _ _ attributes children =>
    Attribute.anyHasBare attributes || Markup.anyHasBare children
  | .fragment children => Markup.anyHasBare children
  | .text _ => false
  | .hole _ _ => false

/-- Whether some tag among several pieces of markup has a bare attribute. -/
def Markup.anyHasBare : List Markup → Bool
  | [] => false
  | node :: rest => node.hasBare || Markup.anyHasBare rest

/-- Whether an attribute is bare, or some tag in its value has a bare attribute. -/
def Attribute.hasBare : Attribute → Bool
  | .named _ value => value.hasBare
  | .spread _ => false

/-- The same for several attributes. -/
def Attribute.anyHasBare : List Attribute → Bool
  | [] => false
  | a :: rest => a.hasBare || Attribute.anyHasBare rest

/-- Whether a value is left out, or some tag in it has a bare attribute. -/
def AttributeValue.hasBare : AttributeValue → Bool
  | .literal _ => false
  | .bare => true
  | .expr _ => false
  | .markup node => node.hasBare

end

/-- Attributes in which nothing is bare are not bare themselves. -/
theorem Attribute.not_isBare_of_not_anyHasBare {attributes : List Attribute}
    (h : Attribute.anyHasBare attributes = false) : ∀ a ∈ attributes, a.isBare = false := by
  induction attributes with
  | nil => simp
  | cons a rest ih =>
    rw [Attribute.anyHasBare, Bool.or_eq_false_iff] at h
    refine List.forall_mem_cons.2 ⟨?_, ih h.2⟩
    cases a with
    | spread value => rfl
    | named name value =>
      cases value with
      | bare => cases h.1
      | literal text => rfl
      | expr value => rfl
      | markup node => rfl

/-! ### Opening fragments -/

mutual

/-- Some fragments in the markup of an expression are opened. A piece of markup where this happens
    has no bare attributes. -/
inductive Expr.Opens : Expr → Expr → Prop
  | same (e : Expr) : Expr.Opens e e
  | paren {inner inner' : Expr} (span : Span) (h : Expr.Opens inner inner') :
      Expr.Opens (.paren span inner) (.paren span inner')
  | markup {node node' : Markup} (span : Span) (hbare : node.hasBare = false)
      (h : Markup.Opens node node') : Expr.Opens (.markup span node) (.markup span node')
  | compound {parts parts' : List Part} (form : Form) (span : Span)
      (h : Part.OpensAll parts parts') :
      Expr.Opens (.compound form span parts) (.compound form span parts')

/-- The same for a part. -/
inductive Part.Opens : Part → Part → Prop
  | same (part : Part) : Part.Opens part part
  | expr {e e' : Expr} (h : Expr.Opens e e') : Part.Opens (.expr e) (.expr e')
  | spread {e e' : Expr} (h : Expr.Opens e e') : Part.Opens (.spread e) (.spread e')
  | function {parts parts' : List Part} (h : Part.OpensAll parts parts') :
      Part.Opens (.function parts) (.function parts')

/-- The same for several parts, one by one. -/
inductive Part.OpensAll : List Part → List Part → Prop
  | nil : Part.OpensAll [] []
  | cons {part part' : Part} {rest rest' : List Part} (h : Part.Opens part part')
      (hrest : Part.OpensAll rest rest') : Part.OpensAll (part :: rest) (part' :: rest')

/-- Some fragments among the children in markup are opened, at any depth. -/
inductive Markup.Opens : Markup → Markup → Prop
  | same (node : Markup) : Markup.Opens node node
  | element {attributes attributes' : List Attribute} {children children' : List Markup}
      (span : Span) (tag : TagName) (types : List Part)
      (hattributes : Attribute.OpensAll attributes attributes')
      (hchildren : Markup.OpensAll children children') :
      Markup.Opens (.element span tag types attributes children)
        (.element span tag types attributes' children')
  | component {attributes attributes' : List Attribute} {children children' : List Markup}
      (span : Span) (tag : TagName) (types : List Part)
      (hattributes : Attribute.OpensAll attributes attributes')
      (hchildren : Markup.OpensAll children children') :
      Markup.Opens (.component span tag types attributes children)
        (.component span tag types attributes' children')
  | fragment {children children' : List Markup} (hchildren : Markup.OpensAll children children') :
      Markup.Opens (.fragment children) (.fragment children')
  | hole {value value' : Expr} (isSpread : Bool) (h : Expr.Opens value value') :
      Markup.Opens (.hole isSpread value) (.hole isSpread value')

/-- Some fragments among children, and in them, are opened: a fragment may be replaced by what is in
    it. -/
inductive Markup.OpensAll : List Markup → List Markup → Prop
  | nil : Markup.OpensAll [] []
  | cons {node node' : Markup} {rest rest' : List Markup} (h : Markup.Opens node node')
      (hrest : Markup.OpensAll rest rest') : Markup.OpensAll (node :: rest) (node' :: rest')
  | opened {inner inner' rest rest' : List Markup} (hinner : Markup.OpensAll inner inner')
      (hrest : Markup.OpensAll rest rest') :
      Markup.OpensAll (.fragment inner :: rest) (inner' ++ rest')

/-- Some fragments in the value of an attribute are opened. -/
inductive Attribute.Opens : Attribute → Attribute → Prop
  | named {value value' : AttributeValue} (name : String) (h : AttributeValue.Opens value value') :
      Attribute.Opens (.named name value) (.named name value')
  | spread {value value' : Expr} (h : Expr.Opens value value') :
      Attribute.Opens (.spread value) (.spread value')

/-- The same for several attributes, one by one. -/
inductive Attribute.OpensAll : List Attribute → List Attribute → Prop
  | nil : Attribute.OpensAll [] []
  | cons {a a' : Attribute} {rest rest' : List Attribute} (h : Attribute.Opens a a')
      (hrest : Attribute.OpensAll rest rest') : Attribute.OpensAll (a :: rest) (a' :: rest')

/-- The same for the value of an attribute. -/
inductive AttributeValue.Opens : AttributeValue → AttributeValue → Prop
  | same (value : AttributeValue) : AttributeValue.Opens value value
  | expr {value value' : Expr} (h : Expr.Opens value value') :
      AttributeValue.Opens (.expr value) (.expr value')
  | markup {node node' : Markup} (h : Markup.Opens node node') :
      AttributeValue.Opens (.markup node) (.markup node')

end

/-! ### Lists of children in a row -/

/-- Of markup in a row some reads if some of either part does. -/
theorem Markup.anyReads_append (as bs : List Markup) :
    Markup.anyReads (as ++ bs) = (Markup.anyReads as || Markup.anyReads bs) := by
  induction as with
  | nil => rfl
  | cons a as ih => rw [List.cons_append, Markup.anyReads, Markup.anyReads, ih, Bool.or_assoc]

/-- Markup in a row is compiled part after part inside an open template. -/
theorem Markup.templateOf_append (options : Options) (as bs : List Markup) :
    Markup.templateOf options (as ++ bs) = do
      return (← Markup.templateOf options as) ++ (← Markup.templateOf options bs) := by
  induction as with
  | nil =>
    rw [List.nil_append, Markup.templateOf, pure_bind]
    simp only [Template.empty_append, bind_pure]
  | cons a as ih =>
    rw [List.cons_append, Markup.templateOf, Markup.templateOf, ih]
    simp only [bind_assoc, pure_bind, Template.append_assoc]

variable {options : Options} {source : List Char}

/-- A fragment among children is as good as what is in it. -/
theorem Markup.AlikeAll.opened {inner inner' rest rest' : List Markup}
    (hinner : Markup.AlikeAll options source inner inner')
    (hrest : Markup.AlikeAll options source rest rest') :
    Markup.AlikeAll options source (.fragment inner :: rest) (inner' ++ rest') where
  -- everything asked about a list is asked of its parts in a row, and opening keeps the row
  reads := by
    rw [Markup.anyReads_append, Markup.anyReads, Markup.reads, hinner.reads, hrest.reads]
  template := by
    rw [Markup.templateOf_append]
    exact hinner.template.bind fun _ _ ht => hrest.template.bind fun _ _ hu => .pure (ht.append hu)
  leaves := by
    rw [Markup.leavesOf_append]
    exact hinner.leaves.bind fun _ _ hs => hrest.leaves.bind fun _ _ ht =>
      .pure (List.rel_append hs ht)
  flat := by
    rw [Markup.flattenAll_append]
    exact List.rel_append hinner.flat hrest.flat

/-! ### Opening changes nothing -/

mutual

/-- Opening fragments in an expression leaves it alike. -/
theorem Expr.alike_of_opens : {e e' : Expr} → e.Opens e' → e.Alike options source e'
  | _, _, .same e => .refl e
  | _, _, .paren span h => (Expr.alike_of_opens h).paren span
  | _, _, .markup span hbare h => .markup span (Markup.alike_of_opens h hbare)
  | _, _, .compound form span h => .compound form span (Part.alike_of_opensAll h)

theorem Part.alike_of_opens : {part part' : Part} → part.Opens part' →
    part.Alike options source part'
  | _, _, .same part => .refl part
  | _, _, .expr h => .expr (Expr.alike_of_opens h)
  | _, _, .spread h => .spread (Expr.alike_of_opens h)
  | _, _, .function h => .function (Part.alike_of_opensAll h)

theorem Part.alike_of_opensAll : {parts parts' : List Part} → Part.OpensAll parts parts' →
    List.Forall₂ (Part.Alike options source) parts parts'
  | _, _, .nil => .nil
  | _, _, .cons h hrest => .cons (Part.alike_of_opens h) (Part.alike_of_opensAll hrest)

/-- **Opening fragments changes nothing** in markup without bare attributes. -/
theorem Markup.alike_of_opens : {node node' : Markup} → node.Opens node' → node.hasBare = false →
    node.Alike options source node'
  | _, _, .same node, _ => .refl node
  | _, _, .element span tag types hattributes hchildren, hbare => by
    rw [Markup.hasBare, Bool.or_eq_false_iff] at hbare
    -- no attribute is bare, so it does not matter which side is static
    exact .element span tag types (Attribute.alike_of_opensAll hattributes hbare.1)
      (Markup.alikeAll_of_opensAll hchildren hbare.2)
      (.inr (Attribute.not_isBare_of_not_anyHasBare hbare.1))
  | _, _, .component span tag types hattributes hchildren, hbare => by
    rw [Markup.hasBare, Bool.or_eq_false_iff] at hbare
    exact .component span tag types (Attribute.alike_of_opensAll hattributes hbare.1)
      (Markup.alikeAll_of_opensAll hchildren hbare.2)
  | _, _, .fragment hchildren, hbare => .fragment (Markup.alikeAll_of_opensAll hchildren hbare)
  | _, _, .hole isSpread h, _ => .hole isSpread (Expr.alike_of_opens h)

/-- So it does in several pieces of markup, where the lists may have different lengths: a fragment
    is exchanged for its content. -/
theorem Markup.alikeAll_of_opensAll : {nodes nodes' : List Markup} →
    Markup.OpensAll nodes nodes' → Markup.anyHasBare nodes = false →
    Markup.AlikeAll options source nodes nodes'
  | _, _, .nil, _ => .nil
  | _, _, .cons h hrest, hbare => by
    rw [Markup.anyHasBare, Bool.or_eq_false_iff] at hbare
    exact .cons (Markup.alike_of_opens h hbare.1) (Markup.alikeAll_of_opensAll hrest hbare.2)
  | _, _, .opened hinner hrest, hbare => by
    rw [Markup.anyHasBare, Markup.hasBare, Bool.or_eq_false_iff] at hbare
    exact .opened (Markup.alikeAll_of_opensAll hinner hbare.1)
      (Markup.alikeAll_of_opensAll hrest hbare.2)

theorem Attribute.alike_of_opens : {a a' : Attribute} → a.Opens a' → a.hasBare = false →
    a.Alike options source a'
  | _, _, .named name h, hbare => .named name (AttributeValue.alike_of_opens h hbare)
  | _, _, .spread h, _ => .spread (Expr.alike_of_opens h)

theorem Attribute.alike_of_opensAll : {attributes attributes' : List Attribute} →
    Attribute.OpensAll attributes attributes' → Attribute.anyHasBare attributes = false →
    List.Forall₂ (Attribute.Alike options source) attributes attributes'
  | _, _, .nil, _ => .nil
  | _, _, .cons h hrest, hbare => by
    rw [Attribute.anyHasBare, Bool.or_eq_false_iff] at hbare
    exact .cons (Attribute.alike_of_opens h hbare.1) (Attribute.alike_of_opensAll hrest hbare.2)

theorem AttributeValue.alike_of_opens : {value value' : AttributeValue} → value.Opens value' →
    value.hasBare = false → value.Alike options source value'
  | _, _, .same value, _ => .refl value
  | _, _, .expr h, _ => .expr (Expr.alike_of_opens h)
  | _, _, .markup h, hbare => .markup (Markup.alike_of_opens h hbare)

end

/-! ### Fragments as values -/

/-- What is reported about several pieces of markup is reported about each of them. -/
theorem Markup.notices_leavesOf_eq (nodes : List Markup) :
    (Markup.leavesOf options nodes).notices =
      nodes.flatMap fun node => (node.leaves options).notices := by
  induction nodes with
  | nil => rfl
  | cons node rest ih =>
    rw [Markup.leavesOf, Emit.notices_bind, Emit.notices_bind, Emit.notices_pure, List.append_nil,
      ih, List.flatMap_cons]

/-- What several pieces of markup need is what each of them needs. -/
theorem Markup.needs_leavesOf_eq (nodes : List Markup) :
    (Markup.leavesOf options nodes).needs =
      nodes.flatMap fun node => (node.leaves options).needs := by
  induction nodes with
  | nil => rfl
  | cons node rest ih =>
    rw [Markup.leavesOf, Emit.needs_bind, Emit.needs_bind, Emit.needs_pure, List.append_nil,
      ih, List.flatMap_cons]

/-- A fragment as a value is made from the values of the children that count. -/
theorem Markup.fragment_value (options : Options) (children : List Markup) :
    (Markup.fragment children).value options =
      Markup.leavesOf options (Markup.flattenAll children) >>= fragmentValue := by
  rw [Markup.leavesOf_flattenAll, Markup.value]

/-- A fragment of two or more values is an array. -/
theorem fragmentValue_of_two_le {leaves : List Leaf} (h : 2 ≤ leaves.length) :
    fragmentValue leaves = pure (.array (leaves.map Leaf.code)) := by
  unfold fragmentValue
  split
  · simp at h
  · simp at h
  · rfl

/-- A fragment reports nothing itself, and needs the tag of templates unless it is an array. -/
theorem notices_and_needs_fragmentValue (leaves : List Leaf) :
    (fragmentValue leaves).notices = [] ∧
      (fragmentValue leaves).needs = if leaves.length < 2 then [.html] else [] := by
  by_cases hmany : 2 ≤ leaves.length
  · rw [fragmentValue_of_two_le hmany, if_neg (by omega)]
    exact ⟨rfl, rfl⟩
  · rw [if_pos (by omega)]
    cases leaves with
    | nil => exact ⟨rfl, rfl⟩
    | cons leaf rest =>
      cases rest with
      | nil => exact ⟨rfl, rfl⟩
      | cons second more => simp at hmany

/-- The value of a fragment, by the children that count: an empty template, a template with one
    hole, or an array with a value for each of them. What is reported and what is needed is theirs,
    and the helper for the template if there is one. -/
theorem Markup.exists_leaves_fragment (options : Options) (children : List Markup) :
    ∃ leaves, List.Forall₂ (fun node leaf => (node.leaves options).value = [leaf])
        (Markup.flattenAll children) leaves ∧
      (leaves = [] → ((Markup.fragment children).value options).value = .template .empty) ∧
      (∀ leaf, leaves = [leaf] →
        ((Markup.fragment children).value options).value = .template (.hole leaf.alone)) ∧
      (2 ≤ leaves.length →
        ((Markup.fragment children).value options).value = .array (leaves.map Leaf.code)) ∧
      ((Markup.fragment children).value options).notices =
        (Markup.flattenAll children).flatMap (fun node => (node.leaves options).notices) ∧
      ((Markup.fragment children).value options).needs =
        (Markup.flattenAll children).flatMap (fun node => (node.leaves options).needs) ++
          if leaves.length < 2 then [.html] else [] := by
  -- a fragment is asked for its leaves only, and flattening keeps those
  obtain ⟨hnotices, hneeds⟩ := notices_and_needs_fragmentValue
    (Markup.leavesOf options (Markup.flattenAll children)).value
  refine ⟨_, Markup.forall₂_leavesOf options children, ?_, ?_, ?_, ?_, ?_⟩
  · intro hnil
    rw [Markup.value, Emit.value_bind, hnil]
    rfl
  · intro leaf hleaf
    rw [Markup.value, Emit.value_bind, hleaf]
    rfl
  · intro hmany
    rw [Markup.value, Emit.value_bind, fragmentValue_of_two_le hmany, Emit.value_pure]
  · rw [Markup.fragment_value, Emit.notices_bind, hnotices, List.append_nil,
      Markup.notices_leavesOf_eq]
  · rw [Markup.fragment_value, Emit.needs_bind, hneeds, Markup.needs_leavesOf_eq,
      Markup.leavesOf_flattenAll]

/-- **Fragments are transparent.** Opening fragments among the children of markup without bare
    attributes, at any depth, changes neither its text, whatever the source and the names of the
    helpers are, nor what is reported and needed, nor any decision about getters. A fragment as a
    value depends on the children that count alone. -/
theorem Markup.fragments_transparent (options : Options) :
    (∀ node node' : Markup, node.hasBare = false → node.Opens node' →
      (∀ bindings source, (node.value options).value.render bindings source =
        (node'.value options).value.render bindings source) ∧
      (node.value options).notices = (node'.value options).notices ∧
      (node.value options).needs = (node'.value options).needs ∧
      node.reads = node'.reads ∧ node.needsGetter = node'.needsGetter) ∧
    (∀ children children' : List Markup, Markup.anyHasBare children = false →
      Markup.OpensAll children children' →
      childrenNeedGetter (Markup.flattenAll children) =
        childrenNeedGetter (Markup.flattenAll children')) ∧
    (∀ children, ∃ leaves,
      List.Forall₂ (fun node leaf => (node.leaves options).value = [leaf])
        (Markup.flattenAll children) leaves ∧
      (leaves = [] → ((Markup.fragment children).value options).value = .template .empty) ∧
      (∀ leaf, leaves = [leaf] →
        ((Markup.fragment children).value options).value = .template (.hole leaf.alone)) ∧
      (2 ≤ leaves.length →
        ((Markup.fragment children).value options).value = .array (leaves.map Leaf.code)) ∧
      ((Markup.fragment children).value options).notices =
        (Markup.flattenAll children).flatMap (fun node => (node.leaves options).notices) ∧
      ((Markup.fragment children).value options).needs =
        (Markup.flattenAll children).flatMap (fun node => (node.leaves options).needs) ++
          if leaves.length < 2 then [.html] else []) ∧
    ∀ children children', Markup.flattenAll children = Markup.flattenAll children' →
      (Markup.fragment children).value options = (Markup.fragment children').value options := by
  refine ⟨?_, ?_, Markup.exists_leaves_fragment options, ?_⟩
  · intro node node' hbare hopens
    -- that they are alike holds over any text; what does not mention the text needs just one
    have halike : ∀ source, node.Alike options source node' :=
      fun source => Markup.alike_of_opens hopens hbare
    refine ⟨fun bindings source => (halike source).value.value bindings, ?_⟩
    have hsame := (halike []).value
    exact ⟨hsame.notices, hsame.needs, (halike []).reads, (halike []).needsGetter⟩
  · intro children children' hbare hopens
    have halike : Markup.AlikeAll options [] children children' :=
      Markup.alikeAll_of_opensAll hopens hbare
    exact Markup.Judged.childrenNeedGetter_eq halike.flat
  · intro children children' hflat
    rw [Markup.fragment_value, Markup.fragment_value, hflat]

/-- Three fragments in an element: around all of its children, in an element among them, and in the
    markup of an expression. All of them are opened. -/
theorem Markup.fragments_transparent_nested :
    ∃ node node' : Markup, node.hasBare = false ∧ node.Opens node' ∧
      (node.value {}).value.render (Bindings.of ⟨none, [], []⟩ {})
          ("<p class=\"a\"><><b><>x</></b>" ++ braced ("c && <i><>" ++ braced "d" ++ "</></i>") ++
              "</></p>").toList =
        some ("html`<p class=\"a\"><b>x</b>$" ++ braced ("c && html`<i>$" ++ braced "d" ++
            "</i>`") ++ "</p>`").toList := by
  have hopens : Markup.Opens
      (.element ⟨0, 57⟩ (.plain "p") [] [.named "class" (.literal "a")] [.fragment [
        .element ⟨15, 28⟩ (.plain "b") [] [] [.fragment [.text "x"]],
        .hole false (.compound .logical ⟨29, 49⟩ [.expr (.name ⟨29, 30⟩ "c"),
          .expr (.markup ⟨34, 49⟩ (.element ⟨34, 49⟩ (.plain "i") [] []
            [.fragment [.hole false (.name ⟨40, 41⟩ "d")]]))])]])
      (.element ⟨0, 57⟩ (.plain "p") [] [.named "class" (.literal "a")] [
        .element ⟨15, 28⟩ (.plain "b") [] [] [.text "x"],
        .hole false (.compound .logical ⟨29, 49⟩ [.expr (.name ⟨29, 30⟩ "c"),
          .expr (.markup ⟨34, 49⟩ (.element ⟨34, 49⟩ (.plain "i") [] []
            [.hole false (.name ⟨40, 41⟩ "d")]))])]) := by
    -- three fragments open: the one in the paragraph, and one more in each of its two children
    refine .element _ _ _ (.cons (.named _ (.same _)) .nil)
      (.opened (.cons ?_ (.cons ?_ .nil)) .nil)
    · exact .element _ _ _ .nil (.opened (.cons (.same _) .nil) .nil)
    · refine .hole _ (.compound _ _ (.cons (.same _) (.cons (.expr (.markup _ rfl ?_)) .nil)))
      exact .element _ _ _ .nil (.opened (.cons (.same _) .nil) .nil)
  obtain ⟨htext, -⟩ := (Markup.fragments_transparent {}).1 _ _ rfl hopens
  exact ⟨_, _, rfl, hopens, (htext _ _).trans (by decide +kernel)⟩

end JsxTemplate
