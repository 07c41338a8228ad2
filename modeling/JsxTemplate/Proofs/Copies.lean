import JsxTemplate.Proofs.Sites
import JsxTemplate.Proofs.Traversal
import JsxTemplate.Proofs.Words

namespace JsxTemplate

/-!
# Each expression of markup is copied once

Compiled markup copies the expressions of the markup one by one, in the order in which they are
written. It leaves out those in the content of an element that has none by its tag, and those in an
attribute for the content of a component that has other content.

* `Markup.expressions` — the expressions of markup in their order, each with a mark that says
  whether it is kept.
* `copied` — the code for those that are kept.
* `Traversal.copiesKept`, `Markup.copies_value` — the copied expressions of compiled markup are
  these. There is one lemma for each step of `Compile/Placement`.
* `Markup.holes_word_value` — so the text of compiled markup is a word with one hole for each of
  them.
-/

/-! ### Expressions of markup -/

mutual

/-- The expressions of markup in their order, each with a mark that says whether it is kept.
    `isKept` is the mark if nothing in the markup itself decides otherwise. -/
def Markup.expressions (isKept : Bool) : Markup → List (Expr × Bool)
  | .element _ tag _ attributes children =>
    Attribute.expressionsOf isKept false attributes ++
      Markup.expressionsOf (isKept && !isVoidTag tag.text) children
  | .component _ _ _ attributes children =>
    Attribute.expressionsOf isKept (!(Markup.flattenAll children).isEmpty) attributes ++
      Markup.expressionsOf isKept children
  | .fragment children => Markup.expressionsOf isKept children
  | .text _ => []
  | .hole _ value => [(value, isKept)]

/-- Those of several pieces of markup. -/
def Markup.expressionsOf (isKept : Bool) : List Markup → List (Expr × Bool)
  | [] => []
  | node :: rest => node.expressions isKept ++ Markup.expressionsOf isKept rest

/-- Those of an attribute, of a component with content if `hasContent` is set. -/
def Attribute.expressions (isKept hasContent : Bool) : Attribute → List (Expr × Bool)
  | .named name value => value.expressions (isKept && !(hasContent && name == "children"))
  | .spread value => [(value, isKept)]

/-- Those of several attributes. -/
def Attribute.expressionsOf (isKept hasContent : Bool) : List Attribute → List (Expr × Bool)
  | [] => []
  | a :: rest => a.expressions isKept hasContent ++ Attribute.expressionsOf isKept hasContent rest

/-- Those of the value of an attribute. -/
def AttributeValue.expressions (isKept : Bool) : AttributeValue → List (Expr × Bool)
  | .literal _ => []
  | .bare => []
  | .expr value => [(value, isKept)]
  | .markup node => node.expressions isKept

end

/-- The code for the expressions that are kept. -/
def copied (options : Options) (es : List (Expr × Bool)) : List Code :=
  (es.filter Prod.snd).map fun e => .copy e.1 (e.1.patches options).value

section

variable (options : Options)

@[simp] theorem copied_nil : copied options [] = [] := rfl

/-- What is copied of expressions in a row is in a row. -/
@[simp] theorem copied_append (es fs : List (Expr × Bool)) :
    copied options (es ++ fs) = copied options es ++ copied options fs := by
  rw [copied, List.filter_append, List.map_append]
  rfl

@[simp] theorem copied_kept (e : Expr) :
    copied options [(e, true)] = [.copy e (e.patches options).value] := rfl

mutual

/-- Nothing is kept of what is left out. -/
theorem Markup.copied_expressions_false : (node : Markup) →
    copied options (node.expressions false) = []
  | .element _ tag _ attributes children => by
    rw [Markup.expressions, Bool.false_and, copied_append,
      Attribute.copied_expressionsOf_false false attributes,
      Markup.copied_expressionsOf_false children, List.append_nil]
  | .component _ _ _ attributes children => by
    rw [Markup.expressions, copied_append, Attribute.copied_expressionsOf_false _ attributes,
      Markup.copied_expressionsOf_false children, List.append_nil]
  | .fragment children => Markup.copied_expressionsOf_false children
  | .text _ => rfl
  | .hole _ _ => rfl

theorem Markup.copied_expressionsOf_false : (nodes : List Markup) →
    copied options (Markup.expressionsOf false nodes) = []
  | [] => rfl
  | node :: rest => by
    rw [Markup.expressionsOf, copied_append, node.copied_expressions_false,
      Markup.copied_expressionsOf_false rest, List.append_nil]

theorem Attribute.copied_expressions_false (hasContent : Bool) : (a : Attribute) →
    copied options (a.expressions false hasContent) = []
  | .named _ value => by
    rw [Attribute.expressions, Bool.false_and, value.copied_expressions_false]
  | .spread _ => rfl

theorem Attribute.copied_expressionsOf_false (hasContent : Bool) : (attributes : List Attribute) →
    copied options (Attribute.expressionsOf false hasContent attributes) = []
  | [] => rfl
  | a :: rest => by
    rw [Attribute.expressionsOf, copied_append, a.copied_expressions_false hasContent,
      Attribute.copied_expressionsOf_false hasContent rest, List.append_nil]

theorem AttributeValue.copied_expressions_false : (value : AttributeValue) →
    copied options (value.expressions false) = []
  | .literal _ => rfl
  | .bare => rfl
  | .expr _ => rfl
  | .markup node => node.copied_expressions_false

end

end

/-! ### Static markup has none -/

/-- There are no expressions in static attributes. -/
theorem Attribute.expressionsOf_of_isStatic {isKept hasContent : Bool} {attributes : List Attribute}
    (h : ∀ a ∈ attributes, a.isStatic = true) :
    Attribute.expressionsOf isKept hasContent attributes = [] := by
  induction attributes with
  | nil => rfl
  | cons a rest ih =>
    rw [Attribute.expressionsOf, ih fun b hb => h b (List.mem_cons_of_mem _ hb), List.append_nil]
    have hstatic := h a (by simp)
    cases a with
    | spread value => cases hstatic
    | named name value =>
      rw [Attribute.isStatic, Bool.and_eq_true] at hstatic
      -- a static attribute has a constant value, in which no expression stands
      cases value with
      | literal text => rfl
      | bare => rfl
      | expr value => cases hstatic.2
      | markup node => cases hstatic.2

mutual

/-- There are none in static markup. -/
theorem Markup.expressions_of_isStatic (isKept : Bool) : (node : Markup) → node.isStatic = true →
    node.expressions isKept = []
  | .element _ tag _ attributes children, h => by
    rw [Markup.isStatic, Bool.and_eq_true, List.all_eq_true] at h
    rw [Markup.expressions, Attribute.expressionsOf_of_isStatic h.1,
      Markup.expressionsOf_of_allStatic _ children h.2, List.append_nil]
  | .text _, _ => rfl
  | .component .., h => nomatch h
  | .fragment _, h => nomatch h
  | .hole .., h => nomatch h

/-- Nor in several pieces of it. -/
theorem Markup.expressionsOf_of_allStatic (isKept : Bool) : (nodes : List Markup) →
    Markup.allStatic nodes = true → Markup.expressionsOf isKept nodes = []
  | [], _ => rfl
  | node :: rest, h => by
    rw [Markup.allStatic, Bool.and_eq_true] at h
    rw [Markup.expressionsOf, node.expressions_of_isStatic isKept h.1,
      Markup.expressionsOf_of_allStatic isKept rest h.2, List.append_nil]

end

/-! ### Templates -/

/-- The copied expressions of a template. -/
def Template.copies (bindings : Bindings) (t : Template Code) : List Code :=
  t.values.flatMap (Code.copies bindings)

section

variable (bindings : Bindings)

@[simp] theorem Template.copies_empty : (empty : Template Code).copies bindings = [] := rfl

@[simp] theorem Template.copies_text (cs : List Char) :
    (text cs : Template Code).copies bindings = [] := rfl

/-- A hole copies what its code copies. -/
@[simp] theorem Template.copies_hole (code : Code) :
    (hole code).copies bindings = code.copies bindings := by
  simp [Template.copies]

/-- Two templates in a row copy what both copy. -/
@[simp] theorem Template.copies_append (t u : Template Code) :
    (t ++ u).copies bindings = t.copies bindings ++ u.copies bindings := by
  simp [Template.copies]

/-- A template around content copies what the content copies. -/
theorem copies_inTemplate (content : Template Code) :
    (inTemplate content).value.copies bindings = content.copies bindings :=
  Code.copies_template bindings content

/-- Parentheses around an operand copy nothing more. -/
theorem copies_operand (e : Expr) (code : Code) :
    (operand e code).copies bindings = code.copies bindings := by
  unfold operand
  split <;> simp

/-! ### Attributes -/

/-- An attribute copies what its value copies. -/
@[simp] theorem copies_boundAttribute (name : String) (code : Code) :
    (boundAttribute name code).copies bindings = code.copies bindings := by
  simp [boundAttribute]

/-- So does a hole in a tag. -/
@[simp] theorem copies_directive (code : Code) :
    (directive code).copies bindings = code.copies bindings := by
  simp [directive]

/-- So does an attribute that is written as text if its value is a literal, as literals copy
    nothing. -/
theorem copies_plainAttribute (name : String) {value : AttributeValue} {code : Code}
    (h : ∀ text, value = .literal text → code.copies bindings = []) :
    (plainAttribute name value code).copies bindings = code.copies bindings := by
  unfold plainAttribute
  split
  next text => rw [Template.copies_text, h text rfl]
  next => exact copies_boundAttribute bindings name code

/-- So does one whose value goes through a helper. -/
theorem copies_mappedAttribute (helper : Helper) (name : String) {value : AttributeValue}
    {code : Code} (h : ∀ text, value = .literal text → code.copies bindings = []) :
    (mappedAttribute helper name value code).value.copies bindings = code.copies bindings := by
  unfold mappedAttribute
  split
  · simp [callHelper]
  · exact copies_plainAttribute bindings name h

/-- An attribute copies what its value copies, whatever its kind. -/
theorem copies_attributeTemplate (name : String) {value : AttributeValue} {code : Code}
    (h : ∀ text, value = .literal text → code.copies bindings = []) :
    (attributeTemplate name value code).value.copies bindings = code.copies bindings := by
  unfold attributeTemplate
  cases AttributeKind.of name with
  | ref => simp [callHelper]
  | style => exact copies_mappedAttribute bindings _ _ h
  | classMap => exact copies_mappedAttribute bindings _ _ h
  | event event => exact copies_boundAttribute bindings _ code
  | property property => exact copies_boundAttribute bindings _ code
  | boolean flag => exact copies_boundAttribute bindings _ code
  | namespaced name => exact copies_boundAttribute bindings _ code
  | plain name => exact copies_plainAttribute bindings _ h

/-- An element copies what its tag and its content copy, unless it can have no content. -/
theorem copies_elementTemplate (span : Span) (tag : TagName) (attributes : List Attribute)
    (inTag content : Emit (Template Code)) :
    (elementTemplate span tag attributes inTag content).value.copies bindings =
      inTag.value.copies bindings ++
        if isVoidTag tag.text then [] else content.value.copies bindings := by
  rw [elementTemplate, Emit.value_bind, Emit.value_bind]
  split <;> simp

/-! ### Lists of values -/

/-- A value that stands alone copies what it copies in a list. -/
theorem Leaf.copies_alone (leaf : Leaf) :
    leaf.alone.copies bindings = leaf.code.copies bindings := by
  unfold Leaf.alone
  split <;> simp

/-- A fragment copies what its values copy. -/
theorem copies_fragmentValue (leaves : List Leaf) :
    (fragmentValue leaves).value.copies bindings =
      leaves.flatMap fun leaf => leaf.code.copies bindings := by
  unfold fragmentValue
  split
  · exact copies_inTemplate bindings .empty
  next leaf => simp [copies_inTemplate, Leaf.copies_alone]
  next => simp [List.flatMap_map]

/-- The content of a component copies what its values copy. -/
theorem copies_childrenValue (leaves : List Leaf) :
    (childrenValue leaves).value.toList.flatMap (Code.copies bindings) =
      leaves.flatMap fun leaf => leaf.code.copies bindings := by
  unfold childrenValue
  split
  · rfl
  next leaf =>
    split
    · simp [copies_inTemplate]
    · simp [Leaf.copies_alone]
  next => simp [List.flatMap_map]

/-! ### Components -/

/-- Joining items keeps what they copy, after what the entries before them copy. -/
theorem PropItem.copies_arguments (items : List PropItem) (waiting : List (Entry Code)) :
    (PropItem.arguments waiting items).flatMap (Code.copies bindings) =
      waiting.flatMap (fun e => e.value.copies bindings) ++
        items.flatMap fun item => item.code.copies bindings := by
  induction items generalizing waiting with
  | nil =>
    rw [PropItem.arguments]
    split
    next h => simp [List.isEmpty_iff.1 h]
    next => simp
  | cons item rest ih =>
    cases item with
    | entry e =>
      -- an entry moves from the items to those that wait
      rw [PropItem.arguments, ih]
      simp [PropItem.code]
    | source code =>
      rw [PropItem.arguments, List.flatMap_append, List.flatMap_cons, ih]
      split
      next h => simp [List.isEmpty_iff.1 h, PropItem.code]
      next => simp [PropItem.code]

/-- The argument of a component copies what its properties copy. -/
theorem copies_propsValue (items : List PropItem) :
    (propsValue items).value.copies bindings =
      items.flatMap fun item => item.code.copies bindings := by
  unfold propsValue
  split
  next code => simp [PropItem.code]
  next =>
    split
    · exact (Code.copies_call bindings _ _).trans (PropItem.copies_arguments bindings items [])
    next hsource =>
      -- without spreads every property is an entry, so none is lost on the way into the object
      have hentries : ∀ item ∈ items, item.isSource = false := by simpa using hsource
      calc (Code.object (items.filterMap PropItem.entry?)).copies bindings
          = ((items.filterMap PropItem.entry?).map Entry.value).flatMap (Code.copies bindings) := by
            rw [Code.copies_object, List.flatMap_map]
        _ = items.flatMap fun item => item.code.copies bindings := by
            rw [PropItem.map_value_entries hentries, List.flatMap_map]

/-- A component copies what its properties copy, and then what its content copies. -/
theorem copies_componentCall (span : Span) (tag : TagName) (attributes : List Attribute)
    (children : List Markup) (props : Emit (List PropItem)) (leaves : Emit (List Leaf)) :
    (componentCall span tag attributes children props leaves).value.copies bindings =
      props.value.flatMap (fun item => item.code.copies bindings) ++
        leaves.value.flatMap fun leaf => leaf.code.copies bindings := by
  rw [← copies_childrenValue]
  simp [componentCall, callHelper, copies_propsValue, List.flatMap_map, PropItem.code]

end

/-! ### Markup -/

section

variable (bindings : Bindings) (options : Options)

/-- The copied expressions of a result are those of the tree that are kept. -/
def Traversal.copiesKept : Traversal where
  patches _ _ := True
  part _ _ := True
  parts _ _ := True
  element span tag types attributes children x := x.value.copies bindings =
    copied options ((Markup.element span tag types attributes children).expressions true)
  call span tag types attributes children x := x.value.copies bindings =
    copied options ((Markup.component span tag types attributes children).expressions true)
  value node x := x.value.copies bindings = copied options (node.expressions true)
  template node x := x.value.copies bindings = copied options (node.expressions true)
  templates nodes x := x.value.copies bindings = copied options (Markup.expressionsOf true nodes)
  leaves node x := x.value.flatMap (fun leaf => leaf.code.copies bindings) =
    copied options (node.expressions true)
  leavesOf nodes x := x.value.flatMap (fun leaf => leaf.code.copies bindings) =
    copied options (Markup.expressionsOf true nodes)
  setting a x := x.value.copies bindings = copied options (a.expressions true false)
  settings attributes x := x.value.copies bindings =
    copied options (Attribute.expressionsOf true false attributes)
  props isEmpty a x := x.value.flatMap (fun item => item.code.copies bindings) =
    copied options (a.expressions true (!isEmpty))
  propsOf isEmpty attributes x := x.value.flatMap (fun item => item.code.copies bindings) =
    copied options (Attribute.expressionsOf true (!isEmpty) attributes)
  code value x := x.value.copies bindings = copied options (value.expressions true)

/-- Each step copies what its parts copy, in their order. -/
theorem Traversal.closed_copiesKept : (copiesKept bindings options).Closed options where
  name _ _ := trivial
  paren hx := hx
  markup _ := trivial
  compound hx := hx
  partName _ _ := trivial
  partExpr hx := hx
  partSpread hx := hx
  partFunction hx := hx
  partsNil := trivial
  partsCons _ _ := trivial
  element {_ tag _ _ children _ _} hinTag hcontent := by
    dsimp only [copiesKept] at *
    rw [copies_elementTemplate, hinTag, hcontent, Markup.expressions, copied_append]
    congr 1
    cases isVoidTag tag.text with
    | false => rfl
    | true => exact (Markup.copied_expressionsOf_false options children).symm
  call hprops hleaves := by
    dsimp only [copiesKept] at *
    rw [copies_componentCall, hprops, hleaves, Markup.expressions, copied_append]
  valueElement hx := (copies_inTemplate bindings _).trans hx
  valueComponent hx :=
    (copies_inTemplate bindings _).trans ((Template.copies_hole bindings _).trans hx)
  valueFragment hx := (copies_fragmentValue bindings _).trans hx
  valueText _ := Code.copies_string bindings _
  valueHole _ := rfl
  templateStatic hstatic := by
    -- static markup becomes text, and there is no expression in it
    dsimp only [copiesKept]
    rw [Markup.expressions_of_isStatic true _ hstatic]
    rfl
  templateElement _ hx := hx
  templateComponent hx := (Template.copies_hole bindings _).trans hx
  templateFragment hx := hx
  templateText raw := by
    dsimp only [copiesKept, Emit.value_pure]
    split <;> rfl
  templateHole _ := rfl
  templatesNil := rfl
  templatesCons hx hy := by
    dsimp only [copiesKept] at *
    rw [Emit.value_both, Template.copies_append, hx, hy, Markup.expressionsOf, copied_append]
  leavesElement hx := by
    dsimp only [copiesKept, Emit.value_map_apply] at *
    rw [List.flatMap_singleton, Leaf.plain, Emit.value_bind, copies_inTemplate, hx]
  leavesComponent hx := (List.flatMap_singleton _ _).trans hx
  leavesFragment hx := hx
  leavesText raw := by
    dsimp only [copiesKept, Emit.value_pure]
    split
    · rfl
    · rw [List.flatMap_singleton, Leaf.plain, Code.copies_string]
      rfl
  leavesHole {isSpread value} _ := by
    dsimp only [copiesKept, Emit.value_map_apply]
    rw [List.flatMap_singleton, Markup.expressions, copied_kept]
    cases isSpread with
    | true => exact (Code.copies_spread bindings _).trans (copies_operand bindings value _)
    | false => exact copies_operand bindings value _
  leavesNil := rfl
  leavesCons hx hy := by
    dsimp only [copiesKept] at *
    rw [Emit.value_both, List.flatMap_append, hx, hy, Markup.expressionsOf, copied_append]
  settingNamed {name value x} hx := by
    refine (copies_attributeTemplate bindings name ?_).trans hx
    rintro text rfl
    exact hx
  settingSpread _ := (copies_directive bindings _).trans (Code.copies_call bindings _ _)
  settingsNil := rfl
  settingsCons hx hy := by
    dsimp only [copiesKept] at *
    rw [Emit.value_both, Template.copies_append, hx, hy, Attribute.expressionsOf, copied_append]
  -- there is other content, so the attribute for it is left out
  propsOverridden value := (value.copied_expressions_false options).symm
  propsNamed {isEmpty name value x} hname hx := by
    dsimp only [copiesKept, Emit.value_map_apply] at *
    rw [List.flatMap_singleton, Attribute.expressions, hname]
    exact hx
  propsSpread _ := rfl
  propsNil _ := rfl
  propsCons hx hy := by
    dsimp only [copiesKept] at *
    rw [Emit.value_both, List.flatMap_append, hx, hy, Attribute.expressionsOf, copied_append]
  codeLiteral _ := Code.copies_string bindings _
  codeBare := Code.copies_flag bindings
  codeExpr _ := copies_operand bindings _ _
  codeMarkup hx := hx

/-- **Compiled markup copies each expression that is kept, once and in order.** -/
theorem Markup.copies_value (node : Markup) :
    (node.value options).value.copies bindings = copied options (node.expressions true) :=
  (Traversal.closed_copiesKept bindings options).holds_value node

end

/-- **No expression of markup is lost or written twice.** Compiled markup is a word with one hole
    for each expression that is kept, in the order of the markup. Its text is the word with the
    texts of the expressions in the holes, and markup that lies in the source has one. -/
theorem Markup.holes_word_value (node : Markup) (options : Options) (bindings : Bindings)
    (source : List Char) :
    let code := (node.value options).value
    Word.holes (code.word bindings) = copied options (node.expressions true) ∧
    code.render bindings source = Word.fill (Code.render bindings source) (code.word bindings) ∧
    (node.isPlaced source = true → ∃ text, code.render bindings source = some text) :=
  ⟨node.copies_value bindings options, Code.render_eq_fill bindings source _,
    fun hplaced => (node.ensures_value options hplaced).1⟩

/-- A component with content and an attribute for it, around an element that has no content by its
    tag: of four expressions, the second and the last are kept. -/
theorem Markup.holes_word_value_component :
    ∃ node : Markup,
      node.expressions true =
        [(.name ⟨13, 14⟩ "a", false), (.name ⟨19, 20⟩ "c", true), (.name ⟨27, 28⟩ "d", false),
          (.name ⟨35, 36⟩ "e", true)] ∧
      Word.holes ((node.value {}).value.word ⟨[]⟩) =
        [.copy (.name ⟨19, 20⟩ "c") [], .copy (.name ⟨35, 36⟩ "e") []] ∧
      ∃ text, (node.value {}).value.render ⟨[]⟩
        ("<A children=" ++ braced "a" ++ " b=" ++ braced "c" ++ "><br>" ++ braced "d" ++ "</br>" ++
            braced "e" ++ "</A>").toList =
          some text := by
  obtain ⟨hholes, -, htext⟩ := Markup.holes_word_value
    (.component ⟨0, 41⟩ (.plain "A") []
      [.named "children" (.expr (.name ⟨13, 14⟩ "a")), .named "b" (.expr (.name ⟨19, 20⟩ "c"))]
      [.element ⟨22, 34⟩ (.plain "br") [] [] [.hole false (.name ⟨27, 28⟩ "d")],
        .hole false (.name ⟨35, 36⟩ "e")]) {} ⟨[]⟩
    ("<A children=" ++ braced "a" ++ " b=" ++ braced "c" ++ "><br>" ++ braced "d" ++ "</br>" ++
        braced "e" ++ "</A>").toList
  exact ⟨_, rfl, hholes.trans rfl, htext (by decide +kernel)⟩

end JsxTemplate
