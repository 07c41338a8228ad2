import JsxTemplate.Proofs.AttributeKinds
import JsxTemplate.Proofs.Emit
import JsxTemplate.Proofs.Templates

namespace JsxTemplate

/-!
# Static markup as text and as compiled markup

An element without any code in it is written out as text if it stands inside another one. Compiling
it as other elements are compiled gives the same text, with one difference: an attribute without a
value becomes a hole that holds `true`.

* `Attribute.pushed` — a static attribute of an element that is compiled.
* `Markup.template_of_isStatic` — inside an open template, static markup is its text.
* `Markup.elementTemplate_of_isStatic` — the two ways compared.
-/

/-! ### Attributes -/

/-- Whether an attribute has no value. -/
def Attribute.isBare : Attribute → Bool
  | .named _ .bare => true
  | _ => false

/-- A static attribute of an element that is compiled: its text, and after that of a bare attribute
    an equals sign and a hole that holds `true`. -/
def Attribute.pushed (a : Attribute) : Template Code :=
  if a.isBare then .text (a.staticText ++ ['=']) ++ .hole .flag else .text a.staticText

variable {options : Options}

/-- A constant attribute is written as in static markup, if its name is shown so. -/
theorem plainAttribute_of_isConstant {name shown : String} {value : AttributeValue} {code : Code}
    (hvalue : value.isConstant = true) (hcode : value.code options = pure code)
    (hshown : (if name = "classMap" then "class" else normalName name) = shown) :
    plainAttribute shown value code = (Attribute.named name value).pushed := by
  subst hshown
  cases value with
  | literal text => rfl
  | bare =>
    obtain rfl : code = .flag := (congrArg Emit.value hcode).symm
    rfl
  | expr e => cases hvalue
  | markup node => cases hvalue

/-- So is one whose value would go through a helper, since constants do not. -/
theorem mappedAttribute_of_isConstant {name shown : String} {value : AttributeValue} {code : Code}
    (helper : Helper) (hvalue : value.isConstant = true) (hcode : value.code options = pure code)
    (hshown : (if name = "classMap" then "class" else normalName name) = shown) :
    mappedAttribute helper shown value code = pure (Attribute.named name value).pushed := by
  -- only expressions are wrapped, and no constant is one
  have hwrappable : value.isWrappable = false := by
    cases value with
    | literal text => rfl
    | bare => rfl
    | expr e => cases hvalue
    | markup node => rfl
  rw [mappedAttribute, hwrappable, ← plainAttribute_of_isConstant hvalue hcode hshown]
  rfl

/-- The value of a static attribute needs nothing and reports nothing. -/
theorem AttributeValue.exists_code_of_isConstant (options : Options) {value : AttributeValue}
    (h : value.isConstant = true) : ∃ code, value.code options = pure code := by
  cases value with
  | literal text => exact ⟨_, rfl⟩
  | bare => exact ⟨_, rfl⟩
  | expr e => cases h
  | markup node => cases h

/-- A static attribute is pushed as text, and notes nothing. -/
theorem Attribute.template_of_isStatic {a : Attribute} (h : a.isStatic = true) :
    a.template options = pure a.pushed := by
  cases a with
  | spread value => cases h
  | named name value =>
    rw [Attribute.isStatic, Bool.and_eq_true] at h
    obtain ⟨hkind, hvalue⟩ := h
    obtain ⟨code, hcode⟩ := AttributeValue.exists_code_of_isConstant options hvalue
    rw [Attribute.template, hcode, pure_bind, attributeTemplate]
    -- a static attribute is one of two special names, or plain after all
    obtain ⟨rfl, hof⟩ | ⟨rfl, hof⟩ | ⟨-, hmap, hof⟩ := AttributeKind.of_isTextual hkind
    · rw [hof]
      exact mappedAttribute_of_isConstant .styleMap hvalue hcode rfl
    · rw [hof]
      exact mappedAttribute_of_isConstant .classMap hvalue hcode rfl
    · rw [hof]
      exact congrArg pure (plainAttribute_of_isConstant hvalue hcode (if_neg hmap))

/-- So are several of them. -/
theorem Attribute.templateOf_of_isStatic {attributes : List Attribute}
    (h : ∀ a ∈ attributes, a.isStatic = true) :
    Attribute.templateOf options attributes =
      pure (Template.concat (attributes.map Attribute.pushed)) := by
  induction attributes with
  | nil => rfl
  | cons a rest ih =>
    rw [Attribute.templateOf, Attribute.template_of_isStatic (h a (by simp)),
      ih fun b hb => h b (List.mem_cons_of_mem _ hb)]
    rfl

/-- Attributes that all have a value become their text. -/
theorem Attribute.concat_pushed_of_not_isBare {attributes : List Attribute}
    (h : ∀ a ∈ attributes, a.isBare = false) :
    Template.concat (attributes.map Attribute.pushed) =
      .text (attributes.flatMap Attribute.staticText) := by
  induction attributes with
  | nil => rfl
  | cons a rest ih =>
    have hpushed : a.pushed = .text a.staticText := by
      rw [Attribute.pushed, h a (by simp)]
      rfl
    rw [List.map_cons, Template.concat_cons, hpushed,
      ih fun b hb => h b (List.mem_cons_of_mem _ hb), Template.text_append_text, List.flatMap_cons]

/-! ### Content -/

/-- Of pieces that are all static each one is. -/
theorem Markup.isStatic_of_mem {nodes : List Markup} (h : Markup.allStatic nodes = true) :
    ∀ node ∈ nodes, node.isStatic = true := by
  induction nodes with
  | nil => simp
  | cons node rest ih =>
    rw [Markup.allStatic, Bool.and_eq_true] at h
    exact List.forall_mem_cons.2 ⟨h.1, ih h.2⟩

/-- Inside an open template, static markup is its text. -/
theorem Markup.template_of_isStatic {node : Markup} (h : node.isStatic = true) :
    node.template options = Template.text <$> node.staticText options := by
  cases node with
  | element span tag types attributes children =>
    rw [Markup.template, if_pos h]
    rfl
  | text raw =>
    rw [Markup.template, Markup.staticText, map_pure]
    split <;> rfl
  | component span tag types attributes children => cases h
  | fragment children => cases h
  | hole spread value => cases h

/-- Pieces that are all static are one text. -/
theorem Markup.templateOf_of_allStatic {nodes : List Markup} (h : Markup.allStatic nodes = true) :
    Markup.templateOf options nodes = Template.text <$> Markup.staticTexts options nodes := by
  induction nodes with
  | nil => rfl
  | cons node rest ih =>
    rw [Markup.allStatic, Bool.and_eq_true] at h
    rw [Markup.templateOf, Markup.staticTexts, Markup.template_of_isStatic h.1, ih h.2]
    simp only [map_eq_pure_bind, bind_assoc, pure_bind, Template.text_append_text]

/-- Reporting notes no helper. -/
theorem needs_reportClasses (span : Span) (tag : TagName) (attributes : List Attribute) :
    (reportClasses span tag attributes).needs = [] := by
  unfold reportClasses
  split <;> rfl

mutual

/-- Text calls no helper. -/
theorem Markup.needs_staticText : (node : Markup) → (node.staticText options).needs = []
  | .element span tag types attributes children => by
    rw [Markup.staticText, Emit.needs_bind, needs_reportClasses, List.nil_append]
    dsimp only
    split
    · rfl
    · rw [Emit.needs_bind, Markup.needs_staticTexts children, List.nil_append]
      rfl
  | .component .. => rfl
  | .fragment _ => rfl
  | .text _ => rfl
  | .hole .. => rfl

theorem Markup.needs_staticTexts : (nodes : List Markup) →
    (Markup.staticTexts options nodes).needs = []
  | [] => rfl
  | node :: rest => by
    rw [Markup.staticTexts, Emit.needs_bind, node.needs_staticText, Emit.needs_bind,
      Markup.needs_staticTexts rest]
    rfl

end

/-! ### The two ways -/

/-- What follows the attributes of a static element. -/
def staticRest (options : Options) (tag : TagName) (children : List Markup) : Emit (List Char) :=
  if isVoidTag tag.text then return " />".toList
  else do return '>' :: (← Markup.staticTexts options children) ++ closingTag tag

/-- The text of a static element: its tag with the attributes, and the rest. -/
theorem Markup.staticText_element (span : Span) (tag : TagName) (types : List Part)
    (attributes : List Attribute) (children : List Markup) :
    (Markup.element span tag types attributes children).staticText options = do
      reportClasses span tag attributes
      return '<' :: tag.text.toList ++ attributes.flatMap Attribute.staticText ++
        (← staticRest options tag children) := by
  rw [Markup.staticText, staticRest]
  congr 1
  funext _
  split
  · rfl
  · simp only [bind_assoc, pure_bind, List.append_assoc, List.cons_append]

/-- An element with static attributes and content is compiled to that text, too. -/
theorem elementTemplate_of_static (options : Options) (span : Span) (tag : TagName)
    {attributes : List Attribute} {children : List Markup}
    (hattributes : ∀ a ∈ attributes, a.isStatic = true)
    (hchildren : Markup.allStatic children = true) :
    elementTemplate span tag attributes (Attribute.templateOf options attributes)
        (Markup.templateOf options children) = do
      reportClasses span tag attributes
      return .text ('<' :: tag.text.toList) ++ Template.concat (attributes.map Attribute.pushed) ++
        .text (← staticRest options tag children) := by
  rw [elementTemplate, Attribute.templateOf_of_isStatic hattributes,
    Markup.templateOf_of_allStatic hchildren, staticRest]
  congr 1
  funext _
  rw [pure_bind]
  -- a void element ends with its tag
  split
  · rfl
  · simp only [map_eq_pure_bind, bind_assoc, pure_bind, Template.append_assoc,
      Template.text_append_text]
    rfl

/-- **Static markup is written out as it would be compiled.** Compiling a static element as other
    elements are compiled, after any code before it, calls no helper and reports what writing it out
    reports. It adds the same text, but for bare attributes of the element itself, after which an
    equals sign and a hole that holds `true` are put. All markup inside of it is static. -/
theorem Markup.elementTemplate_of_isStatic (options : Options) (before : Emit (Template Code))
    (span : Span) (tag : TagName) (types : List Part) (attributes : List Attribute)
    (children : List Markup)
    (h : (Markup.element span tag types attributes children).isStatic = true) :
    let inlined := (Markup.element span tag types attributes children).staticText options
    let pushed : Emit (Template Code) := do
      return (← before) ++ (← elementTemplate span tag attributes
        (Attribute.templateOf options attributes) (Markup.templateOf options children))
    pushed.needs = before.needs ∧ pushed.notices = before.notices ++ inlined.notices ∧
    (∃ rest,
      inlined.value = '<' :: tag.text.toList ++ attributes.flatMap Attribute.staticText ++ rest ∧
      pushed.value = before.value ++ (.text ('<' :: tag.text.toList) ++
        Template.concat (attributes.map Attribute.pushed) ++ .text rest)) ∧
    ((∀ a ∈ attributes, a.isBare = false) →
      pushed.value = before.value ++ .text inlined.value) ∧
    ∀ child ∈ children, child.isStatic = true := by
  rw [Markup.isStatic, Bool.and_eq_true, List.all_eq_true] at h
  obtain ⟨hattributes, hchildren⟩ := h
  intro inlined pushed
  have hinlined : inlined = _ := Markup.staticText_element span tag types attributes children
  have hcompiled := elementTemplate_of_static options span tag hattributes hchildren
  have hvalue : pushed.value = before.value ++ (.text ('<' :: tag.text.toList) ++
      Template.concat (attributes.map Attribute.pushed) ++
        .text (staticRest options tag children).value) := by
    simp only [pushed, hcompiled, Emit.value_bind, Emit.value_pure]
  have htext : inlined.value = '<' :: tag.text.toList ++
      attributes.flatMap Attribute.staticText ++ (staticRest options tag children).value := by
    rw [hinlined, Emit.value_bind, Emit.value_bind, Emit.value_pure]
  refine ⟨?_, ?_, ⟨_, htext, hvalue⟩, fun hbare => ?_, Markup.isStatic_of_mem hchildren⟩
  · -- the steps are those of writing out, which needs nothing
    have hneeds : inlined.needs = [] := Markup.needs_staticText _
    rw [hinlined] at hneeds
    simp only [pushed, hcompiled, Emit.needs_bind, Emit.needs_pure, List.append_nil] at hneeds ⊢
    rw [hneeds, List.append_nil]
  · simp only [pushed, hinlined, hcompiled, Emit.notices_bind, Emit.notices_pure, List.append_nil]
  · rw [hvalue, htext, Attribute.concat_pushed_of_not_isBare hbare, Template.text_append_text,
      Template.text_append_text]

/-- A paragraph with a bare attribute, and an element without content inside of it. -/
theorem Markup.elementTemplate_of_isStatic_paragraph :
    ∃ (attributes : List Attribute) (children : List Markup),
      (Markup.element ⟨0, 0⟩ (.plain "p") [] attributes children).isStatic = true ∧
      (elementTemplate ⟨0, 0⟩ (.plain "p") attributes (Attribute.templateOf {} attributes)
        (Markup.templateOf {} children)).value =
        .text "<p class=\"a\" hidden=".toList ++ .hole .flag ++ .text "><br />b</p>".toList := by
  have hstatic : (Markup.element ⟨0, 0⟩ (.plain "p") []
      [.named "className" (.literal "a"), .named "hidden" .bare]
      [.element ⟨0, 0⟩ (.plain "br") [] [] [], .text "b"]).isStatic = true := by decide +kernel
  obtain ⟨-, -, ⟨rest, htext, hvalue⟩, -⟩ :=
    Markup.elementTemplate_of_isStatic {} (pure .empty) _ _ _ _ _ hstatic
  -- the text is known, so what follows the attributes is
  have hrest : rest = "><br />b</p>".toList :=
    List.append_cancel_left (htext.symm.trans (by decide +kernel))
  subst hrest
  exact ⟨_, _, hstatic, hvalue⟩

end JsxTemplate
