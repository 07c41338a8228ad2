import JsxTemplate.Proofs.Traversal
import JsxTemplate.Transform

namespace JsxTemplate

/-!
# Settings that do not change code

Of the settings, the code of markup depends on the one for blank text only. So it does not matter
for the code of a module whether a source map is made.

* `Markup.staticText_congr` — static markup looks at this setting, and at no other one.
* `Traversal.sameAs` — compiling gives what it gives with other settings.
* `Program.patches_congr` — a module is compiled in the same way with both settings.
* `Program.compile_code_congr` — its code is the same with and without a source map.
-/

section

variable {options other : Options}

/-! ### Static markup -/

/-- Which text is kept depends on one option alone. -/
theorem keepsText_congr (h : options.preserveInlineWhitespace = other.preserveInlineWhitespace)
    (raw : List Char) : keepsText options raw = keepsText other raw := by
  rw [keepsText, keepsText, h]

mutual

/-- The text of static markup depends on the setting for blank text only. -/
theorem Markup.staticText_congr
    (h : options.preserveInlineWhitespace = other.preserveInlineWhitespace) : (node : Markup) →
    node.staticText options = node.staticText other
  | .element _ _ _ _ children => by
    rw [Markup.staticText, Markup.staticText, Markup.staticTexts_congr h children]
  | .component .. => rfl
  | .fragment _ => rfl
  | .text raw => by rw [Markup.staticText, Markup.staticText, keepsText_congr h]
  | .hole .. => rfl

theorem Markup.staticTexts_congr
    (h : options.preserveInlineWhitespace = other.preserveInlineWhitespace) :
    (nodes : List Markup) → Markup.staticTexts options nodes = Markup.staticTexts other nodes
  | [] => rfl
  | node :: rest => by
    rw [Markup.staticTexts, Markup.staticTexts, node.staticText_congr h,
      Markup.staticTexts_congr h rest]

end

/-! ### Compiled markup -/

/-- Each tree is compiled to what it is compiled to with the other settings. -/
def Traversal.sameAs (other : Options) : Traversal where
  patches e x := x = e.patches other
  part part x := x = part.patches other
  parts parts x := x = Part.patchesOf other parts
  element span tag _ attributes children x := x = elementTemplate span tag attributes
    (Attribute.templateOf other attributes) (Markup.templateOf other children)
  call span tag _ attributes children x := x = componentCall span tag attributes children
    (Attribute.propsOf other (Markup.flattenAll children).isEmpty attributes)
    (Markup.leavesOf other children)
  value node x := x = node.value other
  template node x := x = node.template other
  templates nodes x := x = Markup.templateOf other nodes
  leaves node x := x = node.leaves other
  leavesOf nodes x := x = Markup.leavesOf other nodes
  setting a x := x = a.template other
  settings attributes x := x = Attribute.templateOf other attributes
  props isEmpty a x := x = a.props other isEmpty
  propsOf isEmpty attributes x := x = Attribute.propsOf other isEmpty attributes
  code value x := x = value.code other

open Emit (bind_pure_eq_map bind_bind_pure_eq_both) in
/-- Each step gives the same under options that agree on text. -/
theorem Traversal.closed_sameAs
    (h : options.preserveInlineWhitespace = other.preserveInlineWhitespace) :
    (sameAs other).Closed options where
  name _ _ := rfl
  paren hx := hx
  markup := by
    rintro span node x rfl
    exact (bind_pure_eq_map _ _).symm
  compound hx := hx
  partName _ _ := rfl
  partExpr hx := hx
  partSpread hx := hx
  partFunction hx := hx
  partsNil := rfl
  partsCons := by
    rintro part rest x y rfl rfl
    exact (bind_bind_pure_eq_both _ _ _).symm
  -- no setting is read here, so both sides unfold to the same steps
  element := by
    rintro span tag types attributes children inTag content rfl rfl
    rfl
  call := by
    rintro span tag types attributes children props leaves rfl rfl
    rfl
  valueElement := by
    rintro span tag types attributes children x rfl
    rfl
  valueComponent := by
    rintro span tag types attributes children x rfl
    rfl
  valueFragment := by
    rintro children x rfl
    rfl
  valueText _ := rfl
  valueHole := by
    intro isSpread value hx
    show _ = Markup.value other (.hole isSpread value)
    rw [hx, Markup.value, bind_pure_eq_map]
  -- the one setting is read here, in the text of a static element, and again in `templateText`
  templateStatic := by
    intro span tag types attributes children hstatic
    show _ = Markup.template other (.element span tag types attributes children)
    rw [Markup.template, if_pos hstatic, bind_pure_eq_map, Markup.staticText_congr h]
  templateElement := by
    rintro span tag types attributes children x hstatic rfl
    show _ = Markup.template other (.element span tag types attributes children)
    rw [Markup.template, hstatic]
    rfl
  templateComponent := by
    rintro span tag types attributes children x rfl
    exact (bind_pure_eq_map _ _).symm
  templateFragment hx := hx
  templateText raw := by
    show _ = Markup.template other (.text raw)
    rw [Markup.template, keepsText_congr h]
  templateHole := by
    intro isSpread value hx
    show _ = Markup.template other (.hole isSpread value)
    rw [hx, Markup.template, bind_pure_eq_map]
  templatesNil := rfl
  templatesCons := by
    rintro node rest x y rfl rfl
    exact (bind_bind_pure_eq_both _ _ _).symm
  leavesElement := by
    rintro span tag types attributes children x rfl
    show _ = Markup.leaves other (.element span tag types attributes children)
    rw [Markup.leaves, ← bind_assoc, bind_pure_eq_map]
  leavesComponent := by
    rintro span tag types attributes children x rfl
    exact (bind_pure_eq_map _ _).symm
  leavesFragment hx := hx
  leavesText _ := rfl
  leavesHole := by
    intro isSpread value hx
    show _ = Markup.leaves other (.hole isSpread value)
    rw [hx, Markup.leaves, bind_pure_eq_map]
  leavesNil := rfl
  leavesCons := by
    rintro node rest x y rfl rfl
    exact (bind_bind_pure_eq_both _ _ _).symm
  settingNamed := by
    rintro name value x rfl
    rfl
  settingSpread := by
    intro value hx
    show _ = Attribute.template other (.spread value)
    rw [hx, Attribute.template, ← bind_assoc, bind_pure_eq_map]
  settingsNil := rfl
  settingsCons := by
    rintro a rest x y rfl rfl
    exact (bind_bind_pure_eq_both _ _ _).symm
  propsOverridden _ := rfl
  propsNamed := by
    rintro isEmpty name value x hname rfl
    show _ = Attribute.props other isEmpty (.named name value)
    rw [Attribute.props, hname, bind_pure_eq_map]
    rfl
  propsSpread := by
    intro isEmpty value hx
    show _ = Attribute.props other isEmpty (.spread value)
    rw [hx, Attribute.props, bind_pure_eq_map]
  propsNil _ := rfl
  propsCons := by
    rintro isEmpty a rest x y rfl rfl
    exact (bind_bind_pure_eq_both _ _ _).symm
  codeLiteral _ := rfl
  codeBare := rfl
  codeExpr := by
    intro value hx
    show _ = AttributeValue.code other (.expr value)
    rw [hx, AttributeValue.code, bind_pure_eq_map]
  codeMarkup hx := hx

/-- A module is compiled in the same way if the setting for blank text is the same. -/
theorem Program.patches_congr
    (h : options.preserveInlineWhitespace = other.preserveInlineWhitespace) (program : Program) :
    program.patches options = program.patches other := by
  have hvalue : ∀ node : Markup, node.value options = node.value other :=
    (Traversal.closed_sameAs h).holds_value
  have hpatch : Markup.patch options = Markup.patch other := by
    funext piece
    rw [Markup.patch, Markup.patch, hvalue]
  rw [Program.patches_eq, Program.patches_eq, hpatch]

end

/-! ### Source maps -/

/-- The code of a module is the same whether or not a source map is made. -/
theorem Program.compile_code_congr (program : Program) (source : List Char) (file : String)
    (options : Options) (isMapped : Bool) :
    (program.compile source file { options with sourceMap := isMapped }).map Compiled.code =
      (program.compile source file options).map Compiled.code := by
  have hpatches : program.patches { options with sourceMap := isMapped } =
      program.patches options := Program.patches_congr (by rfl) program
  have hbindings : Bindings.of program { options with sourceMap := isMapped } =
      Bindings.of program options := rfl
  unfold Program.compile
  rw [hpatches, hbindings]
  dsimp only
  -- with and without an import the parts are put together in the same way; only the map differs
  cases (Bindings.of program options).statement? options.packageName
      (program.patches options).needs with
  | none =>
    simp only [Option.bind_eq_bind, Option.map_bind, Option.pure_def, Function.comp_def,
      Option.map_some]
  | some statement =>
    simp only [Option.bind_eq_bind, Option.map_bind, Option.pure_def, Function.comp_def,
      Option.map_some]

end JsxTemplate
