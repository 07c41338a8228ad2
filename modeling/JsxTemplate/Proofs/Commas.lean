import JsxTemplate.Grammar.Module
import JsxTemplate.Proofs.Sites
import JsxTemplate.Proofs.Traversal

namespace JsxTemplate

/-!
# Comma expressions in compiled code

An expression that is copied into a list of values gets parentheses if it is a comma expression,
with the exception of spread attributes: their argument is copied as it is, in the call that sets
the attributes of an element and in the properties of a component.

* `Markup.loose` — the expressions of markup that are copied without parentheses.
* `Traversal.showsLoose`, `Markup.shows_value` — the bare comma expressions of compiled markup are
  those among them.
* `Markup.commas_value` — so a call has the right number of arguments if no such expression has a
  comma.
-/

/-! ### Expressions without parentheses -/

/-- The expression that stands for the value of an attribute as markup. No text has one, since
    braces around the value make it an expression. -/
def AttributeValue.hole : AttributeValue → List Expr
  | .markup (.hole _ value) => [value]
  | _ => []

mutual

/-- The expressions that are copied without parentheses into a list of values, from markup inside
    an expression. -/
def Expr.loose : Expr → List Expr
  | .name _ _ => []
  | .paren _ inner => inner.loose
  | .markup _ node => node.loose
  | .compound _ _ parts => Part.looseOf parts

/-- Those from markup inside a part. -/
def Part.loose : Part → List Expr
  | .name _ _ => []
  | .expr value => value.loose
  | .spread value => value.loose
  | .function parts => Part.looseOf parts

/-- Those from markup inside several parts. -/
def Part.looseOf : List Part → List Expr
  | [] => []
  | part :: rest => part.loose ++ Part.looseOf rest

/-- Those of markup. The content of an element that has none by its tag is dropped. -/
def Markup.loose : Markup → List Expr
  | .element _ tag _ attributes children =>
    Attribute.looseOf attributes ++ if isVoidTag tag.text then [] else Markup.looseOf children
  | .component _ _ _ attributes children =>
    Attribute.loosePropsOf (Markup.flattenAll children).isEmpty attributes ++
      Markup.looseOf children
  | .fragment children => Markup.looseOf children
  | .text _ => []
  | .hole _ value => value.loose

/-- Those of several pieces of markup. -/
def Markup.looseOf : List Markup → List Expr
  | [] => []
  | node :: rest => node.loose ++ Markup.looseOf rest

/-- Those of an attribute of an element: the argument of a spread goes into a call. -/
def Attribute.loose : Attribute → List Expr
  | .named name value => (if AttributeKind.of name = .ref then value.hole else []) ++ value.loose
  | .spread value => value :: value.loose

/-- Those of several attributes of an element. -/
def Attribute.looseOf : List Attribute → List Expr
  | [] => []
  | a :: rest => a.loose ++ Attribute.looseOf rest

/-- Those of an attribute of a component: the argument of a spread is a source of properties. -/
def Attribute.looseProps (isEmpty : Bool) : Attribute → List Expr
  | .named name value => if !isEmpty && name == "children" then [] else value.hole ++ value.loose
  | .spread value => value :: value.loose

/-- Those of several attributes of a component. -/
def Attribute.loosePropsOf (isEmpty : Bool) : List Attribute → List Expr
  | [] => []
  | a :: rest => a.looseProps isEmpty ++ Attribute.loosePropsOf isEmpty rest

/-- Those inside the value of an attribute. -/
def AttributeValue.loose : AttributeValue → List Expr
  | .literal _ => []
  | .bare => []
  | .expr value => value.loose
  | .markup node => node.loose

end

/-! ### Static markup has none -/

/-- A static attribute has no expressions that could be loose. -/
theorem Attribute.loose_of_isStatic {a : Attribute} (h : a.isStatic = true) : a.loose = [] := by
  cases a with
  | spread value => cases h
  | named name value =>
    rw [Attribute.isStatic, Bool.and_eq_true] at h
    cases value with
    | literal text => simp [Attribute.loose, AttributeValue.hole, AttributeValue.loose]
    | bare => simp [Attribute.loose, AttributeValue.hole, AttributeValue.loose]
    | expr value => cases h.2
    | markup node => cases h.2

/-- Nor have several of them. -/
theorem Attribute.looseOf_of_isStatic {attributes : List Attribute}
    (h : ∀ a ∈ attributes, a.isStatic = true) : Attribute.looseOf attributes = [] := by
  induction attributes with
  | nil => rfl
  | cons a rest ih =>
    rw [Attribute.looseOf, Attribute.loose_of_isStatic (h a (by simp)),
      ih fun b hb => h b (List.mem_cons_of_mem _ hb), List.append_nil]

mutual

/-- Static markup has none either. -/
theorem Markup.loose_of_isStatic : (node : Markup) → node.isStatic = true → node.loose = []
  | .element _ tag _ attributes children, h => by
    rw [Markup.isStatic, Bool.and_eq_true, List.all_eq_true] at h
    rw [Markup.loose, Attribute.looseOf_of_isStatic h.1, Markup.looseOf_of_allStatic children h.2,
      ite_self, List.append_nil]
  | .text _, _ => rfl
  | .component .., h => nomatch h
  | .fragment _, h => nomatch h
  | .hole .., h => nomatch h

/-- Nor have several pieces of it. -/
theorem Markup.looseOf_of_allStatic : (nodes : List Markup) → Markup.allStatic nodes = true →
    Markup.looseOf nodes = []
  | [], _ => rfl
  | node :: rest, h => by
    rw [Markup.allStatic, Bool.and_eq_true] at h
    rw [Markup.looseOf, node.loose_of_isStatic h.1, Markup.looseOf_of_allStatic rest h.2,
      List.append_nil]

end

/-! ### Attributes -/

section

variable {es : List Expr}

/-- An attribute shows what its value shows. -/
theorem shows_boundAttribute (name : String) {code : Code} (h : Shows es code.sites) :
    Shows es (boundAttribute name code).sites := by
  simpa [boundAttribute] using h

/-- So does a hole in a tag. -/
theorem shows_directive {code : Code} (h : Shows es code.sites) :
    Shows es (directive code).sites := by
  simpa [directive] using h

/-- So does an attribute that is written as text if its value is a literal. -/
theorem shows_plainAttribute (name : String) (value : AttributeValue) {code : Code}
    (h : Shows value.loose code.sites) :
    Shows value.loose (plainAttribute name value code).sites := by
  unfold plainAttribute
  split
  · exact .nil
  · exact shows_boundAttribute name h

/-- A value that is wrapped is not alone in a hole. -/
theorem AttributeValue.hole_of_isWrappable {value : AttributeValue} (h : value.isWrappable = true) :
    value.hole = [] := by
  cases value with
  | expr e => rfl
  | literal text => rfl
  | bare => rfl
  | markup node => cases h

/-- An attribute whose value goes through a helper shows what stands among the arguments of that. -/
theorem shows_mappedAttribute (helper : Helper) (htakes : ∀ c, helper.Takes [c]) (name : String)
    (value : AttributeValue) {code : Code} (h : Shows value.loose code.sites)
    (hslot : Shows (value.hole ++ value.loose) (Code.sitesInSlots [code])) :
    Shows value.loose (mappedAttribute helper name value code).value.sites := by
  unfold mappedAttribute
  split
  next hwrappable =>
    rw [AttributeValue.hole_of_isWrappable hwrappable, List.nil_append] at hslot
    exact shows_boundAttribute name (hslot.call (htakes code))
  next => exact shows_plainAttribute name value h

/-- An attribute of an element, whichever of the eight ways it is written in. Only where the value
    is an argument may its own comma be bare. -/
theorem shows_attributeTemplate (name : String) (value : AttributeValue) {code : Code}
    (h : Shows value.loose code.sites)
    (hslot : Shows (value.hole ++ value.loose) (Code.sitesInSlots [code])) :
    Shows (Attribute.named name value).loose (attributeTemplate name value code).value.sites := by
  rw [Attribute.loose, attributeTemplate]
  -- only a reference puts its value into a call without looking at it
  cases AttributeKind.of name with
  | ref => exact shows_directive (hslot.call rfl)
  | style => exact shows_mappedAttribute .styleMap (fun _ => rfl) _ value h hslot
  | classMap => exact shows_mappedAttribute .classMap (fun _ => rfl) _ value h hslot
  | event event => exact shows_boundAttribute _ h
  | property property => exact shows_boundAttribute _ h
  | boolean flag => exact shows_boundAttribute _ h
  | namespaced name => exact shows_boundAttribute _ h
  | plain name => exact shows_plainAttribute _ value h

end

/-! ### Markup -/

section

variable (options : Options)

/-- The value of a fragment is no comma expression. -/
theorem comma?_fragmentValue (leaves : List Leaf) : (fragmentValue leaves).value.comma? = none := by
  unfold fragmentValue
  split <;> rfl

/-- The bare comma expressions of a result are those that are loose in the tree. As the value of an
    attribute, compiled markup stands in a list of values, where a hole is loose itself. -/
def Traversal.showsLoose : Traversal where
  patches e x := Shows e.loose (Code.sitesOfPatches x.value)
  part part x := Shows part.loose (Code.sitesOfPatches x.value)
  parts parts x := Shows (Part.looseOf parts) (Code.sitesOfPatches x.value)
  element span tag types attributes children x :=
    Shows (Markup.element span tag types attributes children).loose x.value.sites
  call span tag types attributes children x := x.value.comma? = none ∧
    Shows (Markup.component span tag types attributes children).loose x.value.sites
  value node x := Shows node.loose x.value.sites ∧
    Shows ((AttributeValue.markup node).hole ++ node.loose) (Code.sitesInSlots [x.value])
  template node x := Shows node.loose x.value.sites
  templates nodes x := Shows (Markup.looseOf nodes) x.value.sites
  leaves node x := Leaf.Show node.loose x.value
  leavesOf nodes x := Leaf.Show (Markup.looseOf nodes) x.value
  setting a x := Shows a.loose x.value.sites
  settings attributes x := Shows (Attribute.looseOf attributes) x.value.sites
  props isEmpty a x := PropItem.Show (a.looseProps isEmpty) x.value
  propsOf isEmpty attributes x := PropItem.Show (Attribute.loosePropsOf isEmpty attributes) x.value
  code value x := Shows value.loose x.value.sites ∧
    Shows (value.hole ++ value.loose) (Code.sitesInSlots [x.value])

/-- Each step shows what its parts show. -/
theorem Traversal.closed_showsLoose : showsLoose.Closed options where
  name _ _ := .nil
  paren hx := hx
  markup {span node x} hx := by
    show Shows node.loose (x.value.sites ++ [])
    rw [List.append_nil]
    exact hx.1
  compound hx := hx
  partName _ _ := .nil
  partExpr hx := hx
  partSpread hx := hx
  partFunction hx := hx
  partsNil := .nil
  partsCons {part rest x y} hx hy := by
    show Shows _ (Code.sitesOfPatches (x.value ++ y.value))
    rw [Code.sitesOfPatches_append]
    exact Shows.append hx hy
  element hinTag hcontent := shows_elementTemplate _ _ _ hinTag hcontent
  call hprops hleaves := ⟨rfl, shows_componentCall _ _ _ _ hprops hleaves⟩
  -- compiled markup is a template, an array or a literal, with a hole as the one exception
  valueElement hx := ⟨shows_inTemplate hx, (shows_inTemplate hx).slot rfl⟩
  valueComponent {span tag types attributes children x} hx := by
    have hcall : Shows (Markup.component span tag types attributes children).loose
        (Template.hole x.value).sites := by
      rw [Template.sites_hole]
      exact hx.2
    exact ⟨shows_inTemplate hcall, (shows_inTemplate hcall).slot rfl⟩
  valueFragment hx :=
    ⟨shows_fragmentValue hx, (shows_fragmentValue hx).slot (comma?_fragmentValue _)⟩
  valueText _ := ⟨.nil, .nil⟩
  valueHole hx := ⟨hx, Shows.copy hx⟩
  templateStatic {span tag types attributes children} hstatic := by
    -- static markup becomes text, and nothing in it is loose
    show Shows (Markup.element span tag types attributes children).loose _
    rw [Markup.loose_of_isStatic _ hstatic]
    exact .nil
  templateElement _ hx := hx
  templateComponent {span tag types attributes children x} hx := by
    show Shows _ (Template.hole x.value).sites
    rw [Template.sites_hole]
    exact hx.2
  templateFragment hx := hx
  templateText raw := by
    show Shows [] (if keepsText options raw.toList then _ else _ : Template Code).sites
    split <;> exact .nil
  templateHole {isSpread value} hx := by
    show Shows _ (Template.hole _).sites
    rw [Template.sites_hole]
    exact hx
  templatesNil := .nil
  templatesCons {node rest x y} hx hy := by
    show Shows _ (x.value ++ y.value).sites
    rw [Template.sites_append]
    exact Shows.append hx hy
  leavesElement hx := .singleton rfl (shows_inTemplate hx)
  leavesComponent hx := .singleton hx.1 hx.2
  leavesFragment hx := hx
  leavesText raw := by
    show Leaf.Show [] (if Text.allBlank raw.toList then _ else _)
    split
    · exact .nil
    · exact .singleton rfl .nil
  leavesHole {isSpread value} hx := by
    have hclosed := comma?_operand value (value.patches options).value
    have hsites := shows_operand (e := value) hx
    cases isSpread with
    | true => exact .singleton hclosed hsites
    | false => exact .singleton hclosed hsites
  leavesNil := .nil
  leavesCons hx hy := Leaf.Show.append hx hy
  settingNamed hx := shows_attributeTemplate _ _ hx.1 hx.2
  settingSpread hx := shows_directive ((Shows.copy hx).call rfl)
  settingsNil := .nil
  settingsCons {a rest x y} hx hy := by
    show Shows _ (x.value ++ y.value).sites
    rw [Template.sites_append]
    exact Shows.append hx hy
  propsOverridden _ := .nil
  propsNamed {isEmpty name value x} hname hx := by
    show PropItem.Show (Attribute.looseProps isEmpty (.named name value)) _
    rw [Attribute.looseProps, hname]
    exact ⟨hx.2, by simp⟩
  propsSpread hx := ⟨Shows.copy hx, by simp [Code.isCopy]⟩
  propsNil _ := .nil
  propsCons hx hy := PropItem.Show.append hx hy
  codeLiteral _ := ⟨.nil, .nil⟩
  codeBare := ⟨.nil, .nil⟩
  codeExpr hx := ⟨shows_operand hx, (shows_operand hx).slot (comma?_operand _ _)⟩
  codeMarkup hx := hx

/-- **What compiled markup shows.** The bare comma expressions of its code are those that are loose
    in it, and each call of a helper is as it should be. -/
theorem Markup.shows_value (node : Markup) : Shows node.loose (node.value options).value.sites :=
  ((Traversal.closed_showsLoose options).holds_value node).1

end

/-- **Comma expressions in compiled markup.** Those that stand bare in a list of values are the
    loose ones, in their order. A helper is called with the arguments that it takes, and a reader
    finds as many as there are, unless one of them is loose and has a comma. -/
theorem Markup.commas_value (node : Markup) (options : Options) :
    (node.value options).value.sites.filterMap Site.comma? = node.loose.filter Expr.isSequence ∧
    ∀ helper arguments, .call helper arguments ∈ (node.value options).value.sites →
      helper.Takes arguments ∧
      (Code.argumentCount arguments = arguments.length ∨
        ∃ c ∈ arguments, ∃ e ∈ node.loose, c.comma? = some e) := by
  have hshows := node.shows_value options
  refine ⟨hshows.commas, fun helper arguments hcall => ⟨hshows.takes hcall, ?_⟩⟩
  -- an argument with a bare comma is the only way for a call to count wrongly
  by_cases h : ∀ c ∈ arguments, c.comma? = none
  · exact .inl (Code.argumentCount_eq_length h)
  · push Not at h
    obtain ⟨c, hc, hcomma⟩ := h
    obtain ⟨e, he⟩ := Option.ne_none_iff_exists'.1 hcomma
    exact .inr ⟨c, hc, e, hshows.within hcall c hc e he, he⟩

/-- The component of a spread with a comma, which is loose and is read as two arguments. -/
theorem Markup.commas_value_spread :
    ∃ (node : Markup) (e : Expr), node.loose = [e] ∧ e.isSequence = true ∧
      (node.value {}).value.sites.filterMap Site.comma? = [e] ∧
      ∃ arguments, .call .component arguments ∈ (node.value {}).value.sites ∧
        Helper.component.Takes arguments ∧ Code.argumentCount arguments = 3 := by
  obtain ⟨hcommas, hcalls⟩ := Markup.commas_value (.component ⟨4, 20⟩ (.plain "A") []
    [.spread (.compound .sequence ⟨11, 15⟩
      [.expr (.name ⟨11, 12⟩ "a"), .expr (.name ⟨14, 15⟩ "b")])] []) {}
  exact ⟨_, _, rfl, rfl, hcommas, _, List.Mem.head _, (hcalls _ _ (List.Mem.head _)).1, rfl⟩

/-- In the code for this module, the component is called with three arguments. -/
theorem Markup.component_call_of_three :
    ∃ program piece arguments,
      Program.parse? (Grammar.Dialect.ofPath "a.jsx") ("x = <A " ++ braced "...a, b" ++
          " />;").toList =
        some program ∧
      piece ∈ program.outermost ∧ .call .component arguments ∈ (piece.2.value {}).value.sites ∧
      Code.argumentCount arguments = 3 := by
  have hread : (Program.parse? (Grammar.Dialect.ofPath "a.jsx")
      ("x = <A " ++ braced "...a, b" ++
          " />;").toList).any (fun program => program.outermost.any fun piece =>
        (piece.2.value {}).value.sites.any fun site => match site with
          | .call .component arguments => Code.argumentCount arguments = 3
          | _ => false) = true := by
    decide +kernel
  obtain ⟨program, hparse, hprogram⟩ := (Option.any_eq_true _ _).1 hread
  obtain ⟨piece, hpiece, hsites⟩ := List.any_eq_true.1 hprogram
  obtain ⟨site, hsite, hcount⟩ := List.any_eq_true.1 hsites
  split at hcount
  next arguments => exact ⟨program, piece, arguments, hparse, hpiece, hsite, by simpa using hcount⟩
  next => cases hcount

end JsxTemplate
