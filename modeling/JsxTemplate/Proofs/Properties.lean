import JsxTemplate.Grammar.Module
import JsxTemplate.Proofs.Alike
import JsxTemplate.Proofs.Frames
import JsxTemplate.Proofs.Sites
import Mathlib.Algebra.Order.BigOperators.Group.List
import Mathlib.Algebra.Order.Ring.Nat

namespace JsxTemplate

/-!
# The properties of a component

A component is called with one value for its properties: an object literal, the argument of a
spread, or a call that joins several of these. Here this value is read back as a list of properties,
from left to right, and compared with the attributes and the content that the component has.

* `Code.propertyList` — the properties that code is read as.
* `Attribute.propertiesOf` — those that a component is given.
* `PropItem.flatMap_gives_arguments` — cutting items into arguments keeps all of them, in order.
* `propsValue_cases` — the three forms of the value.
* `Markup.component_properties` — what is read is what is given, except that a spread of a bare
  comma expression is read as several.
-/

/-! ### Reading -/

/-- What stands among the properties of a component. -/
inductive Property where
  /-- A property that is written out. -/
  | entry (entry : Entry Code)
  /-- An object with properties. -/
  | source (e : Expr)

/-- The expression that a part is. -/
def Part.expr? : Part → Option Expr
  | .expr value => some value
  | _ => none

/-- The expressions that one is read as in a list of values, where a bare comma divides it. -/
def Expr.operands : Expr → List Expr
  | .compound .sequence _ parts => parts.filterMap Part.expr?
  | e => [e]

/-- The properties that one value is read as. -/
def Code.gives : Code → List Property
  | .object entries => entries.map .entry
  | .copy e _ => e.operands.map .source
  | _ => []

/-- The properties that code is read as, from left to right. -/
def Code.propertyList : Code → List Property
  | .call .mergeProps arguments => arguments.flatMap Code.gives
  | code => code.gives

namespace Property

/-- What a property is read as in a list of values. -/
def operands : Property → List Property
  | entry e => [entry e]
  | source e => e.operands.map source

/-- What a property says about a key, where `held` says what objects hold. -/
def entryAt (held : Expr → String → Option (Entry Code)) (key : String) :
    Property → Option (Entry Code)
  | entry e => if e.key = key then some e else none
  | source e => held e key

/-- What properties say about a key in the end: a later one overrides those before it. -/
def lastAt (held : Expr → String → Option (Entry Code)) (key : String)
    (properties : List Property) : Option (Entry Code) :=
  (properties.filterMap (entryAt held key)).getLast?

end Property

/-! ### What a component is given -/

/-- Whether an attribute of a component counts: one for the content does only if there is no other
    content. -/
def Attribute.counts (isEmpty : Bool) (a : Attribute) : Bool :=
  isEmpty || a.name? != some "children"

/-- What an attribute of a component gives to it. -/
def Attribute.property (options : Options) : Attribute → Property
  | .named name value => .entry ⟨name, (value.code options).value, value.needsGetter⟩
  | .spread value => .source value

/-- The property for the content of a component. -/
def Markup.contentEntry (options : Options) (children : List Markup) : Option (Entry Code) :=
  (childrenValue (Markup.leavesOf options children).value).value.map fun code =>
    ⟨"children", code, childrenNeedGetter (Markup.flattenAll children)⟩

/-- The properties of a component: its attributes in the order of the text, then its content. -/
def Attribute.propertiesOf (options : Options) (attributes : List Attribute)
    (children : List Markup) : List Property :=
  (attributes.filter (Attribute.counts (Markup.flattenAll children).isEmpty)).map
      (Attribute.property options) ++
    (Markup.contentEntry options children).toList.map .entry

/-! ### Bare comma expressions -/

namespace Expr

/-- An expression without a comma of its own is one operand. -/
theorem operands_of_not_isSequence {e : Expr} (h : e.isSequence = false) : e.operands = [e] := by
  unfold operands
  split
  · cases h
  · rfl

end Expr

namespace Property

/-- So is a value that is spread. -/
theorem operands_of_not_isSequence {e : Expr} (h : e.isSequence = false) :
    (source e).operands = [source e] := by
  rw [operands, Expr.operands_of_not_isSequence h, List.map_singleton]

/-- The expressions among parts are smaller than the parts, even together. -/
theorem sum_sources_le (parts : List Part) :
    (((parts.filterMap Part.expr?).map source).map sizeOf).sum ≤ sizeOf parts := by
  induction parts with
  | nil => simp
  | cons part rest ih =>
    rw [List.filterMap_cons, List.cons.sizeOf_spec]
    cases part with
    -- an expression is counted at its part, any other part is only larger than nothing
    | expr value =>
      simp only [Part.expr?, List.map_cons, List.sum_cons, Part.expr.sizeOf_spec,
        source.sizeOf_spec]
      omega
    | _ =>
      simp only [Part.expr?]
      omega

/-- The operands of a comma expression are parts of it. -/
theorem sum_operands_lt {e : Expr} (h : e.isSequence = true) :
    ((source e).operands.map sizeOf).sum < sizeOf (source e) := by
  unfold Expr.isSequence at h
  split at h
  next span parts =>
    have hsum := sum_sources_le parts
    simp only [operands, Expr.operands, source.sizeOf_spec, Expr.compound.sizeOf_spec]
    omega
  next => cases h

/-- The operands of a property are together not larger than the property. -/
theorem sum_operands_le (p : Property) : (p.operands.map sizeOf).sum ≤ sizeOf p := by
  cases p with
  | entry e => simp [operands]
  | source e =>
    cases hcomma : e.isSequence with
    | true => exact (sum_operands_lt hcomma).le
    | false => simp [operands_of_not_isSequence hcomma]

/-- Properties are read as they are if none of them is a bare comma expression, and only then: its
    operands are smaller than it is. -/
theorem flatMap_operands_eq_self_iff (properties : List Property) :
    properties.flatMap operands = properties ↔
      ∀ e, source e ∈ properties → e.isSequence = false := by
  constructor
  · intro hself e he
    by_contra hcomma
    rw [Bool.not_eq_false] at hcomma
    -- lengths do not tell the two lists apart if a comma expression has a single operand; sizes do
    have hlt : (properties.map fun p => (p.operands.map sizeOf).sum).sum <
        (properties.map sizeOf).sum :=
      List.sum_lt_sum _ _ (fun p _ => p.sum_operands_le) ⟨source e, he, sum_operands_lt hcomma⟩
    have heq : ((properties.flatMap operands).map sizeOf).sum =
        (properties.map fun p => (p.operands.map sizeOf).sum).sum := by
      rw [List.map_flatMap, List.flatMap, List.sum_flatten, List.map_map]
      rfl
    rw [hself] at heq
    omega
  · intro h
    induction properties with
    | nil => rfl
    | cons p rest ih =>
      have hp : p.operands = [p] := by
        cases p with
        | entry e => rfl
        | source e => exact operands_of_not_isSequence (h e List.mem_cons_self)
      rw [List.flatMap_cons, hp, ih fun e he => h e (List.mem_cons_of_mem _ he)]
      rfl

/-- A property that is written out last has the last word about its key. -/
theorem lastAt_append_entry (held : Expr → String → Option (Entry Code))
    (properties : List Property) (e : Entry Code) :
    lastAt held e.key (properties ++ [entry e]) = some e := by
  simp [lastAt, entryAt]

end Property

/-! ### Items and arguments -/

namespace PropItem

/-- The properties that an item is read as. -/
def properties : PropItem → List Property
  | entry e => [.entry e]
  | source code => code.gives

/-- Entries that wait become an object, unless there are none. -/
theorem flatMap_gives_waiting (waiting : List (Entry Code)) :
    (if waiting.isEmpty then [] else [Code.object waiting]).flatMap Code.gives =
      waiting.map .entry := by
  cases waiting with
  | nil => rfl
  | cons e rest => simp [Code.gives]

/-- Cutting items into arguments loses none of them and keeps their order. -/
theorem flatMap_gives_arguments (waiting : List (Entry Code)) (items : List PropItem) :
    (arguments waiting items).flatMap Code.gives =
      waiting.map .entry ++ items.flatMap properties := by
  -- the entries that wait grow along the items, until a source or the end makes an object of them
  induction items generalizing waiting with
  | nil => rw [arguments, flatMap_gives_waiting, List.flatMap_nil, List.append_nil]
  | cons item rest ih =>
    cases item with
    | entry e =>
      rw [arguments, ih, List.map_append, List.append_assoc, List.flatMap_cons]
      rfl
    | source code =>
      rw [arguments, List.flatMap_append, flatMap_gives_waiting, List.flatMap_cons, ih,
        List.flatMap_cons]
      rfl

/-- No argument is an empty object. -/
theorem object_nil_not_mem_arguments {items : List PropItem} (waiting : List (Entry Code))
    (h : ∀ code, .source code ∈ items → code.isCopy = true) :
    Code.object [] ∉ arguments waiting items := by
  -- the entries that wait are written as an object only if there are some
  have hflushed : ∀ waiting : List (Entry Code),
      Code.object [] ∉ if waiting.isEmpty then [] else [Code.object waiting] := by
    intro waiting
    cases waiting <;> simp
  induction items generalizing waiting with
  | nil => exact hflushed waiting
  | cons item rest ih =>
    have hrest := ih (h := fun code hc => h code (List.mem_cons_of_mem _ hc))
    cases item with
    | entry e => exact hrest (waiting ++ [e])
    | source code =>
      -- a spread is a copied expression, never an object of its own
      have hcopy := Code.isObject_of_isCopy (h code List.mem_cons_self)
      rw [arguments, List.mem_append, List.mem_cons]
      rintro (hmem | rfl | hmem)
      · exact hflushed waiting hmem
      · cases hcopy
      · exact hrest [] hmem

/-- Items without a source are the properties in them. -/
theorem map_entry_filterMap {items : List PropItem} (h : items.any isSource = false) :
    (items.filterMap entry?).map Property.entry = items.flatMap properties := by
  induction items with
  | nil => rfl
  | cons item rest ih =>
    rw [List.any_cons, Bool.or_eq_false_iff] at h
    cases item with
    | entry e =>
      rw [List.filterMap_cons, List.flatMap_cons, ← ih h.2]
      rfl
    | source code => cases h.1

end PropItem

/-- The forms of properties: one source as it is, an object literal, or several joined. -/
theorem propsValue_cases (items : List PropItem) :
    (∃ code, items = [.source code] ∧ (propsValue items).value = code) ∨
    (items.any PropItem.isSource = false ∧
      (propsValue items).value = .object (items.filterMap PropItem.entry?)) ∨
    (items.any PropItem.isSource = true ∧ (¬∃ code, items = [.source code]) ∧
      (propsValue items).value = .call .mergeProps (PropItem.arguments [] items)) := by
  by_cases hlone : ∃ code, items = [.source code]
  · obtain ⟨code, rfl⟩ := hlone
    exact .inl ⟨code, rfl, rfl⟩
  · rw [propsValue_of_not_lone hlone]
    split
    next hany => exact .inr (.inr ⟨hany, hlone, rfl⟩)
    next hany => exact .inr (.inl ⟨by simpa using hany, rfl⟩)

/-- The value of properties is read as the items that it is made of. -/
theorem propertyList_propsValue {items : List PropItem}
    (h : ∀ code, .source code ∈ items → code.isCopy = true) :
    (propsValue items).value.propertyList = items.flatMap PropItem.properties := by
  obtain ⟨code, rfl, hvalue⟩ | ⟨hany, hvalue⟩ | ⟨-, -, hvalue⟩ := propsValue_cases items
  · -- a lone source is read by itself, so it must not be a call that joins others
    have hcopy := h code List.mem_cons_self
    rw [hvalue]
    cases code with
    | copy e patches => exact (List.append_nil _).symm
    | _ => cases hcopy
  · rw [hvalue]
    exact PropItem.map_entry_filterMap hany
  · rw [hvalue]
    exact PropItem.flatMap_gives_arguments [] items

/-! ### Components -/

/-- The item that an attribute of a component becomes. -/
def Attribute.item (options : Options) : Attribute → PropItem
  | .named name value => .entry ⟨name, (value.code options).value, value.needsGetter⟩
  | .spread value => .source (.copy value (value.patches options).value)

/-- The items that the attributes and the content of a component become. -/
def Attribute.itemsOf (options : Options) (attributes : List Attribute)
    (children : List Markup) : List PropItem :=
  (attributes.filter (Attribute.counts (Markup.flattenAll children).isEmpty)).map
      (Attribute.item options) ++
    (Markup.contentEntry options children).toList.map .entry

/-- The value for the properties of a component. -/
def Attribute.propsCode (options : Options) (attributes : List Attribute)
    (children : List Markup) : Code :=
  (propsValue (Attribute.itemsOf options attributes children)).value

section

variable (options : Options)

/-- The properties of a component are those of the attributes that count. -/
theorem Attribute.value_propsOf (isEmpty : Bool) (attributes : List Attribute) :
    (Attribute.propsOf options isEmpty attributes).value =
      (attributes.filter (Attribute.counts isEmpty)).map (Attribute.item options) := by
  induction attributes with
  | nil => rfl
  | cons a rest ih =>
    -- an attribute gives one property, or none if the content of the component replaces it
    have ha : (a.props options isEmpty).value =
        if a.counts isEmpty then [a.item options] else [] := by
      cases a with
      | named name value =>
        cases isEmpty with
        | true => rfl
        | false => by_cases hname : name = "children" <;>
            simp [Attribute.props, Attribute.counts, Attribute.name?, Attribute.item, hname]
      | spread value =>
        simp [Attribute.props, Attribute.counts, Attribute.name?, Attribute.item]
    rw [Attribute.propsOf, Emit.value_bind, Emit.value_bind, Emit.value_pure, ih, ha,
      List.filter_cons]
    split <;> rfl

/-- A component is called with its tag and one argument for all properties. -/
theorem value_componentCall (span : Span) (tag : TagName) (attributes : List Attribute)
    (children : List Markup) :
    (componentCall span tag attributes children
        (Attribute.propsOf options (Markup.flattenAll children).isEmpty attributes)
        (Markup.leavesOf options children)).value =
      .call .component [.name tag, Attribute.propsCode options attributes children] := by
  have hcontent : (Markup.contentEntry options children).toList.map PropItem.entry =
      (childrenValue (Markup.leavesOf options children).value).value.toList.map fun code =>
        .entry ⟨"children", code, childrenNeedGetter (Markup.flattenAll children)⟩ := by
    rw [Markup.contentEntry]
    cases (childrenValue (Markup.leavesOf options children).value).value <;> rfl
  rw [Attribute.propsCode, Attribute.itemsOf, hcontent, ← Attribute.value_propsOf]
  rfl

/-- As a value, the call is in the hole of a template. -/
theorem Markup.value_component (span : Span) (tag : TagName) (types : List Part)
    (attributes : List Attribute) (children : List Markup) :
    ((Markup.component span tag types attributes children).value options).value =
      .template (.hole (.call .component
        [.name tag, Attribute.propsCode options attributes children])) := by
  rw [Markup.value, Emit.value_bind, value_componentCall]
  rfl

/-- There is a property for the content if there is content. -/
theorem Markup.isSome_contentEntry (children : List Markup) :
    (Markup.contentEntry options children).isSome = true ↔ Markup.flattenAll children ≠ [] := by
  rw [ne_eq, ← Markup.leavesOf_eq_nil_iff options children, Markup.contentEntry,
    Option.isSome_map]
  constructor
  · intro hsome hleaves
    rw [hleaves] at hsome
    cases hsome
  · intro hleaves
    obtain ⟨code, hvalue, -⟩ := exists_childrenValue hleaves
    rw [hvalue]
    rfl

variable {options}

/-- That property has the name of content. -/
theorem Markup.key_contentEntry {children : List Markup} {entry : Entry Code}
    (h : Markup.contentEntry options children = some entry) : entry.key = "children" := by
  obtain ⟨code, -, rfl⟩ := Option.map_eq_some_iff.1 h
  rfl

namespace Attribute

variable {attributes : List Attribute} {children : List Markup}

/-- An attribute that is a spread counts whatever the content is. -/
theorem spread_mem_filter_counts (isEmpty : Bool) (e : Expr) :
    .spread e ∈ attributes.filter (Attribute.counts isEmpty) ↔ .spread e ∈ attributes := by
  simp [List.mem_filter, counts, name?]

/-- What is spread among the properties is spread among the attributes. -/
theorem source_mem_propertiesOf (e : Expr) :
    .source e ∈ propertiesOf options attributes children ↔ .spread e ∈ attributes := by
  rw [propertiesOf, List.mem_append, List.mem_map, ← spread_mem_filter_counts]
  constructor
  · rintro (⟨a, ha, heq⟩ | hlast)
    · -- only a spread gives a source
      cases a with
      | named name value => cases heq
      | spread value =>
        cases heq
        exact ha
    · simp at hlast
  · intro he
    exact .inl ⟨_, he, rfl⟩

/-- So it is in the code for them, where the expression is copied. -/
theorem source_mem_itemsOf (code : Code) :
    .source code ∈ itemsOf options attributes children ↔
      ∃ e, .spread e ∈ attributes ∧ code = .copy e (e.patches options).value := by
  rw [itemsOf, List.mem_append, List.mem_map]
  constructor
  · rintro (⟨a, ha, heq⟩ | hlast)
    · cases a with
      | named name value => cases heq
      | spread value =>
        cases heq
        exact ⟨value, (spread_mem_filter_counts _ value).1 ha, rfl⟩
    · simp at hlast
  · rintro ⟨e, he, rfl⟩
    exact .inl ⟨_, (spread_mem_filter_counts _ e).2 he, rfl⟩

/-- All that is spread is copied. -/
theorem isCopy_of_source_mem_itemsOf :
    ∀ code, .source code ∈ itemsOf options attributes children → code.isCopy = true := by
  intro code hcode
  obtain ⟨e, -, rfl⟩ := (source_mem_itemsOf code).1 hcode
  rfl

/-- Something is spread in the code if something is among the attributes. -/
theorem any_isSource_itemsOf :
    (itemsOf options attributes children).any PropItem.isSource = true ↔
      ∃ e, .spread e ∈ attributes := by
  rw [List.any_eq_true]
  constructor
  · rintro ⟨item, hitem, hsource⟩
    cases item with
    | entry e => cases hsource
    | source code =>
      obtain ⟨e, he, -⟩ := (source_mem_itemsOf code).1 hitem
      exact ⟨e, he⟩
  · rintro ⟨e, he⟩
    exact ⟨_, (source_mem_itemsOf _).2 ⟨e, he, rfl⟩, rfl⟩

/-- There is one source and nothing else if there is one spread and nothing else. -/
theorem itemsOf_eq_lone_iff :
    (∃ code, itemsOf options attributes children = [.source code]) ↔
      Markup.flattenAll children = [] ∧ ∃ e, attributes = [.spread e] := by
  constructor
  · rintro ⟨code, hlone⟩
    cases hcontent : Markup.contentEntry options children with
    | some entry =>
      -- the last item is that of the content
      have hlast := congrArg List.getLast? hlone
      simp [itemsOf, hcontent] at hlast
    | none =>
      have hempty : Markup.flattenAll children = [] := by
        by_contra hcontent'
        have hsome := (Markup.isSome_contentEntry options children).2 hcontent'
        rw [hcontent] at hsome
        cases hsome
      refine ⟨hempty, ?_⟩
      have hall : attributes.filter (counts true) = attributes :=
        List.filter_eq_self.2 fun _ _ => rfl
      rw [itemsOf, hcontent, hempty, List.isEmpty_nil, hall, Option.toList_none, List.map_nil,
        List.append_nil] at hlone
      obtain ⟨a, rfl, ha⟩ := List.map_eq_singleton_iff.1 hlone
      cases a with
      | named name value => cases ha
      | spread e => exact ⟨e, rfl⟩
  · rintro ⟨hempty, e, rfl⟩
    have hnone : Markup.contentEntry options children = none := by
      rw [Markup.contentEntry, (Markup.leavesOf_eq_nil_iff options children).2 hempty]
      rfl
    exact ⟨_, by rw [itemsOf, hnone, hempty]; rfl⟩

variable (options attributes children)

/-- The items of a component are read as the properties that it is given. -/
theorem flatMap_properties_itemsOf :
    (itemsOf options attributes children).flatMap PropItem.properties =
      (propertiesOf options attributes children).flatMap Property.operands := by
  -- attribute by attribute, the code holds the properties that were meant
  have hattribute : ∀ a : Attribute,
      (a.item options).properties = (a.property options).operands := by
    intro a
    cases a <;> rfl
  rw [itemsOf, propertiesOf, List.flatMap_append, List.flatMap_append, List.flatMap_map,
    List.flatMap_map, List.flatMap_map, List.flatMap_map]
  simp only [hattribute]
  rfl

/-- **The argument of a component gives all properties in order**, with a comma expression that is
    spread taken as its operands. -/
theorem propertyList_propsCode :
    (propsCode options attributes children).propertyList =
      (propertiesOf options attributes children).flatMap Property.operands :=
  (propertyList_propsValue isCopy_of_source_mem_itemsOf).trans
    (flatMap_properties_itemsOf options attributes children)

/-- Nothing is said about the content after the content itself. -/
theorem lastAt_propsCode (held : Expr → String → Option (Entry Code)) {entry : Entry Code}
    (h : Markup.contentEntry options children = some entry) :
    Property.lastAt held "children" (propsCode options attributes children).propertyList =
      some entry := by
  rw [propertyList_propsCode, propertiesOf, h, List.flatMap_append, ← Markup.key_contentEntry h]
  exact Property.lastAt_append_entry held _ entry

/-- The form of the value says which attributes and content there are. -/
theorem propsCode_cases :
    ((Markup.flattenAll children = [] ∧ ∃ e, attributes = [.spread e]) ∧
      ∃ e patches, propsCode options attributes children = .copy e patches) ∨
    ((∀ e, .spread e ∉ attributes) ∧
      ∃ entries, propsCode options attributes children = .object entries) ∨
    (((∃ e, .spread e ∈ attributes) ∧
        ¬(Markup.flattenAll children = [] ∧ ∃ e, attributes = [.spread e])) ∧
      propsCode options attributes children =
        .call .mergeProps (PropItem.arguments [] (itemsOf options attributes children))) := by
  -- the three ways to put properties together, told apart by the spreads among them
  obtain ⟨code, hlone, hvalue⟩ | ⟨hany, hvalue⟩ | ⟨hany, hlone, hvalue⟩ :=
    propsValue_cases (itemsOf options attributes children)
  · obtain ⟨e, -, rfl⟩ := (source_mem_itemsOf code).1 (hlone ▸ List.mem_cons_self)
    exact .inl ⟨itemsOf_eq_lone_iff.1 ⟨_, hlone⟩, e, _, hvalue⟩
  · refine .inr (.inl ⟨fun e he => ?_, _, hvalue⟩)
    rw [any_isSource_itemsOf.2 ⟨e, he⟩] at hany
    cases hany
  · exact .inr (.inr ⟨⟨any_isSource_itemsOf.1 hany, mt itemsOf_eq_lone_iff.2 hlone⟩, hvalue⟩)

/-- The argument is an object if nothing is spread. -/
theorem isObject_propsCode_iff :
    (propsCode options attributes children).isObject = true ↔ ∀ e, .spread e ∉ attributes := by
  obtain ⟨⟨-, e, rfl⟩, _, _, hcode⟩ | ⟨hnone, _, hcode⟩ | ⟨⟨⟨e, he⟩, -⟩, hcode⟩ :=
    propsCode_cases options attributes children
  · rw [hcode]
    exact ⟨nofun, fun h => absurd List.mem_cons_self (h e)⟩
  · rw [hcode]
    exact ⟨fun _ => hnone, fun _ => rfl⟩
  · rw [hcode]
    exact ⟨nofun, fun h => absurd he (h e)⟩

/-- It is a copied expression if that is all there is. -/
theorem isCopy_propsCode_iff :
    (propsCode options attributes children).isCopy = true ↔
      Markup.flattenAll children = [] ∧ ∃ e, attributes = [.spread e] := by
  obtain ⟨hlone, _, _, hcode⟩ | ⟨hnone, _, hcode⟩ | ⟨⟨-, hlone⟩, hcode⟩ :=
    propsCode_cases options attributes children
  · rw [hcode]
    exact ⟨fun _ => hlone, fun _ => rfl⟩
  · rw [hcode]
    refine ⟨nofun, ?_⟩
    rintro ⟨-, e, rfl⟩
    exact absurd List.mem_cons_self (hnone e)
  · rw [hcode]
    exact ⟨nofun, fun h => absurd h hlone⟩

/-- It is a call that joins properties in all other cases. -/
theorem propsCode_eq_call_iff :
    (∃ arguments, propsCode options attributes children = .call .mergeProps arguments) ↔
      (∃ e, .spread e ∈ attributes) ∧
        ¬(Markup.flattenAll children = [] ∧ ∃ e, attributes = [.spread e]) := by
  obtain ⟨hlone, _, _, hcode⟩ | ⟨hnone, _, hcode⟩ | ⟨hjoined, hcode⟩ :=
    propsCode_cases options attributes children
  · rw [hcode]
    exact ⟨nofun, fun h => absurd hlone h.2⟩
  · rw [hcode]
    refine ⟨nofun, ?_⟩
    rintro ⟨⟨e, he⟩, -⟩
    exact absurd he (hnone e)
  · exact ⟨fun _ => hjoined, fun _ => ⟨_, hcode⟩⟩

variable {options attributes children}

/-- The objects that are joined have properties, and none follows another. -/
theorem arguments_propsCode {arguments : List Code}
    (h : propsCode options attributes children = .call .mergeProps arguments) :
    .object [] ∉ arguments ∧
      arguments.IsChain fun a b => ¬(a.isObject = true ∧ b.isObject = true) := by
  obtain ⟨-, _, _, hcode⟩ | ⟨-, _, hcode⟩ | ⟨-, hcode⟩ :=
    propsCode_cases options attributes children
  · cases hcode.symm.trans h
  · cases hcode.symm.trans h
  · cases hcode.symm.trans h
    exact ⟨PropItem.object_nil_not_mem_arguments [] isCopy_of_source_mem_itemsOf,
      (PropItem.takes_arguments [] isCopy_of_source_mem_itemsOf).2⟩

/-- Without any property the value is an empty object. -/
theorem propsCode_of_propertiesOf_eq_nil (h : propertiesOf options attributes children = []) :
    propsCode options attributes children = .object [] := by
  have hitems : itemsOf options attributes children = [] := by
    simpa [itemsOf, propertiesOf] using h
  rw [propsCode, hitems]
  rfl

end Attribute

end

/-- **Properties of a component.** Wherever a component stands, it is called with one value for its
    properties. From left to right this value is read as the attributes that count, in the order of
    the text, and then the content if there is any, which so overrides all that is said about it
    before. A spread is read as its argument, but as the operands of it if this is a bare comma
    expression. The value is an object literal if there is no spread, the argument of the spread if
    there is nothing else, and otherwise a call that joins sources, where no object is empty or next
    to another. -/
theorem Markup.component_properties (options : Options) (span : Span) (tag : TagName)
    (types : List Part) (attributes : List Attribute) (children : List Markup) :
    let node := Markup.component span tag types attributes children
    let content := Markup.flattenAll children
    let given := Attribute.propertiesOf options attributes children
    ∃ props,
      -- where it is called
      ((node.value options).value = .template (.hole (.call .component [.name tag, props])) ∧
        (node.template options).value = .hole (.call .component [.name tag, props]) ∧
        (node.leaves options).value = [⟨.call .component [.name tag, props], false, true⟩]) ∧
      -- what is read from left to right
      (props.propertyList = given.flatMap Property.operands ∧
        (props.propertyList = given ↔ ∀ e, .spread e ∈ attributes → e.isSequence = false)) ∧
      -- the content comes last and counts
      (((Markup.contentEntry options children).isSome = true ↔ content ≠ []) ∧
        ∀ held entry, Markup.contentEntry options children = some entry →
          Property.lastAt held "children" props.propertyList = some entry) ∧
      -- the three forms
      ((props.isObject = true ↔ ∀ e, .spread e ∉ attributes) ∧
        (given = [] → ∀ bindings source, props.render bindings source = some ['{', '}'])) ∧
      (props.isCopy = true ↔ content = [] ∧ ∃ e, attributes = [.spread e]) ∧
      ((∃ arguments, props = .call .mergeProps arguments) ↔
        (∃ e, .spread e ∈ attributes) ∧ ¬(content = [] ∧ ∃ e, attributes = [.spread e])) ∧
      ∀ arguments, props = .call .mergeProps arguments →
        .object [] ∉ arguments ∧
          arguments.IsChain fun a b => ¬(a.isObject = true ∧ b.isObject = true) := by
  intro node content given
  have hcall := value_componentCall options span tag attributes children
  have hvalue := Markup.value_component options span tag types attributes children
  have hread := Attribute.propertyList_propsCode options attributes children
  refine ⟨Attribute.propsCode options attributes children, ⟨hvalue, ?_, ?_⟩, ⟨hread, ?_⟩,
    ⟨Markup.isSome_contentEntry options children, ?_⟩,
    ⟨Attribute.isObject_propsCode_iff options attributes children, ?_⟩,
    Attribute.isCopy_propsCode_iff options attributes children,
    Attribute.propsCode_eq_call_iff options attributes children, ?_⟩
  · rw [Markup.template, Emit.value_bind, hcall]
    rfl
  · rw [Markup.leaves, Emit.value_bind, hcall]
    rfl
  · rw [hread, Property.flatMap_operands_eq_self_iff]
    simp only [Attribute.source_mem_propertiesOf]
  · intro held entry hentry
    exact Attribute.lastAt_propsCode options attributes children held hentry
  · intro hnone bindings source
    rw [Attribute.propsCode_of_propertiesOf_eq_nil hnone]
    rfl
  · intro arguments harguments
    exact Attribute.arguments_propsCode harguments

/-- A component with a spread and one other attribute gets three sources of properties if the
    argument of the spread is a bare comma expression. -/
theorem Markup.component_properties_bare_comma :
    ∃ program span piece tag types attributes children props,
      Program.parse? (Grammar.Dialect.ofPath "a.jsx")
        ("x = <A " ++ braced "...a, b" ++ " c=\"1\" />;").toList = some program ∧
      (span, .component piece tag types attributes children) ∈ program.outermost ∧
      ((Markup.component piece tag types attributes children).value {}).value =
        .template (.hole (.call .component [.name tag, props])) ∧
      (Attribute.propertiesOf {} attributes children).length = 2 ∧
      props.propertyList.length = 3 ∧
      props.render (Bindings.of program {}) ("x = <A " ++ braced "...a, b" ++
          " c=\"1\" />;").toList =
        some ("mergeProps(a, b, " ++ braced " c: \"1\" " ++ ")").toList := by
  have hread : (Program.parse? (Grammar.Dialect.ofPath "a.jsx")
      ("x = <A " ++ braced "...a, b" ++ " c=\"1\" />;").toList).any (fun program =>
        program.outermost.any fun piece => match piece.2 with
          | .component _ _ _ attributes children =>
            (Attribute.propertiesOf {} attributes children).length = 2 ∧
              (Attribute.propsCode {} attributes children).propertyList.length = 3 ∧
              (Attribute.propsCode {} attributes children).render (Bindings.of program {})
                  ("x = <A " ++ braced "...a, b" ++ " c=\"1\" />;").toList =
                some ("mergeProps(a, b, " ++ braced " c: \"1\" " ++ ")").toList
          | _ => false) = true := by
    decide +kernel
  obtain ⟨program, hparse, hprogram⟩ := (Option.any_eq_true _ _).1 hread
  obtain ⟨⟨span, node⟩, hpiece, hnode⟩ := List.any_eq_true.1 hprogram
  cases node with
  | component piece tag types attributes children =>
    obtain ⟨hgiven, hlist, htext⟩ := of_decide_eq_true hnode
    exact ⟨program, span, piece, tag, types, attributes, children, _, hparse, hpiece,
      Markup.value_component {} piece tag types attributes children, hgiven, hlist, htext⟩
  | _ => cases hnode

end JsxTemplate
