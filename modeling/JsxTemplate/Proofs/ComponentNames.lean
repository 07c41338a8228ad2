import JsxTemplate.Proofs.Emit
import JsxTemplate.Proofs.Freshness
import JsxTemplate.Proofs.Parsed

namespace JsxTemplate

open Text

/-!
# The names of components

The call of a component starts with its tag, copied as it is written. So the tag has to be code for
one value. Tags are told apart by their first character alone, and hyphens may stand in all of them.

* `IsReference` — texts that name one value: `this` or an identifier, then properties after points.
* `TagName.isReference_iff` — the tag of a component is such a text, unless there is a hyphen in it
  or its root is a reserved word.
* `Program.mem_names_of_mem_components` — the root is one of the names of the module.
* `component_names` — what is written for a component, and that no helper captures it.
-/

/-! ### Texts that name one value -/

/-- The words that are no identifiers in the code of a module: those that the grammar reserves
    everywhere, and those that strict code or the top of a module takes away. -/
def reservedInModules : List String :=
  Grammar.reservedWords ++ ["await", "implements", "interface", "let", "package", "private",
    "protected", "public", "static", "yield"]

/-- An identifier: a name that is not reserved. -/
def IsIdentifier (name : String) : Prop :=
  isIdentifierName name.toList = true ∧ name ∉ reservedInModules

/-- The text names one value: it is `this` or an identifier, and then names of properties, each
    after a point. -/
def IsReference (text : String) : Prop :=
  ∃ root path, text = String.intercalate "." (root :: path) ∧ (root = "this" ∨ IsIdentifier root) ∧
    ∀ name ∈ path, isIdentifierName name.toList = true

/-- A written text up to its first point. -/
def rootOf (text : String) : String :=
  String.ofList (text.toList.takeWhile (· != '.'))

/-- The root of a chain of names is the first of them, as there is no point in a name. -/
theorem rootOf_intercalate {root : String} (h : isIdentifierName root.toList = true)
    (path : List String) : rootOf (String.intercalate "." (root :: path)) = root := by
  -- there is no point in an identifier, so the root is taken whole
  have hall : ∀ c ∈ root.toList, (c != '.') = true := by
    intro c hc
    exact bne_iff_ne.2 fun heq => point_not_mem_of_isIdentifierName h (heq ▸ hc)
  unfold rootOf
  cases path with
  | nil =>
    rw [String.intercalate_singleton, ← List.append_nil root.toList,
      List.takeWhile_append_of_pos hall, List.takeWhile_nil, List.append_nil, String.ofList_toList]
  | cons name rest =>
    have hpoint : ".".toList = ['.'] := rfl
    rw [String.intercalate_cons_cons, String.toList_append, String.toList_append, hpoint,
      List.append_assoc, List.takeWhile_append_of_pos hall, List.singleton_append,
      List.takeWhile_cons_of_neg (by decide), List.append_nil, String.ofList_toList]

/-- There is no hyphen in a chain of names. -/
theorem hyphen_not_mem_intercalate {names : List String}
    (h : ∀ name ∈ names, isIdentifierName name.toList = true) :
    '-' ∉ (String.intercalate "." names).toList := by
  induction names with
  | nil => decide
  | cons name rest ih =>
    have hname := hyphen_not_mem_of_isIdentifierName (h name (List.mem_cons_self ..))
    have hrest := ih fun other hmem => h other (List.mem_cons_of_mem _ hmem)
    cases rest with
    | nil => rwa [String.intercalate_singleton]
    | cons other more =>
      have hpoint : '-' ∉ ".".toList := by decide
      rw [String.intercalate_cons_cons, String.toList_append, String.toList_append, List.mem_append,
        List.mem_append]
      rintro ((hmem | hmem) | hmem)
      · exact hname hmem
      · exact hpoint hmem
      · exact hrest hmem

/-! ### Tags of components -/

/-- A capital is no small letter. -/
theorem isLower_eq_false_of_isUpper {c : Char} (h : c.isUpper = true) : c.isLower = false := by
  change decide (c.val ≥ 'A'.val ∧ c.val ≤ 'Z'.val) = true at h
  change (decide (c.val ≥ 'a'.val) && decide (c.val ≤ 'z'.val)) = false
  have hle : c.toNat ≤ 90 := (of_decide_eq_true h).2
  have hnot : ¬c.val ≥ 'a'.val := by
    intro hge
    have hlow : 97 ≤ c.toNat := hge
    omega
  rw [decide_eq_false hnot, Bool.false_and]

/-- The lone name of a component is a reference unless there is a hyphen in it. -/
theorem TagName.reference?_plain {name : String} (hcomponent : (plain name).isComponent = true)
    (hhyphen : '-' ∉ name.toList) : (plain name).reference? = some name := by
  -- a component starts with a capital letter, which is no small one
  have hlower : name.toList.head?.any Char.isLower = false := by
    rw [isComponent] at hcomponent
    cases hhead : name.toList.head? with
    | none => rfl
    | some c =>
      rw [hhead] at hcomponent
      exact isLower_eq_false_of_isUpper hcomponent
  have hcontains : name.toList.contains '-' = false := by simpa using hhyphen
  rw [reference?, hlower, hcontains]
  rfl

/-- What is written for a component without a hyphen: names with points between them. Its root is
    `this` or what the tag refers to. -/
theorem TagName.exists_chain {tag : TagName} (hspelled : tag.IsSpelled)
    (hcomponent : tag.isComponent = true) (hhyphen : '-' ∉ tag.text.toList) :
    ∃ root path, tag.text = String.intercalate "." (root :: path) ∧
      (∀ name ∈ root :: path, isIdentifierName name.toList = true) ∧
      (root = "this" ∨ tag.reference? = some root) := by
  -- a plain name is a chain of one, and one that starts with `this` has no root to declare
  cases tag with
  | plain name =>
    refine ⟨name, [], by rw [String.intercalate_singleton, text], ?_, .inr ?_⟩
    · simpa using isIdentifierName_of_isTagName hspelled hhyphen
    · exact reference?_plain hcomponent hhyphen
  | namespaced space name => cases hcomponent
  | member root path =>
    cases root with
    | none =>
      refine ⟨"this", path, rfl, ?_, .inl rfl⟩
      intro name hmem
      rcases List.mem_cons.1 hmem with rfl | hmem
      · decide
      · exact hspelled name hmem
    | some root => exact ⟨root, path, rfl, hspelled, .inr rfl⟩

/-- **When a tag names one value.** The tag of a component does, unless there is a hyphen in it or
    its root is a reserved word. -/
theorem TagName.isReference_iff {tag : TagName} (hspelled : tag.IsSpelled)
    (hcomponent : tag.isComponent = true) :
    IsReference tag.text ↔ '-' ∉ tag.text.toList ∧
      (rootOf tag.text = "this" ∨ rootOf tag.text ∉ reservedInModules) := by
  constructor
  · -- no name of a chain holds a hyphen
    rintro ⟨root, path, htext, hroot, hpath⟩
    have hname : isIdentifierName root.toList = true := by
      rcases hroot with rfl | hroot
      · decide
      · exact hroot.1
    rw [htext, rootOf_intercalate hname]
    refine ⟨hyphen_not_mem_intercalate ?_, hroot.imp_right And.right⟩
    intro name hmem
    rcases List.mem_cons.1 hmem with rfl | hmem
    · exact hname
    · exact hpath name hmem
  · -- without a hyphen the tag is a chain, whose root is what the rule is about
    rintro ⟨hhyphen, hroot⟩
    obtain ⟨root, path, htext, hnames, -⟩ := TagName.exists_chain hspelled hcomponent hhyphen
    have hname := hnames root (List.mem_cons_self ..)
    rw [htext, rootOf_intercalate hname] at hroot
    refine ⟨root, path, htext, hroot.imp_right fun hno => ⟨hname, hno⟩, fun name hmem => ?_⟩
    exact hnames name (List.mem_cons_of_mem _ hmem)

/-! ### Names of a module -/

/-- What the tag refers to, if to anything, is one of these names. -/
def TagName.RefersInto (names : List String) (tag : TagName) : Prop :=
  ∀ root ∈ tag.reference?, root ∈ names

section Names

variable {names : List String}

mutual

/-- The components of an expression refer to names in it. -/
theorem Expr.hold_of_names_subset : (e : Expr) → e.names ⊆ names →
    e.Hold (TagName.RefersInto names)
  | .name _ _, _ => List.forall_mem_nil _
  | .paren _ inner, h => Expr.hold_of_names_subset inner h
  | .markup _ node, h => Markup.hold_of_names_subset node h
  | .compound _ _ parts, h => Part.allHold_of_names_subset parts h

theorem Part.hold_of_names_subset : (part : Part) → part.names ⊆ names →
    part.Hold (TagName.RefersInto names)
  | .name _ _, _ => List.forall_mem_nil _
  | .expr value, h => Expr.hold_of_names_subset value h
  | .spread value, h => Expr.hold_of_names_subset value h
  | .function parts, h => Part.allHold_of_names_subset parts h

theorem Part.allHold_of_names_subset : (parts : List Part) → Part.namesOf parts ⊆ names →
    Part.AllHold (TagName.RefersInto names) parts
  | [], _ => List.forall_mem_nil _
  | part :: rest, h => by
    obtain ⟨hpart, hrest⟩ := List.append_subset.1 h
    exact List.forall_mem_append.2
      ⟨Part.hold_of_names_subset part hpart, Part.allHold_of_names_subset rest hrest⟩

/-- The components in markup refer to names in it, as the tag of a component itself does. -/
theorem Markup.hold_of_names_subset : (node : Markup) → node.names ⊆ names →
    node.Hold (TagName.RefersInto names)
  | .element _ _ types attributes children, h => by
    obtain ⟨h, hchildren⟩ := List.append_subset.1 h
    obtain ⟨h, hattributes⟩ := List.append_subset.1 h
    obtain ⟨-, htypes⟩ := List.append_subset.1 h
    refine List.forall_mem_append.2 ⟨List.forall_mem_append.2 ⟨?_, ?_⟩, ?_⟩
    · exact Part.allHold_of_names_subset types htypes
    · exact Attribute.allHold_of_names_subset attributes hattributes
    · exact Markup.allHold_of_names_subset children hchildren
  | .component _ tag types attributes children, h => by
    obtain ⟨h, hchildren⟩ := List.append_subset.1 h
    obtain ⟨h, hattributes⟩ := List.append_subset.1 h
    obtain ⟨htag, htypes⟩ := List.append_subset.1 h
    have hrefers : tag.RefersInto names := fun root hroot => htag (Option.mem_toList.2 hroot)
    refine List.forall_mem_cons.2 ⟨hrefers, ?_⟩
    refine List.forall_mem_append.2 ⟨List.forall_mem_append.2 ⟨?_, ?_⟩, ?_⟩
    · exact Part.allHold_of_names_subset types htypes
    · exact Attribute.allHold_of_names_subset attributes hattributes
    · exact Markup.allHold_of_names_subset children hchildren
  | .fragment children, h => Markup.allHold_of_names_subset children h
  | .text _, _ => List.forall_mem_nil _
  | .hole _ value, h => Expr.hold_of_names_subset value h

theorem Markup.allHold_of_names_subset : (nodes : List Markup) → Markup.namesOf nodes ⊆ names →
    Markup.AllHold (TagName.RefersInto names) nodes
  | [], _ => List.forall_mem_nil _
  | node :: rest, h => by
    obtain ⟨hnode, hrest⟩ := List.append_subset.1 h
    exact List.forall_mem_append.2
      ⟨Markup.hold_of_names_subset node hnode, Markup.allHold_of_names_subset rest hrest⟩

theorem Attribute.hold_of_names_subset : (a : Attribute) → a.names ⊆ names →
    a.Hold (TagName.RefersInto names)
  | .named _ value, h => AttributeValue.hold_of_names_subset value h
  | .spread value, h => Expr.hold_of_names_subset value h

theorem Attribute.allHold_of_names_subset : (attributes : List Attribute) →
    Attribute.namesOf attributes ⊆ names →
    Attribute.AllHold (TagName.RefersInto names) attributes
  | [], _ => List.forall_mem_nil _
  | a :: rest, h => by
    obtain ⟨ha, hrest⟩ := List.append_subset.1 h
    exact List.forall_mem_append.2
      ⟨Attribute.hold_of_names_subset a ha, Attribute.allHold_of_names_subset rest hrest⟩

theorem AttributeValue.hold_of_names_subset : (value : AttributeValue) → value.names ⊆ names →
    value.Hold (TagName.RefersInto names)
  | .literal _, _ => List.forall_mem_nil _
  | .bare, _ => List.forall_mem_nil _
  | .expr value, h => Expr.hold_of_names_subset value h
  | .markup node, h => Markup.hold_of_names_subset node h

end

end Names

/-- What the tag of a component refers to is a name of the module. -/
theorem Program.mem_names_of_mem_components {program : Program} {tag : TagName}
    (htag : tag ∈ program.components) {root : String} (hroot : tag.reference? = some root) :
    root ∈ program.names := by
  obtain ⟨item, hitem, hin⟩ := List.mem_flatMap.1 htag
  cases item with
  | imports declaration => cases hin
  | code parts =>
    have hsubset : Part.namesOf parts ⊆ program.names :=
      fun name hname => List.mem_flatMap.2 ⟨.code parts, hitem, hname⟩
    exact Part.allHold_of_names_subset parts hsubset tag hin root hroot

/-! ### Calls -/

/-- The call of a component starts with its tag. -/
theorem exists_value_componentCall (span : Span) (tag : TagName) (attributes : List Attribute)
    (children : List Markup) (props : Emit (List PropItem)) (leaves : Emit (List Leaf)) :
    ∃ argument, (componentCall span tag attributes children props leaves).value =
      .call .component [.name tag, argument] := by
  unfold componentCall
  simp only [Emit.value_bind]
  exact ⟨_, rfl⟩

/-- What is written for the call of a component. -/
theorem render_componentCall {bindings : Bindings} {source written : List Char} {tag : TagName}
    {argument : Code} (h : argument.render bindings source = some written) :
    (Code.call .component [.name tag, argument]).render bindings source =
      some ((bindings.nameOf .component).toList ++ '(' :: tag.text.toList ++ ", ".toList ++
        written ++ [')']) := by
  simp [Code.render, Code.renderAll, h, Entry.joined]

/-- **The names of components.** A component is compiled to a call whose first argument is its tag,
    as it is written. That text names one value exactly if there is no hyphen in it and its root is
    `this` or not reserved. If there is no hyphen, its root is `this` or one of the names that the
    module spells, and in that case no helper is given the same name. -/
theorem component_names {dialect : Grammar.Dialect} {source : List Char} {program : Program}
    (h : Program.parse? dialect source = some program) {tag : TagName}
    (htag : tag ∈ program.components) :
    (∀ span types attributes children options, ∃ argument,
      ((Markup.component span tag types attributes children).value options).value =
          .template (.hole (.call .component [.name tag, argument])) ∧
        ((Markup.component span tag types attributes children).template options).value =
          .hole (.call .component [.name tag, argument]) ∧
        ((Markup.component span tag types attributes children).leaves options).value =
          [⟨.call .component [.name tag, argument], false, true⟩] ∧
        ∀ bindings text written, argument.render bindings text = some written →
          (Code.call .component [.name tag, argument]).render bindings text =
            some ((bindings.nameOf .component).toList ++ '(' :: tag.text.toList ++ ", ".toList ++
              written ++ [')'])) ∧
    (IsReference tag.text ↔ '-' ∉ tag.text.toList ∧
      (rootOf tag.text = "this" ∨ rootOf tag.text ∉ reservedInModules)) ∧
    ('-' ∉ tag.text.toList → rootOf tag.text = "this" ∨
      rootOf tag.text ∈ program.names ∧ ∀ options helper,
        ((Bindings.of program options).get helper).isImported = false →
          (Bindings.of program options).nameOf helper ≠ rootOf tag.text) := by
  obtain ⟨hspelled, hcomponent⟩ := (Program.isRead_of_parse? h).components tag htag
  refine ⟨?_, TagName.isReference_iff hspelled hcomponent, ?_⟩
  · intro span types attributes children options
    obtain ⟨argument, hcall⟩ := exists_value_componentCall span tag attributes children
      (Attribute.propsOf options (Markup.flattenAll children).isEmpty attributes)
      (Markup.leavesOf options children)
    refine ⟨argument, ?_, ?_, ?_, fun _ _ _ => render_componentCall⟩
    · rw [Markup.value, Emit.value_bind, hcall]
      rfl
    · rw [Markup.template, Emit.value_bind, hcall]
      rfl
    · rw [Markup.leaves, Emit.value_bind, hcall]
      rfl
  · intro hhyphen
    obtain ⟨root, path, htext, hnames, hroot⟩ := TagName.exists_chain hspelled hcomponent hhyphen
    rw [htext, rootOf_intercalate (hnames root (List.mem_cons_self ..))]
    refine hroot.imp_right fun hreference => ?_
    have hmem : root ∈ program.names := Program.mem_names_of_mem_components htag hreference
    refine ⟨hmem, fun options helper hnew heq => ?_⟩
    -- a name that is given is not spelled in the module
    have hfree := (Bindings.fresh_of program options).free _
      (Bindings.mem_entries_of program options helper) hnew
    rw [← heq] at hmem
    exact hfree hmem

/-- A component inside of another one, each named by a member access. -/
theorem component_names_nested :
    ∃ program, Program.parse? (Grammar.Dialect.ofPath "a.jsx")
        ("x = <A.b c=" ++ braced "1" ++ "><this.d /></A.b>;").toList = some program ∧
      TagName.member (some "A") ["b"] ∈ program.components ∧
      IsReference "A.b" ∧ "A" ∈ program.names ∧
      TagName.member none ["d"] ∈ program.components ∧ IsReference "this.d" := by
  have hread : (Program.parse? (Grammar.Dialect.ofPath "a.jsx")
      ("x = <A.b c=" ++ braced "1" ++ "><this.d /></A.b>;").toList).any (fun program =>
        program.components = [.member (some "A") ["b"], .member none ["d"]]) = true := by
    decide +kernel
  obtain ⟨program, hparse, hcomponents⟩ := (Option.any_eq_true _ _).1 hread
  have hmem : ∀ tag ∈ [TagName.member (some "A") ["b"], .member none ["d"]],
      tag ∈ program.components := by
    rw [of_decide_eq_true hcomponents]
    exact fun _ hmem => hmem
  have houter := hmem _ (List.mem_cons_self ..)
  have hinner := hmem _ (List.mem_cons_of_mem _ (List.mem_cons_self ..))
  obtain ⟨-, hreference, hroot⟩ := component_names hparse houter
  obtain ⟨-, hthis, -⟩ := component_names hparse hinner
  have hA : "A" ∈ program.names := by
    rcases hroot (by decide +kernel) with hno | ⟨hmem, -⟩
    · exact absurd hno (by decide +kernel)
    · have hrootOf : rootOf (TagName.member (some "A") ["b"]).text = "A" := by decide +kernel
      rwa [hrootOf] at hmem
  exact ⟨program, hparse, houter, hreference.2 (by decide +kernel), hA, hinner,
    hthis.2 (by decide +kernel)⟩

/-- The tag `A-html` of a component is written as a difference, which names no value. Neither side
    of it is a name of the module, and what stands on the right is the name of a helper. -/
theorem not_isReference_hyphen :
    ∃ program, Program.parse? (Grammar.Dialect.ofPath "a.jsx") "x = <A-html />;".toList =
        some program ∧
      TagName.plain "A-html" ∈ program.components ∧ ¬IsReference "A-html" ∧
      "A" ∉ program.names ∧ "html" ∉ program.names ∧
      (Bindings.of program {}).nameOf .html = "html" := by
  have hread : (Program.parse? (Grammar.Dialect.ofPath "a.jsx") "x = <A-html />;".toList).any
      (fun program => program.components = [.plain "A-html"] ∧ program.names = ["x"] ∧
        (Bindings.of program {}).nameOf .html = "html") = true := by
    decide +kernel
  obtain ⟨program, hparse, hfacts⟩ := (Option.any_eq_true _ _).1 hread
  obtain ⟨hcomponents, hnames, hhelper⟩ := of_decide_eq_true hfacts
  refine ⟨program, hparse, ?_, ?_, ?_, ?_, hhelper⟩
  · rw [hcomponents]
    exact List.mem_cons_self ..
  · intro hreference
    have hspelled : (TagName.plain "A-html").IsSpelled := by
      show isTagName _ = true
      decide +kernel
    exact ((TagName.isReference_iff hspelled rfl).1 hreference).1 (by decide +kernel)
  · rw [hnames]
    decide
  · rw [hnames]
    decide

end JsxTemplate
