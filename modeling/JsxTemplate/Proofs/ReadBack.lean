import JsxTemplate.Proofs.Document
import JsxTemplate.Proofs.Inlining

namespace JsxTemplate

/-!
# Reading a compiled element back

The template of an element, read as markup, gives the element that was compiled: its tag, its
attributes in their order, and its content, with the same inside of it.

* `Attribute.setting` — an attribute as it is found in the tag.
* `Markup.content` — markup as it is found between tags.
* `Markup.readsContent_staticText`, `Markup.readsContent_template` — the two ways in which markup is
  put between tags, each by induction on the markup.
* `Markup.read_elementTemplate` — the template of an element.
-/

/-! ### Names in markup -/

namespace Text

/-- The characters of the names of tags and attributes. -/
def isMarkupChar (c : Char) : Bool :=
  isIdentifierPart c || c == '-' || c == ':'

/-- Whether a text is made of the characters of names, and of at least one. -/
def isMarkupName (cs : List Char) : Bool :=
  !cs.isEmpty && cs.all isMarkupChar

/-- A character of names in markup differs from one that is none. -/
theorem ne_of_isMarkupChar {c d : Char} (hc : isMarkupChar c = true)
    (hd : isMarkupChar d = false) : c ≠ d := by
  rintro rfl
  exact Bool.false_ne_true (hd.symm.trans hc)

/-- It may stand in the name of a setting. -/
theorem isNameChar_of_isMarkupChar {c : Char} (h : isMarkupChar c = true) :
    isNameChar c = true :=
  isNameChar_iff.2 ⟨ne_of_isMarkupChar h (by decide), ne_of_isMarkupChar h (by decide),
    ne_of_isMarkupChar h (by decide), ne_of_isMarkupChar h (by decide)⟩

/-- All characters of a name in markup are such characters. -/
theorem forall_of_isMarkupName {cs : List Char} (h : isMarkupName cs = true) :
    ∀ c ∈ cs, isMarkupChar c = true :=
  List.all_eq_true.1 (Bool.and_eq_true_iff.1 h).2

/-- A name in markup can be read back as a name. -/
theorem isName_of_isMarkupName {cs : List Char} (h : isMarkupName cs = true) :
    isName cs = true := by
  rw [isName, Bool.and_eq_true, List.all_eq_true]
  exact ⟨(Bool.and_eq_true_iff.1 h).1,
    fun c hc => isNameChar_of_isMarkupChar (forall_of_isMarkupName h c hc)⟩

/-- A sign in front of characters of names is a name. -/
theorem isName_cons {c : Char} {cs : List Char} (hc : isNameChar c = true)
    (hcs : ∀ d ∈ cs, isNameChar d = true) : isName (c :: cs) = true := by
  rw [isName, Bool.and_eq_true, List.all_eq_true]
  exact ⟨rfl, List.forall_mem_cons.2 ⟨hc, hcs⟩⟩

/-- The same for the rest of a name after its first characters. -/
theorem isNameChar_of_suffix (cs : List Char) {ds : List Char}
    (h : ∀ c ∈ cs ++ ds, isMarkupChar c = true) : ∀ d ∈ ds, isNameChar d = true :=
  fun d hd => isNameChar_of_isMarkupChar (h d (List.mem_append_right cs hd))

/-! Letters in lower case have code points above those of the signs that end a name. -/

/-- Characters from the small letters on may stand in names, as all delimiters come before them. -/
theorem isNameChar_ofNat {n : Nat} (h : 97 ≤ n) : isNameChar (Char.ofNat n) = true := by
  -- a number that is no character becomes the character zero, which may stand in names too
  have hnat : (Char.ofNat n).toNat = n ∨ (Char.ofNat n).toNat = 0 := by
    by_cases hvalid : n.isValidChar
    · left
      rw [Char.ofNat, dif_pos hvalid]
      rfl
    · right
      rw [Char.ofNat, dif_neg hvalid]
      rfl
  have hne : ∀ c : Char, 0 < c.toNat → c.toNat < 97 → Char.ofNat n ≠ c := by
    rintro c hpos hlt rfl
    omega
  exact isNameChar_iff.2 ⟨hne _ (by decide) (by decide), hne _ (by decide) (by decide),
    hne _ (by decide) (by decide), hne _ (by decide) (by decide)⟩

/-- A small letter may stand in a name where its capital may. -/
theorem isNameChar_lowerChar {c : Char} (h : isNameChar c = true) :
    isNameChar (lowerChar c) = true := by
  -- no row of the table leads below the small letters, where the four forbidden characters are
  have hrows : ∀ row ∈ lowercaseRows, 97 ≤ Int.ofNat row.1 + row.2.2.2 := by
    decide +kernel
  unfold lowerChar
  dsimp only
  split
  next first last step shift hrow =>
    have hbound := hrows _ (List.mem_of_find?_eq_some hrow)
    have hfound := List.find?_some hrow
    simp only [Bool.and_eq_true, decide_eq_true_eq] at hfound
    refine isNameChar_ofNat ?_
    simp only [Int.ofNat_eq_natCast] at hbound ⊢
    omega
  next => exact h

/-- So may what a name becomes in small letters. -/
theorem isNameChar_lowercaseAfter (before : List Char) {cs : List Char}
    (h : ∀ c ∈ cs, isNameChar c = true) :
    ∀ c ∈ lowercaseAfter before cs, isNameChar c = true := by
  -- along the recursion: a sigma, a dotted capital that gives two characters, or any other one
  fun_induction lowercaseAfter before cs with
  | case1 => exact h
  | case2 before cs final ih =>
    refine List.forall_mem_cons.2 ⟨?_, ih (List.forall_mem_cons.1 h).2⟩
    split <;> decide
  | case3 before cs ih =>
    exact List.forall_mem_cons.2 ⟨by decide, List.forall_mem_cons.2
      ⟨by decide, ih (List.forall_mem_cons.1 h).2⟩⟩
  | case4 before c cs hsigma hdot ih =>
    exact List.forall_mem_cons.2
      ⟨isNameChar_lowerChar (List.forall_mem_cons.1 h).1, ih (List.forall_mem_cons.1 h).2⟩

/-- No quote is left in an escaped value, so the value ends where it should. -/
theorem not_mem_escapeAttribute (cs : List Char) : '"' ∉ escapeAttribute cs := by
  intro hmem
  obtain ⟨c, -, hc⟩ := List.mem_flatMap.1 hmem
  split at hc
  · revert hc
    decide
  next hne => exact hne (List.mem_singleton.1 hc).symm

end Text

/-- A name without a sign in front says itself whether it has a namespace. -/
theorem Wire.split_of_isMarkupName {name : List Char} (h : Text.isMarkupName name = true) :
    Wire.split name = (if name.contains ':' then .namespaced else .plain, name) := by
  have hall := Text.forall_of_isMarkupName h
  unfold Wire.split
  -- none of the three signs may stand in a name of markup
  split
  · exact absurd rfl (Text.ne_of_isMarkupChar (hall '@' (by simp)) (by decide))
  · exact absurd rfl (Text.ne_of_isMarkupChar (hall '.' (by simp)) (by decide))
  · exact absurd rfl (Text.ne_of_isMarkupChar (hall '?' (by simp)) (by decide))
  · rfl

/-- A name with a colon in it is one of a namespace. -/
theorem Wire.split_namespaced {name : List Char} (h : Text.isMarkupName name = true)
    (hcolon : ':' ∈ name) : Wire.split name = (.namespaced, name) := by
  rw [Wire.split_of_isMarkupName h, if_pos (List.contains_iff_mem.2 hcolon)]

/-- A name without a colon is plain. -/
theorem Wire.split_plain {name : List Char} (h : Text.isMarkupName name = true)
    (hcolon : ':' ∉ name) : Wire.split name = (.plain, name) := by
  rw [Wire.split_of_isMarkupName h, if_neg fun hmem => hcolon (List.contains_iff_mem.1 hmem)]

/-! ### What is to be found -/

/-- The code of a value, in a call of the helper if the value asks for it. -/
def AttributeValue.mapped (options : Options) (helper : Helper) (value : AttributeValue) : Code :=
  if value.isWrappable then .call helper [(value.code options).value]
  else (value.code options).value

/-- What a plain attribute is set to, where `code` is its value. Without a value, it has only its
    name where it is written out as text, and a hole that holds `true` where it is compiled. -/
def AttributeValue.setting (isInlined : Bool) (code : Code) : AttributeValue → SettingValue Code
  | .literal text => .text (Text.escapeAttribute text.toList)
  | .bare => if isInlined then .absent else .hole .flag
  | .expr _ => .hole code
  | .markup _ => .hole code

/-- An attribute as it is found in a tag. -/
def Attribute.setting (options : Options) (isInlined : Bool) : Attribute → Setting Code
  | .spread value => .directive (.call .spread [.copy value (value.patches options).value])
  | .named name value =>
    let code := (value.code options).value
    match AttributeKind.of name with
    | .ref => .directive (.call .ref [code])
    | .style =>
      .named .plain "style".toList (value.setting isInlined (value.mapped options .styleMap))
    | .classMap =>
      .named .plain "class".toList (value.setting isInlined (value.mapped options .classMap))
    | .event event => .named .event event.toList (.hole code)
    | .property property => .named .property property.toList (.hole code)
    | .boolean flag => .named .boolean flag.toList (.hole code)
    | .namespaced name => .named .namespaced name.toList (.hole code)
    | .plain name => .named .plain name.toList (value.setting isInlined code)

/-- The code of a component inside an open template. -/
def componentCode (options : Options) (span : Span) (tag : TagName) (attributes : List Attribute)
    (children : List Markup) : Code :=
  (componentCall span tag attributes children
    (Attribute.propsOf options (Markup.flattenAll children).isEmpty attributes)
    (Markup.leavesOf options children)).value

mutual

/-- Markup as it is found between tags. A fragment is what is inside of it. -/
def Markup.content (options : Options) : Markup → Template (Node Code)
  | .element span tag types attributes children =>
    let isInlined := Markup.isStatic (.element span tag types attributes children)
    .hole (.element ⟨tag.text.toList, attributes.map (Attribute.setting options isInlined)⟩
      (if isVoidTag tag.text then .empty else Markup.contentOf options children))
  | .component span tag _ attributes children =>
    .hole (.hole (componentCode options span tag attributes children))
  | .fragment children => Markup.contentOf options children
  | .text raw => if keepsText options raw.toList then .text raw.toList else .empty
  | .hole _ value => .hole (.hole (.copy value (value.patches options).value))

/-- Several pieces of markup as they are found between tags. -/
def Markup.contentOf (options : Options) : List Markup → Template (Node Code)
  | [] => .empty
  | node :: rest => node.content options ++ Markup.contentOf options rest

end

/-! ### What can be read -/

/-- Whether the name of an attribute is one that markup can have. -/
def Attribute.isReadable : Attribute → Bool
  | .named name _ => Text.isMarkupName name.toList
  | .spread _ => true

mutual

/-- Whether all tags and attributes between tags have names that markup can have, and no text holds
    the start of a tag. -/
def Markup.isReadable : Markup → Bool
  | .element _ tag _ attributes children =>
    Text.isMarkupName tag.text.toList && attributes.all Attribute.isReadable &&
      Markup.allReadable children
  | .component .. => true
  | .fragment children => Markup.allReadable children
  | .text raw => !raw.toList.contains '<'
  | .hole .. => true

/-- Whether this is so of several pieces of markup. -/
def Markup.allReadable : List Markup → Bool
  | [] => true
  | node :: rest => node.isReadable && Markup.allReadable rest

end

/-! ### Attributes -/

variable {options : Options}

/-- An attribute with a hole is read back as the setting with that hole. -/
theorem readsSettings_boundAttribute {name : String} {wire : Wire} {shown : List Char}
    (hname : isName name.toList = true) (hsplit : Wire.split name.toList = (wire, shown))
    (code : Code) :
    ReadsSettings (boundAttribute name code).word [.named wire shown (.hole code)] := by
  have hread := ReadsSettings.bound hname code
  rw [Setting.written, hsplit] at hread
  rw [boundAttribute, Template.word_append, Template.word_text, Template.word_hole]
  exact hread

/-- An attribute with a sign in front of its name. -/
theorem readsSettings_signed {mark name : String} {sign : Char} {wire : Wire}
    (hmark : mark.toList = [sign]) (hsign : isNameChar sign = true)
    (hname : ∀ c ∈ name.toList, isNameChar c = true)
    (hsplit : Wire.split (sign :: name.toList) = (wire, name.toList)) (code : Code) :
    ReadsSettings (boundAttribute (mark ++ name) code).word
      [.named wire name.toList (.hole code)] := by
  have htext : (mark ++ name).toList = sign :: name.toList := by
    rw [String.toList_append, hmark, List.singleton_append]
  refine readsSettings_boundAttribute ?_ ?_ code
  · rw [htext]
    exact Text.isName_cons hsign hname
  · rw [htext, hsplit]

/-- An attribute as text is read back with its escaped value. -/
theorem readsSettings_attributeText {name : String} (hname : Text.isMarkupName name.toList = true)
    (hcolon : ':' ∉ name.toList) (text : String) :
    ReadsSettings (Template.chars (attributeText name text) : List (Char ⊕ Code))
      [.named .plain name.toList (.text (Text.escapeAttribute text.toList))] := by
  have hread := ReadsSettings.text (α := Code) (Text.isName_of_isMarkupName hname)
    (Text.not_mem_escapeAttribute text.toList)
  rw [Setting.written, Wire.split_plain hname hcolon] at hread
  exact hread

/-- The same for an attribute that is text or has a hole. -/
theorem readsSettings_plainAttribute {name : String} (hname : Text.isMarkupName name.toList = true)
    (hcolon : ':' ∉ name.toList) (value : AttributeValue) {code : Code}
    (hcode : value = .bare → code = .flag) :
    ReadsSettings (plainAttribute name value code).word
      [.named .plain name.toList (value.setting false code)] := by
  have hbound := readsSettings_boundAttribute (Text.isName_of_isMarkupName hname)
    (Wire.split_plain hname hcolon) code
  cases value with
  | literal text => exact readsSettings_attributeText hname hcolon text
  | bare =>
    rw [hcode rfl] at hbound ⊢
    exact hbound
  | expr e => exact hbound
  | markup node => exact hbound

/-- The code for no value is a flag. -/
theorem AttributeValue.code_of_eq_bare {value : AttributeValue} (h : value = .bare) :
    (value.code options).value = .flag := by
  subst h
  rfl

/-- The same for an attribute whose value goes through a helper. -/
theorem readsSettings_mappedAttribute {name : String}
    (hname : Text.isMarkupName name.toList = true) (hcolon : ':' ∉ name.toList) (helper : Helper)
    (value : AttributeValue) :
    ReadsSettings (mappedAttribute helper name value (value.code options).value).value.word
      [.named .plain name.toList (value.setting false (value.mapped options helper))] := by
  unfold mappedAttribute AttributeValue.mapped
  cases hwrap : value.isWrappable with
  | false => exact readsSettings_plainAttribute hname hcolon value AttributeValue.code_of_eq_bare
  | true =>
    -- only an expression can be wrapped
    cases value with
    | expr e =>
      exact readsSettings_boundAttribute (Text.isName_of_isMarkupName hname)
        (Wire.split_plain hname hcolon) _
    | literal text => cases hwrap
    | bare => cases hwrap
    | markup node => cases hwrap

/-- The name under which a plain attribute is written can be read if its own name can be. -/
theorem isMarkupName_normalName {name : String} (hname : Text.isMarkupName name.toList = true)
    (hcolon : ':' ∉ name.toList) :
    Text.isMarkupName (normalName name).toList = true ∧ ':' ∉ (normalName name).toList := by
  unfold normalName
  split
  · decide
  · exact ⟨hname, hcolon⟩

/-- Compiled, an attribute is found under the wire of its kind. -/
theorem Attribute.readsSettings_template {a : Attribute} (h : a.isReadable = true) :
    ReadsSettings (a.template options).value.word [a.setting options false] := by
  cases a with
  | spread value => exact ReadsSettings.directive _
  | named name value =>
    rw [Attribute.template, Emit.value_bind, attributeTemplate, Attribute.setting]
    have hall := Text.forall_of_isMarkupName h
    have hnames := AttributeKind.names_of name
    -- the kind is kept together with what it says about the name, so that each case knows the name
    generalize AttributeKind.of name = kind at hnames ⊢
    cases hnames with
    | ref => exact ReadsSettings.directive _
    | style => exact readsSettings_mappedAttribute (by decide) (by decide) .styleMap value
    | classMap => exact readsSettings_mappedAttribute (by decide) (by decide) .classMap value
    | event hname =>
      rw [hname] at hall
      refine readsSettings_signed rfl (by decide) ?_ rfl _
      rw [String.toList_ofList]
      exact Text.isNameChar_lowercaseAfter [] (Text.isNameChar_of_suffix ['o', 'n'] hall)
    | property hname =>
      rw [hname, List.append_cons] at hall
      refine readsSettings_signed rfl (by decide) ?_ rfl _
      rw [String.toList_ofList]
      exact Text.isNameChar_of_suffix _ hall
    | boolean hname =>
      rw [hname, List.append_cons] at hall
      refine readsSettings_signed rfl (by decide) ?_ rfl _
      rw [String.toList_ofList]
      exact Text.isNameChar_of_suffix _ hall
    | namespaced hcolon =>
      exact readsSettings_boundAttribute (Text.isName_of_isMarkupName h)
        (Wire.split_namespaced h hcolon) _
    | plain hcolon hmap =>
      obtain ⟨hnormal, hcolon⟩ := isMarkupName_normalName h hcolon
      exact readsSettings_plainAttribute hnormal hcolon value AttributeValue.code_of_eq_bare

/-- The attributes of a tag are read back one by one. -/
theorem Attribute.readsSettings_templateOf {attributes : List Attribute}
    (h : ∀ a ∈ attributes, a.isReadable = true) :
    ReadsSettings (Attribute.templateOf options attributes).value.word
      (attributes.map (Attribute.setting options false)) := by
  induction attributes with
  | nil => exact ReadsSettings.nil
  | cons a rest ih =>
    rw [Attribute.templateOf, Emit.value_bind, Emit.value_bind, Emit.value_pure,
      Template.word_append]
    exact (Attribute.readsSettings_template (h a (by simp))).append
      (ih fun b hb => h b (List.mem_cons_of_mem _ hb))

/-- A static attribute is read back as the setting that it is. -/
theorem readsSettings_staticText {name shown : String} {value : AttributeValue}
    (hvalue : value.isConstant = true) (hname : Text.isMarkupName shown.toList = true)
    (hcolon : ':' ∉ shown.toList)
    (hshown : (if name = "classMap" then "class" else normalName name) = shown) (code : Code) :
    ReadsSettings (Template.chars (Attribute.named name value).staticText)
      [.named .plain shown.toList (value.setting true code)] := by
  subst hshown
  cases value with
  | literal text => exact readsSettings_attributeText hname hcolon text
  | bare =>
    have hread := ReadsSettings.bare (α := Code) (Text.isName_of_isMarkupName hname)
    rw [Setting.written, Wire.split_plain hname hcolon] at hread
    exact hread
  | expr e => cases hvalue
  | markup node => cases hvalue

/-- Written out as text, an attribute is found with its text, or with its name alone. -/
theorem Attribute.readsSettings_staticText {a : Attribute} (h : a.isReadable = true)
    (hstatic : a.isStatic = true) :
    ReadsSettings (Template.chars a.staticText) [a.setting options true] := by
  cases a with
  | spread value => cases hstatic
  | named name value =>
    rw [Attribute.isStatic, Bool.and_eq_true] at hstatic
    obtain ⟨hkind, hvalue⟩ := hstatic
    rw [Attribute.setting]
    -- a static attribute is one of two special names, or plain after all
    obtain ⟨rfl, hof⟩ | ⟨rfl, hof⟩ | ⟨hcolon, hmap, hof⟩ := AttributeKind.of_isTextual hkind
    · rw [hof]
      exact JsxTemplate.readsSettings_staticText hvalue (by decide) (by decide) rfl _
    · rw [hof]
      exact JsxTemplate.readsSettings_staticText hvalue (by decide) (by decide) rfl _
    · rw [hof]
      obtain ⟨hnormal, hcolon⟩ := isMarkupName_normalName h hcolon
      exact JsxTemplate.readsSettings_staticText hvalue hnormal hcolon (if_neg hmap) _

/-- Several of them are read back one by one. -/
theorem Attribute.readsSettings_staticTexts (options : Options) {attributes : List Attribute}
    (h : ∀ a ∈ attributes, a.isReadable = true) (hstatic : ∀ a ∈ attributes, a.isStatic = true) :
    ReadsSettings (Template.chars (attributes.flatMap Attribute.staticText))
      (attributes.map (Attribute.setting options true)) := by
  induction attributes with
  | nil => exact ReadsSettings.nil
  | cons a rest ih =>
    rw [List.flatMap_cons, Template.chars_append]
    exact (Attribute.readsSettings_staticText (h a (by simp)) (hstatic a (by simp))).append
      (ih (fun b hb => h b (List.mem_cons_of_mem _ hb))
        fun b hb => hstatic b (List.mem_cons_of_mem _ hb))

/-! ### Content -/

/-- The parts of an element that can be read. -/
theorem Markup.isReadable_element {span : Span} {tag : TagName} {types : List Part}
    {attributes : List Attribute} {children : List Markup}
    (h : (Markup.element span tag types attributes children).isReadable = true) :
    isName tag.text.toList = true ∧ (∀ a ∈ attributes, a.isReadable = true) ∧
      Markup.allReadable children = true := by
  rw [Markup.isReadable, Bool.and_eq_true, Bool.and_eq_true, List.all_eq_true] at h
  exact ⟨Text.isName_of_isMarkupName h.1.1, h.1.2, h.2⟩

mutual

/-- Written out as text, static markup is found as it is. -/
theorem Markup.readsContent_staticText : {node : Markup} → node.isReadable = true →
    node.isStatic = true →
    ReadsContent (Template.chars (node.staticText options).value) (node.content options)
  | .element span tag types attributes children, h, hstatic => by
    obtain ⟨hname, hattributes, hchildren⟩ := Markup.isReadable_element h
    have hinlined := hstatic
    rw [Markup.isStatic, Bool.and_eq_true, List.all_eq_true] at hstatic
    have hsettings := Attribute.readsSettings_staticTexts options hattributes hstatic.1
    have hcontent := Markup.readsContent_staticTexts hchildren hstatic.2
    rw [Markup.staticText, Markup.content, hinlined, Emit.value_bind]
    dsimp only
    -- a void element has no content and no closing tag
    split
    · have hread := ReadsContent.void hname hsettings
      simpa using hread
    · have hread := ReadsContent.element hname hsettings hcontent
      simpa [closingTag] using hread
  | .text raw, h, _ => by
    rw [Markup.isReadable, Bool.not_eq_true', ← Bool.not_eq_true, List.contains_iff_mem] at h
    rw [Markup.staticText, Markup.content, Emit.value_pure]
    split
    · exact ReadsContent.text h
    · exact ReadsContent.nil
  | .component .., _, hstatic => by cases hstatic
  | .fragment _, _, hstatic => by cases hstatic
  | .hole .., _, hstatic => by cases hstatic

theorem Markup.readsContent_staticTexts : {nodes : List Markup} →
    Markup.allReadable nodes = true → Markup.allStatic nodes = true →
    ReadsContent (Template.chars (Markup.staticTexts options nodes).value)
      (Markup.contentOf options nodes)
  | [], _, _ => ReadsContent.nil
  | node :: rest, h, hstatic => by
    rw [Markup.allReadable, Bool.and_eq_true] at h
    rw [Markup.allStatic, Bool.and_eq_true] at hstatic
    rw [Markup.staticTexts, Emit.value_bind, Emit.value_bind, Emit.value_pure,
      Template.chars_append, Markup.contentOf]
    exact (Markup.readsContent_staticText h.1 hstatic.1).append
      (Markup.readsContent_staticTexts h.2 hstatic.2)

end

/-- Static markup in a template is read back from its text. -/
theorem Markup.readsContent_template_of_isStatic {node : Markup} (h : node.isReadable = true)
    (hstatic : node.isStatic = true) :
    ReadsContent (node.template options).value.word (node.content options) := by
  rw [Markup.template_of_isStatic hstatic, Emit.value_map, Template.word_text]
  exact Markup.readsContent_staticText h hstatic

/-- Compiled, an element is found around what its content is read as. -/
theorem readsContent_elementTemplate (span : Span) {tag : TagName} {attributes : List Attribute}
    {inTag content : Emit (Template Code)} {settings : List (Setting Code)}
    {inner : Template (Node Code)} (hname : isName tag.text.toList = true)
    (hsettings : ReadsSettings inTag.value.word settings)
    (hcontent : ReadsContent content.value.word inner) :
    ReadsContent (elementTemplate span tag attributes inTag content).value.word
      (.hole (.element ⟨tag.text.toList, settings⟩
        (if isVoidTag tag.text then .empty else inner))) := by
  rw [elementTemplate, Emit.value_bind, Emit.value_bind]
  split
  · have hread := ReadsContent.void hname hsettings
    simpa using hread
  · have hread := ReadsContent.element hname hsettings hcontent
    simpa [closingTag] using hread

mutual

/-- Inside an open template, markup is found as it is. -/
theorem Markup.readsContent_template : {node : Markup} → node.isReadable = true →
    ReadsContent (node.template options).value.word (node.content options)
  | .element span tag types attributes children, h => by
    -- a static element was written as text, and read back as such
    by_cases hstatic : (Markup.element span tag types attributes children).isStatic = true
    · exact Markup.readsContent_template_of_isStatic h hstatic
    · obtain ⟨hname, hattributes, hchildren⟩ := Markup.isReadable_element h
      rw [Markup.template, if_neg hstatic, Markup.content, Bool.eq_false_iff.2 hstatic]
      exact readsContent_elementTemplate span hname
        (Attribute.readsSettings_templateOf hattributes) (Markup.readsContent_templateOf hchildren)
  | .component span tag types attributes children, _ => ReadsContent.hole _
  | .fragment children, h => Markup.readsContent_templateOf h
  | .text raw, h => Markup.readsContent_template_of_isStatic h rfl
  | .hole spread value, _ => ReadsContent.hole _

theorem Markup.readsContent_templateOf : {nodes : List Markup} →
    Markup.allReadable nodes = true →
    ReadsContent (Markup.templateOf options nodes).value.word (Markup.contentOf options nodes)
  | [], _ => ReadsContent.nil
  | node :: rest, h => by
    rw [Markup.allReadable, Bool.and_eq_true] at h
    rw [Markup.templateOf, Emit.value_bind, Emit.value_bind, Emit.value_pure,
      Template.word_append, Markup.contentOf]
    exact (Markup.readsContent_template h.1).append (Markup.readsContent_templateOf h.2)

end

/-- **A compiled element reads back.** An element whose tags and attributes have names of markup,
    and whose texts hold no start of a tag, is compiled to a template that a reader of markup can
    read. It finds the tag, the attributes in their order with the wires of their kinds, and then
    the content, of which nothing is left if the tag has none. -/
theorem Markup.read_elementTemplate (options : Options) (span : Span) (tag : TagName)
    (types : List Part) (attributes : List Attribute) (children : List Markup)
    (h : (Markup.element span tag types attributes children).isReadable = true) :
    let written := (elementTemplate span tag attributes (Attribute.templateOf options attributes)
      (Markup.templateOf options children)).value
    ((Markup.element span tag types attributes children).value options).value = .template written ∧
    written.read = some (.hole (.element
      ⟨tag.text.toList, attributes.map (Attribute.setting options false)⟩
      (if isVoidTag tag.text then .empty else Markup.contentOf options children))) := by
  obtain ⟨hname, hattributes, hchildren⟩ := Markup.isReadable_element h
  exact ⟨rfl, (readsContent_elementTemplate span hname
    (Attribute.readsSettings_templateOf hattributes)
    (Markup.readsContent_templateOf hchildren)).read_eq⟩

/-- A paragraph with a listener, a quote in its class and a bare attribute, around texts that meet,
    a line break with a bare attribute of its own, and a hole. -/
theorem Markup.read_elementTemplate_paragraph :
    ∃ (attributes : List Attribute) (children : List Markup),
      (Markup.element ⟨0, 0⟩ (.plain "p") [] attributes children).isReadable = true ∧
      (elementTemplate ⟨0, 0⟩ (.plain "p") attributes (Attribute.templateOf {} attributes)
          (Markup.templateOf {} children)).value.read =
        some (.hole (.element
          ⟨"p".toList,
            [.named .event "click".toList (.hole (.copy (.name ⟨12, 13⟩ "f") [])),
              .named .plain "class".toList (.text "a&quot;b".toList),
              .named .plain "hidden".toList (.hole .flag)]⟩
          (.text "xy".toList ++
            .hole (.element ⟨"br".toList, [.named .plain "hidden".toList .absent]⟩ .empty) ++
            .hole (.hole (.copy (.name ⟨70, 71⟩ "g") []))))) := by
  have hreadable : (Markup.element ⟨0, 0⟩ (.plain "p") []
      [.named "onClick" (.expr (.name ⟨12, 13⟩ "f")), .named "className" (.literal "a\"b"),
        .named "hidden" .bare]
      [.text "x", .fragment [.text "\n  ", .text "y"],
        .element ⟨0, 0⟩ (.plain "br") [] [.named "hidden" .bare] [],
        .hole false (.name ⟨70, 71⟩ "g")]).isReadable = true := by decide +kernel
  exact ⟨_, _, hreadable, (Markup.read_elementTemplate {} _ _ _ _ _ hreadable).2.trans rfl⟩

end JsxTemplate
