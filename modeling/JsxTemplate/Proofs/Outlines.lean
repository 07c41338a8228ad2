import JsxTemplate.Proofs.Templates
import JsxTemplate.Transform

namespace JsxTemplate

/-!
# What is done with the frame around something

The words `this` and `arguments` stand for the frame of the function around them; an arrow function
has none of its own.

* `Outline` — whether something uses the frame around it, and the properties that components are
  given in it.
* `Code.outline` — this for compiled code, read off the object literals and the copied expressions.
* `Markup.outline` — this for markup, where a property is an attribute or the content of a component
  (`Handed`).
* `Expr.outline_within` — the outline of an expression is that of its own words, and then those of
  the outermost markup in it.
-/

/-! ### Outlines -/

/-- What code or markup does with the frame around it. -/
@[ext] structure Outline (π : Type) where
  /-- It uses the frame. -/
  usesFrame : Bool
  /-- The properties that components are given in it, at any depth, in the order of the text. -/
  properties : List π

namespace Outline

variable {α β π : Type}

/-- Nothing. -/
def empty : Outline π := ⟨false, []⟩

/-- A word that uses the frame, or one that does not. -/
def word (usesFrame : Bool) : Outline π := ⟨usesFrame, []⟩

instance : Append (Outline π) where
  append o p := ⟨o.usesFrame || p.usesFrame, o.properties ++ p.properties⟩

/-- The outline of something as it is seen from outside of a function around it, which shares the
    frame or has its own. -/
def within (isShared : Bool) (o : Outline π) : Outline π :=
  ⟨isShared && o.usesFrame, o.properties⟩

/-- A property with its value. -/
def given (property : π) (isGetter : Bool) (value : Outline π) : Outline π :=
  ⟨!isGetter && value.usesFrame, property :: value.properties⟩

/-- Several outlines in a row. -/
def ofAll (f : α → Outline π) : List α → Outline π
  | [] => empty
  | a :: rest => f a ++ ofAll f rest

/-- Several outlines in a row, each in a frame of its own or not. -/
def inFrames (shares : List Bool) (outlines : List (Outline π)) : Outline π :=
  ofAll id (shares.zipWith within outlines)

@[simp] theorem empty_append (o : Outline π) : empty ++ o = o := rfl

/-- Nothing after an outline changes it. -/
@[simp] theorem append_empty (o : Outline π) : o ++ empty = o := by
  ext1
  · exact Bool.or_false _
  · exact List.append_nil _

/-- It does not matter which two of three outlines are joined first. -/
theorem append_assoc (o p q : Outline π) : o ++ p ++ q = o ++ (p ++ q) := by
  ext1
  · exact Bool.or_assoc _ _ _
  · exact List.append_assoc _ _ _

@[simp] theorem within_true (o : Outline π) : o.within true = o := rfl

/-- There is nothing to move into another frame. -/
@[simp] theorem within_empty (isShared : Bool) : (empty : Outline π).within isShared = empty := by
  cases isShared <;> rfl

/-- Two outlines in a row are moved into a frame one by one. -/
@[simp] theorem within_append (isShared : Bool) (o p : Outline π) :
    (o ++ p).within isShared = o.within isShared ++ p.within isShared := by
  ext1
  · exact Bool.and_or_distrib_left _ _ _
  · rfl

/-- Of two frames around an outline, both have to be shared. -/
theorem within_within (isShared isShared' : Bool) (o : Outline π) :
    (o.within isShared').within isShared = o.within (isShared && isShared') := by
  ext1
  · exact (Bool.and_assoc _ _ _).symm
  · rfl

@[simp] theorem ofAll_nil (f : α → Outline π) : ofAll f [] = empty := rfl

@[simp] theorem ofAll_cons (f : α → Outline π) (a : α) (as : List α) :
    ofAll f (a :: as) = f a ++ ofAll f as := rfl

/-- Outlines of parts in a row are in a row. -/
@[simp] theorem ofAll_append (f : α → Outline π) (as bs : List α) :
    ofAll f (as ++ bs) = ofAll f as ++ ofAll f bs := by
  induction as with
  | nil => rfl
  | cons a as ih => rw [List.cons_append, ofAll_cons, ih, ofAll_cons, append_assoc]

/-- The outline of parts that are made from others. -/
theorem ofAll_map (f : β → Outline π) (g : α → β) (as : List α) :
    ofAll f (as.map g) = ofAll (fun a => f (g a)) as := by
  induction as with
  | nil => rfl
  | cons a as ih => rw [List.map_cons, ofAll_cons, ih, ofAll_cons]

/-- Frames are given to outlines one by one, as long as there is one for each. -/
theorem inFrames_append {shares shares' : List Bool} {os ps : List (Outline π)}
    (h : shares.length = os.length) :
    inFrames (shares ++ shares') (os ++ ps) = inFrames shares os ++ inFrames shares' ps := by
  rw [inFrames, List.zipWith_append h, ofAll_append]
  rfl

/-- Words may be put in front of everything. -/
theorem word_append_word (a b : Bool) (o p : Outline π) :
    word a ++ o ++ (word b ++ p) = word (a || b) ++ (o ++ p) := by
  ext1
  · show (a || o.usesFrame || (b || p.usesFrame)) = (a || b || (o.usesFrame || p.usesFrame))
    ac_rfl
  · rfl

end Outline

/-! ### Frames in expressions -/

/-- Whether a tag names something of the frame, or the frame itself. -/
def TagName.usesFrame : TagName → Bool
  | plain name => name == "arguments"
  | namespaced _ _ => false
  | member none _ => true
  | member (some root) _ => root == "arguments"

mutual

/-- Whether an expression uses the frame around it outside of the markup in it. -/
def Expr.spellsFrame : Expr → Bool
  | .name _ text => text == "arguments"
  | .paren _ inner => inner.spellsFrame
  | .markup _ _ => false
  | .compound form _ parts => form != .function && (form == .this || Part.anySpellsFrame parts)

/-- The same for a part. -/
def Part.spellsFrame : Part → Bool
  | .name _ _ => false
  | .expr value => value.spellsFrame
  | .spread value => value.spellsFrame
  | .function _ => false

/-- The same for several parts. -/
def Part.anySpellsFrame : List Part → Bool
  | [] => false
  | part :: rest => part.spellsFrame || Part.anySpellsFrame rest

end

mutual

/-- For each piece of outermost markup in an expression, whether it shares the frame. `isShared`
    says it of the expression. -/
def Expr.shares (isShared : Bool) : Expr → List Bool
  | .name _ _ => []
  | .paren _ inner => inner.shares isShared
  | .markup _ _ => [isShared]
  | .compound form _ parts => Part.sharesOf (isShared && form != .function) parts

/-- The same for a part. -/
def Part.shares (isShared : Bool) : Part → List Bool
  | .name _ _ => []
  | .expr value => value.shares isShared
  | .spread value => value.shares isShared
  | .function parts => Part.sharesOf false parts

/-- The same for several parts. -/
def Part.sharesOf (isShared : Bool) : List Part → List Bool
  | [] => []
  | part :: rest => part.shares isShared ++ Part.sharesOf isShared rest

end

/-! ### Frames in code -/

namespace Code

mutual

/-- The outline of code, with the properties of its object literals. -/
def outline : Code → Outline (Entry Code)
  | string _ => .empty
  | flag => .empty
  | name tag => .word tag.usesFrame
  -- a patch stands where the markup stood, so the expression tells whose frame it is in
  | copy e patches => .word e.spellsFrame ++ .inFrames (e.shares true) (outlinesOfPatches patches)
  | paren inner => inner.outline
  | spread inner => inner.outline
  | array items => outlineOfAll items
  | object entries => outlineOfEntries entries
  | call _ arguments => outlineOfAll arguments
  | template ⟨holes, _⟩ => outlineOfHoles holes

/-- The outline of several pieces of code. -/
def outlineOfAll : List Code → Outline (Entry Code)
  | [] => .empty
  | code :: rest => code.outline ++ outlineOfAll rest

/-- The outlines of the code in place of markup. -/
def outlinesOfPatches : List (Span × Code) → List (Outline (Entry Code))
  | [] => []
  | (_, code) :: rest => code.outline :: outlinesOfPatches rest

/-- The outline of the properties of an object literal. -/
def outlineOfEntries : List (Entry Code) → Outline (Entry Code)
  | [] => .empty
  | ⟨key, value, isGetter⟩ :: rest =>
    .given ⟨key, value, isGetter⟩ isGetter value.outline ++ outlineOfEntries rest

/-- The outline of the holes of a template. -/
def outlineOfHoles : List (List Char × Code) → Outline (Entry Code)
  | [] => .empty
  | (_, code) :: rest => code.outline ++ outlineOfHoles rest

end

/-- Whether code uses the frame around it. -/
def usesFrame (code : Code) : Bool := code.outline.usesFrame

/-- The properties of the object literals in code. -/
def properties (code : Code) : List (Entry Code) := code.outline.properties

end Code

/-- The outline of a property of an object literal. -/
def Entry.outline (e : Entry Code) : Outline (Entry Code) := .given e e.isGetter e.value.outline

/-- The outline of what stands in the holes of a template. -/
def Template.outline (t : Template Code) : Outline (Entry Code) := .ofAll Code.outline t.values

/-- The outline of a piece of the properties of a component. -/
def PropItem.outline : PropItem → Outline (Entry Code)
  | entry e => e.outline
  | source code => code.outline

@[simp] theorem Template.outline_text (cs : List Char) :
    (text cs : Template Code).outline = .empty := rfl

/-- A hole has the outline of its code. -/
@[simp] theorem Template.outline_hole (code : Code) : (hole code).outline = code.outline :=
  Outline.append_empty _

/-- The outlines of two templates in a row are in a row. -/
@[simp] theorem Template.outline_append (t u : Template Code) :
    (t ++ u).outline = t.outline ++ u.outline := by
  rw [Template.outline, values_append, Outline.ofAll_append]
  rfl

namespace Code

/-- The outline of several pieces of code, piece by piece. -/
theorem outlineOfAll_eq (codes : List Code) : outlineOfAll codes = .ofAll outline codes := by
  induction codes with
  | nil => rfl
  | cons code rest ih => rw [outlineOfAll, ih, Outline.ofAll_cons]

/-- The outlines of the code in place of markup, piece by piece. -/
theorem outlinesOfPatches_eq (patches : List (Span × Code)) :
    outlinesOfPatches patches = patches.map fun p => p.2.outline := by
  induction patches with
  | nil => rfl
  | cons patch rest ih => rw [outlinesOfPatches, ih, List.map_cons]

@[simp] theorem outline_name (tag : TagName) : (name tag).outline = .word tag.usesFrame := rfl

/-- The outline of an array is that of its items. -/
@[simp] theorem outline_array (items : List Code) : (array items).outline = .ofAll outline items :=
  outlineOfAll_eq items

/-- The outline of a call is that of its arguments. -/
@[simp] theorem outline_call (helper : Helper) (arguments : List Code) :
    (call helper arguments).outline = .ofAll outline arguments :=
  outlineOfAll_eq arguments

/-- The outline of an object is that of its entries, in which accessors are frames of their own. -/
@[simp] theorem outline_object (entries : List (Entry Code)) :
    (object entries).outline = .ofAll Entry.outline entries := by
  rw [outline]
  induction entries with
  | nil => rfl
  | cons e rest ih =>
    rw [outlineOfEntries, ih]
    rfl

/-- The outline of a template is that of its holes. -/
@[simp] theorem outline_template (t : Template Code) : (template t).outline = t.outline := by
  obtain ⟨holes, tail⟩ := t
  rw [outline]
  induction holes with
  | nil => rfl
  | cons hole rest ih =>
    rw [outlineOfHoles, ih]
    rfl

end Code

/-! ### Frames in markup -/

/-- What a component is given under a name. -/
inductive Handed where
  /-- An attribute. -/
  | named (name : String) (value : AttributeValue)
  /-- The content. -/
  | content (nodes : List Markup)

mutual

/-- The outline of an expression, with the properties of the components in it. -/
def Expr.outline : Expr → Outline Handed
  | .name _ text => .word (text == "arguments")
  | .paren _ inner => inner.outline
  | .markup _ node => node.outline
  | .compound form _ parts =>
    (.word (form == .this) ++ Part.outlineOf parts : Outline Handed).within (form != .function)

/-- The outline of a part. -/
def Part.outline : Part → Outline Handed
  | .name _ _ => .empty
  | .expr value => value.outline
  | .spread value => value.outline
  | .function parts => (Part.outlineOf parts).within false

/-- The outline of several parts. -/
def Part.outlineOf : List Part → Outline Handed
  | [] => .empty
  | part :: rest => part.outline ++ Part.outlineOf rest

/-- The outline of markup. An element that has no content by its tag drops what stands there. -/
def Markup.outline : Markup → Outline Handed
  | .element _ tag _ attributes children =>
    Attribute.outlineOf attributes ++
      if isVoidTag tag.text then .empty else Markup.outlineOf children
  | .component _ tag _ attributes children =>
    .word tag.usesFrame ++
      (Attribute.givenOf (Markup.flattenAll children).isEmpty attributes ++
        if (Markup.flattenAll children).isEmpty then .empty
        else .given (.content children) (childrenNeedGetter (Markup.flattenAll children))
          (Markup.outlineOf children))
  | .fragment children => Markup.outlineOf children
  | .text _ => .empty
  | .hole _ value => value.outline

/-- The outline of several pieces of markup. -/
def Markup.outlineOf : List Markup → Outline Handed
  | [] => .empty
  | node :: rest => node.outline ++ Markup.outlineOf rest

/-- The outline of an attribute of an element. -/
def Attribute.outline : Attribute → Outline Handed
  | .named _ value => value.outline
  | .spread value => value.outline

/-- The outline of the attributes of an element. -/
def Attribute.outlineOf : List Attribute → Outline Handed
  | [] => .empty
  | a :: rest => a.outline ++ Attribute.outlineOf rest

/-- The outline of an attribute of a component. An attribute for the content is dropped if there is
    other content. -/
def Attribute.given (isEmpty : Bool) : Attribute → Outline Handed
  | .named name value =>
    if !isEmpty && name == "children" then .empty
    else .given (.named name value) value.needsGetter value.outline
  | .spread value => value.outline

/-- The outline of the attributes of a component. -/
def Attribute.givenOf (isEmpty : Bool) : List Attribute → Outline Handed
  | [] => .empty
  | a :: rest => a.given isEmpty ++ Attribute.givenOf isEmpty rest

/-- The outline of the value of an attribute. -/
def AttributeValue.outline : AttributeValue → Outline Handed
  | .literal _ => .empty
  | .bare => .empty
  | .expr value => value.outline
  | .markup node => node.outline

end

namespace Handed

/-- The name of the property. -/
def key : Handed → String
  | named name _ => name
  | content _ => "children"

/-- Whether the value has to be read again. -/
def needsGetter : Handed → Bool
  | named _ value => value.needsGetter
  | content nodes => childrenNeedGetter (Markup.flattenAll nodes)

/-- Whether the value uses the frame that it is written in. -/
def usesFrame : Handed → Bool
  | named _ value => value.outline.usesFrame
  | content nodes => (Markup.outlineOf nodes).usesFrame

/-- A property of an object literal is the one that a component is given. -/
structure IsGivenBy (handed : Handed) (e : Entry Code) : Prop where
  key_eq : e.key = handed.key
  isGetter_eq : e.isGetter = handed.needsGetter
  usesFrame_eq : e.value.usesFrame = handed.usesFrame

end Handed

/-- The properties that the components of a module are given, as they are written. -/
def Program.handed (program : Program) : List Handed :=
  program.outermost.flatMap fun piece => piece.2.outline.properties

/-- The properties of the object literals in the code for the markup of a module. -/
def Program.properties (options : Options) (program : Program) : List (Entry Code) :=
  (program.patches options).value.flatMap fun patch => patch.2.properties

/-! ### An expression is its own words and its markup -/

mutual

/-- There is one answer for each outermost piece of markup. -/
theorem Expr.length_shares (isShared : Bool) : (e : Expr) →
    (e.shares isShared).length = e.outermost.length
  | .name _ _ => rfl
  | .paren _ inner => inner.length_shares isShared
  | .markup _ _ => rfl
  | .compound _ _ parts => Part.length_sharesOf _ parts

theorem Part.length_shares (isShared : Bool) : (part : Part) →
    (part.shares isShared).length = part.outermost.length
  | .name _ _ => rfl
  | .expr value => value.length_shares isShared
  | .spread value => value.length_shares isShared
  | .function parts => Part.length_sharesOf false parts

theorem Part.length_sharesOf (isShared : Bool) : (parts : List Part) →
    (Part.sharesOf isShared parts).length = (Part.outermostOf parts).length
  | [] => rfl
  | part :: rest => by
    rw [Part.sharesOf, Part.outermostOf, List.length_append, List.length_append,
      part.length_shares isShared, Part.length_sharesOf isShared rest]

end

/-- The outlines of outermost markup. -/
def outlinesOf (pieces : List (Span × Markup)) : List (Outline Handed) :=
  pieces.map fun piece => piece.2.outline

mutual

/-- The outline of an expression is that of its own words, and then those of the outermost markup
    in it, each in its frame. -/
theorem Expr.outline_within (isShared : Bool) : (e : Expr) →
    e.outline.within isShared =
      .word (isShared && e.spellsFrame) ++ .inFrames (e.shares isShared) (outlinesOf e.outermost)
  | .name _ text => (Outline.append_empty (.word (isShared && text == "arguments"))).symm
  | .paren _ inner => inner.outline_within isShared
  | .markup _ node => by
    rw [Expr.spellsFrame, Bool.and_false]
    exact (Outline.append_empty (node.outline.within isShared)).symm
  | .compound form _ parts => by
    -- a function hides its own words and the markup in it alike
    rw [Expr.outline, Outline.within_within, Outline.within_append,
      Part.outlineOf_within (isShared && form != .function) parts, ← Outline.append_assoc,
      Expr.spellsFrame, ← Bool.and_assoc, Bool.and_or_distrib_left]
    rfl

theorem Part.outline_within (isShared : Bool) : (part : Part) →
    part.outline.within isShared =
      .word (isShared && part.spellsFrame) ++
        .inFrames (part.shares isShared) (outlinesOf part.outermost)
  | .name _ _ => by
    rw [Part.spellsFrame, Bool.and_false]
    exact Outline.within_empty isShared
  | .expr value => value.outline_within isShared
  | .spread value => value.outline_within isShared
  | .function parts => by
    -- a function has a frame of its own, so nothing in it shares the one outside
    rw [Part.outline, Outline.within_within, Part.spellsFrame, Bool.and_false]
    exact Part.outlineOf_within false parts

theorem Part.outlineOf_within (isShared : Bool) : (parts : List Part) →
    (Part.outlineOf parts).within isShared =
      .word (isShared && Part.anySpellsFrame parts) ++
        .inFrames (Part.sharesOf isShared parts) (outlinesOf (Part.outermostOf parts))
  | [] => by
    rw [Part.anySpellsFrame, Bool.and_false]
    exact Outline.within_empty isShared
  | part :: rest => by
    -- both lists go along the outermost markup, so they may be cut after the first part
    have hlength : (part.shares isShared).length = (outlinesOf part.outermost).length := by
      rw [outlinesOf, List.length_map, part.length_shares isShared]
    rw [Part.outlineOf, Outline.within_append, part.outline_within isShared,
      Part.outlineOf_within isShared rest, Outline.word_append_word, ← Bool.and_or_distrib_left,
      ← Outline.inFrames_append hlength, outlinesOf, outlinesOf, ← List.map_append]
    rfl

end

end JsxTemplate
