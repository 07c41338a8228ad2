import JsxTemplate.Proofs.Emit
import Mathlib.Data.List.Chain

namespace JsxTemplate

/-!
# Calls and bare commas in compiled code

Where compiled code has a list of values, a comma divides them: between the arguments of a call, the
items of an array and the entries of an object. An expression with a comma of its own, copied there
without parentheses, is read as several values.

* `Code.sites` — the calls of helpers and the bare comma expressions of code, at every depth.
* `Code.argumentCount` — how many arguments a reader of the text finds.
* `Helper.Takes` — the arguments that a helper is called with.
* `Shows es sites` — the bare comma expressions are those among `es`, and each call is as it should
  be. There is one lemma for each step of `Compile/Placement`.
-/

/-! ### Sites -/

/-- A site in code where commas count. -/
inductive Site where
  /-- A call of a helper. -/
  | call (helper : Helper) (arguments : List Code)
  /-- A comma expression without parentheses, in a list of values. -/
  | comma (e : Expr)

/-- The comma expression that code is, if it stands without parentheses. -/
def Code.comma? : Code → Option Expr
  | .copy e _ => if e.isSequence then some e else none
  | .spread inner => inner.comma?
  | _ => none

mutual

/-- The sites of code, at every depth. -/
def Code.sites : Code → List Site
  | .string _ => []
  | .flag => []
  | .name _ => []
  | .copy _ patches => Code.sitesOfPatches patches
  | .paren inner => inner.sites
  | .spread inner => inner.sites
  | .array items => Code.sitesInSlots items
  | .object entries => Code.sitesOfEntries entries
  | .call helper arguments => .call helper arguments :: Code.sitesInSlots arguments
  | .template ⟨holes, _⟩ => Code.sitesOfHoles holes

/-- The sites of code in a list of values, where the code itself may be a bare comma expression. -/
def Code.sitesInSlots : List Code → List Site
  | [] => []
  | code :: rest => code.comma?.toList.map .comma ++ code.sites ++ Code.sitesInSlots rest

/-- The sites of the code for the markup of an expression. -/
def Code.sitesOfPatches : List (Span × Code) → List Site
  | [] => []
  | (_, code) :: rest => code.sites ++ Code.sitesOfPatches rest

/-- The sites of the entries of an object. -/
def Code.sitesOfEntries : List (Entry Code) → List Site
  | [] => []
  | ⟨_, value, _⟩ :: rest =>
    value.comma?.toList.map .comma ++ value.sites ++ Code.sitesOfEntries rest

/-- The sites of the holes of a template, which are no lists of values. -/
def Code.sitesOfHoles : List (List Char × Code) → List Site
  | [] => []
  | (_, code) :: rest => code.sites ++ Code.sitesOfHoles rest

end

/-- The sites of a template. -/
def Template.sites (t : Template Code) : List Site := Code.sitesOfHoles t.holes

/-- The comma expression of a site that is one. -/
def Site.comma? : Site → Option Expr
  | call _ _ => none
  | comma e => some e

namespace Code

/-- The sites of values in a row are in a row. -/
@[simp] theorem sitesInSlots_append (as bs : List Code) :
    sitesInSlots (as ++ bs) = sitesInSlots as ++ sitesInSlots bs := by
  induction as with
  | nil => rfl
  | cons a as ih => simp only [List.cons_append, sitesInSlots, ih, List.append_assoc]

@[simp] theorem sitesOfPatches_append (ps qs : List (Span × Code)) :
    sitesOfPatches (ps ++ qs) = sitesOfPatches ps ++ sitesOfPatches qs := by
  induction ps with
  | nil => rfl
  | cons p ps ih => simp only [List.cons_append, sitesOfPatches, ih, List.append_assoc]

theorem sitesOfHoles_append (hs ks : List (List Char × Code)) :
    sitesOfHoles (hs ++ ks) = sitesOfHoles hs ++ sitesOfHoles ks := by
  induction hs with
  | nil => rfl
  | cons h hs ih => simp only [List.cons_append, sitesOfHoles, ih, List.append_assoc]

/-- The values of an object stand in a list like the items of an array. -/
theorem sitesOfEntries_eq (entries : List (Entry Code)) :
    sitesOfEntries entries = sitesInSlots (entries.map Entry.value) := by
  induction entries with
  | nil => rfl
  | cons e rest ih => simp only [List.map_cons, sitesInSlots, sitesOfEntries, ih]

/-- Code that is no bare comma expression has the same sites in a list of values as elsewhere. -/
theorem sitesInSlots_singleton {code : Code} (h : code.comma? = none) :
    sitesInSlots [code] = code.sites := by
  simp [sitesInSlots, h]

/-- A bare comma expression among values is one of their sites. -/
theorem comma_mem_sitesInSlots {code : Code} {codes : List Code} {e : Expr} (hmem : code ∈ codes)
    (he : code.comma? = some e) : Site.comma e ∈ sitesInSlots codes := by
  induction codes with
  | nil => cases hmem
  | cons c rest ih =>
    rw [sitesInSlots, List.mem_append, List.mem_append]
    rcases List.mem_cons.1 hmem with rfl | hmem
    · exact .inl (.inl (by simp [he]))
    · exact .inr (ih hmem)

end Code

namespace Template

@[simp] theorem sites_empty : (empty : Template Code).sites = [] := rfl

@[simp] theorem sites_text (cs : List Char) : (text cs : Template Code).sites = [] := rfl

/-- The sites of a hole are those of its code. -/
@[simp] theorem sites_hole (code : Code) : (hole code).sites = code.sites := by
  simp [sites, hole, Code.sitesOfHoles]

/-- Two templates in a row have the sites of both. -/
@[simp] theorem sites_append (t u : Template Code) : (t ++ u).sites = t.sites ++ u.sites := by
  obtain ⟨holes, tail⟩ := u
  show (Template.append t ⟨holes, tail⟩).sites = _
  cases holes with
  | nil => simp [sites, Template.append, Code.sitesOfHoles]
  | cons h rest => simp [sites, Template.append, Code.sitesOfHoles_append, Code.sitesOfHoles]

end Template

/-- The sites of a template are those of its holes. -/
@[simp] theorem Code.sites_template (t : Template Code) : (Code.template t).sites = t.sites := by
  cases t
  rfl

/-! ### Calls as they should be -/

/-- The number of values that code is read as in a list of values. -/
def Code.width (code : Code) : Nat :=
  match code.comma? with
  | some (.compound _ _ parts) => parts.length
  | _ => 1

/-- The number of arguments that a reader finds in the text of a call. -/
def Code.argumentCount : List Code → Nat
  | [] => 0
  | c :: rest => c.width + Code.argumentCount rest

/-- Whether code is an object literal. -/
def Code.isObject : Code → Bool
  | .object _ => true
  | _ => false

/-- Whether code is a copied expression. -/
def Code.isCopy : Code → Bool
  | .copy _ _ => true
  | _ => false

/-- The arguments that a helper is called with: a component gets its properties, sources of
    properties are joined one by one, where those next to each other that are written out are one
    object, and all others get one value. The tag of a template is no function. -/
def Helper.Takes : Helper → List Code → Prop
  | .html, _ => False
  | .component, arguments => arguments.length = 2
  | .mergeProps, arguments =>
    (∀ c ∈ arguments, c.isObject = true ∨ c.isCopy = true) ∧
      arguments.IsChain fun a b => ¬(a.isObject = true ∧ b.isObject = true)
  | _, arguments => arguments.length = 1

/-- Arguments that are no bare comma expressions are read as they are. -/
theorem Code.argumentCount_eq_length {arguments : List Code}
    (h : ∀ c ∈ arguments, c.comma? = none) : Code.argumentCount arguments = arguments.length := by
  induction arguments with
  | nil => rfl
  | cons c rest ih =>
    have hc : c.width = 1 := by rw [Code.width, h c (by simp)]
    rw [Code.argumentCount, hc, ih fun d hd => h d (List.mem_cons_of_mem _ hd), List.length_cons,
      Nat.add_comm]

/-! ### What sites show -/

/-- The bare comma expressions of sites are those among `es`, in order, and so are those among the
    arguments of calls, which are as they should be. -/
structure Shows (es : List Expr) (sites : List Site) : Prop where
  commas : sites.filterMap Site.comma? = es.filter Expr.isSequence
  takes : ∀ {helper arguments}, .call helper arguments ∈ sites → helper.Takes arguments
  within : ∀ {helper arguments}, .call helper arguments ∈ sites →
    ∀ c ∈ arguments, ∀ e, c.comma? = some e → e ∈ es

namespace Shows

variable {es fs : List Expr} {ss ts : List Site}

/-- Nothing shows nothing. -/
theorem nil : Shows [] [] := ⟨rfl, by simp, by simp⟩

/-- What two lists of sites show, one after the other. -/
theorem append (hs : Shows es ss) (ht : Shows fs ts) : Shows (es ++ fs) (ss ++ ts) where
  commas := by rw [List.filterMap_append, List.filter_append, hs.commas, ht.commas]
  takes := by
    intro helper arguments h
    exact (List.mem_append.1 h).elim hs.takes ht.takes
  within := by
    intro helper arguments h c hc e he
    rcases List.mem_append.1 h with h | h
    · exact List.mem_append_left _ (hs.within h c hc e he)
    · exact List.mem_append_right _ (ht.within h c hc e he)

/-- A bare comma expression in a list of values shows itself and nothing else. -/
theorem comma (e : Expr) (patches : List (Span × Code)) :
    Shows [e] ((Code.copy e patches).comma?.toList.map .comma) := by
  unfold Code.comma?
  split
  next h => exact ⟨by simp [Site.comma?, h], by simp, by simp⟩
  next h => exact ⟨by simp [h], by simp, by simp⟩

/-- Code that is no bare comma expression shows the same in a list of values as elsewhere. -/
theorem slot {code : Code} (hclosed : code.comma? = none) (h : Shows es code.sites) :
    Shows es (Code.sitesInSlots [code]) := by
  rw [Code.sitesInSlots_singleton hclosed]
  exact h

/-- A call shows what its arguments show. -/
theorem call {helper : Helper} {arguments : List Code} (htakes : helper.Takes arguments)
    (h : Shows es (Code.sitesInSlots arguments)) :
    Shows es (Code.call helper arguments).sites where
  commas := h.commas
  takes := by
    intro helper' arguments' hmem
    rcases List.mem_cons.1 hmem with heq | hmem
    · cases heq
      exact htakes
    · exact h.takes hmem
  within := by
    intro helper' arguments' hmem c hc e he
    rcases List.mem_cons.1 hmem with heq | hmem
    · cases heq
      -- a bare argument is a site of its own
      have hsite : e ∈ (Code.sitesInSlots arguments).filterMap Site.comma? :=
        List.mem_filterMap.2 ⟨_, Code.comma_mem_sitesInSlots hc he, rfl⟩
      rw [h.commas] at hsite
      exact List.mem_of_mem_filter hsite
    · exact h.within hmem c hc e he

/-- A copied expression in a list of values shows itself and the markup in it. -/
theorem copy {e : Expr} {patches : List (Span × Code)}
    (h : Shows es (Code.sitesOfPatches patches)) :
    Shows (e :: es) (Code.sitesInSlots [.copy e patches]) := by
  rw [Code.sitesInSlots, Code.sitesInSlots, List.append_nil]
  exact (Shows.comma e patches).append h

end Shows

/-- An operand is no bare comma expression: it has parentheses then. -/
theorem comma?_operand (e : Expr) (patches : List (Span × Code)) :
    (operand e (.copy e patches)).comma? = none := by
  unfold operand
  split
  next => rfl
  next h => simp [Code.comma?, h]

/-- An operand shows the markup in it. -/
theorem shows_operand {es : List Expr} {e : Expr} {patches : List (Span × Code)}
    (h : Shows es (Code.sitesOfPatches patches)) :
    Shows es (operand e (.copy e patches)).sites := by
  unfold operand
  split <;> exact h

/-! ### Lists of values -/

section

variable {es fs : List Expr}

/-- A template shows what its holes show. -/
theorem shows_inTemplate {content : Template Code} (h : Shows es content.sites) :
    Shows es (inTemplate content).value.sites := by
  show Shows es (Code.template content).sites
  rw [Code.sites_template]
  exact h

/-- What values of a list show, where none of them is a bare comma expression. -/
structure Leaf.Show (es : List Expr) (leaves : List Leaf) : Prop where
  shows : Shows es (Code.sitesInSlots (leaves.map Leaf.code))
  closed : ∀ leaf ∈ leaves, leaf.code.comma? = none

/-- No values show nothing. -/
theorem Leaf.Show.nil : Leaf.Show [] [] := ⟨.nil, by simp⟩

/-- What values show, one after the other. -/
theorem Leaf.Show.append {ls ms : List Leaf} (hl : Leaf.Show es ls) (hm : Leaf.Show fs ms) :
    Leaf.Show (es ++ fs) (ls ++ ms) where
  shows := by
    rw [List.map_append, Code.sitesInSlots_append]
    exact hl.shows.append hm.shows
  closed := List.forall_mem_append.2 ⟨hl.closed, hm.closed⟩

/-- What one value shows that is no bare comma expression. -/
theorem Leaf.Show.singleton {leaf : Leaf} (hclosed : leaf.code.comma? = none)
    (h : Shows es leaf.code.sites) : Leaf.Show es [leaf] where
  shows := h.slot hclosed
  closed := by simpa using hclosed

/-- A value standing alone has the sites that it has in a list. -/
theorem Leaf.sites_alone {leaf : Leaf} (h : leaf.code.comma? = none) :
    leaf.alone.sites = Code.sitesInSlots [leaf.code] := by
  unfold Leaf.alone
  split
  · rfl
  · exact (Code.sitesInSlots_singleton h).symm

/-- Standing alone, it is none either. -/
theorem Leaf.comma?_alone {leaf : Leaf} (h : leaf.code.comma? = none) :
    leaf.alone.comma? = none := by
  unfold Leaf.alone
  split
  · rfl
  · exact h

/-- A fragment shows what its values show. -/
theorem shows_fragmentValue {leaves : List Leaf} (h : Leaf.Show es leaves) :
    Shows es (fragmentValue leaves).value.sites := by
  unfold fragmentValue
  split
  · exact shows_inTemplate h.shows
  next leaf =>
    refine shows_inTemplate ?_
    rw [Template.sites_hole, Leaf.sites_alone (h.closed leaf (by simp))]
    exact h.shows
  · exact h.shows

/-- So does the content of a component. -/
theorem shows_childrenValue {leaves : List Leaf} (h : Leaf.Show es leaves) :
    Shows es (Code.sitesInSlots (childrenValue leaves).value.toList) := by
  unfold childrenValue
  split
  · exact h.shows
  next leaf =>
    have hclosed := h.closed leaf (by simp)
    split
    · -- a call alone goes into a template, where it is no longer an argument of its own
      show Shows es (Code.sitesInSlots [.template (.hole leaf.code)])
      rw [Code.sitesInSlots_singleton rfl, Code.sites_template, Template.sites_hole,
        ← Code.sitesInSlots_singleton hclosed]
      exact h.shows
    · show Shows es (Code.sitesInSlots [leaf.alone])
      rw [Code.sitesInSlots_singleton (Leaf.comma?_alone hclosed), Leaf.sites_alone hclosed]
      exact h.shows
  · show Shows es (Code.sitesInSlots [.array (List.map Leaf.code _)])
    exact Shows.slot rfl h.shows

/-! ### Properties -/

/-- The code of an item. -/
def PropItem.code : PropItem → Code
  | entry e => e.value
  | source code => code

/-- What items show, where all sources are copied expressions. -/
structure PropItem.Show (es : List Expr) (items : List PropItem) : Prop where
  shows : Shows es (Code.sitesInSlots (items.map PropItem.code))
  copies : ∀ code, .source code ∈ items → code.isCopy = true

/-- No properties show nothing. -/
theorem PropItem.Show.nil : PropItem.Show [] [] := ⟨.nil, by simp⟩

/-- What properties show, one after the other. -/
theorem PropItem.Show.append {xs ys : List PropItem} (hx : PropItem.Show es xs)
    (hy : PropItem.Show fs ys) : PropItem.Show (es ++ fs) (xs ++ ys) where
  shows := by
    rw [List.map_append, Code.sitesInSlots_append]
    exact hx.shows.append hy.shows
  copies := by
    intro code h
    exact (List.mem_append.1 h).elim (hx.copies code) (hy.copies code)

/-- Joining items keeps their sites and those of the entries before them. -/
theorem PropItem.sitesInSlots_arguments (items : List PropItem) (waiting : List (Entry Code)) :
    Code.sitesInSlots (PropItem.arguments waiting items) =
      Code.sitesInSlots (waiting.map Entry.value) ++
        Code.sitesInSlots (items.map PropItem.code) := by
  have hflush : Code.sitesInSlots (if waiting.isEmpty then [] else [Code.object waiting]) =
      Code.sitesInSlots (waiting.map Entry.value) := by
    split
    next h => rw [List.isEmpty_iff.1 h, List.map_nil]
    next => rw [Code.sitesInSlots_singleton rfl, Code.sites, Code.sitesOfEntries_eq]
  induction items generalizing waiting with
  | nil => rw [PropItem.arguments, hflush, List.map_nil, Code.sitesInSlots, List.append_nil]
  | cons item rest ih =>
    cases item with
    | entry e =>
      -- an entry moves from the items to those that wait
      rw [PropItem.arguments, ih, List.map_append, Code.sitesInSlots_append, List.append_assoc,
        ← Code.sitesInSlots_append]
      · rfl
      · rw [if_neg (by simp), Code.sitesInSlots_singleton rfl, Code.sites, Code.sitesOfEntries_eq]
    | source code =>
      rw [PropItem.arguments, Code.sitesInSlots_append, hflush, Code.sitesInSlots, ih [] rfl,
        List.map_cons, PropItem.code]
      rfl

/-- Something that is no object may be put before arguments of which no two in a row are objects. -/
theorem isChain_cons_of_not_isObject {code : Code} {codes : List Code}
    (hcode : code.isObject = false)
    (h : codes.IsChain fun a b => ¬(a.isObject = true ∧ b.isObject = true)) :
    (code :: codes).IsChain fun a b => ¬(a.isObject = true ∧ b.isObject = true) := by
  cases codes with
  | nil => exact .singleton _
  | cons c rest => exact List.isChain_cons_cons.2 ⟨by simp [hcode], h⟩

/-- A copied expression is no object. -/
theorem Code.isObject_of_isCopy {code : Code} (h : code.isCopy = true) : code.isObject = false := by
  cases code <;> first | rfl | cases h

/-- Joined items are sources of properties, one by one. -/
theorem PropItem.takes_arguments {items : List PropItem} (waiting : List (Entry Code))
    (h : ∀ code, .source code ∈ items → code.isCopy = true) :
    Helper.mergeProps.Takes (PropItem.arguments waiting items) := by
  induction items generalizing waiting with
  | nil =>
    rw [PropItem.arguments]
    split
    · exact ⟨by simp, .nil⟩
    · exact ⟨by simp [Code.isObject], .singleton _⟩
  | cons item rest ih =>
    have hrest : ∀ code, .source code ∈ rest → code.isCopy = true :=
      fun code hc => h code (List.mem_cons_of_mem _ hc)
    cases item with
    | entry e => exact ih (waiting ++ [e]) hrest
    | source code =>
      -- what is copied is no object, so it may stand next to one
      have hcopy : code.isCopy = true := h code (by simp)
      have hobject := Code.isObject_of_isCopy hcopy
      obtain ⟨hsources, hchain⟩ := ih [] hrest
      have htail := isChain_cons_of_not_isObject hobject hchain
      rw [PropItem.arguments]
      split
      · exact ⟨List.forall_mem_cons.2 ⟨.inr hcopy, hsources⟩, htail⟩
      · refine ⟨?_, List.isChain_cons_cons.2 ⟨by simp [hobject], htail⟩⟩
        exact List.forall_mem_cons.2 ⟨.inl rfl, List.forall_mem_cons.2 ⟨.inr hcopy, hsources⟩⟩

/-- Items without a source are the properties in them. -/
theorem PropItem.map_value_entries {items : List PropItem}
    (h : ∀ item ∈ items, item.isSource = false) :
    (items.filterMap PropItem.entry?).map Entry.value = items.map PropItem.code := by
  induction items with
  | nil => rfl
  | cons item rest ih =>
    cases item with
    | entry e =>
      show e.value :: (rest.filterMap PropItem.entry?).map Entry.value = _
      rw [ih fun i hi => h i (List.mem_cons_of_mem _ hi), List.map_cons, PropItem.code]
    | source code => cases h (.source code) (by simp)

/-- The argument of a component shows what its properties show. -/
theorem shows_propsValue {items : List PropItem} (h : PropItem.Show es items) :
    Shows es (Code.sitesInSlots [(propsValue items).value]) := by
  unfold propsValue
  split
  · exact h.shows
  next =>
    split
    · show Shows es (Code.sitesInSlots [.call .mergeProps (PropItem.arguments [] items)])
      refine Shows.slot rfl (Shows.call (PropItem.takes_arguments [] h.copies) ?_)
      rw [PropItem.sitesInSlots_arguments]
      exact h.shows
    -- without a spread the object is one argument, and the properties are its entries
    next hsource =>
      show Shows es (Code.sitesInSlots [.object (items.filterMap PropItem.entry?)])
      rw [Code.sitesInSlots_singleton rfl, Code.sites, Code.sitesOfEntries_eq,
        PropItem.map_value_entries (by simpa using hsource)]
      exact h.shows

/-! ### Tags -/

/-- An element shows what its tag and its content show, unless it can have no content. -/
theorem shows_elementTemplate (span : Span) (tag : TagName) (attributes : List Attribute)
    {inTag content : Emit (Template Code)} (hinTag : Shows es inTag.value.sites)
    (hcontent : Shows fs content.value.sites) :
    Shows (es ++ if isVoidTag tag.text then [] else fs)
      (elementTemplate span tag attributes inTag content).value.sites := by
  unfold elementTemplate
  rw [Emit.value_bind, Emit.value_bind]
  split
  · simpa using hinTag
  · simpa using hinTag.append hcontent

/-- **The call of a component shows what its properties and its content show.** -/
theorem shows_componentCall (span : Span) (tag : TagName) (attributes : List Attribute)
    (children : List Markup) {props : Emit (List PropItem)} {leaves : Emit (List Leaf)}
    (hprops : PropItem.Show es props.value) (hleaves : Leaf.Show fs leaves.value) :
    Shows (es ++ fs) (componentCall span tag attributes children props leaves).value.sites := by
  -- the content is one more property, so it is shown together with the others
  have hlast : PropItem.Show fs ((childrenValue leaves.value).value.toList.map fun code =>
      .entry ⟨"children", code, childrenNeedGetter (Markup.flattenAll children)⟩) := by
    refine ⟨?_, by simp⟩
    rw [List.map_map]
    show Shows fs (Code.sitesInSlots (List.map id _))
    rw [List.map_id]
    exact shows_childrenValue hleaves
  refine Shows.call rfl ?_
  rw [Code.sitesInSlots]
  exact shows_propsValue (hprops.append hlast)

end

end JsxTemplate
