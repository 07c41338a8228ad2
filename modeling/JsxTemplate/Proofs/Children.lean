import JsxTemplate.Proofs.Emit
import JsxTemplate.Proofs.Getters
import Mathlib.Data.List.Forall2

namespace JsxTemplate

/-!
# Children as values

Where children become values, only some of them count: those that are left when fragments are opened
and blank texts are dropped. Each of these gives one value, and a list of them is handed over as an
array literal would be.

* `Markup.isLeaf` — children that count; `Markup.isLeaf_of_mem_flattenAll` says that flattening
  leaves no others.
* `Markup.leavesOf_flattenAll` — the values of children are those of the ones that count, and
  `Markup.forall₂_leavesOf` says that each of them gives one.
* `Markup.Denotes` — the expression that a child stands for.
* `childrenNeedGetter_eq_needsGetter` — children become a getter if the expression for all of them
  does.
-/

/-! ### Children that count -/

/-- Whether a child is one value by itself: no fragment, and no blank text. -/
def Markup.isLeaf : Markup → Bool
  | .fragment _ => false
  | .text raw => !Text.allBlank raw.toList
  | _ => true

mutual

/-- What is left after fragments are opened are no fragments. -/
theorem Markup.isLeaf_of_mem_flatten : (node : Markup) →
    ∀ leaf ∈ node.flatten, leaf.isLeaf = true
  | .element .. => by simp [Markup.flatten, Markup.isLeaf]
  | .component .. => by simp [Markup.flatten, Markup.isLeaf]
  | .fragment children => Markup.isLeaf_of_mem_flattenAll children
  | .text raw => by
    intro leaf hleaf
    rw [Markup.flatten] at hleaf
    -- blank text leaves nothing behind, so a text that is left is not blank
    split at hleaf
    next => cases hleaf
    next h =>
      rw [List.mem_singleton.1 hleaf, Markup.isLeaf, Bool.not_eq_true']
      exact Bool.eq_false_iff.2 h
  | .hole .. => by simp [Markup.flatten, Markup.isLeaf]

/-- No fragments and no blank texts are left among children that are flattened. -/
theorem Markup.isLeaf_of_mem_flattenAll : (nodes : List Markup) →
    ∀ leaf ∈ Markup.flattenAll nodes, leaf.isLeaf = true
  | [] => by simp [Markup.flattenAll]
  | node :: rest => by
    rw [Markup.flattenAll]
    exact List.forall_mem_append.2
      ⟨node.isLeaf_of_mem_flatten, Markup.isLeaf_of_mem_flattenAll rest⟩

end

/-- Fragments are opened in markup in a row part by part. -/
theorem Markup.flattenAll_append (as bs : List Markup) :
    Markup.flattenAll (as ++ bs) = Markup.flattenAll as ++ Markup.flattenAll bs := by
  induction as with
  | nil => rfl
  | cons a as ih =>
    rw [List.cons_append, Markup.flattenAll, Markup.flattenAll, ih, List.append_assoc]

/-! ### One value for each of them -/

section

variable (options : Options)

/-- The values of markup in a row are in a row. -/
theorem Markup.leavesOf_append (as bs : List Markup) :
    Markup.leavesOf options (as ++ bs) = do
      return (← Markup.leavesOf options as) ++ (← Markup.leavesOf options bs) := by
  induction as with
  | nil =>
    rw [List.nil_append, Markup.leavesOf, pure_bind]
    simp only [List.nil_append, bind_pure]
  | cons a as ih =>
    rw [List.cons_append, Markup.leavesOf, Markup.leavesOf, ih]
    simp only [bind_assoc, pure_bind, List.append_assoc]

/-- The values of one piece of markup. -/
theorem Markup.leavesOf_singleton (node : Markup) :
    Markup.leavesOf options [node] = node.leaves options := by
  rw [Markup.leavesOf, Markup.leavesOf]
  simp only [pure_bind, List.append_nil, bind_pure]

mutual

/-- Opening fragments does not change the values of markup. -/
theorem Markup.leavesOf_flatten : (node : Markup) →
    Markup.leavesOf options node.flatten = node.leaves options
  | .element .. => Markup.leavesOf_singleton options _
  | .component .. => Markup.leavesOf_singleton options _
  | .fragment children => Markup.leavesOf_flattenAll children
  | .text raw => by
    rw [Markup.flatten]
    split
    next h => rw [Markup.leaves, if_pos h, Markup.leavesOf]
    next => exact Markup.leavesOf_singleton options _
  | .hole .. => Markup.leavesOf_singleton options _

/-- The values of children are those of the ones that count. -/
theorem Markup.leavesOf_flattenAll : (nodes : List Markup) →
    Markup.leavesOf options (Markup.flattenAll nodes) = Markup.leavesOf options nodes
  | [] => rfl
  | node :: rest => by
    rw [Markup.flattenAll, Markup.leavesOf_append, node.leavesOf_flatten,
      Markup.leavesOf_flattenAll rest, Markup.leavesOf]

end

/-- A child that counts gives one value. -/
theorem Markup.exists_leaf {node : Markup} (h : node.isLeaf = true) :
    ∃ leaf, (node.leaves options).value = [leaf] := by
  cases node with
  | fragment children => cases h
  | text raw =>
    rw [Markup.isLeaf, Bool.not_eq_true'] at h
    rw [Markup.leaves, h]
    exact ⟨_, rfl⟩
  | element span tag types attributes children => exact ⟨_, rfl⟩
  | component span tag types attributes children => exact ⟨_, rfl⟩
  | hole isSpread value => exact ⟨_, rfl⟩

/-- Children that count give their values one by one. -/
theorem Markup.forall₂_leavesOf (nodes : List Markup) :
    List.Forall₂ (fun node leaf => (node.leaves options).value = [leaf]) (Markup.flattenAll nodes)
      (Markup.leavesOf options nodes).value := by
  -- flattening first changes no leaf, and of flat content each piece gives exactly one
  rw [← Markup.leavesOf_flattenAll]
  have hleaf := Markup.isLeaf_of_mem_flattenAll nodes
  generalize Markup.flattenAll nodes = content at hleaf
  induction content with
  | nil => exact .nil
  | cons node rest ih =>
    obtain ⟨leaf, hvalue⟩ := Markup.exists_leaf options (hleaf node (by simp))
    have hrest := ih fun n hn => hleaf n (List.mem_cons_of_mem _ hn)
    rw [Markup.leavesOf, Emit.value_bind, Emit.value_bind, Emit.value_pure, hvalue]
    exact .cons hvalue hrest

end

/-! ### Children as expressions -/

/-- The expressions that a child stands for as a value: a text is a string, markup is itself, and
    what is between braces may be put in parentheses. -/
inductive Markup.Denotes : Markup → Expr → Prop
  | text (raw : String) (span : Span) : Denotes (.text raw) (.compound .string span [])
  | hole (value : Expr) : Denotes (.hole false value) value
  | paren (value : Expr) (span : Span) : Denotes (.hole false value) (.paren span value)
  | element (start : Span) (tag : TagName) (types : List Part) (attributes : List Attribute)
      (children : List Markup) (span : Span) :
      Denotes (.element start tag types attributes children)
        (.markup span (.element start tag types attributes children))
  | component (start : Span) (tag : TagName) (types : List Part) (attributes : List Attribute)
      (children : List Markup) (span : Span) :
      Denotes (.component start tag types attributes children)
        (.markup span (.component start tag types attributes children))

/-- A child that counts stands for an expression, unless it is a spread. -/
theorem Markup.exists_denotes {node : Markup} (h : node.isLeaf = true)
    (hspread : ∀ value, node ≠ .hole true value) : ∃ value, node.Denotes value := by
  cases node with
  | fragment children => cases h
  | text raw => exact ⟨_, .text raw ⟨0, 0⟩⟩
  | element span tag types attributes children => exact ⟨_, .element _ _ _ _ _ span⟩
  | component span tag types attributes children => exact ⟨_, .component _ _ _ _ _ span⟩
  | hole isSpread value =>
    cases isSpread with
    | true => exact absurd rfl (hspread value)
    | false => exact ⟨value, .hole value⟩

/-- Parentheses do not decide about an accessor. -/
theorem Expr.needsGetter_paren (span : Span) (inner : Expr) :
    (Expr.paren span inner).needsGetter = inner.needsGetter := by
  simp only [Expr.needsGetter, Expr.shape, Expr.isInertArray, Expr.unparenthesized, Expr.reads]

namespace Markup.Denotes

variable {node : Markup} {value : Expr} {nodes : List Markup} {values : List Expr}

/-- A child reads if the expression that it stands for does. -/
theorem reads_eq (h : node.Denotes value) : node.reads = value.reads := by
  cases h <;> rfl

/-- It does nothing if that does nothing. -/
theorem isInert_eq (h : node.Denotes value) : node.isInert = value.shape.isInert := by
  cases h <;> rfl

/-- It needs an accessor if that does. -/
theorem needsGetter_eq (h : node.Denotes value) : node.needsGetter = value.needsGetter := by
  cases h with
  | paren value span => exact (value.needsGetter_paren span).symm
  | text raw span => rfl
  | hole => rfl
  | element => rfl
  | component => rfl

/-- Children read something if their expressions do. -/
theorem anyReads_eq (h : List.Forall₂ Denotes nodes values) :
    Markup.anyReads nodes = Part.anyReads (values.map .expr) := by
  induction h with
  | nil => rfl
  | cons hnode _ ih =>
    rw [Markup.anyReads, List.map_cons, Part.anyReads, Part.reads, hnode.reads_eq, ih]

/-- Children leave a list constant if their expressions leave an array constant. -/
theorem all_isInert_eq (h : List.Forall₂ Denotes nodes values) :
    nodes.all Markup.isInert = (values.map Part.expr).all Part.isInert := by
  induction h with
  | nil => rfl
  | cons hnode _ ih =>
    rw [List.all_cons, List.map_cons, List.all_cons, Part.isInert, hnode.isInert_eq, ih]

end Markup.Denotes

/-- Children that count, without spreads, stand for expressions one by one. -/
theorem Markup.exists_forall₂_denotes {nodes : List Markup}
    (hleaf : ∀ node ∈ nodes, node.isLeaf = true)
    (hspread : ∀ value, Markup.hole true value ∉ nodes) :
    ∃ values, List.Forall₂ Markup.Denotes nodes values := by
  induction nodes with
  | nil => exact ⟨[], .nil⟩
  | cons node rest ih =>
    have hne : ∀ value, node ≠ .hole true value := by
      rintro value rfl
      exact hspread value (by simp)
    obtain ⟨value, hvalue⟩ := Markup.exists_denotes (hleaf node (by simp)) hne
    obtain ⟨values, hvalues⟩ := ih (fun n hn => hleaf n (List.mem_cons_of_mem _ hn))
      fun v hv => hspread v (List.mem_cons_of_mem _ hv)
    exact ⟨value :: values, .cons hvalue hvalues⟩

/-! ### The two rules -/

/-- An array literal becomes a getter if one of its elements reads, unless all of them are inert. -/
theorem Expr.needsGetter_array (span : Span) (parts : List Part) :
    (Expr.compound .array span parts).needsGetter =
      (!parts.all Part.isInert && Part.anyReads parts) :=
  Expr.needsGetter_eq (by simp [Expr.shape, Form.shape])

/-- Two or more children need an accessor if some read, unless none does anything. -/
theorem childrenNeedGetter_of_two_le {nodes : List Markup} (h : 2 ≤ nodes.length) :
    childrenNeedGetter nodes = (!nodes.all Markup.isInert && Markup.anyReads nodes) := by
  unfold childrenNeedGetter
  split
  · simp at h
  · rfl

/-- **Children become a getter as the expression for them does.** Children that count, without
    spreads, stand for expressions. A lone child becomes a getter if and only if its expression
    does, and several children if and only if the array literal of their expressions does. -/
theorem childrenNeedGetter_eq_needsGetter (children : List Markup)
    (hspread : ∀ value, .hole true value ∉ Markup.flattenAll children) :
    (∃ values, List.Forall₂ Markup.Denotes (Markup.flattenAll children) values) ∧
    ∀ values, List.Forall₂ Markup.Denotes (Markup.flattenAll children) values →
      (∀ value, values = [value] →
        childrenNeedGetter (Markup.flattenAll children) = value.needsGetter) ∧
      (2 ≤ values.length → ∀ span,
        childrenNeedGetter (Markup.flattenAll children) =
          (Expr.compound .array span (values.map .expr)).needsGetter) := by
  refine ⟨?_, fun values hvalues => ⟨?_, ?_⟩⟩
  · exact Markup.exists_forall₂_denotes (Markup.isLeaf_of_mem_flattenAll children) hspread
  · rintro value rfl
    -- a single value stands for a single piece of content, which is asked by itself
    obtain ⟨node, rest, hnode, hrest, hcontent⟩ := List.forall₂_cons_right_iff.1 hvalues
    obtain rfl := List.forall₂_nil_right_iff.1 hrest
    rw [hcontent]
    exact hnode.needsGetter_eq
  · -- several pieces are asked as the items of one array are
    intro hmany span
    have hlength : 2 ≤ (Markup.flattenAll children).length := by
      rw [hvalues.length_eq]
      exact hmany
    rw [childrenNeedGetter_of_two_le hlength, Expr.needsGetter_array,
      Markup.Denotes.all_isInert_eq hvalues, Markup.Denotes.anyReads_eq hvalues]

/-- A text, a property that is read inside of a fragment, and an element. -/
theorem childrenNeedGetter_eq_needsGetter_mixed :
    ∃ (children : List Markup) (values : List Expr),
      (∀ value, .hole true value ∉ Markup.flattenAll children) ∧
      List.Forall₂ Markup.Denotes (Markup.flattenAll children) values ∧ values.length = 3 ∧
      childrenNeedGetter (Markup.flattenAll children) = true ∧
      (Expr.compound .array ⟨0, 19⟩ (values.map .expr)).needsGetter = true := by
  obtain ⟨children, values, hspread, hvalues, hlength, hgetter⟩ :
      ∃ (children : List Markup) (values : List Expr),
        (∀ value, .hole true value ∉ Markup.flattenAll children) ∧
        List.Forall₂ Markup.Denotes (Markup.flattenAll children) values ∧ values.length = 3 ∧
        childrenNeedGetter (Markup.flattenAll children) = true := by
    refine ⟨[.text "n", .text " \n", .fragment [.hole false (.compound .member ⟨7, 10⟩
        [.expr (.name ⟨7, 8⟩ "s"), .name .property "v"])],
      .element ⟨14, 18⟩ (.plain "b") [] [] []], _, fun value hvalue => ?_,
      .cons (.text "n" ⟨1, 4⟩) (.cons (.hole _) (.cons (.element _ _ _ _ _ ⟨12, 16⟩) .nil)),
      rfl, rfl⟩
    have hmem : Markup.hole true value ∈ [.text "n", .hole false _, .element _ _ _ _ _] := hvalue
    simp at hmem
  have harray := ((childrenNeedGetter_eq_needsGetter children hspread).2 values hvalues).2
    (by omega) ⟨0, 19⟩
  exact ⟨children, values, hspread, hvalues, hlength, hgetter, harray ▸ hgetter⟩

end JsxTemplate
