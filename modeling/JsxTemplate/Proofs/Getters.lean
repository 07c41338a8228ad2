import JsxTemplate.Analysis.Reads
import JsxTemplate.Grammar.Module

namespace JsxTemplate

/-!
# Which values that read become getters

A value that reads something becomes a getter, unless it is a function. There is one exception: an
array literal, or a list of children, counts as constant if each of its elements has an inert
shape. Names and functions read nothing, but a template literal has the shape of a literal and
may hold any expression.

* `Expr.isReadingLiteral` — a literal with an expression in it that reads.
* `Expr.isReadingLiteral_iff` — these are the values of an inert shape that read.
* `needsGetter_eq_false_iff_of_reads` — the values that read and do not become getters.
-/

/-! ### Parentheses -/

/-- The shape of an expression is that inside of its parentheses. -/
@[simp] theorem Expr.shape_unparenthesized : (e : Expr) → e.unparenthesized.shape = e.shape
  | .paren _ inner => by rw [Expr.unparenthesized, Expr.shape, inner.shape_unparenthesized]
  | .name .. | .markup .. | .compound .. => rfl

/-- It reads if what is inside of them does. -/
@[simp] theorem Expr.reads_unparenthesized : (e : Expr) → e.unparenthesized.reads = e.reads
  | .paren _ inner => by rw [Expr.unparenthesized, Expr.reads, inner.reads_unparenthesized]
  | .name .. | .markup .. | .compound .. => rfl

/-! ### Values of an inert shape -/

/-- Whether an expression is a literal, perhaps in parentheses, with an expression in it that
    reads. -/
def Expr.isReadingLiteral (e : Expr) : Bool :=
  match e.unparenthesized with
  | .compound .string _ parts => Part.anyReads parts
  | .compound .literal _ parts => Part.anyReads parts
  | .compound .template _ parts => Part.anyReads parts
  | _ => false

/-- A value of an inert shape reads only if it is a literal with something in it. -/
theorem Expr.isReadingLiteral_iff (e : Expr) :
    e.isReadingLiteral = true ↔ e.shape.isInert = true ∧ e.reads = true := by
  -- parentheses count on neither side, so the induction is on how many there are
  induction e using Expr.unparenthesized.induct with
  | case1 span inner ih =>
    rw [Expr.isReadingLiteral, Expr.unparenthesized, Expr.shape, Expr.reads]
    exact ih
  | case2 e hparen =>
    cases e with
    | paren span inner => exact absurd rfl (hparen span inner)
    | name span text => simp [Expr.isReadingLiteral, Expr.unparenthesized, Expr.reads]
    | markup span node =>
      simp [Expr.isReadingLiteral, Expr.unparenthesized, Expr.shape, Shape.isInert]
    | compound form span parts =>
      unfold Expr.isReadingLiteral Expr.unparenthesized
      -- of the inert forms, functions are evaluated later, so only literals are left
      cases form <;> simp [Expr.shape, Form.shape, Shape.isInert, Expr.reads]

/-- Some of the parts read if one of them does. -/
theorem Part.anyReads_iff {parts : List Part} :
    Part.anyReads parts = true ↔ ∃ part ∈ parts, part.reads = true := by
  induction parts with
  | nil => simp [Part.anyReads]
  | cons part rest ih => simp [Part.anyReads, ih]

/-- Some of the markup reads if one piece does. -/
theorem Markup.anyReads_iff {nodes : List Markup} :
    Markup.anyReads nodes = true ↔ ∃ node ∈ nodes, node.reads = true := by
  induction nodes with
  | nil => simp [Markup.anyReads]
  | cons node rest ih => simp [Markup.anyReads, ih]

/-- An inert element reads only if it is a literal that reads. -/
theorem Part.isInert_and_reads_iff (part : Part) :
    part.isInert = true ∧ part.reads = true ↔
      ∃ value, part = .expr value ∧ value.isReadingLiteral = true := by
  cases part with
  | expr value => simp [Part.isInert, Part.reads, Expr.isReadingLiteral_iff]
  | name role text => simp [Part.isInert]
  | spread value => simp [Part.isInert]
  | function parts => simp [Part.isInert]

/-- An inert child reads only if it is a literal that reads. -/
theorem Markup.isInert_and_reads_iff (node : Markup) :
    node.isInert = true ∧ node.reads = true ↔
      ∃ spread value, node = .hole spread value ∧ value.isReadingLiteral = true := by
  cases node with
  | hole spread value =>
    rw [Markup.isInert, Markup.reads, ← Expr.isReadingLiteral_iff]
    constructor
    · intro h
      exact ⟨spread, value, rfl, h⟩
    · rintro ⟨_, _, hnode, h⟩
      cases hnode
      exact h
  | text raw => simp [Markup.reads]
  | element span tag types attributes children => simp [Markup.isInert]
  | component span tag types attributes children => simp [Markup.isInert]
  | fragment children => simp [Markup.isInert]

/-! ### Getters -/

/-- An array whose parts all do nothing, in parentheses or not. -/
theorem Expr.isInertArray_iff (e : Expr) :
    e.isInertArray = true ↔ ∃ span parts, e.unparenthesized = .compound .array span parts ∧
      ∀ part ∈ parts, part.isInert = true := by
  unfold Expr.isInertArray
  split
  next span parts h =>
    rw [h, List.all_eq_true]
    constructor
    · intro hinert
      exact ⟨span, parts, rfl, hinert⟩
    · rintro ⟨_, _, heq, hinert⟩
      cases heq
      exact hinert
  next hne =>
    refine ⟨nofun, ?_⟩
    rintro ⟨span, parts, h, -⟩
    exact absurd h (hne span parts)

/-- It has the shape of an array. -/
theorem Expr.shape_of_isInertArray {e : Expr} (h : e.isInertArray = true) : e.shape = .array := by
  obtain ⟨span, parts, harray, -⟩ := e.isInertArray_iff.1 h
  rw [← e.shape_unparenthesized, harray]
  rfl

/-- A value that is no function becomes a getter if it reads and is no inert array. -/
theorem Expr.needsGetter_eq {e : Expr} (h : e.shape ≠ .function) :
    e.needsGetter = (!e.isInertArray && e.reads) := by
  unfold Expr.needsGetter
  split
  next hfunction => exact absurd hfunction h
  next => rfl
  next harray =>
    -- an inert array is an array, and this is none
    have hinert : e.isInertArray = false :=
      Bool.eq_false_iff.2 fun h => harray (Expr.shape_of_isInertArray h)
    rw [hinert, Bool.not_false, Bool.true_and]

/-- A value that reads and is no function stays without a getter exactly if it is an inert array
    with a literal in it that reads. -/
theorem Expr.needsGetter_eq_false_iff {e : Expr} (h : e.shape ≠ .function)
    (hreads : e.reads = true) :
    e.needsGetter = false ↔ ∃ span parts, e.unparenthesized = .compound .array span parts ∧
      (∀ part ∈ parts, part.isInert = true) ∧
      ∃ value, .expr value ∈ parts ∧ value.isReadingLiteral = true := by
  rw [Expr.needsGetter_eq h, hreads, Bool.and_true, Bool.not_eq_false', Expr.isInertArray_iff]
  refine exists_congr fun span => exists_congr fun parts => and_congr_right fun harray => ?_
  rw [iff_self_and]
  intro hinert
  -- the array reads, so one of its elements does, and all of them are inert
  have hparts : Part.anyReads parts = true := by
    rw [← e.reads_unparenthesized, harray] at hreads
    exact hreads
  obtain ⟨part, hmem, hpart⟩ := Part.anyReads_iff.1 hparts
  obtain ⟨value, rfl, hvalue⟩ := part.isInert_and_reads_iff.1 ⟨hinert part hmem, hpart⟩
  exact ⟨value, hmem, hvalue⟩

/-- Several children of which one reads stay without a getter exactly if all are inert and one is a
    literal that reads. -/
theorem childrenNeedGetter_eq_false_iff {nodes : List Markup} (h : 2 ≤ nodes.length)
    (hreads : ∃ node ∈ nodes, node.reads = true) :
    childrenNeedGetter nodes = false ↔ (∀ node ∈ nodes, node.isInert = true) ∧
      ∃ spread value, .hole spread value ∈ nodes ∧ value.isReadingLiteral = true := by
  -- of several children all are asked, as the items of an array are
  have hmany : childrenNeedGetter nodes = (!nodes.all Markup.isInert && Markup.anyReads nodes) := by
    unfold childrenNeedGetter
    split
    · simp at h
    · rfl
  rw [hmany, Markup.anyReads_iff.2 hreads, Bool.and_true, Bool.not_eq_false', List.all_eq_true,
    iff_self_and]
  intro hinert
  obtain ⟨node, hmem, hnode⟩ := hreads
  obtain ⟨spread, value, rfl, hvalue⟩ := node.isInert_and_reads_iff.1 ⟨hinert node hmem, hnode⟩
  exact ⟨spread, value, hmem, hvalue⟩

/-- **Which values that read do not become getters.** Of the values that are no functions, only
    arrays of inert elements with a literal among them that reads; of lists of several children,
    only those of inert children with such a literal among them. All others become getters. -/
theorem needsGetter_eq_false_iff_of_reads (e : Expr) (nodes : List Markup) :
    (e.shape ≠ .function → e.reads = true →
      (e.needsGetter = false ↔ ∃ span parts, e.unparenthesized = .compound .array span parts ∧
        (∀ part ∈ parts, part.isInert = true) ∧
        ∃ value, .expr value ∈ parts ∧ value.isReadingLiteral = true)) ∧
    (2 ≤ nodes.length → (∃ node ∈ nodes, node.reads = true) →
      (childrenNeedGetter nodes = false ↔ (∀ node ∈ nodes, node.isInert = true) ∧
        ∃ spread value, .hole spread value ∈ nodes ∧ value.isReadingLiteral = true)) := by
  constructor
  · intro hfunction hreads
    exact Expr.needsGetter_eq_false_iff hfunction hreads
  · intro hmany hreads
    exact childrenNeedGetter_eq_false_iff hmany hreads

/-- Reading a property inside of a template literal does not make the array around it a getter. -/
theorem not_needsGetter_template_in_array :
    ∃ e, Expr.parse? (Grammar.Dialect.ofPath "a.tsx") ("[`$" ++ braced "a.b" ++
        "`]").toList = some e ∧
      e.shape ≠ .function ∧ e.reads = true ∧ e.needsGetter = false := by
  have hread : (Expr.parse? (Grammar.Dialect.ofPath "a.tsx") ("[`$" ++ braced "a.b" ++
      "`]").toList).any
      (fun e => e.shape != .function && e.reads && !e.needsGetter) = true := by
    decide +kernel
  obtain ⟨e, he, h⟩ := (Option.any_eq_true _ _).1 hread
  simp only [Bool.and_eq_true, bne_iff_ne, Bool.not_eq_true'] at h
  exact ⟨e, he, h.1.1, h.1.2, h.2⟩

/-- The array and the two children with such a literal, by the rule for them. -/
theorem needsGetter_eq_false_iff_of_reads_template :
    ∃ e, Expr.parse? (Grammar.Dialect.ofPath "a.tsx") ("`$" ++ braced "a.b" ++
        "`").toList = some e ∧
      e.isReadingLiteral = true ∧
      (Expr.compound .array ⟨0, 10⟩ [.expr e]).needsGetter = false ∧
      childrenNeedGetter [.text "n", .hole false e] = false := by
  have hread : (Expr.parse? (Grammar.Dialect.ofPath "a.tsx") ("`$" ++ braced "a.b" ++
      "`").toList).any
      Expr.isReadingLiteral = true := by
    decide +kernel
  obtain ⟨e, he, hliteral⟩ := (Option.any_eq_true _ _).1 hread
  obtain ⟨hinert, hreads⟩ := e.isReadingLiteral_iff.1 hliteral
  obtain ⟨harray, hchildren⟩ := needsGetter_eq_false_iff_of_reads
    (.compound .array ⟨0, 10⟩ [.expr e]) [.text "n", .hole false e]
  refine ⟨e, he, hliteral, ?_, ?_⟩
  · refine (harray (by simp [Expr.shape, Form.shape]) ?_).2 ?_
    · simpa [Expr.reads, Part.anyReads, Part.reads] using hreads
    · exact ⟨_, _, rfl, by simpa [Part.isInert] using hinert, e, by simp, hliteral⟩
  · refine (hchildren (by simp) ⟨.hole false e, by simp, hreads⟩).2 ?_
    exact ⟨by simpa [Markup.isInert] using hinert, false, e, by simp, hliteral⟩

end JsxTemplate
