import JsxTemplate.Grammar.Module
import JsxTemplate.Proofs.Components
import JsxTemplate.Proofs.Placed

namespace JsxTemplate

/-!
# The expressions that a value holds

What a reader gives is an expression, or holds some of them: a list of parts, an element of a
literal, a statement, nothing. What is shown of a reader is shown of these expressions, in the order
of the text.

* `HasExprs`, `exprs` — the outermost expressions that a value holds.
* `Part.IsView` — what is said of parts is said of the expressions in them: their spans, their
  components and their outermost markup.
-/

/-! ### Expressions in parts -/

mutual

/-- The outermost expressions of a part. -/
def Part.exprs : Part → List Expr
  | .name _ _ => []
  | .expr value => [value]
  | .spread value => [value]
  | .function parts => Part.exprsOf parts

/-- The outermost expressions of several parts. -/
def Part.exprsOf : List Part → List Expr
  | [] => []
  | part :: rest => part.exprs ++ Part.exprsOf rest

end

/-- A function of parts that only looks at the expressions in them, and `f` at each of these. -/
structure Part.IsView {β : Type} (f : Expr → List β) (g : Part → List β)
    (gs : List Part → List β) : Prop where
  name : ∀ role text, g (.name role text) = []
  expr : ∀ e, g (.expr e) = f e
  spread : ∀ e, g (.spread e) = f e
  function : ∀ parts, g (.function parts) = gs parts
  nil : gs [] = []
  cons : ∀ part rest, gs (part :: rest) = g part ++ gs rest

namespace Part.IsView

variable {β : Type} {f : Expr → List β} {g : Part → List β} {gs : List Part → List β}

mutual

/-- What is said of a part is said of the expressions in it. -/
theorem eq_flatMap_exprs (h : IsView f g gs) : (part : Part) → g part = part.exprs.flatMap f
  | .name role text => h.name role text
  | .expr e => by rw [h.expr, Part.exprs, List.flatMap_singleton]
  | .spread e => by rw [h.spread, Part.exprs, List.flatMap_singleton]
  | .function parts => (h.function parts).trans (h.eq_flatMap_exprsOf parts)

/-- What is said of parts is said of the expressions in them. -/
theorem eq_flatMap_exprsOf (h : IsView f g gs) : (parts : List Part) →
    gs parts = (Part.exprsOf parts).flatMap f
  | [] => h.nil
  | part :: rest => by
    rw [h.cons, Part.exprsOf, List.flatMap_append, h.eq_flatMap_exprs part,
      h.eq_flatMap_exprsOf rest]

end

end Part.IsView

/-- The spans of parts are those of the expressions in them. -/
theorem Part.spansOf_eq (parts : List Part) :
    Part.spansOf parts = (Part.exprsOf parts).map Expr.span := by
  have hview : Part.IsView (fun e => [e.span]) Part.spans Part.spansOf :=
    ⟨fun _ _ => rfl, fun _ => rfl, fun _ => rfl, fun _ => rfl, rfl, fun _ _ => rfl⟩
  rw [hview.eq_flatMap_exprsOf, List.map_eq_flatMap]

/-- The components in parts are those of the expressions in them. -/
theorem Part.componentsOf_eq (parts : List Part) :
    Part.componentsOf parts = (Part.exprsOf parts).flatMap Expr.components := by
  have hview : Part.IsView Expr.components Part.components Part.componentsOf :=
    ⟨fun _ _ => rfl, fun _ => rfl, fun _ => rfl, fun _ => rfl, rfl, fun _ _ => rfl⟩
  exact hview.eq_flatMap_exprsOf parts

/-- The outermost markup of parts is that of the expressions in them. -/
theorem Part.outermostOf_eq (parts : List Part) :
    Part.outermostOf parts = (Part.exprsOf parts).flatMap Expr.outermost := by
  have hview : Part.IsView Expr.outermost Part.outermost Part.outermostOf :=
    ⟨fun _ _ => rfl, fun _ => rfl, fun _ => rfl, fun _ => rfl, rfl, fun _ _ => rfl⟩
  exact hview.eq_flatMap_exprsOf parts

mutual

/-- A part is placed if the expressions in it are. -/
theorem Part.isPlaced_of_exprs {source : List Char} : (part : Part) →
    (∀ e ∈ part.exprs, e.isPlaced source = true) → part.isPlaced source = true
  | .name _ _, _ => rfl
  | .expr value, h => h value (List.mem_singleton_self value)
  | .spread value, h => h value (List.mem_singleton_self value)
  | .function parts, h => Part.allPlaced_of_exprsOf parts h

/-- Parts are placed if the expressions in them are. -/
theorem Part.allPlaced_of_exprsOf {source : List Char} : (parts : List Part) →
    (∀ e ∈ Part.exprsOf parts, e.isPlaced source = true) → Part.allPlaced source parts = true
  | [], _ => rfl
  | part :: rest, h => by
    rw [Part.exprsOf, List.forall_mem_append] at h
    rw [Part.allPlaced, part.isPlaced_of_exprs h.1, Part.allPlaced_of_exprsOf rest h.2,
      Bool.and_self]

end

/-- The outermost expressions of a statement of a module. -/
def Item.exprs : Item → List Expr
  | .imports _ => []
  | .code parts => Part.exprsOf parts

/-- The spans of a statement are those of the expressions in it. -/
theorem Item.spans_eq (item : Item) : item.spans = item.exprs.map Expr.span := by
  cases item with
  | imports declaration => rfl
  | code parts => exact Part.spansOf_eq parts

/-- The components in a statement are those of the expressions in it. -/
theorem Item.components_eq (item : Item) :
    item.components = item.exprs.flatMap Expr.components := by
  cases item with
  | imports declaration => rfl
  | code parts => exact Part.componentsOf_eq parts

/-- The outermost markup of a statement is that of the expressions in it. -/
theorem Item.outermost_eq (item : Item) : item.outermost = item.exprs.flatMap Expr.outermost := by
  cases item with
  | imports declaration => rfl
  | code parts => exact Part.outermostOf_eq parts

/-- A statement is placed if the expressions in it are. -/
theorem Item.isPlaced_of_exprs {source : List Char} {item : Item}
    (h : ∀ e ∈ item.exprs, e.isPlaced source = true) : item.isPlaced source = true := by
  cases item with
  | imports declaration => rfl
  | code parts => exact Part.allPlaced_of_exprsOf parts h

/-! ### Expressions in what readers give -/

/-- Values that hold expressions. -/
class HasExprs (α : Type) where
  /-- The outermost expressions that the value holds, in the order of the text. -/
  exprs : α → List Expr

export HasExprs (exprs)

section Instances

open Grammar

variable {α β : Type}

/-- An expression holds itself. -/
instance : HasExprs Expr := ⟨fun e => [e]⟩

/-- A part holds the expressions that stand in it. -/
instance : HasExprs Part := ⟨Part.exprs⟩

/-- A statement holds the expressions that stand in it. -/
instance : HasExprs Item := ⟨Item.exprs⟩

/-- An operand holds its expression. -/
instance : HasExprs Operand := ⟨fun o => [o.expr]⟩

/-- A list holds what its elements hold. -/
instance [HasExprs α] : HasExprs (List α) := ⟨List.flatMap exprs⟩

/-- Something that may be missing. -/
instance [HasExprs α] : HasExprs (Option α) := ⟨fun a? => a?.elim [] exprs⟩

/-- Of a pair, only the first component holds something. -/
instance [HasExprs α] : HasExprs (α × β) := ⟨fun pair => exprs pair.1⟩

/-- An element of a literal holds what its parts hold. -/
instance : HasExprs Slot := ⟨fun slot => exprs slot.parts⟩

variable [HasExprs α]

@[simp] theorem exprs_expr (e : Expr) : exprs e = [e] := rfl

@[simp] theorem exprs_operand (o : Operand) : exprs o = [o.expr] := rfl

@[simp] theorem exprs_nil : exprs ([] : List α) = [] := rfl

@[simp] theorem exprs_cons (a : α) (as : List α) : exprs (a :: as) = exprs a ++ exprs as := rfl

@[simp] theorem exprs_append (as bs : List α) : exprs (as ++ bs) = exprs as ++ exprs bs :=
  List.flatMap_append

@[simp] theorem exprs_none : exprs (none : Option α) = [] := rfl

@[simp] theorem exprs_some (a : α) : exprs (some a) = exprs a := rfl

@[simp] theorem exprs_pair (a : α) (b : β) : exprs (a, b) = exprs a := rfl

@[simp] theorem exprs_slot (parts : List Part) (isTarget needsPattern : Bool) :
    exprs (Slot.mk parts isTarget needsPattern) = exprs parts := rfl

@[simp] theorem exprs_part_name (role : Role) (text : String) : exprs (Part.name role text) = [] :=
  rfl

@[simp] theorem exprs_part_expr (e : Expr) : exprs (Part.expr e) = [e] := rfl

@[simp] theorem exprs_part_spread (e : Expr) : exprs (Part.spread e) = [e] := rfl

/-- Looking at parts one by one. -/
theorem exprs_eq_exprsOf (parts : List Part) : exprs parts = Part.exprsOf parts := by
  induction parts with
  | nil => rfl
  | cons part rest ih =>
    rw [exprs_cons, ih]
    rfl

/-- A function holds those of its parts. -/
@[simp] theorem exprs_part_function (parts : List Part) :
    exprs (Part.function parts) = exprs parts :=
  (exprs_eq_exprsOf parts).symm

@[simp] theorem exprs_item_imports (declaration : Import) :
    exprs (Item.imports declaration) = [] := rfl

/-- A statement holds those of its parts. -/
@[simp] theorem exprs_item_code (parts : List Part) : exprs (Item.code parts) = exprs parts :=
  (exprs_eq_exprsOf parts).symm

/-- Lists in a row hold what each of them holds. -/
@[simp] theorem exprs_flatten (lists : List (List α)) : exprs lists.flatten = exprs lists := by
  induction lists with
  | nil => rfl
  | cons as rest ih => rw [List.flatten_cons, exprs_append, ih, exprs_cons]

/-- A list made of what stands in another one. -/
theorem exprs_flatMap (bs : List β) (f : β → List α) :
    exprs (bs.flatMap f) = bs.flatMap fun b => exprs (f b) := by
  induction bs with
  | nil => rfl
  | cons b rest ih => rw [List.flatMap_cons, exprs_append, ih, List.flatMap_cons]

/-- Slots hold what their parts hold. -/
@[simp] theorem exprs_flatMap_parts (slots : List Slot) :
    exprs (slots.flatMap Slot.parts) = exprs slots :=
  exprs_flatMap slots Slot.parts

/-- A list made of the first components of pairs. -/
theorem exprs_flatMap_fst (pairs : List (List α × β)) :
    exprs (pairs.flatMap Prod.fst) = exprs pairs :=
  exprs_flatMap pairs Prod.fst

/-- A list of the first components of pairs. -/
theorem exprs_map_fst (pairs : List (α × β)) : exprs (pairs.map Prod.fst) = exprs pairs := by
  induction pairs with
  | nil => rfl
  | cons pair rest ih => rw [List.map_cons, exprs_cons, ih]; rfl

/-- Expressions hold themselves. -/
@[simp] theorem exprs_exprs (es : List Expr) : exprs es = es := by
  induction es with
  | nil => rfl
  | cons e rest ih => rw [exprs_cons, ih, exprs_expr, List.singleton_append]

@[simp] theorem exprs_map_expr (es : List Expr) : exprs (es.map Part.expr) = es := by
  induction es with
  | nil => rfl
  | cons e rest ih => rw [List.map_cons, exprs_cons, ih, exprs_part_expr, List.singleton_append]

/-- Names hold no expressions. -/
@[simp] theorem exprs_map_name (role : Role) (texts : List String) :
    exprs (texts.map (Part.name role)) = [] := by
  induction texts with
  | nil => rfl
  | cons text rest ih => rw [List.map_cons, exprs_cons, ih, exprs_part_name, List.nil_append]

end Instances

/-! ### Modules -/

namespace Program

/-- The outermost spans of a module are those of the expressions in it. -/
theorem spans_eq (program : Program) :
    program.items.flatMap Item.spans = (exprs program.items).map Expr.span := by
  rw [funext Item.spans_eq]
  exact List.map_flatMap.symm

/-- The components in a module are those of the expressions in it. -/
theorem components_eq (program : Program) :
    program.components = (exprs program.items).flatMap Expr.components := by
  rw [Program.components, funext Item.components_eq]
  exact List.flatMap_assoc.symm

/-- The outermost markup of a module is that of the expressions in it. -/
theorem outermost_eq (program : Program) :
    program.outermost = (exprs program.items).flatMap Expr.outermost := by
  rw [Program.outermost, funext Item.outermost_eq]
  exact List.flatMap_assoc.symm

end Program

end JsxTemplate
