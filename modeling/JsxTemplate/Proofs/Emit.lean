import JsxTemplate.Compile.Markup
import JsxTemplate.Syntax.Outermost

namespace JsxTemplate

/-!
# Laws of compiling with a log

* `LawfulMonad Emit` — the log obeys the monad laws, so loops may be cut and joined.
* `Emit.map`, `Emit.both` — values put together, with the log kept.
* `Emit.Ensures N P x` — the value of `x` satisfies `P` and each of its notices satisfies `N`.
  There is one rule for each operation, and `Ensures.bind` puts two steps together.
* `Expr.patches_eq`, `Program.patches_eq` — compiling the markup of an expression or a module is
  compiling its outermost markup, one piece after the other.
-/

namespace Emit

variable {α β γ : Type}

@[simp] theorem value_pure (a : α) : (pure a : Emit α).value = a := rfl
@[simp] theorem notices_pure (a : α) : (pure a : Emit α).notices = [] := rfl
@[simp] theorem needs_pure (a : α) : (pure a : Emit α).needs = [] := rfl

@[simp] theorem value_bind (x : Emit α) (f : α → Emit β) :
    (x >>= f).value = (f x.value).value := rfl
@[simp] theorem notices_bind (x : Emit α) (f : α → Emit β) :
    (x >>= f).notices = x.notices ++ (f x.value).notices := rfl
@[simp] theorem needs_bind (x : Emit α) (f : α → Emit β) :
    (x >>= f).needs = x.needs ++ (f x.value).needs := rfl

@[simp] theorem value_map (f : α → β) (x : Emit α) : (f <$> x).value = f x.value := rfl

instance : LawfulMonad Emit := LawfulMonad.mk' Emit
  (by
    intro α x
    show (⟨x.value, x.notices ++ [], x.needs ++ []⟩ : Emit α) = x
    rw [List.append_nil, List.append_nil])
  (by intro α β a f; rfl)
  (by
    intro α β γ x f g
    show (⟨_, (x.notices ++ (f x.value).notices) ++ (g (f x.value).value).notices,
        (x.needs ++ (f x.value).needs) ++ (g (f x.value).value).needs⟩ : Emit γ) = _
    rw [List.append_assoc, List.append_assoc]
    rfl)

/-! ### Values put together -/

/-- The value changed and the log kept. -/
def map (f : α → β) (x : Emit α) : Emit β := ⟨f x.value, x.notices, x.needs⟩

/-- Two values as one, and their logs one after the other. -/
def both (f : α → β → γ) (x : Emit α) (y : Emit β) : Emit γ :=
  ⟨f x.value y.value, x.notices ++ y.notices, x.needs ++ y.needs⟩

/-- A step whose value is put into something. -/
theorem bind_pure_eq_map (f : α → β) (x : Emit α) : (x >>= fun a => pure (f a)) = x.map f := by
  show (⟨f x.value, x.notices ++ [], x.needs ++ []⟩ : Emit β) = _
  rw [List.append_nil, List.append_nil, map]

/-- Two steps whose values are put together. -/
theorem bind_bind_pure_eq_both (f : α → β → γ) (x : Emit α) (y : Emit β) :
    (x >>= fun a => y >>= fun b => pure (f a b)) = both f x y := by
  show (⟨f x.value y.value, x.notices ++ (y.notices ++ []), x.needs ++ (y.needs ++ [])⟩ :
    Emit γ) = _
  rw [List.append_nil, List.append_nil, both]

@[simp] theorem value_map_apply (f : α → β) (x : Emit α) : (x.map f).value = f x.value := rfl
@[simp] theorem notices_map (f : α → β) (x : Emit α) : (x.map f).notices = x.notices := rfl
@[simp] theorem needs_map (f : α → β) (x : Emit α) : (x.map f).needs = x.needs := rfl

@[simp] theorem value_both (f : α → β → γ) (x : Emit α) (y : Emit β) :
    (both f x y).value = f x.value y.value := rfl
@[simp] theorem notices_both (f : α → β → γ) (x : Emit α) (y : Emit β) :
    (both f x y).notices = x.notices ++ y.notices := rfl
@[simp] theorem needs_both (f : α → β → γ) (x : Emit α) (y : Emit β) :
    (both f x y).needs = x.needs ++ y.needs := rfl

/-! ### Loops -/

/-- The values of a loop are the values of its steps. -/
@[simp] theorem value_mapM (f : α → Emit β) (as : List α) :
    (as.mapM f).value = as.map fun a => (f a).value := by
  induction as with
  | nil => rw [List.mapM_nil, value_pure, List.map_nil]
  | cons a as ih =>
    rw [List.mapM_cons, List.map_cons, ← ih]
    rfl

/-- The notices of a loop are those of its steps, in their order. -/
theorem notices_mapM (f : α → Emit β) (as : List α) :
    (as.mapM f).notices = as.flatMap fun a => (f a).notices := by
  induction as with
  | nil => rw [List.mapM_nil, notices_pure, List.flatMap_nil]
  | cons a as ih =>
    rw [List.mapM_cons, List.flatMap_cons, ← ih]
    simp only [notices_bind, notices_pure, List.append_nil]

/-- The helpers of a loop are those of its steps, in their order. -/
theorem needs_mapM (f : α → Emit β) (as : List α) :
    (as.mapM f).needs = as.flatMap fun a => (f a).needs := by
  induction as with
  | nil => rw [List.mapM_nil, needs_pure, List.flatMap_nil]
  | cons a as ih =>
    rw [List.mapM_cons, List.flatMap_cons, ← ih]
    simp only [needs_bind, needs_pure, List.append_nil]

/-! ### What a computation ensures -/

/-- The value satisfies `P` and each notice satisfies `N`. -/
def Ensures (N : Notice → Prop) (P : α → Prop) (x : Emit α) : Prop :=
  P x.value ∧ ∀ n ∈ x.notices, N n

namespace Ensures

variable {N : Notice → Prop} {P : α → Prop} {Q : β → Prop}

/-- A value alone ensures what is true of it. -/
theorem pure {a : α} (h : P a) : Ensures N P (Pure.pure a : Emit α) :=
  ⟨h, by simp⟩

/-- What the first step ensures is what the second may rely on. -/
theorem bind {x : Emit α} {f : α → Emit β} (hx : Ensures N P x)
    (hf : ∀ a, P a → Ensures N Q (f a)) : Ensures N Q (x >>= f) := by
  obtain ⟨hv, hn⟩ := hx
  obtain ⟨hv', hn'⟩ := hf x.value hv
  refine ⟨hv', fun n h => ?_⟩
  rw [notices_bind, List.mem_append] at h
  exact h.elim (hn n) (hn' n)

/-- What is ensured of a value is true of what it is put into. -/
theorem map {x : Emit α} {f : α → β} (hx : Ensures N P x) (hf : ∀ a, P a → Q (f a)) :
    Ensures N Q (x.map f) :=
  ⟨hf x.value hx.1, hx.2⟩

/-- What is ensured of two values is true of what they are put into together. -/
theorem both {x : Emit α} {y : Emit β} {f : α → β → γ} {R : γ → Prop} (hx : Ensures N P x)
    (hy : Ensures N Q y) (hf : ∀ a b, P a → Q b → R (f a b)) : Ensures N R (Emit.both f x y) :=
  ⟨hf _ _ hx.1 hy.1, List.forall_mem_append.2 ⟨hx.2, hy.2⟩⟩

/-- Noting a helper reports nothing. -/
theorem need (helper : Helper) : Ensures N (fun _ => True) (Emit.need helper) :=
  ⟨trivial, by simp [Emit.need]⟩

/-- A report ensures what is true of it. -/
theorem report {notice : Notice} (h : N notice) :
    Ensures N (fun _ => True) (Emit.report notice) :=
  ⟨trivial, by simpa [Emit.report] using h⟩

end Ensures

end Emit

/-! ### Patches are the outermost markup, compiled -/

/-- Compiles a piece of outermost markup and keeps its span. -/
def Markup.patch (options : Options) (piece : Span × Markup) : Emit (Span × Code) := do
  return (piece.1, ← piece.2.value options)

variable (options : Options)

mutual

/-- Compiling the markup of an expression is compiling its outermost markup. -/
theorem Expr.patches_eq : (e : Expr) →
    e.patches options = e.outermost.mapM (Markup.patch options)
  | .name _ _ => by rw [Expr.patches, Expr.outermost, List.mapM_nil]
  | .paren _ inner => by rw [Expr.patches, Expr.outermost, Expr.patches_eq inner]
  | .markup span node => by
    rw [Expr.patches, Expr.outermost, List.mapM_cons, List.mapM_nil]
    simp only [Markup.patch, bind_assoc, pure_bind]
  | .compound _ _ parts => by rw [Expr.patches, Expr.outermost, Part.patchesOf_eq parts]

theorem Part.patches_eq : (part : Part) →
    part.patches options = part.outermost.mapM (Markup.patch options)
  | .name _ _ => by rw [Part.patches, Part.outermost, List.mapM_nil]
  | .expr value => by rw [Part.patches, Part.outermost, Expr.patches_eq value]
  | .spread value => by rw [Part.patches, Part.outermost, Expr.patches_eq value]
  | .function parts => by rw [Part.patches, Part.outermost, Part.patchesOf_eq parts]

theorem Part.patchesOf_eq : (parts : List Part) →
    Part.patchesOf options parts = (Part.outermostOf parts).mapM (Markup.patch options)
  | [] => by rw [Part.patchesOf, Part.outermostOf, List.mapM_nil]
  | part :: rest => by
    rw [Part.patchesOf, Part.outermostOf, List.mapM_append, Part.patches_eq part,
      Part.patchesOf_eq rest]

end

/-- The patches of a statement are made as those of its parts. -/
theorem Item.patches_eq (item : Item) :
    item.patches options = item.outermost.mapM (Markup.patch options) := by
  cases item with
  | imports declaration => rw [Item.patches, Item.outermost, List.mapM_nil]
  | code parts => rw [Item.patches, Item.outermost, Part.patchesOf_eq options parts]

/-- Compiling the markup of a module is compiling its outermost markup. -/
theorem Program.patches_eq (program : Program) :
    program.patches options = program.outermost.mapM (Markup.patch options) := by
  unfold Program.patches Program.outermost
  induction program.items with
  | nil => rfl
  | cons item rest ih =>
    rw [List.flatMap_cons, List.mapM_append, ← ih, ← Item.patches_eq, List.mapM_cons]
    simp only [bind_assoc, pure_bind, List.flatten_cons]

end JsxTemplate
