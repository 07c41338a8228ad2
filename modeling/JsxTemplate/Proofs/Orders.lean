import JsxTemplate.Proofs.CodeSigns
import JsxTemplate.Proofs.Parsed
import Mathlib.Data.List.Perm.Basic

namespace JsxTemplate

/-!
# The order of compiling does not matter

Compiling can be run in a context that it changes: one with the names of the helpers, marks for
those that are needed, and all that was reported so far. Nothing is ever read from the marks and
from the reports, and only the names of the helpers that it marks are read, so what was compiled
before leaves no trace in the code.

* `Emit.run` — runs a computation in a context; `Emit.run_bind` says that each step finds the
  context as the one before has left it.
* `Markup.textIn` — the text of compiled markup in a context.
* `Markup.compileAll` — compiles pieces of markup one after the other.
* `Program.compileIn` — compiles a module with its outermost markup in some order.
* `Program.assemble_rel` — the output for pieces in another order is the same, up to the order of
  the warnings.
* `Program.compile_in_any_order` — both together.
-/

open Text

/-! ### Contexts -/

/-- What is carried along while a module is compiled. -/
structure Context where
  bindings : Bindings
  /-- What was reported so far. -/
  notices : List Notice
  /-- The helpers that are needed so far. -/
  isNeeded : Helper → Bool

namespace Context

/-- The context before anything is compiled. -/
def start (bindings : Bindings) : Context := ⟨bindings, [], fun _ => false⟩

/-- Marks a helper. -/
def need (c : Context) (h : Helper) : Context :=
  { c with isNeeded := fun k => c.isNeeded k || k == h }

/-- Adds a notice. -/
def report (c : Context) (notice : Notice) : Context :=
  { c with notices := c.notices ++ [notice] }

/-- The context with more notices and marks. -/
def extend (c : Context) (notices : List Notice) (needs : List Helper) : Context :=
  ⟨c.bindings, c.notices ++ notices, fun h => c.isNeeded h || needs.contains h⟩

/-- The helpers that are marked, in the order of an import. -/
def needs (c : Context) : List Helper := Helper.all.filter c.isNeeded

/-- What is reported is added at the end. -/
theorem foldl_report (c : Context) (notices : List Notice) :
    notices.foldl report c = { c with notices := c.notices ++ notices } := by
  induction notices generalizing c with
  | nil => rw [List.foldl_nil, List.append_nil]
  | cons notice rest ih =>
    rw [List.foldl_cons, ih, report, List.append_assoc]
    rfl

/-- Helpers that are noted are marked, and stay marked. -/
theorem foldl_need (c : Context) (needs : List Helper) :
    needs.foldl need c = { c with isNeeded := fun h => c.isNeeded h || needs.contains h } := by
  induction needs generalizing c with
  | nil => simp
  | cons h rest ih =>
    rw [List.foldl_cons, ih, need]
    simp only [List.contains_cons, Bool.or_assoc]

/-- A context is not changed by an empty log. -/
theorem extend_nil (c : Context) : c.extend [] [] = c := by
  simp [extend]

/-- Two logs after another are one log. -/
theorem extend_extend (c : Context) (notices notices' : List Notice) (needs needs' : List Helper) :
    (c.extend notices needs).extend notices' needs' =
      c.extend (notices ++ notices') (needs ++ needs') := by
  simp only [extend, List.append_assoc, List.contains_append, Bool.or_assoc]

end Context

namespace Emit

variable {α β : Type}

/-- Runs a computation in a context. -/
def run (x : Emit α) (c : Context) : α × Context :=
  (x.value, x.needs.foldl Context.need (x.notices.foldl Context.report c))

/-- **A computation in a context** gives its value and adds its log, whatever the context is. A
    value never looks at the log. -/
theorem run_eq (x : Emit α) (c : Context) : x.run c = (x.value, c.extend x.notices x.needs) := by
  rw [run, Context.foldl_report, Context.foldl_need]
  rfl

/-- A value alone leaves the context as it is. -/
theorem run_pure (a : α) (c : Context) : (pure a : Emit α).run c = (a, c) := by
  rw [run_eq, notices_pure, needs_pure, Context.extend_nil, value_pure]

/-- The second step runs in the context that the first one has left. -/
theorem run_bind (x : Emit α) (f : α → Emit β) (c : Context) :
    (x >>= f).run c = (f (x.run c).1).run (x.run c).2 := by
  rw [run_eq, run_eq x, run_eq, Context.extend_extend]
  rfl

end Emit

/-- The text of compiled markup in a context, and the context after it. -/
def Markup.textIn (options : Options) (source : List Char) (node : Markup) (c : Context) :
    Option (List Char) × Context :=
  let (code, after) := (node.value options).run c
  (code.render after.bindings source, after)

/-- **Markup has the same text in two contexts** that agree on the names of the helpers that it
    marks. -/
theorem Markup.textIn_congr {options : Options} {node : Markup} {c c' : Context}
    (source : List Char)
    (h : ∀ k ∈ (node.value options).needs, c.bindings.nameOf k = c'.bindings.nameOf k) :
    (node.textIn options source c).1 = (node.textIn options source c').1 := by
  rw [Markup.textIn, Markup.textIn, Emit.run_eq, Emit.run_eq]
  -- all names that stand in the text are names of helpers that are marked
  refine Code.render_congr source _ fun k hk => h k ?_
  exact (node.uses_value options).mem_iff.2 hk

/-! ### Pieces one after the other -/

/-- Compiles pieces of markup, each in the context that the ones before it have left. -/
def Markup.compileAll (options : Options) :
    List (Span × Markup) → Context → List (Span × Code) × Context
  | [], c => ([], c)
  | piece :: rest, c =>
    let (code, after) := (piece.2.value options).run c
    let (patches, last) := Markup.compileAll options rest after
    ((piece.1, code) :: patches, last)

/-- Compiling pieces one after the other runs them in one context. -/
theorem Markup.compileAll_eq_run (options : Options) (pieces : List (Span × Markup))
    (c : Context) :
    Markup.compileAll options pieces c = (pieces.mapM (Markup.patch options)).run c := by
  induction pieces generalizing c with
  | nil =>
    rw [List.mapM_nil, Emit.run_pure]
    rfl
  | cons piece rest ih =>
    rw [List.mapM_cons, Markup.patch, bind_assoc, Emit.run_bind, pure_bind, Emit.run_bind,
      Emit.run_pure, ← ih]
    rfl

/-- Each piece adds its own to the code and to the log. -/
theorem Markup.mapM_patch_eq (options : Options) (pieces : List (Span × Markup)) :
    pieces.mapM (Markup.patch options) =
      ⟨pieces.map fun p => (p.1, (p.2.value options).value),
        pieces.flatMap fun p => (p.2.value options).notices,
        pieces.flatMap fun p => (p.2.value options).needs⟩ := by
  induction pieces with
  | nil => rfl
  | cons piece rest ih =>
    rw [List.mapM_cons, ih, Markup.patch]
    simp only [bind_assoc, pure_bind]
    -- the log of the last step is empty
    show (⟨_, _ ++ (_ ++ []), _ ++ (_ ++ [])⟩ : Emit _) = _
    rw [List.append_nil, List.append_nil]
    rfl

/-- The context after a module is compiled has the marks of all its helpers. -/
theorem Context.mem_needs_extend (bindings : Bindings) (notices : List Notice)
    (needs : List Helper) (h : Helper) :
    h ∈ ((Context.start bindings).extend notices needs).needs ↔ h ∈ needs := by
  rw [Context.needs, List.mem_filter, and_iff_right h.mem_all]
  simp [Context.extend, Context.start]

/-! ### Modules -/

/-- The output for a module, from the code for its outermost markup, what was reported and the
    helpers that are needed. -/
def Program.assemble (program : Program) (source : List Char) (file : String) (options : Options)
    (patches : List (Span × Code)) (notices : List Notice) (needs : List Helper) :
    Option Compiled := do
  let bindings := Bindings.of program options
  let replacements ← Code.renderPatches bindings source patches
  let warnings ← notices.mapM (Notice.warning? file (Lines.of source) source)
  let header ← match bindings.statement? options.packageName needs with
    | none => pure none
    | some statement => do
      let offset ← program.importOffset source
      pure (some ⟨offset, statement.toList⟩)
  let draft ← generate source header replacements
  return {
    code := String.ofList draft.code
    map := if options.sourceMap then some (sourceMap file source draft.marks) else none
    warnings := warnings
    imports := bindings.pending needs }

/-- Compiling a module is putting the output together from its code, its notices and its helpers. -/
theorem Program.compile_eq_assemble (program : Program) (source : List Char) (file : String)
    (options : Options) :
    program.compile source file options =
      program.assemble source file options (program.patches options).value
        (program.patches options).notices (program.patches options).needs := rfl

/-- The output for a module whose outermost markup is compiled in some order. -/
def Program.compileIn (program : Program) (source : List Char) (file : String) (options : Options)
    (order : List (Span × Markup)) : Option Compiled :=
  let (patches, last) := Markup.compileAll options order (.start (Bindings.of program options))
  program.assemble source file options patches last.notices last.needs

/-- Two outputs that differ in the order of their warnings at most. -/
structure Compiled.SameUpToOrder (out out' : Compiled) : Prop where
  code_eq : out.code = out'.code
  map_eq : out.map = out'.map
  imports_eq : out.imports = out'.imports
  warnings_perm : out.warnings.Perm out'.warnings

/-! ### Loops in another order -/

section

variable {α β γ δ : Type} {R R' : α → β → Prop} {S : γ → δ → Prop}

/-- Two steps that may fail agree if their first parts do and the rest agrees on what these give. -/
theorem rel_bind {x : Option α} {y : Option β} {f : α → Option γ} {g : β → Option δ}
    (h : Option.Rel R x y) (hfg : ∀ a b, R a b → Option.Rel S (f a) (g b)) :
    Option.Rel S (x >>= f) (y >>= g) := by
  cases h with
  | none => exact .none
  | some h => exact hfg _ _ h

/-- Results that are related are so by a weaker relation. -/
theorem rel_imp {x : Option α} {y : Option β} (h : Option.Rel R x y)
    (himp : ∀ a b, R a b → R' a b) : Option.Rel R' x y := by
  cases h with
  | none => exact .none
  | some h => exact .some (himp _ _ h)

/-- A result is related to itself if each value is. -/
theorem rel_refl {R : α → α → Prop} (hrefl : ∀ a, R a a) (x : Option α) : Option.Rel R x x := by
  cases x with
  | none => exact .none
  | some a => exact .some (hrefl a)

/-- A loop over the same values in another order finds the same, in another order. -/
theorem rel_mapM_of_perm (f : α → Option β) {as bs : List α} (h : as.Perm bs) :
    Option.Rel (fun cs ds => cs.Perm ds ∧ List.Forall₂ (fun a c => f a = some c) as cs)
      (as.mapM f) (bs.mapM f) := by
  -- what one loop finds, the other finds too
  have hfound : ∀ {xs ys : List α} {cs : List β}, xs.Perm ys → xs.mapM f = some cs →
      ∃ ds, ys.mapM f = some ds ∧ cs.Perm ds := by
    intro xs ys cs hperm hcs
    obtain ⟨ds, hds, hcomp⟩ := List.perm_comp_forall₂ hperm.symm (mapM_eq_some_iff.1 hcs)
    exact ⟨ds, mapM_eq_some_iff.2 hds, hcomp.symm⟩
  cases hcs : as.mapM f with
  | some cs =>
    obtain ⟨ds, hds, hperm⟩ := hfound h hcs
    rw [hds]
    exact .some ⟨hperm, mapM_eq_some_iff.1 hcs⟩
  | none =>
    cases hds : bs.mapM f with
    | none => exact .none
    | some ds =>
      obtain ⟨cs, hcs', -⟩ := hfound h.symm hds
      rw [hcs] at hcs'
      cases hcs'

end

/-- Replacements that start at different offsets are sorted in one way. -/
theorem Replacement.ascending_eq_of_perm {rs rs' : List Replacement} (h : rs.Perm rs')
    (hstarts : (rs.map fun r => r.span.start).Nodup) : ascending rs = ascending rs' := by
  have hperm : (ascending rs).Perm (ascending rs') :=
    (ascending_perm rs).trans (h.trans (ascending_perm rs').symm)
  refine List.Perm.eq_of_pairwise ?_ (ascending_sorted rs) (ascending_sorted rs') hperm
  -- two replacements that may stand in either order start together, so they are one
  intro a b ha hb hab hba
  rw [(ascending_perm rs).mem_iff] at ha
  rw [(ascending_perm rs').mem_iff, ← h.mem_iff] at hb
  exact List.inj_on_of_nodup_map hstarts ha hb (Nat.le_antisymm hab hba)

/-- The replacements for patches in another order are the same, and sorted they are in one order. -/
theorem Code.rel_renderPatches_of_perm (bindings : Bindings) (source : List Char)
    {patches patches' : List (Span × Code)} (h : patches.Perm patches')
    (hstarts : (patches.map fun p => p.1.start).Nodup) :
    Option.Rel
      (fun rs rs' => rs.Perm rs' ∧ Replacement.ascending rs = Replacement.ascending rs')
      (Code.renderPatches bindings source patches)
      (Code.renderPatches bindings source patches') := by
  rw [Code.renderPatches_eq, Code.renderPatches_eq]
  refine rel_imp (rel_mapM_of_perm _ h) fun rs rs' hrs => ⟨hrs.1, ?_⟩
  -- the replacements have the spans of the patches, so their starts are different too
  have hspans : List.Forall₂ (fun (p : Span × Code) (r : Replacement) => p.1 = r.span ∧ True)
      patches rs := by
    refine hrs.2.imp fun p r hr => ?_
    obtain ⟨text, -, rfl⟩ := Option.map_eq_some_iff.1 hr
    exact ⟨rfl, trivial⟩
  have hmap : (rs.map fun r => r.span.start) = patches.map fun p => p.1.start := by
    have hmap := congrArg (List.map Span.start) (map_span_eq hspans)
    rwa [List.map_map, List.map_map] at hmap
  exact Replacement.ascending_eq_of_perm hrs.1 (hmap ▸ hstarts)

/-- The text of a module depends on its replacements only once they are sorted. -/
theorem generate_congr (source : List Char) (header : Option Header) {rs rs' : List Replacement}
    (h : Replacement.ascending rs = Replacement.ascending rs') :
    generate source header rs = generate source header rs' := by
  unfold generate layout
  rw [h]

namespace Bindings

variable {needs needs' : List Helper}

/-- The new import depends on which helpers are needed, not on when. -/
theorem pending_congr (bindings : Bindings) (h : ∀ k, k ∈ needs ↔ k ∈ needs') :
    bindings.pending needs = bindings.pending needs' := by
  unfold pending
  have hcontains : ∀ k, needs.contains k = needs'.contains k := by
    intro k
    rw [Bool.eq_iff_iff, List.contains_iff_mem, List.contains_iff_mem, h]
  simp only [hcontains]

/-- So does the statement that imports them. -/
theorem statement?_congr (bindings : Bindings) (package : String)
    (h : ∀ k, k ∈ needs ↔ k ∈ needs') :
    bindings.statement? package needs = bindings.statement? package needs' := by
  rw [statement?, pending_congr bindings h]
  rfl

end Bindings

/-- **The output does not depend on the order of the pieces**, if no two of them start at one
    offset, nor on how often a helper was marked. The order of the warnings is that of the
    notices. -/
theorem Program.assemble_rel (program : Program) (source : List Char) (file : String)
    (options : Options) {patches patches' : List (Span × Code)} {notices notices' : List Notice}
    {needs needs' : List Helper} (hpatches : patches.Perm patches')
    (hstarts : (patches.map fun p => p.1.start).Nodup) (hnotices : notices.Perm notices')
    (hneeds : ∀ h, h ∈ needs ↔ h ∈ needs') :
    Option.Rel Compiled.SameUpToOrder
      (program.assemble source file options patches notices needs)
      (program.assemble source file options patches' notices' needs') := by
  unfold Program.assemble
  dsimp only
  rw [Bindings.statement?_congr _ _ hneeds, Bindings.pending_congr _ hneeds]
  refine rel_bind (Code.rel_renderPatches_of_perm _ source hpatches hstarts) fun rs rs' hrs => ?_
  refine rel_bind (rel_mapM_of_perm _ hnotices) fun warnings warnings' hwarnings => ?_
  -- the text is the same after any header
  have hdraft : ∀ header, generate source header rs = generate source header rs' :=
    fun header => generate_congr source header hrs.2
  simp only [hdraft, pure_bind]
  cases (Bindings.of program options).statement? options.packageName needs' with
  | none =>
    refine rel_bind (rel_refl (fun _ => rfl) _) ?_
    rintro draft _ rfl
    exact .some ⟨rfl, rfl, rfl, hwarnings.1⟩
  | some statement =>
    refine rel_bind (rel_refl (fun _ => rfl) _) ?_
    rintro offset _ rfl
    refine rel_bind (rel_refl (fun _ => rfl) _) ?_
    rintro draft _ rfl
    exact .some ⟨rfl, rfl, rfl, hwarnings.1⟩

/-- The output depends on which helpers are needed, not on when. -/
theorem Program.assemble_congr (program : Program) (source : List Char) (file : String)
    (options : Options) (patches : List (Span × Code)) (notices : List Notice)
    {needs needs' : List Helper} (hneeds : ∀ h, h ∈ needs ↔ h ∈ needs') :
    program.assemble source file options patches notices needs =
      program.assemble source file options patches notices needs' := by
  unfold Program.assemble
  dsimp only
  rw [Bindings.statement?_congr _ _ hneeds, Bindings.pending_congr _ hneeds]

/-! ### Any order -/

/-- No two pieces of the outermost markup of a placed module start at one offset. -/
theorem Program.nodup_starts {program : Program} {source : List Char}
    (h : program.isPlaced source = true) : (program.outermost.map fun p => p.1.start).Nodup := by
  have hfit := Program.fitIn_outermost h fun p _ => Nat.zero_le p.1.start
  have hapart := List.pairwise_map.1 hfit.apart
  refine List.pairwise_map.2 (hapart.imp_of_mem ?_)
  intro p q hp hq hapart heq
  have hp := hfit.nonempty p.1 (List.mem_map_of_mem hp)
  have hq := hfit.nonempty q.1 (List.mem_map_of_mem hq)
  rcases hapart with h | h <;> omega

/-- Compiling the outermost markup of a module in some order gives the code, the notices and the
    helpers of the module, up to their order. -/
theorem Program.compileAll_perm {program : Program} (options : Options)
    {order : List (Span × Markup)} (h : order.Perm program.outermost) :
    let found := Markup.compileAll options order (.start (Bindings.of program options))
    found.1.Perm (program.patches options).value ∧
      found.2.notices.Perm (program.patches options).notices ∧
      ∀ k, k ∈ found.2.needs ↔ k ∈ (program.patches options).needs := by
  rw [Markup.compileAll_eq_run, Emit.run_eq, Markup.mapM_patch_eq, Program.patches_eq,
    Markup.mapM_patch_eq]
  refine ⟨h.map _, h.flatMap_right _, fun k => ?_⟩
  rw [Context.mem_needs_extend]
  exact (h.flatMap_right _).mem_iff

/-- Compiling a module compiles its outermost markup in the order of the text. -/
theorem Program.compileIn_outermost (program : Program) (source : List Char) (file : String)
    (options : Options) :
    program.compileIn source file options program.outermost =
      program.compile source file options := by
  have hneeds := (program.compileAll_perm options (.refl _)).2.2
  rw [Program.compileIn, Program.compile_eq_assemble]
  rw [Markup.compileAll_eq_run, ← Program.patches_eq, Emit.run_eq] at hneeds ⊢
  exact program.assemble_congr source file options _ _ hneeds

/-- There is an output for any order of the markup if there is one for the order of the text. -/
theorem Program.exists_compileIn {program : Program} {source : List Char} {file : String}
    {options : Options} {order : List (Span × Markup)} (hplaced : program.isPlaced source = true)
    (hsame : Option.Rel Compiled.SameUpToOrder (program.compileIn source file options order)
      (program.compile source file options)) :
    ∃ out, program.compileIn source file options order = some out := by
  obtain ⟨out, hcompile, -⟩ := Program.exists_compile hplaced file options
  rw [hcompile] at hsame
  cases hresult : program.compileIn source file options order with
  | some result => exact ⟨result, rfl⟩
  | none =>
    rw [hresult] at hsame
    cases hsame

/-- **Compiling is blind to what was compiled before it.** Markup adds the same notices and the same
    marks to every context. This rests on the type of what compiling gives, in which a value never
    looks at the log (`Emit.run_eq`), and would be true of any function of that type. The rest is
    about the functions at hand. Markup has the same text in any two contexts that agree on the
    names of the helpers that it marks, since its code calls these helpers and no others
    (`Markup.uses_value`). And the outermost markup of a module may be compiled in any order, if no
    two pieces of it start at one offset, since replacements, warnings and helpers are the same up
    to their order, and those of which the order would show are sorted (`Program.assemble_rel`): the
    replacements are the same once they are sorted, and so are the statement that imports the
    helpers and the output, up to the order of the warnings. There is an output if the module lies
    in the source. In a module that was read no two pieces start at one offset, and there is an
    output for each order. -/
theorem Program.compile_in_any_order (program : Program) (source : List Char) (file : String)
    (options : Options) :
    (∀ node : Markup, ∃ (notices : List Notice) (needs : List Helper),
      (∀ c, (node.textIn options source c).2 = c.extend notices needs) ∧
      ∀ c c', (∀ h ∈ needs, c.bindings.nameOf h = c'.bindings.nameOf h) →
        (node.textIn options source c).1 = (node.textIn options source c').1) ∧
    program.compileIn source file options program.outermost =
      program.compile source file options ∧
    (∀ order, order.Perm program.outermost →
      (program.outermost.map fun p => p.1.start).Nodup →
      let bindings := Bindings.of program options
      let found := Markup.compileAll options order (.start bindings)
      Option.Rel
        (fun rs rs' => rs.Perm rs' ∧ Replacement.ascending rs = Replacement.ascending rs')
        (Code.renderPatches bindings source found.1)
        (Code.renderPatches bindings source (program.patches options).value) ∧
      bindings.statement? options.packageName found.2.needs =
        bindings.statement? options.packageName (program.patches options).needs ∧
      Option.Rel Compiled.SameUpToOrder (program.compileIn source file options order)
        (program.compile source file options) ∧
      (program.isPlaced source = true →
        ∃ out, program.compileIn source file options order = some out)) ∧
    ∀ dialect, Program.parse? dialect source = some program →
      (program.outermost.map fun p => p.1.start).Nodup ∧
      ∀ order, order.Perm program.outermost →
        ∃ out, program.compileIn source file options order = some out := by
  have hsame : ∀ order, order.Perm program.outermost →
      (program.outermost.map fun p => p.1.start).Nodup →
      ((Markup.compileAll options order
        (.start (Bindings.of program options))).1.map fun p => p.1.start).Nodup ∧
      Option.Rel Compiled.SameUpToOrder (program.compileIn source file options order)
        (program.compile source file options) := by
    -- another order finds the same patches, notices and needs, in another order
    intro order horder hstarts
    obtain ⟨hpatches, hnotices, hneeds⟩ := program.compileAll_perm options horder
    have hfound : ((Markup.compileAll options order
        (.start (Bindings.of program options))).1.map fun p => p.1.start).Nodup := by
      rw [Markup.compileAll_eq_run, Emit.run_eq, Markup.mapM_patch_eq, List.map_map]
      exact (horder.map _).nodup_iff.2 hstarts
    exact ⟨hfound, program.assemble_rel source file options hpatches hfound hnotices hneeds⟩
  refine ⟨fun node => ?_, program.compileIn_outermost source file options,
    fun order horder hstarts => ?_, fun dialect hparse => ?_⟩
  · refine ⟨(node.value options).notices, (node.value options).needs, fun c => ?_,
      fun c c' hnames => Markup.textIn_congr source hnames⟩
    rw [Markup.textIn, Emit.run_eq]
  · obtain ⟨hpatches, -, hneeds⟩ := program.compileAll_perm options horder
    obtain ⟨hfound, hout⟩ := hsame order horder hstarts
    exact ⟨Code.rel_renderPatches_of_perm _ source hpatches hfound,
      Bindings.statement?_congr _ _ hneeds, hout, fun hplaced => exists_compileIn hplaced hout⟩
  · -- a parsed module is placed, and then no two pieces start at one offset
    have hplaced := Program.isPlaced_of_parse? hparse
    have hstarts := Program.nodup_starts hplaced
    exact ⟨hstarts, fun order horder =>
      exists_compileIn hplaced (hsame order horder hstarts).2⟩

/-- A component and an element, each with a warning, from the last to the first, and each in a
    context where another module has left its traces. -/
theorem Program.compile_in_any_order_reversed :
    ∃ (source : String) (program : Program) (c c' : Context) (out out' : Compiled),
      source = "import " ++ braced " component as c " ++
          " from 'kaori.js';\nx = <A class classMap />;\ny = <b class classMap=" ++ braced "d" ++
          " />;\n" ∧
      Program.parse? (Grammar.Dialect.ofPath "a.jsx") source.toList = some program ∧
      (program.outermost.map fun p => p.1.start).Nodup ∧
      program.outermost.reverse.Perm program.outermost ∧
      c = .start (Bindings.of program {}) ∧
      c' = ⟨⟨[(.component, ⟨"c", false⟩)]⟩, [⟨.children, "B", 0⟩], fun _ => true⟩ ∧
      (∀ h, c.bindings.nameOf h = c'.bindings.nameOf h) ∧
      (∀ piece ∈ program.outermost, (piece.2.textIn {} source.toList c).1 =
        (piece.2.textIn {} source.toList c').1) ∧
      program.compile source.toList "a.jsx" {} = some out ∧
      program.compileIn source.toList "a.jsx" {} program.outermost.reverse = some out' ∧
      out.warnings.map Warning.line = [2, 3] ∧ out'.warnings.map Warning.line = [3, 2] ∧
      out'.SameUpToOrder out := by
  obtain ⟨source, hsource⟩ : ∃ s, s =
      "import " ++ braced " component as c " ++
          " from 'kaori.js';\nx = <A class classMap />;\ny = <b class classMap=" ++ braced "d" ++
          " />;\n" := ⟨_, rfl⟩
  have hread : (Program.parse? (Grammar.Dialect.ofPath "a.jsx") source.toList).any (fun program =>
      decide (∀ h ∈ Helper.all, (Bindings.of program {}).nameOf h =
        Bindings.nameOf ⟨[(.component, ⟨"c", false⟩)]⟩ h) &&
      (program.compile source.toList "a.jsx" {}).any (fun out =>
        out.warnings.map Warning.line == [2, 3]) &&
      (program.compileIn source.toList "a.jsx" {} program.outermost.reverse).any fun out' =>
        out'.warnings.map Warning.line == [3, 2]) = true := by
    rw [hsource]
    decide +kernel
  obtain ⟨program, hparse, hchecks⟩ := (Option.any_eq_true _ _).1 hread
  simp only [Bool.and_eq_true, decide_eq_true_eq] at hchecks
  obtain ⟨⟨hnames, hlines⟩, hlines'⟩ := hchecks
  obtain ⟨out, hout, hlines⟩ := (Option.any_eq_true _ _).1 hlines
  obtain ⟨out', hout', hlines'⟩ := (Option.any_eq_true _ _).1 hlines'
  have hnames : ∀ h, (Bindings.of program {}).nameOf h =
      Bindings.nameOf ⟨[(.component, ⟨"c", false⟩)]⟩ h := fun h => hnames h h.mem_all
  have hperm := List.reverse_perm program.outermost
  obtain ⟨hcontexts, -, horders, hmodule⟩ :=
    program.compile_in_any_order source.toList "a.jsx" {}
  obtain ⟨hstarts, -⟩ := hmodule _ hparse
  obtain ⟨-, -, hsame, -⟩ := horders _ hperm hstarts
  rw [hout, hout'] at hsame
  cases hsame with
  -- both orders compile, so they agree up to the order of their warnings
  | some hsame =>
    refine ⟨source, program, _, _, out, out', hsource, hparse, hstarts, hperm, rfl, rfl, hnames,
      fun piece _ => ?_, hout, hout', beq_iff_eq.1 hlines, beq_iff_eq.1 hlines', hsame⟩
    obtain ⟨notices, needs, -, htext⟩ := hcontexts piece.2
    exact htext _ _ fun h _ => hnames h

end JsxTemplate
