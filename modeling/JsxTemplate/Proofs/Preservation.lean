import JsxTemplate.Proofs.FreeName
import JsxTemplate.Proofs.Layout
import JsxTemplate.Proofs.Parsed
import JsxTemplate.Proofs.Rendering

namespace JsxTemplate

open Text

/-!
# Compiling keeps the text around markup

A module whose tree lies in its text is always compiled, and the output is the text with each
outermost piece of markup exchanged for its code, plus at most one import.

* `Program.Replaces` — the replacements that a module asks for.
* `Program.compile_of_statement_none`, `Program.compile_of_statement_some` — the output without and
  with a new import.
* `Program.compile_preserves_text` — both together.
-/

variable {program : Program} {source : List Char} {options : Options} {rs : List Replacement}

/-! ### Replacements and warnings -/

/-- The replacements are the outermost markup of a module in order, each with the text of its
    compiled value. -/
def Program.Replaces (program : Program) (source : List Char) (options : Options)
    (rs : List Replacement) : Prop :=
  List.Forall₂
    (fun piece r => piece.1 = r.span ∧
      (piece.2.value options).value.render (Bindings.of program options) source = some r.code)
    program.outermost rs

/-- The replacements are those of the outermost markup. -/
theorem Program.Replaces.map_span (h : program.Replaces source options rs) :
    rs.map Replacement.span = program.outermost.map Prod.fst :=
  map_span_eq h

/-- Each of them is in place of a piece of it. -/
theorem Program.Replaces.exists_mem (h : program.Replaces source options rs) {r : Replacement}
    (hr : r ∈ rs) : ∃ piece ∈ program.outermost, piece.1 = r.span := by
  have hmem : r.span ∈ program.outermost.map Prod.fst := by
    rw [← h.map_span]
    exact List.mem_map_of_mem hr
  exact List.mem_map.1 hmem

/-- The replacements of a placed module can be exchanged, from an offset that no markup starts
    before. -/
theorem Program.Replaces.fitIn (h : program.Replaces source options rs)
    (hplaced : program.isPlaced source = true) {offset : Nat}
    (hle : ∀ p ∈ program.outermost, offset ≤ p.1.start) :
    Span.FitIn source ⟨offset, byteLength source⟩ (rs.map Replacement.span) := by
  rw [h.map_span]
  exact Program.fitIn_outermost hplaced hle

/-- What stands before all markup is kept as it is. -/
theorem Program.Replaces.exchanged_eq (h : program.Replaces source options rs)
    {before after : List Char} (hsource : source = before ++ after)
    (hle : ∀ p ∈ program.outermost, byteLength before ≤ p.1.start) :
    exchanged rs 0 source = before ++ exchanged rs (byteLength before) after := by
  have hclear : exchanged rs 0 before = before := by
    refine exchanged_of_clear fun r hr => ?_
    obtain ⟨piece, hmem, hspan⟩ := h.exists_mem hr
    have hstart := hle piece hmem
    rw [← hspan]
    omega
  rw [hsource, exchanged_append, hclear, Nat.zero_add]

/-- The markup of a placed module has a text, and its notices are at places of the source. -/
theorem Program.ensures_value (hplaced : program.isPlaced source = true) {piece : Span × Markup}
    (hmem : piece ∈ program.outermost) :
    Emit.Ensures (Notice.IsPlaced source) (Code.Renders (Bindings.of program options) source)
      (piece.2.value options) :=
  piece.2.ensures_value options (Program.isPlaced_of_mem_outermost hplaced hmem)

/-- The code in place of the markup of a placed module has each hereditary property, if the tags of
    its components are as the property asks. -/
theorem Program.holds_outermost_of_hold {P : Code → Prop} {T : TagName → Prop}
    (hP : Code.HereditaryIn source options P T) (hplaced : program.isPlaced source = true)
    (htags : ∀ tag ∈ program.components, T tag) :
    ∀ piece ∈ program.outermost, P (piece.2.value options).value := by
  intro piece hmem
  have hpiece := Program.isPlaced_of_mem_outermost hplaced hmem
  -- the components of a piece are components of the module
  have hhold : piece.2.Hold T := by
    intro tag htag
    refine htags tag ?_
    rw [program.components_eq_outermost]
    exact List.mem_flatMap.2 ⟨piece, hmem, htag⟩
  exact (piece.2.holds_value_of_hold hP hpiece hhold).1

/-- The same for a property that asks nothing of tags. -/
theorem Program.holds_outermost {P : Code → Prop} (hP : Code.HereditaryIn source options P)
    (hplaced : program.isPlaced source = true) :
    ∀ piece ∈ program.outermost, P (piece.2.value options).value :=
  Program.holds_outermost_of_hold hP hplaced fun _ _ => trivial

/-- The code in place of the markup of a placed module has each hereditary property. -/
theorem Program.holds_patches {P : Code → Prop} (hP : Code.HereditaryIn source options P)
    (hplaced : program.isPlaced source = true) : ∀ p ∈ (program.patches options).value, P p.2 := by
  intro p hp
  rw [Program.patches_eq, Emit.value_mapM] at hp
  obtain ⟨piece, hmem, rfl⟩ := List.mem_map.1 hp
  exact Program.holds_outermost hP hplaced piece hmem

/-- All markup of a placed module has a text. -/
theorem Program.exists_replaces (hplaced : program.isPlaced source = true) (options : Options) :
    ∃ rs, Code.renderPatches (Bindings.of program options) source
        (program.patches options).value = some rs ∧ program.Replaces source options rs := by
  obtain ⟨rs, hrs, hall⟩ := Code.exists_renderPatches
    (Program.holds_patches (Code.renders_hereditaryIn _ source options) hplaced)
  rw [Program.patches_eq, Emit.value_mapM, List.forall₂_map_left_iff] at hall
  exact ⟨rs, hrs, hall⟩

/-- Everything that is reported about a placed module has a line and a column. -/
theorem Program.exists_warnings (hplaced : program.isPlaced source = true) (options : Options)
    (file : String) :
    ∃ warnings, (program.patches options).notices.mapM
      (Notice.warning? file (Lines.of source) source) = some warnings := by
  have hfound : ∀ notice ∈ (program.patches options).notices,
      ∃ w, notice.warning? file (Lines.of source) source = some w := by
    intro notice hnotice
    rw [Program.patches_eq, Emit.notices_mapM] at hnotice
    obtain ⟨piece, hmem, hin⟩ := List.mem_flatMap.1 hnotice
    -- the notices of a patch are those of its markup
    rw [Markup.patch, Emit.notices_bind, Emit.notices_pure, List.append_nil] at hin
    have hplace := (Program.ensures_value hplaced hmem).2 notice hin
    obtain ⟨position, hposition⟩ := Lines.exists_location hplace
    exact ⟨_, by rw [Notice.warning?, hposition]; rfl⟩
  obtain ⟨warnings, hwarnings, -⟩ := exists_mapM_eq_some hfound
  exact ⟨warnings, hwarnings⟩

/-! ### The output -/

/-- The output if all needed helpers are there. -/
theorem Program.compile_of_statement_none {file : String} {warnings : List Warning}
    (hstatement : (Bindings.of program options).statement? options.packageName
      (program.patches options).needs = none)
    (hrs : Code.renderPatches (Bindings.of program options) source
      (program.patches options).value = some rs)
    (hwarnings : (program.patches options).notices.mapM
      (Notice.warning? file (Lines.of source) source) = some warnings)
    (hfit : Span.FitIn source ⟨0, byteLength source⟩ (rs.map Replacement.span)) :
    ∃ out, program.compile source file options = some out ∧
      out.code.toList = exchanged rs 0 source ∧ out.warnings = warnings ∧
      out.imports = (Bindings.of program options).pending (program.patches options).needs := by
  obtain ⟨draft, hdraft, hcode⟩ := generate_none_code hfit
  unfold Program.compile
  simp only [hrs, hwarnings, hstatement, hdraft, Option.bind_eq_bind, Option.bind_some,
    Option.pure_def]
  exact ⟨_, rfl, by rw [String.toList_ofList, hcode], rfl, rfl⟩

/-- The output if a helper has to be imported. -/
theorem Program.compile_of_statement_some {file statement : String} {warnings : List Warning}
    {before after : List Char}
    (hstatement : (Bindings.of program options).statement? options.packageName
      (program.patches options).needs = some statement)
    (hrs : Code.renderPatches (Bindings.of program options) source
      (program.patches options).value = some rs)
    (hwarnings : (program.patches options).notices.mapM
      (Notice.warning? file (Lines.of source) source) = some warnings)
    (hoffset : program.importOffset source = some (byteLength before))
    (hsource : source = before ++ after)
    (hfit : Span.FitIn source ⟨byteLength before, byteLength source⟩ (rs.map Replacement.span)) :
    ∃ out, program.compile source file options = some out ∧
      out.code.toList = before ++ ((⟨byteLength before, statement.toList⟩ : Header).text after ++
        exchanged rs (byteLength before) after) ∧
      out.imports = (Bindings.of program options).pending (program.patches options).needs := by
  obtain ⟨draft, hdraft, hcode⟩ : ∃ draft,
      generate source (some ⟨byteLength before, statement.toList⟩) rs = some draft ∧ _ :=
    generate_some_code hsource rfl hfit
  unfold Program.compile
  simp only [hrs, hwarnings, hstatement, hoffset, hdraft, Option.bind_eq_bind, Option.bind_some,
    Option.pure_def]
  exact ⟨_, rfl, by rw [String.toList_ofList, hcode], rfl⟩

/-! ### Line breaks at the place of the import -/

/-- A line break after the place of an import stays if markup opens with an angle bracket. -/
theorem Program.Replaces.endsLine {before after : List Char}
    (h : program.Replaces (before ++ after) options rs)
    (hle : ∀ p ∈ program.outermost, byteLength before ≤ p.1.start)
    (hopen : ∀ p ∈ program.outermost, p.1.opensTag (before ++ after) = true)
    (hends : endsLine after = true) :
    endsLine (exchanged rs (byteLength before) after) = true := by
  refine endsLine_exchanged (fun r hr => ?_) hends
  obtain ⟨piece, hmem, hspan⟩ := h.exists_mem hr
  rw [← hspan]
  exact Span.exists_of_opensTag (hopen piece hmem) (hle piece hmem)

/-! ### Modules without markup -/

/-- A module without markup is returned as it is, also if its tree is misplaced. -/
theorem Program.compile_of_outermost_nil (h : program.outermost = []) (source : List Char)
    (file : String) (options : Options) :
    ∃ out, program.compile source file options = some out ∧
      out.code.toList = source ∧ out.imports = [] ∧ out.warnings = [] := by
  -- no markup, so there is nothing to patch, to need or to import
  have hpatches : program.patches options = pure [] := by
    rw [Program.patches_eq, h, List.mapM_nil]
  have hpending : (Bindings.of program options).pending (program.patches options).needs = [] := by
    rw [Bindings.pending_eq_nil_iff, hpatches]
    simp
  have hstatement : (Bindings.of program options).statement? options.packageName
      (program.patches options).needs = none := by
    rw [Bindings.statement?_eq_none_iff, hpatches]
    simp
  have hfit : Span.FitIn source ⟨0, byteLength source⟩ (List.map Replacement.span []) :=
    ⟨.nil, by simp, by simp, by simp⟩
  obtain ⟨out, hout, hcode, hwarnings, himports⟩ := Program.compile_of_statement_none
    hstatement (by rw [hpatches]; rfl) (by rw [hpatches]; rfl) hfit
  exact ⟨out, hout, by rw [hcode, exchanged_nil], by rw [himports, hpending], hwarnings⟩

/-! ### The whole output -/

/-- What is read and compiled is the result. -/
theorem transform_eq_ok {source file : String} {out : Compiled}
    (hparse : Program.parse? (Grammar.Dialect.ofPath file) source.toList = some program)
    (hout : program.compile source.toList file options = some out) :
    transform source file options = .ok out := by
  simp only [transform, hparse, hout]

/-- **Compiling keeps the text around markup.** A module that is read is compiled. Its tree lies in
    its text. Its code is the text with each outermost piece of markup exchanged for the text of its
    compiled value, and all characters outside of them kept. If, and only if, a needed helper is not
    imported yet, one import is put in at `offset`, with at most one line break on either side of
    it, so that it stands on lines of its own. Nothing happens to a module without markup. -/
theorem Program.compile_preserves_text (program : Program) (source file : String)
    (options : Options)
    (hparse : Program.parse? (Grammar.Dialect.ofPath file) source.toList = some program) :
    ∃ out rs offset before after,
      transform source file options = .ok out ∧
      program.compile source.toList file options = some out ∧
      program.isPlaced source.toList = true ∧
      program.Replaces source.toList options rs ∧
      program.importOffset source.toList = some offset ∧
      source.toList = before ++ after ∧ byteLength before = offset ∧
      exchanged rs 0 source.toList = before ++ exchanged rs offset after ∧
      ((∀ h ∈ (program.patches options).needs,
          ((Bindings.of program options).get h).isImported = true) →
        out.code.toList = exchanged rs 0 source.toList ∧ out.imports = []) ∧
      ((∃ h ∈ (program.patches options).needs,
          ((Bindings.of program options).get h).isImported = false) →
        ∃ statement lead trail,
          (Bindings.of program options).statement? options.packageName
            (program.patches options).needs = some statement ∧
          out.code.toList =
            before ++ lead ++ statement.toList ++ trail ++ exchanged rs offset after ∧
          (lead = [] ∨ lead = ['\n']) ∧ (trail = [] ∨ trail = ['\n']) ∧
          OnOwnLines (before ++ lead) (trail ++ after) ∧
          OnOwnLines (before ++ lead) (trail ++ exchanged rs offset after)) ∧
      (program.outermost = [] → out.code = source ∧ out.imports = [] ∧ out.warnings = []) := by
  have hread := Program.isRead_of_parse? hparse
  have hplaced := hread.placed
  obtain ⟨rs, hrs, hreplaces⟩ := Program.exists_replaces hplaced options
  obtain ⟨warnings, hwarnings⟩ := Program.exists_warnings hplaced options file
  obtain ⟨offset, hoffset, before, after, hsource, hlen⟩ := Program.exists_importOffset hplaced
  rw [Nat.zero_add] at hlen
  subst hlen
  have hle := Program.importOffset_le_start hplaced hoffset
  have hwhole := hreplaces.exchanged_eq hsource hle
  have hnone : ∀ {out}, program.compile source.toList file options = some out →
      program.outermost = [] → out.code = source ∧ out.imports = [] ∧ out.warnings = [] := by
    intro out hout hnil
    obtain ⟨out', hout', hcode, hrest⟩ := Program.compile_of_outermost_nil hnil source.toList file
      options
    -- the output is the one that is known for such a module
    rw [hout, Option.some.injEq] at hout'
    subst hout'
    exact ⟨String.toList_inj.1 hcode, hrest⟩
  cases hstatement : (Bindings.of program options).statement? options.packageName
      (program.patches options).needs with
  | none =>
    -- no helper is missing, so nothing is put in
    have himported := Bindings.statement?_eq_none_iff.1 hstatement
    obtain ⟨out, hout, hcode, -, himports⟩ := Program.compile_of_statement_none hstatement hrs
      hwarnings (hreplaces.fitIn hplaced fun _ _ => Nat.zero_le _)
    refine ⟨out, rs, _, before, after, transform_eq_ok hparse hout, hout, hplaced, hreplaces,
      hoffset, hsource, rfl, hwhole, fun _ => ⟨hcode, ?_⟩, ?_, hnone hout⟩
    · rw [himports]
      exact Bindings.pending_eq_nil_iff.2 himported
    · rintro ⟨h, hmem, hmissing⟩
      rw [himported h hmem] at hmissing
      cases hmissing
  | some statement =>
    -- the import goes between the two sides of its place
    obtain ⟨out, hout, hcode, -⟩ := Program.compile_of_statement_some hstatement hrs hwarnings
      hoffset hsource (hreplaces.fitIn hplaced hle)
    refine ⟨out, rs, _, before, after, transform_eq_ok hparse hout, hout, hplaced, hreplaces,
      hoffset, hsource, rfl, hwhole, fun himported => ?_, fun _ => ?_, hnone hout⟩
    · rw [Bindings.statement?_eq_none_iff.2 himported] at hstatement
      cases hstatement
    · obtain ⟨lead, trail, htext, hlead, htrail, hlines⟩ :=
        Header.text_spec ⟨byteLength before, statement.toList⟩ rfl after
      refine ⟨statement, lead, trail, rfl, ?_, hlead, htrail, hlines after id, ?_⟩
      · rw [hcode, htext]
        simp only [List.append_assoc]
      · -- what stands after the import in the output starts as in the source
        have hopen : ∀ p ∈ program.outermost, p.1.opensTag source.toList = true :=
          fun p hp => (hread.opens p hp).1
        rw [hsource] at hreplaces hopen
        exact hlines _ (hreplaces.endsLine hle hopen)

/-- Markup in markup, after a directive. -/
theorem Program.compile_preserves_text_after_directive :
    ∃ (source : String) (program : Program) (out : Compiled),
      source = "'a';\nx = <p>" ++ braced "[<b/>]" ++ "</p>;\n" ∧
      Program.parse? (Grammar.Dialect.ofPath "a.jsx") source.toList = some program ∧
      program.isPlaced source.toList = true ∧
      transform source "a.jsx" {} = .ok out ∧
      out.code =
      "'a';\nimport " ++ braced " html " ++ " from \"kaori.js\";\nx = html`<p>$" ++
          braced "[html`<b></b>`]" ++ "</p>`;\n" := by
  obtain ⟨source, hsource⟩ :
      ∃ s, s = "'a';\nx = <p>" ++ braced "[<b/>]" ++ "</p>;\n" := ⟨_, rfl⟩
  have hread : (Program.parse? (Grammar.Dialect.ofPath "a.jsx") source.toList).isSome = true := by
    rw [hsource]
    decide +kernel
  obtain ⟨program, hparse⟩ := Option.isSome_iff_exists.1 hread
  obtain ⟨out, -, -, -, -, hout, -, hplaced, -⟩ :=
    Program.compile_preserves_text program source "a.jsx" {} hparse
  have hcode : (transform source "a.jsx" {}).toOption.map Compiled.code =
      some ("'a';\nimport " ++ braced " html " ++ " from \"kaori.js\";\nx = html`<p>$" ++
        braced "[html`<b></b>`]" ++ "</p>`;\n") := by
    rw [hsource]
    decide +kernel
  rw [hout] at hcode
  exact ⟨source, program, out, hsource, hparse, hplaced, hout, Option.some.inj hcode⟩

end JsxTemplate
