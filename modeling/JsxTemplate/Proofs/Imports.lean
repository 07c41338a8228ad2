import JsxTemplate.Proofs.CodeSigns
import JsxTemplate.Proofs.Freshness

namespace JsxTemplate

/-!
# The new import names what the output refers to

* `Sign.RefersTo bindings signs h` — the name of the helper stands in the text, and a call or a
  template is opened after it.
* `Sign.NamesHelpers bindings signs` — each sign for a helper stands before such a reference.
* `Markup.refersTo_value_iff` — compiled markup refers to the helpers that it notes.
* `Program.mem_imports_iff` — a module imports the helpers that its output refers to and that it
  does not import already.
-/

open Text Emit
open Sign (written named)

/-! ### References in a text -/

namespace Sign

/-- The name of the helper stands in the text, and a call or a template is opened after it. -/
def RefersTo (bindings : Bindings) (signs : List Sign) (h : Helper) : Prop :=
  ∃ as opening bs, (opening = '(' ∨ opening = '`') ∧
    signs = as ++ (named h (bindings.nameOf h).toList opening ++ bs)

/-- Each sign for a helper stands before a reference to it. -/
def NamesHelpers (bindings : Bindings) (signs : List Sign) : Prop :=
  ∀ as h bs, signs = as ++ helper h :: bs →
    ∃ opening rest, (opening = '(' ∨ opening = '`') ∧
      bs = written ((bindings.nameOf h).toList ++ [opening]) ++ rest

/-- A helper is named if its sign is there. -/
theorem mem_helpers {signs : List Sign} {h : Helper} :
    h ∈ helpers signs ↔ ∃ as bs, signs = as ++ helper h :: bs := by
  have hsign : ∀ s : Sign, s.helper? = some h ↔ s = helper h := by
    intro s
    cases s <;> simp [helper?]
  rw [helpers, List.mem_filterMap]
  constructor
  · rintro ⟨s, hmem, hs⟩
    rw [(hsign s).1 hs] at hmem
    exact List.append_of_mem hmem
  · rintro ⟨as, bs, rfl⟩
    exact ⟨helper h, by simp, rfl⟩

/-- A text refers to the helpers whose names stand in it. -/
theorem NamesHelpers.refersTo_iff {bindings : Bindings} {signs : List Sign} {h : Helper}
    (hnames : NamesHelpers bindings signs) : RefersTo bindings signs h ↔ h ∈ helpers signs := by
  rw [mem_helpers]
  constructor
  · rintro ⟨as, opening, bs, -, rfl⟩
    exact ⟨as, written ((bindings.nameOf h).toList ++ [opening]) ++ bs, rfl⟩
  · rintro ⟨as, bs, hsigns⟩
    obtain ⟨opening, rest, hopening, rfl⟩ := hnames as h bs hsigns
    exact ⟨as, opening, rest, hopening, hsigns⟩

/-- There is no sign for a helper where there are only characters and signs around code. -/
theorem namesHelpers_of_helpers {bindings : Bindings} {signs : List Sign}
    (h : helpers signs = []) : NamesHelpers bindings signs := by
  intro as k bs hsigns
  have hmem : k ∈ helpers signs := mem_helpers.2 ⟨as, bs, hsigns⟩
  rw [h] at hmem
  cases hmem

/-- That signs for helpers stand before their names is a property of pieces in a row. -/
theorem additive_namesHelpers (bindings : Bindings) (source : List Char) :
    Additive source (NamesHelpers bindings) where
  nil := namesHelpers_of_helpers rfl
  append := by
    intro xs ys hxs hys as h bs heq
    rcases List.append_eq_append_iff.1 heq with ⟨mid, rfl, hmid⟩ | ⟨mid, rfl, hmid⟩
    · exact hys mid h bs hmid
    · cases mid with
      | nil => exact hys [] h bs hmid.symm
      | cons s mid =>
        -- the sign is in the first row, and the reference after it goes on in the same row
        obtain ⟨rfl, rfl⟩ := List.cons.inj hmid
        obtain ⟨opening, rest, hopening, rfl⟩ := hxs as h mid rfl
        exact ⟨opening, rest ++ ys, hopening, List.append_assoc ..⟩
  written cs := namesHelpers_of_helpers (helpers_written cs)
  copied _ := namesHelpers_of_helpers rfl
  start span := namesHelpers_of_helpers rfl
  stop span := namesHelpers_of_helpers rfl

/-- The sign for a helper stands before its name and what opens after it. -/
theorem namesHelpers_named (bindings : Bindings) (h : Helper) {opening : Char}
    (hopening : opening = '(' ∨ opening = '`') :
    NamesHelpers bindings (named h (bindings.nameOf h).toList opening) := by
  intro as k bs heq
  -- the mark is the first sign of a named helper, and nothing after it is one
  cases as with
  | nil =>
    obtain ⟨hk, rfl⟩ := List.cons.inj heq
    obtain rfl := Sign.helper.inj hk
    exact ⟨opening, [], hopening, (List.append_nil _).symm⟩
  | cons s as =>
    obtain ⟨-, hrest⟩ := List.cons.inj heq
    exact namesHelpers_of_helpers (helpers_written _) as k bs hrest

end Sign

/-- In the text of code, the signs for helpers stand before references to them. -/
theorem Code.namesHelpers_signs (bindings : Bindings) (source : List Char) (options : Options) :
    HereditaryIn source options fun code =>
      Sign.NamesHelpers bindings (code.signs bindings source) :=
  hereditaryIn_signs (Sign.additive_namesHelpers bindings source) fun h _ hopening =>
    Sign.namesHelpers_named bindings h hopening

/-! ### Markup -/

/-- Compiled markup refers to the helpers that it notes. -/
theorem Markup.refersTo_value_iff {source : List Char} {node : Markup}
    (hplaced : node.isPlaced source = true) (options : Options) (bindings : Bindings) (h : Helper) :
    Sign.RefersTo bindings ((node.value options).value.signs bindings source) h ↔
      h ∈ (node.value options).needs := by
  have hnames := (Markup.holds_value (Code.namesHelpers_signs bindings source options) node
    hplaced).1
  have hhelpers := (Markup.holds_value (Code.helpers_signs bindings source options) node hplaced).1
  rw [hnames.refersTo_iff, hhelpers.mem_iff]
  exact (node.uses_value options).symm.mem_iff

/-! ### Modules -/

namespace Program

variable {program : Program} {source : List Char} {options : Options}

/-- In the output of a module, the signs for helpers stand before references to them. -/
theorem namesHelpers_signs (hplaced : program.isPlaced source = true) :
    Sign.NamesHelpers (Bindings.of program options) (program.signs source options) := by
  have hR := Sign.additive_namesHelpers (Bindings.of program options) source
  refine hR.laidOut fun p hp => ?_
  rw [pieces_eq] at hp
  obtain ⟨piece, hmem, rfl⟩ := List.mem_map.1 hp
  exact hR.enclosed piece.1
    (holds_outermost (Code.namesHelpers_signs _ source options) hplaced piece hmem)

/-- A module imports the helpers that its output refers to and that it does not import already. -/
theorem mem_imports_iff (hplaced : program.isPlaced source = true) (h : Helper) :
    h ∈ (Bindings.of program options).pending (program.patches options).needs ↔
      Sign.RefersTo (Bindings.of program options) (program.signs source options) h ∧
        ¬∃ place ∈ program.specifiers, h.ImportedBy options place := by
  rw [Bindings.mem_pending, (namesHelpers_signs hplaced).refersTo_iff,
    (helpers_signs hplaced options).mem_iff, ← Bindings.isImported_iff, Bool.not_eq_true]

/-- The statement that is put in, if there are new helpers, names each of them with its name in the
    module. -/
theorem header_eq {offset : Nat} (hoffset : program.importOffset source = some offset)
    (options : Options) :
    program.header source options =
      if (Bindings.of program options).pending (program.patches options).needs = [] then none
      else some ⟨offset, ("import " ++ braced (" " ++ String.intercalate ", "
        (((Bindings.of program options).pending (program.patches options).needs).map fun h =>
          if (Bindings.of program options).nameOf h = h.name then h.name
          else h.name ++ " as " ++ (Bindings.of program options).nameOf h) ++ " ") ++
        " from " ++ String.ofList (quoted options.packageName.toList) ++ ";").toList⟩ := by
  rw [header, hoffset, Bindings.statement?]
  split
  next hnil =>
    rw [hnil, if_pos rfl]
    rfl
  next hne =>
    rw [if_neg hne]
    rfl

end Program

/-- **The new import is exact.** Compiling markup notes each helper as often as its code calls it:
    the text of the code has a reference to a helper exactly if the helper is noted, and names of
    other helpers do not matter for it. So a module imports newly, in the order of all helpers,
    those that its output refers to and that it does not import already, and the statement binds
    each of them to the name that the output uses. The pieces of its markup are placed, so that what
    is said of markup is true of each of them. -/
theorem imports_exact (node : Markup) (bindings : Bindings) (program : Program)
    (source file : String) (options : Options) :
    (let code := (node.value options).value
      let needs := (node.value options).needs
      needs.Perm code.references ∧
      (∀ other : Bindings, (∀ h ∈ needs, bindings.nameOf h = other.nameOf h) →
        code.render bindings source.toList = code.render other source.toList) ∧
      (node.isPlaced source.toList = true →
        code.render bindings source.toList =
          some (Sign.text (code.signs bindings source.toList)) ∧
        (Sign.helpers (code.signs bindings source.toList)).Perm needs ∧
        ∀ h, Sign.RefersTo bindings (code.signs bindings source.toList) h ↔ h ∈ needs)) ∧
    (Program.parse? (Grammar.Dialect.ofPath file) source.toList = some program → ∃ out offset,
      transform source file options = .ok out ∧
      program.compile source.toList file options = some out ∧
      (∀ piece ∈ program.outermost, piece.2.isPlaced source.toList = true) ∧
      out.code.toList = Sign.text (program.signs source.toList options) ∧
      out.imports.Sublist Helper.all ∧
      (∀ h, h ∈ out.imports ↔
        Sign.RefersTo (Bindings.of program options) (program.signs source.toList options) h ∧
          ¬∃ place ∈ program.specifiers, h.ImportedBy options place) ∧
      program.importOffset source.toList = some offset ∧
      program.header source.toList options =
        if out.imports = [] then none
        else some ⟨offset, ("import " ++ braced (" " ++ String.intercalate ", "
          (out.imports.map fun h =>
            if (Bindings.of program options).nameOf h = h.name then h.name
            else h.name ++ " as " ++ (Bindings.of program options).nameOf h) ++ " ") ++
          " from " ++ String.ofList (quoted options.packageName.toList) ++ ";").toList⟩) := by
  refine ⟨⟨node.uses_value options, fun other hnames => ?_, fun hplaced => ?_⟩, fun hparse => ?_⟩
  · -- only the names of needed helpers are in the code
    refine Code.render_congr source.toList _ fun h hh => hnames h ?_
    exact (node.uses_value options).mem_iff.2 hh
  · have htext := (Markup.holds_value (Code.render_eq_signs bindings source.toList options) node
      hplaced).1
    have hhelpers := (Markup.holds_value (Code.helpers_signs bindings source.toList options) node
      hplaced).1
    exact ⟨htext, hhelpers.trans (node.uses_value options).symm,
      Markup.refersTo_value_iff hplaced options bindings⟩
  · -- a module that was read is placed, so it compiles, and an import has a place in it
    have hplaced := Program.isPlaced_of_parse? hparse
    obtain ⟨out, hout, hcode, himports⟩ := Program.exists_compile hplaced file options
    obtain ⟨offset, hoffset, -⟩ := Program.exists_importOffset hplaced
    refine ⟨out, offset, transform_eq_ok hparse hout, hout,
      fun piece => Program.isPlaced_of_mem_outermost hplaced, hcode, ?_, ?_, hoffset, ?_⟩
    · rw [himports]
      exact List.filter_sublist
    · rw [himports]
      exact Program.mem_imports_iff hplaced
    · rw [himports]
      exact Program.header_eq hoffset options

/-- A module that has a component and a name `component` of its own, and imports the tag of
    templates under another name: two templates and a call, of which one helper is missing. The code
    of its one piece of markup refers to the helpers that are noted for it. -/
theorem imports_exact_renamed :
    ∃ (source : String) (program : Program) (piece : Span × Markup) (out : Compiled),
      source = "import " ++ braced " html as h " ++
          " from 'kaori.js';\nlet component = <A><b/></A>;\n" ∧
      Program.parse? (Grammar.Dialect.ofPath "a.jsx") source.toList = some program ∧
      program.outermost = [piece] ∧
      (piece.2.value {}).needs = [.html, .component, .html] ∧
      (∀ h, Sign.RefersTo (Bindings.of program {})
        ((piece.2.value {}).value.signs (Bindings.of program {}) source.toList) h ↔
          h = .html ∨ h = .component) ∧
      transform source "a.jsx" {} = .ok out ∧
      out.imports = [.component] ∧
      Sign.helpers (program.signs source.toList {}) = [.html, .component, .html] ∧
      Sign.RefersTo (Bindings.of program {}) (program.signs source.toList {}) .component ∧
      program.header source.toList {} =
        some ⟨0, ("import " ++ braced " component as component1 " ++
            " from \"kaori.js\";").toList⟩ := by
  obtain ⟨source, hsource⟩ : ∃ s,
      s = "import " ++ braced " html as h " ++
          " from 'kaori.js';\nlet component = <A><b/></A>;\n" := ⟨_, rfl⟩
  have hread : (Program.parse? (Grammar.Dialect.ofPath "a.jsx") source.toList).any (fun program =>
      decide (program.outermost.map (fun p => (p.2.value {}).needs) =
        [[.html, .component, .html]]) &&
      decide (Sign.helpers (program.signs source.toList {}) = [.html, .component, .html]) &&
      decide (program.header source.toList {} =
        some ⟨0, ("import " ++ braced " component as component1 " ++
            " from \"kaori.js\";").toList⟩)) =
      true := by
    rw [hsource]
    decide +kernel
  obtain ⟨program, hparse, hchecks⟩ := (Option.any_eq_true _ _).1 hread
  simp only [Bool.and_eq_true, decide_eq_true_eq] at hchecks
  obtain ⟨⟨hneeds, hhelpers⟩, hheader⟩ := hchecks
  obtain ⟨piece, houtermost, hneeds⟩ := List.map_eq_singleton_iff.1 hneeds
  obtain ⟨⟨-, -, hnode⟩, hmodule⟩ :=
    imports_exact piece.2 (Bindings.of program {}) program source "a.jsx" {}
  obtain ⟨out, offset, hout, -, hplaced, -, -, hmem, -⟩ := hmodule hparse
  have hpiece : piece.2.isPlaced source.toList = true :=
    hplaced piece (by rw [houtermost]; exact List.mem_singleton.2 rfl)
  have himports : (transform source "a.jsx" {}).toOption.map Compiled.imports =
      some [.component] := by
    rw [hsource]
    decide +kernel
  rw [hout] at himports
  have himports : out.imports = [.component] := Option.some.inj himports
  have hrefers := ((hmem .component).1 (by rw [himports]; exact List.mem_singleton.2 rfl)).1
  refine ⟨source, program, piece, out, hsource, hparse, houtermost, hneeds, fun h => ?_, hout,
    himports, hhelpers, hrefers, hheader⟩
  rw [(hnode hpiece).2.2 h, hneeds]
  cases h <;> decide

end JsxTemplate
