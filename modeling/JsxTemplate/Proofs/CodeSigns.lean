import JsxTemplate.Proofs.Preservation
import JsxTemplate.Proofs.References

namespace JsxTemplate

/-!
# Compiled code with signs

The text of code with a sign before the name of each helper, and with two signs around the code in
place of markup, at every depth.

* `Code.signs` — the text of code with its signs.
* `Code.hereditary_signs`, `Code.hereditaryIn_signs` — properties of signs in a row go up through
  code.
* `Code.render_eq_signs` — without the signs, it is the text of the code.
* `Code.helpers_signs` — the helpers whose names stand in it are those that the code refers to.
* `Program.signs` — the output of a module with its signs.
* `Program.exists_compile` — without the signs, it is the output.
-/

open Text Emit

/-! ### Pieces of code -/

namespace Sign

/-- The name of a helper with a character after it. -/
def named (h : Helper) (name : List Char) (opening : Char) : List Sign :=
  helper h :: written (name ++ [opening])

/-- Pieces with commas between them. -/
def separated (pieces : List (List Sign)) : List Sign :=
  (pieces.intersperse (written ", ".toList)).flatten

/-- The helper of a sign that stands before its name. -/
def helper? : Sign → Option Helper
  | helper h => some h
  | _ => none

/-- The helpers whose names stand in the text. -/
def helpers (signs : List Sign) : List Helper := signs.filterMap helper?

/-- A helper is written with its name and what opens after it. -/
@[simp] theorem text_named (h : Helper) (name : List Char) (opening : Char) :
    text (named h name opening) = name ++ [opening] := by
  simp [named]

/-- Between two pieces there is a comma. -/
theorem separated_cons_cons (piece next : List Sign) (rest : List (List Sign)) :
    separated (piece :: next :: rest) =
      piece ++ (written ", ".toList ++ separated (next :: rest)) := by
  rw [separated, List.intersperse_cons_cons, List.flatten_cons, List.flatten_cons]
  rfl

/-- The text of pieces with commas between them. -/
theorem text_separated (pieces : List (List Sign)) :
    text (separated pieces) = Entry.joined ", ".toList (pieces.map text) := by
  induction pieces with
  | nil => rfl
  | cons piece rest ih =>
    cases rest with
    | nil => simp [separated, Entry.joined]
    | cons next rest =>
      rw [separated_cons_cons, text_append, text_append, text_written, ih]
      simp [Entry.joined, List.intersperse_cons_cons]

@[simp] theorem helpers_nil : helpers [] = [] := rfl

/-- The helpers named in a row are those of both parts. -/
@[simp] theorem helpers_append (as bs : List Sign) :
    helpers (as ++ bs) = helpers as ++ helpers bs :=
  List.filterMap_append

/-- New characters name no helper. -/
@[simp] theorem helpers_written (cs : List Char) : helpers (written cs) = [] := by
  induction cs with
  | nil => rfl
  | cons c cs ih => exact ih

/-- A helper that is called is named once. -/
@[simp] theorem helpers_named (h : Helper) (name : List Char) (opening : Char) :
    helpers (named h name opening) = [h] :=
  congrArg (h :: ·) (helpers_written _)

/-- The signs around code in place of a span name none. -/
@[simp] theorem helpers_enclosed (span : Span) (code : List Sign) :
    helpers (enclosed span code) = helpers code := by
  show helpers (code ++ [stop span]) = helpers code
  rw [helpers_append]
  exact List.append_nil _

/-- Copied characters name none. -/
@[simp] theorem helpers_keptBy (base : Nat) (cs : List Char) :
    helpers (keptBy copied base cs) = [] := by
  induction cs generalizing base with
  | nil => rfl
  | cons c cs ih => exact ih _

/-- Commas name none. -/
theorem helpers_separated (pieces : List (List Sign)) :
    helpers (separated pieces) = pieces.flatMap helpers := by
  induction pieces with
  | nil => rfl
  | cons piece rest ih =>
    cases rest with
    | nil => simp [separated]
    | cons next rest =>
      rw [separated_cons_cons, helpers_append, helpers_append, helpers_written, List.nil_append, ih,
        List.flatMap_cons, List.flatMap_cons, List.flatMap_cons]

/-- Exchanging pieces keeps the helpers of all of them. -/
theorem helpers_exchanges {β : Type} {span : β → Span} {content : β → List Sign} {ps : List β}
    {cursor : Nat} {cs : List Char} {result : List Sign}
    (h : Exchanges span content copied ps cursor cs result) :
    helpers result = ps.flatMap fun p => helpers (content p) := by
  induction h with
  | nil cursor text => exact helpers_keptBy cursor text
  | cons hgap hold _ ih =>
    rw [helpers_append, helpers_append, helpers_keptBy, List.nil_append, ih, List.flatMap_cons]

end Sign

open Sign (written enclosed named separated)

/-! ### The signs of code -/

namespace Code

variable (bindings : Bindings) (source : List Char)

mutual

/-- The text of code with its signs. -/
def signs : Code → List Sign
  | string text => written (quoted text)
  | flag => written "true".toList
  | name tag => written tag.text.toList
  | copy e patches =>
    exchangedBy Prod.fst Prod.snd .copied (signsOfPatches patches) e.span.start
      ((slice source e.span.start e.span.stop).getD [])
  | paren inner => written ['('] ++ (inner.signs ++ written [')'])
  | spread inner => written "...".toList ++ inner.signs
  | array items => written ['['] ++ (separated (signsOf items) ++ written [']'])
  | object entries =>
    if entries.isEmpty then written ['{', '}']
    else written ['{', ' '] ++ (separated (signsOfEntries entries) ++ written [' ', '}'])
  | call helper arguments =>
    named helper (bindings.nameOf helper).toList '(' ++
      (separated (signsOf arguments) ++ written [')'])
  | template ⟨holes, tail⟩ =>
    named .html (bindings.nameOf .html).toList '`' ++
      (signsOfHoles holes ++ written (escapeTemplate tail ++ ['`']))

/-- The signs of several pieces of code. -/
def signsOf : List Code → List (List Sign)
  | [] => []
  | code :: rest => code.signs :: signsOf rest

/-- The code in place of markup, each piece between its signs. -/
def signsOfPatches : List (Span × Code) → List (Span × List Sign)
  | [] => []
  | (span, code) :: rest => (span, enclosed span code.signs) :: signsOfPatches rest

/-- The signs of properties. -/
def signsOfEntries : List (Entry Code) → List (List Sign)
  | [] => []
  | ⟨key, value, isGetter⟩ :: rest =>
    let key := propertyKey key.toList
    (if isGetter then
      written ("get ".toList ++ key ++ Entry.bodyOpening) ++
        (value.signs ++ written [';', ' ', '}'])
    else written (key ++ ": ".toList) ++ value.signs) :: signsOfEntries rest

/-- The signs of the holes of a template, each with the text before it. -/
def signsOfHoles : List (List Char × Code) → List Sign
  | [] => []
  | (before, code) :: rest =>
    written (escapeTemplate before ++ ['$', '{']) ++
      (code.signs ++ (written ['}'] ++ signsOfHoles rest))

end

/-- The signs of several pieces of code, piece by piece. -/
theorem signsOf_eq (codes : List Code) :
    signsOf bindings source codes = codes.map (signs bindings source) := by
  induction codes with
  | nil => rfl
  | cons code rest ih => rw [signsOf, ih, List.map_cons]

/-- Those of the code in place of markup, each between its two signs. -/
theorem signsOfPatches_eq (patches : List (Span × Code)) :
    signsOfPatches bindings source patches =
      patches.map fun p => (p.1, enclosed p.1 (p.2.signs bindings source)) := by
  induction patches with
  | nil => rfl
  | cons patch rest ih => rw [signsOfPatches, ih, List.map_cons]

/-- The signs of one property. -/
def signsOfEntry (e : Entry Code) : List Sign :=
  if e.isGetter then
    written ("get ".toList ++ propertyKey e.key.toList ++ Entry.bodyOpening) ++
      (e.value.signs bindings source ++ written [';', ' ', '}'])
  else written (propertyKey e.key.toList ++ ": ".toList) ++ e.value.signs bindings source

theorem signsOfEntries_eq (entries : List (Entry Code)) :
    signsOfEntries bindings source entries = entries.map (signsOfEntry bindings source) := by
  induction entries with
  | nil => rfl
  | cons e rest ih =>
    rw [signsOfEntries, ih, List.map_cons]
    rfl

end Code

/-- The text of a placed expression, with what stands around it. -/
theorem Expr.exists_slice {source : List Char} {e : Expr} (h : e.isPlaced source = true) :
    ∃ before text after, source = before ++ (text ++ after) ∧ byteLength before = e.span.start ∧
      e.span.start + byteLength text = e.span.stop ∧
      slice source e.span.start e.span.stop = some text := by
  -- both ends of the span are boundaries of the text, so there is a text between them
  have hon := e.on_span h
  obtain ⟨before, text, after, rfl, hbefore, htext⟩ :=
    hon.start_place.between hon.stop_place hon.start_le_stop
  rw [Nat.zero_add] at hbefore
  have hslice := slice_append before text after
  rw [hbefore, htext] at hslice
  exact ⟨before, text, after, rfl, hbefore, htext, hslice⟩

/-! ### Rows of signs -/

/-- A property of signs in a row goes from pieces to pieces with commas between them. -/
theorem Sign.separated_induction {R : List Sign → Prop}
    (happend : ∀ {as bs}, R as → R bs → R (as ++ bs)) (hnil : R [])
    (hcomma : R (written ", ".toList)) {pieces : List (List Sign)}
    (h : ∀ piece ∈ pieces, R piece) : R (separated pieces) := by
  induction pieces with
  | nil => exact hnil
  | cons piece rest ih =>
    have hrest := ih fun p hp => h p (List.mem_cons_of_mem _ hp)
    cases rest with
    | nil => simpa [Sign.separated] using h piece (by simp)
    | cons next rest =>
      rw [separated_cons_cons]
      exact happend (h piece (by simp)) (happend hcomma hrest)

namespace Code

variable {bindings : Bindings} {source : List Char} {options : Options}

/-- A property of signs in a row that holds of new characters and of the names of helpers goes up
    through code. -/
theorem hereditary_signs {R : List Sign → Prop} (happend : ∀ {as bs}, R as → R bs → R (as ++ bs))
    (hwritten : ∀ cs, R (written cs))
    (hnamed : ∀ h opening, opening = '(' ∨ opening = '`' →
      R (named h (bindings.nameOf h).toList opening)) :
    Hereditary fun code => R (code.signs bindings source) where
  string text := hwritten _
  flag := hwritten _
  name tag _ := hwritten _
  paren h := happend (hwritten _) (happend h (hwritten _))
  spread h := happend (hwritten _) h
  array := by
    intro items h
    rw [signs, signsOf_eq]
    refine happend (hwritten _) (happend ?_ (hwritten _))
    exact Sign.separated_induction happend (hwritten []) (hwritten _) (List.forall_mem_map.2 h)
  object := by
    intro entries h
    rw [signs, signsOfEntries_eq]
    -- an object without properties is written without blanks in it
    split
    · exact hwritten _
    · refine happend (hwritten _) (happend ?_ (hwritten _))
      refine Sign.separated_induction happend (hwritten []) (hwritten _)
        (List.forall_mem_map.2 fun e he => ?_)
      unfold signsOfEntry
      split
      · exact happend (hwritten _) (happend (h e he) (hwritten _))
      · exact happend (hwritten _) (h e he)
  call := by
    intro helper arguments h
    rw [signs, signsOf_eq]
    refine happend (hnamed helper '(' (.inl rfl)) (happend ?_ (hwritten _))
    exact Sign.separated_induction happend (hwritten []) (hwritten _) (List.forall_mem_map.2 h)
  template := by
    rintro ⟨holes, tail⟩ h
    -- along the holes: the text before each, its code, and the brace that closes it
    have hholes : R (signsOfHoles bindings source holes) := by
      induction holes with
      | nil => exact hwritten []
      | cons hole rest ih =>
        have hrest := ih fun x hx => h x (List.mem_cons_of_mem _ hx)
        exact happend (hwritten _) (happend (h hole (by simp)) (happend (hwritten _) hrest))
    exact happend (hnamed .html '`' (.inr rfl)) (happend hholes (hwritten _))

/-- An additive property that holds of the names of helpers goes up through code with copied
    expressions. -/
theorem hereditaryIn_signs {R : List Sign → Prop} (hR : Sign.Additive source R)
    (hnamed : ∀ h opening, opening = '(' ∨ opening = '`' →
      R (named h (bindings.nameOf h).toList opening)) :
    HereditaryIn source options fun code => R (code.signs bindings source) where
  toHereditary := hereditary_signs hR.append hR.written hnamed
  copy := by
    intro e he h
    obtain ⟨before, text, after, hsource, hbefore, -, hslice⟩ := Expr.exists_slice he
    rw [signs, hslice, Option.getD_some, signsOfPatches_eq]
    refine hR.exchangedBy hsource hbefore (List.forall_mem_map.2 fun p hp => ?_)
    exact hR.enclosed p.1 (h p hp)

/-! ### Without the signs -/

/-- A loop over values that are found finds all of them. -/
theorem mapM_eq_some_map {α β : Type} {f : α → Option β} {g : α → β} {as : List α}
    (h : ∀ a ∈ as, f a = some (g a)) : as.mapM f = some (as.map g) := by
  induction as with
  | nil => rfl
  | cons a as ih =>
    rw [List.mapM_cons, h a (by simp), ih fun x hx => h x (List.mem_cons_of_mem _ hx)]
    rfl

/-- The text of the holes of a template. -/
theorem text_signsOfHoles (holes : List (List Char × Code)) :
    Sign.text (signsOfHoles bindings source holes) =
      Template.renderHoles (holes.map fun h => (h.1, Sign.text (h.2.signs bindings source))) := by
  induction holes with
  | nil => rfl
  | cons hole rest ih =>
    rw [signsOfHoles]
    simp [ih, Template.renderHoles]

/-- The text of a property. -/
theorem text_signsOfEntry (e : Entry Code) :
    Sign.text (signsOfEntry bindings source e) =
      Entry.render ⟨e.key, Sign.text (e.value.signs bindings source), e.isGetter⟩ := by
  unfold signsOfEntry Entry.render
  cases e.isGetter <;> simp

/-- Replacements for the code in place of markup. -/
theorem renderPatches_of_signs {patches : List (Span × Code)}
    (h : ∀ p ∈ patches,
      p.2.render bindings source = some (Sign.text (p.2.signs bindings source))) :
    renderPatches bindings source patches =
      some (patches.map fun p => ⟨p.1, Sign.text (p.2.signs bindings source)⟩) := by
  rw [renderPatches_eq]
  refine mapM_eq_some_map fun p hp => ?_
  rw [h p hp, Option.map_some]

/-- **The text of code is that of its signs.** -/
theorem render_eq_signs (bindings : Bindings) (source : List Char) (options : Options) :
    HereditaryIn source options fun code =>
      code.render bindings source = some (Sign.text (code.signs bindings source)) where
  string text := by simp [render, signs]
  flag := by simp [render, signs]
  name tag _ := by simp [render, signs]
  paren := by
    intro inner h
    simp [render, signs, h]
  spread := by
    intro inner h
    simp [render, signs, h]
  array := by
    intro items h
    rw [render, renderAll_eq, mapM_eq_some_map h]
    simp [signs, signsOf_eq, Sign.text_separated, Function.comp_def]
  object := by
    intro entries h
    -- every value has its text by assumption, so all properties have theirs
    have htexts : renderEntries bindings source entries =
        some (entries.map fun e =>
          ⟨e.key, Sign.text (e.value.signs bindings source), e.isGetter⟩) := by
      rw [renderEntries_eq]
      refine mapM_eq_some_map fun e he => ?_
      rw [h e he, Option.map_some]
    rw [render, htexts]
    cases entries with
    | nil => simp [signs, Entry.renderAll]
    | cons e rest =>
      simp [signs, signsOfEntries_eq, Sign.text_separated, Entry.renderAll, text_signsOfEntry,
        Function.comp_def]
  call := by
    intro helper arguments h
    rw [render, renderAll_eq, mapM_eq_some_map h]
    simp [signs, signsOf_eq, Sign.text_separated, Function.comp_def]
  template := by
    rintro ⟨holes, tail⟩ h
    have htexts : renderHoles bindings source holes =
        some (holes.map fun h => (h.1, Sign.text (h.2.signs bindings source))) := by
      rw [renderHoles_eq]
      refine mapM_eq_some_map fun hole hmem => ?_
      rw [h hole hmem, Option.map_some]
    rw [render, htexts]
    simp [signs, Template.render, text_signsOfHoles]
  copy := by
    intro e he h
    -- the replacements have the spans of the markup, which fit into the expression
    have hfit : Span.FitIn source e.span (((e.patches options).value.map fun p =>
        (⟨p.1, Sign.text (p.2.signs bindings source)⟩ : Replacement)).map Replacement.span) := by
      rw [List.map_map]
      exact Expr.fitIn_patches he options
    -- what splicing leaves is the exchange along the text, and signs are laid out in that way
    obtain ⟨text, hslice, hsplice⟩ := splice_eq_exchanged (e.on_span he) hfit
    rw [render, renderPatches_of_signs h]
    refine hsplice.trans ?_
    rw [signs, hslice, Option.getD_some, signsOfPatches_eq, exchangedBy_map,
      Sign.text_exchangedBy, exchanged_eq_exchangedBy, exchangedBy_map]
    simp

/-! ### Helpers -/

/-- The helpers that the holes of a template name. -/
theorem helpers_signsOfHoles (holes : List (List Char × Code)) :
    Sign.helpers (signsOfHoles bindings source holes) =
      holes.flatMap fun h => Sign.helpers (h.2.signs bindings source) := by
  induction holes with
  | nil => rfl
  | cons hole rest ih =>
    rw [signsOfHoles]
    simp [ih]

/-- A property names those that its value names. -/
theorem helpers_signsOfEntry (e : Entry Code) :
    Sign.helpers (signsOfEntry bindings source e) =
      Sign.helpers (e.value.signs bindings source) := by
  unfold signsOfEntry
  split <;> simp

/-- The code in place of markup names those that it names as code. -/
theorem flatMap_helpers_signsOfPatches (patches : List (Span × Code)) :
    ((signsOfPatches bindings source patches).flatMap fun p => Sign.helpers p.2) =
      patches.flatMap fun p => Sign.helpers (p.2.signs bindings source) := by
  rw [signsOfPatches_eq, List.flatMap_map]
  simp only [Sign.helpers_enclosed]

/-- A copied expression is its text, with the code in place of its markup put in from left to
    right. -/
theorem exists_exchanges_copy {e : Expr} (he : e.isPlaced source = true) (bindings : Bindings)
    (options : Options) :
    ∃ ps text, ps.Perm (signsOfPatches bindings source (e.patches options).value) ∧
      Exchanges Prod.fst Prod.snd .copied ps e.span.start text
        ((copy e (e.patches options).value).signs bindings source) := by
  obtain ⟨before, text, after, hsource, hbefore, htext, hslice⟩ := Expr.exists_slice he
  have hfit : Span.FitIn source e.span
      ((signsOfPatches bindings source (e.patches options).value).map Prod.fst) := by
    rw [signsOfPatches_eq, List.map_map]
    exact Expr.fitIn_patches he options
  obtain ⟨ps, hperm, hexchanges⟩ := exists_exchanges Prod.snd Sign.copied hfit hsource hbefore htext
  refine ⟨ps, text, hperm, ?_⟩
  rw [signs, hslice]
  exact hexchanges

/-- **The helpers whose names stand in code are those that it refers to.** -/
theorem helpers_signs (bindings : Bindings) (source : List Char) (options : Options) :
    HereditaryIn source options fun code =>
      (Sign.helpers (code.signs bindings source)).Perm code.references where
  string text := by simp [signs]
  flag := by simp [signs]
  name tag _ := by simp [signs]
  paren := by
    intro inner h
    simpa [signs] using h
  spread := by
    intro inner h
    simpa [signs] using h
  array := by
    intro items h
    simpa [signs, signsOf_eq, Sign.helpers_separated, List.flatMap_map] using
      List.Perm.flatMap_left items h
  object := by
    intro entries h
    rw [signs, references_object]
    split
    next hempty => simp [List.isEmpty_iff.1 hempty]
    next =>
      simpa [signsOfEntries_eq, Sign.helpers_separated, List.flatMap_map, helpers_signsOfEntry]
        using List.Perm.flatMap_left entries h
  call := by
    intro helper arguments h
    simpa [signs, signsOf_eq, Sign.helpers_separated, List.flatMap_map] using
      List.Perm.flatMap_left arguments h
  template := by
    rintro ⟨holes, tail⟩ h
    simpa [signs, helpers_signsOfHoles, Template.references, Template.values, List.flatMap_map]
      using List.Perm.flatMap_left holes h
  copy := by
    intro e he h
    -- along the text the replacements come in the order of their spans, which only permutes them
    obtain ⟨ps, text, hperm, hexchanges⟩ := exists_exchanges_copy he bindings options
    rw [Sign.helpers_exchanges hexchanges, references_copy]
    refine (hperm.flatMap_right _).trans ?_
    rw [flatMap_helpers_signsOfPatches]
    exact List.Perm.flatMap_left _ h

end Code

/-! ### Modules -/

/-- The import that is put into a module, with its place. -/
def Program.header (program : Program) (source : List Char) (options : Options) :
    Option Header := do
  let statement ← (Bindings.of program options).statement? options.packageName
    (program.patches options).needs
  let offset ← program.importOffset source
  return ⟨offset, statement.toList⟩

/-- The code in place of the outermost markup of a module, each piece between its signs. -/
def Program.pieces (program : Program) (source : List Char) (options : Options) :
    List (Span × List Sign) :=
  Code.signsOfPatches (Bindings.of program options) source (program.patches options).value

/-- The output of a module with its signs. -/
def Program.signs (program : Program) (source : List Char) (options : Options) : List Sign :=
  laidOut Prod.fst Prod.snd source (program.header source options) (program.pieces source options)

namespace Program

variable {program : Program} {source : List Char} {options : Options}

/-- There is one piece for each outermost piece of markup. -/
theorem pieces_eq (program : Program) (source : List Char) (options : Options) :
    program.pieces source options = program.outermost.map fun p => (p.1,
      enclosed p.1 ((p.2.value options).value.signs (Bindings.of program options) source)) := by
  rw [pieces, Code.signsOfPatches_eq, patches_eq, value_mapM, List.map_map]
  rfl

/-- The spans of the pieces are those of the outermost markup. -/
theorem map_fst_pieces (program : Program) (source : List Char) (options : Options) :
    (program.pieces source options).map Prod.fst = program.outermost.map Prod.fst := by
  rw [pieces_eq, List.map_map]
  rfl

/-- The import is put at a place of the source that is not after any markup. -/
theorem placeIn_header (hplaced : program.isPlaced source = true) :
    ∀ h ∈ program.header source options, PlaceIn 0 source h.offset ∧
      ∀ p ∈ program.outermost, h.offset ≤ p.1.start := by
  intro h hh
  obtain ⟨offset, hoffset, hplace⟩ := exists_importOffset hplaced
  rw [header, hoffset] at hh
  simp only [Option.bind_eq_bind, Option.bind_some, Option.pure_def, Option.mem_def,
    Option.bind_eq_some_iff, Option.some.injEq] at hh
  obtain ⟨statement, -, rfl⟩ := hh
  exact ⟨hplace, importOffset_le_start hplaced hoffset⟩

/-- The import imports the helpers that are missing, from the package of the settings. -/
theorem statement_of_mem_header : ∀ h ∈ program.header source options, h.statement =
    ("import " ++ braced (" " ++ String.intercalate ", " (((Bindings.of program options).pending
        (program.patches options).needs).map (Bindings.of program options).specifier) ++ " ") ++
      " from " ++ String.ofList (quoted options.packageName.toList) ++ ";").toList := by
  intro h hh
  simp only [header, Option.bind_eq_bind, Option.pure_def, Option.mem_def,
    Option.bind_eq_some_iff, Option.some.injEq] at hh
  obtain ⟨statement, hstatement, offset, -, rfl⟩ := hh
  unfold Bindings.statement? at hstatement
  split at hstatement
  · cases hstatement
  · obtain rfl := Option.some.inj hstatement
    rfl

/-- The pieces of a placed module can be exchanged after the import. -/
theorem fitIn_pieces (hplaced : program.isPlaced source = true) (options : Options) :
    Span.FitIn source
      ⟨((program.header source options).map Header.offset).getD 0, byteLength source⟩
      ((program.pieces source options).map Prod.fst) := by
  rw [map_fst_pieces]
  refine fitIn_outermost hplaced fun p hp => ?_
  cases hheader : program.header source options with
  | none => exact Nat.zero_le _
  | some h => exact (placeIn_header hplaced h hheader).2 p hp

/-- The output of a module whose markup is replaced. -/
theorem compile_of_generate {file : String} {rs : List Replacement} {warnings : List Warning}
    {offset : Nat} {draft : Draft}
    (hrs : Code.renderPatches (Bindings.of program options) source
      (program.patches options).value = some rs)
    (hwarnings : (program.patches options).notices.mapM
      (Notice.warning? file (Lines.of source) source) = some warnings)
    (hoffset : program.importOffset source = some offset)
    (hdraft : generate source (program.header source options) rs = some draft) :
    ∃ out, program.compile source file options = some out ∧ out.code = String.ofList draft.code ∧
      out.imports = (Bindings.of program options).pending (program.patches options).needs := by
  unfold Program.compile
  rw [header] at hdraft
  -- with or without a statement to add, the draft is the one that was given
  cases hstatement : (Bindings.of program options).statement? options.packageName
      (program.patches options).needs with
  | none =>
    rw [hstatement] at hdraft
    have hdraft : generate source none rs = some draft := hdraft
    simp only [hrs, hwarnings, hstatement, hdraft, Option.bind_eq_bind, Option.bind_some,
      Option.pure_def]
    exact ⟨_, rfl, rfl, rfl⟩
  | some statement =>
    rw [hstatement, hoffset] at hdraft
    have hdraft : generate source (some ⟨offset, statement.toList⟩) rs = some draft := hdraft
    simp only [hrs, hwarnings, hstatement, hoffset, hdraft, Option.bind_eq_bind, Option.bind_some,
      Option.pure_def]
    exact ⟨_, rfl, rfl, rfl⟩

/-- **The output of a placed module is the text of its signs.** -/
theorem exists_compile (hplaced : program.isPlaced source = true) (file : String)
    (options : Options) :
    ∃ out, program.compile source file options = some out ∧
      out.code.toList = Sign.text (program.signs source options) ∧
      out.imports = (Bindings.of program options).pending (program.patches options).needs := by
  have hrs := Code.renderPatches_of_signs
    (holds_patches (Code.render_eq_signs (Bindings.of program options) source options) hplaced)
  obtain ⟨warnings, hwarnings⟩ := exists_warnings hplaced options file
  obtain ⟨offset, hoffset, -⟩ := exists_importOffset hplaced
  -- the replacements are the pieces without their signs
  have hpieces : (program.patches options).value.map
      (fun p => (⟨p.1, Sign.text (p.2.signs (Bindings.of program options) source)⟩ : Replacement)) =
      (program.pieces source options).map fun p => ⟨p.1, Sign.text p.2⟩ := by
    rw [pieces, Code.signsOfPatches_eq, List.map_map]
    simp [Function.comp_def]
  rw [hpieces] at hrs
  have hfit : Span.FitIn source
      ⟨((program.header source options).map Header.offset).getD 0, byteLength source⟩
      (((program.pieces source options).map fun p =>
        (⟨p.1, Sign.text p.2⟩ : Replacement)).map Replacement.span) := by
    rw [List.map_map]
    exact fitIn_pieces hplaced options
  obtain ⟨draft, -, hdraft, hcode, -⟩ :=
    adds_generate (fun h hh => (placeIn_header hplaced h hh).1) hfit
  obtain ⟨out, hout, hoc, himports⟩ := compile_of_generate hrs hwarnings hoffset hdraft
  refine ⟨out, hout, ?_, himports⟩
  rw [hoc, String.toList_ofList, hcode]
  exact (text_laidOut Prod.fst Prod.snd source _ _).symm

/-- The copied characters of the output are from the source. -/
theorem isFrom_signs (hplaced : program.isPlaced source = true) (options : Options) :
    ∀ s ∈ program.signs source options, s.IsFrom source := by
  have hR := Sign.additive_isFrom source
  refine hR.laidOut fun p hp => ?_
  rw [pieces_eq] at hp
  obtain ⟨piece, hmem, rfl⟩ := List.mem_map.1 hp
  refine hR.enclosed piece.1 (holds_outermost (Code.hereditaryIn_signs hR ?_) hplaced piece hmem)
  intro h opening _ s hs
  rcases List.mem_cons.1 hs with rfl | hs
  · trivial
  · exact hR.written _ s hs

/-- The helpers whose names stand in the output are those that are noted. -/
theorem helpers_signs (hplaced : program.isPlaced source = true) (options : Options) :
    (Sign.helpers (program.signs source options)).Perm (program.patches options).needs := by
  obtain ⟨lead, qs, cursor, text, body, hsigns, hperm, hexchanges, hlead⟩ :=
    exists_laidOut Prod.snd (fun h hh => (placeIn_header hplaced h hh).1)
      (fitIn_pieces hplaced options)
  have hnone : Sign.helpers lead = [] := by
    -- nothing before the body names a helper: it is copied, or the text of the import
    rcases hlead with rfl | ⟨h, -, before, rfl⟩
    · rfl
    · simp
  have hbody : (Sign.helpers body).Perm
      (Code.referencesOfPatches (program.patches options).value) := by
    rw [Sign.helpers_exchanges hexchanges, Code.referencesOfPatches_eq]
    refine (hperm.flatMap_right _).trans ?_
    rw [pieces, Code.flatMap_helpers_signsOfPatches]
    exact List.Perm.flatMap_left _
      (holds_patches (Code.helpers_signs (Bindings.of program options) source options) hplaced)
  rw [signs, hsigns, Sign.helpers_append, hnone, List.nil_append]
  exact hbody.trans (uses_patches options program).symm

end Program

end JsxTemplate
