import JsxTemplate.Proofs.Copies
import JsxTemplate.Proofs.Literals

namespace JsxTemplate

/-!
# Compiling what was compiled

Nothing of the markup itself is in the output: each copied character stands outside of all markup,
or in an expression that markup holds. So the output is code and text of the compiler, and compiling
it once more changes nothing unless it is no module any more, or reads as one with markup. Such
markup could only start at an angle bracket that is code of the source, or inside of a literal that
the compiler wrote.

* `Expr.IsCode`, `Program.IsCode` — the character at an offset is code, and no part of a tag or its
  text.
* `Program.isCode_of_copied` — all copied characters of an output are code.
* `Program.outermost_eq_nil_of_compile` — a module that is returned as it is has no markup.
* `Program.exists_angle` — the angle brackets of an output.
* `transform_output_iff` — what an output is made of, and what becomes of it if it is compiled once
  more.
-/

open Text Emit
open Sign (written enclosed named)

/-! ### Code and markup -/

/-- The character at an offset is code of the expression: it stands outside of its markup, or is
    code of an expression that its markup holds and keeps. -/
inductive Expr.IsCode (offset : Nat) : Expr → Prop where
  | outside {e : Expr} (hspan : e.span.covers offset = true)
      (h : ∀ p ∈ e.outermost, p.1.covers offset = false) : Expr.IsCode offset e
  | inside {e inner : Expr} {piece : Span × Markup} (hpiece : piece ∈ e.outermost)
      (hinner : (inner, true) ∈ piece.2.expressions true) (h : Expr.IsCode offset inner) :
    Expr.IsCode offset e

/-- The character at an offset is code of the module. -/
inductive Program.IsCode (program : Program) (offset : Nat) : Prop where
  | outside (h : ∀ p ∈ program.outermost, p.1.covers offset = false)
  | inside {inner : Expr} {piece : Span × Markup} (hpiece : piece ∈ program.outermost)
      (hinner : (inner, true) ∈ piece.2.expressions true) (h : inner.IsCode offset)

/-- The offsets of all copied characters satisfy a property. -/
def Sign.CopiedIn (Q : Nat → Prop) (signs : List Sign) : Prop :=
  ∀ offset c, Sign.copied offset c ∈ signs → Q offset

/-- No new character is a copied one. -/
theorem Sign.copiedIn_written (Q : Nat → Prop) (cs : List Char) : CopiedIn Q (written cs) := by
  intro offset c hmem
  obtain ⟨d, -, hd⟩ := List.mem_map.1 hmem
  cases hd

/-- Of two rows of signs, each may be looked at alone. -/
theorem Sign.CopiedIn.append {Q : Nat → Prop} {as bs : List Sign} (has : CopiedIn Q as)
    (hbs : CopiedIn Q bs) : CopiedIn Q (as ++ bs) :=
  fun offset c hmem => (List.mem_append.1 hmem).elim (has offset c) (hbs offset c)

/-- What is copied in place of a span is copied in its code. -/
theorem Sign.copied_mem_enclosed {offset : Nat} {c : Char} {span : Span} {code : List Sign}
    (h : copied offset c ∈ enclosed span code) : copied offset c ∈ code := by
  simpa [enclosed] using h

namespace Code

variable {bindings : Bindings} {source : List Char} {options : Options}

/-- A property of copied offsets goes up through code, apart from copied expressions. -/
theorem hereditary_copiedIn (Q : Nat → Prop) :
    Hereditary fun code => Sign.CopiedIn Q (code.signs bindings source) := by
  refine hereditary_signs Sign.CopiedIn.append (Sign.copiedIn_written Q) fun h opening _ => ?_
  intro offset c hmem
  rcases List.mem_cons.1 hmem with hc | hmem
  · cases hc
  · exact Sign.copiedIn_written Q _ offset c hmem

/-- The character at an offset is code of an expression that code copies. -/
def CopiesAt (bindings : Bindings) (code : Code) (offset : Nat) : Prop :=
  ∃ e patches, copy e patches ∈ code.copies bindings ∧ e.IsCode offset

/-- What a part copies, the whole copies. -/
theorem copiedIn_of_part {part whole : Code}
    (hsub : ∀ c ∈ part.copies bindings, c ∈ whole.copies bindings)
    (h : Sign.CopiedIn (part.CopiesAt bindings) (part.signs bindings source)) :
    Sign.CopiedIn (whole.CopiesAt bindings) (part.signs bindings source) := by
  intro offset c hmem
  obtain ⟨e, patches, hcopy, hcode⟩ := h offset c hmem
  exact ⟨e, patches, hsub _ hcopy, hcode⟩

/-- The markup that a patch is made of holds the expressions that its code copies. -/
theorem exists_of_copiesAt_value {node : Markup} {offset : Nat}
    (h : CopiesAt bindings (node.value options).value offset) :
    ∃ inner, (inner, true) ∈ node.expressions true ∧ inner.IsCode offset := by
  obtain ⟨e, patches, hcopy, hcode⟩ := h
  rw [node.copies_value bindings options, copied] at hcopy
  obtain ⟨⟨inner, isKept⟩, hmem, heq⟩ := List.mem_map.1 hcopy
  obtain ⟨hmem, hkept⟩ := List.mem_filter.1 hmem
  obtain ⟨rfl, -⟩ := Code.copy.inj heq
  obtain rfl : isKept = true := hkept
  exact ⟨_, hmem, hcode⟩

/-- **Copied characters are code.** Each is code of an expression that the code copies. -/
theorem copiesAt_signs (bindings : Bindings) (source : List Char) (options : Options) :
    HereditaryIn source options fun code =>
      Sign.CopiedIn (code.CopiesAt bindings) (code.signs bindings source) where
  string text := (hereditary_copiedIn _).string text
  flag := (hereditary_copiedIn _).flag
  name tag _ := (hereditary_copiedIn _).name tag trivial
  paren h := (hereditary_copiedIn _).paren (copiedIn_of_part (by simp) h)
  spread h := (hereditary_copiedIn _).spread (copiedIn_of_part (by simp) h)
  array h := (hereditary_copiedIn _).array fun c hc =>
    copiedIn_of_part (fun k hk => by simpa using ⟨c, hc, hk⟩) (h c hc)
  object h := (hereditary_copiedIn _).object fun e he =>
    copiedIn_of_part (fun k hk => by simpa using ⟨e, he, hk⟩) (h e he)
  call h := (hereditary_copiedIn _).call fun c hc =>
    copiedIn_of_part (fun k hk => by simpa using ⟨c, hc, hk⟩) (h c hc)
  template h := (hereditary_copiedIn _).template fun hole hmem =>
    copiedIn_of_part (fun k hk => by
      rw [copies_template]
      exact List.mem_flatMap.2 ⟨hole.2, List.mem_map_of_mem hmem, hk⟩) (h hole hmem)
  copy := by
    intro e he h offset c hmem
    refine ⟨e, _, by rw [copies_copy]; exact List.mem_singleton.2 rfl, ?_⟩
    obtain ⟨before, text, after, hsource, hbefore, htext, hslice⟩ := Expr.exists_slice he
    rw [signs, hslice, Option.getD_some, signsOfPatches_eq] at hmem
    rcases mem_exchangedBy hmem with ⟨p, hp, hin⟩ | ⟨as, d, bs, rfl, hkeep, hclear⟩
    · -- the character is in the code in place of markup
      obtain ⟨patch, hpatch, rfl⟩ := List.mem_map.1 hp
      have hat := h patch hpatch offset c (Sign.copied_mem_enclosed hin)
      rw [Expr.patches_eq, value_mapM] at hpatch
      obtain ⟨piece, hpiece, rfl⟩ := List.mem_map.1 hpatch
      obtain ⟨inner, hinner, hcode⟩ := exists_of_copiesAt_value hat
      exact .inside hpiece hinner hcode
    · -- the character is between the spans of markup
      obtain ⟨rfl, rfl⟩ := Sign.copied.inj hkeep
      have hsize := c.utf8Size_pos
      rw [byteLength_append, byteLength_cons] at htext
      refine .outside ?_ fun piece hpiece => ?_
      · simp only [Span.covers, Bool.and_eq_true, decide_eq_true_eq]
        omega
      · have hspan : piece.1 ∈ (e.patches options).value.map Prod.fst := by
          rw [e.map_fst_patches]
          exact List.mem_map_of_mem hpiece
        obtain ⟨patch, hpatch, hfst⟩ := List.mem_map.1 hspan
        rw [← hfst]
        exact hclear _ (List.mem_map_of_mem hpatch)

end Code

namespace Program

variable {program : Program} {source : List Char} {options : Options}

/-- The import comes before all markup, so what is copied before it is code. -/
theorem isCode_of_lt_header {h : Header} (hplaced : program.isPlaced source = true)
    (hh : h ∈ program.header source options) {offset : Nat} (hlt : offset < h.offset) :
    program.IsCode offset := by
  refine .outside fun p hp => ?_
  have hle := (placeIn_header hplaced h hh).2 p hp
  simp only [Span.covers, Bool.and_eq_false_iff, decide_eq_false_iff_not]
  omega

/-- A character that is copied after the place of the import is code. -/
theorem isCode_of_mem_exchangedBy (hplaced : program.isPlaced source = true) {base offset : Nat}
    {cs : List Char} {c : Char}
    (hmem : .copied offset c ∈
      exchangedBy Prod.fst Prod.snd .copied (program.pieces source options) base cs) :
    program.IsCode offset := by
  rcases mem_exchangedBy hmem with ⟨p, hp, hin⟩ | ⟨as, d, bs, -, hkeep, hclear⟩
  · -- the character is in the code in place of markup
    rw [pieces_eq] at hp
    obtain ⟨piece, hpiece, rfl⟩ := List.mem_map.1 hp
    have hat := holds_outermost (Code.copiesAt_signs (Bindings.of program options) source options)
      hplaced piece hpiece offset c (Sign.copied_mem_enclosed hin)
    obtain ⟨inner, hinner, hcode⟩ := Code.exists_of_copiesAt_value hat
    exact .inside hpiece hinner hcode
  · -- the character is between the spans of markup
    obtain ⟨rfl, rfl⟩ := Sign.copied.inj hkeep
    refine .outside fun piece hpiece => ?_
    rw [pieces_eq, List.forall_mem_map] at hclear
    exact hclear piece hpiece

/-- **Nothing of markup itself is in the output.** -/
theorem isCode_of_copied (hplaced : program.isPlaced source = true) (options : Options) :
    Sign.CopiedIn program.IsCode (program.signs source options) := by
  intro offset c hmem
  rw [signs] at hmem
  cases hheader : program.header source options with
  | none =>
    rw [hheader] at hmem
    exact isCode_of_mem_exchangedBy hplaced hmem
  | some h =>
    obtain ⟨before, after, hsource, hlen⟩ := (placeIn_header hplaced h hheader).1
    rw [Nat.zero_add] at hlen
    have hcut : cut source h.offset = some (before, after) := cut_eq_some_iff.2 ⟨hsource, hlen⟩
    simp only [hheader, laidOut, hcut, List.mem_append] at hmem
    -- before the import, in it, and after it
    rcases hmem with hbefore | hnew | hafter
    · have hsplit : before = [] ++ (before ++ []) := by simp
      obtain ⟨as, bs, rfl, hoffset⟩ :=
        (Sign.additive_isFrom before).keptBy hsplit rfl (.copied offset c) hbefore
      have hsize := c.utf8Size_pos
      rw [byteLength_append, byteLength_cons] at hlen
      exact isCode_of_lt_header hplaced hheader (by omega)
    · exact Sign.copiedIn_written _ _ offset c hnew
    · exact isCode_of_mem_exchangedBy hplaced hafter

end Program

/-! ### Markup opens with an angle bracket -/

/-- The code of a tag or a fragment is a template or an array. -/
theorem Markup.value_of_isTag {node : Markup} (h : node.isTag = true) (options : Options) :
    (∃ content, (node.value options).value = .template content) ∨
      ∃ items, (node.value options).value = .array items := by
  cases node with
  | element span tag types attributes children => exact .inl ⟨_, rfl⟩
  | component span tag types attributes children => exact .inl ⟨_, rfl⟩
  | fragment children =>
    rw [Markup.value, value_bind]
    -- only a fragment of several values is no template
    generalize (Markup.leavesOf options children).value = leaves
    rcases leaves with _ | ⟨leaf, _ | ⟨second, rest⟩⟩
    · exact .inl ⟨_, rfl⟩
    · exact .inl ⟨_, rfl⟩
    · exact .inr ⟨_, rfl⟩
  | text raw => cases h
  | hole span value => cases h

/-- Such code does not open with an angle bracket itself. -/
theorem Code.exists_text_of_isTag {bindings : Bindings} {node : Markup} (h : node.isTag = true)
    (source : List Char) (options : Options)
    (hname : (bindings.nameOf .html).toList.head? ≠ some '<') :
    ∃ c cs, Sign.text ((node.value options).value.signs bindings source) = c :: cs ∧ c ≠ '<' := by
  rcases Markup.value_of_isTag h options with ⟨⟨holes, tail⟩, hvalue⟩ | ⟨items, hvalue⟩
  · rw [hvalue, Code.signs, named]
    -- a name of no characters leaves the quote of the template
    cases hchars : (bindings.nameOf .html).toList with
    | nil => exact ⟨'`', _, rfl, by decide⟩
    | cons c cs =>
      rw [hchars] at hname
      exact ⟨c, _, rfl, fun hc => hname (congrArg some hc)⟩
  · rw [hvalue, Code.signs]
    exact ⟨'[', _, rfl, by decide⟩

/-- If code that does not open with an angle bracket is put in place of spans that do, the text
    changes. -/
theorem Exchanges.eq_nil_of_opensTag {pieces : List (Span × List Sign)} {source : List Char}
    {body : List Sign} (h : Exchanges Prod.fst Prod.snd .copied pieces 0 source body)
    (hopen : ∀ p ∈ pieces, p.1.opensTag source = true)
    (hcode : ∀ p ∈ pieces, ∃ c cs, Sign.text p.2 = c :: cs ∧ c ≠ '<')
    (htext : Sign.text body = source) : pieces = [] := by
  cases h with
  | nil => rfl
  | @cons p rest _ gap old tail result hgap hold hrest =>
    obtain ⟨c, cs, hpiece, hc⟩ := hcode p (by simp)
    obtain ⟨as, bs, hsource, has⟩ := Span.exists_of_opensTag (hopen p (by simp)) (by omega)
    -- the first span starts right after the gap
    obtain rfl : as = [] := byteLength_eq_zero.1 (by omega)
    rw [Sign.text_append, Sign.text_append, Sign.text_keptBy, hpiece, hsource,
      List.append_cancel_left_eq] at htext
    exact absurd (List.cons.inj htext).1 hc

namespace Program

variable {program : Program} {source : List Char} {options : Options}

/-- Without a helper to import there is no header. -/
theorem header_eq_none
    (h : (Bindings.of program options).pending (program.patches options).needs = []) :
    program.header source options = none := by
  rw [header, Bindings.statement?_eq_none_iff.2 (Bindings.pending_eq_nil_iff.1 h)]
  rfl

/-- **Markup is never returned as it is.** A module that is compiled to itself without an import has
    no markup. -/
theorem outermost_eq_nil_of_compile (hread : program.IsRead source) {file : String}
    {out : Compiled} (hout : program.compile source file options = some out)
    (hcode : out.code.toList = source) (himports : out.imports = []) : program.outermost = [] := by
  obtain ⟨out', hout', htext, himports'⟩ := exists_compile hread.placed file options
  obtain rfl : out = out' := Option.some.inj (hout.symm.trans hout')
  have hheader : program.header source options = none :=
    header_eq_none (himports'.symm.trans himports)
  have hfit := fitIn_pieces hread.placed options
  rw [signs, hheader, hcode] at htext
  rw [hheader] at hfit
  have hsplit : source = [] ++ (source ++ []) := by simp
  obtain ⟨qs, hperm, hexchanges⟩ := exists_exchanges Prod.snd Sign.copied hfit hsplit rfl
    (Nat.zero_add _)
  -- the name of the tag of templates has characters of names only
  have hname : ((Bindings.of program options).nameOf .html).toList.head? ≠ some '<' := by
    intro hhead
    have hpart := hread.forall_isIdentifierPart_nameOf options .html '<' (List.mem_of_head? hhead)
    exact absurd hpart (by decide)
  rw [pieces_eq] at hperm
  have hnil : qs = [] := by
    refine hexchanges.eq_nil_of_opensTag (fun p hp => ?_) (fun p hp => ?_) htext.symm
    · obtain ⟨piece, hpiece, rfl⟩ := List.mem_map.1 (hperm.mem_iff.1 hp)
      exact (hread.opens piece hpiece).1
    · obtain ⟨piece, hpiece, rfl⟩ := List.mem_map.1 (hperm.mem_iff.1 hp)
      rw [Sign.text_enclosed]
      exact Code.exists_text_of_isTag (hread.opens piece hpiece).2 _ _ hname
  rw [hnil, List.nil_perm, List.map_eq_nil_iff] at hperm
  exact hperm

end Program

/-! ### Angle brackets of an output -/

/-- A character of a text is that of a sign. -/
theorem Sign.exists_of_text_eq {signs : List Sign} {before after : List Char} {c : Char}
    (h : Sign.text signs = before ++ c :: after) :
    ∃ as s bs, signs = as ++ s :: bs ∧ Sign.text as = before ∧ s.char? = some c := by
  obtain ⟨front, back, rfl, hfront, hback⟩ := List.filterMap_eq_append_iff.1 h
  -- signs without a character may stand before the one that is looked for
  obtain ⟨silent, s, bs, rfl, hsilent, hs, -⟩ := List.filterMap_eq_cons_iff.1 hback
  refine ⟨front ++ silent, s, bs, by rw [List.append_assoc], ?_, hs⟩
  have hnone : Sign.text silent = [] := List.filterMap_eq_nil_iff.2 hsilent
  rw [Sign.text_append, hnone, List.append_nil]
  exact hfront

/-- The sign is an angle bracket that is code of the source, and stands in code of the output, or
    one that is new, and stands in a string or in the text of a template. -/
inductive Sign.IsAngle (program : Program) (source : List Char) (scan : Scan) : Sign → Prop where
  | copied {before after : List Char} (hsource : source = before ++ '<' :: after)
      (hcode : program.IsCode (byteLength before)) (hscan : scan.isCode = true) :
    IsAngle program source scan (.copied (byteLength before) '<')
  | made (hscan : scan.isCode = false) : IsAngle program source scan (.made '<')

/-- **The angle brackets of an output** are code of the source, or stand in literals of new text. -/
theorem Program.exists_angle {program : Program} {source : List Char}
    (hread : program.IsRead source) {options : Options} {before after : List Char}
    (h : Sign.text (program.signs source options) = before ++ '<' :: after) :
    ∃ as s bs scan, program.signs source options = as ++ s :: bs ∧ Sign.text as = before ∧
      Scan.run .start as = some scan ∧ s.IsAngle program source scan := by
  obtain ⟨as, s, bs, hsigns, has, hs⟩ := Sign.exists_of_text_eq h
  have hcloses := Program.closes_signs hread options
  rw [hsigns] at hcloses
  obtain ⟨scan, hscan, hcopied, hmade⟩ := hcloses.exists_run
  have hmem : s ∈ program.signs source options := by
    rw [hsigns]
    simp
  refine ⟨as, s, bs, scan, hsigns, has, hscan, ?_⟩
  -- only copied and made signs have a character
  cases s with
  | copied offset c =>
    obtain rfl := Option.some.inj hs
    obtain ⟨front, back, hsource, rfl⟩ := Program.isFrom_signs hread.placed options _ hmem
    exact .copied hsource (Program.isCode_of_copied hread.placed options _ _ hmem)
      (hcopied _ _ rfl)
  | made c =>
    obtain rfl := Option.some.inj hs
    exact .made (hmade rfl)
  | helper h => cases hs
  | start span => cases hs
  | stop span => cases hs

/-! ### Compiling an output -/

/-- The text is compiled to itself, with nothing to import and no warning. -/
def IsCompiled (file : String) (options : Options) (code : String) : Prop :=
  ∃ out, transform code file options = .ok out ∧ out.code = code ∧ out.imports = [] ∧
    out.warnings = []

/-- Only a text that is not read is refused as such. -/
theorem transform_eq_unreadable_iff {code file : String} {options : Options} :
    transform code file options = .error (.unreadable file) ↔
      Program.parse? (Grammar.Dialect.ofPath file) code.toList = none := by
  unfold transform
  cases Program.parse? (Grammar.Dialect.ofPath file) code.toList with
  | none => exact iff_of_true rfl rfl
  | some program =>
    -- a module that was read never fails as an unreadable one
    refine iff_of_false (fun h => ?_) nofun
    dsimp only at h
    cases hout : program.compile code.toList file options with
    | none =>
      rw [hout] at h
      cases h
    | some out =>
      rw [hout] at h
      cases h

/-- A module without markup is compiled to itself, and no other one is. -/
theorem isCompiled_iff {code file : String} {options : Options} :
    IsCompiled file options code ↔
      ∃ program, Program.parse? (Grammar.Dialect.ofPath file) code.toList = some program ∧
        program.outermost = [] := by
  constructor
  · rintro ⟨out, hout, hcode, himports, -⟩
    cases hparse : Program.parse? (Grammar.Dialect.ofPath file) code.toList with
    | none =>
      rw [transform_eq_unreadable_iff.2 hparse] at hout
      cases hout
    | some program =>
      -- what compiles is the module that was read, and its code is the text it was read from
      have hread := Program.isRead_of_parse? hparse
      obtain ⟨out', hout', -⟩ := Program.exists_compile hread.placed file options
      rw [transform_eq_ok hparse hout', Except.ok.injEq] at hout
      subst hout
      exact ⟨program, rfl,
        Program.outermost_eq_nil_of_compile hread hout' (by rw [hcode]) himports⟩
  · rintro ⟨program, hparse, hnil⟩
    obtain ⟨out, hout, hcode, hrest⟩ :=
      Program.compile_of_outermost_nil hnil code.toList file options
    exact ⟨out, transform_eq_ok hparse hout, String.toList_inj.1 hcode, hrest⟩

/-- **What becomes of an output.** A module that is read is compiled. Each copied character of its
    output is code and the character of the source at its offset; no part of markup is copied. New
    text closes the brackets, strings and templates that it opens; copied characters stand outside
    of its strings and templates, and new angle brackets inside.

    The output is refused by the compiler exactly if it is not read, and it is compiled to itself,
    without imports and warnings, exactly if it is read as a module without markup. It is so if the
    source has no markup. If it is read with markup, each piece of that starts at an angle bracket
    that is code of the source, or at one in a string or in the text of a template that is new. -/
theorem transform_output_iff (program : Program) (source file : String) (options : Options)
    (hparse : Program.parse? (Grammar.Dialect.ofPath file) source.toList = some program) :
    ∃ out, transform source file options = .ok out ∧
      out.code.toList = Sign.text (program.signs source.toList options) ∧
      (∀ offset c, .copied offset c ∈ program.signs source.toList options →
        program.IsCode offset ∧
        ∃ before after, source.toList = before ++ c :: after ∧ byteLength before = offset) ∧
      Scan.run .start (program.signs source.toList options) = some .start ∧
      (∀ as s bs, program.signs source.toList options = as ++ s :: bs →
        ∃ scan, Scan.run .start as = some scan ∧
          (∀ offset c, s = .copied offset c → scan.isCode = true) ∧
          (s = .made '<' → scan.isCode = false)) ∧
      (∀ later : Options,
        (transform out.code file later = .error (.unreadable file) ↔
          Program.parse? (Grammar.Dialect.ofPath file) out.code.toList = none) ∧
        (IsCompiled file later out.code ↔
          ∃ again, Program.parse? (Grammar.Dialect.ofPath file) out.code.toList = some again ∧
            again.outermost = []) ∧
        (program.outermost = [] → IsCompiled file later out.code)) ∧
      ∀ again, Program.parse? (Grammar.Dialect.ofPath file) out.code.toList = some again →
        ∀ p ∈ again.outermost, ∃ as s bs scan,
          program.signs source.toList options = as ++ s :: bs ∧
          byteLength (Sign.text as) = p.1.start ∧ Scan.run .start as = some scan ∧
          s.IsAngle program source.toList scan := by
  have hread := Program.isRead_of_parse? hparse
  obtain ⟨out, hout, hcode, -⟩ := Program.exists_compile hread.placed file options
  have hcloses := Program.closes_signs hread options
  refine ⟨out, transform_eq_ok hparse hout, hcode, fun offset c hmem => ?_, hcloses none [],
    fun as s bs hsigns => ?_, fun later => ?_, fun again hagain p hp => ?_⟩
  · exact ⟨Program.isCode_of_copied hread.placed options offset c hmem,
      Program.isFrom_signs hread.placed options _ hmem⟩
  · rw [hsigns] at hcloses
    exact hcloses.exists_run
  · refine ⟨transform_eq_unreadable_iff, isCompiled_iff, fun hnil => ?_⟩
    obtain ⟨out', hout', hsame, -⟩ :=
      Program.compile_of_outermost_nil hnil source.toList file options
    obtain rfl : out = out' := Option.some.inj (hout.symm.trans hout')
    refine isCompiled_iff.2 ⟨program, ?_, hnil⟩
    rw [hsame]
    exact hparse
  · -- what is read as markup opens with an angle bracket
    have hopens : p.1.opensTag ([] ++ out.code.toList) = true :=
      ((Program.isRead_of_parse? hagain).opens p hp).1
    obtain ⟨before, after, htext, hstart⟩ := Span.exists_of_opensTag hopens (Nat.zero_le _)
    obtain ⟨as, s, bs, scan, hsigns, rfl, hscan, hangle⟩ :=
      Program.exists_angle hread (hcode.symm.trans htext)
    exact ⟨as, s, bs, scan, hsigns, (Nat.zero_add _).symm.trans hstart, hscan, hangle⟩

/-- An output with a getter and a template in it, which is compiled to itself. -/
theorem transform_output_iff_getter :
    ∃ (source : String) (program : Program) (out : Compiled),
      source = "x = <A b=" ++ braced "c()" ++ "><p>" ++ braced "d" ++ "</p></A>;" ∧
      Program.parse? (Grammar.Dialect.ofPath "a.jsx") source.toList = some program ∧
      Scan.run .start (program.signs source.toList {}) = some .start ∧
      transform source "a.jsx" {} = .ok out ∧
      out.code = "import " ++ braced " html, component " ++ " from \"kaori.js\";\nx = html`$" ++
          braced ("component(A, " ++ braced (" get b() " ++ braced " return c(); " ++
          ", children: html`<p>$" ++ braced "d" ++ "</p>` ") ++ ")") ++ "`;" ∧
      IsCompiled "a.jsx" {} out.code := by
  obtain ⟨source, hsource⟩ : ∃ s, s = "x = <A b=" ++ braced "c()" ++ "><p>" ++ braced "d" ++
      "</p></A>;" := ⟨_, rfl⟩
  have hread : (Program.parse? (Grammar.Dialect.ofPath "a.jsx") source.toList).isSome = true := by
    rw [hsource]
    decide +kernel
  obtain ⟨program, hparse⟩ := Option.isSome_iff_exists.1 hread
  obtain ⟨out, hout, -, -, hnew, -, hlater, -⟩ :=
    transform_output_iff program source "a.jsx" {} hparse
  obtain ⟨code, hcode⟩ : ∃ s, s = "import " ++ braced " html, component " ++
      " from \"kaori.js\";\nx = html`$" ++ braced ("component(A, " ++ braced (" get b() " ++
      braced " return c(); " ++ ", children: html`<p>$" ++ braced "d" ++ "</p>` ") ++ ")") ++
      "`;" := ⟨_, rfl⟩
  have hgiven : (transform source "a.jsx" {}).toOption.map Compiled.code = some code := by
    rw [hsource, hcode]
    decide +kernel
  rw [hout] at hgiven
  obtain rfl : out.code = code := Option.some.inj hgiven
  -- the output is read again, without markup
  have hagain : (Program.parse? (Grammar.Dialect.ofPath "a.jsx") out.code.toList).any (fun again =>
      again.outermost.isEmpty) = true := by
    rw [hcode]
    decide +kernel
  obtain ⟨again, hparse', hnil⟩ := (Option.any_eq_true _ _).1 hagain
  exact ⟨source, program, out, hsource, hparse, hnew, hout, hcode,
    (hlater {}).2.1.2 ⟨again, hparse', List.isEmpty_iff.1 hnil⟩⟩

/-- An expression that waits is moved into a getter, and the output is not read any more. -/
theorem transform_await_unreadable :
    ∃ (source : String) (out : Compiled),
      source = "x = <A b=" ++ braced "await c()" ++ " />;" ∧
      transform source "a.jsx" {} = .ok out ∧
      out.code = "import " ++ braced " html, component " ++ " from \"kaori.js\";\nx = html`$" ++
          braced ("component(A, " ++ braced (" get b() " ++ braced " return await c(); " ++ " ") ++
          ")") ++ "`;" ∧
      transform out.code "a.jsx" {} = .error (.unreadable "a.jsx") ∧
      ¬IsCompiled "a.jsx" {} out.code := by
  obtain ⟨source, hsource⟩ : ∃ s, s = "x = <A b=" ++ braced "await c()" ++ " />;" := ⟨_, rfl⟩
  have hcode : (transform source "a.jsx" {}).toOption.map Compiled.code =
      some ("import " ++ braced " html, component " ++ " from \"kaori.js\";\nx = html`$" ++
          braced ("component(A, " ++ braced (" get b() " ++ braced " return await c(); " ++ " ") ++
          ")") ++ "`;") := by
    rw [hsource]
    decide +kernel
  have hnone : Program.parse? (Grammar.Dialect.ofPath "a.jsx")
      ("import " ++ braced " html, component " ++ " from \"kaori.js\";\nx = html`$" ++
          braced ("component(A, " ++ braced (" get b() " ++ braced " return await c(); " ++ " ") ++
          ")") ++ "`;").toList =
      none := by
    decide +kernel
  cases hout : transform source "a.jsx" {} with
  | error e =>
    rw [hout] at hcode
    cases hcode
  | ok out =>
    rw [hout] at hcode
    have hcode := Option.some.inj hcode
    rw [← hcode] at hnone
    have herror : transform out.code "a.jsx" {} = .error (.unreadable "a.jsx") :=
      transform_eq_unreadable_iff.2 hnone
    refine ⟨source, out, hsource, hout, hcode, herror, ?_⟩
    rintro ⟨out', hout', -⟩
    rw [herror] at hout'
    cases hout'

end JsxTemplate
