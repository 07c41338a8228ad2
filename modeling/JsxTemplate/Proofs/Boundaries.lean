import JsxTemplate.Proofs.CodeSigns
import JsxTemplate.Proofs.Parsed
import Mathlib.Data.List.Induction

namespace JsxTemplate

/-!
# What stands before the code of markup

The code in place of markup mostly starts with the name of a helper. If a character of a word stands
right before it, the two become one word. New text never ends so in front of such code, but the
source may: markup needs no blank after a keyword.

* `Sign.Edge` — what stands before a sign; `Sign.edge` computes it.
* `Sign.Bounded` — before the code of markup there is no new character of a word, and a copied
  character only if the source has it right before the markup.
* `Code.bounded_signs` — this for compiled code. `Exchanges.bounded` is the step for a copied
  expression, and for a module.
* `Program.fuses_iff` — the code of markup becomes one word with what stands before it exactly if
  both sides are parts of words and the side before it is copied from the source.
-/

open Text Emit
open Sign (written enclosed named separated)

/-! ### Edges -/

namespace Sign

/-- What stands before a sign. -/
inductive Edge where
  /-- No new character of a word. -/
  | clear
  /-- A new character of a word. -/
  | word
  /-- A copied character, after which the source goes on at an offset. -/
  | kept (next : Nat)
  deriving DecidableEq

/-- What stands before the next sign if a sign without a character is between. -/
def Edge.past : Edge → Edge
  | kept _ => clear
  | clear => clear
  | word => word

/-- What stands after a sign. -/
def Edge.step (e : Edge) : Sign → Edge
  | copied offset c => .kept (offset + c.utf8Size)
  | made c => if isIdentifierPart c then .word else .clear
  | _ => e.past

/-- What stands after several signs. -/
def edge (e : Edge) (signs : List Sign) : Edge := signs.foldl Edge.step e

/-- What may stand before the code in place of a span: a copied character only if the span starts
    right after it. -/
def Edge.Fits (span : Span) : Edge → Prop
  | clear => True
  | word => False
  | kept next => next = span.start

/-- Before each start of code in place of a span stands what may stand there. -/
def Bounded : Edge → List Sign → Prop
  | _, [] => True
  | e, s :: rest => (∀ span, s = start span → e.Fits span) ∧ Bounded (e.step s) rest

variable {e : Edge} {as bs : List Sign} {span : Span}

/-- The edge after two rows of signs is that after the second, from where the first one leads. -/
theorem edge_append (e : Edge) (as bs : List Sign) : edge e (as ++ bs) = edge (edge e as) bs :=
  List.foldl_append

/-- Boundaries are kept in two rows of signs if they are in each, from where it starts. -/
theorem bounded_append : Bounded e (as ++ bs) ↔ Bounded e as ∧ Bounded (edge e as) bs := by
  induction as generalizing e with
  | nil => exact (and_iff_right trivial).symm
  | cons s as ih =>
    rw [List.cons_append, Bounded, Bounded, ih, and_assoc]
    rfl

/-- What stands before one of the starts may stand there. -/
theorem Bounded.fits (h : Bounded e (as ++ start span :: bs)) : (edge e as).Fits span :=
  (bounded_append.1 h).2.1 span rfl

/-- A clear edge is no word. -/
theorem Edge.clear_ne_word : Edge.clear ≠ .word := by decide

/-- After a place where code may start, the edge is clear. -/
theorem Edge.past_of_fits (h : e.Fits span) : e.past = .clear := by
  cases e with
  | clear => rfl
  | word => exact h.elim
  | kept next => rfl

/-- So it is after anything but a word. -/
theorem Edge.past_of_ne_word (h : e ≠ .word) : e.past = .clear := by
  cases e with
  | clear => rfl
  | word => exact absurd rfl h
  | kept next => rfl

/-! ### Edges of characters -/

/-- New characters keep the boundaries: no code starts among them. -/
theorem bounded_written (e : Edge) (cs : List Char) : Bounded e (written cs) := by
  induction cs generalizing e with
  | nil => trivial
  | cons c cs ih => exact ⟨nofun, ih _⟩

/-- New text that does not end with a character of a word. -/
theorem edge_written (e : Edge) (cs : List Char) {c : Char} (hc : isIdentifierPart c = false) :
    edge e (written (cs ++ [c])) = .clear := by
  rw [written, List.map_append, edge_append]
  exact if_neg (by rw [hc]; decide)

/-- So do copied ones. -/
theorem bounded_keptBy (e : Edge) (base : Nat) (cs : List Char) :
    Bounded e (keptBy copied base cs) := by
  induction cs generalizing e base with
  | nil => trivial
  | cons c cs ih => exact ⟨nofun, ih _ _⟩

/-- After copied characters, the edge tells where they end in the source. -/
theorem edge_keptBy (e : Edge) (base : Nat) (cs : List Char) :
    edge e (keptBy copied base cs) = if cs = [] then e else .kept (base + byteLength cs) := by
  induction cs generalizing e base with
  | nil => rfl
  | cons c cs ih =>
    have hstep : edge e (keptBy copied base (c :: cs)) =
        edge (.kept (base + c.utf8Size)) (keptBy copied (base + c.utf8Size) cs) := rfl
    rw [hstep, ih, if_neg (List.cons_ne_nil c cs), byteLength_cons]
    split
    next hnil => rw [hnil, byteLength_nil, Nat.add_zero]
    next => rw [Nat.add_assoc]

/-- After a new character, signs without characters change nothing. -/
theorem edge_of_text_eq_nil {c : Char} (h : text bs = []) :
    edge e (as ++ made c :: bs) = if isIdentifierPart c then .word else .clear := by
  rw [edge_append]
  show edge (if isIdentifierPart c then .word else .clear) bs = _
  -- marks of spans and helpers are in no text, and leave every edge but a kept one alone
  have hpast : ∀ f : Edge, f.past = f → edge f bs = f := by
    intro f hf
    induction bs with
    | nil => rfl
    | cons s bs ih =>
      have hstep : edge f (s :: bs) = edge (f.step s) bs := rfl
      cases s with
      | copied offset c => cases h
      | made c => cases h
      | helper k => rw [hstep]; exact (congrArg (edge · bs) hf).trans (ih h)
      | start t => rw [hstep]; exact (congrArg (edge · bs) hf).trans (ih h)
      | stop t => rw [hstep]; exact (congrArg (edge · bs) hf).trans (ih h)
  split <;> exact hpast _ rfl

/-! ### Edges of code -/

/-- Code in place of a span, after what may stand there. -/
theorem bounded_enclosed {code : List Sign} (hfits : e.Fits span) (hcode : Bounded .clear code)
    (hedge : edge .clear code ≠ .word) :
    Bounded e (enclosed span code) ∧ edge e (enclosed span code) = .clear := by
  -- the start mark clears the edge, so what is inside is asked from a clear one on
  have hstart : e.step (start span) = .clear := Edge.past_of_fits hfits
  refine ⟨⟨?_, ?_⟩, ?_⟩
  · intro t ht
    obtain rfl := Sign.start.inj ht
    exact hfits
  · rw [hstart]
    exact bounded_append.2 ⟨hcode, nofun, trivial⟩
  · show edge (e.step (start span)) (code ++ [stop span]) = .clear
    rw [hstart, edge_append]
    exact Edge.past_of_ne_word hedge

/-- New text, code and new text. -/
theorem bounded_between {opening code closing : List Sign} (hopening : Bounded e opening)
    (hedge : edge e opening = .clear) (hcode : Bounded .clear code)
    (hclosing : ∀ f, Bounded f closing) : Bounded e (opening ++ (code ++ closing)) := by
  rw [bounded_append, bounded_append, hedge]
  exact ⟨hopening, hcode, hclosing _⟩

/-- Code that ends with new text which does not end with a character of a word. -/
theorem edge_between {opening code closing : List Sign} (e : Edge)
    (hclosing : ∀ f, edge f closing = .clear) :
    edge e (opening ++ (code ++ closing)) ≠ .word := by
  rw [edge_append, edge_append, hclosing]
  exact Edge.clear_ne_word

/-- Pieces with commas between them keep the boundaries, as each starts after a blank. -/
theorem bounded_separated {pieces : List (List Sign)} (h : ∀ piece ∈ pieces, Bounded .clear piece) :
    Bounded .clear (separated pieces) := by
  induction pieces with
  | nil => trivial
  | cons piece rest ih =>
    have hrest := ih fun p hp => h p (List.mem_cons_of_mem _ hp)
    have hpiece := h piece (by simp)
    cases rest with
    | nil => simpa [separated] using hpiece
    | cons next rest =>
      -- a comma and a blank stand before the next piece
      have hcomma : edge (edge .clear piece) (written ", ".toList) = .clear :=
        edge_written _ [','] (by decide)
      rw [separated_cons_cons, bounded_append, bounded_append, hcomma]
      exact ⟨hpiece, bounded_written _ _, hrest⟩

/-- The name of a helper keeps them. -/
theorem bounded_named (e : Edge) (h : Helper) (name : List Char) (opening : Char) :
    Bounded e (named h name opening) :=
  ⟨nofun, bounded_written _ _⟩

/-- After what opens behind a name, the edge is clear. -/
theorem edge_named (e : Edge) (h : Helper) (name : List Char) {opening : Char}
    (hopening : isIdentifierPart opening = false) : edge e (named h name opening) = .clear :=
  edge_written e.past name hopening

/-- **Exchanging keeps the boundaries.** Each piece starts right after the text before it. -/
theorem bounded_exchanges {ps : List (Span × List Sign)} {cursor : Nat} {cs : List Char}
    {result : List Sign} (h : Exchanges Prod.fst Prod.snd copied ps cursor cs result)
    (hps : ∀ p ∈ ps, ∃ code, p.2 = enclosed p.1 code ∧ Bounded .clear code ∧
      edge .clear code ≠ .word) :
    Bounded .clear result ∧ edge .clear result ≠ .word := by
  induction h with
  | nil cursor text =>
    refine ⟨bounded_keptBy _ _ _, ?_⟩
    rw [edge_keptBy]
    split <;> nofun
  | @cons p rest cursor gap old tail result hgap hold _ ih =>
    obtain ⟨code, hcontent, hcode, hedge⟩ := hps p (by simp)
    -- before the piece is the last character of the gap, or what was there before
    have hfits : (edge .clear (keptBy copied cursor gap)).Fits p.1 := by
      rw [edge_keptBy]
      split
      · trivial
      · exact hgap
    obtain ⟨hpiece, hclear⟩ := bounded_enclosed hfits hcode hedge
    rw [← hcontent] at hpiece hclear
    obtain ⟨hrest, hlast⟩ := ih fun q hq => hps q (List.mem_cons_of_mem _ hq)
    rw [bounded_append, bounded_append, edge_append, edge_append, hclear]
    exact ⟨⟨bounded_keptBy _ _ _, hpiece, hrest⟩, hlast⟩

end Sign

open Sign

/-! ### Compiled code -/

/-- Whether code always ends with a character that is no part of a word. -/
def Code.isClosed : Code → Bool
  | .flag => false
  | .name _ => false
  | .spread _ => false
  | _ => true

/-- The value of markup is closed. -/
theorem Markup.isClosed_value (options : Options) (node : Markup) :
    (node.value options).value.isClosed = true := by
  cases node with
  | element span tag types attributes children => rfl
  | component span tag types attributes children => rfl
  | text raw => rfl
  | hole isSpread value => rfl
  | fragment children =>
    rw [Markup.value, value_bind]
    generalize (Markup.leavesOf options children).value = leaves
    unfold fragmentValue
    split <;> rfl

/-- The code in place of markup is closed. -/
theorem Expr.isClosed_patches {e : Expr} {options : Options} :
    ∀ p ∈ (e.patches options).value, p.2.isClosed = true := by
  intro p hp
  rw [Expr.patches_eq, value_mapM] at hp
  obtain ⟨piece, -, rfl⟩ := List.mem_map.1 hp
  exact piece.2.isClosed_value options

namespace Code

variable {bindings : Bindings} {source : List Char} {options : Options}

/-- The holes of a template keep the boundaries, as each starts after a brace. -/
theorem bounded_signsOfHoles {holes : List (List Char × Code)}
    (h : ∀ hole ∈ holes, Bounded .clear (hole.2.signs bindings source)) (e : Edge) :
    Bounded e (signsOfHoles bindings source holes) := by
  induction holes generalizing e with
  | nil => trivial
  | cons hole rest ih =>
    have hopening : edge e (written (escapeTemplate hole.1 ++ ['$', '{'])) = .clear := by
      rw [show escapeTemplate hole.1 ++ ['$', '{'] = (escapeTemplate hole.1 ++ ['$']) ++ ['{']
        by rw [List.append_assoc]; rfl]
      exact edge_written _ _ (by decide)
    refine bounded_between (bounded_written _ _) hopening (h hole (by simp)) fun f => ?_
    exact bounded_append.2 ⟨bounded_written _ _, ih (fun x hx => h x (List.mem_cons_of_mem _ hx)) _⟩

/-- A property keeps them, as its value starts after a blank. -/
theorem bounded_signsOfEntry {entry : Entry Code}
    (h : Bounded .clear (entry.value.signs bindings source)) :
    Bounded .clear (signsOfEntry bindings source entry) := by
  unfold signsOfEntry
  split
  · -- a getter's value follows the blank after `return`
    have hopening : edge .clear (written ("get ".toList ++ propertyKey entry.key.toList ++
        Entry.bodyOpening)) = .clear := by
      rw [show Entry.bodyOpening = ("() ".toList ++ '{' :: " return".toList) ++ [' '] by decide,
        ← List.append_assoc]
      exact edge_written _ _ (by decide)
    exact bounded_between (bounded_written _ _) hopening h fun f => bounded_written f _
  · -- any other value follows the blank after its colon
    have hopening : edge .clear (written (propertyKey entry.key.toList ++ ": ".toList)) =
        .clear := by
      rw [show ": ".toList = [':'] ++ [' '] by decide, ← List.append_assoc]
      exact edge_written _ _ (by decide)
    rw [bounded_append, hopening]
    exact ⟨bounded_written _ _, h⟩

/-- The code of each outermost piece of markup in a copied expression stands in its text, between
    its signs. -/
theorem exists_signs_copy_append {e : Expr} (he : e.isPlaced source = true) (bindings : Bindings)
    (options : Options) {piece : Span × Markup} (hpiece : piece ∈ e.outermost) :
    ∃ as bs, (copy e (e.patches options).value).signs bindings source =
      as ++ (enclosed piece.1 ((piece.2.value options).value.signs bindings source) ++ bs) := by
  obtain ⟨ps, text, hperm, hexchanges⟩ := exists_exchanges_copy he bindings options
  have hmem : (piece.1, enclosed piece.1 ((piece.2.value options).value.signs bindings source)) ∈
      ps := by
    rw [hperm.mem_iff, signsOfPatches_eq, Expr.patches_eq, value_mapM, List.map_map]
    exact List.mem_map.2 ⟨piece, hpiece, rfl⟩
  exact hexchanges.exists_append hmem

/-- **Compiled code keeps the boundaries**, and closed code does not end with a new character of a
    word. -/
theorem bounded_signs (bindings : Bindings) (source : List Char) (options : Options) :
    HereditaryIn source options fun code =>
      Bounded .clear (code.signs bindings source) ∧
        (code.isClosed = true → edge .clear (code.signs bindings source) ≠ .word) where
  -- the second half is what a copied expression asks of the markup in it
  string text := by
    refine ⟨bounded_written _ _, fun _ => ?_⟩
    rw [signs, quoted, edge_written _ _ (by decide)]
    exact Edge.clear_ne_word
  flag := ⟨bounded_written _ _, fun h => absurd h Bool.false_ne_true⟩
  name tag _ := ⟨bounded_written _ _, fun h => absurd h Bool.false_ne_true⟩
  paren := by
    rintro inner ⟨h, -⟩
    exact ⟨bounded_between (bounded_written _ _) (edge_written _ [] (by decide)) h
      fun f => bounded_written f _, fun _ => edge_between _ fun f => edge_written f [] (by decide)⟩
  spread := by
    rintro inner ⟨h, -⟩
    refine ⟨?_, fun h => absurd h Bool.false_ne_true⟩
    have hopening : edge .clear (written "...".toList) = .clear :=
      edge_written _ ['.', '.'] (by decide)
    rw [signs, bounded_append, hopening]
    exact ⟨bounded_written _ _, h⟩
  array := by
    intro items h
    rw [signs, signsOf_eq]
    have hitems := bounded_separated (List.forall_mem_map.2 fun c hc => (h c hc).1)
    exact ⟨bounded_between (bounded_written _ _) (edge_written _ [] (by decide)) hitems
      fun f => bounded_written f _, fun _ => edge_between _ fun f => edge_written f [] (by decide)⟩
  object := by
    intro entries h
    rw [signs, signsOfEntries_eq]
    have hentries := bounded_separated
      (List.forall_mem_map.2 fun e he => bounded_signsOfEntry (h e he).1)
    split
    · refine ⟨bounded_written _ _, fun _ => ?_⟩
      have hedge : edge .clear (written ['{', '}']) = .clear :=
        edge_written _ ['{'] (by decide)
      rw [hedge]
      exact Edge.clear_ne_word
    · exact ⟨bounded_between (bounded_written _ _) (edge_written _ ['{'] (by decide)) hentries
        fun f => bounded_written f _,
        fun _ => edge_between _ fun f => edge_written f [' '] (by decide)⟩
  call := by
    intro helper arguments h
    rw [signs, signsOf_eq]
    have harguments := bounded_separated (List.forall_mem_map.2 fun c hc => (h c hc).1)
    exact ⟨bounded_between (bounded_named _ _ _ _) (edge_named _ _ _ (by decide)) harguments
      fun f => bounded_written f _, fun _ => edge_between _ fun f => edge_written f [] (by decide)⟩
  template := by
    rintro ⟨holes, tail⟩ h
    have hholes := bounded_signsOfHoles (fun hole hmem => (h hole hmem).1) .clear
    exact ⟨bounded_between (bounded_named _ _ _ _) (edge_named _ _ _ (by decide)) hholes
      fun f => bounded_written f _, fun _ => edge_between _ fun f => edge_written f _ (by decide)⟩
  copy := by
    intro e he h
    -- a copied expression is an exchange along the text, in which markup is closed code
    obtain ⟨ps, text, hperm, hexchanges⟩ := exists_exchanges_copy he bindings options
    have hboth := bounded_exchanges hexchanges fun p hp => ?_
    · exact ⟨hboth.1, fun _ => hboth.2⟩
    · rw [hperm.mem_iff, signsOfPatches_eq] at hp
      obtain ⟨patch, hmem, rfl⟩ := List.mem_map.1 hp
      obtain ⟨hcode, hedge⟩ := h patch hmem
      exact ⟨_, rfl, hcode, hedge (Expr.isClosed_patches patch hmem)⟩

end Code

/-! ### Modules -/

/-- A header does not end with a character of a word if its statement ends with a semicolon. -/
theorem Header.edge_text (header : Header) (after : List Char) {front : List Char}
    (hstatement : header.statement = front ++ [';']) (e : Edge) :
    edge e (written (header.text after)) = .clear := by
  have hsemicolon : edge e (written ('\n' :: header.statement)) = .clear := by
    rw [hstatement, ← List.cons_append]
    exact edge_written _ _ (by decide)
  unfold Header.text
  split
  · exact edge_written _ _ (by decide)
  · split
    · exact hsemicolon
    · exact edge_written _ _ (by decide)

namespace Program

variable {program : Program} {source : List Char} {options : Options}

/-- The output of a module keeps the boundaries. -/
theorem bounded_signs (hplaced : program.isPlaced source = true) (options : Options) :
    Bounded .clear (program.signs source options) := by
  obtain ⟨lead, ps, cursor, text, body, hsigns, hperm, hexchanges, hlead⟩ :=
    exists_laidOut Prod.snd (fun h hh => (placeIn_header hplaced h hh).1)
      (fitIn_pieces hplaced options)
  have hbody := bounded_exchanges hexchanges fun p hp => ?_
  · have hclear : Bounded .clear lead ∧ edge .clear lead = .clear := by
      -- before the body stand copied text and the import, which ends with a semicolon
      rcases hlead with rfl | ⟨h, hh, before, rfl⟩
      · exact ⟨trivial, rfl⟩
      · have hstatement := statement_of_mem_header h hh
        rw [String.toList_append] at hstatement
        rw [bounded_append, edge_append]
        exact ⟨⟨bounded_keptBy _ _ _, bounded_written _ _⟩, h.edge_text text hstatement _⟩
    rw [signs, hsigns, bounded_append, hclear.2]
    exact ⟨hclear.1, hbody.1⟩
  · rw [hperm.mem_iff, pieces_eq] at hp
    obtain ⟨piece, hmem, rfl⟩ := List.mem_map.1 hp
    obtain ⟨hcode, hedge⟩ := holds_outermost
      (Code.bounded_signs (Bindings.of program options) source options) hplaced piece hmem
    exact ⟨_, rfl, hcode, hedge (piece.2.isClosed_value options)⟩

/-- The code of each outermost piece of markup stands in the output, between its signs. -/
theorem exists_signs_append (hplaced : program.isPlaced source = true) (options : Options)
    {piece : Span × Markup} (hpiece : piece ∈ program.outermost) :
    ∃ as bs, program.signs source options = as ++ (enclosed piece.1
      ((piece.2.value options).value.signs (Bindings.of program options) source) ++ bs) := by
  have hmem : (piece.1, enclosed piece.1
      ((piece.2.value options).value.signs (Bindings.of program options) source)) ∈
      program.pieces source options := by
    rw [pieces_eq]
    exact List.mem_map_of_mem hpiece
  exact exists_laidOut_append (fun h hh => (placeIn_header hplaced h hh).1)
    (fitIn_pieces hplaced options) hmem

end Program

/-! ### Words that become one -/

/-- Whether the last character of one text and the first of the next become parts of one word. -/
def fuses (before after : List Char) : Bool :=
  before.getLast?.any isIdentifierPart && after.head?.any isIdentifierPart

/-- The last character of a text is that of a sign, and only signs without characters are after
    it. -/
theorem Sign.exists_of_getLast? {signs : List Sign} {c : Char}
    (h : (Sign.text signs).getLast? = some c) :
    ∃ as s zs, signs = as ++ s :: zs ∧ s.char? = some c ∧ Sign.text zs = [] := by
  -- from the end backwards, past all signs without a character
  induction signs using List.reverseRecOn with
  | nil => cases h
  | append_singleton as s ih =>
    rw [Sign.text_append, Sign.text_cons, Sign.text_nil, List.append_nil] at h
    cases hs : s.char? with
    | none =>
      rw [hs, Option.toList_none, List.append_nil] at h
      obtain ⟨front, t, zs, rfl, ht, hzs⟩ := ih h
      refine ⟨front, t, zs ++ [s], by simp, ht, ?_⟩
      rw [Sign.text_append, hzs, Sign.text_cons, hs]
      rfl
    | some d =>
      rw [hs, Option.toList_some, List.getLast?_concat] at h
      exact ⟨as, s, [], rfl, h ▸ hs, rfl⟩

/-- **Where words become one.** A module that is read is compiled. In its output, the code of each
    outermost piece of markup starts at a sign, and so does the code of markup in a copied
    expression. Such code becomes one word with what stands before it exactly if it starts with a
    part of a word and a part of a word that is copied from the source stands before it. That
    character is the one right before the markup in the source, unless markup meets markup there. -/
theorem Program.fuses_iff (program : Program) (source file : String) (options : Options)
    (hparse : Program.parse? (Grammar.Dialect.ofPath file) source.toList = some program) :
    ∃ out, transform source file options = .ok out ∧
      program.compile source.toList file options = some out ∧
      out.code.toList = Sign.text (program.signs source.toList options) ∧
      (∀ piece ∈ program.outermost, ∃ as bs, program.signs source.toList options =
        as ++ (enclosed piece.1 ((piece.2.value options).value.signs (Bindings.of program options)
          source.toList) ++ bs)) ∧
      (∀ e : Expr, e.isPlaced source.toList = true → ∀ piece ∈ e.outermost, ∃ as bs,
        (Code.copy e (e.patches options).value).signs (Bindings.of program options) source.toList =
          as ++ (enclosed piece.1 ((piece.2.value options).value.signs (Bindings.of program options)
            source.toList) ++ bs)) ∧
      ∀ as span bs, program.signs source.toList options = as ++ .start span :: bs →
        (fuses (Sign.text as) (Sign.text bs) = true ↔
          (Sign.text bs).head?.any isIdentifierPart = true ∧
          ∃ front offset c zs, as = front ++ .copied offset c :: zs ∧ Sign.text zs = [] ∧
            isIdentifierPart c = true) ∧
        (∀ front offset c, as = front ++ [.copied offset c] →
          offset + c.utf8Size = span.start ∧
          ∃ before after, source.toList = before ++ c :: after ∧ byteLength before = offset) := by
  have hplaced := Program.isPlaced_of_parse? hparse
  obtain ⟨out, hout, hcode, -⟩ := Program.exists_compile hplaced file options
  refine ⟨out, transform_eq_ok hparse hout, hout, hcode,
    fun piece hpiece => Program.exists_signs_append hplaced options hpiece,
    fun e he piece hpiece => Code.exists_signs_copy_append he _ options hpiece, ?_⟩
  intro as span bs hsigns
  have hbounded := Program.bounded_signs hplaced options
  rw [hsigns] at hbounded
  have hfits := hbounded.fits
  refine ⟨⟨fun hfuses => ?_, ?_⟩, ?_⟩
  · rw [fuses, Bool.and_eq_true, Option.any_eq_true] at hfuses
    obtain ⟨⟨c, hlast, hc⟩, hhead⟩ := hfuses
    obtain ⟨front, s, zs, rfl, hs, hzs⟩ := Sign.exists_of_getLast? hlast
    refine ⟨hhead, ?_⟩
    cases s with
    | copied offset d =>
      obtain rfl := Option.some.inj hs
      exact ⟨front, offset, d, zs, rfl, hzs, hc⟩
    | made d =>
      -- new text does not end so
      obtain rfl := Option.some.inj hs
      rw [edge_of_text_eq_nil hzs, if_pos hc] at hfits
      exact hfits.elim
    | helper h => cases hs
    | start t => cases hs
    | stop t => cases hs
  · rintro ⟨hhead, front, offset, c, zs, rfl, hzs, hc⟩
    rw [fuses, Bool.and_eq_true]
    refine ⟨?_, hhead⟩
    rw [Sign.text_append, Sign.text_copied_cons, hzs, List.getLast?_concat]
    exact hc
  · rintro front offset c rfl
    have hmem : Sign.copied offset c ∈ program.signs source.toList options := by
      rw [hsigns]
      simp
    rw [edge_append] at hfits
    exact ⟨hfits, Program.isFrom_signs hplaced options _ hmem⟩

/-- Markup right after an operator, in an expression inside of other markup. -/
theorem Program.fuses_iff_typeof :
    ∃ (source : String) (program : Program) (as bs : List Sign),
      source = "x = <p>" ++ braced "[typeof<b/>]" ++ "</p>;" ∧
      Program.parse? (Grammar.Dialect.ofPath "a.jsx") source.toList = some program ∧
      program.signs source.toList {} = as ++ .start ⟨15, 19⟩ :: bs ∧
      fuses (Sign.text as) (Sign.text bs) = true ∧
      ∃ before after, source.toList = before ++ 'f' :: after ∧ byteLength before = 14 := by
  obtain ⟨source, hsource⟩ : ∃ s, s = "x = <p>" ++ braced "[typeof<b/>]" ++ "</p>;" := ⟨_, rfl⟩
  have hread : (Program.parse? (Grammar.Dialect.ofPath "a.jsx") source.toList).any (fun program =>
      let signs := program.signs source.toList {}
      let place := signs.idxOf (.start ⟨15, 19⟩)
      decide (signs = signs.take place ++ .start ⟨15, 19⟩ :: signs.drop (place + 1)) &&
      decide ((signs.take place).getLast? = some (.copied 14 'f')) &&
      (Sign.text (signs.drop (place + 1))).head?.any isIdentifierPart) = true := by
    rw [hsource]
    decide +kernel
  obtain ⟨program, hparse, hchecks⟩ := (Option.any_eq_true _ _).1 hread
  simp only [Bool.and_eq_true, decide_eq_true_eq] at hchecks
  obtain ⟨⟨hsigns, hlast⟩, hhead⟩ := hchecks
  obtain ⟨front, hfront⟩ := List.getLast?_eq_some_iff.1 hlast
  obtain ⟨-, -, -, -, -, -, hall⟩ := Program.fuses_iff program source "a.jsx" {} hparse
  obtain ⟨hfuses, hfrom⟩ := hall _ _ _ hsigns
  exact ⟨source, program, _, _, hsource, hparse, hsigns,
    hfuses.2 ⟨hhead, front, 14, 'f', [], hfront, rfl, by decide⟩, (hfrom front 14 'f' hfront).2⟩

/-- A keyword and the code after it become one word. -/
theorem Program.return_fuses :
    ∃ (source : String) (program : Program) (as bs : List Sign) (out : Compiled),
      source = "function f()" ++ braced "return<p/>" ∧
      Program.parse? (Grammar.Dialect.ofPath "a.jsx") source.toList = some program ∧
      program.isPlaced source.toList = true ∧
      program.signs source.toList {} = as ++ .start ⟨19, 23⟩ :: bs ∧
      fuses (Sign.text as) (Sign.text bs) = true ∧
      transform source "a.jsx" {} = .ok out ∧
      out.code =
        "import " ++ braced " html " ++ " from \"kaori.js\";\nfunction f()" ++
            braced "returnhtml`<p></p>`" := by
  obtain ⟨source, hsource⟩ : ∃ s, s = "function f()" ++ braced "return<p/>" := ⟨_, rfl⟩
  have hread : (Program.parse? (Grammar.Dialect.ofPath "a.jsx") source.toList).any (fun program =>
      let signs := program.signs source.toList {}
      let place := signs.idxOf (.start ⟨19, 23⟩)
      decide (signs = signs.take place ++ .start ⟨19, 23⟩ :: signs.drop (place + 1)) &&
      fuses (Sign.text (signs.take place)) (Sign.text (signs.drop (place + 1)))) = true := by
    rw [hsource]
    decide +kernel
  obtain ⟨program, hparse, hchecks⟩ := (Option.any_eq_true _ _).1 hread
  simp only [Bool.and_eq_true, decide_eq_true_eq] at hchecks
  obtain ⟨hsigns, hfuses⟩ := hchecks
  have hplaced := Program.isPlaced_of_parse? hparse
  have hcode : (transform source "a.jsx" {}).toOption.map Compiled.code =
      some ("import " ++ braced " html " ++ " from \"kaori.js\";\nfunction f()" ++
          braced "returnhtml`<p></p>`") := by
    rw [hsource]
    decide +kernel
  obtain ⟨out, hcompiled, -⟩ := Program.exists_compile hplaced "a.jsx" {}
  have hout := transform_eq_ok hparse hcompiled
  rw [hout] at hcode
  exact ⟨source, program, _, _, out, hsource, hparse, hplaced, hsigns, hfuses, hout,
    Option.some.inj hcode⟩

end JsxTemplate
