import JsxTemplate.Helper
import JsxTemplate.Output.Layout
import JsxTemplate.Proofs.Exchange

namespace JsxTemplate

open Text

/-!
# Output with signs

The characters of an output alone do not tell where they come from. Here each of them says whether
it is copied or new, and signs between them say where the name of a helper starts, and where the
code in place of a span starts and stops.

* `Sign` — a character with its origin, or a sign between characters.
* `Sign.text` — the characters alone.
* `Sign.Joins source R`, `Sign.Additive source R` — the property `R` goes from pieces to rows of
  them; in the second case, it holds of all new text.
* `Sign.IsFrom source` — a copied character is one of the source.
* `laidOut` — a source with pieces in place of their spans and a header between its two sides.
* `exists_laidOut` — this from left to right.
* `text_laidOut` — its text depends on the texts of the pieces only.
-/

/-- A character of an output with its origin, or a sign between two characters. -/
inductive Sign where
  /-- A character that is copied from an offset of the source. -/
  | copied (offset : Nat) (c : Char)
  /-- A new character. -/
  | made (c : Char)
  /-- The name of a helper starts here. -/
  | helper (h : Helper)
  /-- The code in place of a span starts here. -/
  | start (span : Span)
  /-- The code in place of a span stops here. -/
  | stop (span : Span)
  deriving DecidableEq, Repr

namespace Sign

/-- The character of a sign that is one. -/
def char? : Sign → Option Char
  | copied _ c => some c
  | made c => some c
  | helper _ => none
  | start _ => none
  | stop _ => none

/-- The characters alone. -/
def text (signs : List Sign) : List Char := signs.filterMap char?

/-- New characters. -/
def written (cs : List Char) : List Sign := cs.map made

/-- The code in place of a span, between its two signs. -/
def enclosed (span : Span) (code : List Sign) : List Sign := start span :: (code ++ [stop span])

/-- New characters in a row are new one by one. -/
theorem written_append (as bs : List Char) : written (as ++ bs) = written as ++ written bs :=
  List.map_append

@[simp] theorem text_nil : text [] = [] := rfl

/-- The texts of signs in a row are in a row. -/
@[simp] theorem text_append (as bs : List Sign) : text (as ++ bs) = text as ++ text bs :=
  List.filterMap_append

/-- A sign adds its character if it is one. -/
theorem text_cons (s : Sign) (signs : List Sign) :
    text (s :: signs) = s.char?.toList ++ text signs := by
  cases s <;> rfl

@[simp] theorem text_copied_cons (offset : Nat) (c : Char) (signs : List Sign) :
    text (copied offset c :: signs) = c :: text signs := rfl

@[simp] theorem text_made_cons (c : Char) (signs : List Sign) :
    text (made c :: signs) = c :: text signs := rfl

@[simp] theorem text_helper_cons (h : Helper) (signs : List Sign) :
    text (helper h :: signs) = text signs := rfl

@[simp] theorem text_start_cons (span : Span) (signs : List Sign) :
    text (start span :: signs) = text signs := rfl

@[simp] theorem text_stop_cons (span : Span) (signs : List Sign) :
    text (stop span :: signs) = text signs := rfl

/-- The text of new characters is these characters. -/
@[simp] theorem text_written (cs : List Char) : text (written cs) = cs := by
  induction cs with
  | nil => rfl
  | cons c cs ih => exact congrArg (c :: ·) ih

/-- The text of code in place of a span is that of the code. -/
@[simp] theorem text_enclosed (span : Span) (code : List Sign) :
    text (enclosed span code) = text code := by
  simp [enclosed]

/-- The text of copied characters is that of the source. -/
@[simp] theorem text_keptBy (base : Nat) (cs : List Char) : text (keptBy copied base cs) = cs := by
  induction cs generalizing base with
  | nil => rfl
  | cons c cs ih => rw [keptBy, text_copied_cons, ih]

/-- The characters of a text with pieces in place of spans are those of the pieces and those that
    are kept. -/
theorem text_exchangedBy {β : Type} (span : β → Span) (content : β → List Sign) (ps : List β)
    (base : Nat) (cs : List Char) :
    text (exchangedBy span content copied ps base cs) =
      exchangedBy span (fun p => text (content p)) (fun _ c => c) ps base cs := by
  induction cs generalizing base with
  | nil => rfl
  | cons c cs ih =>
    -- at each offset stand first the contents that start there, then the character unless covered
    have hcontent : text ((ps.filter fun p => (span p).start = base).flatMap content) =
        (ps.filter fun p => (span p).start = base).flatMap fun p => text (content p) :=
      List.filterMap_flatMap
    have hkept : text (if ps.any fun p => (span p).covers base then [] else [copied base c]) =
        if ps.any fun p => (span p).covers base then [] else [c] := by
      split <;> rfl
    rw [exchangedBy, exchangedBy, text_append, text_append, hcontent, hkept, ih]

/-! ### Properties of signs in a row -/

/-- A property of signs that two rows together have if each of them has it, and that holds of
    characters of the source and of the signs around code. -/
structure Joins (source : List Char) (R : List Sign → Prop) : Prop where
  nil : R []
  append : ∀ {as bs}, R as → R bs → R (as ++ bs)
  copied : ∀ {before c after}, source = before ++ c :: after → R [copied (byteLength before) c]
  start : ∀ span, R [start span]
  stop : ∀ span, R [stop span]

/-- Such a property that holds of new characters too, whatever they are. -/
structure Additive (source : List Char) (R : List Sign → Prop) : Prop extends Joins source R where
  written : ∀ cs, R (written cs)

section

variable {β : Type} {span : β → Span} {content : β → List Sign} {ps : List β}
  {source before cs after : List Char} {base : Nat} {R : List Sign → Prop}

/-- The signs around code in place of a span change nothing. -/
theorem Joins.enclosed (hR : Joins source R) (span : Span) {code : List Sign} (h : R code) :
    R (enclosed span code) :=
  hR.append (hR.start span) (hR.append h (hR.stop span))

/-- Pieces in a row that have the property have it together. -/
theorem Joins.flatMap (hR : Joins source R) (h : ∀ p ∈ ps, R (content p)) :
    R (ps.flatMap content) := by
  induction ps with
  | nil => exact hR.nil
  | cons p rest ih =>
    rw [List.flatMap_cons]
    exact hR.append (h p (by simp)) (ih fun q hq => h q (List.mem_cons_of_mem _ hq))

/-- Exchanging pieces in a stretch of the source keeps such a property. -/
theorem Joins.exchangedBy (hR : Joins source R) (hsource : source = before ++ (cs ++ after))
    (hbase : byteLength before = base) (hcontent : ∀ p ∈ ps, R (content p)) :
    R (exchangedBy span content Sign.copied ps base cs) := by
  induction cs generalizing before base with
  | nil => exact hR.nil
  | cons c cs ih =>
    have hmove : source = (before ++ [c]) ++ (cs ++ after) := by
      rw [hsource, List.append_assoc]
      rfl
    rw [JsxTemplate.exchangedBy]
    -- the contents that start here, the character itself, and the rest one character further on
    refine hR.append (hR.append (hR.flatMap fun p hp => ?_) ?_) (ih hmove (by simp [hbase]))
    · exact hcontent p (List.mem_filter.1 hp).1
    · split
      · exact hR.nil
      · rw [← hbase]
        exact hR.copied hsource

/-- A stretch of the source that is copied has the property. -/
theorem Joins.keptBy (hR : Joins source R) (hsource : source = before ++ (cs ++ after))
    (hbase : byteLength before = base) : R (keptBy Sign.copied base cs) := by
  have hkept : JsxTemplate.exchangedBy id (fun _ => []) Sign.copied [] base cs =
      JsxTemplate.keptBy Sign.copied base cs :=
    exchangedBy_of_clear (by simp)
  rw [← hkept]
  exact hR.exchangedBy hsource hbase (by simp)

end

/-- If the sign is a copied character, the source has it at its offset. -/
def IsFrom (source : List Char) : Sign → Prop
  | copied offset c => ∃ before after, source = before ++ c :: after ∧ byteLength before = offset
  | _ => True

/-- That copied characters are from the source is a property of each sign. -/
theorem additive_isFrom (source : List Char) :
    Additive source fun signs => ∀ s ∈ signs, s.IsFrom source where
  nil := by simp
  append has hbs := List.forall_mem_append.2 ⟨has, hbs⟩
  written cs := by
    intro s hs
    obtain ⟨c, -, rfl⟩ := List.mem_map.1 hs
    trivial
  copied := by
    intro before c after hsource
    rw [List.forall_mem_singleton]
    exact ⟨before, after, hsource, rfl⟩
  start span := by simp [IsFrom]
  stop span := by simp [IsFrom]

end Sign

/-! ### A module with signs -/

/-- A source with pieces in place of their spans, and a header at its place. -/
def laidOut {β : Type} (span : β → Span) (content : β → List Sign) (source : List Char)
    (header : Option Header) (ps : List β) : List Sign :=
  match header with
  | none => exchangedBy span content .copied ps 0 source
  | some header =>
    match cut source header.offset with
    | none => []
    | some (before, after) =>
      keptBy .copied 0 before ++ (Sign.written (header.text after) ++
        exchangedBy span content .copied ps header.offset after)

section

variable {β : Type} {span : β → Span} {content : β → List Sign} {source : List Char}
  {header : Option Header} {ps : List β}

/-- A laid out source is the text before the header, the header, and the pieces after it from left
    to right. -/
theorem exists_laidOut (content : β → List Sign) (hheader : ∀ h ∈ header, PlaceIn 0 source h.offset)
    (hfit : Span.FitIn source ⟨(header.map Header.offset).getD 0, byteLength source⟩
      (ps.map span)) :
    ∃ lead qs cursor text body, laidOut span content source header ps = lead ++ body ∧
      qs.Perm ps ∧ Exchanges span content .copied qs cursor text body ∧
      (lead = [] ∨ ∃ h ∈ header, ∃ before,
        lead = keptBy .copied 0 before ++ Sign.written (h.text text)) := by
  -- without a header the whole text is exchanged; with one, only what follows it
  cases header with
  | none =>
    have hsplit : source = [] ++ (source ++ []) := by simp
    obtain ⟨qs, hperm, hexchanges⟩ := exists_exchanges content Sign.copied hfit hsplit rfl
      (Nat.zero_add _)
    exact ⟨[], qs, 0, source, _, rfl, hperm, hexchanges, .inl rfl⟩
  | some h =>
    obtain ⟨before, after, hsource, hoffset⟩ := hheader h rfl
    rw [Nat.zero_add] at hoffset
    have hcut : cut source h.offset = some (before, after) := cut_eq_some_iff.2 ⟨hsource, hoffset⟩
    have hsplit : source = before ++ (after ++ []) := by rw [hsource, List.append_nil]
    have hstop : h.offset + byteLength after = byteLength source := by
      rw [hsource, byteLength_append, hoffset]
    obtain ⟨qs, hperm, hexchanges⟩ := exists_exchanges content Sign.copied hfit hsplit hoffset hstop
    refine ⟨keptBy .copied 0 before ++ Sign.written (h.text after), qs, h.offset, after, _, ?_,
      hperm, hexchanges, .inr ⟨h, rfl, before, rfl⟩⟩
    simp only [laidOut, hcut, List.append_assoc]
    rfl

/-- The content of each piece stands in the laid out source. -/
theorem exists_laidOut_append {p : β} (hheader : ∀ h ∈ header, PlaceIn 0 source h.offset)
    (hfit : Span.FitIn source ⟨(header.map Header.offset).getD 0, byteLength source⟩
      (ps.map span)) (hp : p ∈ ps) :
    ∃ as bs, laidOut span content source header ps = as ++ (content p ++ bs) := by
  obtain ⟨lead, qs, cursor, text, body, hlaid, hperm, hexchanges, -⟩ :=
    exists_laidOut content hheader hfit
  obtain ⟨as, bs, rfl⟩ := hexchanges.exists_append (hperm.mem_iff.2 hp)
  exact ⟨lead ++ as, bs, by rw [hlaid, List.append_assoc]⟩

/-- A laid out source has each such property that the header and the pieces have. -/
theorem Sign.Joins.laidOut {R : List Sign → Prop} (hR : Sign.Joins source R)
    (hheader : ∀ h ∈ header, ∀ after, R (Sign.written (h.text after)))
    (hcontent : ∀ p ∈ ps, R (content p)) : R (laidOut span content source header ps) := by
  cases header with
  | none =>
    have hsplit : source = [] ++ (source ++ []) := by simp
    exact hR.exchangedBy hsplit rfl hcontent
  | some header =>
    simp only [JsxTemplate.laidOut]
    -- a header that is not at a boundary of the text leaves nothing, which joins trivially
    split
    next hcut => exact hR.nil
    next before after hcut =>
      obtain ⟨hsource, hoffset⟩ := cut_eq_some_iff.1 hcut
      have hfirst : source = [] ++ (before ++ after) := hsource
      have hrest : source = before ++ (after ++ []) := by rw [hsource, List.append_nil]
      exact hR.append (hR.keptBy hfirst rfl)
        (hR.append (hheader header rfl after) (hR.exchangedBy hrest hoffset hcontent))

/-- The signs of a laid out text have an additive property if the pieces have it. -/
theorem Sign.Additive.laidOut {R : List Sign → Prop} (hR : Sign.Additive source R)
    (hcontent : ∀ p ∈ ps, R (content p)) :
    R (JsxTemplate.laidOut span content source header ps) :=
  hR.toJoins.laidOut (fun _ _ _ => hR.written _) hcontent

end

/-- A replacement with its code between two signs. -/
def Replacement.signs (r : Replacement) : List Sign := Sign.enclosed r.span (Sign.written r.code)

/-- The text of a laid out source is that for replacements by the texts of the pieces. -/
theorem text_laidOut {β : Type} (span : β → Span) (content : β → List Sign) (source : List Char)
    (header : Option Header) (ps : List β) :
    Sign.text (laidOut span content source header ps) =
      Sign.text (laidOut Replacement.span Replacement.signs source header
        (ps.map fun p => ⟨span p, Sign.text (content p)⟩)) := by
  -- marks of start and stop are in no text, so the bodies already agree
  have hbody : ∀ base cs, Sign.text (exchangedBy span content .copied ps base cs) =
      Sign.text (exchangedBy Replacement.span Replacement.signs .copied
        (ps.map fun p => ⟨span p, Sign.text (content p)⟩) base cs) := by
    intro base cs
    rw [Sign.text_exchangedBy, exchangedBy_map, Sign.text_exchangedBy]
    simp only [Replacement.signs, Sign.text_enclosed, Sign.text_written]
  cases header with
  | none => exact hbody 0 source
  | some header =>
    simp only [laidOut]
    split
    · rfl
    · simp only [Sign.text_append, hbody]

end JsxTemplate
