import JsxTemplate.Proofs.Positions
import JsxTemplate.Proofs.Signs

namespace JsxTemplate

open Text

/-!
# The text that is laid out

* `Marked source p signs marks` — the marks that belong to signs written from position `p` on: one
  for each line of copied text, and one where the code in place of a span starts.
* `Draft.Adds source draft signs result` — writing succeeded, and it added the text of the signs and
  their marks.
* `Draft.adds_copied`, `Draft.adds_pieces` — what one piece adds, and what all pieces of a module
  add.
* `adds_generate` — the output of a module is its source, laid out.
* `generate_none_code`, `generate_some_code` — its text without and with a header: the source with
  its spans exchanged, and the header between the two sides of its place.
* `Header.text_spec` — a header stands on lines of its own.
-/

variable {source : List Char} {rs : List Replacement}

/-! ### Lines and marks -/

/-- The lines of a text are all of it. -/
theorem flatten_linesOf (cs : List Char) : (linesOf cs).flatten = cs := by
  induction cs with
  | nil => rfl
  | cons c cs ih =>
    rw [linesOf]
    split
    · rw [List.flatten_cons, ih, List.singleton_append]
    · -- the character goes to the front of the first line, if there is one
      split
      next hnil =>
        rw [hnil] at ih
        rw [← ih]
        rfl
      next line rest hcons =>
        rw [hcons, List.flatten_cons] at ih
        rw [List.flatten_cons, List.cons_append, ih]

/-- A line that is cut off a text has a line feed at its end only. -/
theorem feed_not_mem_of_mem_linesOf {cs line : List Char} (h : line ∈ linesOf cs) :
    '\n' ∉ line.dropLast := by
  induction cs generalizing line with
  | nil => simp [linesOf] at h
  | cons c cs ih =>
    rw [linesOf] at h
    split at h
    · rcases List.mem_cons.1 h with rfl | h
      · simp
      · exact ih h
    next hc =>
      split at h
      · rw [List.mem_singleton.1 h]
        simp
      next first rest hlines =>
        rcases List.mem_cons.1 h with rfl | h
        · -- the first line got one more character, which is no line feed
          have hfirst : '\n' ∉ first.dropLast := ih (by simp [hlines])
          cases first with
          | nil => simp
          | cons d ds =>
            rw [List.dropLast_cons_of_ne_nil (by simp), List.mem_cons]
            rintro (heq | hmem)
            · exact hc heq.symm
            · exact hfirst hmem
        · exact ih (by simp [hlines, h])

/-- The marks of signs that are written from a position on: one for each line of copied text, and
    one where the code in place of a span starts. -/
inductive Marked (source : List Char) : Position → List Sign → List Mark → Prop where
  | nil (p : Position) : Marked source p [] []
  | made {p : Position} {signs : List Sign} {marks : List Mark} (c : Char)
      (h : Marked source (p.after [c]) signs marks) : Marked source p (.made c :: signs) marks
  | start {p : Position} {signs : List Sign} {marks : List Mark} {before after : List Char}
      {span : Span} (hsource : source = before ++ after) (hstart : byteLength before = span.start)
      (h : Marked source p signs marks) :
    Marked source p (.start span :: signs) (⟨p, Position.origin.after before⟩ :: marks)
  | stop {p : Position} {signs : List Sign} {marks : List Mark} (span : Span)
      (h : Marked source p signs marks) : Marked source p (.stop span :: signs) marks
  | line {p : Position} {signs : List Sign} {marks : List Mark} {before line after : List Char}
      (hsource : source = before ++ (line ++ after)) (hline : '\n' ∉ line.dropLast)
      (h : Marked source (p.after line) signs marks) :
    Marked source p (keptBy .copied (byteLength before) line ++ signs)
      (⟨p, Position.origin.after before⟩ :: marks)

/-- New text needs no marks. -/
theorem Marked.written (p : Position) (cs : List Char) : Marked source p (Sign.written cs) [] := by
  induction cs generalizing p with
  | nil => exact .nil p
  | cons c cs ih => exact .made c (ih _)

/-- Signs in a row have their marks in a row. -/
theorem Marked.append {p : Position} {as bs : List Sign} {ms ns : List Mark}
    (has : Marked source p as ms) (hbs : Marked source (p.after (Sign.text as)) bs ns) :
    Marked source p (as ++ bs) (ms ++ ns) := by
  induction has with
  | nil p => exact hbs
  | made c _ ih => exact .made c (ih hbs)
  | start hsource hstart _ ih => exact .start hsource hstart (ih hbs)
  | stop span _ ih => exact .stop span (ih hbs)
  -- a line starts where the text before it left off, which the appended signs do not change
  | line hsource hline _ ih =>
    rw [Sign.text_append, Sign.text_keptBy, Position.after_append] at hbs
    rw [List.append_assoc]
    exact .line hsource hline (ih hbs)

/-! ### Writing pieces -/

namespace Draft

/-- Writing succeeded, and the output is that of the draft with signs and their marks after it. -/
def Adds (source : List Char) (draft : Draft) (signs : List Sign) (result : Option Draft) : Prop :=
  ∃ next marks, result = some next ∧ next.code = draft.code ++ Sign.text signs ∧
    next.position = draft.position.after (Sign.text signs) ∧
    next.marks = draft.marks ++ marks ∧ Marked source draft.position signs marks

variable {draft : Draft} {signs more : List Sign}

/-- Nothing is added by doing nothing. -/
theorem Adds.nothing : draft.Adds source [] (some draft) :=
  ⟨draft, [], rfl, by simp, rfl, by simp, .nil _⟩

/-- Two steps of writing add one after the other. -/
theorem Adds.bind {first : Option Draft} {step : Draft → Option Draft}
    (hfirst : draft.Adds source signs first)
    (hstep : ∀ next : Draft, next.Adds source more (step next)) :
    draft.Adds source (signs ++ more) (first >>= step) := by
  obtain ⟨next, ms, rfl, hcode, hposition, hmarks, hms⟩ := hfirst
  obtain ⟨last, ns, hlast, hcode', hposition', hmarks', hns⟩ := hstep next
  refine ⟨last, ms ++ ns, hlast, ?_, ?_, ?_, ?_⟩
  · rw [hcode', hcode, Sign.text_append, List.append_assoc]
  · rw [hposition', hposition, Sign.text_append, Position.after_append]
  · rw [hmarks', hmarks, List.append_assoc]
  · rw [hposition] at hns
    exact hms.append hns

/-- New text is added without a mark. -/
theorem adds_written (cs : List Char) :
    draft.Adds source (Sign.written cs) (some (draft.append cs)) :=
  ⟨_, [], rfl, by simp [append], by simp [append], by simp [append], .written _ cs⟩

/-- The end of the code in place of a span is not seen in the output. -/
theorem adds_stop (span : Span) : draft.Adds source [.stop span] (some draft) :=
  ⟨draft, [], rfl, by simp, rfl, by simp, .stop span (.nil _)⟩

/-- A mark for a place of the source is found by reading up to it. -/
theorem mark_eq {before after : List Char} (hsource : source = before ++ after) :
    draft.mark (Lines.of source) source (byteLength before) =
      some { draft with
        marks := draft.marks ++ [⟨draft.position, Position.origin.after before⟩] } := by
  rw [mark, hsource, Lines.unitPosition_append]
  rfl

/-- The code in place of a span starts with a mark. -/
theorem adds_start {before after : List Char} {span : Span} (hsource : source = before ++ after)
    (hstart : byteLength before = span.start) :
    draft.Adds source [.start span] (draft.mark (Lines.of source) source span.start) := by
  rw [← hstart, mark_eq hsource]
  exact ⟨_, _, rfl, by simp, rfl, rfl, .start hsource hstart (.nil _)⟩

/-- A line that is copied gets a mark at its start. -/
theorem adds_line {before line after : List Char} (hsource : source = before ++ (line ++ after))
    (hline : '\n' ∉ line.dropLast) :
    draft.Adds source (keptBy .copied (byteLength before) line)
      ((draft.mark (Lines.of source) source (byteLength before)).map (·.append line)) := by
  rw [mark_eq hsource]
  refine ⟨_, _, rfl, by simp [append], by simp [append], rfl, ?_⟩
  have hmarked := Marked.line hsource hline (.nil (draft.position.after line))
  rwa [List.append_nil] at hmarked

/-- Copied lines are added as they are: each starts at a place of the source. -/
theorem adds_copyLines {lines : List (List Char)} {before after : List Char}
    (hsource : source = before ++ (lines.flatten ++ after))
    (hlines : ∀ line ∈ lines, '\n' ∉ line.dropLast) :
    draft.Adds source (keptBy .copied (byteLength before) lines.flatten)
      (draft.copyLines (Lines.of source) source (byteLength before) lines) := by
  induction lines generalizing draft before with
  | nil => exact Adds.nothing
  | cons line rest ih =>
    rw [List.flatten_cons, List.append_assoc] at hsource
    -- the next line is read from further on, behind the bytes of this one
    have hrest : ∀ next : Draft, next.Adds source
        (keptBy .copied (byteLength before + byteLength line) rest.flatten)
        (next.copyLines (Lines.of source) source (byteLength before + byteLength line) rest) := by
      intro next
      rw [← byteLength_append]
      exact ih (by rw [hsource, List.append_assoc]) fun l hl => hlines l (by simp [hl])
    rw [List.flatten_cons, keptBy_append]
    have hline : draft.Adds source (keptBy .copied (byteLength before) line)
        ((draft.mark (Lines.of source) source (byteLength before)).map (·.append line)) :=
      adds_line hsource (hlines line (by simp))
    have hall := hline.bind hrest
    rw [Option.bind_eq_bind, Option.bind_map] at hall
    exact hall

/-- A copied piece adds the text of its span. -/
theorem adds_copied {before middle after : List Char} {start stop : Nat}
    (hsource : source = before ++ (middle ++ after)) (hstart : byteLength before = start)
    (hstop : start + byteLength middle = stop) :
    draft.Adds source (keptBy .copied start middle)
      (draft.write (Lines.of source) source (.copied ⟨start, stop⟩)) := by
  rw [write]
  split
  · -- between equal offsets there is no text
    have hnil : middle = [] := byteLength_eq_zero.1 (by simp only at *; omega)
    rw [hnil]
    exact Adds.nothing
  · have hslice := slice_append before middle after
    rw [← hsource, hstart, hstop] at hslice
    show draft.Adds source (keptBy .copied start middle) (slice source start stop >>= fun text =>
      draft.copyLines (Lines.of source) source start (linesOf text))
    rw [hslice]
    have hcopy : draft.Adds source (keptBy .copied (byteLength before) (linesOf middle).flatten)
        (draft.copyLines (Lines.of source) source (byteLength before) (linesOf middle)) :=
      adds_copyLines (by rw [flatten_linesOf]; exact hsource) fun _ => feed_not_mem_of_mem_linesOf
    rw [flatten_linesOf, hstart] at hcopy
    exact hcopy

/-- The code in place of a span adds its text between two signs. -/
theorem adds_replacement {before after : List Char} {r : Replacement}
    (hsource : source = before ++ after) (hstart : byteLength before = r.span.start) :
    draft.Adds source r.signs
      (draft.write (Lines.of source) source (.made r.code (some r.span.start))) := by
  have hmade : draft.Adds source ([.start r.span] ++ (Sign.written r.code ++ [.stop r.span]))
      (draft.mark (Lines.of source) source r.span.start >>= fun marked =>
        some (marked.append r.code) >>= some) :=
    (adds_start hsource hstart).bind fun _ => (adds_written r.code).bind fun _ => adds_stop r.span
  exact hmade

/-- **The pieces after a cursor.** They add the rest of the source with the replacements made. -/
theorem adds_pieces {cursor : Nat} {before tail : List Char} (hsource : source = before ++ tail)
    (hcursor : byteLength before = cursor)
    (h : Exchanges Replacement.span Replacement.signs .copied rs cursor tail signs) :
    draft.Adds source signs ((Replacement.pieces (byteLength source) cursor rs).foldlM
      (write (Lines.of source) source) draft) := by
  induction h generalizing draft before with
  | nil cursor tail =>
    have hsplit : source = before ++ (tail ++ []) := by rw [hsource, List.append_nil]
    have hstop : cursor + byteLength tail = byteLength source := by
      rw [hsource, byteLength_append, hcursor]
    rw [Replacement.pieces, List.foldlM_cons]
    rw [← List.append_nil (keptBy Sign.copied cursor tail)]
    exact (adds_copied hsplit hcursor hstop).bind fun _ => Adds.nothing
  | @cons r rest cursor gap old tail result hgap hold _ ih =>
    -- the source from the cursor on: up to the span, the span, the rest
    have hspan : source = (before ++ gap) ++ (old ++ tail) := by
      rw [hsource, List.append_assoc]
    have hstart : byteLength (before ++ gap) = r.span.start := by
      rw [byteLength_append, hcursor, hgap]
    have hrest : source = (before ++ gap ++ old) ++ tail := by
      rw [hspan, List.append_assoc (before ++ gap)]
    have hstop : byteLength (before ++ gap ++ old) = r.span.stop := by
      rw [byteLength_append, hstart, hold]
    rw [Replacement.pieces, List.foldlM_cons]
    refine (adds_copied hsource hcursor hgap).bind fun next => ?_
    rw [List.foldlM_cons]
    exact (adds_replacement hspan hstart).bind fun next => ih hrest hstop

end Draft

/-! ### Whole modules -/

/-- The pieces after an offset that no replacement starts before. -/
theorem Draft.adds_ascending {draft : Draft} {offset : Nat} {before after : List Char}
    (hsource : source = before ++ after) (hoffset : byteLength before = offset)
    (h : Span.FitIn source ⟨offset, byteLength source⟩ (rs.map Replacement.span)) :
    draft.Adds source (exchangedBy Replacement.span Replacement.signs .copied rs offset after)
      ((Replacement.pieces (byteLength source) offset (Replacement.ascending rs)).foldlM
        (write (Lines.of source) source) draft) := by
  refine adds_pieces hsource hoffset ?_
  have hsplit : source = before ++ (after ++ []) := by rw [hsource, List.append_nil]
  exact exchanges_of_sorted h (Replacement.ascending_perm rs) (Replacement.ascending_sorted rs)
    hsplit hoffset (by rw [hsource, byteLength_append, hoffset])

/-- **The output of a module is its source, laid out.** -/
theorem adds_generate {header : Option Header}
    (hheader : ∀ h ∈ header, PlaceIn 0 source h.offset)
    (hfit : Span.FitIn source ⟨(header.map Header.offset).getD 0, byteLength source⟩
      (rs.map Replacement.span)) :
    Draft.empty.Adds source (laidOut Replacement.span Replacement.signs source header rs)
      (generate source header rs) := by
  cases header with
  | none => exact Draft.adds_ascending (List.nil_append source).symm rfl hfit
  | some header =>
    obtain ⟨before, after, hsource, hoffset⟩ := hheader header rfl
    rw [Nat.zero_add] at hoffset
    have hcut : cut source header.offset = some (before, after) :=
      cut_eq_some_iff.2 ⟨hsource, hoffset⟩
    -- with a header, the text before it is copied first, then the header is written
    have hlayout : layout source (some header) rs =
        some ([.copied ⟨0, header.offset⟩, .made (header.text after) none] ++
          Replacement.pieces (byteLength source) header.offset (Replacement.ascending rs)) := by
      simp [layout, Header.pieces, hcut]
    have hfirst : Draft.empty.Adds source (keptBy .copied 0 before)
        (Draft.empty.write (Lines.of source) source (.copied ⟨0, header.offset⟩)) := by
      have hsplit : source = [] ++ (before ++ after) := hsource
      exact Draft.adds_copied hsplit rfl (by omega)
    unfold generate laidOut
    rw [hlayout]
    simp only [hcut]
    show Draft.empty.Adds source _ (List.foldlM _ _ (_ :: _ :: _))
    rw [List.foldlM_cons]
    refine hfirst.bind fun next => ?_
    rw [List.foldlM_cons]
    exact (Draft.adds_written _).bind fun next => Draft.adds_ascending hsource hoffset hfit

/-- The text of the signs is that of the source with the replacements made. -/
theorem text_exchangedBy_signs (rs : List Replacement) (base : Nat) (cs : List Char) :
    Sign.text (exchangedBy Replacement.span Replacement.signs .copied rs base cs) =
      exchanged rs base cs := by
  have hcode : (fun r : Replacement => Sign.text r.signs) = Replacement.code := by
    funext r
    simp [Replacement.signs]
  rw [Sign.text_exchangedBy, exchanged_eq_exchangedBy, hcode]

/-- Without a header, the output is the source with the replacements made. -/
theorem generate_none_code
    (h : Span.FitIn source ⟨0, byteLength source⟩ (rs.map Replacement.span)) :
    ∃ draft, generate source none rs = some draft ∧ draft.code = exchanged rs 0 source := by
  have hadds : Draft.empty.Adds source _ (generate source none rs) := adds_generate (by simp) h
  obtain ⟨draft, -, hdraft, hcode, -⟩ := hadds
  exact ⟨draft, hdraft, hcode.trans (text_exchangedBy_signs rs 0 source)⟩

/-- With a header, the output is the source before its place, the header, and the rest of the
    source with the replacements made. -/
theorem generate_some_code {header : Header} {before after : List Char}
    (hsource : source = before ++ after) (hoffset : byteLength before = header.offset)
    (h : Span.FitIn source ⟨header.offset, byteLength source⟩ (rs.map Replacement.span)) :
    ∃ draft, generate source (some header) rs = some draft ∧
      draft.code = before ++ (header.text after ++ exchanged rs header.offset after) := by
  have hplace : ∀ h ∈ some header, PlaceIn 0 source h.offset := by
    intro h hh
    rw [← Option.mem_some.1 hh]
    exact ⟨before, after, hsource, by omega⟩
  have hcut : cut source header.offset = some (before, after) :=
    cut_eq_some_iff.2 ⟨hsource, hoffset⟩
  have hadds : Draft.empty.Adds source _ (generate source (some header) rs) :=
    adds_generate hplace h
  obtain ⟨draft, -, hdraft, hcode, -⟩ := hadds
  refine ⟨draft, hdraft, hcode.trans ?_⟩
  simp [laidOut, hcut, text_exchangedBy_signs, Draft.empty]

/-! ### Headers -/

/-- What stands between `before` and `after` is on lines of its own. -/
structure OnOwnLines (before after : List Char) : Prop where
  starts : before = [] ∨ ['\n'] <:+ before
  ends : after = [] ∨ ['\n'] <+: after ∨ ['\r', '\n'] <+: after

/-- A line ends in front of a text that is empty or starts with a line break. -/
theorem endsLine_iff {cs : List Char} :
    endsLine cs = true ↔ cs = [] ∨ ['\n'] <+: cs ∨ ['\r', '\n'] <+: cs := by
  constructor
  · intro h
    unfold endsLine at h
    split at h
    next => exact .inl rfl
    next rest => exact .inr (.inl ⟨rest, rfl⟩)
    next rest => exact .inr (.inr ⟨rest, rfl⟩)
    next => cases h
  · rintro (rfl | ⟨rest, rfl⟩ | ⟨rest, rfl⟩) <;> rfl

/-- **A header stands on lines of its own.** At most one line break is put before the statement and
    at most one after it. What follows in the output may be other text than the source after the
    place, as long as it starts with a line break where the source does. -/
theorem Header.text_spec (header : Header) {before : List Char}
    (hoffset : byteLength before = header.offset) (after : List Char) :
    ∃ lead trail, header.text after = lead ++ (header.statement ++ trail) ∧
      (lead = [] ∨ lead = ['\n']) ∧ (trail = [] ∨ trail = ['\n']) ∧
      ∀ rest, (endsLine after = true → endsLine rest = true) →
        OnOwnLines (before ++ lead) (trail ++ rest) := by
  unfold Header.text
  split
  -- at the very start no line feed is needed before the statement
  next hzero =>
    rw [hzero, byteLength_eq_zero] at hoffset
    exact ⟨[], ['\n'], rfl, .inl rfl, .inr rfl, fun rest _ =>
      ⟨.inl (by simp [hoffset]), .inr (.inl ⟨rest, rfl⟩)⟩⟩
  next =>
    split
    next hends =>
      exact ⟨['\n'], [], by simp, .inr rfl, .inl rfl, fun rest hrest =>
        ⟨.inr ⟨before, rfl⟩, endsLine_iff.1 (hrest hends)⟩⟩
    next =>
      exact ⟨['\n'], ['\n'], by simp, .inr rfl, .inr rfl, fun rest _ =>
        ⟨.inr ⟨before, rfl⟩, .inr (.inl ⟨rest, rfl⟩)⟩⟩

/-- Exchanging markup does not touch a line break at the front of a text, since markup opens with
    an angle bracket. -/
theorem endsLine_exchanged {base : Nat} {cs : List Char}
    (hopen : ∀ r ∈ rs, ∃ as bs, cs = as ++ '<' :: bs ∧ base + byteLength as = r.span.start)
    (h : endsLine cs = true) : endsLine (exchanged rs base cs) = true := by
  rcases endsLine_iff.1 h with rfl | ⟨rest, rfl⟩ | ⟨rest, rfl⟩
  · rfl
  · -- a replacement starts with an angle bracket, so none starts at the line feed
    have hstart : ∀ r ∈ rs, base + byteLength ['\n'] ≤ r.span.start := by
      intro r hr
      obtain ⟨as, bs, heq, hlen⟩ := hopen r hr
      match as with
      | [] => simp at heq
      | a :: as =>
        obtain ⟨rfl, -⟩ := List.cons.inj heq
        rw [← hlen, byteLength_cons, byteLength_cons, byteLength_nil]
        omega
    rw [exchanged_append, exchanged_of_clear fun r hr => .inl (hstart r hr)]
    rfl
  · have hstart : ∀ r ∈ rs, base + byteLength ['\r', '\n'] ≤ r.span.start := by
      intro r hr
      obtain ⟨as, bs, heq, hlen⟩ := hopen r hr
      match as with
      | [] => simp at heq
      | [_] => simp at heq
      | a :: b :: as =>
        obtain ⟨rfl, hcons⟩ := List.cons.inj heq
        obtain ⟨rfl, -⟩ := List.cons.inj hcons
        simp only [← hlen, byteLength_cons, byteLength_nil]
        omega
    rw [exchanged_append, exchanged_of_clear fun r hr => .inl (hstart r hr)]
    rfl

end JsxTemplate
