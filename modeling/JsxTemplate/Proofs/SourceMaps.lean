import JsxTemplate.Proofs.Layout
import JsxTemplate.Proofs.Placed
import JsxTemplate.Proofs.Settings

namespace JsxTemplate

open Text

/-!
# Marks lead back to the source

The marks of an output are few: one for each line of copied text and one for each replacement. Yet
they lead from every copied character back to its place in the source, since between two marks of a
line the columns of source and output grow alike.

* `Mark.lastUpTo` — the mark that counts for a position of the output.
* `Mark.resolve` — the position of the source that a mark gives for a position on its line.
* `Sign.AllAt Q p signs` — `Q` holds of each sign at its position.
* `Marked.resolves` — the marks of signs lead back to where they come from.
* `generate_marks_resolve` — the same for the output of a module.
-/

/-! ### Marks that count -/

/-- The last mark that is not after a position of the output. -/
def Mark.lastUpTo (marks : List Mark) (p : Position) : Option Mark :=
  (marks.filter fun m => m.generated ≤ p).getLast?

/-- The position of the source that a mark gives for a position on its line of the output. -/
def Mark.resolve (m : Mark) (p : Position) : Position :=
  ⟨m.source.line, m.source.column + (p.column - m.generated.column)⟩

/-- A mark that counts still counts if there are more before it. -/
theorem Mark.lastUpTo_cons {marks : List Mark} {p : Position} {m : Mark} (first : Mark)
    (h : lastUpTo marks p = some m) : lastUpTo (first :: marks) p = some m := by
  unfold lastUpTo at *
  rw [List.filter_cons]
  split
  · rw [List.getLast?_cons, h]
    rfl
  · exact h

/-- The first mark counts up to the next one. -/
theorem Mark.lastUpTo_cons_self {marks : List Mark} {p : Position} {m : Mark}
    (hm : m.generated ≤ p) (h : ∀ n ∈ marks, ¬ n.generated ≤ p) :
    lastUpTo (m :: marks) p = some m := by
  have hnone : (marks.filter fun n => n.generated ≤ p) = [] := by
    rw [List.filter_eq_nil_iff]
    intro n hn
    simpa using h n hn
  unfold lastUpTo
  rw [List.filter_cons_of_pos (by simpa using hm), hnone]
  rfl

/-! ### Signs at their positions -/

/-- Each sign satisfies a property at its position, the first one at `p`. -/
def Sign.AllAt (Q : Position → Sign → Prop) : Position → List Sign → Prop
  | _, [] => True
  | p, s :: rest => Q p s ∧ AllAt Q (p.after s.char?.toList) rest

namespace Sign.AllAt

variable {Q R : Position → Sign → Prop} {p : Position} {as bs : List Sign}

/-- A property of signs at their positions, for two rows of them. -/
theorem append_iff :
    AllAt Q p (as ++ bs) ↔ AllAt Q p as ∧ AllAt Q (p.after (Sign.text as)) bs := by
  induction as generalizing p with
  | nil => simp [AllAt]
  | cons s as ih =>
    rw [List.cons_append, AllAt, AllAt, ih, Sign.text_cons, Position.after_append, and_assoc]

/-- A sign satisfies the property at the position after all signs before it. -/
theorem of_append_cons {s : Sign} (h : AllAt Q p (as ++ s :: bs)) : Q (p.after (Sign.text as)) s :=
  (append_iff.1 h).2.1

/-- What is true of all signs implies what follows from it. -/
theorem imp (hQR : ∀ q s, Q q s → R q s) (h : AllAt Q p as) : AllAt R p as := by
  induction as generalizing p with
  | nil => trivial
  | cons s as ih => exact ⟨hQR _ _ h.1, ih h.2⟩

end Sign.AllAt

/-! ### Where marks lead -/

variable {source : List Char} {p : Position} {signs : List Sign} {marks : List Mark}

/-- What marks tell of a sign at a position: the mark that counts for a copied character is on its
    line and leads to its place in the source; the code in place of a span starts with a mark that
    leads to the start of the span. -/
def Mark.Resolves (source : List Char) (marks : List Mark) (p : Position) : Sign → Prop
  | .copied offset _ => ∃ m, Mark.lastUpTo marks p = some m ∧ m.generated.line = p.line ∧
      m.generated.column ≤ p.column ∧
      (Lines.of source).unitPosition source offset = some (m.resolve p)
  | .start span => ∃ m ∈ marks, m.generated = p ∧
      (Lines.of source).unitPosition source span.start = some m.source
  | _ => True

/-- A sign that is resolved by marks is so with one more in front. -/
theorem Mark.Resolves.cons {s : Sign} (first : Mark) (h : Mark.Resolves source marks p s) :
    Mark.Resolves source (first :: marks) p s := by
  -- a copied character asks for the last mark, which the ones behind it do not change
  cases s with
  | copied offset c =>
    obtain ⟨m, hm, hrest⟩ := h
    exact ⟨m, Mark.lastUpTo_cons first hm, hrest⟩
  | start span =>
    obtain ⟨m, hm, hrest⟩ := h
    exact ⟨m, List.mem_cons_of_mem _ hm, hrest⟩
  | made c => trivial
  | helper h => trivial
  | stop span => trivial

/-- Marks are never before the position where writing began. -/
theorem Marked.le_generated (h : Marked source p signs marks) : ∀ m ∈ marks, p ≤ m.generated := by
  induction h with
  | nil p => simp
  | made c _ ih => exact fun m hm => Position.le_trans (Position.le_after _ _) (ih m hm)
  | stop span _ ih => exact ih
  | start hsource hstart _ ih =>
    intro m hm
    rcases List.mem_cons.1 hm with rfl | hm
    · exact Position.le_refl _
    · exact ih m hm
  -- the mark of a line stands before all marks behind the line
  | line hsource hline _ ih =>
    intro m hm
    rcases List.mem_cons.1 hm with rfl | hm
    · exact Position.le_refl _
    · exact Position.le_trans (Position.le_after _ _) (ih m hm)

/-- Marks come in the order of the output. -/
theorem Marked.sorted (h : Marked source p signs marks) :
    marks.Pairwise fun m n => m.generated ≤ n.generated := by
  induction h with
  | nil p => exact .nil
  | made c _ ih => exact ih
  | stop span _ ih => exact ih
  | start hsource hstart hrest ih => exact List.pairwise_cons.2 ⟨hrest.le_generated, ih⟩
  | line hsource hline hrest ih =>
    refine List.pairwise_cons.2 ⟨fun m hm => ?_, ih⟩
    exact Position.le_trans (Position.le_after _ _) (hrest.le_generated m hm)

/-- The mark of a line counts for each of its characters: `done` are those before the ones in
    question, and no line feed is among them. -/
theorem Mark.allAt_line {before done rest after : List Char}
    (hsource : source = before ++ (done ++ rest ++ after)) (hline : '\n' ∉ (done ++ rest).dropLast)
    (hdone : '\n' ∉ done) (hmarks : ∀ m ∈ marks, p.after (done ++ rest) ≤ m.generated) :
    Sign.AllAt (Mark.Resolves source (⟨p, Position.origin.after before⟩ :: marks)) (p.after done)
      (keptBy .copied (byteLength (before ++ done)) rest) := by
  induction rest generalizing done with
  | nil => trivial
  | cons c rest ih =>
    refine ⟨⟨⟨p, Position.origin.after before⟩, ?_, ?_⟩, ?_⟩
    · -- the next mark is after this character
      refine Mark.lastUpTo_cons_self (Position.le_after p done) fun m hm hle => ?_
      have hnext := Position.le_trans (hmarks m hm) hle
      rw [Position.after_append, Position.after_cons] at hnext
      exact Position.not_after_singleton_le _ c
        (Position.le_trans (Position.le_after _ rest) hnext)
    · -- source and output have gone on by the same text since the mark
      have hplace : (Lines.of source).unitPosition source (byteLength (before ++ done)) =
          some ((Position.origin.after before).after done) := by
        have hsplit : source = (before ++ done) ++ (c :: rest ++ after) := by
          rw [hsource]; simp only [List.append_assoc]
        rw [hsplit, Lines.unitPosition_append, Position.after_append]
      rw [hplace, Position.after_of_not_mem p hdone, Position.after_of_not_mem _ hdone]
      refine ⟨rfl, Nat.le_add_right _ _, ?_⟩
      simp [Mark.resolve]
    · cases rest with
      | nil => trivial
      | cons d rest =>
        have hmove : done ++ c :: d :: rest = (done ++ [c]) ++ d :: rest := by simp
        rw [hmove] at hsource hline hmarks
        have hc : '\n' ∉ done ++ [c] := by
          intro hmem
          rw [List.dropLast_append_of_ne_nil (by simp)] at hline
          exact hline (List.mem_append_left _ hmem)
        have hnext := ih hsource hline hc hmarks
        rw [Position.after_append, ← List.append_assoc, byteLength_append (before ++ done)] at hnext
        exact hnext

/-- **Marks lead back.** The marks of signs lead from each copied character to its place in the
    source, and from the code in place of a span to the start of the span. -/
theorem Marked.resolves (h : Marked source p signs marks) :
    Sign.AllAt (Mark.Resolves source marks) p signs := by
  induction h with
  | nil p => trivial
  | made c _ ih => exact ⟨trivial, ih⟩
  | stop span _ ih => exact ⟨trivial, ih⟩
  | @start p signs marks before after span hsource hstart _ ih =>
    refine ⟨⟨_, List.mem_cons_self, rfl, ?_⟩, ih.imp fun _ _ hs => hs.cons _⟩
    rw [← hstart, hsource, Lines.unitPosition_append]
  | @line p signs marks before line after hsource hline hrest ih =>
    -- the copied line resolves through its own mark, all else through the marks behind it
    refine Sign.AllAt.append_iff.2 ⟨?_, ?_⟩
    · have hall : Sign.AllAt (Mark.Resolves source (⟨p, Position.origin.after before⟩ :: marks))
          (p.after []) (keptBy .copied (byteLength (before ++ [])) line) :=
        Mark.allAt_line hsource hline (by simp) hrest.le_generated
      rw [List.append_nil] at hall
      exact hall
    · rw [Sign.text_keptBy]
      exact ih.imp fun _ _ hs => hs.cons _

/-! ### The map of a module -/

/-- **The marks of a module.** For replacements that fit after the header, the output is the source
    laid out. The last mark up to a copied character is on its line, and the position of the source
    that it gives is that of the character. The code of a replacement starts at a mark for the start
    of its span. The marks come in the order of the output, and whether a source map is made of them
    does not change the code of a module. -/
theorem generate_marks_resolve (source : List Char) (header : Option Header)
    (rs : List Replacement) (hheader : ∀ h ∈ header, PlaceIn 0 source h.offset)
    (hfit : Span.FitIn source ⟨(header.map Header.offset).getD 0, byteLength source⟩
      (rs.map Replacement.span)) :
    let signs := laidOut Replacement.span Replacement.signs source header rs
    ∃ draft, generate source header rs = some draft ∧ draft.code = Sign.text signs ∧
      (∀ as offset c bs, signs = as ++ .copied offset c :: bs →
        (∃ before after, source = before ++ c :: after ∧ byteLength before = offset) ∧
        ∃ p m, (Lines.of draft.code).unitPosition draft.code (byteLength (Sign.text as)) = some p ∧
          Mark.lastUpTo draft.marks p = some m ∧ m.generated.line = p.line ∧
          m.generated.column ≤ p.column ∧
          (Lines.of source).unitPosition source offset = some (m.resolve p)) ∧
      (∀ r ∈ rs, ∃ as bs, signs = as ++ (r.signs ++ bs) ∧ ∃ m ∈ draft.marks,
        (Lines.of draft.code).unitPosition draft.code (byteLength (Sign.text as)) =
          some m.generated ∧
        (Lines.of source).unitPosition source r.span.start = some m.source) ∧
      draft.marks.Pairwise (fun m n => m.generated ≤ n.generated) ∧
      ∀ (program : Program) (file : String) (options : Options) (isMapped : Bool),
        (program.compile source file { options with sourceMap := isMapped }).map Compiled.code =
          (program.compile source file options).map Compiled.code := by
  intro signs
  have hadds : Draft.empty.Adds source signs (generate source header rs) :=
    adds_generate hheader hfit
  obtain ⟨draft, marks, hdraft, hcode, -, hmarks, hmarked⟩ := hadds
  rw [Draft.empty, List.nil_append] at hcode hmarks
  have hresolves : Sign.AllAt (Mark.Resolves source draft.marks) Position.origin signs := by
    rw [hmarks]
    exact hmarked.resolves
  -- the position of a sign is found by reading the text before it
  have hposition : ∀ as bs, signs = as ++ bs →
      (Lines.of draft.code).unitPosition draft.code (byteLength (Sign.text as)) =
        some (Position.origin.after (Sign.text as)) := by
    intro as bs heq
    rw [hcode, heq, Sign.text_append, Lines.unitPosition_append]
  refine ⟨draft, hdraft, hcode, ?_, ?_, ?_, fun program file options isMapped =>
    program.compile_code_congr source file options isMapped⟩
  · intro as offset c bs heq
    have hmem : Sign.copied offset c ∈ signs := by
      rw [heq]
      simp
    have hfrom : Sign.IsFrom source (.copied offset c) := by
      have hR := Sign.additive_isFrom source
      exact hR.laidOut (fun r _ => hR.enclosed r.span (hR.written r.code)) _ hmem
    have hat := hresolves
    rw [heq] at hat
    obtain ⟨m, hlast, hline, hcolumn, hplace⟩ := hat.of_append_cons
    exact ⟨hfrom, _, m, hposition _ _ heq, hlast, hline, hcolumn, hplace⟩
  · intro r hr
    obtain ⟨as, bs, heq⟩ : ∃ as bs, signs = as ++ (r.signs ++ bs) :=
      exists_laidOut_append hheader hfit hr
    have hat := hresolves
    rw [heq, Replacement.signs, Sign.enclosed, List.cons_append] at hat
    obtain ⟨m, hm, hgenerated, hplace⟩ := hat.of_append_cons
    exact ⟨as, bs, heq, m, hm, by rw [hposition _ _ heq, hgenerated], hplace⟩
  · rw [hmarks]
    exact hmarked.sorted

/-- A character after code of two lines, which stands in place of a tag after a character of two
    UTF-16 units, below a header. -/
theorem generate_marks_resolve_second_line :
    ∃ (source : List Char) (draft : Draft) (m : Mark),
      source = "'a';\n😀<b/>y".toList ∧
      generate source (some ⟨4, "import".toList⟩) [⟨⟨9, 13⟩, "h\ni".toList⟩] = some draft ∧
      draft.code = "'a';\nimport\n😀h\niy".toList ∧
      Mark.lastUpTo draft.marks ⟨3, 1⟩ = some m ∧
      (Lines.of source).unitPosition source 13 = some (m.resolve ⟨3, 1⟩) := by
  obtain ⟨source, hsource⟩ : ∃ s, s = "'a';\n😀<b/>y".toList := ⟨_, rfl⟩
  have hon : Span.On source ⟨9, 13⟩ := Span.isOn_iff.1 (by rw [hsource]; decide)
  have hheader : ∀ h ∈ some (⟨4, "import".toList⟩ : Header), PlaceIn 0 source h.offset := by
    intro h hh
    rw [← Option.mem_some.1 hh, hsource]
    exact ⟨"'a';".toList, "\n😀<b/>y".toList, rfl, rfl⟩
  have hfit : Span.FitIn source
      ⟨((some (⟨4, "import".toList⟩ : Header)).map Header.offset).getD 0, byteLength source⟩
      ([⟨⟨9, 13⟩, "h\ni".toList⟩].map Replacement.span) := by
    refine ⟨by simp, by simp, ?_, by simpa using hon⟩
    rw [hsource]
    decide
  obtain ⟨draft, hdraft, hcode, hcopied, -⟩ := generate_marks_resolve source
    (some ⟨4, "import".toList⟩) [⟨⟨9, 13⟩, "h\ni".toList⟩] hheader hfit
  have hsigns : laidOut Replacement.span Replacement.signs source (some ⟨4, "import".toList⟩)
      [⟨⟨9, 13⟩, "h\ni".toList⟩] =
      keptBy .copied 0 "'a';".toList ++ (Sign.written "\nimport".toList ++
        (keptBy .copied 4 "\n😀".toList ++ Sign.enclosed ⟨9, 13⟩ (Sign.written "h\ni".toList))) ++
        [.copied 13 'y'] := by
    rw [hsource]
    decide
  obtain ⟨-, p, m, hp, hlast, -, -, hplace⟩ := hcopied _ 13 'y' [] hsigns
  have htext : draft.code = "'a';\nimport\n😀h\niy".toList := by
    rw [hcode, hsigns]
    decide
  have hat : p = ⟨3, 1⟩ := by
    rw [htext] at hp
    exact Option.some.inj (hp.symm.trans (by decide))
  rw [hat] at hlast hplace
  exact ⟨source, draft, m, hsource, hdraft, htext, hlast, hplace⟩

end JsxTemplate
