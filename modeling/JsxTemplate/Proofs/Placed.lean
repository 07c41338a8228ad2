import JsxTemplate.Proofs.Exchange
import JsxTemplate.Syntax.Outermost
import JsxTemplate.Transform

namespace JsxTemplate

open Text

/-!
# Trees that lie in a text

What is taken for granted of a tree that was read from a text: each span is a stretch of the text,
that of a part lies inside that of the whole, parts next to each other do not overlap, and markup is
not empty. All of it can be computed.

* `Expr.isPlaced source`, `Markup.isPlaced source` — this for expressions and markup.
* `Program.isPlaced source` — this for a module, where also no markup starts before the place of
  an import.
* `Expr.fitIn_outermost`, `Program.fitIn_outermost` — the outermost markup can then be exchanged
  piece by piece.
* `Program.exists_importOffset` — an import has a place in the text.
-/

/-! ### Spans -/

namespace Span

/-- Whether the span is a stretch of the text. -/
def isOn (source : List Char) (span : Span) : Bool :=
  span.start ≤ span.stop && (cut source span.start).isSome && (cut source span.stop).isSome

/-- Whether the span lies inside another one. -/
def isWithin (span outer : Span) : Bool :=
  outer.start ≤ span.start && span.stop ≤ outer.stop

/-- What it is to be a span of the source, as it is computed. -/
theorem isOn_iff {source : List Char} {span : Span} : span.isOn source = true ↔ span.On source := by
  unfold isOn
  rw [Bool.and_eq_true, Bool.and_eq_true, decide_eq_true_eq, isSome_cut_iff, isSome_cut_iff]
  exact ⟨fun ⟨⟨h₁, h₂⟩, h₃⟩ => ⟨h₁, h₂, h₃⟩, fun ⟨h₁, h₂, h₃⟩ => ⟨⟨h₁, h₂⟩, h₃⟩⟩

/-- What it is to lie in a span. -/
theorem isWithin_iff {span outer : Span} :
    span.isWithin outer = true ↔ outer.start ≤ span.start ∧ span.stop ≤ outer.stop := by
  simp [isWithin]

/-- Spans in spans in a span lie in it. -/
theorem isWithin_trans {s t u : Span} (h₁ : s.isWithin t = true) (h₂ : t.isWithin u = true) :
    s.isWithin u = true := by
  rw [isWithin_iff] at *
  omega

/-- What lies inside spans that are apart is apart. -/
theorem Apart.of_isWithin {s s' t t' : Span} (h : s.Apart t) (hs : s'.isWithin s = true)
    (ht : t'.isWithin t = true) : s'.Apart t' := by
  rw [isWithin_iff] at hs ht
  rcases h with h | h
  · left; omega
  · right; omega

end Span

/-- Whether the text has an opening angle bracket where the span starts. -/
def Span.opensTag (source : List Char) (span : Span) : Bool :=
  match cut source span.start with
  | some (_, '<' :: _) => true
  | _ => false

/-- The bracket is the first of the characters that are left where the span starts. -/
theorem Span.opensTag_of_cut {source front back : List Char} {span : Span}
    (h : cut source span.start = some (front, '<' :: back)) : span.opensTag source = true := by
  unfold Span.opensTag
  rw [h]
  rfl

/-- Where a span opens a tag after some text, the bracket stands in what follows this text. -/
theorem Span.exists_of_opensTag {before after : List Char} {span : Span}
    (h : span.opensTag (before ++ after) = true) (hle : byteLength before ≤ span.start) :
    ∃ as bs, after = as ++ '<' :: bs ∧ byteLength before + byteLength as = span.start := by
  unfold Span.opensTag at h
  split at h
  next front back hcut =>
    obtain ⟨hsource, hlen⟩ := cut_eq_some_iff.1 hcut
    have hplace : PlaceIn 0 (before ++ after) span.start := ⟨front, '<' :: back, hsource, by omega⟩
    obtain ⟨as, bs, rfl, has⟩ := hplace.of_append (by omega)
    rw [Nat.zero_add] at has
    -- there is one way to cut the text at the start of the span
    have hcut' : cut (before ++ (as ++ bs)) span.start = some (before ++ as, bs) :=
      cut_eq_some_iff.2 ⟨(List.append_assoc ..).symm, by rw [byteLength_append, has]⟩
    rw [hcut, Option.some.injEq, Prod.mk.injEq] at hcut'
    exact ⟨as, back, by rw [hcut'.2], has⟩
  next => cases h

mutual

/-- The outermost spans of a part. -/
def Part.spans : Part → List Span
  | .name _ _ => []
  | .expr value => [value.span]
  | .spread value => [value.span]
  | .function parts => Part.spansOf parts

/-- The outermost spans of several parts. -/
def Part.spansOf : List Part → List Span
  | [] => []
  | part :: rest => part.spans ++ Part.spansOf rest

end

/-- The outermost spans of a statement. -/
def Item.spans : Item → List Span
  | .imports _ => []
  | .code parts => Part.spansOf parts

/-! ### Trees -/

section

variable (source : List Char)

mutual

/-- Whether the spans of an expression lie in the text as those of a tree do. -/
def Expr.isPlaced : Expr → Bool
  | .name span _ => span.isOn source
  | .paren span inner => span.isOn source && inner.span.isWithin span && inner.isPlaced
  | .markup span node =>
    span.isOn source && span.start < span.stop && node.isPlaced
  | .compound _ span parts =>
    span.isOn source && (Part.spansOf parts).all (·.isWithin span) &&
      decide ((Part.spansOf parts).Pairwise Span.Apart) && Part.allPlaced parts

/-- Whether the spans of a part lie in the text. -/
def Part.isPlaced : Part → Bool
  | .name _ _ => true
  | .expr value => value.isPlaced
  | .spread value => value.isPlaced
  | .function parts => Part.allPlaced parts

/-- Whether the spans of several parts lie in the text. -/
def Part.allPlaced : List Part → Bool
  | [] => true
  | part :: rest => part.isPlaced && Part.allPlaced rest

/-- Whether the spans of markup lie in the text. -/
def Markup.isPlaced : Markup → Bool
  | .element span _ _ attributes children =>
    span.isOn source && Attribute.allPlaced attributes && Markup.allPlaced children
  | .component span _ _ attributes children =>
    span.isOn source && Attribute.allPlaced attributes && Markup.allPlaced children
  | .fragment children => Markup.allPlaced children
  | .text _ => true
  | .hole _ value => value.isPlaced

/-- Whether the spans of several pieces of markup lie in the text. -/
def Markup.allPlaced : List Markup → Bool
  | [] => true
  | node :: rest => node.isPlaced && Markup.allPlaced rest

/-- Whether the spans of an attribute lie in the text. -/
def Attribute.isPlaced : Attribute → Bool
  | .named _ value => value.isPlaced
  | .spread value => value.isPlaced

/-- Whether the spans of several attributes lie in the text. -/
def Attribute.allPlaced : List Attribute → Bool
  | [] => true
  | a :: rest => a.isPlaced && Attribute.allPlaced rest

/-- Whether the spans of the value of an attribute lie in the text. -/
def AttributeValue.isPlaced : AttributeValue → Bool
  | .literal _ => true
  | .bare => true
  | .expr value => value.isPlaced
  | .markup node => node.isPlaced

end

/-- Whether the spans of a statement lie in the text. -/
def Item.isPlaced : Item → Bool
  | .imports _ => true
  | .code parts => Part.allPlaced source parts

/-- Whether the spans of a module lie in the text, with no markup before the place of an import. -/
def Program.isPlaced (program : Program) : Bool :=
  program.hashbang.all (Span.isOn source) && program.directives.all (Span.isOn source) &&
    program.items.all (Item.isPlaced source) &&
    decide ((program.items.flatMap Item.spans).Pairwise Span.Apart) &&
    (program.importOffset source).all fun offset =>
      program.outermost.all fun piece => offset ≤ piece.1.start

/-- Whether markup is a tag or a fragment, and not what stands between two tags. -/
def Markup.isTag : Markup → Bool
  | .element .. => true
  | .component .. => true
  | .fragment _ => true
  | .text _ => false
  | .hole .. => false

/-! ### Outermost markup -/

/-- Whether a span can be that of markup, which lies in the text as well. -/
def Markup.isPieceOf (piece : Span × Markup) : Bool :=
  piece.1.isOn source && piece.1.start < piece.1.stop && piece.2.isPlaced source

/-- Pieces of markup that are apart, each in one of some spans. -/
structure Markup.PiecesIn (spans : List Span) (pieces : List (Span × Markup)) : Prop where
  placed : ∀ p ∈ pieces, Markup.isPieceOf source p = true
  within : ∀ p ∈ pieces, ∃ s ∈ spans, p.1.isWithin s = true
  apart : pieces.Pairwise fun p q => p.1.Apart q.1

end

variable {source : List Char}

namespace Markup.PiecesIn

variable {ss ts : List Span} {ps qs : List (Span × Markup)}

/-- No markup is in any spans. -/
theorem nil : PiecesIn source ss [] := ⟨by simp, by simp, .nil⟩

/-- The spans of pieces are spans of the source. -/
theorem on (hp : PiecesIn source ss ps) : ∀ p ∈ ps, p.1.On source := by
  intro p hmem
  have h := hp.placed p hmem
  simp only [Markup.isPieceOf, Bool.and_eq_true] at h
  exact Span.isOn_iff.1 h.1.1

/-- Pieces in spans that are apart may be put together. -/
theorem append (hp : PiecesIn source ss ps) (hq : PiecesIn source ts qs)
    (h : ∀ s ∈ ss, ∀ t ∈ ts, s.Apart t) : PiecesIn source (ss ++ ts) (ps ++ qs) where
  placed := by
    intro p hmem
    exact (List.mem_append.1 hmem).elim (hp.placed p) (hq.placed p)
  within := by
    intro p hmem
    rcases List.mem_append.1 hmem with hmem | hmem
    · obtain ⟨s, hs, hin⟩ := hp.within p hmem
      exact ⟨s, List.mem_append_left _ hs, hin⟩
    · obtain ⟨t, ht, hin⟩ := hq.within p hmem
      exact ⟨t, List.mem_append_right _ ht, hin⟩
  apart := by
    -- pieces from the two sides lie in spans that are apart
    refine List.pairwise_append.2 ⟨hp.apart, hq.apart, fun p hp' q hq' => ?_⟩
    obtain ⟨s, hs, hps⟩ := hp.within p hp'
    obtain ⟨t, ht, hqt⟩ := hq.within q hq'
    exact (h s hs t ht).of_isWithin hps hqt

/-- Pieces in spans inside another one are in that one. -/
theorem widen {outer : Span} (hp : PiecesIn source ss ps)
    (h : ∀ s ∈ ss, s.isWithin outer = true) : PiecesIn source [outer] ps where
  placed := hp.placed
  within := by
    intro p hmem
    obtain ⟨s, hs, hin⟩ := hp.within p hmem
    exact ⟨outer, by simp, Span.isWithin_trans hin (h s hs)⟩
  apart := hp.apart

/-- Pieces can be exchanged independently of each other inside any span around them. -/
theorem fitIn {outer : Span} (hp : PiecesIn source ss ps)
    (hin : ∀ p ∈ ps, p.1.isWithin outer = true) :
    Span.FitIn source outer (ps.map Prod.fst) where
  apart := List.pairwise_map.2 hp.apart
  nonempty := by
    intro s hs
    obtain ⟨p, hmem, rfl⟩ := List.mem_map.1 hs
    have h := hp.placed p hmem
    simp only [Markup.isPieceOf, Bool.and_eq_true, decide_eq_true_eq] at h
    exact h.1.2
  inside := by
    intro s hs
    obtain ⟨p, hmem, rfl⟩ := List.mem_map.1 hs
    exact Span.isWithin_iff.1 (hin p hmem)
  on := by
    intro s hs
    obtain ⟨p, hmem, rfl⟩ := List.mem_map.1 hs
    exact hp.on p hmem

end Markup.PiecesIn

/-- The span of a placed expression is one of the source. -/
theorem Expr.on_span : (e : Expr) → e.isPlaced source = true → e.span.On source
  | .name span _, h => Span.isOn_iff.1 h
  | .paren span _, h => by
    simp only [Expr.isPlaced, Bool.and_eq_true] at h
    exact Span.isOn_iff.1 h.1.1
  | .markup span _, h => by
    simp only [Expr.isPlaced, Bool.and_eq_true] at h
    exact Span.isOn_iff.1 h.1.1
  | .compound _ span _, h => by
    simp only [Expr.isPlaced, Bool.and_eq_true] at h
    exact Span.isOn_iff.1 h.1.1.1

mutual

/-- The outermost markup of an expression lies in its span, piece by piece. -/
theorem Expr.piecesIn_outermost : (e : Expr) → e.isPlaced source = true →
    Markup.PiecesIn source [e.span] e.outermost
  | .name _ _, _ => .nil
  | .paren span inner, h => by
    simp only [Expr.isPlaced, Bool.and_eq_true] at h
    -- the markup is inside of the inner span, which is inside of the parentheses
    refine (inner.piecesIn_outermost h.2).widen fun s hs => ?_
    rw [List.mem_singleton.1 hs]
    exact h.1.2
  | .markup span node, h => by
    refine ⟨?_, ?_, List.pairwise_singleton _ _⟩
    · intro p hp
      rw [List.mem_singleton.1 hp]
      exact h
    · intro p hp
      rw [List.mem_singleton.1 hp]
      exact ⟨span, by simp [Expr.span], Span.isWithin_iff.2 ⟨Nat.le_refl _, Nat.le_refl _⟩⟩
  | .compound _ span parts, h => by
    simp only [Expr.isPlaced, Bool.and_eq_true, decide_eq_true_eq] at h
    -- the parts are apart and inside of the whole, and so is the markup in them
    exact (Part.piecesIn_outermostOf parts h.2 h.1.2).widen (List.all_eq_true.1 h.1.1.2)

/-- The same for a part, whose expressions are apart. -/
theorem Part.piecesIn_outermost : (part : Part) → part.isPlaced source = true →
    part.spans.Pairwise Span.Apart → Markup.PiecesIn source part.spans part.outermost
  | .name _ _, _, _ => .nil
  | .expr value, h, _ => value.piecesIn_outermost h
  | .spread value, h, _ => value.piecesIn_outermost h
  | .function parts, h, happart => Part.piecesIn_outermostOf parts h happart

theorem Part.piecesIn_outermostOf : (parts : List Part) → Part.allPlaced source parts = true →
    (Part.spansOf parts).Pairwise Span.Apart →
    Markup.PiecesIn source (Part.spansOf parts) (Part.outermostOf parts)
  | [], _, _ => .nil
  | part :: rest, h, happart => by
    simp only [Part.allPlaced, Bool.and_eq_true] at h
    obtain ⟨hpart, hrest, hcross⟩ := List.pairwise_append.1 happart
    exact (part.piecesIn_outermost h.1 hpart).append
      (Part.piecesIn_outermostOf rest h.2 hrest) hcross

end

/-- The outermost markup of an expression can be exchanged inside its span. -/
theorem Expr.fitIn_outermost (e : Expr) (h : e.isPlaced source = true) :
    Span.FitIn source e.span (e.outermost.map Prod.fst) := by
  have hp := e.piecesIn_outermost h
  refine hp.fitIn fun p hmem => ?_
  obtain ⟨s, hs, hin⟩ := hp.within p hmem
  exact List.mem_singleton.1 hs ▸ hin

/-! ### Modules -/

/-- The same for a statement of a module. -/
theorem Item.piecesIn_outermost (item : Item) (h : item.isPlaced source = true)
    (happart : item.spans.Pairwise Span.Apart) :
    Markup.PiecesIn source item.spans item.outermost := by
  cases item with
  | imports declaration => exact .nil
  | code parts => exact Part.piecesIn_outermostOf parts h happart

/-- The same for several statements. -/
theorem Item.piecesIn_flatMap_outermost (items : List Item)
    (h : ∀ item ∈ items, item.isPlaced source = true)
    (happart : (items.flatMap Item.spans).Pairwise Span.Apart) :
    Markup.PiecesIn source (items.flatMap Item.spans) (items.flatMap Item.outermost) := by
  induction items with
  | nil => exact .nil
  | cons item rest ih =>
    -- the spans of the first statement are apart from those of all others
    obtain ⟨hitem, hrest, hcross⟩ := List.pairwise_append.1 happart
    exact (item.piecesIn_outermost (h item (by simp)) hitem).append
      (ih (fun i hi => h i (List.mem_cons_of_mem _ hi)) hrest) hcross

/-- What `Program.isPlaced` says of the items of a module. -/
theorem Program.piecesIn_outermost {program : Program} (h : program.isPlaced source = true) :
    Markup.PiecesIn source (program.items.flatMap Item.spans) program.outermost := by
  simp only [Program.isPlaced, Bool.and_eq_true, decide_eq_true_eq] at h
  exact Item.piecesIn_flatMap_outermost _ (List.all_eq_true.1 h.1.1.2) h.1.2

/-- Each piece of the outermost markup of a placed module is placed. -/
theorem Program.isPlaced_of_mem_outermost {program : Program} (h : program.isPlaced source = true)
    {piece : Span × Markup} (hmem : piece ∈ program.outermost) :
    piece.2.isPlaced source = true := by
  have hpiece := (Program.piecesIn_outermost h).placed piece hmem
  rw [Markup.isPieceOf, Bool.and_eq_true] at hpiece
  exact hpiece.2

/-- The outermost markup of a module can be exchanged in the text from any offset on that it does
    not start before. -/
theorem Program.fitIn_outermost {program : Program} (h : program.isPlaced source = true)
    {offset : Nat} (hle : ∀ p ∈ program.outermost, offset ≤ p.1.start) :
    Span.FitIn source ⟨offset, byteLength source⟩ (program.outermost.map Prod.fst) := by
  have hp := Program.piecesIn_outermost h
  refine hp.fitIn fun p hmem => Span.isWithin_iff.2 ⟨hle p hmem, ?_⟩
  obtain ⟨before, after, rfl, hlen⟩ := (hp.on p hmem).stop_place
  show p.1.stop ≤ byteLength (before ++ after)
  rw [byteLength_append]
  omega

/-- Blanks and a semicolon at the front of a text end at a place of it. -/
theorem placeIn_semicolonLength (base : Nat) (cs : List Char) :
    PlaceIn base cs (base + semicolonLength cs) := by
  unfold semicolonLength
  dsimp only
  generalize hblanks : cs.takeWhile (fun c => c == ' ' || c == '\t') = blanks
  -- the blanks and what is after them are the whole text
  have hcs : blanks ++ cs.drop blanks.length = cs := by
    rw [← hblanks]
    exact List.prefix_iff_eq_append.1 (List.takeWhile_prefix _)
  split
  next after hafter =>
    refine ⟨blanks ++ [';'], after, ?_, ?_⟩
    · rw [List.append_assoc, List.singleton_append, ← hafter, hcs]
    · rw [byteLength_append]
      rfl
  next => exact .start

/-- The end of a span, or the start of the text if there is none, is a place. -/
theorem placeIn_stop_getD {found : Option Span} (h : ∀ s ∈ found, s.isOn source = true) :
    PlaceIn 0 source ((found.map Span.stop).getD 0) := by
  cases found with
  | none => exact .start
  | some span => exact (Span.isOn_iff.1 (h span rfl)).stop_place

/-- The prologue ends at a place of the source. -/
theorem Program.placeIn_prologueStop {program : Program} (h : program.isPlaced source = true) :
    PlaceIn 0 source program.prologueStop := by
  simp only [Program.isPlaced, Bool.and_eq_true, Option.all_eq_true] at h
  have hhashbang := placeIn_stop_getD h.1.1.1.1
  have hdirectives : PlaceIn 0 source ((program.directives.getLast?.map Span.stop).getD 0) :=
    placeIn_stop_getD fun s hs =>
      List.all_eq_true.1 h.1.1.1.2 s (List.mem_of_getLast? hs)
  -- the prologue ends at the later one of two ends, and both are places
  unfold Program.prologueStop
  rw [Nat.max_def]
  split
  · exact hdirectives
  · exact hhashbang

/-- An import has a place in the text. -/
theorem Program.exists_importOffset {program : Program} (h : program.isPlaced source = true) :
    ∃ offset, program.importOffset source = some offset ∧ PlaceIn 0 source offset := by
  unfold Program.importOffset
  by_cases hzero : program.prologueStop = 0
  · exact ⟨0, by simp [hzero], .start⟩
  · obtain ⟨before, after, rfl, hlen⟩ := Program.placeIn_prologueStop h
    rw [Nat.zero_add] at hlen
    refine ⟨program.prologueStop + semicolonLength after, ?_, ?_⟩
    · rw [← hlen] at hzero ⊢
      simp [hzero, cut_append]
    · -- a place after the prologue, counted from there, is one of the whole text
      obtain ⟨blanks, rest, rfl, hblanks⟩ := placeIn_semicolonLength (byteLength before) after
      refine ⟨before ++ blanks, rest, by rw [List.append_assoc], ?_⟩
      rw [byteLength_append, Nat.zero_add, ← hlen, hblanks]

/-- No outermost markup starts before the place of an import. -/
theorem Program.importOffset_le_start {program : Program} (h : program.isPlaced source = true)
    {offset : Nat} (hoffset : program.importOffset source = some offset) :
    ∀ p ∈ program.outermost, offset ≤ p.1.start := by
  simp only [Program.isPlaced, Bool.and_eq_true, hoffset, Option.all_some] at h
  intro p hp
  simpa using List.all_eq_true.1 h.2 p hp

end JsxTemplate
