import JsxTemplate.Output.Layout
import JsxTemplate.Proofs.Places
import Mathlib.Data.List.Pairwise
import Mathlib.Data.List.Sort

namespace JsxTemplate

open Text

/-!
# Exchanging spans of a text for new code

What it means to replace spans of a text, said character by character and without a cursor, an
order or an edit: the code of a replacement stands where its span starts, and a character is kept
if no span covers it.

* `exchanged rs base cs` — the text `cs`, which starts at offset `base`, with the replacements made.
* `exchangedBy span content keep ps base cs` — the same with content of any kind in place of the
  spans, where kept characters may carry their offsets.
* `Span.FitIn source outer spans` — the spans are places inside `outer`, not empty, and no two of
  them overlap.
* `Exchanges` — the same from left to right: the text before the first span, its content, the rest.
* `exchanges_of_sorted` — pieces that fit are exchanged from left to right once they are sorted.
* `splice_eq_exchanged` — replacing from the last span to the first comes to the same.
-/

/-! ### Spans -/

/-- Whether a byte offset lies in the span. -/
def Span.covers (span : Span) (offset : Nat) : Bool :=
  span.start ≤ offset && offset < span.stop

/-- The spans have no byte in common. -/
def Span.Apart (s t : Span) : Prop :=
  s.stop ≤ t.start ∨ t.stop ≤ s.start

instance (s t : Span) : Decidable (s.Apart t) :=
  inferInstanceAs (Decidable (_ ∨ _))

/-- It does not matter which of two spans is named first. -/
theorem Span.Apart.symm {s t : Span} (h : s.Apart t) : t.Apart s := Or.symm h

/-- The span is a stretch of the text. -/
structure Span.On (source : List Char) (span : Span) : Prop where
  start_le_stop : span.start ≤ span.stop
  start_place : PlaceIn 0 source span.start
  stop_place : PlaceIn 0 source span.stop

/-- Spans inside another one that can be exchanged independently of each other. -/
structure Span.FitIn (source : List Char) (outer : Span) (spans : List Span) : Prop where
  apart : spans.Pairwise Span.Apart
  nonempty : ∀ s ∈ spans, s.start < s.stop
  inside : ∀ s ∈ spans, outer.start ≤ s.start ∧ s.stop ≤ outer.stop
  on : ∀ s ∈ spans, s.On source

/-- Spans fit in any order. -/
theorem Span.FitIn.perm {source : List Char} {outer : Span} {ss ts : List Span}
    (h : FitIn source outer ss) (hp : ss.Perm ts) : FitIn source outer ts where
  apart := h.apart.perm hp Span.Apart.symm
  nonempty := fun s hs => h.nonempty s (hp.mem_iff.2 hs)
  inside := fun s hs => h.inside s (hp.mem_iff.2 hs)
  on := fun s hs => h.on s (hp.mem_iff.2 hs)

/-! ### The text with its spans exchanged -/

/-- The code that stands at an offset. -/
def codeAt (rs : List Replacement) (offset : Nat) : List Char :=
  (rs.filter fun r => r.span.start = offset).flatMap Replacement.code

/-- Whether the character at an offset is replaced. -/
def isCovered (rs : List Replacement) (offset : Nat) : Bool :=
  rs.any fun r => r.span.covers offset

/-- A text that starts at offset `base`, with replacements made in it: each code stands where its
    span starts, and all characters outside of the spans stay. -/
def exchanged (rs : List Replacement) (base : Nat) : List Char → List Char
  | [] => []
  | c :: cs =>
    codeAt rs base ++ (if isCovered rs base then [] else [c]) ++
      exchanged rs (base + c.utf8Size) cs

/-! ### Content of any kind -/

section

variable {α β : Type}

/-- All characters of a text that starts at offset `base`, each kept with its offset. -/
def keptBy (keep : Nat → Char → α) (base : Nat) : List Char → List α
  | [] => []
  | c :: cs => keep base c :: keptBy keep (base + c.utf8Size) cs

/-- A text that starts at offset `base`, with pieces in place of their spans: the content of a piece
    stands where its span starts, and all characters outside of the spans are kept. -/
def exchangedBy (span : β → Span) (content : β → List α) (keep : Nat → Char → α) (ps : List β)
    (base : Nat) : List Char → List α
  | [] => []
  | c :: cs =>
    (ps.filter fun p => (span p).start = base).flatMap content ++
      (if ps.any fun p => (span p).covers base then [] else [keep base c]) ++
      exchangedBy span content keep ps (base + c.utf8Size) cs

variable {span : β → Span} {content : β → List α} {keep : Nat → Char → α} {ps : List β}
  {base : Nat} {cs : List Char}

/-- Two texts in a row are kept one after the other. -/
theorem keptBy_append (keep : Nat → Char → α) (base : Nat) (as bs : List Char) :
    keptBy keep base (as ++ bs) = keptBy keep base as ++ keptBy keep (base + byteLength as) bs := by
  induction as generalizing base with
  | nil => rfl
  | cons c cs ih =>
    rw [List.cons_append, keptBy, keptBy, ih, byteLength_cons, Nat.add_assoc, List.cons_append]

/-- Pieces are exchanged in two texts in a row one after the other, as each character is looked at
    by its offset alone. -/
theorem exchangedBy_append (ps : List β) (base : Nat) (as bs : List Char) :
    exchangedBy span content keep ps base (as ++ bs) =
      exchangedBy span content keep ps base as ++
        exchangedBy span content keep ps (base + byteLength as) bs := by
  induction as generalizing base with
  | nil => rfl
  | cons c cs ih =>
    rw [List.cons_append, exchangedBy, exchangedBy, ih, byteLength_cons, Nat.add_assoc]
    simp only [List.append_assoc]

/-- Pieces that are given by other things. -/
theorem exchangedBy_map {γ : Type} (f : γ → β) (ps : List γ) (base : Nat) (cs : List Char) :
    exchangedBy span content keep (ps.map f) base cs =
      exchangedBy (fun p => span (f p)) (fun p => content (f p)) keep ps base cs := by
  induction cs generalizing base with
  | nil => rfl
  | cons c cs ih =>
    rw [exchangedBy, exchangedBy, ih, List.filter_map, List.flatMap_map, List.any_map]
    rfl

/-- Nothing is put in where no span starts. -/
theorem flatMap_content_eq_nil (h : ∀ p ∈ ps, (span p).start ≠ base) :
    (ps.filter fun p => (span p).start = base).flatMap content = [] := by
  rw [List.filter_eq_nil_iff.2 (by simpa using h), List.flatMap_nil]

/-- A place outside of all spans is not covered. -/
theorem any_covers_eq_false (h : ∀ p ∈ ps, base < (span p).start ∨ (span p).stop ≤ base) :
    (ps.any fun p => (span p).covers base) = false := by
  rw [List.any_eq_false]
  intro p hp
  have hp := h p hp
  simp only [Span.covers, Bool.and_eq_true, decide_eq_true_eq]
  omega

/-- A text that no span touches is kept. -/
theorem exchangedBy_of_clear
    (h : ∀ p ∈ ps, base + byteLength cs ≤ (span p).start ∨
      (span p).start < base ∧ (span p).stop ≤ base) :
    exchangedBy span content keep ps base cs = keptBy keep base cs := by
  induction cs generalizing base with
  | nil => rfl
  | cons c cs ih =>
    have hc := c.utf8Size_pos
    simp only [byteLength_cons] at h
    -- no span starts here and none covers this character, so it is kept
    rw [exchangedBy, keptBy, flatMap_content_eq_nil (fun p hp => by have := h p hp; omega),
      any_covers_eq_false (fun p hp => by have := h p hp; omega),
      ih (fun p hp => by have := h p hp; omega)]
    rfl

/-- Nothing is left of a text inside a span that starts before it. -/
theorem exchangedBy_of_covered {p : β} (hp : p ∈ ps) (hstart : (span p).start ≤ base)
    (hstop : base + byteLength cs ≤ (span p).stop)
    (h : ∀ p ∈ ps, (span p).start < base ∨ base + byteLength cs ≤ (span p).start) :
    exchangedBy span content keep ps base cs = [] := by
  induction cs generalizing base with
  | nil => rfl
  | cons c cs ih =>
    have hc := c.utf8Size_pos
    simp only [byteLength_cons] at h hstop
    -- the span that covers the whole text covers this character
    have hcov : (ps.any fun p => (span p).covers base) = true := by
      rw [List.any_eq_true]
      refine ⟨p, hp, ?_⟩
      simp only [Span.covers, Bool.and_eq_true, decide_eq_true_eq]
      omega
    rw [exchangedBy, flatMap_content_eq_nil (fun q hq => by have := h q hq; omega), hcov,
      ih (by omega) (by omega) (fun q hq => by have := h q hq; omega)]
    rfl

/-- A span that ends before a text has no part in it. -/
theorem exchangedBy_cons_of_stop_le {p : β} (hne : (span p).start < (span p).stop)
    (h : (span p).stop ≤ base) :
    exchangedBy span content keep (p :: ps) base cs =
      exchangedBy span content keep ps base cs := by
  induction cs generalizing base with
  | nil => rfl
  | cons c cs ih =>
    have hp : (span p).covers base = false := by
      simp only [Span.covers, Bool.and_eq_false_iff, decide_eq_false_iff_not]
      omega
    rw [exchangedBy, exchangedBy, List.filter_cons_of_neg (by simp; omega), List.any_cons, hp,
      Bool.false_or, ih (by omega)]

/-! ### Spans in order -/

/-- Spans from offset `cursor` on, each before the next. -/
def Span.Ordered (cursor : Nat) : List Span → Prop
  | [] => True
  | s :: rest => cursor ≤ s.start ∧ s.start < s.stop ∧ Ordered s.stop rest

/-- Spans in order come after the cursor, and are not empty. -/
theorem Span.Ordered.cursor_le {cursor : Nat} {ss : List Span} (h : Ordered cursor ss) :
    ∀ s ∈ ss, cursor ≤ s.start ∧ s.start < s.stop := by
  induction ss generalizing cursor with
  | nil => simp
  | cons s rest ih =>
    -- later spans start behind the stop of this one
    obtain ⟨hle, hlt, hrest⟩ := h
    intro t ht
    rcases List.mem_cons.1 ht with rfl | ht
    · exact ⟨hle, hlt⟩
    · have ht := ih hrest t ht
      omega

/-- Spans that fit are in order once they are sorted. -/
theorem Span.ordered_of_sorted {source : List Char} {outer : Span} {ss : List Span}
    (hfit : FitIn source outer ss) (hsorted : ss.Pairwise fun s t => s.start ≤ t.start) :
    Ordered outer.start ss := by
  have happart := hfit.apart
  have hne := hfit.nonempty
  have hin : ∀ s ∈ ss, outer.start ≤ s.start := fun s hs => (hfit.inside s hs).1
  clear hfit
  generalize outer.start = cursor at hin
  induction ss generalizing cursor with
  | nil => trivial
  | cons s rest ih =>
    rw [List.pairwise_cons] at hsorted happart
    refine ⟨hin s (by simp), hne s (by simp), ?_⟩
    refine ih hsorted.2 happart.2 (fun t ht => hne t (by simp [ht])) s.stop fun t ht => ?_
    -- the next span does not start before this one, so it can only lie after it
    have hle := hsorted.1 t ht
    have hlt := hne t (by simp [ht])
    rcases happart.1 t ht with hafter | hbefore
    · exact hafter
    · omega

/-- **One exchange.** Of pieces in order, the first leaves the text before it as it is, puts its
    content in place of its span, and the others work on what is after it. -/
theorem exchangedBy_cons {p : β} {gap old tail : List Char}
    (hrest : Span.Ordered (span p).stop (ps.map span)) (hne : (span p).start < (span p).stop)
    (hgap : base + byteLength gap = (span p).start)
    (hold : (span p).start + byteLength old = (span p).stop) :
    exchangedBy span content keep (p :: ps) base (gap ++ (old ++ tail)) =
      keptBy keep base gap ++
        (content p ++ exchangedBy span content keep ps (span p).stop tail) := by
  have hlater : ∀ q ∈ ps, (span p).stop ≤ (span q).start ∧ (span q).start < (span q).stop :=
    fun q hq => hrest.cursor_le (span q) (List.mem_map_of_mem hq)
  -- the text before the span is touched by none
  have h₁ : exchangedBy span content keep (p :: ps) base gap = keptBy keep base gap := by
    refine exchangedBy_of_clear fun q hq => ?_
    rcases List.mem_cons.1 hq with rfl | hq
    · omega
    · have := hlater q hq; omega
  -- the span starts with its content, and all of its text goes
  have h₂ : exchangedBy span content keep (p :: ps) (span p).start old = content p := by
    cases old with
    | nil => rw [byteLength_nil] at hold; omega
    | cons c cs =>
      have hc := c.utf8Size_pos
      rw [byteLength_cons] at hold
      have hcontent : ((p :: ps).filter fun q => (span q).start = (span p).start).flatMap content =
          content p := by
        have hnone : (ps.filter fun q => (span q).start = (span p).start).flatMap content = [] :=
          flatMap_content_eq_nil fun q hq => by have := hlater q hq; omega
        rw [List.filter_cons_of_pos (by simp), List.flatMap_cons, hnone, List.append_nil]
      have hcov : ((p :: ps).any fun q => (span q).covers (span p).start) = true := by
        rw [List.any_cons, Bool.or_eq_true]
        left
        simpa [Span.covers] using hne
      rw [exchangedBy, hcontent, hcov,
        exchangedBy_of_covered (List.mem_cons_self ..) (by omega) (by omega)]
      · simp
      · intro q hq
        rcases List.mem_cons.1 hq with rfl | hq
        · omega
        · have := hlater q hq; omega
  rw [exchangedBy_append, hgap, h₁, exchangedBy_append, h₂, hold,
    exchangedBy_cons_of_stop_le hne (Nat.le_refl _)]

/-- The pieces that start at an offset are at most one if they fit. -/
theorem length_filter_start_le_one {source : List Char} {outer : Span}
    (h : Span.FitIn source outer (ps.map span)) (offset : Nat) :
    (ps.filter fun p => (span p).start = offset).length ≤ 1 := by
  have happart := (List.pairwise_map.1 h.apart).filter fun p => (span p).start = offset
  have hmem : ∀ p ∈ ps.filter fun p => (span p).start = offset,
      (span p).start = offset ∧ (span p).start < (span p).stop := by
    intro p hp
    rw [List.mem_filter, decide_eq_true_eq] at hp
    exact ⟨hp.2, h.nonempty (span p) (List.mem_map_of_mem hp.1)⟩
  generalize (ps.filter fun p => (span p).start = offset) = found at happart hmem
  match found with
  | [] => simp
  | [_] => simp
  | a :: b :: rest =>
    -- two spans that start here would share their first character
    have ha := hmem a (by simp)
    have hb := hmem b (by simp)
    rcases (List.pairwise_cons.1 happart).1 b (by simp) with h | h <;> omega

/-- What stands in the result is content of a piece, or a character that no span covers. -/
theorem mem_exchangedBy {x : α} (h : x ∈ exchangedBy span content keep ps base cs) :
    (∃ p ∈ ps, x ∈ content p) ∨ ∃ as c bs, cs = as ++ c :: bs ∧ x = keep (base + byteLength as) c ∧
      ∀ p ∈ ps, (span p).covers (base + byteLength as) = false := by
  induction cs generalizing base with
  | nil => cases h
  | cons c cs ih =>
    rw [exchangedBy, List.mem_append, List.mem_append] at h
    rcases h with (h | h) | h
    · -- from the contents that start here
      obtain ⟨p, hp, hx⟩ := List.mem_flatMap.1 h
      exact .inl ⟨p, (List.mem_filter.1 hp).1, hx⟩
    · -- the character itself, if nothing covers it
      split at h
      next => cases h
      next hcov =>
        refine .inr ⟨[], c, cs, rfl, List.mem_singleton.1 h, fun p hp => ?_⟩
        rw [List.any_eq_true, not_exists] at hcov
        simpa using fun hcovers => hcov p ⟨hp, hcovers⟩
    · -- or from what follows, one character further on
      rcases ih h with hcontent | ⟨as, d, bs, rfl, hx, hclear⟩
      · exact .inl hcontent
      · refine .inr ⟨c :: as, d, bs, rfl, ?_⟩
        rw [byteLength_cons, ← Nat.add_assoc]
        exact ⟨hx, hclear⟩

/-- **The order does not matter.** -/
theorem exchangedBy_perm {source : List Char} {outer : Span} {qs : List β}
    (h : Span.FitIn source outer (ps.map span)) (hp : ps.Perm qs) (base : Nat) (cs : List Char) :
    exchangedBy span content keep ps base cs = exchangedBy span content keep qs base cs := by
  induction cs generalizing base with
  | nil => rfl
  | cons c cs ih =>
    have hcontent : (ps.filter fun p => (span p).start = base).flatMap content =
        (qs.filter fun p => (span p).start = base).flatMap content := by
      -- at most one span starts here, and then the order does not matter
      have hlen := length_filter_start_le_one h base
      have hfilter := hp.filter fun p => (span p).start = base
      generalize (ps.filter fun p => (span p).start = base) = found at hlen hfilter
      match found with
      | [] => rw [List.nil_perm.1 hfilter]
      | [r] => rw [List.singleton_perm.1 hfilter]
      | _ :: _ :: _ => simp at hlen
    have hcov : (ps.any fun p => (span p).covers base) = qs.any fun p => (span p).covers base :=
      hp.any_eq
    rw [exchangedBy, exchangedBy, hcontent, hcov, ih]

/-! ### From left to right -/

/-- A text from offset `cursor` on with pieces put in from left to right: what stands before the
    first span is kept, its content comes in place of it, and so on after the span. -/
inductive Exchanges (span : β → Span) (content : β → List α) (keep : Nat → Char → α) :
    List β → Nat → List Char → List α → Prop where
  | nil (cursor : Nat) (text : List Char) :
    Exchanges span content keep [] cursor text (keptBy keep cursor text)
  | cons {p : β} {rest : List β} {cursor : Nat} {gap old tail : List Char} {result : List α}
      (hgap : cursor + byteLength gap = (span p).start)
      (hold : (span p).start + byteLength old = (span p).stop)
      (hrest : Exchanges span content keep rest (span p).stop tail result) :
    Exchanges span content keep (p :: rest) cursor (gap ++ (old ++ tail))
      (keptBy keep cursor gap ++ (content p ++ result))

/-- Pieces in order are exchanged from left to right. -/
theorem exchanges_exchangedBy {cursor : Nat} {text : List Char}
    (hord : Span.Ordered cursor (ps.map span))
    (hplaces : ∀ p ∈ ps, PlaceIn cursor text (span p).start ∧ PlaceIn cursor text (span p).stop) :
    Exchanges span content keep ps cursor text
      (exchangedBy span content keep ps cursor text) := by
  induction ps generalizing cursor text with
  | nil =>
    rw [exchangedBy_of_clear (by simp)]
    exact .nil cursor text
  | cons p rest ih =>
    obtain ⟨hle, hlt, hrest⟩ := hord
    obtain ⟨hstart, hstop⟩ := hplaces p (by simp)
    obtain ⟨gap, old, tail, rfl, hgap, hold⟩ := hstart.between hstop (Nat.le_of_lt hlt)
    rw [exchangedBy_cons hrest hlt hgap hold]
    refine .cons hgap hold (ih hrest fun q hq => ?_)
    -- the later spans lie in the text after this one
    have hq' := hrest.cursor_le (span q) (List.mem_map_of_mem hq)
    have heq : cursor + byteLength (gap ++ old) = (span p).stop := by
      rw [byteLength_append]; omega
    obtain ⟨hqstart, hqstop⟩ := hplaces q (by simp [hq])
    rw [← List.append_assoc] at hqstart hqstop
    have start := hqstart.of_append (by omega)
    have stop := hqstop.of_append (by omega)
    rw [heq] at start stop
    exact ⟨start, stop⟩

/-- The content of each piece stands in the result. -/
theorem Exchanges.exists_append {cursor : Nat} {text : List Char} {result : List α} {p : β}
    (h : Exchanges span content keep ps cursor text result) (hp : p ∈ ps) :
    ∃ as bs, result = as ++ (content p ++ bs) := by
  induction h with
  | nil cursor text => simp at hp
  | @cons q rest cursor gap old tail result hgap hold _ ih =>
    rcases List.mem_cons.1 hp with rfl | hp
    · exact ⟨_, _, rfl⟩
    · obtain ⟨as, bs, rfl⟩ := ih hp
      exact ⟨keptBy keep cursor gap ++ (content q ++ as), bs, by simp only [List.append_assoc]⟩

/-- **From left to right.** Pieces that fit into a stretch of the source are exchanged from left to
    right once they are sorted. -/
theorem exchanges_of_sorted {source before text after : List Char} {outer : Span} {qs : List β}
    (hfit : Span.FitIn source outer (ps.map span)) (hperm : qs.Perm ps)
    (hsorted : qs.Pairwise fun p q => (span p).start ≤ (span q).start)
    (hsource : source = before ++ (text ++ after)) (hbefore : byteLength before = outer.start)
    (htext : outer.start + byteLength text = outer.stop) :
    Exchanges span content keep qs outer.start text
      (exchangedBy span content keep ps outer.start text) := by
  have hfit' := hfit.perm (hperm.symm.map span)
  -- sorted, the spans are in order, and each of their ends is a place of the text
  rw [exchangedBy_perm hfit hperm.symm]
  refine exchanges_exchangedBy (Span.ordered_of_sorted hfit' (List.pairwise_map.2 hsorted)) ?_
  intro p hp
  have hp : span p ∈ qs.map span := List.mem_map_of_mem hp
  have hon := hfit'.on (span p) hp
  have hin := hfit'.inside (span p) hp
  have hle := hon.start_le_stop
  rw [hsource] at hon
  have start := hon.start_place.of_append (by omega)
  have stop := hon.stop_place.of_append (by omega)
  rw [Nat.zero_add, hbefore] at start stop
  exact ⟨start.of_append_left (by omega), stop.of_append_left (by omega)⟩

/-- Pieces that fit into a stretch of the source can be exchanged from left to right. -/
theorem exists_exchanges {source before text after : List Char} {outer : Span}
    (content : β → List α) (keep : Nat → Char → α)
    (hfit : Span.FitIn source outer (ps.map span))
    (hsource : source = before ++ (text ++ after)) (hbefore : byteLength before = outer.start)
    (htext : outer.start + byteLength text = outer.stop) :
    ∃ qs, qs.Perm ps ∧ Exchanges span content keep qs outer.start text
      (exchangedBy span content keep ps outer.start text) := by
  let early (p q : β) : Prop := (span p).start ≤ (span q).start
  have : Std.Total early := ⟨fun p q => Nat.le_total _ _⟩
  have : IsTrans β early := ⟨fun _ _ _ => Nat.le_trans⟩
  exact ⟨ps.insertionSort early, List.perm_insertionSort early ps,
    exchanges_of_sorted hfit (List.perm_insertionSort early ps)
      (List.pairwise_insertionSort early ps) hsource hbefore htext⟩

end

/-! ### Code in place of spans -/

variable {rs : List Replacement} {base : Nat} {cs : List Char}

/-- Replacing is exchanging with characters that are kept as they are. -/
theorem exchanged_eq_exchangedBy (rs : List Replacement) (base : Nat) (cs : List Char) :
    exchanged rs base cs =
      exchangedBy Replacement.span Replacement.code (fun _ c => c) rs base cs := by
  induction cs generalizing base with
  | nil => rfl
  | cons c cs ih =>
    rw [exchanged, exchangedBy, ih]
    rfl

/-- A text is kept as it is. -/
theorem keptBy_char (base : Nat) (cs : List Char) : keptBy (fun _ c => c) base cs = cs := by
  induction cs generalizing base with
  | nil => rfl
  | cons c cs ih => rw [keptBy, ih]

/-- Replacements are made in two texts in a row one after the other. -/
theorem exchanged_append (rs : List Replacement) (base : Nat) (as bs : List Char) :
    exchanged rs base (as ++ bs) =
      exchanged rs base as ++ exchanged rs (base + byteLength as) bs := by
  simp only [exchanged_eq_exchangedBy]
  exact exchangedBy_append rs base as bs

/-- Nothing changes in a text that no span touches. -/
theorem exchanged_of_clear
    (h : ∀ r ∈ rs, base + byteLength cs ≤ r.span.start ∨ r.span.start < base ∧ r.span.stop ≤ base) :
    exchanged rs base cs = cs := by
  rw [exchanged_eq_exchangedBy, exchangedBy_of_clear h, keptBy_char]

/-- Without replacements nothing changes. -/
@[simp] theorem exchanged_nil (base : Nat) (cs : List Char) : exchanged [] base cs = cs :=
  exchanged_of_clear (by simp)

/-! ### Sorting -/

namespace Replacement

/-- Putting a replacement in its place is the insertion of the library. -/
theorem insert_eq_orderedInsert (mayFollow : Replacement → Replacement → Bool) (r : Replacement)
    (rs : List Replacement) :
    insert mayFollow r rs = rs.orderedInsert (fun a b => mayFollow a b = true) r := by
  induction rs with
  | nil => rfl
  | cons s rest ih => rw [insert, List.orderedInsert_cons, ih]

/-- Both orders are insertion sorts. -/
theorem foldr_insert_eq (mayFollow : Replacement → Replacement → Bool) (rs : List Replacement) :
    rs.foldr (insert mayFollow) [] = rs.insertionSort fun a b => mayFollow a b = true := by
  unfold List.insertionSort
  congr 1
  funext r rest
  rw [insert_eq_orderedInsert]

/-- Sorting keeps the replacements. -/
theorem foldr_insert_perm (mayFollow : Replacement → Replacement → Bool) (rs : List Replacement) :
    (rs.foldr (insert mayFollow) []).Perm rs := by
  rw [foldr_insert_eq]
  exact List.perm_insertionSort _ rs

/-- Sorting puts them in order, if any two can be compared. -/
theorem foldr_insert_sorted (mayFollow : Replacement → Replacement → Bool)
    (htotal : ∀ a b, mayFollow a b = true ∨ mayFollow b a = true)
    (htrans : ∀ a b c, mayFollow a b = true → mayFollow b c = true → mayFollow a c = true)
    (rs : List Replacement) :
    (rs.foldr (insert mayFollow) []).Pairwise fun a b => mayFollow a b = true := by
  have : Std.Total fun a b : Replacement => mayFollow a b = true := ⟨htotal⟩
  have : IsTrans Replacement fun a b => mayFollow a b = true := ⟨htrans⟩
  rw [foldr_insert_eq]
  exact List.pairwise_insertionSort _ rs

/-- Sorted from left to right, they are the same replacements. -/
theorem ascending_perm (rs : List Replacement) : (ascending rs).Perm rs :=
  foldr_insert_perm _ rs

/-- So they are from right to left. -/
theorem descending_perm (rs : List Replacement) : (descending rs).Perm rs :=
  foldr_insert_perm _ rs

/-- From left to right, starts do not descend. -/
theorem ascending_sorted (rs : List Replacement) :
    (ascending rs).Pairwise fun r s => r.span.start ≤ s.span.start := by
  have hsorted := foldr_insert_sorted (fun r s => r.span.start ≤ s.span.start)
    (fun a b => by simp only [decide_eq_true_eq]; omega)
    (fun a b c => by simp only [decide_eq_true_eq]; omega) rs
  exact hsorted.imp of_decide_eq_true

/-- From right to left, they do not ascend. -/
theorem descending_sorted (rs : List Replacement) :
    (descending rs).Pairwise fun r s => s.span.start ≤ r.span.start := by
  have hsorted := foldr_insert_sorted (fun r s => s.span.start ≤ r.span.start)
    (fun a b => by simp only [decide_eq_true_eq]; omega)
    (fun a b c => by simp only [decide_eq_true_eq]; omega) rs
  exact hsorted.imp of_decide_eq_true

/-- No two replacements that fit start at one offset, so the last comes first is the first comes
    last. -/
theorem descending_eq_reverse {source : List Char} {outer : Span}
    (h : Span.FitIn source outer (rs.map Replacement.span)) :
    descending rs = (ascending rs).reverse := by
  have hperm : (descending rs).Perm (ascending rs).reverse :=
    (descending_perm rs).trans ((ascending_perm rs).symm.trans (List.reverse_perm _).symm)
  refine List.Perm.eq_of_pairwise ?_ (descending_sorted rs)
    (List.pairwise_reverse.2 (ascending_sorted rs)) hperm
  intro a b ha hb hab hba
  rw [(descending_perm rs).mem_iff] at ha
  rw [List.mem_reverse, (ascending_perm rs).mem_iff] at hb
  -- two replacements of one start overlap unless they are the same
  by_contra hne
  have : Std.Symm fun r s : Replacement => r.span.Apart s.span := ⟨fun _ _ h => h.symm⟩
  have happart : a.span.Apart b.span := (List.pairwise_map.1 h.apart).forall ha hb hne
  have ha := h.nonempty a.span (List.mem_map_of_mem ha)
  have hb := h.nonempty b.span (List.mem_map_of_mem hb)
  rcases happart with h | h <;> omega

end Replacement

/-! ### Splicing -/

/-- Replacing from the last span to the first: `done` is the text before the cursor, which no
    replacement touches, so that the offsets of those to come stay right. -/
theorem foldlM_replaceIn_eq {cursor base : Nat} {done text result : List Char}
    (hdone : base + byteLength done = cursor)
    (h : Exchanges Replacement.span Replacement.code (fun _ c => c) rs cursor text result) :
    rs.reverse.foldlM (replaceIn base) (done ++ text) = some (done ++ result) := by
  induction h generalizing done with
  | nil cursor text => simp [keptBy_char]
  | @cons r rest cursor gap old tail result hgap hold _ ih =>
    -- the later replacements work on the text after this span
    have hlater : rest.reverse.foldlM (replaceIn base) (done ++ (gap ++ old) ++ tail) =
        some (done ++ (gap ++ old) ++ result) :=
      ih (by simp only [byteLength_append]; omega)
    have hassoc : done ++ (gap ++ (old ++ tail)) = done ++ (gap ++ old) ++ tail := by
      simp only [List.append_assoc]
    rw [List.reverse_cons, List.foldlM_append, keptBy_char, hassoc, hlater]
    -- then this one is made, its offsets being those of the source
    have hreplace := replace_append (done ++ gap) old result r.code
    have e₁ : r.span.start - base = byteLength (done ++ gap) := by
      rw [byteLength_append]; omega
    have e₂ : r.span.stop - base = byteLength (done ++ gap) + byteLength old := by
      rw [byteLength_append]; omega
    have hbase : base ≤ r.span.start ∧ base ≤ r.span.stop := by omega
    rw [← e₂, ← e₁] at hreplace
    simp only [List.append_assoc] at hreplace ⊢
    simp [replaceIn, guard_eq_some hbase, hreplace]

/-- **Splicing.** For replacements that fit into a span, splicing succeeds and gives the text of
    the span with the replacements made. -/
theorem splice_eq_exchanged {source : List Char} {span : Span} (hspan : span.On source)
    (h : Span.FitIn source span (rs.map Replacement.span)) :
    ∃ text, slice source span.start span.stop = some text ∧
      splice source span rs = some (exchanged rs span.start text) := by
  obtain ⟨before, text, after, rfl, hbefore, htext⟩ :=
    hspan.start_place.between hspan.stop_place hspan.start_le_stop
  rw [Nat.zero_add] at hbefore
  have hslice := slice_append before text after
  rw [hbefore, htext] at hslice
  refine ⟨text, hslice, ?_⟩
  have hexchanges : Exchanges Replacement.span Replacement.code (fun _ c => c)
      (Replacement.ascending rs) span.start text
      (exchangedBy Replacement.span Replacement.code (fun _ c => c) rs span.start text) :=
    exchanges_of_sorted h (Replacement.ascending_perm rs) (Replacement.ascending_sorted rs) rfl
      hbefore htext
  -- from right to left each replacement leaves all offsets before it as they are
  have hfold : (Replacement.ascending rs).reverse.foldlM (replaceIn span.start) ([] ++ text) =
      some ([] ++
        exchangedBy Replacement.span Replacement.code (fun _ c => c) rs span.start text) :=
    foldlM_replaceIn_eq rfl hexchanges
  unfold splice
  rw [hslice, Replacement.descending_eq_reverse h, exchanged_eq_exchangedBy]
  exact hfold

end JsxTemplate
