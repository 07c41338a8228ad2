import JsxTemplate.Proofs.Layout

namespace JsxTemplate

open Text

/-!
# Two ways to put a text together

The text of a span is edited from its end to its start, with offsets that count from the start of
the span. The text of a module is written from its start to its end behind a cursor. Where
replacements fit, both give the same text: what lies between the spans, and the codes in place of
them.

* `assembled source stop cursor rs` — the gaps and the codes in a row, for replacements in order.
* `Exchanges.assembled_eq` — replacing from left to right comes to the same.
* `splice_eq_assembled` — splicing succeeds and gives the gaps and the codes in a row.
* `splice_agrees` — it does so for every order of the list, and agrees with the text of a module.
-/

/-- The text from offset `cursor` up to `stop` for replacements in order: the gap before the first
    span, its code, and so on after the span. -/
def assembled (source : List Char) (stop : Nat) : Nat → List Replacement → Option (List Char)
  | cursor, [] => slice source cursor stop
  | cursor, r :: rest => do
    let gap ← slice source cursor r.span.start
    let after ← assembled source stop r.span.stop rest
    return gap ++ r.code ++ after

variable {source : List Char} {span : Span} {rs : List Replacement}

/-- The text between two places, by the texts around it. -/
theorem slice_of_eq_append {before middle : List Char} (after : List Char) {start stop : Nat}
    (hsource : source = before ++ (middle ++ after)) (hstart : byteLength before = start)
    (hstop : start + byteLength middle = stop) : slice source start stop = some middle := by
  rw [hsource, ← hstop, ← hstart]
  exact slice_append before middle after

/-- Replacements from left to right leave the gaps and put the codes between them. -/
theorem Exchanges.assembled_eq {cursor stop : Nat} {before text after result : List Char}
    (h : Exchanges Replacement.span Replacement.code (fun _ c => c) rs cursor text result)
    (hsource : source = before ++ (text ++ after)) (hcursor : byteLength before = cursor)
    (hstop : cursor + byteLength text = stop) :
    assembled source stop cursor rs = some result := by
  induction h generalizing before with
  | nil cursor text =>
    rw [assembled, keptBy_char]
    exact slice_of_eq_append after hsource hcursor hstop
  | @cons r rest cursor gap old tail result hgap hold _ ih =>
    -- the source by the gap, the span and what comes after it
    have hspan : source = (before ++ gap ++ old) ++ (tail ++ after) := by
      rw [hsource]
      simp only [List.append_assoc]
    have hrest : assembled source stop r.span.stop rest = some result := by
      refine ih hspan ?_ ?_
      · simp only [byteLength_append]
        omega
      · simp only [byteLength_append] at hstop
        omega
    have hslice : slice source cursor r.span.start = some gap := by
      refine slice_of_eq_append (old ++ tail ++ after) ?_ hcursor hgap
      rw [hsource]
      simp only [List.append_assoc]
    rw [assembled, hslice, hrest, keptBy_char]
    simp

/-- Spans in order lie one after the other. -/
theorem Span.Ordered.pairwise {cursor : Nat} {ss : List Span} (h : Ordered cursor ss) :
    ss.Pairwise fun s t => s.stop ≤ t.start := by
  induction ss generalizing cursor with
  | nil => exact .nil
  | cons s rest ih =>
    obtain ⟨-, -, hrest⟩ := h
    exact .cons (fun t ht => (hrest.cursor_le t ht).1) (ih hrest)

/-- Replacements that fit lie one after the other once they are sorted. -/
theorem Replacement.pairwise_ascending (h : Span.FitIn source span (rs.map Replacement.span)) :
    (ascending rs).Pairwise fun r s => r.span.stop ≤ s.span.start := by
  have hfit := h.perm ((ascending_perm rs).symm.map Replacement.span)
  have hsorted : ((ascending rs).map Replacement.span).Pairwise fun s t => s.start ≤ t.start :=
    List.pairwise_map.2 (ascending_sorted rs)
  exact List.pairwise_map.1 (Span.ordered_of_sorted hfit hsorted).pairwise

/-- **Splicing gives the gaps and the codes in a row.** -/
theorem splice_eq_assembled (hspan : span.On source)
    (h : Span.FitIn source span (rs.map Replacement.span)) :
    ∃ text, splice source span rs = some text ∧
      assembled source span.stop span.start (Replacement.ascending rs) = some text := by
  obtain ⟨before, text, after, hsource, hbefore, htext⟩ :=
    hspan.start_place.between hspan.stop_place hspan.start_le_stop
  rw [Nat.zero_add] at hbefore
  obtain ⟨text', hslice, hsplice⟩ := splice_eq_exchanged hspan h
  -- the text between the two places is the one that was sliced
  obtain rfl : text = text' :=
    Option.some.inj ((slice_of_eq_append after hsource hbefore htext).symm.trans hslice)
  refine ⟨_, hsplice, ?_⟩
  rw [exchanged_eq_exchangedBy]
  exact (exchanges_of_sorted h (Replacement.ascending_perm rs) (Replacement.ascending_sorted rs)
    hsource hbefore htext).assembled_eq hsource hbefore htext

/-- Replacements that fit are made in any order of the list. -/
theorem splice_perm {rs' : List Replacement} (hspan : span.On source)
    (h : Span.FitIn source span (rs.map Replacement.span)) (hp : rs'.Perm rs) :
    splice source span rs' = splice source span rs := by
  have h' := h.perm (hp.symm.map Replacement.span)
  obtain ⟨text, hslice, hsplice⟩ := splice_eq_exchanged hspan h
  obtain ⟨text', hslice', hsplice'⟩ := splice_eq_exchanged hspan h'
  obtain rfl := Option.some.inj (hslice.symm.trans hslice')
  rw [hsplice, hsplice', exchanged_eq_exchangedBy, exchanged_eq_exchangedBy,
    exchangedBy_perm h' hp]

/-- The text of a module without a header is that of its whole source with the replacements made. -/
theorem generate_none_eq_splice
    (h : Span.FitIn source ⟨0, byteLength source⟩ (rs.map Replacement.span)) :
    ∃ draft, generate source none rs = some draft ∧
      splice source ⟨0, byteLength source⟩ rs = some draft.code := by
  -- the whole text is a span of itself
  have hwhole : Span.On source ⟨0, byteLength source⟩ :=
    ⟨Nat.zero_le _, .start, source, [], (List.append_nil source).symm, Nat.zero_add _⟩
  obtain ⟨draft, hdraft, hcode⟩ := generate_none_code h
  obtain ⟨text, hslice, hsplice⟩ := splice_eq_exchanged hwhole h
  have hall : slice source 0 (byteLength source) = some source := by
    have hsource : source = [] ++ (source ++ []) := by simp
    exact slice_of_eq_append [] hsource rfl (Nat.zero_add _)
  obtain rfl := Option.some.inj (hall.symm.trans hslice)
  exact ⟨draft, hdraft, by rw [hsplice, hcode]⟩

/-- **The two ways to put a text together agree.** For a span of the source and replacements inside
    of it that are not empty and do not overlap, splicing succeeds. It gives the gaps and the codes
    in a row, in the order of their places, however the list is ordered. For the span of the whole
    source, that is the text of the module without a header. -/
theorem splice_agrees (source : List Char) (span : Span) (rs : List Replacement)
    (hspan : span.On source) (hfit : Span.FitIn source span (rs.map Replacement.span)) :
    ∃ sorted text, sorted.Perm rs ∧ (sorted.Pairwise fun r s => r.span.stop ≤ s.span.start) ∧
      assembled source span.stop span.start sorted = some text ∧
      (∀ rs', rs'.Perm rs → splice source span rs' = some text) ∧
      (span = ⟨0, byteLength source⟩ →
        ∃ draft, generate source none rs = some draft ∧ draft.code = text) := by
  obtain ⟨text, hsplice, hassembled⟩ := splice_eq_assembled hspan hfit
  refine ⟨Replacement.ascending rs, text, Replacement.ascending_perm rs,
    Replacement.pairwise_ascending hfit, hassembled, fun rs' hp => ?_, ?_⟩
  · rw [splice_perm hspan hfit hp, hsplice]
  · rintro rfl
    obtain ⟨draft, hdraft, hcode⟩ := generate_none_eq_splice hfit
    exact ⟨draft, hdraft, Option.some.inj (hcode.symm.trans hsplice)⟩

/-- Two replacements in a text with a character of two bytes, the later one first in the list. -/
theorem splice_agrees_reversed :
    let source := "é(<x/>, <y/>);".toList
    let rs : List Replacement := [⟨⟨9, 13⟩, "Y".toList⟩, ⟨⟨3, 7⟩, "X1".toList⟩]
    Span.On source ⟨0, 15⟩ ∧ Span.FitIn source ⟨0, 15⟩ (rs.map Replacement.span) ∧
      splice source ⟨0, 15⟩ rs = some "é(X1, Y);".toList ∧
      ∃ draft, generate source none rs = some draft ∧ draft.code = "é(X1, Y);".toList := by
  intro source rs
  have hplaces : ∀ n ∈ [0, 3, 7, 9, 13, 15], PlaceIn 0 source n := by
    intro n hn
    refine isSome_cut_iff.1 ?_
    revert n
    decide
  have hspan : Span.On source ⟨0, 15⟩ :=
    ⟨by decide, hplaces 0 (by decide), hplaces 15 (by decide)⟩
  have hfit : Span.FitIn source ⟨0, 15⟩ (rs.map Replacement.span) := by
    refine ⟨by decide, by decide, by decide, fun s hs => ?_⟩
    rcases List.mem_cons.1 hs with rfl | hs
    · exact ⟨by decide, hplaces 9 (by decide), hplaces 13 (by decide)⟩
    · obtain rfl := List.mem_singleton.1 hs
      exact ⟨by decide, hplaces 3 (by decide), hplaces 7 (by decide)⟩
  obtain ⟨sorted, text, -, -, -, hsplice, hgenerate⟩ := splice_agrees source ⟨0, 15⟩ rs hspan hfit
  have htext : splice source ⟨0, 15⟩ rs = some "é(X1, Y);".toList := by decide
  obtain rfl := Option.some.inj ((hsplice rs (.refl rs)).symm.trans htext)
  exact ⟨hspan, hfit, htext, hgenerate (by decide)⟩

end JsxTemplate
