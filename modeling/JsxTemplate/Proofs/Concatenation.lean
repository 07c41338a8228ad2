import JsxTemplate.Proofs.Decoding
import Mathlib.Data.List.DropRight

namespace JsxTemplate.Text

/-!
# Decoding part by part

From an ampersand on, decoding looks ahead for a semicolon, and so a text can change how the text
before it is read. At some places it cannot: before an ampersand, since there is none in a reference
after its first character, and where every ampersand before the place has its semicolon there too.

* `NoneAcross before after` — no reference lies across the place between the two texts.
* `decodeEntities_append_of_noneAcross` — at such a place, the two sides are decoded by themselves.
* `noneAcross_of_ampersand`, `noneAcross_of_semicolon` — the two kinds of places.
* `escapeAmpersands` — a text in which every ampersand is written as a reference.
* `decodeEntities_compositional` — decoding of joined texts, of escaped ones, and after a reference.
-/

/-! ### Places that no reference lies across -/

/-- A reference that starts in `before` ends in it, also if `after` follows. -/
def NoneAcross (before after : List Char) : Prop :=
  ∀ ⦃tail⦄, tail <:+ before → tail ≠ [] → ∀ ⦃body text rest⦄,
    Starts Accepted (tail ++ after) body text rest → ∃ rest', Starts Accepted tail body text rest'

/-- If no reference runs from one text into the next, none does from the end of it. -/
theorem NoneAcross.suffix {before before' after : List Char} (h : NoneAcross before after)
    (hsuffix : before' <:+ before) : NoneAcross before' after :=
  fun _ htail => h (htail.trans hsuffix)

/-- A reference stays one whatever follows it. -/
theorem Starts.append {cs body text rest : List Char} (h : Starts Accepted cs body text rest)
    (after : List Char) : Starts Accepted (cs ++ after) body text (rest ++ after) := by
  refine ⟨?_, h.byteLength_le, h.means⟩
  rw [h.eq_append]
  simp

/-- What is left after a reference is the end of the text. -/
theorem Starts.suffix {cs body text rest : List Char} (h : Starts Accepted cs body text rest) :
    rest <:+ cs :=
  ⟨'&' :: body ++ [';'], by rw [h.eq_append]; simp⟩

/-- **At a place that no reference lies across, the two sides are decoded by themselves.** -/
theorem decodeEntities_append_of_noneAcross {before after : List Char}
    (h : NoneAcross before after) :
    decodeEntities (before ++ after) = decodeEntities before ++ decodeEntities after := by
  have hpass : Resolves Accepted before (decodeEntities before) :=
    decodeEntities_eq_iff_resolves.1 rfl
  generalize decodeEntities before = out at hpass ⊢
  -- the pass over the first text goes step by step with that over both
  induction hpass with
  | nil => rfl
  | reference hstarts _ ih =>
    rw [(hstarts.append after).decode, ih (h.suffix hstarts.suffix), List.append_assoc]
  | @copy c cs out hno _ ih =>
    have hno' : ∀ body text rest, ¬ Starts Accepted (c :: (cs ++ after)) body text rest := by
      intro body text rest hstarts
      obtain ⟨rest', hstarts'⟩ := h (List.suffix_refl _) (List.cons_ne_nil c cs) hstarts
      exact hno body text rest' hstarts'
    rw [List.cons_append, decodeEntities_cons hno', ih (h.suffix (List.suffix_cons c cs)),
      List.cons_append]

/-- A reference that starts before a place ends before it, or goes on over it. Then its body has all
    of the text up to the place in it, and the character at the place belongs to the reference. -/
theorem Starts.ends_or_goes_on {tail after body text rest : List Char} (htail : tail ≠ [])
    (h : Starts Accepted (tail ++ after) body text rest) :
    (∃ rest', Starts Accepted tail body text rest') ∨
      ∃ cs d, tail = '&' :: cs ∧ cs <+: body ∧ d ∈ body ++ [';'] ∧ after.head? = some d := by
  obtain ⟨c, cs, rfl⟩ := List.exists_cons_of_ne_nil htail
  obtain ⟨rfl, heq⟩ := List.cons.inj h.eq_append
  rw [List.append_cons] at heq
  rcases List.append_eq_append_iff.1 heq with ⟨mid, hbody, rfl⟩ | ⟨rest', rfl, -⟩
  · cases mid with
    | nil =>
      rw [List.append_nil] at hbody
      exact .inl ⟨[], by rw [← hbody], h.byteLength_le, h.means⟩
    | cons d ds =>
      refine .inr ⟨cs, d, rfl, ?_, by rw [hbody]; simp, rfl⟩
      -- the semicolon comes after the place, so what is before it is part of the body
      have hlast := congrArg List.dropLast hbody
      rw [List.dropLast_concat, List.dropLast_append_cons] at hlast
      exact ⟨_, hlast.symm⟩
  · exact .inl ⟨rest', by simp, h.byteLength_le, h.means⟩

/-- No reference lies across a place at which an ampersand stands. -/
theorem noneAcross_of_ampersand {before after : List Char} (h : after.head? = some '&') :
    NoneAcross before after := by
  intro tail _ htail body text rest hstarts
  refine (hstarts.ends_or_goes_on htail).resolve_right ?_
  rintro ⟨cs, d, -, -, hd, hhead⟩
  obtain rfl : '&' = d := Option.some.inj (h.symm.trans hhead)
  exact hstarts.not_mem hd

/-- No reference lies across a place if there is no ampersand between the last semicolon before it
    and the place. -/
theorem noneAcross_of_semicolon {before after : List Char}
    (h : '&' ∉ before.rtakeWhile (· != ';')) : NoneAcross before after := by
  intro tail hsuffix htail body text rest hstarts
  refine (hstarts.ends_or_goes_on htail).resolve_right ?_
  rintro ⟨cs, d, rfl, hcs, -⟩
  -- no semicolon is in the body, so the ampersand stands after the last one
  have hno : ';' ∉ body := hstarts.means.not_mem (by decide)
  have hall : ∀ c ∈ '&' :: cs, (c != ';') = true := by
    intro c hc
    rw [bne_iff_ne]
    rintro rfl
    rcases List.mem_cons.1 hc with heq | hmem
    · cases heq
    · exact hno (hcs.subset hmem)
  obtain ⟨front, rfl⟩ := hsuffix
  refine h ?_
  have hreverse : ∀ c ∈ ('&' :: cs).reverse, (c != ';') = true :=
    fun c hc => hall c (List.mem_reverse.1 hc)
  rw [List.rtakeWhile, List.reverse_append, List.takeWhile_append_of_pos hreverse]
  simp

/-! ### Escaping -/

/-- The text with each ampersand written as a reference. -/
def escapeAmpersands (cs : List Char) : List Char :=
  cs.flatMap fun c => if c = '&' then "&amp;".toList else [c]

/-- Characters are escaped one by one. -/
theorem escapeAmpersands_cons (c : Char) (cs : List Char) :
    escapeAmpersands (c :: cs) =
      (if c = '&' then "&amp;".toList else [c]) ++ escapeAmpersands cs :=
  List.flatMap_cons

/-- The reference that stands for an ampersand. -/
theorem reference?_amp : reference? "amp".toList = some ['&'] := by
  decide +kernel

/-- An escaped ampersand is read as one. -/
theorem decodeEntities_amp : decodeEntities "&amp;".toList = ['&'] := by
  have hstarts : Starts Accepted "&amp;".toList "amp".toList ['&'] [] :=
    ⟨rfl, by decide, reference?_eq_some_iff.1 reference?_amp⟩
  exact hstarts.decode

/-- An escaped text is read as the text: the ampersands that come out are not read again. -/
theorem decodeEntities_escapeAmpersands (cs : List Char) :
    decodeEntities (escapeAmpersands cs) = cs := by
  induction cs with
  | nil => rfl
  | cons c cs ih =>
    by_cases hc : c = '&'
    · subst hc
      have hplace : NoneAcross "&amp;".toList (escapeAmpersands cs) :=
        noneAcross_of_semicolon (by decide)
      rw [escapeAmpersands_cons, if_pos rfl, decodeEntities_append_of_noneAcross hplace,
        decodeEntities_amp, ih, List.singleton_append]
    · rw [escapeAmpersands_cons, if_neg hc, List.singleton_append,
        decodeEntities_cons fun _ _ _ => not_starts_of_ne hc, ih]

/-- **Decoding goes part by part.** Two texts are decoded by themselves if the second starts with an
    ampersand, or the first has none after its last semicolon. A text with its ampersands escaped is
    read as the text itself. And what a reference gives is not read again, whatever it is: decoding
    goes on after the reference. -/
theorem decodeEntities_compositional :
    (∀ a b : List Char, b.head? = some '&' ∨ '&' ∉ a.rtakeWhile (· != ';') →
      decodeEntities (a ++ b) = decodeEntities a ++ decodeEntities b) ∧
    (∀ t : List Char, decodeEntities (escapeAmpersands t) = t) ∧
    ∀ body text rest : List Char, reference? body = some text → byteLength body ≤ 32 →
      decodeEntities ('&' :: (body ++ ';' :: rest)) = text ++ decodeEntities rest := by
  refine ⟨fun a b h => ?_, decodeEntities_escapeAmpersands, fun body text rest href hle => ?_⟩
  · have hnone := h.elim noneAcross_of_ampersand noneAcross_of_semicolon
    exact decodeEntities_append_of_noneAcross hnone
  · exact Starts.decode ⟨rfl, hle, reference?_eq_some_iff.1 href⟩

/-- A reference that would come up from the end of one text and the start of the next. -/
theorem decodeEntities_compositional_ampersand :
    '&' ∉ "&amp;l".toList.rtakeWhile (· != ';') ∧
    decodeEntities ("&amp;l".toList ++ "t;".toList) = "&lt;".toList ∧
    decodeEntities ("AT&".toList ++ "&amp;T;".toList) = "AT&&T;".toList ∧
    decodeEntities ('&' :: ("#38".toList ++ ';' :: "amp;".toList)) = "&amp;".toList := by
  obtain ⟨happend, -, hreference⟩ := decodeEntities_compositional
  refine ⟨by decide, ?_, ?_, ?_⟩
  · exact (happend _ _ (.inr (by decide))).trans (by decide +kernel)
  · exact (happend _ _ (.inl rfl)).trans (by decide +kernel)
  · exact (hreference _ ['&'] _ (by decide) (by decide)).trans (by decide +kernel)

/-- Without a semicolon in the first text, a reference may lie across. -/
example : decodeEntities ("&am".toList ++ "p;".toList) ≠
    decodeEntities "&am".toList ++ decodeEntities "p;".toList := by
  decide +kernel

end JsxTemplate.Text
