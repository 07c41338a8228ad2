import JsxTemplate.Proofs.Entities

namespace JsxTemplate.Text

/-!
# Which references are resolved

Decoding goes over a text once, from the left. Where a reference starts it gives what the reference
stands for and goes on after it; all other characters are copied.

* `Starts Means cs body text rest` — the text `cs` starts with a reference, where `Means` says what
  bodies stand for.
* `Resolves Means cs out` — the pass over `cs` gives `out`.
* `Starts.decode`, `decodeEntities_cons` — decoding, at a reference and elsewhere.
* `decodeEntities_eq_iff_resolves` — decoding is the pass for the references that are read.
* `decodeEntities_exact` — it is the pass for the well-formed ones exactly on texts without numbers
  that have a plus sign.
-/

/-! ### The pass -/

/-- A text starts with a reference: an ampersand, a body of at most 32 bytes that stands for a text,
    and a semicolon. -/
structure Starts (Means : List Char → List Char → Prop) (cs body text rest : List Char) : Prop where
  eq_append : cs = '&' :: (body ++ ';' :: rest)
  byteLength_le : byteLength body ≤ 32
  means : Means body text

/-- One pass over a text from the left: references are replaced by what they stand for, and all
    other characters are copied. -/
inductive Resolves (Means : List Char → List Char → Prop) : List Char → List Char → Prop where
  | nil : Resolves Means [] []
  | reference {cs body text rest out : List Char} (h : Starts Means cs body text rest)
      (hrest : Resolves Means rest out) : Resolves Means cs (text ++ out)
  | copy {c : Char} {cs out : List Char}
      (h : ∀ body text rest, ¬ Starts Means (c :: cs) body text rest)
      (hrest : Resolves Means cs out) : Resolves Means (c :: cs) (c :: out)

/-- What the reader takes a body for. -/
def Accepted (body text : List Char) : Prop := WellFormed body text ∨ Numeric ['+'] body text

/-- References that are well formed are accepted. -/
theorem accepted_of_wellFormed {body text : List Char} (h : WellFormed body text) :
    Accepted body text := .inl h

/-- A body has nothing in it but letters, digits, the hash and the plus sign. -/
theorem Accepted.not_mem {body text : List Char} (h : Accepted body text) {c : Char}
    (hc : c.isAlphanum = false ∧ c ≠ '#' ∧ c ≠ '+') : c ∉ body := by
  obtain ⟨hno, hhash, hplus⟩ := hc
  have hno : ¬ c.isAlphanum = true := by simp [hno]
  intro hmem
  obtain h | h := h
  · exact (h.eq_hash_or_isAlphanum c hmem).elim hhash hno
  · obtain heq | heq | halnum := h.mem_or_isAlphanum c hmem
    · exact hhash heq
    · exact hplus (List.mem_singleton.1 heq)
    · exact hno halnum

variable {Means : List Char → List Char → Prop} {cs body text rest out : List Char}

/-- The same with more bodies that mean something. -/
theorem Starts.mono {Means' : List Char → List Char → Prop}
    (hmeans : ∀ {body text}, Means body text → Means' body text)
    (h : Starts Means cs body text rest) : Starts Means' cs body text rest :=
  ⟨h.eq_append, h.byteLength_le, hmeans h.means⟩

/-- A text in front of the first semicolon is determined by what it is part of. -/
theorem append_semicolon_inj {body body' rest rest' : List Char} (hbody : ';' ∉ body)
    (hbody' : ';' ∉ body') (h : body ++ ';' :: rest = body' ++ ';' :: rest') :
    body = body' ∧ rest = rest' := by
  -- along both bodies at once: the first semicolon is where either of them ends
  induction body generalizing body' with
  | nil =>
    cases body' with
    | nil => exact ⟨rfl, (List.cons.inj h).2⟩
    | cons c cs =>
      exact absurd (List.cons.inj h).1 (fun heq => hbody' (heq ▸ List.mem_cons_self ..))
  | cons c cs ih =>
    cases body' with
    | nil =>
      exact absurd (List.cons.inj h).1.symm (fun heq => hbody (heq ▸ List.mem_cons_self ..))
    | cons c' cs' =>
      obtain ⟨rfl, htail⟩ := List.cons.inj h
      obtain ⟨rfl, rfl⟩ := ih (List.not_mem_of_not_mem_cons hbody)
        (List.not_mem_of_not_mem_cons hbody') htail
      exact ⟨rfl, rfl⟩

/-- A text starts with at most one reference. -/
theorem Starts.unique (hmeans : ∀ {body text}, Means body text → Accepted body text)
    {body' text' rest' : List Char} (h : Starts Means cs body text rest)
    (h' : Starts Means cs body' text' rest') : body = body' ∧ text = text' ∧ rest = rest' := by
  have haccepted := hmeans h.means
  have haccepted' := hmeans h'.means
  obtain ⟨rfl, rfl⟩ := append_semicolon_inj (haccepted.not_mem (by decide))
    (haccepted'.not_mem (by decide)) (List.cons.inj (h.eq_append.symm.trans h'.eq_append)).2
  have hread := reference?_eq_some_iff.2 haccepted
  have hread' := reference?_eq_some_iff.2 haccepted'
  exact ⟨rfl, Option.some.inj (hread.symm.trans hread'), rfl⟩

/-! ### Decoding -/

/-- The reader takes the text up to the first semicolon for a body, if it is short enough. -/
theorem body?_eq_some_iff {cs body : List Char} :
    body? cs = some body ↔
      (∃ rest, cs = body ++ ';' :: rest) ∧ ';' ∉ body ∧ byteLength body ≤ 32 := by
  unfold body?
  simp only [Option.ite_none_right_eq_some, Bool.and_eq_true, decide_eq_true_eq,
    Option.some.injEq]
  constructor
  · rintro ⟨⟨hlt, hle⟩, rfl⟩
    have hsplit := List.takeWhile_append_dropWhile (p := (· != ';')) (l := cs)
    have hno : ';' ∉ cs.takeWhile (· != ';') := by
      intro hmem
      have hall := List.all_eq_true.1 (List.all_takeWhile (p := (· != ';')) (l := cs)) ';' hmem
      exact absurd hall (by decide)
    -- the body is not all of the text, so what follows it starts with the semicolon
    cases hdrop : cs.dropWhile (· != ';') with
    | nil =>
      rw [hdrop, List.append_nil] at hsplit
      rw [hsplit] at hlt
      exact absurd hlt (Nat.lt_irrefl _)
    | cons c rest =>
      have hhead := List.head_dropWhile_not (· != ';') (l := cs) (by simp [hdrop])
      simp only [hdrop, List.head_cons, bne_eq_false_iff_eq] at hhead
      subst hhead
      rw [hdrop] at hsplit
      exact ⟨⟨rest, hsplit.symm⟩, hno, hle⟩
  · rintro ⟨⟨rest, rfl⟩, hno, hle⟩
    have hall : ∀ c ∈ body, (c != ';') = true := by
      intro c hc
      rw [bne_iff_ne]
      rintro rfl
      exact hno hc
    have htake : (body ++ ';' :: rest).takeWhile (· != ';') = body := by
      rw [List.takeWhile_append_of_pos hall]
      simp
    rw [htake]
    exact ⟨⟨by simp, hle⟩, rfl⟩

/-- Decoding goes on after the characters of a reference. -/
theorem decodeFrom_eq_drop (n : Nat) (cs : List Char) :
    decodeFrom n cs = decodeEntities (cs.drop n) := by
  induction cs generalizing n with
  | nil => cases n <;> rfl
  | cons c cs ih =>
    cases n with
    | zero => rfl
    | succ n => exact ih n

/-- The reference that the reader finds after an ampersand is one that starts there. -/
theorem starts_iff_read {cs body text : List Char} :
    (do let body ← body? cs; return (body, ← reference? body)) = some (body, text) ↔
      ∃ rest, Starts Accepted ('&' :: cs) body text rest := by
  -- reading is two steps, finding the body and giving it a meaning
  have hread : (do let body ← body? cs; return (body, ← reference? body)) = some (body, text) ↔
      body? cs = some body ∧ reference? body = some text := by
    simp only [Option.bind_eq_bind, Option.bind_eq_some_iff]
    constructor
    · rintro ⟨body', hbody, text', htext, heq⟩
      cases heq
      exact ⟨hbody, htext⟩
    · rintro ⟨hbody, htext⟩
      exact ⟨body, hbody, text, htext, rfl⟩
  rw [hread, body?_eq_some_iff]
  constructor
  · rintro ⟨⟨⟨rest, rfl⟩, -, hle⟩, href⟩
    exact ⟨rest, rfl, hle, reference?_eq_some_iff.1 href⟩
  · rintro ⟨rest, heq, hle, hmeans⟩
    -- what is accepted holds no semicolon, so the body ends at the first one
    have hno : ';' ∉ body := hmeans.not_mem (by decide)
    exact ⟨⟨⟨rest, (List.cons.inj heq).2⟩, hno, hle⟩, reference?_eq_some_iff.2 hmeans⟩

/-- Decoding replaces a reference by what it stands for and goes on after it. -/
theorem Starts.decode (h : Starts Accepted cs body text rest) :
    decodeEntities cs = text ++ decodeEntities rest := by
  obtain rfl := h.eq_append
  have hread := starts_iff_read.2 ⟨rest, h⟩
  rw [decodeEntities, decodeFrom, if_pos rfl, hread]
  -- the reference was counted off character by character; that drops exactly its body
  show text ++ decodeFrom (body.length + 1) (body ++ ';' :: rest) = _
  rw [decodeFrom_eq_drop, List.drop_append, List.drop_of_length_le (Nat.le_succ _),
    Nat.add_sub_cancel_left]
  rfl

/-- Decoding copies a character at which no reference starts. -/
theorem decodeEntities_cons {c : Char}
    (h : ∀ body text rest, ¬ Starts Accepted (c :: cs) body text rest) :
    decodeEntities (c :: cs) = c :: decodeEntities cs := by
  rw [decodeEntities, decodeFrom]
  split
  next hc =>
    subst hc
    have hread : (do let body ← body? cs; return (body, ← reference? body)) = none := by
      refine Option.eq_none_iff_forall_ne_some.2 fun (body, text) hsome => ?_
      obtain ⟨rest, hstarts⟩ := starts_iff_read.1 hsome
      exact h body text rest hstarts
    rw [hread]
    rfl
  next => rfl

/-! ### One pass -/

/-- At a reference, the pass replaces it. -/
theorem Resolves.of_starts (hmeans : ∀ {body text}, Means body text → Accepted body text)
    (h : Resolves Means cs out) (hstarts : Starts Means cs body text rest) :
    ∃ out', out = text ++ out' ∧ Resolves Means rest out' := by
  cases h with
  | nil => cases hstarts.eq_append
  | reference hstarts' hrest =>
    obtain ⟨-, rfl, rfl⟩ := hstarts.unique hmeans hstarts'
    exact ⟨_, rfl, hrest⟩
  | copy hno _ => exact absurd hstarts (hno _ _ _)

/-- Elsewhere, the pass copies a character. -/
theorem Resolves.of_not_starts {c : Char} (h : Resolves Means (c :: cs) out)
    (hno : ∀ body text rest, ¬ Starts Means (c :: cs) body text rest) :
    ∃ out', out = c :: out' ∧ Resolves Means cs out' := by
  generalize hcs : c :: cs = ds at h hno
  cases h with
  | nil => cases hcs
  | reference hstarts _ => exact absurd hstarts (hno _ _ _)
  | copy _ hrest =>
    cases hcs
    exact ⟨_, rfl, hrest⟩

/-- The pass has one result. -/
theorem Resolves.unique (hmeans : ∀ {body text}, Means body text → Accepted body text)
    {out' : List Char} (h : Resolves Means cs out) (h' : Resolves Means cs out') : out = out' := by
  induction h generalizing out' with
  | nil =>
    cases h' with
    | nil => rfl
    | reference hstarts _ => cases hstarts.eq_append
  | reference hstarts _ ih =>
    obtain ⟨out', rfl, hrest⟩ := h'.of_starts hmeans hstarts
    rw [ih hrest]
  | copy hno _ ih =>
    obtain ⟨out', rfl, hrest⟩ := h'.of_not_starts hno
    rw [ih hrest]

/-- The pass comes to the end of every text. -/
theorem Resolves.exists (Means : List Char → List Char → Prop) (cs : List Char) :
    ∃ out, Resolves Means cs out := by
  -- a reference may be long, so the induction is on the length of what is left
  induction hn : cs.length using Nat.strong_induction_on generalizing cs with
  | _ n ih =>
    by_cases hstarts : ∃ body text rest, Starts Means cs body text rest
    · obtain ⟨body, text, rest, hstarts⟩ := hstarts
      have hlt : rest.length < n := by
        rw [← hn, hstarts.eq_append]
        simp only [List.length_cons, List.length_append]
        omega
      obtain ⟨out, hout⟩ := ih _ hlt rest rfl
      exact ⟨text ++ out, .reference hstarts hout⟩
    · cases cs with
      | nil => exact ⟨[], .nil⟩
      | cons c cs =>
        obtain ⟨out, hout⟩ := ih cs.length (by rw [← hn]; exact Nat.lt_succ_self _) cs rfl
        exact ⟨c :: out, .copy (fun body text rest h => hstarts ⟨body, text, rest, h⟩) hout⟩

/-- Decoding is the pass over the text for the references that are read. -/
theorem decodeEntities_eq_iff_resolves :
    decodeEntities cs = out ↔ Resolves Accepted cs out := by
  have hsound : ∀ {cs out}, Resolves Accepted cs out → decodeEntities cs = out := by
    -- one direction is an induction; for the other, some result exists, and it is this one
    intro cs out h
    induction h with
    | nil => rfl
    | reference hstarts _ ih => rw [hstarts.decode, ih]
    | copy hno _ ih => rw [decodeEntities_cons hno, ih]
  constructor
  · rintro rfl
    obtain ⟨out, hout⟩ := Resolves.exists Accepted cs
    rwa [hsound hout]
  · exact hsound

/-! ### Numbers with a sign -/

/-- Somewhere in a text a reference starts. -/
def HasReference (Means : List Char → List Char → Prop) (cs : List Char) : Prop :=
  ∃ tail, tail <:+ cs ∧ ∃ body text rest, Starts Means tail body text rest

/-- There is no reference in the empty text. -/
theorem not_hasReference_nil : ¬ HasReference Means [] := by
  rintro ⟨tail, htail, body, text, rest, h⟩
  rw [List.suffix_nil.1 htail] at h
  cases h.eq_append

/-- A reference starts at the first character or later. -/
theorem hasReference_cons {c : Char} : HasReference Means (c :: cs) ↔
    (∃ body text rest, Starts Means (c :: cs) body text rest) ∨ HasReference Means cs := by
  constructor
  · rintro ⟨tail, htail, hstarts⟩
    obtain rfl | htail := List.suffix_cons_iff.1 htail
    · exact .inl hstarts
    · exact .inr ⟨tail, htail, hstarts⟩
  · rintro (hstarts | ⟨tail, htail, hstarts⟩)
    · exact ⟨c :: cs, List.suffix_refl _, hstarts⟩
    · exact ⟨tail, List.suffix_cons_iff.2 (.inr htail), hstarts⟩

/-- A reference starts with an ampersand. -/
theorem not_starts_of_ne {c : Char} (hc : c ≠ '&') : ¬ Starts Means (c :: cs) body text rest :=
  fun h => hc (List.cons.inj h.eq_append).1

/-- No reference starts before the first ampersand. -/
theorem hasReference_append {before : List Char} (hno : '&' ∉ before) :
    HasReference Means (before ++ cs) ↔ HasReference Means cs := by
  induction before with
  | nil => rfl
  | cons c before ih =>
    have hc : c ≠ '&' := fun heq => hno (heq ▸ List.mem_cons_self ..)
    rw [List.cons_append, hasReference_cons, ih (List.not_mem_of_not_mem_cons hno)]
    refine or_iff_right ?_
    rintro ⟨body, text, rest, h⟩
    exact not_starts_of_ne hc h

/-- A text without an ampersand is copied. -/
theorem Resolves.of_append {before : List Char} (hno : '&' ∉ before)
    (h : Resolves Means (before ++ cs) out) :
    ∃ out', out = before ++ out' ∧ Resolves Means cs out' := by
  induction before generalizing out with
  | nil => exact ⟨out, rfl, h⟩
  | cons c before ih =>
    have hc : c ≠ '&' := fun heq => hno (heq ▸ List.mem_cons_self ..)
    obtain ⟨out', rfl, htail⟩ := h.of_not_starts fun _ _ _ => not_starts_of_ne hc
    obtain ⟨out'', rfl, hcs⟩ := ih (List.not_mem_of_not_mem_cons hno) htail
    exact ⟨out'', rfl, hcs⟩

/-- No well-formed reference starts where a number with a sign does. -/
theorem Starts.not_signed {body' text' rest' : List Char}
    (h : Starts WellFormed cs body text rest) :
    ¬ Starts (Numeric ['+']) cs body' text' rest' := by
  intro h'
  obtain ⟨rfl, -, -⟩ := (h.mono accepted_of_wellFormed).unique id (h'.mono .inr)
  exact h.means.not_numeric h'.means

/-- There is no ampersand in a reference after its first character. -/
theorem Starts.not_mem (h : Starts Accepted cs body text rest) : '&' ∉ body ++ [';'] := by
  have hbody : '&' ∉ body := h.means.not_mem (by decide)
  simpa using hbody

/-- The pass for the well-formed references leaves a number with a sign as it is. -/
theorem Starts.resolves_signed (h : Starts (Numeric ['+']) cs body text rest)
    (hout : Resolves WellFormed cs out) :
    ∃ out', out = '&' :: (body ++ ';' :: out') ∧ Resolves WellFormed rest out' := by
  obtain rfl := h.eq_append
  obtain ⟨out', rfl, htail⟩ := hout.of_not_starts fun _ _ _ h' => h'.not_signed h
  rw [List.append_cons] at htail
  obtain ⟨out'', rfl, hrest⟩ := htail.of_append (h.mono .inr).not_mem
  exact ⟨out'', by simp, hrest⟩

/-- A reference by number means one character. -/
theorem Numeric.length_text {sign : List Char} (h : Numeric sign body text) : text.length = 1 := by
  cases h with
  | decimal h =>
    obtain ⟨ds, n, -, -, -, rfl⟩ := h
    rfl
  | hexadecimal _ h =>
    obtain ⟨ds, n, -, -, -, rfl⟩ := h
    rfl

/-- Inside of a reference no other one starts. -/
theorem Starts.hasReference_iff (h : Starts Accepted cs body text rest) :
    HasReference Means cs ↔
      (∃ body text rest, Starts Means cs body text rest) ∨ HasReference Means rest := by
  have hno := h.not_mem
  obtain rfl := h.eq_append
  rw [List.append_cons, hasReference_cons, hasReference_append hno]

/-- The pass for the references that are read gives no more than the one for those that are
    well-formed, and less where there is a number with a sign. -/
theorem Resolves.length_le {out' : List Char} (h : Resolves Accepted cs out)
    (h' : Resolves WellFormed cs out') :
    out.length ≤ out'.length ∧
      (HasReference (Numeric ['+']) cs → out.length < out'.length) := by
  -- both passes go step by step through the text, and part only at numbers with a sign
  induction h generalizing out' with
  | nil => exact ⟨Nat.zero_le _, fun hsigned => absurd hsigned not_hasReference_nil⟩
  | @reference cs body text rest out hstarts hrest ih =>
    obtain hmeans | hmeans := hstarts.means
    · have hstarts' : Starts WellFormed cs body text rest :=
        ⟨hstarts.eq_append, hstarts.byteLength_le, hmeans⟩
      obtain ⟨out', rfl, hrest'⟩ := h'.of_starts accepted_of_wellFormed hstarts'
      obtain ⟨hle, hlt⟩ := ih hrest'
      rw [List.length_append, List.length_append]
      refine ⟨by omega, fun hsigned => ?_⟩
      have hsigned : HasReference (Numeric ['+']) rest := by
        refine (hstarts.hasReference_iff.1 hsigned).resolve_left ?_
        rintro ⟨body', text', rest', hsigned⟩
        exact hstarts'.not_signed hsigned
      have := hlt hsigned
      omega
    · obtain ⟨out', rfl, hrest'⟩ := Starts.resolves_signed
        ⟨hstarts.eq_append, hstarts.byteLength_le, hmeans⟩ h'
      obtain ⟨hle, -⟩ := ih hrest'
      have hlength : (text ++ out).length < ('&' :: (body ++ ';' :: out')).length := by
        simp only [List.length_append, List.length_cons, hmeans.length_text]
        omega
      exact ⟨Nat.le_of_lt hlength, fun _ => hlength⟩
  | @copy c cs out hno hrest ih =>
    have hno' : ∀ body text rest, ¬ Starts WellFormed (c :: cs) body text rest :=
      fun _ _ _ h => hno _ _ _ (h.mono accepted_of_wellFormed)
    obtain ⟨out', rfl, hrest'⟩ := h'.of_not_starts hno'
    obtain ⟨hle, hlt⟩ := ih hrest'
    refine ⟨Nat.succ_le_succ hle, fun hsigned => Nat.succ_lt_succ (hlt ?_)⟩
    refine (hasReference_cons.1 hsigned).resolve_left ?_
    rintro ⟨body, text, rest, h⟩
    exact hno _ _ _ (h.mono .inr)

/-- Without numbers that have a sign, the two passes are one. -/
theorem Resolves.of_not_signed (h : Resolves Accepted cs out)
    (hno : ¬ HasReference (Numeric ['+']) cs) : Resolves WellFormed cs out := by
  induction h with
  | nil => exact .nil
  | @reference cs body text rest out hstarts _ ih =>
    rw [hstarts.hasReference_iff, not_or] at hno
    -- a reference that was accepted is well-formed or signed, and the second was excluded
    obtain hmeans | hmeans := hstarts.means
    · exact .reference ⟨hstarts.eq_append, hstarts.byteLength_le, hmeans⟩ (ih hno.2)
    · exact absurd ⟨body, text, rest, hstarts.eq_append, hstarts.byteLength_le, hmeans⟩ hno.1
  | copy hstarts _ ih =>
    rw [hasReference_cons, not_or] at hno
    exact .copy (fun _ _ _ h => hstarts _ _ _ (h.mono accepted_of_wellFormed)) (ih hno.2)

/-- **Which references are resolved.** Decoding goes over the text once, from the left, and replaces
    the references that are well-formed, and besides them the numbers with a plus sign; all other
    characters are copied. So it is the pass for the well-formed references, which has one result
    for every text, exactly if there is no number with a plus sign in the text. -/
theorem decodeEntities_exact (cs : List Char) :
    (∀ out, decodeEntities cs = out ↔
      Resolves (fun body text => WellFormed body text ∨ Numeric ['+'] body text) cs out) ∧
    (∃! out, Resolves WellFormed cs out) ∧
    (Resolves WellFormed cs (decodeEntities cs) ↔ ¬ HasReference (Numeric ['+']) cs) := by
  have hdecode : Resolves Accepted cs (decodeEntities cs) := decodeEntities_eq_iff_resolves.1 rfl
  refine ⟨fun out => decodeEntities_eq_iff_resolves, ?_, ?_⟩
  · obtain ⟨out, hout⟩ := Resolves.exists WellFormed cs
    exact ⟨out, hout, fun out' hout' => hout'.unique accepted_of_wellFormed hout⟩
  · constructor
    -- a signed reference makes the decoded text shorter than the well-formed reading
    · intro hwell hsigned
      exact Nat.lt_irrefl _ ((hdecode.length_le hwell).2 hsigned)
    · exact hdecode.of_not_signed

/-- A number with a plus sign is no well-formed reference, and is resolved all the same. -/
theorem decodeEntities_signed :
    decodeEntities "&#+65;".toList = "A".toList ∧
    Resolves WellFormed "&#+65;".toList "&#+65;".toList ∧
    ¬ Resolves WellFormed "&#+65;".toList (decodeEntities "&#+65;".toList) := by
  have hwrites : Writes 10 "65".toList 65 :=
    (writes_iff_digits? (by decide)).2 ⟨by decide, by decide⟩
  have hsigned : Starts (Numeric ['+']) "&#+65;".toList "#+65".toList "A".toList [] :=
    ⟨rfl, by decide, .decimal ⟨"65".toList, 65, rfl, hwrites, by decide, rfl⟩⟩
  refine ⟨by decide, ?_, fun hwell => ?_⟩
  · obtain ⟨out, hout⟩ := Resolves.exists WellFormed "&#+65;".toList
    obtain ⟨out', rfl, hrest⟩ := hsigned.resolves_signed hout
    obtain rfl := hrest.unique accepted_of_wellFormed .nil
    exact hout
  · have hdecode := decodeEntities_eq_iff_resolves.1 (Eq.refl (decodeEntities "&#+65;".toList))
    have hhas : HasReference (Numeric ['+']) "&#+65;".toList :=
      ⟨_, List.suffix_refl _, _, _, _, hsigned⟩
    exact Nat.lt_irrefl _ ((hdecode.length_le hwell).2 hhas)

end JsxTemplate.Text
