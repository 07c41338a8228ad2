import JsxTemplate.Proofs.Readers

namespace JsxTemplate

open Text

/-!
# Names in tags

Hyphens may stand in the names of tags, but not where a tag is a member access. All else in them are
characters of names.

* `Text.isTagName` — names of the language with hyphens in them.
* `TagName.IsSpelled`, `Grammar.gives_tagName` — what the reader of tags gives.
-/

namespace Text

/-- A name of the language, in which hyphens may stand after the first character. -/
def isTagName : List Char → Bool
  | [] => false
  | c :: cs => isIdentifierStart c && cs.all fun d => isIdentifierPart d || d == '-'

/-- Without a hyphen in it, it is a name of the language. -/
theorem isIdentifierName_of_isTagName {cs : List Char} (h : isTagName cs = true)
    (hhyphen : '-' ∉ cs) : isIdentifierName cs = true := by
  cases cs with
  | nil => cases h
  | cons c cs =>
    rw [isTagName, Bool.and_eq_true, List.all_eq_true] at h
    rw [isIdentifierName, Bool.and_eq_true, List.all_eq_true]
    refine ⟨h.1, fun d hd => ?_⟩
    have hne : d ≠ '-' := fun heq => hhyphen (heq ▸ List.mem_cons_of_mem _ hd)
    simpa [hne] using h.2 d hd

/-- What a name starts with may stand inside of it, too. -/
theorem isIdentifierPart_of_isIdentifierStart {c : Char} (h : isIdentifierStart c = true) :
    isIdentifierPart c = true := by
  unfold isIdentifierStart at h
  unfold isIdentifierPart
  -- ASCII has a rule of its own, beyond it the tables are asked
  split at h
  next hascii =>
    rw [if_pos hascii]
    have halphanum : c.isAlpha = true → c.isAlphanum = true := by
      intro halpha
      show (c.isAlpha || c.isDigit) = true
      rw [halpha, Bool.true_or]
    simp only [Bool.or_eq_true] at h ⊢
    exact h.imp_left (Or.imp_left halphanum)
  next hascii =>
    rw [if_neg hascii, h]
    simp

/-- A name has nothing in it but characters of names. -/
theorem forall_isIdentifierPart {cs : List Char} (h : isIdentifierName cs = true) :
    ∀ c ∈ cs, isIdentifierPart c = true := by
  cases cs with
  | nil => cases h
  | cons c cs =>
    rw [isIdentifierName, Bool.and_eq_true, List.all_eq_true] at h
    intro d hd
    rcases List.mem_cons.1 hd with rfl | hd
    · exact isIdentifierPart_of_isIdentifierStart h.1
    · exact h.2 d hd

/-- There is no hyphen in a name. -/
theorem hyphen_not_mem_of_isIdentifierName {cs : List Char} (h : isIdentifierName cs = true) :
    '-' ∉ cs :=
  fun hmem => absurd (forall_isIdentifierPart h '-' hmem) (by decide)

/-- There is no point in a name. -/
theorem point_not_mem_of_isIdentifierName {cs : List Char} (h : isIdentifierName cs = true) :
    '.' ∉ cs :=
  fun hmem => absurd (forall_isIdentifierPart h '.' hmem) (by decide)

/-- What a name at the front of a text looks like, if the text starts like a name. -/
theorem isTagName_markupName {cs : List Char} (h : cs.head?.any isIdentifierStart = true) :
    isTagName (markupName cs) = true := by
  cases cs with
  | nil => cases h
  | cons c cs =>
    have hstart : isIdentifierStart c = true := h
    have hpart := isIdentifierPart_of_isIdentifierStart hstart
    rw [markupName, List.takeWhile_cons_of_pos (by simp [hpart]), isTagName, hstart, Bool.true_and]
    exact List.all_takeWhile

end Text

/-- What tags look like: names with hyphens in them, but not in a member access. -/
def TagName.IsSpelled : TagName → Prop
  | .plain name => isTagName name.toList = true
  | .namespaced space name => isTagName space.toList = true ∧ isTagName name.toList = true
  | .member root path =>
    ∀ name ∈ root.toList ++ path, isIdentifierName name.toList = true

namespace Grammar

variable {source : List Char}

/-- A name in a tag is spelled like one. -/
theorem gives_hyphenated :
    Gives source (fun name => isTagName name.toList = true) hyphenated := by
  intro c name c' hc heq
  have hlead := Steady.leads hc heq
  obtain ⟨hword, heq⟩ := of_require_bind (of_current_bind heq)
  cases heq
  rw [Bool.and_eq_true, beq_iff_eq, Bool.not_eq_true'] at hword
  refine ⟨?_, hlead⟩
  show isTagName (String.ofList (markupName c.token.text)).toList = true
  rw [String.toList_ofList]
  exact isTagName_markupName (hc.token.starts hword.1 hword.2)

/-- A simple name is a name of the language. -/
theorem isIdentifierName_of_isSimpleName {name : String} (h : isTagName name.toList = true)
    (hsimple : isSimpleName name = true) : isIdentifierName name.toList = true := by
  refine isIdentifierName_of_isTagName h fun hmem => ?_
  rw [isSimpleName, List.contains_iff_mem.2 hmem] at hsimple
  cases hsimple

/-- What the reader of tags gives. -/
theorem gives_tagName (c : Scope) : Gives source TagName.IsSpelled (tagName c) := by
  unfold tagName
  refine gives_hyphenated.bind fun first hfirst => ?_
  refine .skip fun _ => .ite ?_ (.skip fun _ => .ite ?_ ?_)
  · exact gives_hyphenated.bind fun name hname => .pure ⟨hfirst, hname⟩
  · refine (gives_require _).bind fun _ hsimple => ?_
    have hroot := isIdentifierName_of_isSimpleName hfirst hsimple
    refine .bind (.repeated (P := fun name => isIdentifierName name.toList = true) ?_ _)
      fun path hpath => .pure ?_
    · refine .skip fun _ => .ite ?_ .none
      refine gives_hyphenated.bind fun name hname => (gives_require _).bind fun _ hrest => .pure ?_
      simpa using isIdentifierName_of_isSimpleName hname hrest
    · intro name hmem
      rcases List.mem_append.1 hmem with hmem | hmem
      · -- the word `this` is no root
        split at hmem
        next => cases hmem
        next => rwa [List.eq_of_mem_singleton hmem]
      · exact hpath name hmem
  · refine .pure ?_
    split
    next => exact fun name hmem => absurd hmem List.not_mem_nil
    next => exact hfirst

end Grammar

end JsxTemplate
