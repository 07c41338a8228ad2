import JsxTemplate.Compile.Markup
import JsxTemplate.Proofs.AttributeKinds
import JsxTemplate.Proofs.Decoding
import JsxTemplate.Proofs.Emit
import JsxTemplate.Proofs.Quoting
import JsxTemplate.Proofs.ReadBack

namespace JsxTemplate

/-!
# The value of a literal attribute

The text between the quotes of an attribute goes one of two ways. It stays text of the document,
where references are resolved when the document is read, or it becomes a string literal, and its
references are resolved before that. On both ways it has the same value.

* `Text.decodeEntities_escapeAttribute` — escaping does not change what a text is read as.
* `Carries value t` — a piece of a tag that gives an attribute the value.
* `Attribute.literal_carries` — every way of a literal attribute carries its value.
-/

namespace Text

/-! ### Escaping and references -/

/-- A quote is written as a reference. -/
theorem escapeAttribute_cons_quote (cs : List Char) :
    escapeAttribute ('"' :: cs) = '&' :: ("quot".toList ++ ';' :: escapeAttribute cs) := rfl

/-- All other characters stay as they are. -/
theorem escapeAttribute_cons {c : Char} (hc : c ≠ '"') (cs : List Char) :
    escapeAttribute (c :: cs) = c :: escapeAttribute cs := by
  rw [escapeAttribute, List.flatMap_cons, if_neg hc]
  rfl

/-- So do all before the first quote. -/
theorem escapeAttribute_append {before : List Char} (h : '"' ∉ before) (cs : List Char) :
    escapeAttribute (before ++ cs) = before ++ escapeAttribute cs := by
  induction before with
  | nil => rfl
  | cons c before ih =>
    have hc : c ≠ '"' := fun heq => h (heq ▸ List.mem_cons_self ..)
    rw [List.cons_append, escapeAttribute_cons hc, ih (List.not_mem_of_not_mem_cons h),
      List.cons_append]

/-- An escaped text starts with an ampersand or with the first character of the text. -/
theorem exists_of_escapeAttribute_eq_cons {cs ds : List Char} {d : Char} (hd : d ≠ '&')
    (h : escapeAttribute cs = d :: ds) : ∃ cs', cs = d :: cs' ∧ escapeAttribute cs' = ds := by
  cases cs with
  | nil => cases h
  | cons c cs =>
    -- a quote becomes a reference, which starts with the one character that was excluded
    by_cases hc : c = '"'
    · subst hc
      exact absurd (List.cons.inj h).1.symm hd
    · rw [escapeAttribute_cons hc] at h
      obtain ⟨rfl, rfl⟩ := List.cons.inj h
      exact ⟨cs, rfl, rfl⟩

/-- What stands in an escaped text up to a semicolon, without an ampersand, was there before. -/
theorem exists_of_escapeAttribute_eq {cs body rest : List Char} (hno : '&' ∉ body)
    (h : escapeAttribute cs = body ++ ';' :: rest) : ∃ rest', cs = body ++ ';' :: rest' := by
  induction body generalizing cs with
  | nil =>
    obtain ⟨cs', rfl, -⟩ := exists_of_escapeAttribute_eq_cons (by decide) h
    exact ⟨cs', rfl⟩
  | cons b body ih =>
    have hb : b ≠ '&' := fun heq => hno (heq ▸ List.mem_cons_self ..)
    obtain ⟨cs', rfl, htail⟩ := exists_of_escapeAttribute_eq_cons hb h
    obtain ⟨rest', rfl⟩ := ih (List.not_mem_of_not_mem_cons hno) htail
    exact ⟨rest', rfl⟩

/-- The reference that stands for a double quote. -/
theorem reference?_quot : reference? "quot".toList = some ['"'] := by
  decide +kernel

/-- A quote that was escaped is read as a reference to a quote. -/
theorem starts_quot (rest : List Char) :
    Starts Accepted ('&' :: ("quot".toList ++ ';' :: rest)) "quot".toList ['"'] rest :=
  ⟨rfl, by decide, reference?_eq_some_iff.1 reference?_quot⟩

/-- A reference is the same in the escaped text. -/
theorem Starts.escaped {cs body text rest : List Char}
    (h : Starts Accepted cs body text rest) :
    Starts Accepted (escapeAttribute cs) body text (escapeAttribute rest) := by
  have hquote : '"' ∉ '&' :: body ++ [';'] := by
    have hbody : '"' ∉ body := h.means.not_mem (by decide)
    simpa using hbody
  refine ⟨?_, h.byteLength_le, h.means⟩
  have hcs : cs = '&' :: body ++ [';'] ++ rest := by simp [h.eq_append]
  rw [hcs, escapeAttribute_append hquote]
  simp

/-- No reference comes up by escaping, but those that stand for double quotes. -/
theorem not_starts_escapeAttribute {c : Char} {cs : List Char} (hc : c ≠ '"')
    (h : ∀ body text rest, ¬ Starts Accepted (c :: cs) body text rest)
    (body text rest : List Char) : ¬ Starts Accepted (c :: escapeAttribute cs) body text rest := by
  intro hstarts
  -- the body has no ampersand in it, so it ends before the first double quote of the text
  have hamp : '&' ∉ body := hstarts.means.not_mem (by decide)
  obtain ⟨rfl, htail⟩ := List.cons.inj hstarts.eq_append
  obtain ⟨rest', rfl⟩ := exists_of_escapeAttribute_eq hamp htail
  exact h body text rest' ⟨rfl, hstarts.byteLength_le, hstarts.means⟩

/-- **Escaping does not change what a text is read as.** The references in it stay, no others come
    up, and each double quote is read back from its own. -/
theorem decodeEntities_escapeAttribute (cs : List Char) :
    decodeEntities (escapeAttribute cs) = decodeEntities cs := by
  have hpass : Resolves Accepted cs (decodeEntities cs) := decodeEntities_eq_iff_resolves.1 rfl
  generalize decodeEntities cs = out at hpass ⊢
  -- the pass over the text goes step by step with decoding the escaped one
  induction hpass with
  | nil => rfl
  | reference hstarts _ ih => rw [hstarts.escaped.decode, ih]
  | @copy c cs out hno _ ih =>
    by_cases hc : c = '"'
    · subst hc
      rw [escapeAttribute_cons_quote, (starts_quot _).decode, ih]
      rfl
    · rw [escapeAttribute_cons hc, decodeEntities_cons (not_starts_escapeAttribute hc hno), ih]

end Text

/-! ### The ways of a literal -/

open Text

/-- A piece of a tag gives an attribute a value. -/
inductive Carries (value : List Char) : Template Code → Prop where
  /-- As text between double quotes, which the second one ends and in which references are
      resolved. -/
  | text {name written : List Char} (hquote : '"' ∉ written)
      (hvalue : decodeEntities written = value) :
      Carries value (.text (' ' :: name ++ '=' :: '"' :: written ++ ['"']))
  /-- As a string literal in a hole. -/
  | hole {name : List Char} : Carries value (.text (' ' :: name ++ ['=']) ++ .hole (.string value))
  /-- As a string literal handed to a helper. -/
  | handed {helper : Helper} :
      Carries value (.text [' '] ++ .hole (.call helper [.string value]))

/-- An attribute as text carries the value of the literal: escaping and reading undo each other. -/
theorem carries_attributeText (name text : String) :
    Carries (decodeEntities text.toList) (.text (attributeText name text)) :=
  .text (not_mem_escapeAttribute text.toList) (decodeEntities_escapeAttribute text.toList)

/-- An attribute of an element carries it, whichever of the eight ways it is written in. -/
theorem carries_attributeTemplate (name text : String) :
    let value := decodeEntities text.toList
    Carries value (attributeTemplate name (.literal text) (.string value)).value := by
  dsimp only
  rw [attributeTemplate]
  cases AttributeKind.of name with
  | ref => exact .handed
  -- a text needs no helper, so the two that may go through one are plain
  | style => exact carries_attributeText "style" text
  | classMap => exact carries_attributeText "class" text
  | plain name => exact carries_attributeText name text
  | event event => exact .hole
  | property property => exact .hole
  | boolean flag => exact .hole
  | namespaced name => exact .hole

/-- A component is given the value of the literal, unless it has content of its own. -/
theorem props_literal (options : Options) (isEmpty : Bool) (name text : String) :
    ((Attribute.named name (.literal text)).props options isEmpty).value =
      if name = "children" ∧ isEmpty = false then []
      else [.entry ⟨name, .string (decodeEntities text.toList), false⟩] := by
  by_cases h : name = "children" ∧ isEmpty = false
  · obtain ⟨rfl, rfl⟩ := h
    rfl
  · have hcounts : (!isEmpty && name == "children") = false := by
      simpa [and_comm] using h
    rw [if_neg h, Attribute.props, hcounts]
    rfl

/-- **A literal attribute has one value on every way.** Written as text it stays between its quotes
    and is read as the text that was given is, in a template and in static markup alike. In a hole,
    handed to a helper or as a property it is a string literal, and the token of this literal has
    the value that the text is read as. -/
theorem Attribute.literal_carries (options : Options) (name text : String) :
    let a := Attribute.named name (.literal text)
    let value := decodeEntities text.toList
    ('"' ∉ escapeAttribute text.toList ∧ decodeEntities (escapeAttribute text.toList) = value) ∧
      Carries value (a.template options).value ∧
      Carries value (.text a.staticText) ∧
      (∀ isEmpty, (a.props options isEmpty).value =
        if name = "children" ∧ isEmpty = false then [] else [.entry ⟨name, .string value, false⟩]) ∧
      ∀ bindings source, ∃ written, (Code.string value).render bindings source = some written ∧
        ∀ rest offset afterLine, Token.read ⟨written ++ rest, offset⟩ afterLine =
          Token.over .string (String.ofList value) ⟨written ++ rest, offset⟩ afterLine false
            written rest := by
  intro a value
  refine ⟨⟨not_mem_escapeAttribute _, decodeEntities_escapeAttribute _⟩, ?_, ?_, ?_, ?_⟩
  · exact carries_attributeTemplate name text
  · exact carries_attributeText _ text
  · exact fun isEmpty => props_literal options isEmpty name text
  · intro bindings source
    exact ⟨quoted value, by rw [Code.render], Token.read_quoted value⟩

end JsxTemplate
