import JsxTemplate.Proofs.Tokens

namespace JsxTemplate

/-!
# Texts inside quotes are read back

What is written between quotes is read by the language as the text it was made from. The readers are
those of the grammar, which know nothing of how the texts are made.

* `Token.read_quoted` — a string literal is one token, and its value is the text.
* `Chunk.cooked?` — the text that the raw spelling of a piece of a template literal stands for.
* `Chunk.read_escapeTemplate` — a piece of a template literal ends where its text ends.
* `Chunk.cooked?_escapeTemplate` — it stands for its text, with the line breaks of the language.
-/

open Text

/-! ### String literals -/

/-- Whether a character stands for itself in a string literal. -/
def isBareInString (c : Char) : Bool :=
  c != '"' && c != '\\' && c != '\n' && c != '\r'

/-- The number of a control character, as the escape for it is read. -/
theorem stringEscape?_number {n : Nat} (hn : n < 32) (rest : List Char) :
    stringEscape? ('u' :: '0' :: '0' :: hexDigit (n / 16) :: hexDigit (n % 16) :: rest) =
      some ([Char.ofNat n], rest) := by
  -- thirty-two numbers, so evaluation decides it
  have hdigits : digits? 16 0 ['0', '0', hexDigit (n / 16), hexDigit (n % 16)] = some n := by
    revert n
    decide
  have hescape : unicodeEscape? ('0' :: '0' :: hexDigit (n / 16) :: hexDigit (n % 16) :: rest) =
      some (n, rest) := by
    show (digits? 16 0 ['0', '0', hexDigit (n / 16), hexDigit (n % 16)] >>= fun value =>
      some (value, rest)) = _
    rw [hdigits]
    rfl
  have hlow : ¬ (0xD800 ≤ n) ∧ ¬ (0xDC00 ≤ n) := by omega
  simp [stringEscape?, hescape, hlow]

/-- A character of a string literal is an escape that is read as it, or the character itself. -/
theorem quotedChar_cases (c : Char) :
    (∃ e es, quotedChar c = '\\' :: e :: es ∧ es.all isBareInString = true ∧
      ∀ rest, stringEscape? (e :: (es ++ rest)) = some ([c], rest)) ∨
    (quotedChar c = [c] ∧ isBareInString c = true) := by
  unfold quotedChar
  split
  · exact .inl ⟨'"', [], rfl, rfl, fun _ => rfl⟩
  · exact .inl ⟨'\\', [], rfl, rfl, fun _ => rfl⟩
  · exact .inl ⟨'b', [], rfl, rfl, fun _ => rfl⟩
  · exact .inl ⟨'f', [], rfl, rfl, fun _ => rfl⟩
  · exact .inl ⟨'n', [], rfl, rfl, fun _ => rfl⟩
  · exact .inl ⟨'r', [], rfl, rfl, fun _ => rfl⟩
  · exact .inl ⟨'t', [], rfl, rfl, fun _ => rfl⟩
  next hquote hslash _ _ hfeed hreturn _ =>
    -- the escapes with a letter are done: what is left is a control character, or stands for itself
    by_cases hlt : c.toNat < 32
    · rw [if_pos hlt]
      refine .inl ⟨'u', ['0', '0', hexDigit (c.toNat / 16), hexDigit (c.toNat % 16)], rfl, ?_, ?_⟩
      · generalize c.toNat = n at hlt
        revert n
        decide
      · intro rest
        have hread := stringEscape?_number hlt rest
        rw [Char.ofNat_toNat] at hread
        exact hread
    · rw [if_neg hlt]
      refine .inr ⟨rfl, ?_⟩
      simp only [isBareInString, Bool.and_eq_true, bne_iff_ne]
      exact ⟨⟨⟨hquote, hslash⟩, hfeed⟩, hreturn⟩

/-- Characters that stand for themselves are part of the string. -/
theorem spanString_append {es : List Char} (hes : es.all isBareInString = true)
    {cs body rest : List Char} (h : spanString '"' cs = some (body, rest)) :
    spanString '"' (es ++ cs) = some (es ++ body, rest) := by
  induction es with
  | nil => exact h
  | cons e es ih =>
    rw [List.all_cons, Bool.and_eq_true] at hes
    obtain ⟨he, hes⟩ := hes
    simp only [isBareInString, Bool.and_eq_true, bne_iff_ne] at he
    obtain ⟨⟨⟨hquote, hslash⟩, hfeed⟩, hreturn⟩ := he
    rw [List.cons_append, spanString.eq_3 _ _ _ fun _ _ heq _ => hslash heq, ih hes]
    simp [hquote, hfeed, hreturn]

/-- An escaped character does not end a string. -/
theorem spanString_quotedChar (c : Char) {cs body rest : List Char}
    (h : spanString '"' cs = some (body, rest)) :
    spanString '"' (quotedChar c ++ cs) = some (quotedChar c ++ body, rest) := by
  obtain ⟨e, es, hc, hes, -⟩ | ⟨hc, hbare⟩ := quotedChar_cases c
  · rw [hc, List.cons_append, List.cons_append, spanString.eq_2, spanString_append hes h]
    rfl
  · rw [hc]
    exact spanString_append (by simp [hbare]) h

/-- The reader of strings stops at the quote that closes the literal. -/
theorem spanString_flatMap (cs rest : List Char) :
    spanString '"' (cs.flatMap quotedChar ++ '"' :: rest) = some (cs.flatMap quotedChar, rest) := by
  induction cs with
  | nil => rfl
  | cons c cs ih =>
    rw [List.flatMap_cons, List.append_assoc]
    exact spanString_quotedChar c ih

/-- An escape is read in one step. -/
theorem unescape?_escape {n : Nat} {c : Char} {rest cs : List Char} (es : List Char)
    (hescape : stringEscape? (es ++ rest) = some ([c], rest)) (h : unescape? n rest = some cs) :
    unescape? (n + 1) ('\\' :: (es ++ rest)) = some (c :: cs) := by
  rw [unescape?.eq_3, hescape]
  show (unescape? n rest >>= fun text => some ([c] ++ text)) = _
  rw [h]
  rfl

/-- So is a character that is no backslash. -/
theorem unescape?_cons {n : Nat} {c : Char} {rest cs : List Char} (hc : c ≠ '\\')
    (h : unescape? n rest = some cs) : unescape? (n + 1) (c :: rest) = some (c :: cs) := by
  rw [unescape?.eq_4 _ _ _ hc, h]
  rfl

/-- The value of a string literal is its text; each character is one step for the reader. -/
theorem unescape?_flatMap (cs : List Char) {n : Nat} (hn : cs.length ≤ n) :
    unescape? n (cs.flatMap quotedChar) = some cs := by
  induction cs generalizing n with
  | nil => cases n <;> rfl
  | cons c cs ih =>
    obtain ⟨n, rfl⟩ : ∃ m, n = m + 1 := Nat.exists_eq_add_one.2 (Nat.zero_lt_of_lt hn)
    have hrest := ih (Nat.le_of_succ_le_succ hn)
    rw [List.flatMap_cons]
    -- one escape, or the character itself, and then the rest
    obtain ⟨e, es, hc, -, hescape⟩ | ⟨hc, hbare⟩ := quotedChar_cases c
    · rw [hc]
      exact unescape?_escape (e :: es) (hescape _) hrest
    · have hslash : c ≠ '\\' := by
        rintro rfl
        cases hbare
      rw [hc]
      exact unescape?_cons hslash hrest

/-- Escaping makes no text shorter. -/
theorem length_le_length_flatMap (cs : List Char) : cs.length ≤ (cs.flatMap quotedChar).length := by
  induction cs with
  | nil => exact Nat.le_refl 0
  | cons c cs ih =>
    have hc : 1 ≤ (quotedChar c).length := by
      obtain ⟨e, es, hc, -⟩ | ⟨hc, -⟩ := quotedChar_cases c <;> simp [hc]
    rw [List.flatMap_cons, List.length_append, List.length_cons]
    omega

/-- **A string literal is read back.** It is one token, up to its closing quote, and the value of
    this token is the text. -/
theorem Token.read_quoted (cs rest : List Char) (offset : Nat) (afterLine : Bool) :
    Token.read ⟨quoted cs ++ rest, offset⟩ afterLine =
      Token.over .string (String.ofList cs) ⟨quoted cs ++ rest, offset⟩ afterLine false
        (quoted cs) rest := by
  have hspan := spanString_flatMap cs rest
  have hvalue := unescape?_flatMap cs (length_le_length_flatMap cs)
  have hquoted : quoted cs ++ rest = '"' :: (cs.flatMap quotedChar ++ '"' :: rest) := by
    simp [quoted]
  have hstart : (isIdentifierStart '"' || '"' == '\\') = false := by decide +kernel
  have hquote : ('"' == '"' || '"' == '\'') = true := rfl
  rw [hquoted, Token.read]
  dsimp only
  -- a quote starts neither a template literal nor a name, so the reader comes to the strings
  split
  next heq => cases heq
  next heq => cases heq
  next heq => cases heq
  next heq =>
    obtain ⟨rfl, rfl⟩ := List.cons.inj heq
    rw [hstart, if_neg Bool.false_ne_true, if_pos hquote, hspan]
    dsimp only
    rw [hvalue]
    rfl

/-! ### Template literals -/

/-- A text with the line breaks that the language knows: each of `\r\n` and `\r` is read as `\n`. -/
def normalizeLines : List Char → List Char
  | [] => []
  | '\r' :: '\n' :: cs => '\n' :: normalizeLines cs
  | '\r' :: cs => '\n' :: normalizeLines cs
  | c :: cs => c :: normalizeLines cs

/-- The text that a piece of a template literal stands for, if all of its escapes mean something. -/
def Chunk.cooked? (raw : List Char) : Option (List Char) := do
  let text := normalizeLines raw
  guard (Chunk.isCooked text.length text)
  unescape? text.length text

/-- An escaped text starts with a backslash or with the first character of the text. -/
theorem exists_of_escapeTemplate_eq_cons {cs ds : List Char} {d : Char}
    (h : escapeTemplate cs = d :: ds) (hd : d ≠ '\\') : ∃ cs', cs = d :: cs' := by
  revert h
  fun_cases escapeTemplate cs with
  | case1 => intro h; cases h
  | case2 cs => intro h; exact absurd (List.cons.inj h).1.symm hd
  | case3 cs => intro h; exact absurd (List.cons.inj h).1.symm hd
  | case4 cs => intro h; exact absurd (List.cons.inj h).1.symm hd
  | case5 c cs => intro h; exact ⟨cs, by rw [(List.cons.inj h).1]⟩

/-- **A piece of a template literal ends where its text ends**, whether a hole or the end of the
    literal follows. -/
theorem Chunk.read_escapeTemplate (cs : List Char) (stop : Chunk.End) (rest : List Char) :
    Chunk.read (escapeTemplate cs ++ (stop.text ++ rest)) =
      some (escapeTemplate cs, stop, rest) := by
  induction cs using escapeTemplate.induct with
  | case1 => cases stop <;> rfl
  | case2 cs ih =>
    rw [escapeTemplate, List.cons_append, List.cons_append, Chunk.read.eq_2, ih]
    rfl
  | case3 cs ih =>
    rw [escapeTemplate, List.cons_append, List.cons_append, Chunk.read.eq_2, ih]
    rfl
  | case4 cs ih =>
    -- the brace after an escaped dollar sign is a character like others
    rw [escapeTemplate, List.cons_append, List.cons_append, List.cons_append, Chunk.read.eq_2,
      Chunk.read.eq_5 _ _ (by simp) (by simp) (by simp), ih]
    rfl
  | case5 c cs hslash htick hhole ih =>
    -- a bare dollar sign meets no brace: one in the text would have it escaped, and the end of a
    -- piece starts with a dollar sign or a backtick
    have hopen : ∀ more, c = '$' → escapeTemplate cs ++ (stop.text ++ rest) = '{' :: more →
        False := by
      intro more hc heq
      cases hescape : escapeTemplate cs with
      | nil =>
        rw [hescape] at heq
        cases stop <;> cases heq
      | cons d ds =>
        rw [hescape, List.cons_append] at heq
        obtain ⟨rfl, -⟩ := List.cons.inj heq
        obtain ⟨cs', hcs⟩ := exists_of_escapeTemplate_eq_cons hescape (by decide)
        exact hhole cs' hc hcs
    rw [escapeTemplate.eq_5 c cs hslash htick hhole, List.cons_append,
      Chunk.read.eq_5 _ _ (fun _ _ heq _ => hslash heq) htick hopen, ih]
    rfl

/-- Only the ends of lines are changed, so any other character is there from the start. -/
theorem exists_of_normalizeLines_eq_cons {cs ds : List Char} {d : Char}
    (h : normalizeLines cs = d :: ds) (hd : d ≠ '\n') : ∃ cs', cs = d :: cs' := by
  revert h
  fun_cases normalizeLines cs with
  | case1 => intro h; cases h
  | case2 cs => intro h; exact absurd (List.cons.inj h).1.symm hd
  | case3 cs => intro h; exact absurd (List.cons.inj h).1.symm hd
  | case4 c cs => intro h; exact ⟨cs, by rw [(List.cons.inj h).1]⟩

/-- An escape neither makes a line break nor takes one apart. -/
theorem normalizeLines_escapeTemplate (cs : List Char) :
    normalizeLines (escapeTemplate cs) = escapeTemplate (normalizeLines cs) := by
  induction cs using escapeTemplate.induct with
  | case1 => rfl
  | case2 cs ih => simpa [escapeTemplate, normalizeLines] using ih
  | case3 cs ih => simpa [escapeTemplate, normalizeLines] using ih
  | case4 cs ih => simpa [escapeTemplate, normalizeLines] using ih
  | case5 c cs hslash htick hhole ih =>
    rw [escapeTemplate.eq_5 c cs hslash htick hhole]
    have hfeed : ∀ ds, escapeTemplate ('\n' :: ds) = '\n' :: escapeTemplate ds := fun ds =>
      escapeTemplate.eq_5 _ _ (by decide) (by decide) (by simp)
    by_cases hreturn : c = '\r'
    · subst hreturn
      by_cases hnext : ∃ cs', cs = '\n' :: cs'
      · obtain ⟨cs', rfl⟩ := hnext
        -- the two characters are one line break before and after escaping, that of `ih`
        rw [hfeed] at ih ⊢
        exact ih
      · have hescape : ∀ ds, escapeTemplate cs = '\n' :: ds → False := fun ds heq =>
          hnext (exists_of_escapeTemplate_eq_cons heq (by decide))
        rw [normalizeLines.eq_3 _ hescape, ih,
          normalizeLines.eq_3 _ fun cs' heq => hnext ⟨cs', heq⟩, hfeed]
    · have hopen : ∀ ds, c = '$' → normalizeLines cs = '{' :: ds → False := by
        intro ds hc heq
        obtain ⟨cs', hcs⟩ := exists_of_normalizeLines_eq_cons heq (by decide)
        exact hhole cs' hc hcs
      rw [normalizeLines.eq_4 _ _ (fun _ heq _ => hreturn heq) hreturn, ih,
        normalizeLines.eq_4 _ _ (fun _ heq _ => hreturn heq) hreturn,
        escapeTemplate.eq_5 c _ hslash htick hopen]

/-- Nor does escaping in templates. -/
theorem length_le_length_escapeTemplate (cs : List Char) :
    cs.length ≤ (escapeTemplate cs).length := by
  fun_induction escapeTemplate cs with
  | case1 => exact Nat.le_refl 0
  | case2 cs ih => simp only [List.length_cons]; omega
  | case3 cs ih => simp only [List.length_cons]; omega
  | case4 cs ih => simp only [List.length_cons]; omega
  | case5 c cs hslash htick hhole ih => simp only [List.length_cons]; omega

/-- In `n` steps, a spelling is read as a text, and all of its escapes mean something. -/
def Chunk.Cooks (n : Nat) (raw cs : List Char) : Prop :=
  Chunk.isCooked n raw = true ∧ unescape? n raw = some cs

/-- Nothing is cooked to nothing. -/
theorem Chunk.Cooks.nil (n : Nat) : Chunk.Cooks n [] [] := by
  cases n <;> exact ⟨rfl, rfl⟩

/-- The three characters that an escaped text has after a backslash stand for themselves. -/
theorem Chunk.Cooks.escape {n : Nat} {raw cs : List Char} (h : Chunk.Cooks n raw cs) {c : Char}
    (hc : c ∈ ['\\', '`', '$']) : Chunk.Cooks (n + 1) ('\\' :: c :: raw) (c :: cs) := by
  simp only [List.mem_cons, List.not_mem_nil, or_false] at hc
  obtain ⟨hcooked, hread⟩ := h
  obtain rfl | rfl | rfl := hc
  · exact ⟨hcooked, unescape?_escape ['\\'] rfl hread⟩
  · exact ⟨hcooked, unescape?_escape ['`'] rfl hread⟩
  · exact ⟨hcooked, unescape?_escape ['$'] rfl hread⟩

/-- A character that is no backslash is cooked to itself. -/
theorem Chunk.Cooks.plain {n : Nat} {raw cs : List Char} (h : Chunk.Cooks n raw cs) {c : Char}
    (hc : c ≠ '\\') : Chunk.Cooks (n + 1) (c :: raw) (c :: cs) := by
  obtain ⟨hcooked, hread⟩ := h
  refine ⟨?_, unescape?_cons hc hread⟩
  rw [Chunk.isCooked.eq_6 _ _ _ hc]
  exact hcooked

/-- An escaped text is read as the text, one character in a step. -/
theorem Chunk.cooks_escapeTemplate (cs : List Char) (n : Nat) :
    Chunk.Cooks (n + cs.length) (escapeTemplate cs) cs := by
  induction cs using escapeTemplate.induct with
  | case1 => exact .nil n
  | case2 cs ih => exact ih.escape (by simp)
  | case3 cs ih => exact ih.escape (by simp)
  | case4 cs ih => exact (ih.plain (by decide)).escape (by simp)
  | case5 c cs hslash htick hhole ih =>
    rw [escapeTemplate.eq_5 c cs hslash htick hhole]
    exact ih.plain hslash

/-- **A piece of a template literal stands for its text**, up to the line breaks. -/
theorem Chunk.cooked?_escapeTemplate (cs : List Char) :
    Chunk.cooked? (escapeTemplate cs) = some (normalizeLines cs) := by
  have hlength := length_le_length_escapeTemplate (normalizeLines cs)
  have hcooks := Chunk.cooks_escapeTemplate (normalizeLines cs)
    ((escapeTemplate (normalizeLines cs)).length - (normalizeLines cs).length)
  rw [Nat.sub_add_cancel hlength] at hcooks
  rw [Chunk.cooked?, normalizeLines_escapeTemplate, hcooks.1, hcooks.2]
  rfl

end JsxTemplate
