import JsxTemplate.Proofs.Rendering
import JsxTemplate.Proofs.Templates

namespace JsxTemplate

/-!
# Code as a word with holes

The text of code is what the compiler writes, with copied expressions in between. Leaving these out
gives a word: characters, and a hole for each copied expression.

* `Word.holes`, `Word.fill` — what the holes of a word hold, and the text with all of them filled.
* `Code.word` — the word of code.
* `Code.render_eq_fill` — the text of code is its word, filled with the texts of the expressions.
* `Code.copies` — the copied expressions of code, as they come in its word. There is one equation
  for each form of code.
-/

/-! ### Words -/

namespace Word

open Template

variable {α : Type}

/-- What the holes of a word hold. -/
def holes (word : List (Char ⊕ α)) : List α := word.filterMap Sum.getRight?

/-- The text of a word with its holes filled, if there is a text for each. -/
def fill (f : α → Option (List Char)) (word : List (Char ⊕ α)) : Option (List Char) :=
  (word.mapM (Sum.elim (fun c => some [c]) f)).map List.flatten

/-- Words with commas between them. -/
def separated (words : List (List (Char ⊕ α))) : List (Char ⊕ α) :=
  (words.intersperse (chars ", ".toList)).flatten

@[simp] theorem holes_nil : holes ([] : List (Char ⊕ α)) = [] := rfl

/-- The holes of two words in a row are in a row. -/
@[simp] theorem holes_append (v w : List (Char ⊕ α)) : holes (v ++ w) = holes v ++ holes w :=
  List.filterMap_append

/-- There are no holes among characters. -/
@[simp] theorem holes_chars (cs : List Char) : holes (chars cs : List (Char ⊕ α)) = [] := by
  induction cs with
  | nil => rfl
  | cons c cs ih => exact ih

@[simp] theorem holes_inl_cons (c : Char) (w : List (Char ⊕ α)) : holes (.inl c :: w) = holes w :=
  rfl

@[simp] theorem holes_inr_cons (a : α) (w : List (Char ⊕ α)) :
    holes (.inr a :: w) = a :: holes w := rfl

/-- Commas between words add no holes. -/
theorem holes_separated (words : List (List (Char ⊕ α))) :
    holes (separated words) = words.flatMap holes := by
  unfold separated
  induction words with
  | nil => rfl
  | cons word rest ih =>
    cases rest with
    | nil => simp
    | cons next rest =>
      rw [List.intersperse_cons_cons, List.flatten_cons, List.flatten_cons, holes_append,
        holes_append, holes_chars, List.nil_append, ih]
      rfl

variable (f : α → Option (List Char))

@[simp] theorem fill_nil : fill f [] = some [] := rfl

/-- Two words in a row are filled one after the other. -/
theorem fill_append (v w : List (Char ⊕ α)) :
    fill f (v ++ w) = do return (← fill f v) ++ (← fill f w) := by
  unfold fill
  rw [List.mapM_append]
  -- if one letter of either word cannot be filled, neither can the whole
  cases v.mapM (Sum.elim (fun c => some [c]) f) with
  | none => rfl
  | some vs =>
    cases w.mapM (Sum.elim (fun c => some [c]) f) with
    | none => rfl
    | some ws => exact congrArg some List.flatten_append

/-- A lone hole becomes what is filled in. -/
@[simp] theorem fill_hole (a : α) : fill f [.inr a] = f a := by
  unfold fill
  rw [List.mapM_cons, List.mapM_nil]
  cases h : f a with
  | none => simp [h]
  | some text => simp [h]

/-- Characters stay as they are. -/
@[simp] theorem fill_chars (cs : List Char) : fill f (chars cs) = some cs := by
  induction cs with
  | nil => rfl
  | cons c cs ih =>
    rw [chars_cons, ← List.singleton_append, fill_append, ih]
    rfl

/-- Words with commas between them are filled one by one. -/
theorem fill_separated (words : List (List (Char ⊕ α))) :
    fill f (separated words) = (words.mapM (fill f)).map (Entry.joined ", ".toList) := by
  unfold separated
  induction words with
  | nil => rfl
  | cons word rest ih =>
    cases rest with
    | nil =>
      rw [List.mapM_cons, List.mapM_nil]
      cases h : fill f word with
      | none => simp [h]
      | some text => simp [h, Entry.joined]
    | cons next rest =>
      rw [List.intersperse_cons_cons, List.flatten_cons, List.flatten_cons, fill_append,
        fill_append, fill_chars, ih]
      simp only [List.mapM_cons]
      -- if one of the texts is missing, so is the whole
      cases fill f word with
      | none => rfl
      | some text =>
        cases fill f next with
        | none => rfl
        | some nextText => cases rest.mapM (fill f) <;> rfl

end Word

/-! ### The word of code -/

namespace Code

open Template (chars)
open Word (fill separated fill_append fill_chars fill_hole fill_separated holes_chars
  holes_separated)

variable (bindings : Bindings)

mutual

/-- The text of code with a hole for each copied expression. -/
def word : Code → List (Char ⊕ Code)
  | string text => chars (Text.quoted text)
  | flag => chars "true".toList
  | name tag => chars tag.text.toList
  | copy e patches => [.inr (copy e patches)]
  | paren inner => chars ['('] ++ inner.word ++ chars [')']
  | spread inner => chars "...".toList ++ inner.word
  | array items => chars ['['] ++ separated (wordsOf items) ++ chars [']']
  | object entries =>
    if entries.isEmpty then chars ['{', '}']
    else chars ['{', ' '] ++ separated (wordsOfEntries entries) ++ chars [' ', '}']
  | call helper arguments =>
    chars ((bindings.nameOf helper).toList ++ ['(']) ++ separated (wordsOf arguments) ++ chars [')']
  | template ⟨holes, tail⟩ =>
    chars ((bindings.nameOf .html).toList ++ ['`']) ++ wordOfHoles holes ++
      chars (Text.escapeTemplate tail ++ ['`'])

/-- The words of several pieces of code. -/
def wordsOf : List Code → List (List (Char ⊕ Code))
  | [] => []
  | code :: rest => code.word :: wordsOf rest

/-- The words of properties. -/
def wordsOfEntries : List (Entry Code) → List (List (Char ⊕ Code))
  | [] => []
  | ⟨key, value, isGetter⟩ :: rest =>
    let key := Text.propertyKey key.toList
    (if isGetter then
      chars ("get ".toList ++ key ++ Entry.bodyOpening) ++ value.word ++
        chars [';', ' ', '}']
    else chars (key ++ ": ".toList) ++ value.word) :: wordsOfEntries rest

/-- The word of the holes of a template, each with the text before it. -/
def wordOfHoles : List (List Char × Code) → List (Char ⊕ Code)
  | [] => []
  | (before, code) :: rest =>
    chars (Text.escapeTemplate before ++ ['$', '{']) ++ code.word ++ chars ['}'] ++
      wordOfHoles rest

end

/-! ### Filled with the texts of expressions -/

section

variable (source : List Char)

mutual

/-- **The text of code is its word**, with the text of each copied expression in its hole. -/
theorem render_eq_fill : (code : Code) →
    code.render bindings source = fill (render bindings source) (code.word bindings)
  | string text => by rw [render, word, fill_chars]
  | flag => by rw [render, word, fill_chars]
  | name tag => by rw [render, word, fill_chars]
  | copy e patches => by rw [word, fill_hole]
  | paren inner => by
    rw [render, word, fill_append, fill_append, fill_chars, fill_chars, ← render_eq_fill inner]
    cases inner.render bindings source <;> rfl
  | spread inner => by
    rw [render, word, fill_append, fill_chars, ← render_eq_fill inner]
    cases inner.render bindings source <;> rfl
  | array items => by
    rw [render, word, fill_append, fill_append, fill_chars, fill_chars, fill_separated,
      ← renderAll_eq_fill items]
    cases renderAll bindings source items <;> rfl
  | object entries => by
    -- an object without properties is written differently, so it is split off first
    rw [render, word]
    have hentries := renderEntries_eq_fill entries
    cases entries with
    | nil => rfl
    | cons entry rest =>
      rw [if_neg (by simp), fill_append, fill_append, fill_chars, fill_chars, fill_separated,
        ← hentries, renderEntries]
      cases entry.value.render bindings source with
      | none => rfl
      | some text => cases renderEntries bindings source rest <;> rfl
  | call helper arguments => by
    rw [render, word, fill_append, fill_append, fill_chars, fill_chars, fill_separated,
      ← renderAll_eq_fill arguments]
    cases renderAll bindings source arguments with
    | none => rfl
    | some texts => simp
  | template ⟨holes, tail⟩ => by
    rw [render, word, fill_append, fill_append, fill_chars, fill_chars,
      ← renderHoles_eq_fill holes]
    cases renderHoles bindings source holes with
    | none => rfl
    | some texts => simp [Template.render]

theorem renderAll_eq_fill : (codes : List Code) →
    renderAll bindings source codes =
      (wordsOf bindings codes).mapM (fill (render bindings source))
  | [] => rfl
  | code :: rest => by
    rw [renderAll, wordsOf, List.mapM_cons, render_eq_fill code, renderAll_eq_fill rest]

theorem renderEntries_eq_fill : (entries : List (Entry Code)) →
    (renderEntries bindings source entries).map (List.map Entry.render) =
      (wordsOfEntries bindings entries).mapM (fill (render bindings source))
  | [] => rfl
  | ⟨key, value, isGetter⟩ :: rest => by
    rw [renderEntries, wordsOfEntries, List.mapM_cons, ← renderEntries_eq_fill rest]
    -- a getter has words on both sides of its value, a plain property only before it
    cases isGetter with
    | true =>
      rw [if_pos rfl, fill_append, fill_append, fill_chars, fill_chars, ← render_eq_fill value]
      cases value.render bindings source with
      | none => rfl
      | some text => cases renderEntries bindings source rest <;> simp [Entry.render]
    | false =>
      rw [if_neg Bool.false_ne_true, fill_append, fill_chars, ← render_eq_fill value]
      cases value.render bindings source with
      | none => rfl
      | some text => cases renderEntries bindings source rest <;> simp [Entry.render]

/-- The same for the holes of a template, with the text before each of them. -/
theorem renderHoles_eq_fill : (holes : List (List Char × Code)) →
    (renderHoles bindings source holes).map Template.renderHoles =
      fill (render bindings source) (wordOfHoles bindings holes)
  | [] => rfl
  | (before, code) :: rest => by
    rw [renderHoles, wordOfHoles, fill_append, fill_append, fill_append, fill_chars, fill_chars,
      ← render_eq_fill code, ← renderHoles_eq_fill rest]
    cases code.render bindings source with
    | none => rfl
    | some text =>
      cases renderHoles bindings source rest <;> simp [Template.renderHoles]

end

end

/-! ### Copied expressions -/

/-- The copied expressions of code, as they come in its word. -/
def copies (code : Code) : List Code := Word.holes (code.word bindings)

/-- The words of several pieces of code, piece by piece. -/
theorem wordsOf_eq (codes : List Code) : wordsOf bindings codes = codes.map (word bindings) := by
  induction codes with
  | nil => rfl
  | cons code rest ih => rw [wordsOf, ih, List.map_cons]

/-- A string copies nothing. -/
@[simp] theorem copies_string (text : List Char) : (string text).copies bindings = [] :=
  holes_chars _

@[simp] theorem copies_flag : flag.copies bindings = [] := holes_chars _

@[simp] theorem copies_name (tag : TagName) : (name tag).copies bindings = [] := holes_chars _

@[simp] theorem copies_copy (e : Expr) (patches : List (Span × Code)) :
    (copy e patches).copies bindings = [copy e patches] := rfl

/-- Parentheses copy what is inside of them. -/
@[simp] theorem copies_paren (inner : Code) :
    (paren inner).copies bindings = inner.copies bindings := by
  simp [copies, word]

@[simp] theorem copies_spread (inner : Code) :
    (spread inner).copies bindings = inner.copies bindings := by
  simp [copies, word]

/-- The holes of pieces of code with commas between them are what the pieces copy. -/
theorem holes_wordsOf (codes : List Code) :
    Word.holes (separated (wordsOf bindings codes)) = codes.flatMap (copies bindings) := by
  rw [holes_separated, wordsOf_eq, List.flatMap_map]
  rfl

/-- An array copies what its items copy. -/
@[simp] theorem copies_array (items : List Code) :
    (array items).copies bindings = items.flatMap (copies bindings) := by
  rw [copies, word, ← holes_wordsOf]
  simp

/-- A call copies what its arguments copy. -/
@[simp] theorem copies_call (helper : Helper) (arguments : List Code) :
    (call helper arguments).copies bindings = arguments.flatMap (copies bindings) := by
  rw [copies, word, ← holes_wordsOf]
  simp

/-- The holes of properties with commas between them are what their values copy. -/
theorem holes_wordsOfEntries (entries : List (Entry Code)) :
    Word.holes (separated (wordsOfEntries bindings entries)) =
      entries.flatMap fun e => e.value.copies bindings := by
  rw [holes_separated]
  induction entries with
  | nil => rfl
  | cons e rest ih =>
    rw [wordsOfEntries, List.flatMap_cons, List.flatMap_cons, ih]
    congr 1
    split <;> simp [copies]

/-- An object copies what its values copy. -/
@[simp] theorem copies_object (entries : List (Entry Code)) :
    (object entries).copies bindings = entries.flatMap fun e => e.value.copies bindings := by
  rw [copies, word, ← holes_wordsOfEntries]
  split
  next h =>
    rw [List.isEmpty_iff.1 h]
    rfl
  next => simp

/-- The holes of a template's word are what the code in its holes copies. -/
theorem holes_wordOfHoles (holes : List (List Char × Code)) :
    Word.holes (wordOfHoles bindings holes) = holes.flatMap fun h => h.2.copies bindings := by
  induction holes with
  | nil => rfl
  | cons hole rest ih =>
    rw [wordOfHoles, List.flatMap_cons, ← ih]
    simp [copies]

/-- A template copies what the code in its holes copies. -/
@[simp] theorem copies_template (t : Template Code) :
    (template t).copies bindings = t.values.flatMap (copies bindings) := by
  obtain ⟨holes, tail⟩ := t
  rw [copies, word, Template.values, List.flatMap_map, ← holes_wordOfHoles]
  simp

end Code

end JsxTemplate
