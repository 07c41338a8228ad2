import JsxTemplate.Code

namespace JsxTemplate.Template

/-!
# Laws of templates

Templates in a row make one template, and it does not matter how they are grouped.

* `Template.append_assoc`, `Template.empty_append`, `Template.append_empty` — the laws of `++`.
* `Template.values` — what the holes hold, in their order.
* `Template.word` — the characters and the holes one by one, as a reader meets them.
-/

variable {α : Type}

/-! ### One after the other -/

/-- A template without holes only adds to the text at the end. -/
theorem append_nil_holes (t : Template α) (tail : List Char) :
    t ++ (⟨[], tail⟩ : Template α) = ⟨t.holes, t.tail ++ tail⟩ := rfl

/-- The text at the end of one template and the first text of the other become one. -/
theorem append_cons_holes (t : Template α) (hole : List Char × α) (rest : List (List Char × α))
    (tail : List Char) :
    t ++ (⟨hole :: rest, tail⟩ : Template α) =
      ⟨t.holes ++ (t.tail ++ hole.1, hole.2) :: rest, tail⟩ := rfl

/-- Nothing is added at the end. -/
@[simp] theorem append_empty (t : Template α) : t ++ (empty : Template α) = t := by
  rw [empty, append_nil_holes, List.append_nil]

/-- Nothing is added at the front. -/
@[simp] theorem empty_append (t : Template α) : (empty : Template α) ++ t = t := by
  obtain ⟨holes, tail⟩ := t
  cases holes with
  | nil => rfl
  | cons hole rest => rfl

/-- It does not matter which two of three templates are joined first. The case split is on the
    second and the third one, since the holes of these decide where text goes. -/
theorem append_assoc (t u v : Template α) : t ++ u ++ v = t ++ (u ++ v) := by
  obtain ⟨us, utail⟩ := u
  obtain ⟨vs, vtail⟩ := v
  -- the text at the end of `u` goes to the first hole of `v`, or to its end if it has none
  cases us with
  | nil =>
    cases vs with
    | nil => simp only [append_nil_holes, List.append_assoc]
    | cons hole rest =>
      simp only [append_nil_holes, append_cons_holes, List.append_assoc, List.nil_append]
  | cons first more =>
    cases vs with
    | nil => simp only [append_nil_holes, append_cons_holes]
    | cons hole rest =>
      simp only [append_cons_holes, List.append_assoc, List.cons_append]

@[simp] theorem text_nil : (text [] : Template α) = empty := rfl

@[simp] theorem text_append_text (cs ds : List Char) :
    (text cs : Template α) ++ text ds = text (cs ++ ds) := rfl

@[simp] theorem concat_nil : concat ([] : List (Template α)) = empty := rfl

@[simp] theorem concat_cons (t : Template α) (ts : List (Template α)) :
    concat (t :: ts) = t ++ concat ts := rfl

/-! ### What the holes hold -/

/-- What the holes of a template hold. -/
def values (t : Template α) : List α := t.holes.map Prod.snd

@[simp] theorem values_empty : (empty : Template α).values = [] := rfl

@[simp] theorem values_text (cs : List Char) : (text cs : Template α).values = [] := rfl

@[simp] theorem values_hole (a : α) : (hole a).values = [a] := rfl

/-- The values of two templates in a row are those of both. -/
@[simp] theorem values_append (t u : Template α) : (t ++ u).values = t.values ++ u.values := by
  obtain ⟨holes, tail⟩ := u
  cases holes with
  | nil => rw [append_nil_holes, values, values, values, List.map_nil, List.append_nil]
  | cons hole rest =>
    simp only [append_cons_holes, values, List.map_append, List.map_cons]

/-! ### Character by character -/

/-- The characters of a text, where holes may stand between them. -/
def chars (cs : List Char) : List (Char ⊕ α) := cs.map .inl

/-- The characters and the holes of a template in their order. -/
def word (t : Template α) : List (Char ⊕ α) :=
  t.holes.flatMap (fun (before, a) => chars before ++ [.inr a]) ++ chars t.tail

@[simp] theorem chars_nil : (chars [] : List (Char ⊕ α)) = [] := rfl

@[simp] theorem chars_cons (c : Char) (cs : List Char) :
    (chars (c :: cs) : List (Char ⊕ α)) = .inl c :: chars cs := rfl

/-- Characters in a row become letters in a row. -/
@[simp] theorem chars_append (cs ds : List Char) :
    (chars (cs ++ ds) : List (Char ⊕ α)) = chars cs ++ chars ds :=
  List.map_append

@[simp] theorem word_empty : (empty : Template α).word = [] := rfl

@[simp] theorem word_text (cs : List Char) : (text cs : Template α).word = chars cs := rfl

@[simp] theorem word_hole (a : α) : (hole a).word = [.inr a] := rfl

/-- **Joining templates joins their words.** So a template is known by its word, whatever it was
    joined from. -/
@[simp] theorem word_append (t u : Template α) : (t ++ u).word = t.word ++ u.word := by
  obtain ⟨holes, tail⟩ := u
  cases holes with
  | nil => simp [append_nil_holes, word]
  | cons hole rest => simp [append_cons_holes, word]

end JsxTemplate.Template
