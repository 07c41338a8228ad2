import JsxTemplate.Proofs.Quoting
import JsxTemplate.Proofs.Templates

namespace JsxTemplate.Template

/-!
# A template literal says what was built

A template is built step by step, and its text is escaped at the end. The reader of the language,
started after the opening backtick and again after each hole, finds the texts that were put in.

* `Step`, `Template.build` — a template that is built in steps.
* `Template.segments` — the texts around the holes; `Step.segments` — the same, read off the steps.
* `Splits after text segments codes` — the reader splits a text into segments, where the holes
  between them hold the given codes, and stops in front of `after`.
* `Template.build_splits` — the literal of a built template is split into its segments.
-/

/-! ### Building -/

/-- A step of building a template: more text, or a hole with code in it. -/
inductive Step where
  | static (text : List Char)
  | hole (code : List Char)
  deriving DecidableEq, Repr

/-- The template with one step more. -/
def add (t : Template (List Char)) : Step → Template (List Char)
  | .static text => t ++ .text text
  | .hole code => t ++ .hole code

/-- The template after some steps. -/
def build (steps : List Step) : Template (List Char) :=
  steps.foldl add .empty

/-- The texts before, between and after the holes. -/
def segments {α : Type} (t : Template α) : List (List Char) :=
  t.holes.map Prod.fst ++ [t.tail]

/-- The texts that steps put before, between and after their holes. -/
def Step.segments : List Step → List (List Char)
  | [] => [[]]
  | .static text :: steps => (Step.segments steps).modifyHead (text ++ ·)
  | .hole _ :: steps => [] :: Step.segments steps

/-- The code in a step that is a hole. -/
def Step.code? : Step → Option (List Char)
  | .static _ => none
  | .hole code => some code

variable {α : Type}

/-- There is one segment more than there are values. -/
theorem length_segments (t : Template α) : t.segments.length = t.values.length + 1 := by
  simp [segments, values]

/-- Text in front goes into the first segment. -/
theorem segments_text_append (cs : List Char) (t : Template α) :
    (text cs ++ t).segments = t.segments.modifyHead (cs ++ ·) := by
  obtain ⟨holes, tail⟩ := t
  cases holes with
  | nil => rfl
  | cons hole rest => rfl

/-- A hole in front comes after an empty segment. -/
theorem segments_hole_append (a : α) (t : Template α) :
    (hole a ++ t).segments = [] :: t.segments := by
  obtain ⟨holes, tail⟩ := t
  cases holes with
  | nil => rfl
  | cons hole rest => rfl

/-- Text that is added in two steps is one text. -/
theorem add_static_static (t : Template (List Char)) (cs ds : List Char) :
    (t.add (.static cs)).add (.static ds) = t.add (.static (cs ++ ds)) := by
  show t ++ text cs ++ text ds = t ++ text (cs ++ ds)
  rw [append_assoc, text_append_text]

/-- A step adds at the end. -/
theorem add_eq_append (t : Template (List Char)) (step : Step) :
    t.add step = t ++ empty.add step := by
  cases step with
  | static text => simp [add]
  | hole code => simp [add]

/-- Steps add at the end one after the other. -/
theorem foldl_add (t : Template (List Char)) (steps : List Step) :
    steps.foldl add t = t ++ build steps := by
  induction steps generalizing t with
  | nil => exact (append_empty t).symm
  | cons step steps ih =>
    have hbuild : build (step :: steps) = empty.add step ++ build steps := ih _
    rw [List.foldl_cons, ih, add_eq_append, append_assoc, hbuild]

/-- The first step comes first. -/
theorem build_cons (step : Step) (steps : List Step) :
    build (step :: steps) = empty.add step ++ build steps :=
  foldl_add (empty.add step) steps

/-- The texts around the holes are those that the steps put there. -/
theorem segments_build (steps : List Step) : (build steps).segments = Step.segments steps := by
  induction steps with
  | nil => rfl
  | cons step steps ih =>
    -- a step adds at the end, so the first one is what all others are appended to
    rw [build_cons]
    cases step with
    | static text =>
      rw [add, empty_append, segments_text_append, ih]
      rfl
    | hole code =>
      rw [add, empty_append, segments_hole_append, ih]
      rfl

/-- The values are the codes of the steps that have one, in order. -/
theorem values_build (steps : List Step) : (build steps).values = steps.filterMap Step.code? := by
  induction steps with
  | nil => rfl
  | cons step steps ih =>
    rw [build_cons, values_append, ih]
    cases step with
    | static text => rfl
    | hole code => rfl

/-! ### Reading -/

/-- The reader of the language, started after the opening backtick or after the brace that closes a
    hole, splits a text into segments. It stops at the end of each segment: at a hole if one
    follows, which holds the next of the codes, and otherwise at the closing backtick, in front of
    `after`. -/
inductive Splits (after : List Char) : List Char → List (List Char) → List (List Char) → Prop where
  | close {text raw segment : List Char} (hread : Chunk.read text = some (raw, .literal, after))
      (hcooked : Chunk.cooked? raw = some segment) : Splits after text [segment] []
  | hole {text raw code rest segment : List Char} {segments codes : List (List Char)}
      (hread : Chunk.read text = some (raw, .hole, code ++ '}' :: rest))
      (hcooked : Chunk.cooked? raw = some segment) (hrest : Splits after rest segments codes) :
      Splits after text (segment :: segments) (code :: codes)

/-- A text is split in one way. -/
theorem Splits.unique {after text : List Char} {codes segments segments' : List (List Char)}
    (h : Splits after text segments codes) (h' : Splits after text segments' codes) :
    segments = segments' := by
  induction h generalizing segments' with
  -- reading a chunk is a function: the same text gives the same chunk, and so the same rest
  | close hread hcooked =>
    cases h' with
    | close hread' hcooked' =>
      cases hread.symm.trans hread'
      rw [Option.some.inj (hcooked.symm.trans hcooked')]
  | hole hread hcooked _ ih =>
    -- the code of a hole is given, so what remains after it is determined as well
    cases h' with
    | hole hread' hcooked' hrest' =>
      have hsame := Option.some.inj (hread.symm.trans hread')
      simp only [Prod.mk.injEq, List.append_cancel_left_eq, List.cons.injEq, true_and] at hsame
      obtain ⟨rfl, rfl⟩ := hsame
      rw [Option.some.inj (hcooked.symm.trans hcooked'), ih hrest']

/-- What follows the opening backtick is split into the texts around the holes. -/
theorem splits_renderHoles (holes : List (List Char × List Char)) (tail after : List Char) :
    Splits after (renderHoles holes ++ (Text.escapeTemplate tail ++ '`' :: after))
      ((holes.map Prod.fst ++ [tail]).map normalizeLines) (holes.map Prod.snd) := by
  induction holes with
  | nil =>
    exact .close (Chunk.read_escapeTemplate tail .literal after)
      (Chunk.cooked?_escapeTemplate tail)
  | cons hole holes ih =>
    obtain ⟨before, code⟩ := hole
    -- a chunk up to the first hole, its code with the closing brace, and the rest of the template
    have htext : renderHoles ((before, code) :: holes) ++
        (Text.escapeTemplate tail ++ '`' :: after) =
        Text.escapeTemplate before ++ (Chunk.End.hole.text ++ (code ++ '}' ::
          (renderHoles holes ++ (Text.escapeTemplate tail ++ '`' :: after)))) := by
      simp [renderHoles, Chunk.End.text]
    rw [htext]
    exact .hole (Chunk.read_escapeTemplate before .hole _) (Chunk.cooked?_escapeTemplate before) ih

/-- **A template literal says what was built.** Whatever the steps, there is one text more than
    there are holes, they are the texts and the codes of the steps, and text that is added in two
    steps is one text. The reader of the language, started after the opening backtick and after each
    hole, splits the literal in one way: into these texts, with the line breaks of the language, and
    stops in front of what follows the literal. -/
theorem build_splits (steps : List Step) (after : List Char) :
    let t := build steps
    t.segments.length = t.values.length + 1 ∧
    t.segments = Step.segments steps ∧ t.values = steps.filterMap Step.code? ∧
    (∀ cs ds, (t.add (.static cs)).add (.static ds) = t.add (.static (cs ++ ds))) ∧
    ∃ text, t.render [] ++ after = '`' :: text ∧
      ∀ segments,
        Splits after text segments t.values ↔ segments = t.segments.map normalizeLines := by
  intro t
  refine ⟨length_segments t, segments_build steps, values_build steps, add_static_static t, ?_⟩
  have hsplits := splits_renderHoles t.holes t.tail after
  refine ⟨_, ?_, fun segments => ⟨fun h => h.unique hsplits, ?_⟩⟩
  · simp [render]
  · rintro rfl
    exact hsplits

example : (build [.static ['$'], .static ['{'], .hole ['a'], .static ['\\', '$']]).render [] =
    ("`\\$" ++ openBrace ++ "$" ++ braced "a" ++ "\\\\$`").toList := by
  decide

end JsxTemplate.Template
