import JsxTemplate.Syntax.Tree
import JsxTemplate.Text.Escapes

namespace JsxTemplate

/-!
# The text of a compiled module

A compiled module is the source with some spans replaced and at most one statement put in.

* `Replacement` — new code for a span of the source.
* `Replacement.ascending`, `Replacement.descending` — replacements by where they start; those that
  start together keep their order.
* `splice` — the text of a span with replacements made in it, from the last one to the first, so
  that the offsets of those to come stay right.
* `Piece` — text copied from the source, or text that is new.
* `layout` — the pieces of a module in order.
* `Draft.write` — writes a piece and keeps track of line and column.
* `generate` — the whole text, with a mark for each line of copied text and for each replacement.
* `mappings`, `sourceMap` — the marks of an output, each relative to the one before it in as few
  base-64 digits as it takes, and the whole map.

An offset that is none of the source makes the answer `none`.
-/

/-! ### Replacing parts of a text -/

/-- New code for a span of the source. -/
structure Replacement where
  span : Span
  code : List Char
  deriving DecidableEq, Repr

namespace Replacement

/-- Puts a replacement before the first one that may come after it. -/
def insert (mayFollow : Replacement → Replacement → Bool) (r : Replacement) :
    List Replacement → List Replacement
  | [] => [r]
  | s :: rest => if mayFollow r s then r :: s :: rest else s :: insert mayFollow r rest

/-- Replacements from the first start to the last. -/
def ascending (rs : List Replacement) : List Replacement :=
  rs.foldr (insert fun r s => r.span.start ≤ s.span.start) []

/-- Replacements from the last start to the first. -/
def descending (rs : List Replacement) : List Replacement :=
  rs.foldr (insert fun r s => s.span.start ≤ r.span.start) []

end Replacement

/-- Makes one replacement in a text that starts at offset `base` of the source. -/
def replaceIn (base : Nat) (text : List Char) (r : Replacement) : Option (List Char) := do
  guard (base ≤ r.span.start ∧ base ≤ r.span.stop)
  Text.replace text (r.span.start - base) (r.span.stop - base) r.code

/-- The text of a span with replacements made in it. -/
def splice (source : List Char) (span : Span) (rs : List Replacement) : Option (List Char) := do
  let text ← Text.slice source span.start span.stop
  (Replacement.descending rs).foldlM (replaceIn span.start) text

/-! ### Pieces -/

/-- A stretch of the output. -/
inductive Piece where
  /-- Copied from the source, nothing if the span is empty or turned around. -/
  | copied (span : Span)
  /-- New text, which may stand for a place of the source. -/
  | made (text : List Char) (origin : Option Nat)
  deriving DecidableEq, Repr

/-- A statement to put into the source at an offset. -/
structure Header where
  offset : Nat
  statement : List Char
  deriving DecidableEq, Repr

/-- Whether a line ends at the front of a text. -/
def endsLine : List Char → Bool
  | [] => true
  | '\n' :: _ => true
  | '\r' :: '\n' :: _ => true
  | _ => false

namespace Header

/-- The statement with the line breaks that put it on lines of its own, where `rest` is the source
    after its place. -/
def text (header : Header) (rest : List Char) : List Char :=
  if header.offset = 0 then header.statement ++ ['\n']
  else if endsLine rest then '\n' :: header.statement
  else '\n' :: header.statement ++ ['\n']

/-- The source before a header, and the header. -/
def pieces (source : List Char) (header : Header) : Option (List Piece) := do
  let (_, rest) ← Text.cut source header.offset
  return [.copied ⟨0, header.offset⟩, .made (header.text rest) none]

end Header

/-- The pieces after offset `cursor`, for replacements in order of their starts. -/
def Replacement.pieces (stop : Nat) : Nat → List Replacement → List Piece
  | cursor, [] => [.copied ⟨cursor, stop⟩]
  | cursor, r :: rest =>
    .copied ⟨cursor, r.span.start⟩ :: .made r.code (some r.span.start) ::
      Replacement.pieces stop r.span.stop rest

/-- The pieces of a module. -/
def layout (source : List Char) (header : Option Header) (rs : List Replacement) :
    Option (List Piece) := do
  let stop := Text.byteLength source
  let body (cursor : Nat) := Replacement.pieces stop cursor (Replacement.ascending rs)
  match header with
  | none => return body 0
  | some header => return (← header.pieces source) ++ body header.offset

/-! ### Writing -/

/-- A place of the output that stands for a place of the source. -/
structure Mark where
  generated : Text.Position
  source : Text.Position
  deriving DecidableEq, Repr

/-- The position after a text that starts at a position. -/
def Text.Position.after (position : Text.Position) (cs : List Char) : Text.Position :=
  cs.foldl (fun p c => if c = '\n' then ⟨p.line + 1, 0⟩ else ⟨p.line, p.column + Text.unitSize c⟩)
    position

/-- Output under construction. -/
structure Draft where
  code : List Char
  position : Text.Position
  marks : List Mark
  deriving DecidableEq, Repr

/-- A text cut after its line feeds. -/
def linesOf : List Char → List (List Char)
  | [] => []
  | c :: cs =>
    if c = '\n' then [c] :: linesOf cs
    else match linesOf cs with
      | [] => [[c]]
      | line :: rest => (c :: line) :: rest

namespace Draft

variable (lines : Text.Lines) (source : List Char)

/-- Output with nothing in it. -/
def empty : Draft := ⟨[], ⟨0, 0⟩, []⟩

/-- Adds text. -/
def append (draft : Draft) (cs : List Char) : Draft :=
  { draft with code := draft.code ++ cs, position := draft.position.after cs }

/-- Marks the end of the output as standing for an offset of the source. -/
def mark (draft : Draft) (origin : Nat) : Option Draft := do
  let place ← lines.unitPosition source origin
  return { draft with marks := draft.marks ++ [⟨draft.position, place⟩] }

/-- Adds lines that are copied from an offset on, each with a mark. -/
def copyLines (draft : Draft) (offset : Nat) : List (List Char) → Option Draft
  | [] => some draft
  | line :: rest => do
    let marked ← draft.mark lines source offset
    copyLines (marked.append line) (offset + Text.byteLength line) rest

/-- Adds a piece. -/
def write (draft : Draft) : Piece → Option Draft
  | .copied span =>
    if span.stop ≤ span.start then some draft
    else do
      let text ← Text.slice source span.start span.stop
      draft.copyLines lines source span.start (linesOf text)
  | .made text none => some (draft.append text)
  | .made text (some origin) => do
    let marked ← draft.mark lines source origin
    return marked.append text

end Draft

/-- The output for a source, a header and replacements. -/
def generate (source : List Char) (header : Option Header) (rs : List Replacement) :
    Option Draft := do
  let pieces ← layout source header rs
  pieces.foldlM (Draft.write (Text.Lines.of source) source) .empty

/-! ### Source maps -/

/-- The digits of base 64. -/
def base64Digits : List Char :=
  "ABCDEFGHIJKLMNOPQRSTUVWXYZabcdefghijklmnopqrstuvwxyz0123456789+/".toList

/-- The digit for a number below 64. -/
def base64Digit (n : Nat) : Char :=
  base64Digits[n]?.getD 'A'

/-- The groups of five bits of a number, the lowest first, each but the last marked by a sixth bit.
    The first argument bounds their number. -/
def bitGroups : Nat → Nat → List Nat
  | 0, _ => []
  | few + 1, n => if n < 32 then [n] else (n % 32 + 32) :: bitGroups few (n / 32)

/-- A number in base-64 digits, its sign in the lowest bit. -/
def variableLength (n : Int) : List Char :=
  let bits := if n < 0 then 2 * n.natAbs + 1 else 2 * n.natAbs
  (bitGroups (bits + 1) bits).map base64Digit

/-- The difference of two numbers in base-64 digits. -/
def difference (now before : Nat) : List Char :=
  variableLength ((now : Int) - (before : Int))

/-- One mark, relative to the one before it. Columns start again with each line. -/
def segment (before now : Mark) : List Char :=
  let column := if now.generated.line = before.generated.line then before.generated.column else 0
  difference now.generated.column column ++ difference 0 0 ++
    difference now.source.line before.source.line ++
    difference now.source.column before.source.column

/-- What stands between two marks: a sign for each new line, or one inside a line. -/
def separator (before now : Mark) : List Char :=
  if now.generated.line = before.generated.line then [',']
  else List.replicate (now.generated.line - before.generated.line) ';'

/-- The marks after another one. -/
def mappingsAfter : Mark → List Mark → List Char
  | _, [] => []
  | before, now :: rest => separator before now ++ segment before now ++ mappingsAfter now rest

/-- The marks of an output. -/
def mappings : List Mark → List Char
  | [] => []
  | first :: rest =>
    let start : Mark := ⟨⟨0, 0⟩, ⟨0, 0⟩⟩
    List.replicate first.generated.line ';' ++ segment start first ++ mappingsAfter first rest

/-- The map of an output that was made from a file. -/
def sourceMap (file : String) (source : List Char) (marks : List Mark) : String :=
  braced ("\"version\":3,\"file\":\"" ++ file ++ "\",\"names\":[],\"sources\":[" ++
    String.ofList (Text.quoted file.toList) ++ "],\"sourcesContent\":[" ++
    String.ofList (Text.quoted source) ++ "],\"mappings\":\"" ++ String.ofList (mappings marks) ++
    "\"")

end JsxTemplate
