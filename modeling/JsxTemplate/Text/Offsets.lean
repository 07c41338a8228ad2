namespace JsxTemplate.Text

/-!
# Offsets, lines and columns

Source positions are UTF-8 byte offsets, texts are lists of characters. A line ends after each line
feed, and after nothing else.

* `byteLength cs` — the number of bytes of `cs`.
* `cut cs n` — the two sides of offset `n`, if that is a place between characters of `cs`.
* `slice cs a b` — the text from offset `a` to offset `b`.
* `replace cs a b new` — `cs` with that text exchanged for `new`.
* `Lines.of cs` — where the lines of a text start.
* `Lines.location` — line and column of an offset as people count: from one, in characters.
* `Lines.unitPosition` — line and column as source maps count: from zero, in UTF-16 units.

An answer is `none` exactly when an offset lies past the end or inside a character, or when two
offsets are out of order.
-/

/-! ### Bytes -/

/-- Number of bytes of a text in UTF-8. -/
def byteLength : List Char → Nat
  | [] => 0
  | c :: cs => c.utf8Size + byteLength cs

/-- The texts before and after byte offset `n`. -/
def cut : List Char → Nat → Option (List Char × List Char)
  | cs, 0 => some ([], cs)
  | [], _ + 1 => none
  | c :: cs, n + 1 =>
    if c.utf8Size ≤ n + 1 then
      (cut cs (n + 1 - c.utf8Size)).map fun (before, after) => (c :: before, after)
    else none

/-- The text between byte offsets `start` and `stop`. -/
def slice (cs : List Char) (start stop : Nat) : Option (List Char) := do
  guard (start ≤ stop)
  let (_, after) ← cut cs start
  let (middle, _) ← cut after (stop - start)
  return middle

/-- The text with its part between byte offsets `start` and `stop` exchanged for `new`. -/
def replace (cs : List Char) (start stop : Nat) (new : List Char) : Option (List Char) := do
  guard (start ≤ stop)
  let (before, after) ← cut cs start
  let (_, rest) ← cut after (stop - start)
  return before ++ new ++ rest

@[simp] theorem byteLength_nil : byteLength [] = 0 := rfl

@[simp] theorem byteLength_cons (c : Char) (cs : List Char) :
    byteLength (c :: cs) = c.utf8Size + byteLength cs := rfl

@[simp] theorem byteLength_append (as bs : List Char) :
    byteLength (as ++ bs) = byteLength as + byteLength bs := by
  induction as with
  | nil => simp
  | cons c cs ih => simp [ih, Nat.add_assoc]

/-! ### Lines -/

/-- The offsets after the line feeds of a text that starts at `offset`. -/
def startsAfterFeeds (offset : Nat) : List Char → List Nat
  | [] => []
  | c :: cs =>
    let next := offset + c.utf8Size
    if c = '\n' then next :: startsAfterFeeds next cs else startsAfterFeeds next cs

/-- The byte offsets at which the lines of a text start. -/
structure Lines where
  starts : List Nat
  deriving DecidableEq, Repr

/-- A line and a column. -/
structure Position where
  line : Nat
  column : Nat
  deriving DecidableEq, Repr, Inhabited

/-- Number of UTF-16 units of a character. -/
def unitSize (c : Char) : Nat :=
  if c.toNat < 0x10000 then 1 else 2

/-- Number of UTF-16 units of a text. -/
def unitLength : List Char → Nat
  | [] => 0
  | c :: cs => unitSize c + unitLength cs

namespace Lines

/-- The lines of a text. -/
def of (cs : List Char) : Lines := ⟨0 :: startsAfterFeeds 0 cs⟩

/-- The starts of the lines up to the one of an offset. -/
def upTo (lines : Lines) (offset : Nat) : List Nat :=
  lines.starts.takeWhile (· ≤ offset)

/-- The number of the line of an offset, counted from zero. -/
def lineOf (lines : Lines) (offset : Nat) : Nat :=
  (lines.upTo offset).length - 1

/-- Where the line of an offset starts. -/
def startOf (lines : Lines) (offset : Nat) : Nat :=
  (lines.upTo offset).getLast?.getD 0

/-- Line and column of an offset, both counted from one, the column in characters. -/
def location (lines : Lines) (cs : List Char) (offset : Nat) : Option Position := do
  let before ← slice cs (lines.startOf offset) offset
  return ⟨lines.lineOf offset + 1, before.length + 1⟩

/-- Line and column of an offset, both counted from zero, the column in UTF-16 units. -/
def unitPosition (lines : Lines) (cs : List Char) (offset : Nat) : Option Position := do
  let before ← slice cs (lines.startOf offset) offset
  return ⟨lines.lineOf offset, unitLength before⟩

end Lines

end JsxTemplate.Text
