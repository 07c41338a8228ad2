import JsxTemplate.Text.CaseTable
import JsxTemplate.Text.IdentifierTable

namespace JsxTemplate.Text

/-!
# Classes of characters

What Unicode says of single characters, and what follows for texts.

* `isBlank`, `trim`, `allBlank` — the property `White_Space`.
* `isIdentifierStart`, `isIdentifierPart` — the characters an identifier may start with and go on
  with.
* `isIdentifierName cs` — `cs` can be written as a name of the language; reserved words count, since
  they too may name a property.
* `lowercase cs` — full lower-casing, which looks at more than one character in two places only: `İ`
  becomes two characters, and a capital sigma at the end of a word has a form of its own.
* `asciiLowercase cs` — the letters `A` to `Z` lowered, all else kept.
-/

/-! ### Blanks -/

/-- The characters with the property `White_Space`. -/
def isBlank (c : Char) : Bool :=
  let n := c.toNat
  (9 ≤ n && n ≤ 13) || n == 0x20 || n == 0x85 || n == 0xA0 || n == 0x1680 ||
    (0x2000 ≤ n && n ≤ 0x200A) || n == 0x2028 || n == 0x2029 || n == 0x202F || n == 0x205F ||
    n == 0x3000

/-- The text without the blanks at its start and at its end. -/
def trim (cs : List Char) : List Char :=
  ((cs.dropWhile isBlank).reverse.dropWhile isBlank).reverse

/-- Whether a text consists of blanks only. -/
def allBlank (cs : List Char) : Bool :=
  cs.all isBlank

/-! ### Names -/

/-- Whether a code point lies in one of the closed ranges. -/
def inRanges (ranges : List (Nat × Nat)) (n : Nat) : Bool :=
  ranges.any fun (first, last) => first ≤ n && n ≤ last

/-- A dollar sign, a low line, or a character with the property `ID_Start`. -/
def isIdentifierStart (c : Char) : Bool :=
  if c.toNat < 128 then c.isAlpha || c == '$' || c == '_'
  else inRanges identifierStartRanges c.toNat

/-- What may start an identifier, a character with the property `ID_Continue`, or one of the two
    zero-width joiners. -/
def isIdentifierPart (c : Char) : Bool :=
  if c.toNat < 128 then c.isAlphanum || c == '$' || c == '_'
  else
    c.toNat == 0x200C || c.toNat == 0x200D || inRanges identifierStartRanges c.toNat ||
      inRanges identifierPartRanges c.toNat

/-- Whether the text is a name: one starting character, then parts. -/
def isIdentifierName : List Char → Bool
  | [] => false
  | c :: cs => isIdentifierStart c && cs.all isIdentifierPart

/-! ### Lower case -/

/-- The simple lower-case form of a character, itself if it has none. -/
def lowerChar (c : Char) : Char :=
  let n := c.toNat
  match lowercaseRows.find? fun (first, last, step, _) =>
      first ≤ n && n ≤ last && (n - first) % step == 0 with
  | some (_, _, _, shift) => Char.ofNat (Int.ofNat n + shift).toNat
  | none => c

/-- Whether, after characters that case ignores, a cased character stands next. -/
def casedAfterIgnorable (cs : List Char) : Bool :=
  match cs.dropWhile fun c => inRanges caseIgnorableRanges c.toNat with
  | [] => false
  | c :: _ => inRanges casedRanges c.toNat

/-- Lower-case form of `cs` standing after the reversed text `before`. -/
def lowercaseAfter : List Char → List Char → List Char
  | _, [] => []
  | before, 'Σ' :: cs =>
    let final := casedAfterIgnorable before && !casedAfterIgnorable cs
    (if final then 'ς' else 'σ') :: lowercaseAfter ('Σ' :: before) cs
  | before, 'İ' :: cs => 'i' :: '\u0307' :: lowercaseAfter ('İ' :: before) cs
  | before, c :: cs => lowerChar c :: lowercaseAfter (c :: before) cs

/-- The lower-case form of a text. -/
def lowercase (cs : List Char) : List Char :=
  lowercaseAfter [] cs

/-- The text with its ASCII capitals lowered. -/
def asciiLowercase (cs : List Char) : List Char :=
  cs.map Char.toLower

end JsxTemplate.Text
