import JsxTemplate.Text.Characters
import JsxTemplate.Text.EntityTable
import JsxTemplate.Text.Offsets

namespace JsxTemplate

/-!
# Escapes

How a text is written inside quotes, and how the references in a text are read.

* `braced text` — `text` between braces.
* `quoted cs` — a string literal with double quotes that reads back as `cs`; the escapes are those
  of JSON.
* `propertyKey name` — `name` as the key of an object literal: bare where the language allows it.
* `escapeTemplate cs` — `cs` as the static text of a template literal.
* `escapeAttribute cs` — `cs` as an attribute value between double quotes.
* `reference? body` — what `&body;` stands for: a named character, or one given by its decimal or
  hexadecimal number.
* `decodeEntities cs` — `cs` with its references resolved in one pass from the left. An ampersand
  that starts no reference stays as written, and what a reference gives is not read again.
-/

/-! ### Braces -/

/-- The sign that opens a block. In a string literal it is written by its number here, and nowhere
    else. -/
def openBrace : String := "\x7b"

/-- The sign that closes a block. -/
def closeBrace : String := "\x7d"

/-- A text between braces. -/
def braced (text : String) : String := openBrace ++ text ++ closeBrace

namespace Text

/-! ### Quotes -/

/-- The lower-case hexadecimal digit of a number below sixteen. -/
def hexDigit (n : Nat) : Char :=
  if n < 10 then Char.ofNat (48 + n) else Char.ofNat (87 + n)

/-- One character inside a string literal. -/
def quotedChar (c : Char) : List Char :=
  match c with
  | '"' => ['\\', '"']
  | '\\' => ['\\', '\\']
  | '\x08' => ['\\', 'b']
  | '\x0c' => ['\\', 'f']
  | '\n' => ['\\', 'n']
  | '\r' => ['\\', 'r']
  | '\t' => ['\\', 't']
  | c =>
    if c.toNat < 32 then ['\\', 'u', '0', '0', hexDigit (c.toNat / 16), hexDigit (c.toNat % 16)]
    else [c]

/-- The string literal of a text. -/
def quoted (cs : List Char) : List Char :=
  '"' :: cs.flatMap quotedChar ++ ['"']

/-- A property key: the bare name if it is an identifier name, its string literal otherwise. -/
def propertyKey (name : List Char) : List Char :=
  if isIdentifierName name then name else quoted name

/-- Static text of a template literal: a backslash, a backtick and a dollar sign that would open a
    hole get a backslash in front. -/
def escapeTemplate : List Char → List Char
  | [] => []
  | '\\' :: cs => '\\' :: '\\' :: escapeTemplate cs
  | '`' :: cs => '\\' :: '`' :: escapeTemplate cs
  | '$' :: '{' :: cs => '\\' :: '$' :: '{' :: escapeTemplate cs
  | c :: cs => c :: escapeTemplate cs

/-- An attribute value for double quotes: each double quote becomes its reference. -/
def escapeAttribute (cs : List Char) : List Char :=
  cs.flatMap fun c => if c = '"' then ['&', 'q', 'u', 'o', 't', ';'] else [c]

/-! ### Character references -/

/-- The longest distance, in bytes, between the ampersand and the semicolon of a reference. -/
def maxReferenceLength : Nat := 32

/-- The text that a named reference stands for. -/
def entity? (name : List Char) : Option (List Char) :=
  let name := String.ofList name
  ((upperEntities ++ lowerEntities ++ lateEntities).lookup name).map (·.map Char.ofNat)

/-- The value of a digit in a base of at most sixteen. -/
def digit? (base : Nat) (c : Char) : Option Nat :=
  let value :=
    if '0' ≤ c && c ≤ '9' then c.toNat - 48
    else if 'a' ≤ c && c ≤ 'f' then c.toNat - 87
    else if 'A' ≤ c && c ≤ 'F' then c.toNat - 55
    else base
  if value < base then some value else none

/-- The number that digits of a base write, continuing after `value`. -/
def digits? (base : Nat) : Nat → List Char → Option Nat
  | value, [] => some value
  | value, c :: cs => do
    let d ← digit? base c
    digits? base (value * base + d) cs

/-- A number of 32 bits: one or more digits, with at most one plus sign before them. -/
def number? (base : Nat) (cs : List Char) : Option Nat := do
  let digits := match cs with
    | '+' :: rest => rest
    | cs => cs
  guard !digits.isEmpty
  let value ← digits? base 0 digits
  guard (value < 0x100000000)
  return value

/-- The character with a given code point. -/
def scalar? (n : Nat) : Option Char :=
  if n < 0xD800 || (0xE000 ≤ n && n < 0x110000) then some (Char.ofNat n) else none

/-- The text that the reference with the given body stands for. -/
def reference? : List Char → Option (List Char)
  | '#' :: 'x' :: cs | '#' :: 'X' :: cs => do
    let c ← scalar? (← number? 16 cs)
    return [c]
  | '#' :: cs => do
    let c ← scalar? (← number? 10 cs)
    return [c]
  | cs => entity? cs

/-- The body of a reference: the text up to the next semicolon, which must come in time. -/
def body? (cs : List Char) : Option (List Char) :=
  let body := cs.takeWhile (· != ';')
  if body.length < cs.length && byteLength body ≤ maxReferenceLength then some body else none

/-- Resolves references in a text of which the first `skip` characters are already dealt with. -/
def decodeFrom : Nat → List Char → List Char
  | _, [] => []
  | n + 1, _ :: cs => decodeFrom n cs
  | 0, c :: cs =>
    if c = '&' then
      match (do let body ← body? cs; return (body, ← reference? body)) with
      | some (body, text) => text ++ decodeFrom (body.length + 1) cs
      | none => '&' :: decodeFrom 0 cs
    else c :: decodeFrom 0 cs

/-- The text with its character references resolved. -/
def decodeEntities (cs : List Char) : List Char :=
  decodeFrom 0 cs

end Text

end JsxTemplate
