import JsxTemplate.Text.Escapes

namespace JsxTemplate.Json

/-!
# Reading JSON

The pieces of a JSON text that settings are read from, one after the other. The first fault from the
left decides what is wrong with a text.

* `Fault` — what can be wrong.
* `string`, `number`, `word` — readers for single values.
* `skipValue` — reads past a value that does not matter.
-/

/-- What is wrong with a text. -/
inductive Fault where
  /-- The text does not follow the format. -/
  | malformed
  /-- The text follows the format, and a value is not of the kind that is asked for. -/
  | mistyped
  /-- The text stops too early. -/
  | unfinished
  deriving DecidableEq, Repr

/-- A reader takes its piece off the front of the text. -/
abbrev Reader := StateT (List Char) (Except Fault)

/-- The blanks between the tokens of a text. -/
def isGap (c : Char) : Bool :=
  c == ' ' || c == '\n' || c == '\t' || c == '\r'

/-- The text after the blanks at its front. -/
def rest : Reader (List Char) := do
  modify (·.dropWhile isGap)
  get

/-- Reads the characters of a literal word. -/
def word : List Char → Reader Unit
  | [] => pure ()
  | c :: cs => do
    match ← get with
    | [] => throw .unfinished
    | d :: after =>
      if c != d then throw .malformed
      set after
      word cs

/-! ### Numbers -/

/-- Reads the digits at the front of the text. -/
def digits : Reader (List Char) := do
  let cs ← get
  set (cs.dropWhile Char.isDigit)
  return cs.takeWhile Char.isDigit

/-- Reads digits, at least one. `missing` tells what is wrong if the text ends before them. -/
def someDigits (missing : Fault) : Reader (List Char) := do
  let found ← digits
  if found.isEmpty then
    throw (if (← get).isEmpty then missing else .malformed)
  return found

/-- The number that digits stand for. -/
def ofDigits (cs : List Char) : Nat :=
  cs.foldl (fun n c => 10 * n + (c.toNat - 48)) 0

/-- Reads the exponent of a number, if there is one. -/
def exponent (missing : Fault) : Reader Int := do
  match ← get with
  | 'e' :: cs | 'E' :: cs =>
    match cs with
    | '-' :: after =>
      set after
      return -Int.ofNat (ofDigits (← someDigits missing))
    | '+' :: after =>
      set after
      return ofDigits (← someDigits missing)
    | _ =>
      set cs
      return ofDigits (← someDigits missing)
  | _ => return 0

/-- Reads the digits after the point of a number, if there is one. -/
def fraction (missing : Fault) : Reader (List Char) := do
  match ← get with
  | '.' :: cs =>
    set cs
    someDigits missing
  | _ => return []

/-- The least number that a double-precision number cannot come near to. -/
def tooLarge : Nat := Nat.pow 2 1024 - Nat.pow 2 970

/-- Whether `digits` times a power of ten is too large for a double-precision number. -/
def overflows (digits : List Char) (power : Int) : Bool :=
  let digits := digits.dropWhile (· == '0')
  let magnitude := digits.length + power
  if digits.isEmpty || magnitude < 309 then false
  else if magnitude > 309 then true
  else tooLarge * Nat.pow 10 (-power).toNat ≤ ofDigits digits * Nat.pow 10 power.toNat

/-- Reads a number without its sign, and tells whether it is too large. -/
def number (missing : Fault) : Reader Bool := do
  let whole ← someDigits missing
  if whole.head? == some '0' && whole.length > 1 then throw .malformed
  let part ← fraction missing
  let power ← exponent missing
  return overflows (whole ++ part) (power - part.length)

/-! ### Strings -/

/-- Reads the four digits of an escape. -/
def fourDigits : Reader Nat := do
  let cs ← get
  if Text.byteLength cs < 4 then throw .unfinished
  match Text.digits? 16 0 (cs.take 4) with
  | some n =>
    set (cs.drop 4)
    return n
  | none => throw .malformed

/-- Reads the second half of a character that needs two escapes. -/
def lowHalf (high : Nat) : Reader Char := do
  let expect (c : Char) : Reader Unit := do
    match ← get with
    | [] => throw .unfinished
    | d :: cs =>
      if c != d then throw .malformed
      set cs
  expect '\\'
  expect 'u'
  let low ← fourDigits
  if low < 0xDC00 || 0xDFFF < low then throw .malformed
  return Char.ofNat (0x10000 + (high - 0xD800) * 0x400 + (low - 0xDC00))

/-- Reads an escape after its backslash. Where the text of the string does not matter, half a
    character is none the worse. -/
def escape (matters : Bool) : Reader Char := do
  match ← get with
  | [] => throw .unfinished
  | c :: cs =>
    set cs
    match c with
    | '"' | '\\' | '/' => return c
    | 'b' => return '\x08'
    | 'f' => return '\x0c'
    | 'n' => return '\n'
    | 'r' => return '\r'
    | 't' => return '\t'
    | 'u' =>
      let n ← fourDigits
      if !matters then return 'u'
      else if 0xD800 ≤ n && n ≤ 0xDBFF then lowHalf n
      else if 0xDC00 ≤ n && n ≤ 0xDFFF then throw .malformed
      else return Char.ofNat n
    | _ => throw .malformed

/-- Reads a string after its opening quote, of at most the given length. -/
def stringBody (matters : Bool) : Nat → Reader (List Char)
  | 0 => throw .unfinished
  | n + 1 => do
    match ← get with
    | [] => throw .unfinished
    | '"' :: cs =>
      set cs
      return []
    | '\\' :: cs =>
      set cs
      let c ← escape matters
      return c :: (← stringBody matters n)
    | c :: cs =>
      if c.toNat < 32 then throw .malformed
      set cs
      return c :: (← stringBody matters n)

/-- Reads a string after its opening quote. -/
def string (matters : Bool) : Reader String := do
  let cs ← get
  return String.ofList (← stringBody matters (cs.length + 1))

/-! ### Values that do not matter -/

/-- Reads past a value that holds no others, with its first character in front. -/
def skipSimple : Reader Unit := do
  match ← get with
  | [] => throw .unfinished
  | c :: cs =>
    match c with
    | 'n' => word "null".toList
    | 't' => word "true".toList
    | 'f' => word "false".toList
    | '"' =>
      set cs
      let _ ← string false
    | '-' =>
      set cs
      let _ ← number .malformed
    | _ =>
      if !c.isDigit then throw .malformed
      let _ ← number .malformed

/-- Reads past the key of a field and its colon. -/
def skipKey : Reader Unit := do
  match ← rest with
  | [] => throw .unfinished
  | '"' :: cs =>
    set cs
    let _ ← string false
    match ← rest with
    | [] => throw .unfinished
    | ':' :: cs => set cs
    | _ => throw .malformed
  | _ => throw .malformed

mutual

/-- Reads past a value. The bound is on the number of characters. -/
def skipValue : Nat → Reader Unit
  | 0 => throw .unfinished
  | n + 1 => do
    match ← rest with
    | '[' :: cs =>
      set cs
      match ← rest with
      | ']' :: cs => set cs
      | _ =>
        skipValue n
        skipItems n
    | '{' :: cs =>
      set cs
      match ← rest with
      | '}' :: cs => set cs
      | _ =>
        skipKey
        skipValue n
        skipFields n
    | _ => skipSimple

/-- Reads past the items after the first one, and the bracket. -/
def skipItems : Nat → Reader Unit
  | 0 => throw .unfinished
  | n + 1 => do
    match ← rest with
    | [] => throw .unfinished
    | ']' :: cs => set cs
    | ',' :: cs =>
      set cs
      skipValue n
      skipItems n
    | _ => throw .malformed

/-- Reads past the fields after the first one, and the brace. -/
def skipFields : Nat → Reader Unit
  | 0 => throw .unfinished
  | n + 1 => do
    match ← rest with
    | [] => throw .unfinished
    | '}' :: cs => set cs
    | ',' :: cs =>
      set cs
      skipKey
      skipValue n
      skipFields n
    | _ => throw .malformed

end

end JsxTemplate.Json
