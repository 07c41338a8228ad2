import JsxTemplate.Text.Escapes

namespace JsxTemplate

open Text

/-!
# Tokens

The words of the language, read from the front of a text. What a character means can depend on the
grammar around it (a slash divides or opens a regular expression, an angle bracket compares or opens
a tag), so tokens are read one at a time and some are read again in another way.

* `Token` — kind, spelling and place of one token, with the text from its first character on.
* `Token.next` — the first token of a text, after blanks and comments.
* `regexEnd`, `Chunk.read`, `markupName`, `markupText` — the readers for regular expressions,
  template literals, names in tags and text between tags.
-/

/-! ### Blanks and comments -/

/-- The characters that end a line. -/
def isLineEnd (c : Char) : Bool :=
  c == '\n' || c == '\r' || c.toNat == 0x2028 || c.toNat == 0x2029

/-- The characters that separate tokens without ending a line. -/
def isSpace (c : Char) : Bool :=
  let n := c.toNat
  n == 0x20 || n == 0x09 || n == 0x0B || n == 0x0C || n == 0x85 || n == 0xA0 || n == 0xFEFF ||
    n == 0x1680 || (0x2000 ≤ n && n ≤ 0x200A) || n == 0x202F || n == 0x205F || n == 0x3000

/-- Where a reader of blanks stands. -/
inductive Gap where
  | between
  | lineComment
  | blockComment

/-- A place in a text: what is left, and how many bytes precede it. -/
structure Place where
  rest : List Char
  offset : Nat

/-- Skips blanks and comments. The answer says whether a line ended on the way; there is none if a
    comment is not closed. -/
def skipGap : Gap → List Char → Nat → Bool → Option (Place × Bool)
  | .between, '/' :: '/' :: cs, n, b => skipGap .lineComment cs (n + 2) b
  | .between, '/' :: '*' :: cs, n, b => skipGap .blockComment cs (n + 2) b
  | .between, c :: cs, n, b =>
    if isLineEnd c then skipGap .between cs (n + c.utf8Size) true
    else if isSpace c then skipGap .between cs (n + c.utf8Size) b
    else some (⟨c :: cs, n⟩, b)
  | .lineComment, c :: cs, n, b =>
    if isLineEnd c then skipGap .between cs (n + c.utf8Size) true
    else skipGap .lineComment cs (n + c.utf8Size) b
  | .blockComment, '*' :: '/' :: cs, n, b => skipGap .between cs (n + 2) b
  | .blockComment, c :: cs, n, b => skipGap .blockComment cs (n + c.utf8Size) (b || isLineEnd c)
  | .blockComment, [], _, _ => none
  | _, [], n, b => some (⟨[], n⟩, b)

/-! ### Escapes -/

/-- The character that `u` and the digits after it stand for, and what follows. -/
def unicodeEscape? (cs : List Char) : Option (Nat × List Char) :=
  match cs with
  | '{' :: rest => do
    let digits := rest.takeWhile (· != '}')
    guard (!digits.isEmpty && digits.length < rest.length)
    let value ← digits? 16 0 digits
    guard (value < 0x110000)
    return (value, rest.drop (digits.length + 1))
  | a :: b :: c :: d :: rest => do
    let value ← digits? 16 0 [a, b, c, d]
    return (value, rest)
  | _ => none

/-- A surrogate pair as one code point. -/
def joinSurrogates (high low : Nat) : Nat :=
  0x10000 + (high - 0xD800) * 0x400 + (low - 0xDC00)

/-- One escape of a string literal, after its backslash: the text it stands for and what follows. -/
def stringEscape? (cs : List Char) : Option (List Char × List Char) :=
  match cs with
  | [] => none
  | 'n' :: rest => some (['\n'], rest)
  | 't' :: rest => some (['\t'], rest)
  | 'r' :: rest => some (['\r'], rest)
  | 'b' :: rest => some (['\x08'], rest)
  | 'f' :: rest => some (['\x0c'], rest)
  | 'v' :: rest => some (['\x0b'], rest)
  | '\r' :: '\n' :: rest => some ([], rest)
  | 'x' :: a :: b :: rest => do
    let value ← digits? 16 0 [a, b]
    return ([Char.ofNat value], rest)
  | 'x' :: _ => none
  | 'u' :: rest => do
    let (value, after) ← unicodeEscape? rest
    if 0xD800 ≤ value && value < 0xDC00 then
      match after with
      | '\\' :: 'u' :: tail =>
        match unicodeEscape? tail with
        | some (low, after') =>
          if 0xDC00 ≤ low && low < 0xE000 then
            return ([Char.ofNat (joinSurrogates value low)], after')
          else return (['\ufffd'], after)
        | none => return (['\ufffd'], after)
      | _ => return (['\ufffd'], after)
    else if 0xDC00 ≤ value && value < 0xE000 then return (['\ufffd'], after)
    else return ([Char.ofNat value], after)
  | c :: rest =>
    if isLineEnd c then some ([], rest)
    else if '0' ≤ c && c ≤ '7' then
      -- octal digits, as many as make a number below 256
      let limit := if c ≤ '3' then 3 else 2
      let digits := (cs.take limit).takeWhile fun d => '0' ≤ d && d ≤ '7'
      let value := digits.foldl (fun v d => v * 8 + (d.toNat - 48)) 0
      some ([Char.ofNat value], cs.drop digits.length)
    else some ([c], rest)

/-- The value of a string literal with the given body. The bound is the number of characters that
    may still be read, so the length of the body suffices. -/
def unescape? : Nat → List Char → Option (List Char)
  | _, [] => some []
  | 0, _ => none
  | n + 1, '\\' :: cs => do
    let (text, rest) ← stringEscape? cs
    return text ++ (← unescape? n rest)
  | n + 1, c :: cs => return c :: (← unescape? n cs)

/-- The name that a spelling with escapes stands for. -/
def unescapeName? : Nat → List Char → Option (List Char)
  | _, [] => some []
  | 0, _ => none
  | n + 1, '\\' :: 'u' :: cs => do
    let (value, rest) ← unicodeEscape? cs
    let c ← scalar? value
    return c :: (← unescapeName? n rest)
  | _ + 1, '\\' :: _ => none
  | n + 1, c :: cs => return c :: (← unescapeName? n cs)

/-! ### Names -/

/-- Divides a text after its first name, escapes included. The flag tells that an escape in braces
    is being read. -/
def spanName : Bool → List Char → List Char × List Char
  | false, '\\' :: 'u' :: '{' :: cs =>
    let (name, rest) := spanName true cs
    ('\\' :: 'u' :: '{' :: name, rest)
  | true, '}' :: cs =>
    let (name, rest) := spanName false cs
    ('}' :: name, rest)
  | inside, c :: cs =>
    if inside || isIdentifierPart c || c == '\\' then
      let (name, rest) := spanName inside cs
      (c :: name, rest)
    else ([], c :: cs)
  | _, [] => ([], [])

/-! ### Numbers -/

/-- Whether digits of a number are separated rightly: each low line stands between two digits. -/
def wellSeparated : List Char → Bool
  | [] => true
  | '_' :: _ => false
  | [_] => true
  | _ :: '_' :: '_' :: _ => false
  | [_, '_'] => false
  | _ :: '_' :: cs => wellSeparated cs
  | _ :: cs => wellSeparated cs

/-- The digits at the front of a text, separators included. -/
def spanDigits (base : Nat) (cs : List Char) : List Char × List Char :=
  cs.span fun c => c == '_' || (digit? base c).isSome

/-- A run of at least one digit, rightly separated, and what follows. -/
def digitRun? (base : Nat) (cs : List Char) : Option (List Char × List Char) := do
  let (run, rest) := spanDigits base cs
  guard (!run.isEmpty && wellSeparated run)
  return (run, rest)

/-- What follows the exponent of a number, if it has one. -/
def skipExponent? (cs : List Char) : Option (List Char) :=
  match cs with
  | e :: rest =>
    if e == 'e' || e == 'E' then
      let rest := match rest with
        | '+' :: tail => tail
        | '-' :: tail => tail
        | tail => tail
      (digitRun? 10 rest).map (·.2)
    else some cs
  | [] => some []

/-- What follows the fraction of a number after its point. -/
def skipFraction? (cs : List Char) : Option (List Char) := do
  let (run, rest) := spanDigits 10 cs
  guard (run.isEmpty || wellSeparated run)
  skipExponent? rest

/-- What follows a number of a base other than ten. -/
def skipRadix? (base : Nat) (cs : List Char) : Option (List Char) := do
  let (_, rest) ← digitRun? base cs
  match rest with
  | 'n' :: tail => return tail
  | _ => return rest

/-- What follows a number, which is neither a name nor a digit. -/
def afterNumber? (rest : List Char) : Option (List Char) := do
  guard !(rest.head?.any fun c => isIdentifierStart c || c.isDigit || c == '\\')
  return rest

/-- What follows the number at the front of a text that starts with a digit, or with a point before
    a digit. -/
def skipNumber? (cs : List Char) : Option (List Char) :=
  match cs with
  | '0' :: 'x' :: rest | '0' :: 'X' :: rest => skipRadix? 16 rest >>= afterNumber?
  | '0' :: 'o' :: rest | '0' :: 'O' :: rest => skipRadix? 8 rest >>= afterNumber?
  | '0' :: 'b' :: rest | '0' :: 'B' :: rest => skipRadix? 2 rest >>= afterNumber?
  | '.' :: rest => skipFraction? rest >>= afterNumber?
  | _ => do
    let (run, rest) ← digitRun? 10 cs
    let legacy := run.length > 1 && run.head? == some '0'
    guard !(legacy && run.contains '_')
    match rest with
    | 'n' :: tail => do guard !legacy; return tail
    | '.' :: tail =>
      -- an octal number takes no fraction
      if legacy && run.all (fun c => '0' ≤ c && c ≤ '7') then return rest
      else skipFraction? tail >>= afterNumber?
    | _ => skipExponent? rest >>= afterNumber?

/-! ### Strings -/

/-- The body of a string literal after its opening quote, and what follows the closing one. -/
def spanString (quote : Char) : List Char → Option (List Char × List Char)
  | [] => none
  | '\\' :: c :: cs => do
    let (body, rest) ← spanString quote cs
    return ('\\' :: c :: body, rest)
  | c :: cs =>
    if c == quote then some ([], cs)
    else if c == '\n' || c == '\r' then none
    else do
      let (body, rest) ← spanString quote cs
      return (c :: body, rest)

/-! ### Punctuators -/

/-- The length of the punctuator at the front of a text, zero if there is none. A greater-than sign
    is always read alone, since it may close several lists of type arguments. -/
def punctuatorLength : List Char → Nat
  | '.' :: '.' :: '.' :: _ => 3
  | '=' :: '=' :: '=' :: _ => 3
  | '!' :: '=' :: '=' :: _ => 3
  | '*' :: '*' :: '=' :: _ => 3
  | '<' :: '<' :: '=' :: _ => 3
  | '&' :: '&' :: '=' :: _ => 3
  | '|' :: '|' :: '=' :: _ => 3
  | '?' :: '?' :: '=' :: _ => 3
  | '?' :: '.' :: c :: _ => if c.isDigit then 1 else 2
  | '?' :: '.' :: [] => 2
  | '=' :: '>' :: _ => 2
  | '=' :: '=' :: _ => 2
  | '!' :: '=' :: _ => 2
  | '<' :: '=' :: _ => 2
  | '<' :: '<' :: _ => 2
  | '*' :: '*' :: _ => 2
  | '+' :: '+' :: _ => 2
  | '-' :: '-' :: _ => 2
  | '&' :: '&' :: _ => 2
  | '|' :: '|' :: _ => 2
  | '?' :: '?' :: _ => 2
  | c :: '=' :: _ => if "+-*/%&|^".toList.contains c then 2 else single c
  | c :: _ => single c
  | [] => 0
where
  /-- One for a character that is a punctuator by itself. -/
  single (c : Char) : Nat :=
    if c = '{' || c = '}' || "()[];,<>+-*/%&|^!~?:=.@".toList.contains c then 1 else 0

/-! ### Tokens -/

/-- The kinds of tokens. -/
inductive Kind where
  | finish
  | word
  | privateName
  | number
  | string
  | template
  | punctuator
  /-- No token starts here. -/
  | invalid
  deriving DecidableEq, Repr

/-- A token. -/
structure Token where
  kind : Kind
  /-- The name, the string value or the punctuator. -/
  value : String
  start : Nat
  stop : Nat
  /-- A line ended before the token. -/
  afterLine : Bool
  /-- The name is spelled with escapes. -/
  escaped : Bool
  /-- The source from the token's first character on. -/
  text : List Char
  /-- The source after the token. -/
  rest : List Char

/-- A token of `kind` with the given value, over the characters of `text` before `rest`. -/
def Token.over (kind : Kind) (value : String) (place : Place) (afterLine escaped : Bool)
    (used rest : List Char) : Token where
  kind := kind
  value := value
  start := place.offset
  stop := place.offset + byteLength used
  afterLine := afterLine
  escaped := escaped
  text := place.rest
  rest := rest

/-- The token that says that none starts here. -/
def Token.unreadable (place : Place) (afterLine : Bool) : Token :=
  Token.over .invalid "" place afterLine false [] place.rest

/-- A word, and its name with the escapes resolved. -/
def wordToken (kind : Kind) (place : Place) (afterLine : Bool) (lead : List Char) : Token :=
  let text := place.rest.drop lead.length
  let (raw, rest) := spanName false text
  let escaped := raw.contains '\\'
  let name? := if escaped then unescapeName? raw.length raw else some raw
  match name? with
  | some name =>
    if isIdentifierName name then
      Token.over kind (String.ofList name) place afterLine escaped (lead ++ raw) rest
    else Token.unreadable place afterLine
  | none => Token.unreadable place afterLine

/-- The token at a place that is neither a blank nor a comment. -/
def Token.read (place : Place) (afterLine : Bool) : Token :=
  match place.rest with
  | [] => Token.over .finish "" place afterLine false [] []
  | '#' :: _ => wordToken .privateName place afterLine ['#']
  | '`' :: rest => Token.over .template "" place afterLine false ['`'] rest
  | c :: cs =>
    if isIdentifierStart c || c == '\\' then wordToken .word place afterLine []
    else if c == '"' || c == '\'' then
      match spanString c cs with
      | some (body, rest) =>
        match unescape? body.length body with
        | some value =>
          Token.over .string (String.ofList value) place afterLine false (c :: body ++ [c]) rest
        | none => Token.unreadable place afterLine
      | none => Token.unreadable place afterLine
    else if c.isDigit || (c == '.' && cs.head?.any Char.isDigit) then
      match skipNumber? place.rest with
      | some rest =>
        let used := place.rest.take (place.rest.length - rest.length)
        Token.over .number "" place afterLine false used rest
      | none => Token.unreadable place afterLine
    else
      let n := punctuatorLength place.rest
      if n = 0 then Token.unreadable place afterLine
      else
        let used := place.rest.take n
        Token.over .punctuator (String.ofList used) place afterLine false used (place.rest.drop n)

/-- The first token after a place. -/
def Token.next (place : Place) : Token :=
  match skipGap .between place.rest place.offset false with
  | some (start, afterLine) => Token.read start afterLine
  | none => Token.unreadable place false

/-- Whether the token is the given punctuator. -/
def Token.isSign (t : Token) (sign : String) : Bool :=
  t.kind == .punctuator && t.value == sign

/-- Whether the token is the given word, spelled without escapes. -/
def Token.isWord (t : Token) (word : String) : Bool :=
  t.kind == .word && !t.escaped && t.value == word

/-- Whether the token is one of the given punctuators. -/
def Token.isSignOf (t : Token) (signs : List String) : Bool :=
  t.kind == .punctuator && signs.contains t.value

/-- Whether the token is one of the given words. -/
def Token.isWordOf (t : Token) (words : List String) : Bool :=
  t.kind == .word && !t.escaped && words.contains t.value

/-- Whether a token is the given key of a member, bare or between quotes. -/
def Token.isKey (t : Token) (key : String) : Bool :=
  (t.kind == .word || t.kind == .string) && t.value == key

/-- The place after the token. -/
def Token.after (t : Token) : Place := ⟨t.rest, t.stop⟩

/-! ### Texts that are read in their own way -/

/-- The text after the pattern of a regular expression, given what follows the opening slash. The
    flag tells that a class in brackets is being read. -/
def regexEnd : Bool → List Char → Option (List Char)
  | _, [] => none
  | inClass, '\\' :: c :: cs => if isLineEnd c then none else regexEnd inClass cs
  | false, '/' :: cs => some cs
  | false, '[' :: cs => regexEnd true cs
  | true, ']' :: cs => regexEnd false cs
  | inClass, c :: cs => if isLineEnd c then none else regexEnd inClass cs

/-- What ends a piece of text in a template literal. -/
inductive Chunk.End where
  | hole
  | literal
  deriving DecidableEq

/-- The text of a template literal up to the next hole or the end: its raw spelling, what ends it,
    and what follows. -/
def Chunk.read : List Char → Option (List Char × Chunk.End × List Char)
  | [] => none
  | '\\' :: c :: cs => do
    let (raw, stop, rest) ← Chunk.read cs
    return ('\\' :: c :: raw, stop, rest)
  | '`' :: cs => some ([], .literal, cs)
  | '$' :: '{' :: cs => some ([], .hole, cs)
  | c :: cs => do
    let (raw, stop, rest) ← Chunk.read cs
    return (c :: raw, stop, rest)

/-- Whether every escape in a piece of a template literal means something; octal ones do not. -/
def Chunk.isCooked : Nat → List Char → Bool
  | _, [] => true
  | 0, _ => false
  | n + 1, '\\' :: cs =>
    match cs with
    | '0' :: d :: _ => !d.isDigit && Chunk.isCooked n (cs.drop 1)
    | d :: _ =>
      if '1' ≤ d && d ≤ '9' then false
      else
        match stringEscape? cs with
        | some (_, rest) => Chunk.isCooked n rest
        | none => false
    | [] => false
  | n + 1, _ :: cs => Chunk.isCooked n cs

/-- The name in a tag at the front of a text; it may hold hyphens. -/
def markupName (cs : List Char) : List Char :=
  cs.takeWhile fun c => isIdentifierPart c || c == '-'

/-- The text between tags at the front of a text; it ends before a brace or an angle bracket. -/
def markupText (cs : List Char) : List Char :=
  cs.takeWhile fun c => c != '{' && c != '<' && c != '}' && c != '>'

end JsxTemplate
