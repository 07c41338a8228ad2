import JsxTemplate.Syntax.Token
import JsxTemplate.Syntax.Tree

namespace JsxTemplate.Grammar

/-!
# Readers

A reader looks at the current token and either gives a value and moves on, or refuses the text. A
refusal says nothing more: a module that does not parse is turned down as a whole.

* `Cursor`, `Reader` — the state of a reader, and readers as a monad with choice.
* `Dialect`, `Dialect.ofPath` — which language is read, as the extension of the file tells.
* `Scope` — what the surroundings of a construct allow.
* `accept`, `expect`, `attempt`, `repeated`, `listed` — the small readers all rules are made of.
-/

/-- Where a reader stands: the current token, and where the token before it ended. -/
structure Cursor where
  token : Token
  before : Nat

/-- The cursor at the first token after a place. -/
def Cursor.at (place : Place) : Cursor :=
  ⟨Token.next place, place.offset⟩

/-- A reader of `α`. -/
abbrev Reader := StateT Cursor Option

/-- The language of a module. -/
structure Dialect where
  /-- Types are part of it. -/
  typed : Bool
  /-- Markup is part of it. -/
  markup : Bool
  /-- The whole module declares what is defined elsewhere. -/
  ambient : Bool := false
  deriving DecidableEq, Repr

/-! ### The language of a file -/

/-- The pieces of a text between separators. -/
def splitAt (separator : Char) : List Char → List (List Char)
  | [] => [[]]
  | c :: cs =>
    if c = separator then [] :: splitAt separator cs
    else match splitAt separator cs with
      | [] => [[c]]
      | piece :: rest => (c :: piece) :: rest

/-- The last component of a path, apart from empty ones and those that stay in place. -/
def fileName (path : List Char) : List Char :=
  ((splitAt '/' path).filter fun part => part ≠ [] ∧ part ≠ ['.']).getLast?.getD []

/-- The pieces of a file's name between points, the last one first. A name that only starts with a
    point has no extension. -/
def nameParts (path : List Char) : List (List Char) :=
  (splitAt '.' (fileName path)).reverse

namespace Dialect

/-- The language of a file: with types for three extensions, with types and markup for one, and with
    markup for all others. A `d` before the extension marks a file of declarations. -/
def ofPath (path : String) : Dialect :=
  match nameParts path.toList with
  | [_] | [_, []] => ⟨false, true, false⟩
  | last :: rest =>
    if last = "tsx".toList then ⟨true, true, false⟩
    else if last = "ts".toList then ⟨true, false, (rest.take 2).contains ['d']⟩
    else if last = "mts".toList ∨ last = "cts".toList then
      ⟨true, false, (rest.take 1).contains ['d']⟩
    else ⟨false, true, false⟩
  | [] => ⟨false, true, false⟩

end Dialect

/-! ### Surroundings -/

/-- What the surroundings of a construct allow. -/
structure Scope where
  typed : Bool
  markup : Bool
  /-- The word `await` is an operator. -/
  await : Bool
  /-- The word `yield` is an operator. -/
  yield : Bool
  /-- The statement `return` may stand here. -/
  inFunction : Bool
  /-- The word `in` is an operator. -/
  allowIn : Bool
  /-- An arrow function may state the type of its result. -/
  resultTypes : Bool
  /-- The word `extends` after a type starts a conditional type. -/
  conditionalTypes : Bool
  /-- Declarations without bodies are meant here. -/
  ambient : Bool
  /-- A decorator is being read, which a bracket ends. -/
  inDecorator : Bool
  /-- The statements of a namespace are read, which may export and import. -/
  inNamespace : Bool
  /-- More than the number of tokens of the text; every repetition stays below it. -/
  limit : Nat

/-- The surroundings of a module's statements. -/
def Scope.module (dialect : Dialect) (limit : Nat) : Scope where
  typed := dialect.typed
  markup := dialect.markup
  await := true
  yield := false
  inFunction := false
  allowIn := true
  resultTypes := true
  conditionalTypes := true
  ambient := dialect.ambient
  inDecorator := false
  inNamespace := false
  limit := limit

/-! ### Tokens -/

/-- The current token. -/
def current : Reader Token := return (← get).token

/-- The token after the current one. -/
def following : Reader Token := do
  let t ← current
  return Token.next t.after

/-- Moves to the next token. -/
def advance : Reader Unit := do
  let t ← current
  set (Cursor.at t.after)

/-- Refuses the text. -/
def refuse {α : Type} : Reader α := failure

/-- Refuses the text unless the condition holds. -/
def require (condition : Bool) : Reader Unit :=
  if condition then pure () else refuse

/-- Where the current token starts. -/
def here : Reader Nat := return (← current).start

/-- The span from an offset to the end of the last token. -/
def spanFrom (start : Nat) : Reader Span := return ⟨start, (← get).before⟩

/-- Whether the current token is the given punctuator. -/
def atSign (sign : String) : Reader Bool := return (← current).isSign sign

/-- Whether the current token is the given word. -/
def atWord (word : String) : Reader Bool := return (← current).isWord word

/-- Takes the punctuator if it stands here, and says so. -/
def accept (sign : String) : Reader Bool := do
  if ← atSign sign then
    advance
    return true
  else return false

/-- Takes the word if it stands here, and says so. -/
def acceptWord (word : String) : Reader Bool := do
  if ← atWord word then
    advance
    return true
  else return false

/-- Takes the punctuator, which must stand here. -/
def expect (sign : String) : Reader Unit := do require (← accept sign)

/-- Takes the word, which must stand here. -/
def expectWord (word : String) : Reader Unit := do require (← acceptWord word)

/-- Whether the current token is of the given kind. -/
def atKind (kind : Kind) : Reader Bool := return (← current).kind == kind

/-- Whether a line ended before the current token. -/
def afterLine : Reader Bool := return (← current).afterLine

/-- The end of a statement: a semicolon, or a place where one may be left out. -/
def endStatement : Reader Unit := do
  if ← accept ";" then return
  let t ← current
  require (t.afterLine || t.kind == .finish || t.isSign closeBrace)

/-! ### Choice and repetition -/

/-- The value of a reader, or nothing and no move if it refuses. -/
def attempt {α : Type} (p : Reader α) : Reader (Option α) := fun c =>
  match p c with
  | some (a, c') => some (some a, c')
  | none => some (none, c)

/-- The answer of a reader, without moving; no if it refuses. -/
def ahead (p : Reader Bool) : Reader Bool := fun c =>
  match p c with
  | some (answer, _) => some (answer, c)
  | none => some (false, c)

/-- The values of a reader until it gives none; at most `limit` times. -/
def repeated {α : Type} : Nat → Reader (Option α) → Reader (List α)
  | 0, _ => refuse
  | n + 1, p => do
    match ← p with
    | some a => return a :: (← repeated n p)
    | none => return []

/-- The values of a reader before a closing sign, with commas between them and, if any, one at the
    end. The closing sign is taken. -/
def listed {α : Type} (limit : Nat) (close : String) (p : Reader α) : Reader (List α) := do
  let items ← repeated limit do
    if ← atSign close then return none
    let a ← p
    unless ← atSign close do expect ","
    return some a
  expect close
  return items

/-- The values of a reader with commas between them, at least one. -/
def commaSeparated {α : Type} (limit : Nat) (p : Reader α) : Reader (List α) := do
  let first ← p
  let more ← repeated limit do
    if ← accept "," then return some (← p) else return none
  return first :: more

/-! ### Words -/

/-- The words that never are identifiers. -/
def reservedWords : List String :=
  ["break", "case", "catch", "class", "const", "continue", "debugger", "default", "delete", "do",
   "else", "enum", "export", "extends", "false", "finally", "for", "function", "if", "import", "in",
   "instanceof", "new", "null", "return", "super", "switch", "this", "throw", "true", "try", "typeof",
   "var", "void", "while", "with"]

/-- Whether a token can be an identifier here. -/
def Scope.allows (c : Scope) (t : Token) : Bool :=
  t.kind == .word && !reservedWords.contains t.value && !(c.await && t.value == "await") &&
    !(c.yield && t.value == "yield")

/-- Whether an identifier stands here. -/
def atIdentifier (c : Scope) : Reader Bool := return c.allows (← current)

/-- An identifier. -/
def identifier (c : Scope) : Reader String := do
  let t ← current
  require (c.allows t)
  advance
  return t.value

/-- A name that may be any word. -/
def anyWord : Reader String := do
  let t ← current
  require (t.kind == .word)
  advance
  return t.value

/-! ### Rules that need each other -/

/-- What the text of an expression may be besides a value: something to assign to. -/
inductive Target where
  /-- A variable or a property. -/
  | simple
  /-- A literal that also reads as a pattern. -/
  | pattern
  /-- An assignment, which inside a pattern gives a default. -/
  | withDefault
  /-- Nothing to assign to. -/
  | none
  deriving DecidableEq

/-- An expression, with what is only known while it is read. -/
structure Operand where
  expr : Expr
  target : Target
  /-- Holds a default after a shorthand property, which only a pattern may. -/
  needsPattern : Bool

/-- An expression that is nothing but a value. -/
def Operand.value (e : Expr) : Operand := ⟨e, .none, false⟩

/-- Expressions with commas between them: one stands for itself, and more of them make a sequence. -/
def sequenceOf (first : Expr) (more : List Expr) : Expr :=
  match more.getLast? with
  | some last =>
    .compound .sequence ⟨first.span.start, last.span.stop⟩ ((first :: more).map .expr)
  | none => first

/-- The rules that refer to each other all over the grammar. Each module of the grammar defines its
    rules from these, and the knot is tied at the end with a bound on the depth. -/
structure Rules where
  /-- An expression without a comma at its top. -/
  operand : Scope → Reader Operand
  /-- The operand of a prefix operator. -/
  unary : Scope → Reader Operand
  /-- What may stand before an assignment sign. -/
  leftHandSide : Scope → Reader Operand
  /-- A statement. -/
  statement : Scope → Reader (List Part)
  /-- A type. -/
  type : Scope → Reader (List Part)
  /-- A binding: a name or a pattern. -/
  binding : Scope → Reader (List Part)
  /-- An element or a fragment, up to its last angle bracket, which is not yet taken. -/
  markup : Scope → Reader (Span × Markup)

namespace Rules

/-- The rules that refuse everything. -/
def refusing : Rules where
  operand _ := refuse
  unary _ := refuse
  leftHandSide _ := refuse
  statement _ := refuse
  type _ := refuse
  binding _ := refuse
  markup _ := refuse

/-- An expression without a comma at its top, as a value. -/
def assignment (r : Rules) (c : Scope) : Reader Expr := do
  let o ← r.operand c
  require !o.needsPattern
  return o.expr

/-- An expression; operands between commas make a sequence. -/
def expression (r : Rules) (c : Scope) : Reader Expr := do
  let first ← r.assignment c
  let more ← repeated c.limit do
    if ← accept "," then return some (← r.assignment c) else return none
  return sequenceOf first more

end Rules

end JsxTemplate.Grammar
