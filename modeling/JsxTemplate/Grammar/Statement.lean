import JsxTemplate.Grammar.Expression

namespace JsxTemplate.Grammar

/-!
# Statements

* `declarations` — the declarators of a variable declaration.
* `declaration?` — what declares something: functions, classes, and in a typed language types, enums
  and namespaces.
* `forStatement` and its siblings — the statements with a keyword of their own.
* `statement` — any statement.
-/

/-! ### Variables -/

/-- One declarator, and whether it is complete: a pattern or a constant needs a value. -/
def declarator (r : Rules) (c : Scope) (constant : Bool) : Reader (List Part × Bool) := do
  let pattern := (← current).isSignOf ["[", openBrace]
  let parts ← r.binding c
  if c.typed then let _ ← accept "!"
  let type ← typeOf? r c
  if ← accept "=" then return (parts ++ type ++ [.expr (← r.assignment c)], true)
  return (parts ++ type, c.ambient || !(pattern || constant))

/-- The declarators of a declaration, between commas. The head of a loop over something needs no
    values. -/
def declarators (r : Rules) (c : Scope) (constant : Bool) (isLoop : Reader Bool) :
    Reader (List Part) := do
  let first ← declarator r c constant
  let more ← repeated c.limit do
    if ← accept "," then return some (← declarator r c constant) else return none
  let all := first :: more
  require ((← isLoop) || all.all (·.2))
  return all.flatMap (·.1)

/-- The declarators of a declaration that is a statement. -/
def declarations (r : Rules) (c : Scope) (constant : Bool) : Reader (List Part) :=
  declarators r c constant (pure false)

/-- Whether `let` or a word like it starts a declaration: a name or a pattern follows. -/
def startsBinding (c : Scope) (next : Token) : Bool :=
  c.allows next || next.isWordOf ["let", "yield", "await"] || next.isSignOf ["[", openBrace]

/-- Whether `using` starts a declaration: a name follows on its line. -/
def startsUsing (c : Scope) (t next : Token) : Bool :=
  t.isWord "using" && c.allows next && !next.afterLine && !next.isWordOf ["in", "instanceof"]

/-- The keyword of a variable declaration, taken if it stands here: whether it declares
    constants. -/
def variableKeyword? (c : Scope) : Reader (Option Bool) := do
  let t ← current
  let next ← following
  if t.isWord "var" then
    advance
    return some false
  if t.isWord "const" && !next.isWord "enum" then
    advance
    return some true
  if t.isWord "let" && startsBinding c next then
    advance
    return some false
  if startsUsing c t next && !next.isWord "of" then
    advance
    return some true
  if c.await && t.isWord "await" && next.isWord "using" && !next.afterLine then
    let declares ← ahead do
      advance
      let t ← current
      let next ← following
      return startsUsing c t next
    if declares then
      advance
      advance
      return some true
  return none

/-! ### Declarations -/

/-- A function declaration, at its keyword `async` or `function`. -/
def functionDeclaration (r : Rules) (c : Scope) (needsName : Bool) : Reader (List Part) := do
  let async ← acceptWord "async"
  expectWord "function"
  let generator ← accept "*"
  let t ← current
  let name ← if c.allows t then
      advance
      pure [Part.name .binding t.value]
    else do
      require !needsName
      pure []
  let rest ← functionRest r c async generator true
  return [.function (name ++ rest)]

/-- A class declaration, at its first decorator or its keyword. -/
def classDeclaration (r : Rules) (c : Scope) (needsName : Bool) : Reader (List Part) := do
  let marks ← decorators r c
  if c.typed then let _ ← acceptWord "abstract"
  expectWord "class"
  require (!needsName || c.allows (← current))
  return marks ++ (← classRest r c)

/-- An interface after its keyword. -/
def interfaceRest (r : Rules) (c : Scope) : Reader (List Part) := do
  let name ← identifier c
  let types ← typeParameters? r c
  let bases ← if ← acceptWord "extends" then commaSeparated c.limit (base r c) else pure []
  return .name .typeBinding name :: types ++ bases.flatten ++ (← typeMembers r c)

/-- A type alias after its keyword. -/
def aliasRest (r : Rules) (c : Scope) : Reader (List Part) := do
  let name ← identifier c
  let types ← typeParameters? r c
  expect "="
  let type ← r.type c
  endStatement
  return .name .typeBinding name :: types ++ type

/-- An enum after its keyword. -/
def enumRest (r : Rules) (c : Scope) : Reader (List Part) := do
  let name ← identifier c
  expect openBrace
  let members ← listed c.limit closeBrace do
    let key ← propertyName r c
    return key ++ (← defaultOf? r c)
  return .name .binding name :: members.flatten

/-- A namespace or a module after its keyword; a dotted name declares several. -/
def namespaceRest (r : Rules) (c : Scope) : Reader (List Part) := do
  let inner := { c with inFunction := false, inNamespace := true }
  if ← atKind .string then
    advance
    if ← atSign openBrace then block r inner
    else
      endStatement
      return []
  else
    let name ← identifier c
    let path ← repeated c.limit do
      if ← accept "." then return some (Part.name .binding (← identifier c)) else return none
    return .name .binding name :: path ++ (← block r inner)

/-- A declaration of the typed language, if one starts here. -/
def typedDeclaration? (r : Rules) (c : Scope) : Reader (Option (List Part)) := do
  let t ← current
  let next ← following
  let sameLine := !next.afterLine
  if !c.typed then return none
  if t.isWord "interface" && c.allows next && sameLine then
    advance
    return some (← interfaceRest r c)
  if t.isWord "type" && c.allows next && sameLine then
    advance
    return some (← aliasRest r c)
  if t.isWord "enum" then
    advance
    return some (← enumRest r c)
  if t.isWord "const" && next.isWord "enum" then
    advance
    advance
    return some (← enumRest r c)
  if t.isWordOf ["namespace", "module"] && (c.allows next || next.kind == .string) && sameLine then
    advance
    return some (← namespaceRest r c)
  if t.isWord "global" && next.isSign openBrace && sameLine then
    advance
    return some (← block r { c with inNamespace := true })
  if t.isWord "abstract" && next.isWord "class" && sameLine then
    return some (← classDeclaration r c true)
  if t.isWord "declare" && next.kind == .word && sameLine then
    let declares := next.isWordOf
      ["var", "let", "const", "using", "await", "function", "async", "class", "abstract", "interface",
       "type", "enum", "namespace", "module", "global", "import", "export"]
    if declares then
      advance
      return some (← r.statement { c with ambient := true })
  return none

/-- A declaration other than of variables, if one starts here. -/
def declaration? (r : Rules) (c : Scope) : Reader (Option (List Part)) := do
  let t ← current
  let next ← following
  if t.isWord "function" then return some (← functionDeclaration r c true)
  if t.isWord "async" && next.isWord "function" && !next.afterLine then
    return some (← functionDeclaration r c true)
  if t.isWord "class" || t.isSign "@" then return some (← classDeclaration r c true)
  typedDeclaration? r c

/-! ### Statements with keywords -/

/-- A statement where only a plain function may be declared. -/
def embedded (r : Rules) (c : Scope) : Reader (List Part) := do
  let t ← current
  let next ← following
  require !(t.isWord "function" && next.isSign "*")
  require !(t.isWord "async" && next.isWord "function" && !next.afterLine)
  require !(t.isWordOf ["const", "class"] || t.isSign "@")
  require !(t.isWord "let" && (c.allows next && !next.afterLine || next.isSign "["))
  r.statement c

/-- An expression in parentheses after a keyword. -/
def condition (r : Rules) (c : Scope) : Reader Part := do
  expect "("
  let e ← r.expression c.grouped
  expect ")"
  return .expr e

/-- What follows the first part of a `for` head: the object of a loop over it, or test and
    update. -/
def forRest (r : Rules) (c : Scope) (first : List Part) : Reader (List Part) := do
  let inner := c.grouped
  if ← acceptWord "of" then
    let e ← r.assignment inner
    return first ++ [.expr e]
  if ← acceptWord "in" then
    let e ← r.expression inner
    return first ++ [.expr e]
  expect ";"
  let test ← if ← atSign ";" then pure [] else pure [Part.expr (← r.expression inner)]
  expect ";"
  let update ← if ← atSign ")" then pure [] else pure [Part.expr (← r.expression inner)]
  return first ++ test ++ update

/-- Whether a loop over something goes on here. -/
def atLoopWord : Reader Bool := return (← atWord "of") || (← atWord "in")

/-- The first part of a `for` head that is no declaration. -/
def forInitial (r : Rules) (c : Scope) (waits : Bool) : Reader (List Part) := do
  if ← atSign ";" then return []
  let t ← current
  let next ← following
  let o ← r.operand c
  if ← atLoopWord then
    require (o.target == .simple || o.target == .pattern)
    -- a loop over values does not start with one of two words
    require !((← atWord "of") &&
      (t.isWord "let" || (!waits && t.isWord "async" && next.isWord "of")))
    return [.expr o.expr]
  require !o.needsPattern
  let more ← repeated c.limit do
    if ← accept "," then return some (Part.expr (← r.assignment c)) else return none
  require (← atSign ";")
  return .expr o.expr :: more

/-- A `for` statement after its keyword. -/
def forStatement (r : Rules) (c : Scope) : Reader (List Part) := do
  let waits ← acceptWord "await"
  require (c.await || !waits)
  expect "("
  let head := { c with allowIn := false }
  let first ← match ← variableKeyword? head with
    | some constant => declarators r head constant atLoopWord
    | none => forInitial r head waits
  require (!waits || (← atWord "of"))
  let rest ← forRest r c first
  expect ")"
  return rest ++ (← embedded r c)

/-- An `if` statement after its keyword. -/
def ifStatement (r : Rules) (c : Scope) : Reader (List Part) := do
  let test ← condition r c
  let yes ← embedded r c
  let no ← if ← acceptWord "else" then embedded r c else pure []
  return test :: yes ++ no

/-- A `switch` statement after its keyword. -/
def switchStatement (r : Rules) (c : Scope) : Reader (List Part) := do
  let subject ← condition r c
  expect openBrace
  let cases ← repeated c.limit do
    if ← atSign closeBrace then return none
    let label ← if ← acceptWord "default" then pure []
      else do
        expectWord "case"
        pure [Part.expr (← r.expression c.grouped)]
    expect ":"
    let body ← repeated c.limit do
      let t ← current
      if t.isSign closeBrace || t.isWordOf ["case", "default"] then return none
      return some (← r.statement c)
    return some (label ++ body.flatten)
  expect closeBrace
  return subject :: cases.flatten

/-- A `try` statement after its keyword. -/
def tryStatement (r : Rules) (c : Scope) : Reader (List Part) := do
  let body ← block r c
  let caught ← acceptWord "catch"
  let handler ← if caught then
      let parameter ← if ← accept "(" then
          let parts ← r.binding c
          let type ← typeOf? r c
          expect ")"
          pure (parts ++ type)
        else pure []
      pure (parameter ++ (← block r c))
    else pure []
  let last ← acceptWord "finally"
  require (caught || last)
  let cleanup ← if last then block r c else pure []
  return body ++ handler ++ cleanup

/-- The label after `break` or `continue`, if one stands on the same line. -/
def jump (c : Scope) : Reader (List Part) := do
  let label ← if (← atIdentifier c) && !(← afterLine) then
      pure [Part.name .label (← identifier c)]
    else pure []
  endStatement
  return label

/-- The value after `return`, if there is one. -/
def returnStatement (r : Rules) (c : Scope) : Reader (List Part) := do
  require c.inFunction
  let t ← current
  let ends := t.afterLine || t.kind == .finish || t.isSignOf [";", closeBrace]
  let value ← if ends then pure [] else pure [Part.expr (← r.expression c)]
  endStatement
  return value

/-- An expression as a statement. -/
def expressionStatement (r : Rules) (c : Scope) : Reader (List Part) := do
  let e ← r.expression c
  endStatement
  return [.expr e]

/-- The statement that a keyword starts, if one stands here. -/
def keywordStatement? (r : Rules) (c : Scope) : Reader (Option (List Part)) := do
  let t ← current
  if t.kind != .word || t.escaped then return none
  match t.value with
  | "if" => advance; return some (← ifStatement r c)
  | "for" => advance; return some (← forStatement r c)
  | "while" =>
    advance
    let test ← condition r c
    return some (test :: (← embedded r c))
  | "do" =>
    advance
    let body ← embedded r c
    expectWord "while"
    let test ← condition r c
    let _ ← accept ";"
    return some (body ++ [test])
  | "switch" => advance; return some (← switchStatement r c)
  | "try" => advance; return some (← tryStatement r c)
  | "with" =>
    advance
    let subject ← condition r c
    return some (subject :: (← embedded r c))
  | "break" => advance; return some (← jump c)
  | "continue" => advance; return some (← jump c)
  | "return" => advance; return some (← returnStatement r c)
  | "throw" =>
    advance
    require !(← afterLine)
    return some (← expressionStatement r c)
  | "debugger" =>
    advance
    endStatement
    return some []
  | _ => return none

/-- Any statement but an import or an export. -/
def statement (r : Rules) (c : Scope) : Reader (List Part) := do
  let c := { c with allowIn := true, resultTypes := true, conditionalTypes := true }
  let t ← current
  let next ← following
  if t.isSign openBrace then return ← block r c
  if t.isSign ";" then
    advance
    return []
  if let some constant ← variableKeyword? c then
    let parts ← declarations r c constant
    endStatement
    return parts
  if let some parts ← keywordStatement? r c then return parts
  if let some parts ← declaration? r c then return parts
  if c.allows t && next.isSign ":" then
    advance
    advance
    return .name .label t.value :: (← embedded r c)
  expressionStatement r c

end JsxTemplate.Grammar
