import JsxTemplate.Grammar.Markup
import JsxTemplate.Grammar.Statement

namespace JsxTemplate

namespace Grammar

/-!
# Modules

* `importItem`, `exportItem` — the declarations that join a module to others.
* `rules` — the rules of the whole grammar, tied together up to a depth.
* `Program.parse?`, `Expr.parse?` — the readers for a module and for one expression.
-/

/-! ### Imports -/

/-- Whether a token is a name of a module's interface: any word, or a string. -/
def isModuleName (t : Token) : Bool :=
  t.kind == .word || t.kind == .string

/-- A name of a module's interface. -/
def moduleName : Reader ModuleName := do
  let t ← current
  require (isModuleName t)
  advance
  return ⟨t.value, t.kind == .string⟩

/-- The source of an import or export. -/
def moduleSource : Reader String := do
  let t ← current
  require (t.kind == .string)
  advance
  return t.value

/-- The keys of the attributes of an import or export. -/
def importAttributes (c : Scope) : Reader (List String) := do
  let t ← current
  if !(t.isWord "with" || (t.isWord "assert" && !t.afterLine)) then return []
  advance
  expect openBrace
  let keys ← listed c.limit closeBrace do
    let key ← moduleName
    expect ":"
    let _ ← moduleSource
    return if key.isQuoted then [] else [key.text]
  return keys.flatten

/-- Whether the word `type` before a specifier makes it one of types. -/
def typeSpecifier (c : Scope) : Reader Bool := ahead do
  require c.typed
  expectWord "type"
  let t ← current
  let next ← following
  if !t.isWord "as" then return isModuleName t
  if !next.isWord "as" then return !isModuleName next
  return isModuleName (Token.next next.after)

/-- One specifier of an import. -/
def importSpecifier (c : Scope) : Reader Specifier := do
  let isType ← typeSpecifier c
  if isType then advance
  let t ← current
  let imported ← moduleName
  if ← acceptWord "as" then return ⟨imported, ← identifier c, isType⟩
  require (c.allows t)
  return ⟨imported, t.value, isType⟩

/-- An import of a whole module: `* as name`. -/
def namespaceImport (c : Scope) : Reader String := do
  expect "*"
  expectWord "as"
  identifier c

/-- The specifiers of an import with the braces around them. -/
def importSpecifiers (c : Scope) : Reader (List Specifier) := do
  expect openBrace
  listed c.limit closeBrace (importSpecifier c)

/-- What an import binds, up to the word `from`. -/
def importClause (c : Scope) : Reader (List String × List Specifier) := do
  if ← atSign "*" then return ([← namespaceImport c], [])
  if ← atSign openBrace then return ([], ← importSpecifiers c)
  let default ← identifier c
  if ← accept "," then
    if ← atSign "*" then return ([default, ← namespaceImport c], [])
    return ([default], ← importSpecifiers c)
  return ([default], [])

/-- Whether the word `type` after `import` makes the whole declaration one of types. -/
def atTypeImport (c : Scope) : Reader Bool := ahead do
  require c.typed
  expectWord "type"
  let t ← current
  let next ← following
  if t.isSignOf ["*", openBrace] then return true
  if t.isWord "from" then return next.isWord "from" || next.isSign "="
  return c.allows t

/-- Skips a word that says when a module is evaluated. -/
def skipPhase (c : Scope) : Reader Unit := do
  let t ← current
  let next ← following
  if t.isWord "defer" && next.isSign "*" then advance
  else if t.isWord "source" && c.allows next && !next.isWord "from" then advance

/-- An import by assignment after its keyword: `name = require(…)` or `name = a.b`. -/
def importAssignment (r : Rules) (c : Scope) : Reader (List Part) := do
  let name ← identifier c
  expect "="
  let next ← following
  if (← atWord "require") && next.isSign "(" then
    advance
    expect "("
    let _ ← moduleSource
    expect ")"
    endStatement
    return [.name .binding name]
  let path ← typeReference r c
  endStatement
  return .name .binding name :: path

/-- An import declaration. -/
def importItem (r : Rules) (c : Scope) : Reader Item := do
  expectWord "import"
  if ← atKind .string then
    let source ← moduleSource
    let attributes ← importAttributes c
    endStatement
    return .imports ⟨source, false, [], [], attributes⟩
  let isType ← atTypeImport c
  if isType then advance else skipPhase c
  let assigns ← if c.typed then
      ahead do
        let _ ← identifier c
        atSign "="
    else pure false
  if assigns then return .code (← importAssignment r c)
  let (whole, specifiers) ← importClause c
  expectWord "from"
  let source ← moduleSource
  let attributes ← importAttributes c
  endStatement
  return .imports ⟨source, isType, whole, specifiers, attributes⟩

/-! ### Exports -/

/-- The part that a name of a module's interface leaves in the tree. -/
def ModuleName.part (role : Role) (name : ModuleName) : List Part :=
  if name.isQuoted then [] else [.name role name.text]

/-- Code, and the names under which it exports something. -/
abbrev Exported := List Part × List String

/-- One specifier of an export: what is exported, whether it can be a variable of the module, and
    under which name. -/
def exportSpecifier (c : Scope) : Reader (ModuleName × Bool × ModuleName) := do
  if ← typeSpecifier c then advance
  let t ← current
  let name ← moduleName
  let outer ← if ← acceptWord "as" then moduleName else pure name
  return (name, c.allows t, outer)

/-- The rest of an export with specifiers. Without a source they must be variables. -/
def exportSpecifiers (c : Scope) : Reader Exported := do
  expect openBrace
  let specifiers ← listed c.limit closeBrace (exportSpecifier c)
  let keys ← if ← acceptWord "from" then
      let _ ← moduleSource
      importAttributes c
    else do
      require (specifiers.all fun (_, isVariable, _) => isVariable)
      pure []
  endStatement
  let parts := specifiers.flatMap fun (name, _, outer) =>
    ModuleName.part .reference name ++ ModuleName.part .property outer
  return (parts ++ keys.map (.name .property), specifiers.map fun (_, _, outer) => outer.text)

/-- An export of all of a module: `* from source` or `* as name from source`. -/
def exportAll (c : Scope) : Reader Exported := do
  expect "*"
  let outer ← if ← acceptWord "as" then pure [← moduleName] else pure []
  expectWord "from"
  let _ ← moduleSource
  let keys ← importAttributes c
  endStatement
  return (outer.flatMap (ModuleName.part .property) ++ keys.map (.name .property),
    outer.map (·.text))

/-- What follows `export default`. -/
def exportDefault (r : Rules) (c : Scope) : Reader (List Part) := do
  let t ← current
  let next ← following
  if t.isWord "function" || (t.isWord "async" && next.isWord "function" && !next.afterLine) then
    functionDeclaration r c false
  else if t.isWord "class" || t.isSign "@" ||
      (c.typed && t.isWord "abstract" && next.isWord "class") then
    classDeclaration r c false
  else if c.typed && t.isWord "interface" && c.allows next && !next.afterLine then
    advance
    interfaceRest r c
  else
    let e ← r.assignment c
    endStatement
    return [.expr e]

/-- The names that a declaration binds for the module around it. -/
def boundNames (parts : List Part) : List String :=
  parts.filterMap fun part => match part with
    | .name .binding text => some text
    | .function (.name .binding text :: _) => some text
    | _ => none

/-- What follows `export` and declares something. -/
def exportDeclaration (r : Rules) (c : Scope) : Reader Exported := do
  if let some constant ← variableKeyword? c then
    let parts ← declarations r c constant
    endStatement
    return (parts, boundNames parts)
  match ← declaration? r c with
  | some parts => return (parts, (boundNames parts).take 1)
  | none => refuse

/-- An export declaration. -/
def exportItem (r : Rules) (c : Scope) : Reader Exported := do
  let marks ← decorators r c
  expectWord "export"
  let t ← current
  let next ← following
  if t.isWord "default" then
    advance
    return (marks ++ (← exportDefault r c), ["default"])
  if !marks.isEmpty then
    let (parts, names) ← exportDeclaration r c
    return (marks ++ parts, names)
  if t.isSign "*" then return ← exportAll c
  if t.isSign openBrace then return ← exportSpecifiers c
  if c.typed then
    if t.isWord "type" && next.isSignOf ["*", openBrace] then
      advance
      return ← if next.isSign "*" then exportAll c else exportSpecifiers c
    if t.isSign "=" then
      advance
      let e ← r.expression c
      endStatement
      return ([.expr e], [])
    if t.isWord "as" && next.isWord "namespace" then
      advance
      advance
      let name ← identifier c
      endStatement
      return ([.name .property name], [])
    if t.isWord "import" then
      advance
      if ← atTypeImport c then advance
      return (← importAssignment r c, [])
  exportDeclaration r c

/-! ### The whole grammar -/

/-- The names that an import spells, as parts. -/
def Import.parts (i : Import) : List Part :=
  i.whole.map (.name .binding) ++
    i.specifiers.flatMap (fun s =>
      ModuleName.part .property s.imported ++ [.name .binding s.bound]) ++
    i.attributes.map (.name .property)

/-- Whether an export starts here. -/
def atExport (r : Rules) (c : Scope) : Reader Bool := do
  if ← atSign "@" then
    ahead do
      let _ ← decorators r c
      atWord "export"
  else atWord "export"

/-- Whether an import declaration starts here, and not an expression. -/
def atImport : Reader Bool := do
  let next ← following
  return (← atWord "import") && !next.isSignOf ["(", "."]

/-- A statement, or in a namespace an import or an export. -/
def anyStatement (r : Rules) (c : Scope) : Reader (List Part) := do
  if c.inNamespace || c.ambient then
    if ← atExport r c then return (← exportItem r c).1
    if ← atImport then
      match ← importItem r c with
      | .imports declaration => return Import.parts declaration
      | .code parts => return parts
  statement r c

/-- The rules of the grammar, for texts that nest at most to the given depth. -/
def rules : Nat → Rules
  | 0 => .refusing
  | n + 1 =>
    { operand := fun c cursor => operand (rules n) c cursor
      unary := fun c cursor => unary (rules n) c cursor
      leftHandSide := fun c cursor => leftHandSide (rules n) c cursor
      statement := fun c cursor => anyStatement (rules n) c cursor
      type := fun c cursor => type (rules n) c cursor
      binding := fun c cursor => binding (rules n) c cursor
      markup := fun c cursor => element (rules n) c cursor }

/-- One statement of a module, and the names it exports. -/
def item (r : Rules) (c : Scope) : Reader (Item × List String) := do
  if ← atExport r c then
    let (parts, names) ← exportItem r c
    return (.code parts, names)
  if ← atImport then return (← importItem r c, [])
  return (.code (← statement r c), [])

/-- Whether an expression is a string literal. -/
def isStringLiteral : Expr → Bool
  | .compound .string _ _ => true
  | _ => false

/-- One statement of the prologue: its span, if it is a string literal and nothing else. -/
def directive? (r : Rules) (c : Scope) : Reader (Option Span) := do
  if !(← atKind .string) then return none
  attempt do
    let start ← here
    let e ← r.expression c
    require (isStringLiteral e)
    endStatement
    spanFrom start

/-- The statements up to the end of the text. -/
def items (r : Rules) (c : Scope) : Reader (List (Item × List String)) :=
  repeated c.limit do
    if ← atKind .finish then return none
    return some (← item r c)

/-- The prologue and the statements of a module. An untyped module may export each name once
    only. -/
def moduleItems (r : Rules) (c : Scope) : Reader (List Span × List Item) := do
  let directives ← repeated c.limit (directive? r c)
  let items ← items r c
  require (c.typed || (items.flatMap (·.2)).Nodup)
  return (directives, items.map (·.1))

/-- Where the statements of a module start, and the first line before them if it names an
    interpreter. -/
def hashbang (cs : List Char) : Place × Option Span :=
  match cs with
  | '#' :: '!' :: _ =>
    let line := cs.takeWhile (!isLineEnd ·)
    let stop := Text.byteLength line
    (⟨cs.drop line.length, stop⟩, some ⟨0, stop⟩)
  | _ => (⟨cs, 0⟩, none)

/-- A bound on the repetitions in a text: each takes at least one character. -/
def limitOf (cs : List Char) : Nat := cs.length + 2

/-- A bound on the depth of a text: from one character to the next at most three rules are
    entered. -/
def depthOf (cs : List Char) : Nat := 4 * limitOf cs

end Grammar

/-- The tree of a module, if its text is one in the dialect. -/
def Program.parse? (dialect : Grammar.Dialect) (cs : List Char) : Option Program := do
  let (place, line) := Grammar.hashbang cs
  let scope := Grammar.Scope.module dialect (Grammar.limitOf cs)
  let r := Grammar.rules (Grammar.depthOf cs)
  let ((directives, items), _) ← Grammar.moduleItems r scope (Grammar.Cursor.at place)
  return ⟨line, directives, items⟩

/-- The tree of a text that is one expression. -/
def Expr.parse? (dialect : Grammar.Dialect) (cs : List Char) : Option Expr := do
  let scope := Grammar.Scope.module dialect (Grammar.limitOf cs)
  let r := Grammar.rules (Grammar.depthOf cs)
  let (e, cursor) ← r.expression scope (Grammar.Cursor.at ⟨cs, 0⟩)
  guard (cursor.token.kind == .finish)
  return e

end JsxTemplate
