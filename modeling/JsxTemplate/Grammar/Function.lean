import JsxTemplate.Grammar.Type

namespace JsxTemplate.Grammar

/-!
# Functions and classes

* `block` — statements between braces.
* `functionRest` — a function from its parameters on; a method is read the same way.
* `classRest` — a class after its keyword: name, heritage, members.
-/

/-- The surroundings inside a function. -/
def Scope.inside (c : Scope) (async generator : Bool) : Scope :=
  { c with
    await := async
    yield := generator
    inFunction := true
    allowIn := true
    resultTypes := true
    conditionalTypes := true
    inDecorator := false
    inNamespace := false }

/-- Statements between braces. -/
def block (r : Rules) (c : Scope) : Reader (List Part) := do
  expect openBrace
  let statements ← repeated c.limit do
    if ← atSign closeBrace then return none
    return some (← r.statement c)
  expect closeBrace
  return statements.flatten

/-- The body of a function, or in a typed language the end of a declaration without one. -/
def functionBody (r : Rules) (c : Scope) (declared : Bool) : Reader (List Part) := do
  if declared && c.typed && !(← atSign openBrace) then
    endStatement
    return []
  block r { c with ambient := false }

/-- A function from its type parameters on. Where one is declared, a typed language lets its body be
    left out. -/
def functionRest (r : Rules) (c : Scope) (async generator declared : Bool) :
    Reader (List Part) := do
  let c := c.inside async generator
  let types ← typeParameters? r c
  let params ← parameters r c
  let result ← resultType? r c
  return types ++ params ++ result ++ (← functionBody r c declared)

/-- The function of an accessor from its parameters on. -/
def accessorRest (r : Rules) (c : Scope) (writes declared : Bool) : Reader (List Part) := do
  require (← suitsAccessor r (c.inside false false) writes)
  functionRest r c false false declared

/-! ### Classes -/

/-- The words that may stand before a member of a class. -/
def memberModifiers (c : Scope) : List String :=
  if c.typed then
    ["static", "async", "accessor", "public", "private", "protected", "abstract", "override",
     "readonly", "declare"]
  else ["static", "async", "accessor"]

/-- Takes a modifier of a member, if one of the words stands here. -/
def takeModifier (words : List String) : Reader (Option String) := do
  let t ← current
  let next ← following
  let sameLine := t.isWordOf ["static", "get", "set"] || !next.afterLine
  let block := next.isSign openBrace
  if t.isWordOf words && continuesMember next && !block && sameLine then
    advance
    return some t.value
  else return none

/-- Takes the modifiers of a member and gives them back. What makes it an accessor comes last. -/
def takeModifiers (c : Scope) : Reader (List String) := do
  let words ← repeated c.limit (takeModifier (memberModifiers c))
  let accessor ← takeModifier ["get", "set"]
  require words.Nodup
  return words ++ accessor.toList

/-- A field after its key: marks, type, initial value. -/
def fieldRest (r : Rules) (c : Scope) : Reader (List Part) := do
  if c.typed && !(← accept "?") then
    let _ ← accept "!"
  let type ← typeOf? r c
  let value ← defaultOf? r c
  endStatement
  return type ++ value

/-- A member after its decorators and modifiers. -/
def memberRest (r : Rules) (c : Scope) (modifiers : List String) : Reader (List Part) := do
  let async := modifiers.contains "async"
  let inner := { c.inside false false with inFunction := false }
  if c.typed && (← atIndexSignature c) then
    let parts ← indexSignature r inner
    endStatement
    return parts
  let generator ← accept "*"
  let name ← current
  let key ← propertyName r c
  let optional ← if c.typed then
      ahead do
        expect "?"
        let t ← current
        return t.isSignOf ["(", "<"]
    else pure false
  if optional then advance
  let t ← current
  let reads := modifiers.contains "get"
  let writes := modifiers.contains "set"
  let isStatic := modifiers.contains "static"
  require !(name.isKey "constructor" && !isStatic && (async || generator || reads || writes))
  require !(name.isKey "prototype" && isStatic)
  require !(async && (reads || writes))
  require !(name.kind == .privateName && name.value == "constructor")
  if t.isSignOf ["(", "<"] then
    let function ← if reads || writes then accessorRest r c writes true
      else functionRest r c async generator true
    return key ++ [.function function]
  require (!generator && !async && !reads && !writes && !name.isKey "constructor")
  return key ++ (← fieldRest r inner)

/-- A member of a class. -/
def classMember (r : Rules) (c : Scope) : Reader (List Part) := do
  let marks ← decorators r c
  let t ← current
  let next ← following
  if t.isWord "static" && next.isSign openBrace then
    advance
    let inner := { c.inside true false with inFunction := false }
    return marks ++ (← block r inner)
  let modifiers ← takeModifiers c
  return marks ++ (← memberRest r c modifiers)

/-- The members of a class with the braces around them. -/
def classBody (r : Rules) (c : Scope) : Reader (List Part) := do
  let c := { c with inDecorator := false, allowIn := true }
  expect openBrace
  let members ← repeated c.limit do
    if ← atSign closeBrace then return none
    if ← accept ";" then return some []
    return some (← classMember r c)
  expect closeBrace
  return members.flatten

/-- What a class or an interface extends, with its type arguments. -/
def base (r : Rules) (c : Scope) : Reader (List Part) := do
  let o ← r.leftHandSide { c with inDecorator := false }
  return .expr o.expr :: (← typeArguments? r c)

/-- What a class extends and implements. -/
def heritage (r : Rules) (c : Scope) : Reader (List Part) := do
  let extended ← if ← acceptWord "extends" then base r c else pure []
  let interfaces ← if c.typed && (← acceptWord "implements") then
      commaSeparated c.limit (typeReference r c)
    else pure []
  return extended ++ interfaces.flatten

/-- A class after its keyword. -/
def classRest (r : Rules) (c : Scope) : Reader (List Part) := do
  let t ← current
  let name ← if c.allows t && !(c.typed && t.isWord "implements") then
      advance
      pure [Part.name .binding t.value]
    else pure []
  let types ← typeParameters? r c
  let bases ← heritage r c
  return name ++ types ++ bases ++ (← classBody r c)

end JsxTemplate.Grammar
