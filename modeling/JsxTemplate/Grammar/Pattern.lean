import JsxTemplate.Grammar.Reader

namespace JsxTemplate.Grammar

/-!
# Bindings and parameters

* `typeOf?` — `: type`, where a declaration may state one.
* `propertyName` — the key of a property, in literals, classes, patterns and types.
* `binding` — what a declaration binds: a name, or an array or object pattern.
* `parameters` — the parameters of a function, between their parentheses.
-/

/-- A stated type, `: type`, if it stands here and the language has types. -/
def typeOf? (r : Rules) (c : Scope) : Reader (List Part) := do
  if c.typed && (← atSign ":") then
    advance
    r.type { c with conditionalTypes := true, inDecorator := false }
  else return []

/-- A default, `= value`, if it stands here. -/
def defaultOf? (r : Rules) (c : Scope) : Reader (List Part) := do
  if ← accept "=" then return [.expr (← r.assignment { c with allowIn := true })] else return []

/-- A computed key, after its opening bracket. -/
def computedKey (r : Rules) (c : Scope) : Reader Part := do
  let e ← r.expression { c with allowIn := true, inDecorator := false }
  expect "]"
  return .expr e

/-- The key of a property; only words and computed keys leave something in the tree. -/
def propertyName (r : Rules) (c : Scope) : Reader (List Part) := do
  let t ← current
  match t.kind with
  | .word => advance; return [.name .property t.value]
  | .string | .number | .privateName => advance; return []
  | .punctuator => do
    expect "["
    return [← computedKey r c]
  | _ => refuse

/-! ### Patterns -/

/-- One element of an array pattern, or nothing where it is left out. -/
def arrayElement (r : Rules) (c : Scope) : Reader (List Part) := do
  if ← atSign "," then return []
  if ← accept "..." then
    let parts ← r.binding c
    require (← atSign "]")
    return parts
  let parts ← r.binding c
  return parts ++ (← defaultOf? r c)

/-- One property of an object pattern. -/
def patternProperty (r : Rules) (c : Scope) : Reader (List Part) := do
  if ← accept "..." then
    let name ← identifier c
    require (← atSign closeBrace)
    return [.name .binding name]
  let t ← current
  let next ← following
  if c.allows t && !next.isSign ":" then
    advance
    return .name .binding t.value :: (← defaultOf? r c)
  let key ← propertyName r c
  expect ":"
  let parts ← r.binding c
  return key ++ parts ++ (← defaultOf? r c)

/-- A name or a pattern to bind. -/
def binding (r : Rules) (c : Scope) : Reader (List Part) := do
  if ← accept "[" then
    return (← listed c.limit "]" (arrayElement r c)).flatten
  if ← accept openBrace then
    return (← listed c.limit closeBrace (patternProperty r c)).flatten
  return [.name .binding (← identifier c)]

/-! ### Parameters -/

/-- A decorator after its sign: a reference, perhaps called, or something in parentheses. -/
def decorators (r : Rules) (c : Scope) : Reader (List Part) :=
  repeated c.limit do
    if ← accept "@" then
      let o ← r.leftHandSide { c with inDecorator := true }
      return some (.expr o.expr)
    else return none

/-- The words that may stand before a parameter and make it a property of the class. -/
def parameterModifiers : List String :=
  ["public", "private", "protected", "readonly", "override"]

/-- Skips the modifiers of a parameter. -/
def skipParameterModifiers (c : Scope) : Reader Unit := do
  let _ ← repeated c.limit do
    let t ← current
    let next ← following
    let more := next.kind == .word || next.isSignOf ["[", openBrace]
    if c.typed && t.isWordOf parameterModifiers && more then
      advance
      return some ()
    else return none

/-- One parameter. -/
def parameter (r : Rules) (c : Scope) : Reader (List Part) := do
  let marks ← decorators r c
  skipParameterModifiers c
  if c.typed && (← atWord "this") then
    advance
    return marks ++ (← typeOf? r c)
  if ← accept "..." then
    let parts ← r.binding c
    let type ← typeOf? r c
    require (← atSign ")")
    return marks ++ parts ++ type
  let parts ← r.binding c
  if c.typed then let _ ← accept "?"
  let type ← typeOf? r c
  return marks ++ parts ++ type ++ (← defaultOf? r c)

/-- Whether the parameters that start here suit an accessor: none for one that reads, and one that
    is not the rest for one that writes. -/
def suitsAccessor (r : Rules) (c : Scope) (writes : Bool) : Reader Bool := ahead do
  expect "("
  let first ← current
  let given ← listed c.limit ")" (parameter r c)
  let count := if c.typed && first.isWord "this" then given.length - 1 else given.length
  return if writes then count == 1 && !first.isSign "..." else count == 0

/-- The parameters of a function with the parentheses around them. -/
def parameters (r : Rules) (c : Scope) : Reader (List Part) := do
  expect "("
  return (← listed c.limit ")" (parameter r c)).flatten

end JsxTemplate.Grammar
