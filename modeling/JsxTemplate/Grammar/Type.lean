import JsxTemplate.Grammar.Pattern

namespace JsxTemplate.Grammar

/-!
# Types

Of a type only the names it spells matter, and the computed keys inside it, so the rules give the
parts that hold them.

* `typeParameters`, `typeArguments` — lists between angle brackets.
* `resultType` — the type after a function's parameters, where a predicate may stand too.
* `type` — any type, from conditional types down to names and literals.
-/

/-! ### Angle brackets -/

/-- Makes an opening angle bracket of a sign that starts with one. -/
def splitAngle : Reader Unit := do
  let t ← current
  if t.isSignOf ["<<", "<<=", "<="] then
    let head : Token :=
      Token.over .punctuator "<" ⟨t.text, t.start⟩ t.afterLine false ['<'] (t.text.drop 1)
    set (Cursor.mk head (← get).before)

/-- Whether an opening angle bracket stands here. -/
def atAngle : Reader Bool := return (← current).isSignOf ["<", "<<", "<<="]

/-- The type arguments after an opening angle bracket: at least one, and the closing bracket. -/
def typeArguments (r : Rules) (c : Scope) : Reader (List Part) := do
  let c := { c with conditionalTypes := true, inDecorator := false }
  splitAngle
  expect "<"
  let first ← r.type c
  let more ← repeated c.limit do
    if ← accept "," then return some (← r.type c) else return none
  expect ">"
  return first ++ more.flatten

/-- Type arguments, if they stand here on the same line. -/
def typeArguments? (r : Rules) (c : Scope) : Reader (List Part) := do
  if c.typed && (← atAngle) && !(← afterLine) then typeArguments r c else return []

/-- One type parameter with its bound and its default. -/
def typeParameter (r : Rules) (c : Scope) : Reader (List Part) := do
  let _ ← repeated c.limit do
    let t ← current
    let next ← following
    if t.isWordOf ["const", "in"] ||
        (t.isWord "out" && next.kind == .word && !next.isWord "extends")
    then
      advance
      return some ()
    else return none
  let name ← identifier c
  let bound ← if ← acceptWord "extends" then r.type c else pure []
  let default ← if ← accept "=" then r.type c else pure []
  return .name .typeBinding name :: bound ++ default

/-- The type parameters of a declaration, if it has any. -/
def typeParameters? (r : Rules) (c : Scope) : Reader (List Part) := do
  if c.typed && (← atSign "<") then
    let c := { c with conditionalTypes := true, inDecorator := false }
    advance
    let params ← listed c.limit ">" (typeParameter r c)
    require !params.isEmpty
    return params.flatten
  else return []

/-! ### Results -/

/-- A type, or a predicate on a parameter or on `this`. -/
def typeOrPredicate (r : Rules) (c : Scope) : Reader (List Part) := do
  let t ← current
  let next ← following
  if (c.allows t || t.isWord "this") && next.isWord "is" && !next.afterLine then
    advance
    advance
    let type ← r.type c
    return if t.isWord "this" then type else .name .reference t.value :: type
  r.type c

/-- The type after the parameters of a function, `: type`, if it stands here. -/
def resultType? (r : Rules) (c : Scope) : Reader (List Part) := do
  if c.typed && (← atSign ":") then
    advance
    typeOrPredicate r { c with conditionalTypes := true, inDecorator := false }
  else return []

/-! ### Names and small types -/

/-- The rest of a dotted name. -/
def qualifiers (c : Scope) : Reader (List Part) :=
  repeated c.limit do
    if ← accept "." then return some (.name .property (← anyWord)) else return none

/-- A named type with its arguments. -/
def typeReference (r : Rules) (c : Scope) : Reader (List Part) := do
  let name ← identifier c
  let path ← qualifiers c
  return .name .reference name :: path ++ (← typeArguments? r c)

/-- The words that are types by themselves. -/
def keywordTypes : List String :=
  ["any", "unknown", "never", "void", "null", "undefined", "string", "number", "boolean", "bigint",
   "symbol", "object", "intrinsic", "true", "false"]

/-- The holes of a template, read with `p`, from its backtick to the one that closes it. Where
    `cooked`, each escape in it must mean something. -/
def templateHoles {α : Type} (p : Reader α) (cooked : Bool) : Nat → Place → Reader (List α)
  | 0, _ => refuse
  | n + 1, place => do
    match Chunk.read place.rest with
    | none => refuse
    | some (raw, .literal, rest) =>
      require (!cooked || Chunk.isCooked raw.length raw)
      set (Cursor.at ⟨rest, place.offset + Text.byteLength raw + 1⟩)
      return []
    | some (raw, .hole, rest) =>
      require (!cooked || Chunk.isCooked raw.length raw)
      set (Cursor.at ⟨rest, place.offset + Text.byteLength raw + 2⟩)
      let a ← p
      let t ← current
      require (t.isSign closeBrace)
      return a :: (← templateHoles p cooked n t.after)

/-- The holes of the template at this backtick. -/
def templateLiteral {α : Type} (p : Reader α) (cooked : Bool) (limit : Nat) : Reader (List α) := do
  let t ← current
  templateHoles p cooked limit t.after

/-! ### Object types -/

/-- Whether an index signature starts here: a bracket, a name and a colon. -/
def atIndexSignature (c : Scope) : Reader Bool := ahead do
  expect "["
  let _ ← identifier c
  return (← atSign ":") || (← atSign ",")

/-- An index signature; the name of its parameter means nothing elsewhere. -/
def indexSignature (r : Rules) (c : Scope) : Reader (List Part) := do
  expect "["
  let _ ← identifier c
  let key ← typeOf? r c
  expect "]"
  return key ++ (← typeOf? r c)

/-- The parameters and the result of a signature. -/
def signature (r : Rules) (c : Scope) : Reader (List Part) := do
  let types ← typeParameters? r c
  let params ← parameters r c
  return types ++ params ++ (← resultType? r c)

/-- Whether the next token lets a word before it be a modifier of a member. -/
def continuesMember (next : Token) : Bool :=
  match next.kind with
  | .word | .string | .number | .privateName => true
  | .punctuator => next.isSignOf ["[", "*", openBrace]
  | _ => false

/-- Skips the words that qualify a member of an object type. -/
def skipMemberModifiers (c : Scope) (words : List String) : Reader Unit := do
  let _ ← repeated c.limit do
    let t ← current
    let next ← following
    if t.isWordOf words && continuesMember next then
      advance
      return some ()
    else return none

/-- A member of an object type. -/
def typeMember (r : Rules) (c : Scope) : Reader (List Part) := do
  let t ← current
  let next ← following
  if t.isSignOf ["(", "<"] then signature r c
  else if t.isWord "new" && next.isSignOf ["(", "<"] then
    advance
    signature r c
  else
    skipMemberModifiers c ["readonly", "get", "set"]
    if ← atIndexSignature c then indexSignature r c
    else
      let key ← propertyName r c
      let _ ← accept "?"
      let t ← current
      if t.isSignOf ["(", "<"] then return key ++ (← signature r c)
      return key ++ (← typeOf? r c)

/-- The members of an object type, with the braces around them. -/
def typeMembers (r : Rules) (c : Scope) : Reader (List Part) := do
  let c := { c with conditionalTypes := true }
  expect openBrace
  let members ← repeated c.limit do
    if ← atSign closeBrace then return none
    let parts ← typeMember r c
    let t ← current
    if t.isSignOf [";", ","] then advance
    else require (t.isSign closeBrace || t.afterLine)
    return some parts
  expect closeBrace
  return members.flatten

/-- Whether a mapped type starts here. -/
def atMappedType (c : Scope) : Reader Bool := ahead do
  expect openBrace
  let t ← current
  if t.isSignOf ["+", "-"] then
    advance
    expectWord "readonly"
  else
    let next ← following
    if t.isWord "readonly" && next.isSign "[" then advance
  expect "["
  let _ ← identifier c
  atWord "in"

/-- A mapped type. -/
def mappedType (r : Rules) (c : Scope) : Reader (List Part) := do
  let c := { c with conditionalTypes := true }
  expect openBrace
  let t ← current
  if t.isSignOf ["+", "-"] then advance
  let _ ← acceptWord "readonly"
  expect "["
  let name ← identifier c
  expectWord "in"
  let keys ← r.type c
  let renamed ← if ← acceptWord "as" then r.type c else pure []
  expect "]"
  let t ← current
  if t.isSignOf ["+", "-"] then
    advance
    expect "?"
  else
    let _ ← accept "?"
  let value ← typeOf? r c
  if !(← accept ";") then
    let _ ← accept ","
  expect closeBrace
  return .name .typeBinding name :: keys ++ renamed ++ value

/-! ### Compound types -/

/-- One element of a tuple type, with its label. -/
def tupleElement (r : Rules) (c : Scope) : Reader (List Part) := do
  let _ ← accept "..."
  let labelled ← ahead do
    let _ ← anyWord
    let _ ← accept "?"
    atSign ":"
  if labelled then
    let label ← anyWord
    let _ ← accept "?"
    expect ":"
    return .name .property label :: (← r.type c)
  let parts ← r.type c
  let _ ← accept "?"
  return parts

/-- Whether a function type starts at this parenthesis. -/
def atFunctionType (r : Rules) (c : Scope) : Reader Bool := ahead do
  expect "("
  let t ← current
  if t.isSignOf [")", "..."] then return true
  skipParameterModifiers c
  if !(← acceptWord "this") then
    let _ ← r.binding c
  let t ← current
  if t.isSignOf [":", ",", "?", "="] then return true
  expect ")"
  atSign "=>"

/-- A function type or a constructor type. -/
def functionType (r : Rules) (c : Scope) : Reader (List Part) := do
  let types ← typeParameters? r c
  let params ← parameters r c
  expect "=>"
  return types ++ params ++ (← typeOrPredicate r c)

/-- The module, the path and the arguments of an imported type. -/
def importType (r : Rules) (c : Scope) : Reader (List Part) := do
  expectWord "import"
  expect "("
  let source ← r.type c
  let attributes ← if ← accept "," then
      if ← atSign ")" then pure [] else pure [Part.expr (← r.assignment c)]
    else pure []
  let _ ← accept ","
  expect ")"
  let path ← qualifiers c
  return source ++ attributes ++ path ++ (← typeArguments? r c)

/-- The type of a variable. -/
def typeQuery (r : Rules) (c : Scope) : Reader (List Part) := do
  if ← atWord "import" then importType r c
  else
    let root ←
      if ← acceptWord "this" then pure [] else pure [Part.name .reference (← identifier c)]
    let path ← qualifiers c
    return root ++ path ++ (← typeArguments? r c)

/-- An assertion, `asserts x`, perhaps with a type. -/
def assertion (r : Rules) (c : Scope) : Reader (List Part) := do
  expectWord "asserts"
  let subject ←
    if ← acceptWord "this" then pure [] else pure [Part.name .reference (← identifier c)]
  if ← acceptWord "is" then return subject ++ (← r.type c)
  return subject

/-- A type that no operator stands around. -/
def primaryType (r : Rules) (c : Scope) : Reader (List Part) := do
  let t ← current
  let next ← following
  match t.kind with
  | .string | .number => advance; return []
  | .template =>
    let hole := r.type { c with conditionalTypes := true }
    return (← templateLiteral hole true c.limit).flatten
  | .word =>
    if t.isWordOf keywordTypes && !next.isSign "." then
      advance
      return []
    else if t.isWord "this" then
      advance
      if (← atWord "is") && !(← afterLine) then
        advance
        r.type c
      else return []
    else if t.isWord "typeof" then
      advance
      typeQuery r c
    else if t.isWord "import" then importType r c
    else if t.isWord "const" then
      advance
      return [.name .reference t.value]
    else if t.isWord "asserts" && (c.allows next || next.isWord "this") && !next.afterLine then
      assertion r c
    else typeReference r c
  | .punctuator =>
    if t.isSign "-" then
      advance
      require (← atKind .number)
      advance
      return []
    else if t.isSign "[" then
      advance
      let c := { c with conditionalTypes := true }
      return (← listed c.limit "]" (tupleElement r c)).flatten
    else if t.isSign openBrace then
      if ← atMappedType c then mappedType r c else typeMembers r c
    else
      expect "("
      let parts ← r.type { c with conditionalTypes := true }
      expect ")"
      return parts
  | _ => refuse

/-- A type followed by brackets. -/
def postfixType (r : Rules) (c : Scope) : Reader (List Part) := do
  let base ← primaryType r c
  let more ← repeated c.limit do
    if (← atSign "[") && !(← afterLine) then
      advance
      if ← accept "]" then return some []
      let index ← r.type { c with conditionalTypes := true }
      expect "]"
      return some index
    else return none
  return base ++ more.flatten

/-- A type to be found, `infer name`, perhaps with a bound. -/
def inferType (r : Rules) (c : Scope) : Reader (List Part) := do
  let name ← identifier c
  let bound ← attempt do
    expectWord "extends"
    let parts ← r.type { c with conditionalTypes := false }
    require (!c.conditionalTypes || !(← atSign "?"))
    return parts
  return .name .typeBinding name :: bound.getD []

/-- A type after any operators before it. -/
def operatorType (r : Rules) (c : Scope) : Nat → Reader (List Part)
  | 0 => refuse
  | n + 1 => do
    let t ← current
    if t.isWordOf ["keyof", "unique", "readonly"] then
      advance
      operatorType r c n
    else if t.isWord "infer" then
      advance
      inferType r c
    else postfixType r c

/-- Types between signs of one kind, with one perhaps in front. -/
def typesBetween (sign : String) (limit : Nat) (p : Reader (List Part)) : Reader (List Part) := do
  let _ ← accept sign
  let first ← p
  let more ← repeated limit do
    if ← accept sign then return some (← p) else return none
  return first ++ more.flatten

/-- A union of intersections. -/
def unionType (r : Rules) (c : Scope) : Reader (List Part) :=
  typesBetween "|" c.limit (typesBetween "&" c.limit (operatorType r c c.limit))

/-- Any type. -/
def type (r : Rules) (c : Scope) : Reader (List Part) := do
  let t ← current
  let next ← following
  if t.isSign "<" then functionType r c
  else if t.isSign "(" && (← atFunctionType r c) then functionType r c
  else if t.isWord "new" then
    advance
    functionType r c
  else if t.isWord "abstract" && next.isWord "new" then
    advance
    advance
    functionType r c
  else
    let parts ← unionType r c
    if c.conditionalTypes && (← atWord "extends") && !(← afterLine) then
      advance
      let bound ← r.type { c with conditionalTypes := false }
      expect "?"
      let yes ← r.type c
      expect ":"
      let no ← r.type c
      return parts ++ bound ++ yes ++ no
    return parts

end JsxTemplate.Grammar
