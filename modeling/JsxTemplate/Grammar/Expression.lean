import JsxTemplate.Grammar.Function

namespace JsxTemplate.Grammar

/-!
# Expressions

* `primary`, `subscripts` — literals, names and groups, and what may follow them: members, calls,
  tags.
* `unary`, `binary` — operators by their precedence.
* `arrow?` — functions with arrows, which start like a group and are told apart by looking ahead.
* `operand` — an expression without a comma at its top: an assignment, a condition, or less.
-/

/-- A compound expression of nothing but a value. -/
def Operand.of (form : Form) (span : Span) (parts : List Part) : Operand :=
  .value (.compound form span parts)

/-- The surroundings inside parentheses, brackets or braces. -/
def Scope.grouped (c : Scope) : Scope :=
  { c with allowIn := true, resultTypes := true, conditionalTypes := true, inDecorator := false }

/-! ### Literals -/

/-- A literal that is one token. -/
def leaf (form : Form) : Reader Operand := do
  let t ← current
  advance
  return .of form ⟨t.start, t.stop⟩ []

/-- A variable. -/
def variableExpr (c : Scope) : Reader Expr := do
  let t ← current
  let name ← identifier c
  return .name ⟨t.start, t.stop⟩ name

/-- Whether the flags of a regular expression may stand together. -/
def goodFlags (flags : List Char) : Bool :=
  flags.all ("dgimsuvy".toList.contains ·) && flags.Nodup &&
    !(flags.contains 'u' && flags.contains 'v')

/-- A regular expression, at its first slash. -/
def regex : Reader Operand := do
  let t ← current
  match regexEnd false (t.text.drop 1) with
  | none => refuse
  | some rest =>
    let flags := rest.takeWhile Text.isIdentifierPart
    require (goodFlags flags)
    let rest := rest.drop flags.length
    let stop := t.start + Text.byteLength (t.text.take (t.text.length - rest.length))
    set (Cursor.at ⟨rest, stop⟩)
    return .of .literal ⟨t.start, stop⟩ []

/-- The values in the holes of the template at this backtick. -/
def templateParts (r : Rules) (c : Scope) (cooked : Bool) : Reader (List Part) := do
  let holes ← templateLiteral (r.expression c.grouped) cooked c.limit
  return holes.map .expr

/-- An element of an array literal or an argument, with what it would be in a pattern. -/
structure Slot where
  parts : List Part
  /-- Could stand in a pattern. -/
  isTarget : Bool
  needsPattern : Bool

/-- What an operand is as an element. -/
def Operand.slot (o : Operand) : Slot :=
  ⟨[.expr o.expr], o.target != .none, o.needsPattern⟩

/-- A literal made of slots, which is a pattern as well if all of them are. -/
def slotsOperand (form : Form) (span : Span) (slots : List Slot) : Operand where
  expr := .compound form span (slots.flatMap Slot.parts)
  target := if slots.all Slot.isTarget then .pattern else .none
  needsPattern := slots.any Slot.needsPattern

/-- A spread, `...value`, in an array or object literal, before the sign that closes it or a
    comma. -/
def spreadSlot (r : Rules) (c : Scope) (close : String) : Reader Slot := do
  let o ← r.operand c
  let isLast ← atSign close
  let isTarget := isLast && (o.target == .simple || o.target == .pattern)
  return ⟨[.spread o.expr], isTarget, o.needsPattern⟩

/-- An element of an array literal. -/
def arraySlot (r : Rules) (c : Scope) : Reader Slot := do
  if ← atSign "," then return ⟨[], true, false⟩
  if ← accept "..." then return ← spreadSlot r c "]"
  return (← r.operand c).slot

/-- An array literal. -/
def arrayLiteral (r : Rules) (c : Scope) : Reader Operand := do
  let start ← here
  expect "["
  let slots ← listed c.limit "]" (arraySlot r c.grouped)
  return slotsOperand .array (← spanFrom start) slots

/-- A method of an object literal, from its key on. -/
def objectMethod (r : Rules) (c : Scope) (async generator : Bool) : Reader Slot := do
  let key ← propertyName r c
  return ⟨key ++ [.function (← functionRest r c async generator false)], false, false⟩

/-- A property of an object literal. -/
def objectSlot (r : Rules) (c : Scope) : Reader Slot := do
  let t ← current
  let next ← following
  if t.isSign "..." then
    advance
    return ← spreadSlot r c closeBrace
  if t.isSign "*" then
    advance
    return ← objectMethod r c false true
  if t.isWord "async" && (continuesMember next || next.isSign "*") && !next.afterLine then
    advance
    let generator ← accept "*"
    return ← objectMethod r c true generator
  if t.isWordOf ["get", "set"] && continuesMember next && !next.isSign "*" then
    advance
    let key ← propertyName r c
    return ⟨key ++ [.function (← accessorRest r c (t.isWord "set") false)], false, false⟩
  if next.isSignOf ["(", "<"] && t.kind != .punctuator then return ← objectMethod r c false false
  if c.allows t && next.isSignOf [",", closeBrace, "="] then
    let self ← variableExpr c
    if ← accept "=" then return ⟨[.expr self, .expr (← r.assignment c)], true, true⟩
    return ⟨[.expr self], true, false⟩
  let key ← propertyName r c
  if (← current).isSignOf ["(", "<"] then
    return ⟨key ++ [.function (← functionRest r c false false false)], false, false⟩
  expect ":"
  let slot := (← r.operand c).slot
  return { slot with parts := key ++ slot.parts }

/-- An object literal. -/
def objectLiteral (r : Rules) (c : Scope) : Reader Operand := do
  let start ← here
  expect openBrace
  let slots ← listed c.limit closeBrace (objectSlot r c.grouped)
  return slotsOperand .object (← spanFrom start) slots

/-! ### Functions, classes and groups -/

/-- A function expression, at its keyword `async` or `function`. -/
def functionExpr (r : Rules) (c : Scope) : Reader Operand := do
  let start ← here
  let async ← acceptWord "async"
  expectWord "function"
  let generator ← accept "*"
  let t ← current
  let name ← if (c.inside async generator).allows t then
      advance
      pure [Part.name .binding t.value]
    else pure []
  let rest ← functionRest r c async generator false
  return .of .function (← spanFrom start) (name ++ rest)

/-- A class expression, at its first decorator or its keyword. -/
def classExpr (r : Rules) (c : Scope) : Reader Operand := do
  let start ← here
  let marks ← decorators r c
  expectWord "class"
  let rest ← classRest r c
  return .of .other (← spanFrom start) (marks ++ rest)

/-- An expression in parentheses; a variable or a property stays one. -/
def group (r : Rules) (c : Scope) : Reader Operand := do
  let start ← here
  expect "("
  let first ← r.operand c.grouped
  require !first.needsPattern
  let target := if (← atSign ")") && first.target == .simple then Target.simple else .none
  let more ← repeated c.limit do
    if ← accept "," then return some (← r.assignment c.grouped) else return none
  expect ")"
  return ⟨.paren (← spanFrom start) (sequenceOf first.expr more), target, false⟩

/-! ### What may follow -/

/-- The arguments of a call with the parentheses around them. -/
def arguments (r : Rules) (c : Scope) : Reader (List Part) := do
  expect "("
  listed c.limit ")" do
    if ← accept "..." then return .spread (← r.assignment c.grouped)
    return .expr (← r.assignment c.grouped)

/-- The name after a point; a private one leaves nothing in the tree. -/
def memberName : Reader (List Part) := do
  let t ← current
  advance
  match t.kind with
  | .word => return [.name .property t.value]
  | .privateName => return []
  | _ => refuse

/-- Whether an expression may start with the token. -/
def startsExpr (t : Token) : Bool :=
  match t.kind with
  | .word => !t.isWordOf ["in", "instanceof", "as", "satisfies", "of"]
  | .privateName | .number | .string | .template => true
  | .punctuator =>
    t.isSignOf ["(", "[", openBrace, "+", "-", "~", "!", "++", "--", "/", "/=", "<", "@"]
  | _ => false

/-- Type arguments of an expression, where what follows them shows that they are ones. -/
def expressionTypes (r : Rules) (c : Scope) : Reader (List Part) := do
  let types ← typeArguments r c
  let t ← current
  let follows := t.isSign "(" || t.kind == .template ||
    (!t.isSignOf ["<", ">", "+", "-"] && (t.afterLine || !startsExpr t))
  require follows
  return types

/-- One step along a chain of members, calls and tags, given what precedes it. The flags tell that
    calls are not meant here, and that an optional step came before. -/
def subscript (r : Rules) (c : Scope) (noCalls : Bool) (start : Nat) (base : Operand)
    (optional : Bool) : Reader (Option (Operand × Bool)) := do
  let t ← current
  let self := Part.expr base.expr
  let access (parts : List Part) : Reader (Option (Operand × Bool)) := do
    let e := Expr.compound .member (← spanFrom start) (self :: parts)
    return some (⟨e, if optional then .none else .simple, false⟩, optional)
  let make (form : Form) (parts : List Part) (optional : Bool) :
      Reader (Option (Operand × Bool)) := do
    return some (.of form (← spanFrom start) (self :: parts), optional)
  if t.isSign "." then
    advance
    access (← memberName)
  else if t.isSign "?." then
    require !noCalls
    advance
    let t ← current
    if t.isSign "(" then make .call (← arguments r c) true
    else if t.isSign "[" then
      advance
      make .member [← computedKey r c] true
    else if c.typed && t.isSignOf ["<", "<<"] then
      let types ← typeArguments r c
      make .call (types ++ (← arguments r c)) true
    else make .member (← memberName) true
  else if t.isSign "[" && !c.inDecorator then
    advance
    access [← computedKey r c]
  else if t.isSign "(" && !noCalls then make .call (← arguments r c) optional
  else if t.kind == .template then
    require !optional
    make .other (← templateParts r c false) false
  else if c.typed && t.isSign "!" && !t.afterLine then
    advance
    return some (⟨.compound .other (← spanFrom start) [self], base.target, false⟩, optional)
  else if c.typed && t.isSignOf ["<", "<<"] then
    match ← attempt (expressionTypes r c) with
    | none => return none
    | some types =>
      let t ← current
      if t.isSign "(" && !noCalls then make .call (types ++ (← arguments r c)) optional
      else if t.kind == .template then
        require !optional
        make .other (types ++ (← templateParts r c false)) false
      else make .other types optional
  else return none

/-- All steps along a chain. -/
def subscripts (r : Rules) (c : Scope) (noCalls : Bool) (start : Nat) :
    Nat → Operand → Bool → Reader Operand
  | 0, _, _ => refuse
  | n + 1, base, optional => do
    match ← subscript r c noCalls start base optional with
    | some (next, optional) => subscripts r c noCalls start n next optional
    | none => return base

/-! ### Primary expressions -/

/-- An import as an expression: `import(…)`, `import.meta`, or one of its phases. -/
def importExpr (r : Rules) (c : Scope) : Reader Operand := do
  let start ← here
  advance
  let isMeta ← if ← accept "." then
      let word ← anyWord
      if word == "meta" then pure true
      else do
        require (word == "defer" || word == "source")
        pure false
    else pure false
  if isMeta then
    return .of .other (← spanFrom start) [.name .property "import", .name .property "meta"]
  let parts ← arguments r c
  let plain := parts.all fun part => match part with
    | .expr _ => true
    | _ => false
  require (plain && (parts.length == 1 || parts.length == 2))
  return .of .other (← spanFrom start) parts

/-- The keyword `super`, before a call or a member. -/
def superExpr : Reader Operand := do
  let start ← here
  advance
  require ((← current).isSignOf ["(", ".", "["])
  return .of .other (← spanFrom start) []

/-- A primary expression. `new` is read by the first argument. -/
def primary (r : Rules) (c : Scope) (construct : Reader Operand) : Reader Operand := do
  let t ← current
  let next ← following
  match t.kind with
  | .number => leaf .literal
  | .string => leaf .string
  | .template =>
    let parts ← templateParts r c true
    return .of .template (← spanFrom t.start) parts
  | .word =>
    if t.isWordOf ["null", "true", "false"] then leaf .literal
    else if t.isWord "this" then leaf .this
    else if t.isWord "function" then functionExpr r c
    else if t.isWord "async" && next.isWord "function" && !next.afterLine then functionExpr r c
    else if t.isWord "class" then classExpr r c
    else if t.isWord "new" then construct
    else if t.isWord "super" then superExpr
    else if t.isWord "import" then importExpr r c
    else return ⟨← variableExpr c, .simple, false⟩
  | .punctuator =>
    if t.isSign "(" then group r c
    else if t.isSign "[" then arrayLiteral r c
    else if t.isSign openBrace then objectLiteral r c
    else if t.isSignOf ["/", "/="] then regex
    else if t.isSign "@" then classExpr r c
    else refuse
  | _ => refuse

/-- A primary expression and the steps along the chain after it. -/
def chain (r : Rules) (c : Scope) (noCalls : Bool) (construct : Reader Operand) :
    Reader Operand := do
  let start ← here
  let base ← primary r c construct
  subscripts r c noCalls start c.limit base false

/-- A construction: `new`, its callee and its arguments; or the target of the current one. -/
def construct (r : Rules) (c : Scope) : Nat → Reader Operand
  | 0 => refuse
  | n + 1 => do
    let start ← here
    expectWord "new"
    if ← accept "." then
      expectWord "target"
      return .of .other (← spanFrom start) [.name .property "new", .name .property "target"]
    let next ← following
    require !((← atWord "import") && !(next.isSign "." && (Token.next next.after).isWord "meta"))
    let callee ← chain r c true (construct r c n)
    let parts ← if ← atSign "(" then arguments r c else pure []
    return .of .other (← spanFrom start) (.expr callee.expr :: parts)

/-- An expression that may stand before an assignment sign. -/
def leftHandSide (r : Rules) (c : Scope) : Reader Operand :=
  chain r c false (construct r c c.limit)

/-! ### Operators -/

/-- Markup where a value is meant. -/
def markupExpr (r : Rules) (c : Scope) : Reader Operand := do
  let next ← following
  require (next.kind == .word || next.isSign ">")
  let (span, node) ← r.markup c
  advance
  return .value (.markup span node)

/-- An expression with the operators before and after it that take one operand. -/
def unary (r : Rules) (c : Scope) : Reader Operand := do
  let t ← current
  let start := t.start
  if t.isWordOf ["delete", "void", "typeof"] || t.isSignOf ["+", "-", "~", "!"] ||
      (c.await && t.isWord "await") then
    advance
    let o ← r.unary c
    require !o.needsPattern
    return .of .other (← spanFrom start) [.expr o.expr]
  if t.isSignOf ["++", "--"] then
    advance
    let o ← r.unary c
    require (o.target == .simple)
    return .of .other (← spanFrom start) [.expr o.expr]
  if t.isSign "<" && c.markup then return ← markupExpr r c
  if t.isSign "<" && c.typed then
    advance
    let type ← r.type c.grouped
    expect ">"
    let o ← r.unary c
    return ⟨.compound .other (← spanFrom start) (type ++ [.expr o.expr]), o.target, false⟩
  if t.kind == .privateName then
    let next ← following
    require (c.allowIn && next.isWord "in")
    return ← leaf .other
  let o ← leftHandSide r c
  let t ← current
  if t.isSignOf ["++", "--"] && !t.afterLine then
    require (o.target == .simple)
    advance
    return .of .other (← spanFrom start) [.expr o.expr]
  return o

/-- The operator at a greater-than sign, which is read one character at a time elsewhere. -/
def greaterSign (cs : List Char) : String :=
  match cs with
  | '>' :: '>' :: '>' :: '=' :: _ => ">>>="
  | '>' :: '>' :: '>' :: _ => ">>>"
  | '>' :: '>' :: '=' :: _ => ">>="
  | '>' :: '>' :: _ => ">>"
  | '>' :: '=' :: _ => ">="
  | _ => ">"

/-- The operator that a token spells. -/
def operatorOf (t : Token) : String :=
  if t.isSign ">" then greaterSign t.text
  else if t.kind == .punctuator then t.value
  else if t.kind == .word && !t.escaped then t.value
  else ""

/-- Takes the operator at the current token. -/
def takeOperator : Reader Unit := do
  let t ← current
  if t.isSign ">" then
    let n := (greaterSign t.text).length
    set (Cursor.at ⟨t.text.drop n, t.start + n⟩)
  else advance

/-- How tightly an operator with two operands binds, from one on; none for what is no operator here.
    A cast to a type binds like a comparison. -/
def precedence (c : Scope) (operator : String) : Nat :=
  match operator with
  | "??" => 1
  | "||" => 2
  | "&&" => 3
  | "|" => 4
  | "^" => 5
  | "&" => 6
  | "==" | "!=" | "===" | "!==" => 7
  | "<" | ">" | "<=" | ">=" | "instanceof" => 8
  | "in" => if c.allowIn then 8 else 0
  | "as" | "satisfies" => if c.typed then 8 else 0
  | "<<" | ">>" | ">>>" => 9
  | "+" | "-" => 10
  | "*" | "/" | "%" => 11
  | "**" => 12
  | _ => 0

/-- Whether an operator of the given precedence ends the right side of one that is to bind more
    tightly than `least`. Exponents group from the right. -/
def endsOperand (operator : String) (precedence least : Nat) : Bool :=
  precedence == 0 || (if operator == "**" then precedence < least else precedence ≤ least)

/-- Joins two operands. -/
def joined (form : Form) (left right : Expr) : Operand :=
  .of form ⟨left.span.start, right.span.stop⟩ [.expr left, .expr right]

/-- Whether an expression is logical and has no parentheses around it. -/
def isLogical : Expr → Bool
  | .compound .logical _ _ => true
  | _ => false

/-- What the left operand of an operator was made by. -/
inductive Last where
  /-- Nothing but an operator in front of it. -/
  | prefixed
  /-- One of `&&` and `||`. -/
  | junction
  /-- Anything else. -/
  | other
  deriving DecidableEq

/-- Whether a sign or word stands here that takes one operand after it. -/
def atOperator (c : Scope) : Reader Bool := do
  let t ← current
  return t.isWordOf ["delete", "void", "typeof"] || t.isSignOf ["+", "-", "~", "!"] ||
    (c.await && t.isWord "await") || (t.isSign "<" && !c.markup)

mutual

/-- An expression of operators that bind more tightly than the given precedence. -/
def binary (r : Rules) (c : Scope) : Nat → Nat → Reader Operand
  | 0, _ => refuse
  | n + 1, least => do
    let last := if ← atOperator c then Last.prefixed else .other
    let left ← unary r c
    binaryRest r c n least left last

/-- The operators after a left operand, each with its right one. -/
def binaryRest (r : Rules) (c : Scope) : Nat → Nat → Operand → Last → Reader Operand
  | 0, _, _, _ => refuse
  | n + 1, least, left, last => do
    let t ← current
    let operator := operatorOf t
    let tightness := precedence c operator
    if endsOperand operator tightness least then return left
    if operator == "as" || operator == "satisfies" then
      if t.afterLine then return left
      advance
      let type ← r.type c.grouped
      let e := Expr.compound .other (← spanFrom left.expr.span.start) (.expr left.expr :: type)
      binaryRest r c n least ⟨e, left.target, false⟩ .other
    else
      -- an operator before a power needs parentheses
      require !(operator == "**" && last == .prefixed)
      takeOperator
      let right ← binary r c n tightness
      require (!left.needsPattern && !right.needsPattern)
      -- the coalescing operator does not mix with the other two without parentheses
      require !(operator == "??" && (last == .junction || isLogical right.expr))
      let form := if tightness ≤ 3 then Form.logical else .other
      let last := if operator == "&&" || operator == "||" then Last.junction else .other
      binaryRest r c n least (joined form left.expr right.expr) last

end

/-! ### Functions with arrows -/

/-- How sure it is that a function with an arrow starts here. -/
inductive Guess where
  | yes
  | no
  | maybe

/-- The words that may modify the first parameter of a function. -/
def modifierWords : List String :=
  ["public", "private", "protected", "readonly", "override", "static", "abstract", "declare",
   "accessor", "const", "export", "default", "in", "out"]

/-- Looks behind a parenthesis for the parameters of a function. -/
def guessAtGroup (c : Scope) (afterAsync : Bool) : Reader Guess := do
  advance
  let second ← current
  if second.isSign ")" then
    let third ← following
    return if third.isSignOf ["=>", ":", openBrace] then .yes else .no
  if second.isSignOf ["[", openBrace] then return .maybe
  if second.isSign "..." then return if afterAsync then .maybe else .yes
  let third ← following
  if second.isWordOf modifierWords && c.allows third then
    return if third.isWord "as" then .no else .yes
  if !c.allows second && !second.isWord "this" then return .no
  if third.isSign ":" then return .yes
  if third.isSign "?" then
    advance
    let fourth ← following
    return if fourth.isSignOf [":", ",", "=", ")"] then .yes else .no
  return if third.isSignOf [",", "=", ")"] then .maybe else .no

/-- Looks behind an angle bracket for the type parameters of a function. -/
def guessAtAngle (c : Scope) : Reader Guess := do
  advance
  let second ← current
  if !c.typed || (!c.allows second && !second.isWord "const") then return .no
  if !c.markup then return .maybe
  let _ ← acceptWord "const"
  let third ← following
  if third.isWord "extends" then
    advance
    let fourth ← following
    return if fourth.isSignOf ["=", ">", "/"] then .no else .yes
  return if third.isSignOf [",", "="] then .yes else .no

/-- How sure it is that a function with its parameters in parentheses starts here. -/
def guessArrow (c : Scope) : Reader Guess := fun cursor =>
  let look : Reader Guess := do
    let async ← atWord "async"
    if async then
      let next ← following
      if next.afterLine || !next.isSignOf ["(", "<"] then return .no
      advance
    let t ← current
    if t.isSign "(" then guessAtGroup c async
    else if t.isSign "<" then guessAtAngle c
    else return .no
  match look cursor with
  | some (guess, _) => some (guess, cursor)
  | none => some (.no, cursor)

/-- The body of a function after its arrow. -/
def arrowBody (r : Rules) (c : Scope) (async : Bool) : Reader (List Part) := do
  if ← atSign openBrace then block r { c.inside async false with ambient := false }
  else
    let e ← r.assignment { c with await := async, yield := false }
    return [.expr e]

/-- A function whose parameters stand in parentheses. -/
def arrowFunction (r : Rules) (c : Scope) : Reader Operand := do
  let start ← here
  let async ← acceptWord "async"
  let inner := c.inside async false
  let types ← typeParameters? r inner
  require !(c.typed && (← following).isWord "this")
  let params ← parameters r inner
  let typed := c.typed && (← atSign ":")
  let result ← resultType? r inner
  require !(← afterLine)
  expect "=>"
  let body ← arrowBody r c async
  require (c.resultTypes || !typed || (← atSign ":"))
  return .of .arrow (← spanFrom start) (types ++ params ++ result ++ body)

/-- A function whose one parameter is a name, after `async`. -/
def asyncNameArrow? (r : Rules) (c : Scope) : Reader (Option Operand) := do
  let t ← current
  let next ← following
  let start := t.start
  if t.isWord "async" && !next.afterLine && (c.inside true false).allows next then
    let isArrow ← ahead do
      advance
      advance
      atSign "=>"
    if isArrow then
      advance
      advance
      require !(← afterLine)
      expect "=>"
      let body ← arrowBody r c true
      return some (.of .arrow (← spanFrom start) (.name .binding next.value :: body))
  return none

/-- A function with an arrow, if one starts here. -/
def arrow? (r : Rules) (c : Scope) : Reader (Option Operand) := do
  match ← guessArrow c with
  | .yes => return some (← arrowFunction r c)
  | .maybe => attempt (arrowFunction r c)
  | .no => asyncNameArrow? r c

/-! ### Assignments -/

/-- The signs that assign through an operator. -/
def updateSigns : List String :=
  ["+=", "-=", "*=", "/=", "%=", "**=", "<<=", ">>=", ">>>=", "&=", "|=", "^=", "&&=", "||=", "??="]

/-- The keyword `yield`, with or without a value. -/
def yieldExpr (r : Rules) (c : Scope) : Reader Operand := do
  let start ← here
  advance
  let t ← current
  if t.isSign "*" && !t.afterLine then
    advance
    let e ← r.assignment c
    return .of .other (← spanFrom start) [.expr e]
  let ends := t.afterLine || t.kind == .finish ||
    t.isSignOf [")", "]", closeBrace, ",", ";", ":"] || t.isWord "in"
  if ends then return .of .other (← spanFrom start) []
  let e ← r.assignment c
  return .of .other (← spanFrom start) [.expr e]

/-- The rest of a conditional expression after its test. -/
def conditionalRest (r : Rules) (c : Scope) (test : Operand) : Reader Operand := do
  if !(← atSign "?") then return test
  require !test.needsPattern
  advance
  let yes ← r.assignment { c with allowIn := true, resultTypes := false }
  expect ":"
  let no ← r.assignment c
  return .of .conditional ⟨test.expr.span.start, no.span.stop⟩
    [.expr test.expr, .expr yes, .expr no]

/-- An expression without a comma at its top. -/
def operand (r : Rules) (c : Scope) : Reader Operand := do
  if c.yield && (← atWord "yield") then return ← yieldExpr r c
  if let some o ← arrow? r c then return o
  let left ← binary r c (2 * c.limit) 0
  let t ← current
  let op := operatorOf t
  match left.expr with
  | .name span text =>
    if t.isSign "=>" then
      require !t.afterLine
      advance
      let body ← arrowBody r c false
      return .of .arrow (← spanFrom span.start) (.name .binding text :: body)
  | _ => pure ()
  if op == "=" then
    require (left.target == .simple || left.target == .pattern)
    takeOperator
    let right ← r.assignment c
    let e :=
      Expr.compound .other ⟨left.expr.span.start, right.span.stop⟩ [.expr left.expr, .expr right]
    return ⟨e, .withDefault, false⟩
  if updateSigns.contains op then
    require (left.target == .simple)
    takeOperator
    let right ← r.assignment c
    return joined .other left.expr right
  conditionalRest r c left

end JsxTemplate.Grammar
