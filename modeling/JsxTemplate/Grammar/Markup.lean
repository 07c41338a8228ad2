import JsxTemplate.Grammar.Expression

namespace JsxTemplate.Grammar

/-!
# Markup

Between tags there are no tokens: text runs to the next brace or angle bracket. So the rules here
move between the tokens of a tag and the plain text after it.

* `tagName`, `tagAttribute` — what stands in a tag.
* `child` — what stands between tags.
* `element` — an element or a fragment, from its first angle bracket to its last.
-/

/-! ### Names -/

/-- A name in a tag, which may hold hyphens. -/
def hyphenated : Reader String := do
  let t ← current
  require (t.kind == .word && !t.escaped)
  let name := markupName t.text
  set (Cursor.at ⟨t.text.drop name.length, t.start + Text.byteLength name⟩)
  return String.ofList name

/-- Whether a name in a tag has no hyphen. -/
def isSimpleName (name : String) : Bool := !name.toList.contains '-'

/-- The name of a tag. -/
def tagName (c : Scope) : Reader TagName := do
  let first ← hyphenated
  if ← accept ":" then return .namespaced first (← hyphenated)
  let root := if first == "this" then none else some first
  if ← atSign "." then
    require (isSimpleName first)
    let path ← repeated c.limit do
      if ← accept "." then
        let name ← hyphenated
        require (isSimpleName name)
        return some name
      else return none
    return .member root path
  return if first == "this" then .member none [] else .plain first

/-! ### Attributes -/

/-- The text of a quoted value, up to the same quote and without escapes. -/
def quotedValue : Reader String := do
  let t ← current
  match t.text with
  | q :: rest =>
    require (q == '"' || q == '\'')
    let body := rest.takeWhile (· != q)
    require (body.length < rest.length)
    set (Cursor.at ⟨rest.drop (body.length + 1), t.start + Text.byteLength body + 2⟩)
    return String.ofList body
  | [] => refuse

/-- The value of an attribute after its equals sign. -/
def attributeValue (r : Rules) (c : Scope) : Reader AttributeValue := do
  if ← accept openBrace then
    let e ← r.expression c.grouped
    expect closeBrace
    return .expr e
  if ← atSign "<" then
    let (_, node) ← r.markup c
    advance
    return .markup node
  return .literal (← quotedValue)

/-- An attribute. -/
def tagAttribute (r : Rules) (c : Scope) : Reader Attribute := do
  if ← accept openBrace then
    expect "..."
    let e ← r.expression c.grouped
    expect closeBrace
    return .spread e
  let first ← hyphenated
  let name ← if ← accept ":" then pure (first ++ ":" ++ (← hyphenated)) else pure first
  if ← accept "=" then return .named name (← attributeValue r c)
  return .named name .bare

/-- The attributes of a tag. -/
def attributes (r : Rules) (c : Scope) : Reader (List Attribute) :=
  repeated c.limit do
    let t ← current
    if t.isSignOf [">", "/"] then return none
    return some (← tagAttribute r c)

/-! ### Children -/

/-- What stands in braces between tags. Braces around nothing but comments leave nothing. The
    closing brace is not yet taken. -/
def hole (r : Rules) (c : Scope) : Reader (Option Markup) := do
  expect openBrace
  if ← atSign closeBrace then return none
  let spread ← accept "..."
  let e ← r.expression c.grouped
  require (← atSign closeBrace)
  return some (.hole spread e)

/-- Whether an angle bracket at the front of a text starts a closing tag. -/
def atClosingTag (place : Place) : Bool :=
  let t := Token.next place
  t.isSign "<" && (Token.next t.after).isSign "/"

/-- The next thing between tags, from a place on: nothing if that is a closing tag, else a child,
    which braces may leave out, and the place after it. -/
def child (r : Rules) (c : Scope) (place : Place) : Reader (Option (List Markup × Place)) := do
  match place.rest with
  | '{' :: _ =>
    set (Cursor.at place)
    let node ← hole r c
    return some (node.toList, (← current).after)
  | '<' :: _ =>
    set (Cursor.at place)
    if atClosingTag place then return none
    let (_, node) ← r.markup c
    return some ([node], (← current).after)
  | _ =>
    let text := markupText place.rest
    require !text.isEmpty
    let after : Place := ⟨place.rest.drop text.length, place.offset + Text.byteLength text⟩
    return some ([.text (String.ofList text)], after)

/-- All children, from a place on; the reader is left at the closing tag. -/
def children (r : Rules) (c : Scope) : Nat → Place → Reader (List Markup)
  | 0, _ => refuse
  | n + 1, place => do
    match ← child r c place with
    | none => return []
    | some (nodes, place) => return nodes ++ (← children r c n place)

/-! ### Elements -/

/-- Takes the start of a closing tag. -/
def openClosing : Reader Unit := do
  expect "<"
  expect "/"

/-- What stands between the tags of an element, from the end of the first one on to the name in the
    second one. -/
def content (r : Rules) (c : Scope) : Reader (List Markup) := do
  let t ← current
  require (t.isSign ">")
  let nodes ← children r c c.limit t.after
  openClosing
  return nodes

/-- An element or a fragment after its first angle bracket, given the span of the whole. -/
def elementRest (r : Rules) (c : Scope) : Reader (Span → Markup) := do
  if ← atSign ">" then
    let nodes ← content r c
    return fun _ => .fragment nodes
  let tag ← tagName c
  let types ← if c.typed && (← atAngle) then typeArguments r c else pure []
  let attrs ← attributes r c
  if ← accept "/" then return fun span => .ofTag span tag types attrs []
  let nodes ← content r c
  require ((← tagName c) == tag)
  return fun span => .ofTag span tag types attrs nodes

/-- An element or a fragment. The last angle bracket is not yet taken, since what follows it may be
    read as text. -/
def element (r : Rules) (c : Scope) : Reader (Span × Markup) := do
  let start ← here
  expect "<"
  let node ← elementRest r c
  let t ← current
  require (t.isSign ">")
  let span : Span := ⟨start, t.stop⟩
  return (span, node span)

end JsxTemplate.Grammar
