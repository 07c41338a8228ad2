import JsxTemplate.Helper
import JsxTemplate.Text.Offsets

namespace JsxTemplate

/-!
# Warnings and the log of a compilation

* `Conflict` — the two things that a tag can get wrong without being refused.
* `Notice` — a conflict and the place of its tag.
* `Warning` — a notice with its wording, as it is reported.
* `Emit α` — a value, with the notices that came up on the way to it and the helpers that it needs.
* `Emit.need`, `Emit.report` — add to the log.

What is computed cannot look at the log, so the order of two steps shows in the log alone.
-/

/-! ### Warnings -/

/-- Attributes that contradict something else on the same tag. -/
inductive Conflict where
  /-- A component has both content and an attribute for it. -/
  | children
  /-- A tag has both a class and a map of classes. -/
  | classes
  deriving DecidableEq, Repr

/-- A conflict of the tag that starts at an offset. -/
structure Notice where
  conflict : Conflict
  tag : String
  start : Nat
  deriving DecidableEq, Repr

namespace Conflict

/-- The code of a conflict. -/
def code : Conflict → String
  | children => "KAORI-W001"
  | classes => "KAORI-W002"

/-- The wording of a conflict of a tag. -/
def message (tag : String) : Conflict → String
  | children =>
    "<" ++ tag ++ "> has both 'children' prop and children content; the content takes priority"
  | classes =>
    "<" ++ tag ++
      "> has both 'class' and 'classMap' attributes; they may override each other at runtime"

end Conflict

/-- What was done about the condition that a code stands for. -/
def resolution (code : String) : String :=
  if code = Conflict.children.code then
    "Children content is passed; the 'children' attribute is dropped."
  else if code = Conflict.classes.code then
    "Both attributes are emitted and may override each other at runtime."
  else "Compilation continued."

/-- A warning, as it is reported. -/
structure Warning where
  code : String
  message : String
  resolution : String
  file : String
  line : Nat
  column : Nat
  deriving DecidableEq, Repr

namespace Warning

/-- The warning with a code and a wording at a place. -/
def make (code message file : String) (line column : Nat) : Warning :=
  ⟨code, message, JsxTemplate.resolution code, file, line, column⟩

/-- The warning on one line. -/
def render (w : Warning) : String :=
  "[" ++ w.code ++ "] " ++ w.message ++ " (" ++ w.file ++ ":" ++ toString w.line ++ ":" ++
    toString w.column ++ ")"

end Warning

/-- The warning of a notice, if its place is one of the source. -/
def Notice.warning? (file : String) (lines : Text.Lines) (source : List Char) (notice : Notice) :
    Option Warning := do
  let place ← lines.location source notice.start
  return .make notice.conflict.code (notice.conflict.message notice.tag) file place.line place.column

/-! ### Values with a log -/

/-- A value and what came up on the way to it. -/
structure Emit (α : Type) where
  value : α
  notices : List Notice
  needs : List Helper
  deriving DecidableEq, Repr

namespace Emit

instance : Monad Emit where
  pure a := ⟨a, [], []⟩
  bind x f :=
    let y := f x.value
    ⟨y.value, x.notices ++ y.notices, x.needs ++ y.needs⟩

/-- Notes that a helper is needed. -/
def need (helper : Helper) : Emit Unit := ⟨(), [], [helper]⟩

/-- Notes a conflict. -/
def report (notice : Notice) : Emit Unit := ⟨(), [notice], []⟩

end Emit

end JsxTemplate
