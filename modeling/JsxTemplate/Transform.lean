import JsxTemplate.Compile.Markup
import JsxTemplate.Grammar.Module
import JsxTemplate.Output.Layout

namespace JsxTemplate

/-!
# Compiling modules

* `transform` — compiles all markup of a module.
* `transformAll` — the same for several modules, each by itself.
-/

/-- A compiled module. -/
structure Compiled where
  code : String
  /-- The source map, if one is asked for. -/
  map : Option String
  warnings : List Warning
  /-- The helpers that the module imports newly. -/
  imports : List Helper
  deriving DecidableEq, Repr

/-- Why a module is not compiled. -/
inductive CompileError where
  /-- The text of the file is not a module. -/
  | unreadable (file : String)
  /-- Something is said to stand where the source has no place for it. -/
  | misplaced
  deriving DecidableEq, Repr

/-- The wording of an error. -/
def CompileError.message : CompileError → String
  | unreadable file => "failed to parse " ++ file
  | misplaced => "offset outside the source"

/-! ### The place of the import -/

/-- Where the prologue of a module ends. -/
def Program.prologueStop (program : Program) : Nat :=
  max ((program.hashbang.map Span.stop).getD 0) ((program.directives.getLast?.map Span.stop).getD 0)

/-- Length of the blanks at the front of a text and the semicolon after them, if there is one. -/
def semicolonLength (cs : List Char) : Nat :=
  let blanks := cs.takeWhile fun c => c == ' ' || c == '\t'
  match cs.drop blanks.length with
  | ';' :: _ => Text.byteLength blanks + 1
  | _ => 0

/-- Where an import is put: at the start, or after the prologue if there is one. -/
def Program.importOffset (program : Program) (source : List Char) : Option Nat := do
  let stop := program.prologueStop
  if stop = 0 then return 0
  let (_, rest) ← Text.cut source stop
  return stop + semicolonLength rest

/-! ### Modules -/

/-- The output for a module whose tree is known. -/
def Program.compile (program : Program) (source : List Char) (file : String) (options : Options) :
    Option Compiled := do
  let bindings := Bindings.of program options
  let emitted := program.patches options
  let replacements ← Code.renderPatches bindings source emitted.value
  let lines := Text.Lines.of source
  let warnings ← emitted.notices.mapM (Notice.warning? file lines source)
  let header ← match bindings.statement? options.packageName emitted.needs with
    | none => pure none
    | some statement => do
      let offset ← program.importOffset source
      pure (some ⟨offset, statement.toList⟩)
  let draft ← generate source header replacements
  return {
    code := String.ofList draft.code
    map := if options.sourceMap then some (sourceMap file source draft.marks) else none
    warnings := warnings
    imports := bindings.pending emitted.needs }

/-- Compiles the markup of a module. -/
def transform (source file : String) (options : Options) : Except CompileError Compiled :=
  match Program.parse? (Grammar.Dialect.ofPath file) source.toList with
  | none => .error (.unreadable file)
  | some program =>
    match program.compile source.toList file options with
    | none => .error .misplaced
    | some compiled => .ok compiled

/-- A file to compile. -/
structure SourceFile where
  path : String
  code : String
  deriving DecidableEq, Repr

/-- Compiles several modules, in their order. -/
def transformAll (files : List SourceFile) (options : Options) :
    List (Except CompileError Compiled) :=
  files.map fun file => transform file.code file.path options

end JsxTemplate
