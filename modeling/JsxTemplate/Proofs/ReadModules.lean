import JsxTemplate.Proofs.ReadMarkup
import JsxTemplate.Proofs.ReadStatements

namespace JsxTemplate.Grammar

open Text

/-!
# Modules are read soundly

* `keeps_importItem`, `gives_importItem` — imports, and the names that they bind.
* `keeps_exportItem` — exports.
* `keeps_item` — the statements of a module.
* `keep_rules` — the rules of the whole grammar, by induction on the depth of the text.
-/

variable {source : List Char} {P : TagName → Prop}

/-- Names of a module's interface hold no expressions. -/
@[simp] theorem exprs_part (role : Role) (name : ModuleName) :
    exprs (ModuleName.part role name) = [] := by
  unfold ModuleName.part
  split <;> rfl

/-- An import by itself holds no expressions. -/
theorem exprs_importParts (declaration : Import) : exprs (Import.parts declaration) = [] := by
  simp [Import.parts, exprs_flatMap]

/-! ### Names that are bound -/

/-- The names that an import binds are names of the language. -/
def BindsNames (declaration : Import) : Prop :=
  ∀ specifier ∈ declaration.specifiers, isIdentifierName specifier.bound.toList = true

/-- A word that can be an identifier is a name. -/
theorem isIdentifierName_of_allows {c : Scope} {t : Token} (ht : t.IsRead)
    (h : c.allows t = true) : isIdentifierName t.value.toList = true := by
  simp only [Scope.allows, Bool.and_eq_true, beq_iff_eq] at h
  exact ht.name h.1.1.1

variable {c : Scope}

/-- An identifier is a name. -/
theorem gives_identifier :
    Gives source (fun name => isIdentifierName name.toList = true) (identifier c) := by
  unfold identifier
  refine gives_current.bind fun t ht => (gives_require _).bind fun _ hallows => ?_
  exact .skip fun _ => .pure (isIdentifierName_of_allows ht hallows)

/-- What a specifier binds is a name. -/
theorem gives_importSpecifier :
    Gives source (fun s => isIdentifierName s.bound.toList = true) (importSpecifier c) := by
  unfold importSpecifier
  refine .skip fun isType => .optionally (gives_current.bind fun t ht => .skip fun imported => ?_)
  refine .skip fun _ => .ite ?_ ((gives_require _).bind fun _ hallows => .pure ?_)
  · exact gives_identifier.bind fun name hname => .pure hname
  · exact isIdentifierName_of_allows ht hallows

/-- What specifiers in braces bind are names. -/
theorem gives_importSpecifiers :
    Gives source (fun specifiers => ∀ s ∈ specifiers, isIdentifierName s.bound.toList = true)
      (importSpecifiers c) := by
  unfold importSpecifiers
  exact .skip fun _ => gives_importSpecifier.listed c.limit closeBrace

/-- An import of a whole module. -/
instance : Steady (namespaceImport c) := by unfold namespaceImport; infer_instance

/-- What the specifiers of an import bind are names. -/
theorem gives_importClause :
    Gives source (fun given => ∀ s ∈ given.2, isIdentifierName s.bound.toList = true)
      (importClause c) := by
  unfold importClause
  refine .skip fun _ => .ite (.skip fun _ => .pure (by simp)) (.skip fun _ => .ite ?_ ?_)
  · exact gives_importSpecifiers.bind fun specifiers h => .pure h
  refine .skip fun name => .skip fun _ => .ite ?_ (.pure (by simp))
  refine .skip fun _ => .ite (.skip fun _ => .pure (by simp)) ?_
  exact gives_importSpecifiers.bind fun specifiers h => .pure h

/-- The names before the word `from` hold no expressions. -/
instance : Steady (importClause c) :=
  ⟨fun _ => gives_importClause.mono fun _ _ => trivial⟩

variable {r : Rules} (hr : r.Keep source P)

include hr

/-! ### Imports -/

/-- An import by assignment. -/
theorem keeps_importAssignment : Keeps source P (importAssignment r c) := by
  intro s taken
  unfold importAssignment
  refine .skip fun name => .skip fun _ => .skip fun _ => .skip fun _ => .ite ?_ ?_
  · refine .skip fun _ => .skip fun _ => .skip fun _ => .skip fun _ => ?_
    exact .skip fun _ => .pure rfl
  · exact (keeps_typeReference hr).bind fun path => .skip fun _ => .pure rfl

/-- An import declaration. -/
theorem keeps_importItem : Keeps source P (importItem r c) := by
  intro s taken
  unfold importItem
  refine .skip fun _ => .skip fun _ => .ite ?_ (.skip fun isType => .either fun _ => ?_)
  · exact .skip fun _ => .skip fun _ => .skip fun _ => .pure rfl
  refine .either fun _ => .ite ?_ (.skip fun clause => ?_)
  · exact (keeps_importAssignment hr).bind fun parts => .pure (by simp)
  · exact .skip fun _ => .skip fun _ => .skip fun _ => .skip fun _ => .pure rfl

/-- What an import declaration binds are names. -/
theorem gives_importItem :
    Gives source (fun item => ∀ declaration, item = .imports declaration → BindsNames declaration)
      (importItem r c) := by
  unfold importItem
  -- without a clause nothing is bound; an assignment is no import of names
  refine .skip fun _ => .skip fun _ => .ite ?_ (.skip fun isType => .either fun _ => ?_)
  · refine .skip fun _ => .skip fun _ => .skip fun _ => .pure fun declaration h => ?_
    cases h
    exact fun s hs => absurd hs List.not_mem_nil
  refine .either fun _ => .ite ?_ (gives_importClause.bind fun clause hclause => ?_)
  · refine (keeps_importAssignment hr).gives.bind fun parts _ => .pure fun declaration h => ?_
    cases h
  · refine .skip fun _ => .skip fun _ => .skip fun _ => .skip fun _ => .pure fun declaration h => ?_
    cases h
    exact hclause

/-! ### Exports -/

omit hr in
variable (source P) in
/-- The rest of an export with specifiers. -/
theorem keeps_exportSpecifiers : Keeps source P (exportSpecifiers c) := by
  intro s taken
  unfold exportSpecifiers
  refine .skip fun _ => .skip fun specifiers => .skip fun _ => ?_
  refine .ite (.skip fun _ => .skip fun keys => .skip fun _ => .pure ?_) ?_
  · simp [exprs_flatMap]
  · exact .skip fun _ => .given (.skip fun _ => .pure (by simp [exprs_flatMap]))

omit hr in
variable (source P) in
/-- An export of all of a module. -/
theorem keeps_exportAll : Keeps source P (exportAll c) := by
  intro s taken
  unfold exportAll
  have hrest : ∀ outer : List ModuleName, Reads source P s taken [] (do
      expectWord "from"
      let _ ← moduleSource
      let keys ← importAttributes c
      endStatement
      return (outer.flatMap (ModuleName.part .property) ++ keys.map (Part.name .property),
        outer.map (·.text))) := by
    intro outer
    refine .skip fun _ => .skip fun _ => .skip fun keys => .skip fun _ => .pure ?_
    simp [exprs_flatMap]
  exact .skip fun _ => .skip fun _ => .ite (.skip fun _ => hrest _) (hrest [])

/-- What follows `export default`. -/
theorem keeps_exportDefault : Keeps source P (exportDefault r c) := by
  intro s taken
  unfold exportDefault
  refine .skip fun t => .skip fun next => .ite (keeps_functionDeclaration hr false).reads ?_
  refine .ite (keeps_classDeclaration hr false).reads (.ite ?_ ?_)
  · exact .skip fun _ => (keeps_interfaceRest hr).reads
  · exact hr.assignment.bind fun e => .skip fun _ => .pure rfl

/-- What follows `export` and declares something. -/
theorem keeps_exportDeclaration : Keeps source P (exportDeclaration r c) := by
  intro s taken
  unfold exportDeclaration
  refine .skip fun keyword => ?_
  cases keyword with
  | some constant =>
    exact (keeps_declarations hr constant).bind fun parts => .skip fun _ => .pure rfl
  | none =>
    refine (keeps_declaration? hr).bind fun given => ?_
    cases given with
    | some parts => exact .pure rfl
    | none => exact .refuse

/-- An export declaration. -/
theorem keeps_exportItem : Keeps source P (exportItem r c) := by
  intro s taken
  unfold exportItem
  have hdeclaration : Keeps source P (exportDeclaration r c) := keeps_exportDeclaration hr
  refine (keeps_decorators hr).bind fun marks => .skip fun _ => ?_
  refine .skip fun t => .skip fun next => .ite (.skip fun _ => ?_) (.ite ?_ ?_)
  · exact (keeps_exportDefault hr).bind fun parts => .pure (by simp)
  · exact hdeclaration.bind fun given => .pure (exprs_append marks given.1)
  -- from here on there are no decorators
  refine .drop ?_ (List.nil_sublist _)
  refine .ite (keeps_exportAll source P).reads (.ite (keeps_exportSpecifiers source P).reads ?_)
  -- exports of types alone, `export =`, `export as namespace` and `export import`
  refine .ite (.ite ?_ (.ite ?_ (.ite ?_ (.ite ?_ hdeclaration.reads)))) hdeclaration.reads
  · refine .skip fun _ => .ite ?_ ?_
    · exact (keeps_exportAll source P).bind fun given => .pure rfl
    · exact (keeps_exportSpecifiers source P).bind fun given => .pure rfl
  · exact .skip fun _ => hr.expression.bind fun e => .skip fun _ => .pure rfl
  · exact .skip fun _ => .skip fun _ => .skip fun _ => .skip fun _ => .pure rfl
  · refine .skip fun _ => .skip fun _ => .optionally ?_
    exact (keeps_importAssignment hr).bind fun parts => .pure rfl

/-! ### Statements of a module -/

/-- A statement, or in a namespace an import or an export. -/
theorem keeps_anyStatement : Keeps source P (anyStatement r c) := by
  intro s taken
  unfold anyStatement
  have hstatement : Keeps source P (statement r c) := keeps_statement hr
  refine .ite (.skip fun _ => .ite ?_ (.skip fun _ => .ite ?_ hstatement.reads)) hstatement.reads
  · exact (keeps_exportItem hr).bind fun given => .pure rfl
  · refine (keeps_importItem hr).bind fun given => ?_
    cases given with
    | imports declaration => exact .pure (exprs_importParts declaration)
    | code parts => exact .pure (by simp)

/-- A statement of a module. -/
theorem keeps_item : Keeps source P (item r c) := by
  intro s taken
  unfold item
  refine .skip fun _ => .ite ?_ (.skip fun _ => .ite ?_ ?_)
  · exact (keeps_exportItem hr).bind fun given => .pure (exprs_item_code given.1)
  · exact (keeps_importItem hr).bind fun given => .pure rfl
  · exact (keeps_statement hr).bind fun parts => .pure (by simp)

/-- What the import declarations of a module bind are names. -/
theorem gives_item :
    Gives source (fun given => ∀ declaration, given.1 = .imports declaration →
      BindsNames declaration) (item r c) := by
  unfold item
  refine .skip fun _ => .ite ?_ (.skip fun _ => .ite ?_ ?_)
  · exact (keeps_exportItem hr).gives.bind fun given _ => .pure fun declaration h => by cases h
  · exact (gives_importItem hr).bind fun given hgiven => .pure hgiven
  · exact (keeps_statement hr).gives.bind fun parts _ => .pure fun declaration h => by cases h

/-- The statements up to the end of the text. -/
theorem keeps_items : Keeps source P (items r c) := by
  unfold items
  exact .repeated (fun s taken => .skip fun _ => .ite (.pure rfl) (keeps_item hr).some) c.limit

/-- What the import declarations among them bind are names. -/
theorem gives_items :
    Gives source (fun given => ∀ pair ∈ given, ∀ declaration, pair.1 = .imports declaration →
      BindsNames declaration) (items r c) := by
  unfold items
  exact .repeated (.skip fun _ => .ite .none (gives_item hr).some) c.limit

/-! ### The whole grammar -/

omit hr in
/-- **The rules of the grammar give sound trees**, if a property of components holds of the tags
    that are read. By induction on the depth: the rules at one depth are made of those one below. -/
theorem keep_rules
    (htag : ∀ c, Gives source (fun tag => tag.isComponent = true → P tag) (tagName c)) (n : Nat) :
    (rules n).Keep source P := by
  induction n with
  | zero => exact .refusing
  -- one level more of rules, each from the rules one level down
  | succ n ih =>
    exact {
      operand := keeps_operand ih
      unary := keeps_unary ih
      leftHandSide := keeps_leftHandSide ih
      statement := keeps_anyStatement ih
      type := keeps_type ih
      binding := keeps_binding ih
      markup := keepsMarkup_element ih (htag _) }

end JsxTemplate.Grammar
