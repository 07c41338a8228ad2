import JsxTemplate.Proofs.ReadExpressions

namespace JsxTemplate.Grammar

/-!
# Statements are read soundly

There is one lemma for each rule. Statements leave nothing in the tree but the parts that stand in
them, in the order of the text.

* `keeps_declarators` — the declarators of a declaration.
* `keeps_declaration?` — what declares something.
* `keeps_keywordStatement?` — the statements with a keyword of their own.
* `keeps_statement` — any statement but an import or an export.
-/

variable {source : List Char} {P : TagName → Prop} {r : Rules} (hr : r.Keep source P) {c : Scope}

include hr

/-! ### Variables -/

/-- A declarator. -/
theorem keeps_declarator (constant : Bool) : Keeps source P (declarator r c constant) := by
  intro s taken
  unfold declarator
  refine .skip fun _ => hr.binding.bind fun parts => .optionally ?_
  refine (keeps_typeOf? hr).bind fun type => .skip fun _ => .ite ?_ (.pure (by simp))
  exact hr.assignment.bind fun e => .pure (by simp)

/-- The declarators of a declaration. -/
theorem keeps_declarators (constant : Bool) (isLoop : Reader Bool) [Steady isLoop] :
    Keeps source P (declarators r c constant isLoop) := by
  intro s taken
  unfold declarators
  refine (keeps_declarator hr constant).bind fun first => ?_
  refine ((keeps_declarator hr constant).afterSigns c.limit ",").bind fun more => ?_
  exact .skip fun _ => .skip fun _ => .pure (exprs_flatMap_fst (first :: more))

/-- The declarators of a declaration that is a statement. -/
theorem keeps_declarations (constant : Bool) : Keeps source P (declarations r c constant) :=
  keeps_declarators hr constant (pure false)

/-! ### Declarations -/

/-- A function declaration. -/
theorem keeps_functionDeclaration (needsName : Bool) :
    Keeps source P (functionDeclaration r c needsName) := by
  intro s taken
  unfold functionDeclaration
  refine .skip fun async => .skip fun _ => .skip fun generator => .skip fun t => ?_
  have hrest : ∀ name, exprs name = [] → Reads source P s taken [] (do
      let rest ← functionRest r c async generator true
      return [Part.function (name ++ rest)]) := by
    intro name hname
    refine (keeps_functionRest hr async generator true).bind fun rest => .pure ?_
    simp [hname]
  exact .ite (.skip fun _ => hrest _ rfl) (.skip fun _ => hrest [] rfl)

/-- A class declaration. -/
theorem keeps_classDeclaration (needsName : Bool) :
    Keeps source P (classDeclaration r c needsName) := by
  intro s taken
  unfold classDeclaration
  refine (keeps_decorators hr).bind fun marks => .optionally (.skip fun _ => ?_)
  exact .skip fun _ => .skip fun _ => (keeps_classRest hr).bind fun rest => .pure (by simp)

/-- An interface after its keyword. -/
theorem keeps_interfaceRest : Keeps source P (interfaceRest r c) := by
  intro s taken
  unfold interfaceRest
  refine .skip fun name => (keeps_typeParameters? hr).bind fun types => .skip fun _ => ?_
  refine .branch ((keeps_base hr).commaSeparated c.limit) rfl fun bases => ?_
  exact (keeps_typeMembers hr).bind fun members => .pure (by simp)

/-- A type alias after its keyword. -/
theorem keeps_aliasRest : Keeps source P (aliasRest r c) := by
  intro s taken
  unfold aliasRest
  refine .skip fun name => (keeps_typeParameters? hr).bind fun types => .skip fun _ => ?_
  exact hr.type.bind fun type => .skip fun _ => .pure (by simp)

/-- An enum after its keyword. -/
theorem keeps_enumRest : Keeps source P (enumRest r c) := by
  intro s taken
  unfold enumRest
  refine .skip fun name => .skip fun _ => ?_
  refine Keeps.bind (.listed (fun s taken => ?_) _ _) fun members => ?_
  · refine (keeps_propertyName hr).bind fun key => ?_
    exact (keeps_defaultOf? hr).bind fun value => .pure (by simp)
  · exact .pure (by simp)

/-- A namespace or a module after its keyword. -/
theorem keeps_namespaceRest : Keeps source P (namespaceRest r c) := by
  intro s taken
  unfold namespaceRest
  refine .skip fun _ => .ite (.skip fun _ => .skip fun _ => .ite (keeps_block hr).reads ?_) ?_
  · exact .skip fun _ => .pure rfl
  · refine .skip fun name => Keeps.bind (.repeated (fun s taken => ?_) _) fun path => ?_
    · exact .skip fun _ => .ite (.skip fun _ => .pure rfl) (.pure rfl)
    · exact (keeps_block hr).bind fun body => .pure (by simp)

/-- A declaration of the typed language. -/
theorem keeps_typedDeclaration? : Keeps source P (typedDeclaration? r c) := by
  intro s taken
  unfold typedDeclaration?
  refine .skip fun t => .skip fun next => .ite (.pure rfl) ?_
  refine .ite (.skip fun _ => (keeps_interfaceRest hr).some) ?_
  refine .ite (.skip fun _ => (keeps_aliasRest hr).some) ?_
  refine .ite (.skip fun _ => (keeps_enumRest hr).some) ?_
  refine .ite (.skip fun _ => .skip fun _ => (keeps_enumRest hr).some) ?_
  refine .ite (.skip fun _ => (keeps_namespaceRest hr).some) ?_
  refine .ite (.skip fun _ => (keeps_block hr).some) ?_
  refine .ite (keeps_classDeclaration hr true).some ?_
  exact .ite (.ite (.skip fun _ => hr.statement.some) (.pure rfl)) (.pure rfl)

/-- A declaration other than of variables. -/
theorem keeps_declaration? : Keeps source P (declaration? r c) := by
  intro s taken
  unfold declaration?
  have hfunction : Keeps source P (functionDeclaration r c true) :=
    keeps_functionDeclaration hr true
  refine .skip fun t => .skip fun next => .ite hfunction.some (.ite hfunction.some ?_)
  exact .ite (keeps_classDeclaration hr true).some (keeps_typedDeclaration? hr).reads

/-! ### Statements with keywords -/

/-- A statement where only a plain function may be declared. -/
theorem keeps_embedded : Keeps source P (embedded r c) := by
  intro s taken
  unfold embedded
  refine .skip fun _ => .skip fun _ => .skip fun _ => .skip fun _ => ?_
  exact .skip fun _ => .skip fun _ => hr.statement.reads

/-- An expression in parentheses after a keyword. -/
theorem keeps_condition : Keeps source P (condition r c) := by
  intro s taken
  unfold condition
  exact .skip fun _ => hr.expression.bind fun e => .skip fun _ => .pure rfl

/-- What follows the first part of a `for` head. -/
theorem reads_forRest (first : List Part) (s : Nat) (taken : Bool) :
    Reads source P s taken (exprs first) (forRest r c first) := by
  unfold forRest
  refine .skip fun _ => .ite ?_ (.skip fun _ => .ite ?_ (.skip fun _ => .skip fun _ => ?_))
  · exact hr.assignment.bind fun e => .pure (by simp)
  · exact hr.expression.bind fun e => .pure (by simp)
  -- the test of the loop may be left out, and its update too
  have hupdate : ∀ test, Reads source P s taken (exprs first ++ exprs test) (do
      expect ";"
      let update ← if ← atSign ")" then pure [] else pure [Part.expr (← r.expression c.grouped)]
      return first ++ test ++ update) := by
    intro test
    refine .skip fun _ => .skip fun _ => .ite (.pure (by simp)) ?_
    exact hr.expression.bind fun e => .pure (by simp)
  exact .ite (.of_eq (by simp) (hupdate [])) (hr.expression.bind fun e => hupdate [.expr e])

/-- The first part of a `for` head that is no declaration. -/
theorem keeps_forInitial (waits : Bool) : Keeps source P (forInitial r c waits) := by
  intro s taken
  unfold forInitial
  refine .skip fun _ => .ite (.pure rfl) (.skip fun t => .skip fun next => ?_)
  refine hr.operand.bind fun o => .skip fun _ => .ite ?_ (.skip fun _ => ?_)
  · exact .skip fun _ => .skip fun _ => .skip fun _ => .pure rfl
  refine Keeps.bind (.repeated (fun s taken => ?_) _) fun more => ?_
  · exact .skip fun _ => .ite (hr.assignment.bind fun e => .pure rfl) (.pure rfl)
  · exact .skip fun _ => .skip fun _ => .pure (by simp)

/-- A `for` statement after its keyword. -/
theorem keeps_forStatement : Keeps source P (forStatement r c) := by
  intro s taken
  unfold forStatement
  refine .skip fun waits => .skip fun _ => .skip fun _ => .skip fun keyword => ?_
  -- after the first part of the head all loops go on in the same way
  have hrest : ∀ first, Reads source P s taken (exprs first) (do
      require (!waits || (← atWord "of"))
      let rest ← forRest r c first
      expect ")"
      return rest ++ (← embedded r c)) := by
    intro first
    refine .skip fun _ => .skip fun _ => ?_
    refine (reads_forRest hr first s taken).andThen fun rest => .inl ?_
    exact .skip fun _ => (keeps_embedded hr).bind fun body => .pure (by simp)
  cases keyword with
  | some constant => exact (keeps_declarators hr constant atLoopWord).bind hrest
  | none => exact (keeps_forInitial hr waits).bind hrest

/-- An `if` statement after its keyword. -/
theorem keeps_ifStatement : Keeps source P (ifStatement r c) := by
  intro s taken
  unfold ifStatement
  refine (keeps_condition hr).bind fun test => (keeps_embedded hr).bind fun yes => ?_
  exact .skip fun _ => .branch (keeps_embedded hr) rfl fun no => .pure (by simp)

/-- A `switch` statement after its keyword. -/
theorem keeps_switchStatement : Keeps source P (switchStatement r c) := by
  intro s taken
  unfold switchStatement
  -- what follows the colon is the same for both kinds of labels
  have hbody : ∀ label s taken, Reads source P s taken (exprs label) (do
      expect ":"
      let body ← repeated c.limit do
        let t ← current
        if t.isSign closeBrace || t.isWordOf ["case", "default"] then return none
        return some (← r.statement c)
      return some (label ++ body.flatten)) := by
    intro label s taken
    refine .skip fun _ => Keeps.bind (.repeated (fun s taken => ?_) _) fun body => .pure (by simp)
    exact .skip fun _ => .ite (.pure rfl) hr.statement.some
  refine (keeps_condition hr).bind fun subject => .skip fun _ => ?_
  refine Keeps.bind (.repeated (fun s taken => ?_) _) fun cases => .skip fun _ => .pure (by simp)
  refine .skip fun _ => .ite (.pure rfl) (.skip fun _ => .ite (hbody [] s taken) ?_)
  refine .skip fun _ => ?_
  exact hr.expression.bind fun e => hbody [.expr e] s taken

/-- A `try` statement after its keyword. -/
theorem keeps_tryStatement : Keeps source P (tryStatement r c) := by
  intro s taken
  unfold tryStatement
  refine (keeps_block hr).bind fun body => .skip fun caught => ?_
  -- the last block may be missing, and so may the handler
  have hrest : ∀ handler, Reads source P s taken (exprs body ++ exprs handler) (do
      let last ← acceptWord "finally"
      require (caught || last)
      let cleanup ← if last then block r c else pure []
      return body ++ handler ++ cleanup) := by
    intro handler
    refine .skip fun last => .skip fun _ => ?_
    exact .branch (keeps_block hr) rfl fun cleanup => .pure (by simp)
  refine .ite (.skip fun _ => .ite ?_ ?_) (.of_eq (by simp) (hrest []))
  · refine hr.binding.bind fun parts => (keeps_typeOf? hr).bind fun type => .skip fun _ => ?_
    refine .given ((keeps_block hr).bind fun handler => ?_)
    exact .of_eq (by simp) (hrest (parts ++ type ++ handler))
  · exact .given ((keeps_block hr).bind fun handler => hrest handler)

omit hr in
variable (source P) in
/-- The label after `break` or `continue`. -/
theorem keeps_jump : Keeps source P (jump c) := by
  intro s taken
  unfold jump
  refine .skip fun _ => .skip fun _ => .ite ?_ ?_
  · exact .skip fun _ => .given (.skip fun _ => .pure rfl)
  · exact .given (.skip fun _ => .pure rfl)

/-- The value after `return`. -/
theorem keeps_returnStatement : Keeps source P (returnStatement r c) := by
  intro s taken
  unfold returnStatement
  refine .skip fun _ => .skip fun t => .ite (.given (.skip fun _ => .pure rfl)) ?_
  exact hr.expression.bind fun e => .given (.skip fun _ => .pure rfl)

/-- An expression as a statement. -/
theorem keeps_expressionStatement : Keeps source P (expressionStatement r c) := by
  intro s taken
  unfold expressionStatement
  exact hr.expression.bind fun e => .skip fun _ => .pure rfl

/-- The statement that a keyword starts. -/
theorem keeps_keywordStatement? : Keeps source P (keywordStatement? r c) := by
  intro s taken
  unfold keywordStatement?
  have hguarded : Reads source P s taken [] (do
      let test ← condition r c
      return some (test :: (← embedded r c))) :=
    (keeps_condition hr).bind fun test => (keeps_embedded hr).bind fun body => .pure rfl
  refine .skip fun t => .ite (.pure rfl) ?_
  -- one case for each keyword
  split
  · exact .skip fun _ => (keeps_ifStatement hr).some
  · exact .skip fun _ => (keeps_forStatement hr).some
  · exact .skip fun _ => hguarded
  · refine .skip fun _ => (keeps_embedded hr).bind fun body => .skip fun _ => ?_
    exact (keeps_condition hr).bind fun test => .skip fun _ => .pure (by simp)
  · exact .skip fun _ => (keeps_switchStatement hr).some
  · exact .skip fun _ => (keeps_tryStatement hr).some
  · exact .skip fun _ => hguarded
  · exact .skip fun _ => (keeps_jump source P).some
  · exact .skip fun _ => (keeps_jump source P).some
  · exact .skip fun _ => (keeps_returnStatement hr).some
  · exact .skip fun _ => .skip fun _ => .skip fun _ => (keeps_expressionStatement hr).some
  · exact .skip fun _ => .skip fun _ => .pure rfl
  · exact .pure rfl

/-- Any statement but an import or an export. -/
theorem keeps_statement : Keeps source P (statement r c) := by
  intro s taken
  unfold statement
  refine .skip fun t => .skip fun next => .ite (keeps_block hr).reads (.ite ?_ ?_)
  · exact .skip fun _ => .pure rfl
  refine .skip fun keyword => ?_
  cases keyword with
  | some constant =>
    exact (keeps_declarations hr constant).bind fun parts => .skip fun _ => .pure rfl
  | none =>
    refine (keeps_keywordStatement? hr).bind fun given => ?_
    cases given with
    | some parts => exact .pure rfl
    | none =>
      refine (keeps_declaration? hr).bind fun declared => ?_
      cases declared with
      | some parts => exact .pure rfl
      | none =>
        refine .ite (.skip fun _ => .skip fun _ => ?_) (keeps_expressionStatement hr).reads
        exact (keeps_embedded hr).bind fun body => .pure rfl

end JsxTemplate.Grammar
