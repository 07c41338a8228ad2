import JsxTemplate.Proofs.ReadTypes

namespace JsxTemplate.Grammar

/-!
# Expressions are read soundly

There is one lemma for each rule. A rule that makes a compound expression notes where it starts, and
what it reads until the end are the parts of that expression.

* `keeps_primary`, `reads_subscripts` — literals, names, groups, and what may follow them.
* `keeps_unary`, `keeps_binary_and_binaryRest` — operators.
* `keeps_arrow?` — functions with arrows.
* `keeps_operand` — any expression without a comma at its top.
-/

variable {source : List Char} {P : TagName → Prop} {r : Rules} {c : Scope}

/-! ### Literals -/

/-- The current token is a stretch of the text. -/
theorem Cursor.IsIn.on_token {cursor : Cursor} (h : cursor.IsIn source) :
    (⟨cursor.token.start, cursor.token.stop⟩ : Span).On source :=
  ⟨h.start_le_stop, h.place.placeIn, h.after.placeIn⟩

variable (source P) in
/-- A literal that is one token. -/
theorem keeps_leaf (form : Form) : Keeps source P (leaf form) := by
  intro s taken cursor o cursor' hc heq
  cases heq
  have hsound : (Expr.compound form ⟨cursor.token.start, cursor.token.stop⟩ []).IsSound source P :=
    Expr.Within.nil.compound hc.isIn.on_token form
  exact ⟨Cursor.leads_after hc.isIn, .singleton hsound hc.start_le (Nat.le_refl _)⟩

variable (source P) in
/-- A variable. -/
theorem keeps_variableExpr : Keeps source P (variableExpr c) := by
  intro s taken cursor e cursor' hc heq
  obtain ⟨⟨name, cursor₁⟩, hread, heq⟩ := Option.bind_eq_some_iff.1 (of_current_bind heq)
  cases heq
  obtain ⟨-, hread⟩ := of_require_bind (of_current_bind hread)
  cases hread
  have hsound := Expr.isSound_name (P := P) hc.isIn.on_token cursor.token.value
  exact ⟨Cursor.leads_after hc.isIn, .singleton hsound hc.start_le (Nat.le_refl _)⟩

variable (source P) in
/-- A regular expression reaches beyond the current token. -/
theorem keeps_regex : Keeps source P regex := by
  intro s taken cursor o cursor' hc heq
  replace heq := of_current_bind heq
  dsimp only at heq
  cases hend : regexEnd false (cursor.token.text.drop 1) with
  | none =>
    rw [hend] at heq
    cases heq
  | some rest =>
    rw [hend] at heq
    obtain ⟨-, heq⟩ := of_require_bind heq
    cases heq
    -- what follows the flags is an end of the text from the slash on
    have hsuffix : rest.drop (rest.takeWhile Text.isIdentifierPart).length <:+
        cursor.token.place.rest :=
      (List.drop_suffix _ _).trans ((suffix_of_regexEnd hend).trans (List.drop_suffix 1 _))
    have hreach := Place.reaches_of_suffix hsuffix
    have hplace := hc.isIn.place.reaches hreach
    have hon : (⟨cursor.token.start, _⟩ : Span).On source :=
      ⟨hreach.offset_le, hc.isIn.place.placeIn, hplace.placeIn⟩
    have hsound : (Expr.compound .literal ⟨cursor.token.start, _⟩ []).IsSound source P :=
      Expr.Within.nil.compound hon .literal
    exact ⟨Cursor.leads_at hc.isIn hplace hreach.offset_le,
      .singleton hsound hc.start_le (Nat.le_refl _)⟩

variable (hr : r.Keep source P)

include hr

/-- The values in the holes of a template. -/
theorem keeps_templateParts (cooked : Bool) : Keeps source P (templateParts r c cooked) := by
  intro s taken
  unfold templateParts
  exact (keeps_templateLiteral hr.expression _ _).bind fun holes => .pure (by simp)

/-- A template is at least a backtick. -/
theorem takes_templateParts (cooked : Bool) {cursor cursor' : Cursor} {parts : List Part}
    (hc : cursor.IsIn source) (heq : templateParts r c cooked cursor = some (parts, cursor')) :
    cursor.token.start ≤ cursor'.before := by
  obtain ⟨⟨holes, cursor₁⟩, hholes, heq⟩ := Option.bind_eq_some_iff.1 heq
  cases heq
  have hstop := hc.start_le_stop
  obtain ⟨-, hle, -⟩ := within_templateHoles hr.expression cooked c.limit hc.after hc hstop hholes
  exact Nat.le_trans hstop hle

/-- A spread in an array or object literal. -/
theorem keeps_spreadSlot (close : String) : Keeps source P (spreadSlot r c close) := by
  intro s taken
  unfold spreadSlot
  exact hr.operand.bind fun o => .skip fun _ => .pure rfl

/-- An element of an array literal. -/
theorem keeps_arraySlot : Keeps source P (arraySlot r c) := by
  intro s taken
  unfold arraySlot
  refine .skip fun _ => .ite (.pure rfl) (.skip fun _ => .ite (keeps_spreadSlot hr "]").reads ?_)
  exact hr.operand.bind fun o => .pure rfl

/-- An array literal. -/
theorem keeps_arrayLiteral : Keeps source P (arrayLiteral r c) := by
  intro s taken
  unfold arrayLiteral
  refine .here fun start => .take fun _ => ((keeps_arraySlot hr).listed _ _).bind fun slots => ?_
  exact .enclose (by simp) (.inl rfl) fun span => .pure rfl

/-- A method of an object literal. -/
theorem keeps_objectMethod (async generator : Bool) :
    Keeps source P (objectMethod r c async generator) := by
  intro s taken
  unfold objectMethod
  refine (keeps_propertyName hr).bind fun key => ?_
  exact (keeps_functionRest hr async generator false).bind fun function => .pure (by simp)

/-- A property of an object literal. -/
theorem keeps_objectSlot : Keeps source P (objectSlot r c) := by
  intro s taken
  unfold objectSlot
  refine .skip fun t => .skip fun next => ?_
  refine .ite (.skip fun _ => (keeps_spreadSlot hr closeBrace).reads) ?_
  refine .ite (.skip fun _ => (keeps_objectMethod hr false true).reads) ?_
  refine .ite (.skip fun _ => .skip fun generator => ?_) ?_
  · exact (keeps_objectMethod hr true generator).reads
  refine .ite ?_ (.ite (keeps_objectMethod hr false false).reads (.ite ?_ ?_))
  · -- an accessor
    refine .skip fun _ => (keeps_propertyName hr).bind fun key => ?_
    exact (keeps_accessorRest hr _ false).bind fun function => .pure (by simp)
  · -- a name for itself, with a default if the object is a pattern
    refine (keeps_variableExpr source P).bind fun self => .skip fun _ => .ite ?_ (.pure rfl)
    exact hr.assignment.bind fun e => .pure rfl
  refine (keeps_propertyName hr).bind fun key => .skip fun _ => .ite ?_ (.skip fun _ => ?_)
  · exact (keeps_functionRest hr false false false).bind fun function => .pure (by simp)
  · exact hr.operand.bind fun o => .pure (by simp [Operand.slot])

/-- An object literal. -/
theorem keeps_objectLiteral : Keeps source P (objectLiteral r c) := by
  intro s taken
  unfold objectLiteral
  refine .here fun start => .take fun _ => ((keeps_objectSlot hr).listed _ _).bind fun slots => ?_
  exact .enclose (by simp) (.inl rfl) fun span => .pure rfl

/-! ### Functions, classes and groups -/

/-- A function expression. -/
theorem keeps_functionExpr : Keeps source P (functionExpr r c) := by
  intro s taken
  unfold functionExpr
  refine .here fun start => .skip fun async => .take fun _ => .skip fun generator => ?_
  refine .skip fun t => ?_
  -- with and without a name the rest is read in the same way
  have hrest : ∀ name, exprs name = [] → Reads source P start true [] (do
      let rest ← functionRest r c async generator false
      return Operand.of .function (← spanFrom start) (name ++ rest)) := by
    intro name hname
    refine (keeps_functionRest hr async generator false).bind fun rest => ?_
    exact .enclose (by simp [hname]) (.inl rfl) fun span => .pure rfl
  exact .ite (.skip fun _ => hrest _ rfl) (hrest [] rfl)

/-- A class expression. -/
theorem keeps_classExpr : Keeps source P (classExpr r c) := by
  intro s taken
  unfold classExpr
  refine .here fun start => (keeps_decorators hr).bind fun marks => .take fun _ => ?_
  refine (keeps_classRest hr).bind fun rest => ?_
  exact .enclose (by simp) (.inl rfl) fun span => .pure rfl

/-- An expression in parentheses. -/
theorem keeps_group : Keeps source P (group r c) := by
  intro s taken
  unfold group
  refine .here fun start => .take fun _ => hr.operand.bind fun first => .skip fun _ => ?_
  refine .skip fun _ => (hr.assignment.afterSigns c.limit ",").bind fun more => .skip fun _ => ?_
  exact .of_eq (by simp) (.sequence (.parenthesize fun span => .pure rfl))

/-! ### What may follow -/

/-- The arguments of a call. -/
theorem keeps_arguments : Keeps source P (arguments r c) := by
  intro s taken
  unfold arguments
  refine .skip fun _ => Keeps.reads (.listed (fun s taken => .skip fun _ => .ite ?_ ?_) _ _)
  · exact hr.assignment.bind fun e => .pure rfl
  · exact hr.assignment.bind fun e => .pure rfl

omit hr in
variable (source P) in
/-- The name after a point. -/
theorem keeps_memberName : Keeps source P memberName := by
  intro s taken
  unfold memberName
  refine .skip fun t => .skip fun _ => ?_
  cases t.kind with
  | word => exact .pure rfl
  | privateName => exact .pure rfl
  | _ => exact .refuse

/-- Type arguments of an expression. -/
theorem keeps_expressionTypes : Keeps source P (expressionTypes r c) := by
  intro s taken
  unfold expressionTypes
  exact (keeps_typeArguments hr).bind fun types => .skip fun _ => .skip fun _ => .pure rfl

/-- One step along a chain. What precedes it is the first of its parts. -/
theorem reads_subscript (noCalls : Bool) (start : Nat) (taken : Bool) (base : Operand)
    (optional : Bool) :
    Reads source P start taken [base.expr] (subscript r c noCalls start base optional) := by
  unfold subscript
  -- the ways to make a step from the parts that follow
  have haccess : ∀ parts taken, Reads source P start taken ([base.expr] ++ exprs parts) (do
      let e := Expr.compound .member (← spanFrom start) (.expr base.expr :: parts)
      return some (Operand.mk e (if optional then .none else .simple) false, optional)) :=
    fun parts taken => .enclose (by simp) (.inr (by simp)) fun span => .pure rfl
  have hmake : ∀ form parts (optional taken : Bool), Reads source P start taken
      ([base.expr] ++ exprs parts) (do
        return some (Operand.of form (← spanFrom start) (.expr base.expr :: parts), optional)) :=
    fun form parts optional taken => .enclose (by simp) (.inr (by simp)) fun span => .pure rfl
  have hcall : ∀ types (optional taken : Bool), Reads source P start taken
      ([base.expr] ++ exprs types) (do
        let parts ← arguments r c
        return some (Operand.of .call (← spanFrom start) (.expr base.expr :: (types ++ parts)),
          optional)) := by
    intro types optional taken
    exact (keeps_arguments hr).bind fun parts => .of_eq (by simp) (hmake _ (types ++ parts) _ _)
  refine .skip fun t => .ite ?_ (.ite ?_ (.ite ?_ (.ite ?_ (.ite ?_ (.ite ?_ (.ite ?_ ?_))))))
  · exact .skip fun _ => (keeps_memberName source P).bind fun parts => haccess parts _
  · -- the same steps after the sign of an optional chain
    refine .skip fun _ => .skip fun _ => .skip fun t => .ite ?_ (.ite ?_ (.ite ?_ ?_))
    · exact hcall [] true _
    · refine .skip fun _ => (keeps_computedKey hr).bind fun key => ?_
      exact .of_eq (by simp) (hmake _ [key] _ _)
    · exact (keeps_typeArguments hr).bind fun types => hcall types true _
    · exact (keeps_memberName source P).bind fun parts => hmake _ parts _ _
  · refine .skip fun _ => (keeps_computedKey hr).bind fun key => ?_
    exact .of_eq (by simp) (haccess [key] _)
  · exact hcall [] optional _
  · exact .skip fun _ => (keeps_templateParts hr false).bind fun parts => hmake _ parts _ _
  · exact .skip fun _ => .enclose (by simp) (.inr (by simp)) fun span => .pure rfl
  · -- type arguments are a guess: without them the chain ends before the sign
    refine (keeps_expressionTypes hr).attempt.bind fun given => ?_
    cases given with
    | none => exact .none
    | some types =>
      refine .skip fun t => .ite (hcall types optional _) (.ite ?_ (hmake _ types _ _))
      refine .skip fun _ => (keeps_templateParts hr false).bind fun parts => ?_
      exact .of_eq (by simp) (hmake _ (types ++ parts) _ _)
  · exact .none

/-- All steps along a chain. -/
theorem reads_subscripts (noCalls : Bool) (start n : Nat) (taken : Bool) (base : Operand)
    (optional : Bool) :
    Reads source P start taken [base.expr] (subscripts r c noCalls start n base optional) := by
  induction n generalizing base optional with
  | zero => exact .refuse
  | succ n ih =>
    unfold subscripts
    -- each round gives a new expression, which takes the place of the one before
    refine (reads_subscript hr noCalls start taken base optional).andThen fun given => ?_
    cases given with
    | none => exact .inr (.pure rfl)
    | some next => exact .inl (ih next.1 next.2)

/-! ### Primary expressions -/

/-- An import as an expression. -/
theorem keeps_importExpr : Keeps source P (importExpr r c) := by
  intro s taken
  unfold importExpr
  refine .here fun start => .take fun _ => ?_
  have hrest : ∀ {condition : List Part → Bool} (isMeta : Bool), Reads source P start true [] (do
      if isMeta then
        return Operand.of .other (← spanFrom start)
          [.name .property "import", .name .property "meta"]
      let parts ← arguments r c
      require (condition parts)
      return Operand.of .other (← spanFrom start) parts) := by
    intro condition isMeta
    refine .ite (.enclose (by simp) (.inl rfl) fun span => .pure rfl) ?_
    refine (keeps_arguments hr).bind fun parts => .skip fun _ => ?_
    exact .enclose (by simp) (.inl rfl) fun span => .pure rfl
  refine .skip fun _ => .ite (.skip fun _ => .ite ?_ ?_) ?_
  · exact .skip fun isMeta => hrest isMeta
  · exact .skip fun _ => .skip fun isMeta => hrest isMeta
  · exact .skip fun isMeta => hrest isMeta

omit hr in
variable (source P) in
/-- The keyword `super`. -/
theorem keeps_superExpr : Keeps source P superExpr := by
  intro s taken
  unfold superExpr
  refine .here fun start => .take fun _ => .skip fun _ => .skip fun _ => ?_
  exact .enclose (by simp) (.inl rfl) fun span => .pure rfl

/-- A primary expression. -/
theorem keeps_primary {construct : Reader Operand} (hconstruct : Keeps source P construct) :
    Keeps source P (primary r c construct) := by
  intro s taken
  unfold primary
  refine .current fun t => .skip fun next => ?_
  have hfunction : Keeps source P (functionExpr r c) := keeps_functionExpr hr
  -- along the kinds of tokens, as the rule decides
  cases t.kind with
  | number => exact (keeps_leaf source P .literal).reads
  | string => exact (keeps_leaf source P .string).reads
  | template =>
    refine (keeps_templateParts hr true).bindTaking (takes_templateParts hr true) fun parts => ?_
    exact .enclose (by simp) (.inl rfl) fun span => .pure rfl
  | word =>
    refine .ite (keeps_leaf source P .literal).reads (.ite (keeps_leaf source P .this).reads ?_)
    refine .ite hfunction.reads (.ite hfunction.reads ?_)
    refine .ite (keeps_classExpr hr).reads (.ite hconstruct.reads ?_)
    refine .ite (keeps_superExpr source P).reads (.ite (keeps_importExpr hr).reads ?_)
    exact (keeps_variableExpr source P).bind fun e => .pure rfl
  | punctuator =>
    refine .ite (keeps_group hr).reads (.ite (keeps_arrayLiteral hr).reads ?_)
    refine .ite (keeps_objectLiteral hr).reads (.ite (keeps_regex source P).reads ?_)
    exact .ite (keeps_classExpr hr).reads .refuse
  | _ => exact .refuse

/-- A primary expression and the steps after it. -/
theorem keeps_chain (noCalls : Bool) {construct : Reader Operand}
    (hconstruct : Keeps source P construct) : Keeps source P (chain r c noCalls construct) := by
  intro s taken
  unfold chain
  refine .here fun start => (keeps_primary hr hconstruct).bind fun base => ?_
  exact reads_subscripts hr noCalls start c.limit _ base false

/-- A construction. -/
theorem keeps_construct (n : Nat) : Keeps source P (construct r c n) := by
  induction n with
  | zero => exact fun _ _ => .refuse
  | succ n ih =>
    intro s taken
    unfold construct
    refine .here fun start => .take fun _ => .skip fun _ => .ite ?_ (.skip fun next => ?_)
    · exact .skip fun _ => .enclose (by simp) (.inl rfl) fun span => .pure rfl
    refine .skip fun _ => .skip fun _ => (keeps_chain hr true ih).bind fun callee => ?_
    refine .skip fun _ => .branch (keeps_arguments hr) rfl fun parts => ?_
    exact .enclose (by simp) (.inl rfl) fun span => .pure rfl

/-- An expression that may stand before an assignment sign. -/
theorem keeps_leftHandSide : Keeps source P (leftHandSide r c) :=
  keeps_chain hr false (keeps_construct hr c.limit)

/-! ### Operators -/

/-- Markup where a value is meant. -/
theorem keeps_markupExpr : Keeps source P (markupExpr r c) := by
  intro s taken
  unfold markupExpr
  exact .skip fun next => .skip fun _ => hr.markup.bind fun given => .pure rfl

/-- An expression with operators that take one operand. -/
theorem keeps_unary : Keeps source P (unary r c) := by
  intro s taken
  unfold unary
  refine .current fun t => ?_
  have hprefixed : ∀ condition : Operand → Bool, Reads source P t.start true [] (do
      let o ← r.unary c
      require (condition o)
      return Operand.of .other (← spanFrom t.start) [.expr o.expr]) := by
    intro condition
    refine hr.unary.bind fun o => .skip fun _ => ?_
    exact .enclose (by simp) (.inl rfl) fun span => .pure rfl
  refine .ite (.take fun _ => hprefixed _) (.ite (.take fun _ => hprefixed _) ?_)
  refine .ite (keeps_markupExpr hr).reads (.ite ?_ (.ite ?_ ?_))
  · -- a cast, written as a type between angle brackets
    refine .take fun _ => hr.type.bind fun type => .skip fun _ => hr.unary.bind fun o => ?_
    exact .enclose (by simp) (.inl rfl) fun span => .pure rfl
  · exact .skip fun _ => .skip fun _ => (keeps_leaf source P .other).reads
  · refine (keeps_leftHandSide hr).bind fun o => .skip fun next => .ite ?_ (.pure rfl)
    refine .skip fun _ => .skip fun _ => ?_
    exact .enclose (by simp) (.inr (by simp)) fun span => .pure rfl

/-- The right side of an operator and the operators after it, both at once: each bound is one less
    than that of the caller. -/
theorem keeps_binary_and_binaryRest (n : Nat) :
    (∀ least, Keeps source P (binary r c n least)) ∧
      ∀ least left last s taken,
        Reads source P s taken [left.expr] (binaryRest r c n least left last) := by
  induction n with
  | zero => exact ⟨fun _ _ _ => .refuse, fun _ _ _ _ _ => .refuse⟩
  | succ n ih =>
    obtain ⟨hbinary, hrest⟩ := ih
    refine ⟨fun least s taken => ?_, fun least left last s taken => ?_⟩
    · unfold binary
      exact .skip fun _ => (keeps_unary hr).bind fun left => hrest least left _ s taken
    · unfold binaryRest
      refine .skip fun t => .ite (.pure rfl) (.ite (.ite (.pure rfl) ?_) ?_)
      · -- a cast is a left operand again
        refine .skip fun _ => hr.type.bind fun type => ?_
        exact .encloseFrom (by simp) fun span => hrest least
          ⟨.compound .other span (.expr left.expr :: type), left.target, false⟩ .other s true
      · refine .skip fun _ => .skip fun _ => (hbinary _).bind fun right => ?_
        refine .skip fun _ => .skip fun _ => ?_
        exact .join (hrest least (joined _ left.expr right.expr) _ s taken) rfl rfl rfl

/-! ### Functions with arrows -/

/-- The body of a function after its arrow. -/
theorem keeps_arrowBody (async : Bool) : Keeps source P (arrowBody r c async) := by
  intro s taken
  unfold arrowBody
  exact .skip fun _ => .ite (keeps_block hr).reads (hr.assignment.bind fun e => .pure rfl)

/-- A function whose parameters stand in parentheses. -/
theorem keeps_arrowFunction : Keeps source P (arrowFunction r c) := by
  intro s taken
  unfold arrowFunction
  refine .here fun start => .skip fun async => (keeps_typeParameters? hr).bind fun types => ?_
  refine .skip fun _ => .skip fun _ => (keeps_parameters hr).bind fun params => .skip fun _ => ?_
  refine (keeps_resultType? hr).bind fun result => .skip fun _ => .skip fun _ => .take fun _ => ?_
  refine (keeps_arrowBody hr async).bind fun body => .skip fun _ => .skip fun _ => ?_
  exact .enclose (by simp) (.inl rfl) fun span => .pure rfl

/-- A function whose one parameter is a name, after `async`. -/
theorem keeps_asyncNameArrow? : Keeps source P (asyncNameArrow? r c) := by
  intro s taken
  unfold asyncNameArrow?
  refine .current fun t => .skip fun next => .ite (.skip fun _ => .ite ?_ .none) .none
  refine .skip fun _ => .skip fun _ => .skip fun _ => .skip fun _ => .take fun _ => ?_
  refine (keeps_arrowBody hr true).bind fun body => ?_
  exact .enclose (by simp) (.inl rfl) fun span => .pure rfl

/-- A function with an arrow, if one starts here. -/
theorem keeps_arrow? : Keeps source P (arrow? r c) := by
  intro s taken
  unfold arrow?
  refine .skip fun guess => ?_
  cases guess with
  | yes => exact (keeps_arrowFunction hr).some
  | maybe => exact (keeps_arrowFunction hr).attempt.reads
  | no => exact (keeps_asyncNameArrow? hr).reads

/-! ### Assignments -/

/-- The keyword `yield`. -/
theorem keeps_yieldExpr : Keeps source P (yieldExpr r c) := by
  intro s taken
  unfold yieldExpr
  refine .here fun start => .take fun _ => .skip fun t => ?_
  -- the value is read after a star and without one
  have hvalue : Reads source P start true [] (do
      let e ← r.assignment c
      return Operand.of .other (← spanFrom start) [.expr e]) :=
    hr.assignment.bind fun e => .enclose (by simp) (.inl rfl) fun span => .pure rfl
  refine .ite (.skip fun _ => hvalue) (.ite ?_ hvalue)
  exact .enclose (by simp) (.inl rfl) fun span => .pure rfl

/-- The rest of a conditional expression. -/
theorem reads_conditionalRest (test : Operand) (s : Nat) (taken : Bool) :
    Reads source P s taken [test.expr] (conditionalRest r c test) := by
  unfold conditionalRest
  refine .skip fun _ => .ite (.pure rfl) (.skip fun _ => .skip fun _ => ?_)
  refine hr.assignment.bind fun yes => .skip fun _ => hr.assignment.bind fun no => ?_
  exact .join (.pure rfl) rfl rfl rfl

/-- Any expression without a comma at its top. -/
theorem keeps_operand : Keeps source P (operand r c) := by
  intro s taken
  unfold operand
  refine .skip fun _ => .ite (keeps_yieldExpr hr).reads ((keeps_arrow? hr).bind fun given => ?_)
  cases given with
  | some o => exact .pure rfl
  | none =>
    refine ((keeps_binary_and_binaryRest hr _).1 0).bind fun left => .skip fun t => ?_
    have hrest : Reads source P s taken [left.expr] (do
        if operatorOf t == "=" then
          require (left.target == .simple || left.target == .pattern)
          takeOperator
          let right ← r.assignment c
          let e := Expr.compound .other ⟨left.expr.span.start, right.span.stop⟩
            [.expr left.expr, .expr right]
          return Operand.mk e .withDefault false
        if updateSigns.contains (operatorOf t) then
          require (left.target == .simple)
          takeOperator
          let right ← r.assignment c
          return joined .other left.expr right
        conditionalRest r c left) := by
      refine .ite ?_ (.ite ?_ (reads_conditionalRest hr left s taken))
      · refine .skip fun _ => .skip fun _ => hr.assignment.bind fun right => ?_
        exact .join (.pure rfl) rfl rfl rfl
      · refine .skip fun _ => .skip fun _ => hr.assignment.bind fun right => ?_
        exact .join (.pure rfl) rfl rfl rfl
    -- a single name may be the parameter of an arrow
    split
    next span text hname =>
      refine .ite (.skip fun _ => .skip fun _ => ?_) hrest
      refine (keeps_arrowBody hr false).bind fun body => ?_
      have hes : exprs left ++ exprs body = .name span text :: exprs body := by simp [hname]
      exact .of_eq hes (.encloseFrom (by simp) fun _ => .pure rfl)
    · exact hrest

end JsxTemplate.Grammar
