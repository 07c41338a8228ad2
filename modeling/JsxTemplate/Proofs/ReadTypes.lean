import JsxTemplate.Proofs.Reading

namespace JsxTemplate.Grammar

/-!
# Patterns, types, functions and classes are read soundly

Each rule of the grammar gives sound trees if the rules that it refers to do. There is one lemma for
each rule, and its proof goes along the rule: what holds no expressions is skipped, and what is read
is sound by the lemma about its own rule.

* `keeps_binding`, `keeps_parameters` — what a declaration binds.
* `keeps_type` — any type.
* `keeps_functionRest`, `keeps_classRest` — functions and classes.
-/

variable {source : List Char} {P : TagName → Prop} {r : Rules} (hr : r.Keep source P) {c : Scope}

include hr

/-! ### Patterns -/

/-- A stated type. -/
theorem keeps_typeOf? : Keeps source P (typeOf? r c) := by
  intro s taken
  unfold typeOf?
  exact .skip fun _ => .ite (.skip fun _ => hr.type.reads) (.pure rfl)

/-- A default. -/
theorem keeps_defaultOf? : Keeps source P (defaultOf? r c) := by
  intro s taken
  unfold defaultOf?
  exact .skip fun _ => .ite (hr.assignment.bind fun e => .pure rfl) (.pure rfl)

/-- A computed key. -/
theorem keeps_computedKey : Keeps source P (computedKey r c) := by
  intro s taken
  unfold computedKey
  exact hr.expression.bind fun e => .skip fun _ => .pure rfl

/-- The key of a property. -/
theorem keeps_propertyName : Keeps source P (propertyName r c) := by
  intro s taken
  unfold propertyName
  refine .skip fun t => ?_
  -- of the kinds of tokens, only a bracket opens something with a tree of its own
  cases t.kind with
  | punctuator => exact .skip fun _ => (keeps_computedKey hr).bind fun part => .pure (by simp)
  | word => exact .skip fun _ => .pure rfl
  | string => exact .skip fun _ => .pure rfl
  | number => exact .skip fun _ => .pure rfl
  | privateName => exact .skip fun _ => .pure rfl
  | _ => exact .refuse

/-- An element of an array pattern. -/
theorem keeps_arrayElement : Keeps source P (arrayElement r c) := by
  intro s taken
  unfold arrayElement
  refine .skip fun _ => .ite (.pure rfl) (.skip fun _ => .ite ?_ ?_)
  · exact hr.binding.bind fun parts => .skip fun _ => .skip fun _ => .pure rfl
  · exact hr.binding.bind fun parts => (keeps_defaultOf? hr).bind fun value => .pure (by simp)

/-- A property of an object pattern. -/
theorem keeps_patternProperty : Keeps source P (patternProperty r c) := by
  intro s taken
  unfold patternProperty
  refine .skip fun _ => .ite ?_ (.skip fun t => .skip fun next => .ite ?_ ?_)
  · exact .skip fun _ => .skip fun _ => .skip fun _ => .pure rfl
  · exact .skip fun _ => (keeps_defaultOf? hr).bind fun value => .pure (by simp)
  · refine (keeps_propertyName hr).bind fun key => .skip fun _ => hr.binding.bind fun parts => ?_
    exact (keeps_defaultOf? hr).bind fun value => .pure (by simp)

/-- A name or a pattern to bind. -/
theorem keeps_binding : Keeps source P (binding r c) := by
  intro s taken
  unfold binding
  refine .skip fun _ => .ite ?_ (.skip fun _ => .ite ?_ ?_)
  · exact ((keeps_arrayElement hr).listed _ _).bind fun lists => .pure (by simp)
  · exact ((keeps_patternProperty hr).listed _ _).bind fun lists => .pure (by simp)
  · exact .skip fun _ => .pure rfl

/-- Decorators. -/
theorem keeps_decorators : Keeps source P (decorators r c) := by
  unfold decorators
  refine .repeated (fun s taken => .skip fun _ => .ite ?_ (.pure rfl)) _
  exact hr.leftHandSide.bind fun o => .pure rfl

/-- A parameter. -/
theorem keeps_parameter : Keeps source P (parameter r c) := by
  intro s taken
  unfold parameter
  refine (keeps_decorators hr).bind fun marks => .skip fun _ => .skip fun _ => .ite ?_ ?_
  · -- the type of `this`, which is no parameter
    exact .skip fun _ => (keeps_typeOf? hr).bind fun type => .pure (by simp)
  refine .skip fun _ => .ite ?_ ?_
  · -- the rest of the arguments
    refine hr.binding.bind fun parts => (keeps_typeOf? hr).bind fun type => ?_
    exact .skip fun _ => .skip fun _ => .pure (by simp)
  · refine hr.binding.bind fun parts => .optionally ?_
    refine (keeps_typeOf? hr).bind fun type => (keeps_defaultOf? hr).bind fun value => ?_
    exact .pure (by simp)

/-- The parameters of a function. -/
theorem keeps_parameters : Keeps source P (parameters r c) := by
  intro s taken
  unfold parameters
  exact .skip fun _ => ((keeps_parameter hr).listed _ _).bind fun lists => .pure (by simp)

/-! ### Lists between angle brackets -/

/-- Type arguments. -/
theorem keeps_typeArguments : Keeps source P (typeArguments r c) := by
  intro s taken
  unfold typeArguments
  refine .skip fun _ => .skip fun _ => hr.type.bind fun first => ?_
  exact (hr.type.afterSigns _ ",").bind fun more => .skip fun _ => .pure (by simp)

/-- Type arguments, if they stand here. -/
theorem keeps_typeArguments? : Keeps source P (typeArguments? r c) := by
  intro s taken
  unfold typeArguments?
  exact .skip fun _ => .skip fun _ => .ite (keeps_typeArguments hr).reads (.pure rfl)

/-- A type parameter with its bound and its default. -/
theorem keeps_typeParameter : Keeps source P (typeParameter r c) := by
  intro s taken
  unfold typeParameter
  refine .skip fun _ => .skip fun name => .skip fun _ => ?_
  refine .branch hr.type rfl fun bound => .skip fun _ => ?_
  exact .branch hr.type rfl fun value => .pure (by simp)

/-- The type parameters of a declaration. -/
theorem keeps_typeParameters? : Keeps source P (typeParameters? r c) := by
  intro s taken
  unfold typeParameters?
  refine .skip fun _ => .ite ?_ (.pure rfl)
  refine .skip fun _ => ((keeps_typeParameter hr).listed _ _).bind fun lists => ?_
  exact .skip fun _ => .pure (by simp)

/-! ### Small types -/

/-- A type, or a predicate. -/
theorem keeps_typeOrPredicate : Keeps source P (typeOrPredicate r c) := by
  intro s taken
  unfold typeOrPredicate
  refine .skip fun t => .skip fun _ => .ite ?_ hr.type.reads
  refine .skip fun _ => .skip fun _ => hr.type.bind fun type => .pure ?_
  split
  · simp
  · simp

/-- The type of a result. -/
theorem keeps_resultType? : Keeps source P (resultType? r c) := by
  intro s taken
  unfold resultType?
  exact .skip fun _ => .ite (.skip fun _ => (keeps_typeOrPredicate hr).reads) (.pure rfl)

omit hr in
variable (source P) in
/-- The rest of a dotted name holds no expressions. -/
theorem keeps_qualifiers : Keeps source P (qualifiers c) := by
  unfold qualifiers
  exact .repeated (fun s taken => .skip fun _ => .ite (.skip fun _ => .pure rfl) (.pure rfl)) _

/-- A named type. -/
theorem keeps_typeReference : Keeps source P (typeReference r c) := by
  intro s taken
  unfold typeReference
  refine .skip fun name => (keeps_qualifiers source P).bind fun path => ?_
  exact (keeps_typeArguments? hr).bind fun types => .pure (by simp)

omit hr in
/-- The holes of a template are what the reader for them gives, from the backtick on. -/
theorem within_templateHoles {α : Type} [HasExprs α] {p : Reader α} (hp : Keeps source P p)
    (cooked : Bool) (n : Nat) {place : Place} (hplace : place.IsIn source) {cursor cursor' : Cursor}
    (hcursor : cursor.IsIn source) (hle : cursor.token.start ≤ place.offset) {as : List α}
    (heq : templateHoles p cooked n place cursor = some (as, cursor')) :
    cursor.Leads source cursor' ∧ place.offset ≤ cursor'.before ∧
      Expr.Within source P place.offset cursor'.before (exprs as) := by
  induction n generalizing place cursor as with
  | zero => cases heq
  | succ n ih =>
    unfold templateHoles at heq
    cases hread : Chunk.read place.rest with
    | none =>
      rw [hread] at heq
      cases heq
    | some chunk =>
      obtain ⟨raw, stop, rest⟩ := chunk
      rw [hread] at heq
      have hnext := Place.reaches_of_read hread
      have hin := hplace.reaches hnext
      have hopen := Cursor.leads_at hcursor hin (Nat.le_trans hle hnext.offset_le)
      cases stop with
      | literal =>
        obtain ⟨-, heq⟩ := of_require_bind heq
        cases heq
        exact ⟨hopen, hnext.offset_le, .nil⟩
      | hole =>
        obtain ⟨-, heq⟩ := of_require_bind heq
        obtain ⟨⟨a, c₁⟩, hread, heq⟩ := Option.bind_eq_some_iff.1 heq
        obtain ⟨-, heq⟩ := of_require_bind (of_current_bind heq)
        obtain ⟨⟨more, c₂⟩, hmore, heq⟩ := Option.bind_eq_some_iff.1 heq
        cases heq
        -- what is in the hole lies between the two braces, and the next piece starts at the second
        obtain ⟨hlead, hwithin⟩ := hp _ _ _ a c₁ (.start hopen.isIn) hread
        have hfirst := hwithin.mono hopen.isIn.before_le (Nat.le_refl _)
        have hclose := hlead.isIn.start_le_stop
        obtain ⟨hlead', hstop, hrest⟩ := ih hlead.isIn.after hlead.isIn hclose hmore
        have hgap := Nat.le_trans hlead.isIn.before_le hclose
        have hfull := hfirst.append hrest (Nat.le_trans hlead.before_le hgap) hgap
          (Nat.le_trans hgap hstop)
        exact ⟨hopen.trans (hlead.trans hlead'),
          Nat.le_trans hnext.offset_le (Nat.le_trans hlead.before_le hlead'.before_le),
          hfull.mono hnext.offset_le (Nat.le_refl _)⟩

omit hr in
/-- A template is read from its backtick on. -/
theorem keeps_templateLiteral {α : Type} [HasExprs α] {p : Reader α} (hp : Keeps source P p)
    (cooked : Bool) (limit : Nat) : Keeps source P (templateLiteral p cooked limit) := by
  intro s taken c as c' hc heq
  have hstop := hc.isIn.start_le_stop
  obtain ⟨hlead, -, hwithin⟩ := within_templateHoles hp cooked limit hc.isIn.after hc.isIn hstop heq
  exact ⟨hlead, hwithin.mono (Nat.le_trans hc.start_le hstop) (Nat.le_refl _)⟩

/-! ### Object types -/

/-- An index signature. -/
theorem keeps_indexSignature : Keeps source P (indexSignature r c) := by
  intro s taken
  unfold indexSignature
  refine .skip fun _ => .skip fun _ => (keeps_typeOf? hr).bind fun key => .skip fun _ => ?_
  exact (keeps_typeOf? hr).bind fun type => .pure (by simp)

/-- The parameters and the result of a signature. -/
theorem keeps_signature : Keeps source P (signature r c) := by
  intro s taken
  unfold signature
  refine (keeps_typeParameters? hr).bind fun types => (keeps_parameters hr).bind fun params => ?_
  exact (keeps_resultType? hr).bind fun result => .pure (by simp)

/-- A member of an object type. -/
theorem keeps_typeMember : Keeps source P (typeMember r c) := by
  intro s taken
  unfold typeMember
  refine .skip fun t => .skip fun next => .ite (keeps_signature hr).reads (.ite ?_ ?_)
  · exact .skip fun _ => (keeps_signature hr).reads
  refine .skip fun _ => .skip fun _ => .ite (keeps_indexSignature hr).reads ?_
  refine (keeps_propertyName hr).bind fun key => .skip fun _ => .skip fun _ => .ite ?_ ?_
  · exact (keeps_signature hr).bind fun parts => .pure (by simp)
  · exact (keeps_typeOf? hr).bind fun type => .pure (by simp)

/-- The members of an object type. -/
theorem keeps_typeMembers : Keeps source P (typeMembers r c) := by
  intro s taken
  unfold typeMembers
  refine .skip fun _ => Keeps.bind (.repeated (fun s taken => ?_) _) fun members => ?_
  · refine .skip fun _ => .ite (.pure rfl) ?_
    refine (keeps_typeMember hr).bind fun parts => .skip fun _ => ?_
    exact .ite (.skip fun _ => .pure rfl) (.skip fun _ => .pure rfl)
  · exact .skip fun _ => .pure (by simp)

/-- A mapped type. -/
theorem keeps_mappedType : Keeps source P (mappedType r c) := by
  intro s taken
  unfold mappedType
  refine .skip fun _ => .skip fun _ => .optionally ?_
  refine .skip fun _ => .skip fun _ => .skip fun name => .skip fun _ => ?_
  refine hr.type.bind fun keys => .skip fun _ => ?_
  refine .branch hr.type rfl fun renamed => .skip fun _ => .skip fun _ => ?_
  -- the sign for optional members comes with or without another one before it
  suffices hrest : Reads source P s taken ([] ++ exprs keys ++ exprs renamed) (do
      let value ← typeOf? r { c with conditionalTypes := true }
      if !(← accept ";") then
        let _ ← accept ","
      expect closeBrace
      return Part.name .typeBinding name :: keys ++ renamed ++ value) from
    .ite (.skip fun _ => .skip fun _ => hrest) (.skip fun _ => hrest)
  refine (keeps_typeOf? hr).bind fun value => .skip fun _ => .optionally ?_
  exact .skip fun _ => .pure (by simp)

/-! ### Compound types -/

/-- An element of a tuple type. -/
theorem keeps_tupleElement : Keeps source P (tupleElement r c) := by
  intro s taken
  unfold tupleElement
  refine .skip fun _ => .skip fun _ => .ite ?_ ?_
  · refine .skip fun label => .skip fun _ => .skip fun _ => ?_
    exact hr.type.bind fun type => .pure (by simp)
  · exact hr.type.bind fun parts => .skip fun _ => .pure rfl

/-- A function type. -/
theorem keeps_functionType : Keeps source P (functionType r c) := by
  intro s taken
  unfold functionType
  refine (keeps_typeParameters? hr).bind fun types => (keeps_parameters hr).bind fun params => ?_
  exact .skip fun _ => (keeps_typeOrPredicate hr).bind fun result => .pure (by simp)

/-- An imported type. -/
theorem keeps_importType : Keeps source P (importType r c) := by
  intro s taken
  unfold importType
  refine .skip fun _ => .skip fun _ => hr.type.bind fun module => .skip fun _ => ?_
  -- the attributes may be left out, before a comma or without it
  have hrest : ∀ attributes, Reads source P s taken (exprs module ++ exprs attributes) (do
      let _ ← accept ","
      expect ")"
      let path ← qualifiers c
      return module ++ attributes ++ path ++ (← typeArguments? r c)) := by
    intro attributes
    refine .skip fun _ => .skip fun _ => (keeps_qualifiers source P).bind fun path => ?_
    exact (keeps_typeArguments? hr).bind fun types => .pure (by simp)
  refine .ite (.skip fun _ => .ite ?_ ?_) ?_
  · exact .of_eq (by simp) (hrest [])
  · exact hr.assignment.bind fun e => hrest [.expr e]
  · exact .of_eq (by simp) (hrest [])

/-- The type of a variable. -/
theorem keeps_typeQuery : Keeps source P (typeQuery r c) := by
  intro s taken
  unfold typeQuery
  refine .skip fun _ => .ite (keeps_importType hr).reads (.skip fun _ => ?_)
  -- the root of the chain holds no expression, be it an import or a name
  have hrest : ∀ root, exprs root = [] → Reads source P s taken [] (do
      let path ← qualifiers c
      return root ++ path ++ (← typeArguments? r c)) := by
    intro root hroot
    refine (keeps_qualifiers source P).bind fun path => ?_
    exact (keeps_typeArguments? hr).bind fun types => .pure (by simp [hroot])
  exact .ite (hrest [] rfl) (.skip fun _ => hrest _ rfl)

/-- An assertion. -/
theorem keeps_assertion : Keeps source P (assertion r c) := by
  intro s taken
  unfold assertion
  refine .skip fun _ => .skip fun _ => ?_
  have hrest : ∀ subject, exprs subject = [] → Reads source P s taken [] (do
      if ← acceptWord "is" then return subject ++ (← r.type c)
      return subject) := by
    intro subject hsubject
    refine .skip fun _ => .ite ?_ (.pure hsubject)
    exact hr.type.bind fun type => .pure (by simp [hsubject])
  exact .ite (hrest [] rfl) (.skip fun _ => hrest _ rfl)

/-- A type that no operator stands around. -/
theorem keeps_primaryType : Keeps source P (primaryType r c) := by
  intro s taken
  unfold primaryType
  refine .skip fun t => .skip fun next => ?_
  cases t.kind with
  | string => exact .skip fun _ => .pure rfl
  | number => exact .skip fun _ => .pure rfl
  | template => exact (keeps_templateLiteral hr.type _ _).bind fun lists => .pure (by simp)
  | word =>
    refine .ite (.skip fun _ => .pure rfl) ?_
    -- `this`, `typeof`, `import`, `const` and `asserts`, and names
    refine .ite ?_ (.ite ?_ (.ite ?_ (.ite ?_ (.ite ?_ ?_))))
    · refine .skip fun _ => .skip fun _ => .skip fun _ => .ite ?_ (.pure rfl)
      exact .skip fun _ => hr.type.reads
    · exact .skip fun _ => (keeps_typeQuery hr).reads
    · exact (keeps_importType hr).reads
    · exact .skip fun _ => .pure rfl
    · exact (keeps_assertion hr).reads
    · exact (keeps_typeReference hr).reads
  | punctuator =>
    -- negative numbers, tuples, braces and parentheses
    refine .ite ?_ (.ite ?_ (.ite ?_ ?_))
    · exact .skip fun _ => .skip fun _ => .skip fun _ => .skip fun _ => .pure rfl
    · exact .skip fun _ => ((keeps_tupleElement hr).listed _ _).bind fun lists => .pure (by simp)
    · exact .skip fun _ => .ite (keeps_mappedType hr).reads (keeps_typeMembers hr).reads
    · exact .skip fun _ => hr.type.bind fun parts => .skip fun _ => .pure rfl
  | _ => exact .refuse

/-- A type followed by brackets. -/
theorem keeps_postfixType : Keeps source P (postfixType r c) := by
  intro s taken
  unfold postfixType
  refine (keeps_primaryType hr).bind fun base => ?_
  refine Keeps.bind (.repeated (fun s taken => ?_) _) fun more => .pure (by simp)
  refine .skip fun _ => .skip fun _ => .ite ?_ (.pure rfl)
  refine .skip fun _ => .skip fun _ => .ite (.pure rfl) ?_
  exact hr.type.bind fun index => .skip fun _ => .pure rfl

/-- A type to be found. -/
theorem keeps_inferType : Keeps source P (inferType r c) := by
  intro s taken
  unfold inferType
  refine .skip fun name => Keeps.bind (.attempt fun s taken => ?_) fun bound => .pure ?_
  · exact .skip fun _ => hr.type.bind fun parts => .skip fun _ => .skip fun _ => .pure rfl
  · cases bound with
    | none => rfl
    | some parts => simp

/-- A type after any operators before it. -/
theorem keeps_operatorType (n : Nat) : Keeps source P (operatorType r c n) := by
  induction n with
  | zero => exact fun _ _ => .refuse
  | succ n ih =>
    intro s taken
    unfold operatorType
    refine .skip fun t => .ite (.skip fun _ => ih.reads) (.ite ?_ (keeps_postfixType hr).reads)
    exact .skip fun _ => (keeps_inferType hr).reads

omit hr in
/-- Types between signs of one kind. -/
theorem keeps_typesBetween {p : Reader (List Part)} (hp : Keeps source P p) (sign : String)
    (limit : Nat) : Keeps source P (typesBetween sign limit p) := by
  intro s taken
  unfold typesBetween
  refine .skip fun _ => hp.bind fun first => (hp.afterSigns limit sign).bind fun more => ?_
  exact .pure (by simp)

/-- A union of intersections. -/
theorem keeps_unionType : Keeps source P (unionType r c) :=
  keeps_typesBetween (keeps_typesBetween (keeps_operatorType hr c.limit) "&" c.limit) "|" c.limit

/-- Any type. -/
theorem keeps_type : Keeps source P (type r c) := by
  intro s taken
  unfold type
  -- four signs or words start the type of a function; the last step is a conditional type
  have hfunction : Reads source P s taken [] (functionType r c) := (keeps_functionType hr).reads
  refine .skip fun t => .skip fun next => .ite hfunction (.skip fun _ => .ite hfunction ?_)
  refine .ite (.skip fun _ => hfunction) (.ite (.skip fun _ => .skip fun _ => hfunction) ?_)
  refine (keeps_unionType hr).bind fun parts => .skip fun _ => .skip fun _ => .ite ?_ (.pure rfl)
  refine .skip fun _ => hr.type.bind fun bound => .skip fun _ => hr.type.bind fun yes => ?_
  exact .skip fun _ => hr.type.bind fun no => .pure (by simp)

/-! ### Functions -/

/-- Statements between braces. -/
theorem keeps_block : Keeps source P (block r c) := by
  intro s taken
  unfold block
  refine .skip fun _ => Keeps.bind (.repeated (fun s taken => ?_) _) fun lists => ?_
  · exact .skip fun _ => .ite (.pure rfl) hr.statement.some
  · exact .skip fun _ => .pure (by simp)

/-- The body of a function. -/
theorem keeps_functionBody (declared : Bool) : Keeps source P (functionBody r c declared) := by
  intro s taken
  unfold functionBody
  exact .skip fun _ => .ite (.skip fun _ => .pure rfl) (keeps_block hr).reads

/-- A function from its type parameters on. -/
theorem keeps_functionRest (async generator declared : Bool) :
    Keeps source P (functionRest r c async generator declared) := by
  intro s taken
  unfold functionRest
  refine (keeps_typeParameters? hr).bind fun types => (keeps_parameters hr).bind fun params => ?_
  refine (keeps_resultType? hr).bind fun result => ?_
  exact (keeps_functionBody hr declared).bind fun body => .pure (by simp)

/-- An accessor from its parameters on. -/
theorem keeps_accessorRest (writes declared : Bool) :
    Keeps source P (accessorRest r c writes declared) := by
  intro s taken
  unfold accessorRest
  exact .skip fun _ => .skip fun _ => (keeps_functionRest hr false false declared).reads

/-! ### Classes -/

/-- A field after its key. -/
theorem keeps_fieldRest : Keeps source P (fieldRest r c) := by
  intro s taken
  unfold fieldRest
  refine .skip fun _ => .optionally ?_
  refine (keeps_typeOf? hr).bind fun type => (keeps_defaultOf? hr).bind fun value => ?_
  exact .skip fun _ => .pure (by simp)

/-- A member after its decorators and modifiers. -/
theorem keeps_memberRest (modifiers : List String) : Keeps source P (memberRest r c modifiers) := by
  intro s taken
  unfold memberRest
  refine .skip fun _ => .ite ?_ (.skip fun generator => .skip fun name => ?_)
  · exact (keeps_indexSignature hr).bind fun parts => .skip fun _ => .pure rfl
  refine (keeps_propertyName hr).bind fun key => .either fun _ => .optionally (.skip fun t => ?_)
  refine .skip fun _ => .skip fun _ => .skip fun _ => .skip fun _ => .ite ?_ (.skip fun _ => ?_)
  · refine .ite ?_ ?_
    · exact (keeps_accessorRest hr _ true).bind fun function => .pure (by simp)
    · exact (keeps_functionRest hr _ _ true).bind fun function => .pure (by simp)
  · exact (keeps_fieldRest hr).bind fun rest => .pure (by simp)

/-- A member of a class. -/
theorem keeps_classMember : Keeps source P (classMember r c) := by
  intro s taken
  unfold classMember
  refine (keeps_decorators hr).bind fun marks => .skip fun t => .skip fun next => .ite ?_ ?_
  · exact .skip fun _ => (keeps_block hr).bind fun body => .pure (by simp)
  · exact .skip fun modifiers => (keeps_memberRest hr modifiers).bind fun rest => .pure (by simp)

/-- The members of a class. -/
theorem keeps_classBody : Keeps source P (classBody r c) := by
  intro s taken
  unfold classBody
  refine .skip fun _ => Keeps.bind (.repeated (fun s taken => ?_) _) fun members => ?_
  · refine .skip fun _ => .ite (.pure rfl) (.skip fun _ => .ite (.pure rfl) ?_)
    exact (keeps_classMember hr).some
  · exact .skip fun _ => .pure (by simp)

/-- What a class or an interface extends. -/
theorem keeps_base : Keeps source P (base r c) := by
  intro s taken
  unfold base
  exact hr.leftHandSide.bind fun o => (keeps_typeArguments? hr).bind fun types => .pure (by simp)

/-- What a class extends and implements. -/
theorem keeps_heritage : Keeps source P (heritage r c) := by
  intro s taken
  unfold heritage
  refine .skip fun _ => .branch (keeps_base hr) rfl fun extended => .skip fun _ => ?_
  refine .branch ((keeps_typeReference hr).commaSeparated c.limit) rfl fun interfaces => ?_
  exact .pure (by simp)

/-- A class after its keyword. -/
theorem keeps_classRest : Keeps source P (classRest r c) := by
  intro s taken
  unfold classRest
  refine .skip fun t => ?_
  -- with and without a name the rest is read in the same way
  have hrest : ∀ name, exprs name = [] → Reads source P s taken [] (do
      let types ← typeParameters? r c
      let bases ← heritage r c
      return name ++ types ++ bases ++ (← classBody r c)) := by
    intro name hname
    refine (keeps_typeParameters? hr).bind fun types => (keeps_heritage hr).bind fun bases => ?_
    exact (keeps_classBody hr).bind fun body => .pure (by simp [hname])
  exact .ite (.skip fun _ => hrest _ rfl) (hrest [] rfl)

end JsxTemplate.Grammar
