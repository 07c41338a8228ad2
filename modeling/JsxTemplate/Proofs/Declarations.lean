import JsxTemplate.Proofs.Freshness
import JsxTemplate.Syntax.Outermost
import JsxTemplate.Transform

namespace JsxTemplate

/-!
# What the name of a helper refers to

Compiled code stands where the markup stood, so the name of a helper in it is looked up in the
scopes around the markup. It refers to the import of the helper, whatever these scopes are, if the
output declares the name nowhere else. A new name is not spelled in the module at all. The name of
an import that is there already may be declared again, by a parameter or a variable of a function.

* `Program.declarations` — what a module declares, in any scope.
* `Program.declaring` — the declarations of a name after compiling, with those of the new import.
* `Bindings.declaring_nameOf_iff` — the name of a helper is declared once, by its import, exactly if
  the helper is imported newly or the module declares the name of its import once.
-/

/-! ### Declarations -/

mutual

/-- The names that an expression declares inside: parameters, variables, functions and classes. -/
def Expr.declared : Expr → List String
  | .name _ _ => []
  | .paren _ inner => inner.declared
  | .markup _ node => node.declared
  | .compound _ _ parts => Part.declaredIn parts

/-- The names that a part declares. -/
def Part.declared : Part → List String
  | .name role text => if role = .binding then [text] else []
  | .expr value => value.declared
  | .spread value => value.declared
  | .function parts => Part.declaredIn parts

/-- The names that several parts declare. -/
def Part.declaredIn : List Part → List String
  | [] => []
  | part :: rest => part.declared ++ Part.declaredIn rest

/-- The names that the expressions of markup declare. -/
def Markup.declared : Markup → List String
  | .element _ _ types attributes children =>
    Part.declaredIn types ++ Attribute.declaredIn attributes ++ Markup.declaredIn children
  | .component _ _ types attributes children =>
    Part.declaredIn types ++ Attribute.declaredIn attributes ++ Markup.declaredIn children
  | .fragment children => Markup.declaredIn children
  | .text _ => []
  | .hole _ value => value.declared

/-- The names that several pieces of markup declare. -/
def Markup.declaredIn : List Markup → List String
  | [] => []
  | node :: rest => node.declared ++ Markup.declaredIn rest

/-- The names that an attribute declares. -/
def Attribute.declared : Attribute → List String
  | .named _ value => value.declared
  | .spread value => value.declared

/-- The names that several attributes declare. -/
def Attribute.declaredIn : List Attribute → List String
  | [] => []
  | a :: rest => a.declared ++ Attribute.declaredIn rest

/-- The names that the value of an attribute declares. -/
def AttributeValue.declared : AttributeValue → List String
  | .literal _ => []
  | .bare => []
  | .expr value => value.declared
  | .markup node => node.declared

end

/-- A declaration of a value. -/
inductive Declaration where
  /-- A name in the braces of an import. -/
  | specifier (place : Import × Specifier)
  /-- Any other: the import of a whole module, a variable, a parameter, a function, a class or the
      parameter of a `catch`. -/
  | other (name : String)
  deriving DecidableEq, Repr

/-- The name that is declared. -/
def Declaration.name : Declaration → String
  | specifier place => place.2.bound
  | other name => name

/-- What a statement of a module declares. -/
def Item.declarations : Item → List Declaration
  | .imports declaration =>
    declaration.whole.map .other ++ declaration.specifiers.map fun s => .specifier (declaration, s)
  | .code parts => (Part.declaredIn parts).map .other

/-- What a module declares, in any scope. -/
def Program.declarations (program : Program) : List Declaration :=
  program.items.flatMap Item.declarations

/-! ### Declared names are spelled -/

/-- Three lists, each with what it is a part of, where more stands in front of these. -/
theorem sublist_append_three {α : Type} (front : List α) {as bs cs as' bs' cs' : List α}
    (ha : as.Sublist as') (hb : bs.Sublist bs') (hc : cs.Sublist cs') :
    (as ++ bs ++ cs).Sublist (front ++ as' ++ bs' ++ cs') :=
  ((ha.trans (List.sublist_append_right front as')).append hb).append hc

mutual

/-- What an expression declares are some of the names in it, in order. -/
theorem Expr.declared_sublist : (e : Expr) → e.declared.Sublist e.names
  | .name _ _ => List.nil_sublist _
  | .paren _ inner => inner.declared_sublist
  | .markup _ node => node.declared_sublist
  | .compound _ _ parts => Part.declaredIn_sublist parts

theorem Part.declared_sublist : (part : Part) → part.declared.Sublist part.names
  | .name role text => by
    rw [Part.declared, Part.names]
    split
    · exact List.Sublist.refl _
    · exact List.nil_sublist _
  | .expr value => value.declared_sublist
  | .spread value => value.declared_sublist
  | .function parts => Part.declaredIn_sublist parts

theorem Part.declaredIn_sublist : (parts : List Part) →
    (Part.declaredIn parts).Sublist (Part.namesOf parts)
  | [] => List.nil_sublist _
  | part :: rest => part.declared_sublist.append (Part.declaredIn_sublist rest)

theorem Markup.declared_sublist : (node : Markup) → node.declared.Sublist node.names
  | .element _ tag types attributes children =>
    sublist_append_three tag.reference?.toList (Part.declaredIn_sublist types)
      (Attribute.declaredIn_sublist attributes) (Markup.declaredIn_sublist children)
  | .component _ tag types attributes children =>
    sublist_append_three tag.reference?.toList (Part.declaredIn_sublist types)
      (Attribute.declaredIn_sublist attributes) (Markup.declaredIn_sublist children)
  | .fragment children => Markup.declaredIn_sublist children
  | .text _ => List.nil_sublist _
  | .hole _ value => value.declared_sublist

theorem Markup.declaredIn_sublist : (nodes : List Markup) →
    (Markup.declaredIn nodes).Sublist (Markup.namesOf nodes)
  | [] => List.nil_sublist _
  | node :: rest => node.declared_sublist.append (Markup.declaredIn_sublist rest)

theorem Attribute.declared_sublist : (a : Attribute) → a.declared.Sublist a.names
  | .named _ value => value.declared_sublist
  | .spread value => value.declared_sublist

theorem Attribute.declaredIn_sublist : (attributes : List Attribute) →
    (Attribute.declaredIn attributes).Sublist (Attribute.namesOf attributes)
  | [] => List.nil_sublist _
  | a :: rest => a.declared_sublist.append (Attribute.declaredIn_sublist rest)

theorem AttributeValue.declared_sublist : (value : AttributeValue) →
    value.declared.Sublist value.names
  | .literal _ => List.nil_sublist _
  | .bare => List.nil_sublist _
  | .expr value => value.declared_sublist
  | .markup node => node.declared_sublist

end

/-- A module spells each name that it declares. -/
theorem Program.name_mem_names {program : Program} {d : Declaration}
    (h : d ∈ program.declarations) : d.name ∈ program.names := by
  obtain ⟨item, hitem, hd⟩ := List.mem_flatMap.1 h
  refine List.mem_flatMap.2 ⟨item, hitem, ?_⟩
  -- what a statement declares are names in it; of an import, those it binds
  cases item with
  | code parts =>
    obtain ⟨name, hname, rfl⟩ := List.mem_map.1 hd
    exact (Part.declaredIn_sublist parts).subset hname
  | imports declaration =>
    simp only [Item.names, Import.names, List.mem_append, List.mem_flatMap]
    rcases List.mem_append.1 hd with hd | hd
    · obtain ⟨name, hname, rfl⟩ := List.mem_map.1 hd
      exact .inl (.inl hname)
    · obtain ⟨s, hs, rfl⟩ := List.mem_map.1 hd
      exact .inl (.inr ⟨s, hs, .inr (by simp [Declaration.name])⟩)

/-- The names in the braces of imports are declarations. -/
theorem Program.specifier_mem_declarations {program : Program} {place : Import × Specifier}
    (h : place ∈ program.specifiers) : .specifier place ∈ program.declarations := by
  obtain ⟨item, hitem, hplace⟩ := List.mem_flatMap.1 h
  refine List.mem_flatMap.2 ⟨item, hitem, ?_⟩
  cases item with
  | code parts => cases hplace
  | imports declaration =>
    obtain ⟨s, hs, rfl⟩ := List.mem_map.1 hplace
    exact List.mem_append_right _ (List.mem_map.2 ⟨s, hs, rfl⟩)

/-! ### Declarations after compiling -/

/-- The name of a helper in the braces of the new import. -/
def Bindings.newSpecifier (bindings : Bindings) (h : Helper) : Specifier :=
  ⟨⟨h.name, false⟩, bindings.nameOf h, false⟩

/-- The import that is added for the needed helpers which are missing. -/
def Bindings.newImport (bindings : Bindings) (options : Options) (needs : List Helper) : Import :=
  ⟨options.packageName, false, [], (bindings.pending needs).map bindings.newSpecifier, []⟩

/-- The declarations of a name in a module that the new import is added to. -/
def Program.declaring (program : Program) (options : Options) (needs : List Helper)
    (name : String) : List Declaration :=
  (Item.declarations (.imports ((Bindings.of program options).newImport options needs)) ++
    program.declarations).filter (·.name = name)

/-- Of elements that are all different, a filter that only one of them passes keeps that one. -/
theorem filter_eq_singleton {α : Type} [DecidableEq α] {l : List α} (hnodup : l.Nodup) {a : α}
    (ha : a ∈ l) {p : α → Bool} (hp : ∀ b ∈ l, p b = true ↔ b = a) : l.filter p = [a] := by
  have hcongr : l.filter p = l.filter (· == a) :=
    List.filter_congr fun b hb => by rw [Bool.eq_iff_iff, hp b hb, beq_iff_eq]
  rw [hcongr, List.filter_beq, List.count_eq_one_of_mem hnodup ha, List.replicate_one]

namespace Bindings

variable {program : Program} {options : Options} {needs : List Helper} {h : Helper}

/-- No helper is imported twice. -/
theorem nodup_pending (bindings : Bindings) (needs : List Helper) :
    (bindings.pending needs).Nodup :=
  List.Nodup.filter _ (by decide)

/-- The name of a helper that is imported newly is spelled nowhere in the module. -/
theorem nameOf_not_mem_names (hnew : ((of program options).get h).isImported = false) :
    (of program options).nameOf h ∉ program.names :=
  (fresh_of program options).free _ (mem_entries_of program options h) hnew

/-- So the module does not declare it. -/
theorem filter_declarations_of_new (hnew : ((of program options).get h).isImported = false) :
    program.declarations.filter (·.name = (of program options).nameOf h) = [] := by
  rw [List.filter_eq_nil_iff]
  intro d hd hname
  rw [decide_eq_true_eq] at hname
  exact nameOf_not_mem_names hnew (hname ▸ Program.name_mem_names hd)

/-- The declarations of a name in the new import, helper by helper. -/
theorem filter_newImport (bindings : Bindings) (name : String) :
    (Item.declarations (.imports (bindings.newImport options needs))).filter (·.name = name) =
      ((bindings.pending needs).filter (bindings.nameOf · = name)).map fun h =>
        .specifier (bindings.newImport options needs, bindings.newSpecifier h) := by
  rw [Item.declarations, newImport, List.map_nil, List.nil_append, List.map_map, List.filter_map]
  rfl

/-- The new import declares the name of a helper that it brings in once. -/
theorem exists_filter_newImport_of_new (hneed : h ∈ needs)
    (hnew : ((of program options).get h).isImported = false) :
    ∃ place, h.ImportedBy options place ∧
      (Item.declarations (.imports ((of program options).newImport options needs))).filter
        (·.name = (of program options).nameOf h) = [.specifier place] := by
  -- the new names differ from each other, so the import has this one only once
  have hname : ∀ k ∈ (of program options).pending needs,
      decide ((of program options).nameOf k = (of program options).nameOf h) = true ↔ k = h := by
    intro k hk
    rw [decide_eq_true_eq]
    refine ⟨fun hsame => ?_, congrArg _⟩
    by_contra hne
    exact name_ne_of_ne hne (mem_pending.1 hk).2 hnew hsame
  have hpending : h ∈ (of program options).pending needs := mem_pending.2 ⟨hneed, hnew⟩
  refine ⟨((of program options).newImport options needs, (of program options).newSpecifier h),
    ⟨rfl, .inl rfl, rfl, rfl⟩, ?_⟩
  rw [filter_newImport, filter_eq_singleton (nodup_pending _ needs) hpending hname,
    List.map_singleton]

/-- The new import declares no name of a helper that is there already. -/
theorem filter_newImport_of_imported (himported : ((of program options).get h).isImported = true) :
    (Item.declarations (.imports ((of program options).newImport options needs))).filter
      (·.name = (of program options).nameOf h) = [] := by
  have hnone : ((of program options).pending needs).filter
      ((of program options).nameOf · = (of program options).nameOf h) = [] := by
    rw [List.filter_eq_nil_iff]
    intro k hk hname
    rw [decide_eq_true_eq] at hname
    -- the module spells the name of the one and not that of the other
    refine nameOf_not_mem_names (mem_pending.1 hk).2 ?_
    rw [hname]
    exact name_mem_names_of_isImported himported
  rw [filter_newImport, hnone, List.map_nil]

/-- A module declares the name of a helper that it imports, by an import of the helper. -/
theorem exists_mem_declarations_of_imported
    (himported : ((of program options).get h).isImported = true) :
    ∃ place, h.ImportedBy options place ∧
      .specifier place ∈ program.declarations.filter (·.name = (of program options).nameOf h) := by
  obtain ⟨before, place, after, hsplit, hplace, -, hname⟩ := exists_first_of_isImported himported
  have hmem : place ∈ program.specifiers := by
    rw [hsplit]
    exact List.mem_append_right _ (List.mem_cons_self ..)
  refine ⟨place, hplace, List.mem_filter.2 ⟨Program.specifier_mem_declarations hmem, ?_⟩⟩
  rw [decide_eq_true_eq]
  exact hname.symm

/-- **What the name of a helper refers to.** The name of a helper that is imported newly is declared
    by nothing in the module. After compiling, the name of a needed helper is declared once and by
    an import of it, so that it refers to that import from any scope, exactly if the helper is
    imported newly or the module declares the name once. -/
theorem declaring_nameOf_iff (program : Program) (options : Options) (needs : List Helper)
    (h : Helper) (hneed : h ∈ needs) :
    (((of program options).get h).isImported = false →
      ∀ d ∈ program.declarations, d.name ≠ (of program options).nameOf h) ∧
    ((∃ place, h.ImportedBy options place ∧
        program.declaring options needs ((of program options).nameOf h) = [.specifier place]) ↔
      (((of program options).get h).isImported = true →
        (program.declarations.filter (·.name = (of program options).nameOf h)).length = 1)) := by
  refine ⟨fun hnew d hd hname => nameOf_not_mem_names hnew (hname ▸ Program.name_mem_names hd), ?_⟩
  rw [Program.declaring, List.filter_append]
  cases himported : ((of program options).get h).isImported with
  | false =>
    rw [filter_declarations_of_new himported, List.append_nil]
    exact iff_of_true (exists_filter_newImport_of_new hneed himported) nofun
  | true =>
    rw [filter_newImport_of_imported himported, List.nil_append]
    obtain ⟨place, hplace, hmem⟩ := exists_mem_declarations_of_imported himported
    constructor
    · rintro ⟨_, -, hsingle⟩ -
      rw [hsingle, List.length_singleton]
    · intro hlength
      -- the one declaration is the import that is known to be there
      obtain ⟨d, hd⟩ := List.length_eq_one_iff.1 (hlength rfl)
      rw [hd] at hmem ⊢
      exact ⟨place, hplace, by rw [List.mem_singleton.1 hmem]⟩

/-- A module that imports one of the helpers it needs, and a function in it that leaves its name. -/
theorem declaring_nameOf_iff_arrow :
    ∃ (source : String) (program : Program),
      source = "import " ++ braced "html as h" ++ " from 'kaori.js'; g => <A x=" ++ braced "g" ++
          "/>;" ∧
      Program.parse? (Grammar.Dialect.ofPath "a.jsx") source.toList = some program ∧
      .html ∈ (program.patches {}).needs ∧ .component ∈ (program.patches {}).needs ∧
      (∃ place, Helper.html.ImportedBy {} place ∧
        program.declaring {} (program.patches {}).needs "h" = [.specifier place]) ∧
      ∃ place, Helper.component.ImportedBy {} place ∧
        program.declaring {} (program.patches {}).needs "component" = [.specifier place] := by
  obtain ⟨source, hsource⟩ : ∃ s, s =
    "import " ++ braced "html as h" ++ " from 'kaori.js'; g => <A x=" ++ braced "g" ++
        "/>;" := ⟨_, rfl⟩
  have hread : (Program.parse? (Grammar.Dialect.ofPath "a.jsx") source.toList).any (fun program =>
      .html ∈ (program.patches {}).needs ∧ .component ∈ (program.patches {}).needs ∧
      (of program {}).get .html = ⟨"h", true⟩ ∧
      (of program {}).get .component = ⟨"component", false⟩ ∧
      (program.declarations.filter (·.name = "h")).length = 1) = true := by
    rw [hsource]
    decide +kernel
  obtain ⟨program, hparse, hfacts⟩ := (Option.any_eq_true _ _).1 hread
  obtain ⟨hhtml, hcomponent, hthere, hnew, hlength⟩ := of_decide_eq_true hfacts
  have hname : (of program {}).nameOf .html = "h" := congrArg Binding.name hthere
  have hname' : (of program {}).nameOf .component = "component" :=
    congrArg Binding.name hnew
  obtain ⟨-, honce⟩ := declaring_nameOf_iff program {} _ .html hhtml
  obtain ⟨-, honce'⟩ := declaring_nameOf_iff program {} _ .component hcomponent
  rw [hname] at honce
  rw [hname', hnew] at honce'
  exact ⟨source, program, hsource, hparse, hhtml, hcomponent, honce.2 fun _ => hlength,
    honce'.2 nofun⟩

/-- In this module the parameter of the function has the name of the import, and the compiled markup
    inside of the function calls the parameter. -/
theorem nameOf_hidden_by_parameter :
    ∃ (source : String) (program : Program) (place : Import × Specifier),
      source = "import " ++ braced "html as h" ++ " from 'kaori.js'; function f(h) " ++
          braced " return <p/>; " ∧
      Program.parse? (Grammar.Dialect.ofPath "a.jsx") source.toList = some program ∧
      .html ∈ (program.patches {}).needs ∧ (of program {}).nameOf .html = "h" ∧
      program.declaring {} (program.patches {}).needs "h" = [.specifier place, .other "h"] ∧
      (transform source "a.jsx" {}).toOption.map Compiled.code = some
        ("import " ++ braced "html as h" ++ " from 'kaori.js'; function f(h) " ++
          braced " return h`<p></p>`; ") := by
  obtain ⟨source, hsource⟩ : ∃ s, s =
    "import " ++ braced "html as h" ++ " from 'kaori.js'; function f(h) " ++
        braced " return <p/>; " := ⟨_, rfl⟩
  have hread : (Program.parse? (Grammar.Dialect.ofPath "a.jsx") source.toList).any (fun program =>
      .html ∈ (program.patches {}).needs ∧ (of program {}).nameOf .html = "h" ∧
      program.declaring {} (program.patches {}).needs "h" =
        [.specifier (⟨"kaori.js", false, [], [⟨⟨"html", false⟩, "h", false⟩], []⟩,
          ⟨⟨"html", false⟩, "h", false⟩), .other "h"]) = true := by
    rw [hsource]
    decide +kernel
  obtain ⟨program, hparse, hfacts⟩ := (Option.any_eq_true _ _).1 hread
  obtain ⟨hneed, hname, hdeclaring⟩ := of_decide_eq_true hfacts
  refine ⟨source, program, _, hsource, hparse, hneed, hname, hdeclaring, ?_⟩
  rw [hsource]
  decide +kernel

end Bindings

end JsxTemplate
