import JsxTemplate.Grammar.Module
import JsxTemplate.Proofs.FreeName
import Mathlib.Data.List.Pairwise

namespace JsxTemplate

/-!
# The names of helpers capture nothing

A helper that a module imports keeps the name of that import. Each other helper gets a name that the
module does not spell anywhere, and no two of them get the same.

* `Program.specifiers` — the names in the braces of all imports of a module, in their order.
* `Helper.ImportedBy` — such a name brings in a helper.
* `Program.lookup_helpers_eq_some_iff` — the first one that does so counts.
* `Bindings.Fresh` — the invariant of giving names: none is taken, none is given twice.
* `Bindings.get_of_fresh` — the names of the helpers in a module.
-/

/-! ### Imports of helpers -/

/-- Occurring in a text is being a stretch of it. -/
theorem Text.occursIn_iff {part cs : List Char} : Text.occursIn part cs = true ↔ part <:+: cs := by
  induction cs with
  | nil => rw [Text.occursIn, List.isEmpty_iff, List.infix_nil]
  | cons c cs ih => rw [Text.occursIn, Bool.or_eq_true, List.isPrefixOf_iff_prefix, ih,
      List.infix_cons_iff]

/-- Helpers come from the package itself, or from modules in whose names the hint occurs. -/
theorem Options.isSupportSource_iff {options : Options} {source : String} :
    options.isSupportSource source = true ↔ source = options.packageName ∨
      options.packageHint ≠ "" ∧ options.packageHint.toList <:+: source.toList := by
  unfold Options.isSupportSource
  rw [Bool.or_eq_true, Bool.and_eq_true, beq_iff_eq, Text.occursIn_iff, Bool.not_eq_true',
    ← Bool.not_eq_true, String.isEmpty_iff]

/-- The helper with a name. -/
theorem Helper.named?_eq_some_iff {text : String} {h : Helper} :
    Helper.named? text = some h ↔ text = h.name := by
  constructor
  · intro hfound
    have hname := List.find?_some hfound
    exact (of_decide_eq_true hname).symm
  · rintro rfl
    cases h <;> decide

/-- The names in the braces of the imports of a module, each with its declaration. -/
def Program.specifiers (program : Program) : List (Import × Specifier) :=
  program.items.flatMap fun item => match item with
    | .imports declaration => declaration.specifiers.map (declaration, ·)
    | .code _ => []

/-- A name in the braces of an import brings in a helper: it is the helper's name, the import is one
    of values from a module of helpers, and the name is not marked as that of a type. -/
structure Helper.ImportedBy (h : Helper) (options : Options) (place : Import × Specifier) :
    Prop where
  declaration_isType : place.1.isType = false
  source : place.1.source = options.packageName ∨
    options.packageHint ≠ "" ∧ options.packageHint.toList <:+: place.1.source.toList
  specifier_isType : place.2.isType = false
  imported : place.2.imported.text = h.name

/-- The helper that a name in the braces of an import brings in, with its name in the module. -/
def Specifier.helper? (options : Options) (place : Import × Specifier) : Option (Helper × String) :=
  if place.1.isType || !options.isSupportSource place.1.source || place.2.isType then none
  else (Helper.named? place.2.imported.text).map (·, place.2.bound)

/-- What a name in braces brings in, and under which name. -/
theorem Specifier.helper?_eq_some_iff {options : Options} {place : Import × Specifier} {h : Helper}
    {name : String} : Specifier.helper? options place = some (h, name) ↔
      h.ImportedBy options place ∧ place.2.bound = name := by
  unfold Specifier.helper?
  constructor
  · intro hfound
    -- imports of types are passed over, and so are other packages
    split at hfound
    next => cases hfound
    next hvalue =>
      simp only [Bool.or_eq_true, Bool.not_eq_true', not_or, Bool.not_eq_true,
        Bool.not_eq_false] at hvalue
      obtain ⟨found, hnamed, hpair⟩ := Option.map_eq_some_iff.1 hfound
      cases hpair
      exact ⟨⟨hvalue.1.1, Options.isSupportSource_iff.1 hvalue.1.2, hvalue.2,
        Helper.named?_eq_some_iff.1 hnamed⟩, rfl⟩
  · rintro ⟨⟨hdeclaration, hsource, hspecifier, himported⟩, rfl⟩
    rw [hdeclaration, hspecifier, Options.isSupportSource_iff.2 hsource,
      Helper.named?_eq_some_iff.2 himported]
    rfl

/-- The helpers that a module imports, name by name. -/
theorem Program.helpers_eq (program : Program) (options : Options) :
    program.helpers options = program.specifiers.filterMap (Specifier.helper? options) := by
  unfold Program.helpers Program.specifiers
  induction program.items with
  | nil => rfl
  | cons item rest ih =>
    rw [List.flatMap_cons, List.flatMap_cons, List.filterMap_append, ih]
    congr 1
    cases item with
    | code parts => rfl
    | imports declaration =>
      show declaration.helpers options =
        (declaration.specifiers.map (declaration, ·)).filterMap (Specifier.helper? options)
      rw [List.filterMap_map]
      unfold Import.helpers
      split
      next hskip =>
        -- none of the names of such a declaration counts
        symm
        rw [List.filterMap_eq_nil_iff]
        intro s _
        simp [Specifier.helper?, hskip]
      next hkeep =>
        refine List.filterMap_congr fun s _ => ?_
        simp [Specifier.helper?, hkeep]

/-- Looking a key up in what is kept of a list is a search in the list. -/
theorem lookup_filterMap {α β : Type} (f : α → Option (Helper × β)) (l : List α) (h : Helper) :
    (l.filterMap f).lookup h =
      l.findSome? fun a => (f a).bind fun p => if h == p.1 then some p.2 else none := by
  induction l with
  | nil => rfl
  | cons a l ih =>
    rw [List.findSome?_cons, List.filterMap_cons]
    cases f a with
    | none => exact ih
    | some p =>
      obtain ⟨k, b⟩ := p
      rw [List.lookup_cons, Option.bind_some]
      -- the first pair for the helper is found in either way
      cases h == k with
      | true => rfl
      | false => exact ih

/-- The name that a helper gets from a name in the braces of an import, if that brings it in. -/
def Helper.nameFrom? (h : Helper) (options : Options) (place : Import × Specifier) :
    Option String :=
  (Specifier.helper? options place).bind fun p => if h == p.1 then some p.2 else none

/-- The same seen from the helper. -/
theorem Helper.nameFrom?_eq_some_iff {options : Options} {place : Import × Specifier} {h : Helper}
    {name : String} : h.nameFrom? options place = some name ↔
      h.ImportedBy options place ∧ place.2.bound = name := by
  rw [← Specifier.helper?_eq_some_iff, Helper.nameFrom?, Option.bind_eq_some_iff]
  constructor
  · rintro ⟨⟨found, bound⟩, hfound, hif⟩
    split at hif
    next heq =>
      cases hif
      rw [hfound, eq_of_beq heq]
    next => cases hif
  · intro hfound
    exact ⟨(h, name), hfound, by simp⟩

/-- A name in braces does nothing for a helper that it does not bring in. -/
theorem Helper.nameFrom?_eq_none_iff {options : Options} {place : Import × Specifier} {h : Helper} :
    h.nameFrom? options place = none ↔ ¬h.ImportedBy options place := by
  rw [Option.eq_none_iff_forall_ne_some]
  constructor
  · intro hnone himported
    exact hnone place.2.bound (Helper.nameFrom?_eq_some_iff.2 ⟨himported, rfl⟩)
  · intro hnot name hsome
    exact hnot (Helper.nameFrom?_eq_some_iff.1 hsome).1

/-- Looking up a helper is a search in the braces of all imports. -/
theorem Program.lookup_helpers (program : Program) (options : Options) (h : Helper) :
    (program.helpers options).lookup h = program.specifiers.findSome? (h.nameFrom? options) := by
  rw [Program.helpers_eq, lookup_filterMap]
  rfl

/-- The name of an imported helper is that of the first import that brings it in. -/
theorem Program.lookup_helpers_eq_some_iff {program : Program} {options : Options} {h : Helper}
    {name : String} : (program.helpers options).lookup h = some name ↔
      ∃ before place after, program.specifiers = before ++ place :: after ∧
        (h.ImportedBy options place ∧ place.2.bound = name) ∧
        ∀ earlier ∈ before, ¬h.ImportedBy options earlier := by
  rw [Program.lookup_helpers, List.findSome?_eq_some_iff]
  simp only [Helper.nameFrom?_eq_some_iff, Helper.nameFrom?_eq_none_iff]

/-- A helper is not found if no import brings it in. -/
theorem Program.lookup_helpers_eq_none_iff {program : Program} {options : Options} {h : Helper} :
    (program.helpers options).lookup h = none ↔
      ∀ place ∈ program.specifiers, ¬h.ImportedBy options place := by
  rw [Program.lookup_helpers, List.findSome?_eq_none_iff]
  simp only [Helper.nameFrom?_eq_none_iff]

/-- A module spells the names that its imports bind. -/
theorem Program.bound_mem_names {program : Program} {place : Import × Specifier}
    (h : place ∈ program.specifiers) : place.2.bound ∈ program.names := by
  obtain ⟨item, hitem, hplace⟩ := List.mem_flatMap.1 h
  refine List.mem_flatMap.2 ⟨item, hitem, ?_⟩
  cases item with
  | code parts => cases hplace
  | imports declaration =>
    obtain ⟨s, hs, rfl⟩ := List.mem_map.1 hplace
    have hnames : s.bound ∈ declaration.specifiers.flatMap fun s => s.imported.names ++ [s.bound] :=
      List.mem_flatMap.2 ⟨s, hs, by simp⟩
    simp only [Item.names, Import.names, List.mem_append]
    exact .inl (.inr hnames)

/-! ### Giving names -/

namespace Bindings

/-- Entries whose new names are not taken, and are given once each. -/
structure Fresh (taken : List String) (entries : List (Helper × Binding)) : Prop where
  free : ∀ p ∈ entries, p.2.isImported = false → p.2.name ∉ taken
  apart : entries.Pairwise fun p q =>
    p.2.isImported = false → q.2.isImported = false → p.2.name ≠ q.2.name

/-- **Giving names keeps them apart.** Each name that is given is taken from then on. -/
theorem fresh_assign (imported : List (Helper × String)) (taken : List String)
    (hs : List Helper) : Fresh taken (assign imported taken hs) := by
  induction hs generalizing taken with
  | nil => exact ⟨by simp [assign], .nil⟩
  | cons h rest ih =>
    rw [assign]
    split
    next name hname =>
      -- the helper is imported, and nothing is asked of its name
      obtain ⟨hfree, hapart⟩ := ih taken
      refine ⟨?_, List.pairwise_cons.2 ⟨fun q _ himported => ?_, hapart⟩⟩
      · intro p hp
        rcases List.mem_cons.1 hp with rfl | hp
        · intro himported
          cases himported
        · exact hfree p hp
      · cases himported
    next =>
      obtain ⟨hfree, hapart⟩ := ih (freeName h.name taken :: taken)
      refine ⟨?_, List.pairwise_cons.2 ⟨?_, hapart⟩⟩
      · intro p hp hnew
        rcases List.mem_cons.1 hp with rfl | hp
        · exact freeName_not_mem h.name taken
        · exact fun hmem => hfree p hp hnew (List.mem_cons_of_mem _ hmem)
      · intro q hq _ hnew heq
        -- later names are chosen with this one among those that are taken
        exact hfree q hq hnew (List.mem_cons.2 (.inl heq.symm))

/-- Each helper gets one entry, which is that of its import if there is one, and else a name that is
    free. -/
theorem lookup_of_mem_assign {imported : List (Helper × String)} {taken : List String}
    {hs : List Helper} {p : Helper × Binding} (hp : p ∈ assign imported taken hs) :
    (p.2.isImported = true ∧ imported.lookup p.1 = some p.2.name) ∨
      (p.2.isImported = false ∧ imported.lookup p.1 = none ∧
        ∃ others, p.2.name = freeName p.1.name others) := by
  induction hs generalizing taken with
  | nil => cases hp
  | cons h rest ih =>
    rw [assign] at hp
    -- a helper that is imported keeps its name, any other one gets a free one
    split at hp
    next name hname =>
      rcases List.mem_cons.1 hp with rfl | hp
      · exact .inl ⟨rfl, hname⟩
      · exact ih hp
    next hname =>
      rcases List.mem_cons.1 hp with rfl | hp
      · exact .inr ⟨rfl, hname, taken, rfl⟩
      · exact ih hp

/-- Each helper gets one entry, in order. -/
theorem map_fst_assign (imported : List (Helper × String)) (taken : List String)
    (hs : List Helper) : (assign imported taken hs).map Prod.fst = hs := by
  induction hs generalizing taken with
  | nil => rfl
  | cons h rest ih =>
    rw [assign]
    split
    next => rw [List.map_cons, ih]
    next => rw [List.map_cons, ih]

/-- The binding of a helper is an entry of the table. -/
theorem mem_entries_of (program : Program) (options : Options) (h : Helper) :
    (h, (of program options).get h) ∈ (of program options).entries := by
  -- every helper has an entry, so looking it up finds one
  have hkey : h ∈ (of program options).entries.map Prod.fst := by
    rw [of, map_fst_assign]
    exact h.mem_all
  obtain ⟨⟨_, binding⟩, hmem, rfl⟩ := List.mem_map.1 hkey
  have hsome : ((of program options).entries.lookup _).isSome :=
    List.lookup_isSome_iff.2 ⟨_, hmem, beq_self_eq_true _⟩
  obtain ⟨found, hfound⟩ := Option.isSome_iff_exists.1 hsome
  rw [get, hfound]
  obtain ⟨before, after, hsplit, -⟩ := List.lookup_eq_some_iff.1 hfound
  rw [hsplit]
  exact List.mem_append_right _ (List.mem_cons_self ..)

/-- A helper counts as imported exactly if the search among the imports finds it. -/
theorem isImported_cases (program : Program) (options : Options) (h : Helper) :
    (((of program options).get h).isImported = true ∧
        (program.helpers options).lookup h = some ((of program options).get h).name) ∨
      (((of program options).get h).isImported = false ∧
        (program.helpers options).lookup h = none ∧
        ∃ others, ((of program options).get h).name = freeName h.name others) :=
  lookup_of_mem_assign (mem_entries_of program options h)

/-- **A helper counts as imported exactly if an import brings it in.** -/
theorem isImported_iff (program : Program) (options : Options) (h : Helper) :
    ((of program options).get h).isImported = true ↔
      ∃ place ∈ program.specifiers, h.ImportedBy options place := by
  rcases isImported_cases program options h with ⟨himported, hlookup⟩ | ⟨hnew, hlookup, -⟩
  · obtain ⟨before, place, after, hsplit, ⟨hplace, -⟩, -⟩ :=
      Program.lookup_helpers_eq_some_iff.1 hlookup
    have hmem : place ∈ program.specifiers := by
      rw [hsplit]
      exact List.mem_append_right _ (List.mem_cons_self ..)
    exact iff_of_true himported ⟨place, hmem, hplace⟩
  · -- the search has come to the end without finding one
    rw [Program.lookup_helpers_eq_none_iff] at hlookup
    refine iff_of_false (by rw [hnew]; decide) ?_
    rintro ⟨place, hmem, hplace⟩
    exact hlookup place hmem hplace

/-- Its name is then that of the first import that does. -/
theorem exists_first_of_isImported {program : Program} {options : Options} {h : Helper}
    (himported : ((of program options).get h).isImported = true) :
    ∃ before place after, program.specifiers = before ++ place :: after ∧
      h.ImportedBy options place ∧ (∀ earlier ∈ before, ¬h.ImportedBy options earlier) ∧
      ((of program options).get h).name = place.2.bound := by
  rcases isImported_cases program options h with ⟨-, hlookup⟩ | ⟨hnew, -⟩
  · obtain ⟨before, place, after, hsplit, ⟨hplace, hbound⟩, hfirst⟩ :=
      Program.lookup_helpers_eq_some_iff.1 hlookup
    exact ⟨before, place, after, hsplit, hplace, hfirst, hbound.symm⟩
  · rw [himported] at hnew
    cases hnew

/-- A module spells the name of each helper that it imports. -/
theorem name_mem_names_of_isImported {program : Program} {options : Options} {h : Helper}
    (himported : ((of program options).get h).isImported = true) :
    ((of program options).get h).name ∈ program.names := by
  obtain ⟨before, place, after, hsplit, -, -, hname⟩ := exists_first_of_isImported himported
  rw [hname]
  refine Program.bound_mem_names ?_
  rw [hsplit]
  exact List.mem_append_right _ (List.mem_cons_self ..)

/-- The names of a module are fresh. -/
theorem fresh_of (program : Program) (options : Options) :
    Fresh program.names (of program options).entries := by
  obtain ⟨hfree, hapart⟩ :=
    fresh_assign (program.helpers options) program.names.eraseDups Helper.all
  exact ⟨fun p hp hnew hmem => hfree p hp hnew (List.mem_eraseDups.2 hmem), hapart⟩

/-- New names of different helpers are different. -/
theorem name_ne_of_ne {program : Program} {options : Options} {h k : Helper} (hne : h ≠ k)
    (hh : ((of program options).get h).isImported = false)
    (hk : ((of program options).get k).isImported = false) :
    ((of program options).get h).name ≠ ((of program options).get k).name := by
  have hsymm : Std.Symm fun p q : Helper × Binding =>
      p.2.isImported = false → q.2.isImported = false → p.2.name ≠ q.2.name :=
    ⟨fun p q hpq hq hp => (hpq hp hq).symm⟩
  have hpair : (h, (of program options).get h) ≠ (k, (of program options).get k) :=
    fun heq => hne (congrArg Prod.fst heq)
  exact (fresh_of program options).apart.forall (mem_entries_of program options h)
    (mem_entries_of program options k) hpair hh hk

/-- **The names of helpers capture nothing.** A helper counts as imported exactly if an import
    brings it in, and then has the name of the first one that does. All other helpers have names
    that the module does not spell, so they differ from those of imported helpers, and from each
    other. -/
theorem get_of_fresh (program : Program) (options : Options) :
    (∀ h, ((of program options).get h).isImported = true ↔
      ∃ place ∈ program.specifiers, h.ImportedBy options place) ∧
    (∀ h, ((of program options).get h).isImported = true →
      ∃ before place after, program.specifiers = before ++ place :: after ∧
        h.ImportedBy options place ∧ (∀ earlier ∈ before, ¬h.ImportedBy options earlier) ∧
        ((of program options).get h).name = place.2.bound) ∧
    (∀ h, ((of program options).get h).isImported = false →
      ((of program options).get h).name ∉ program.names ∧
      ∀ k, ((of program options).get k).isImported = true →
        ((of program options).get h).name ≠ ((of program options).get k).name) ∧
    ∀ h k, h ≠ k → ((of program options).get h).isImported = false →
      ((of program options).get k).isImported = false →
      ((of program options).get h).name ≠ ((of program options).get k).name := by
  have hfree : ∀ h, ((of program options).get h).isImported = false →
      ((of program options).get h).name ∉ program.names :=
    fun h => (fresh_of program options).free _ (mem_entries_of program options h)
  refine ⟨isImported_iff program options, fun h => exists_first_of_isImported, ?_,
    fun h k => name_ne_of_ne⟩
  intro h hnew
  refine ⟨hfree h hnew, fun k himported heq => hfree h hnew ?_⟩
  rw [heq]
  exact name_mem_names_of_isImported himported

/-- A module that imports one helper twice and has a variable with the name of another. -/
theorem get_of_fresh_import :
    ∃ program, Program.parse? (Grammar.Dialect.ofPath "a.jsx")
        ("import " ++ braced " html as h, html as g " ++
            " from 'kaori.js'; component;").toList = some program ∧
      ((of program {}).get .html).isImported = true ∧
      (∃ place ∈ program.specifiers, Helper.html.ImportedBy {} place) ∧
      ((of program {}).get .component).isImported = false ∧
      ((of program {}).get .component).name ∉ program.names ∧
      ((of program {}).get .html).name = "h" ∧
      ((of program {}).get .component).name = "component1" := by
  have hread : (Program.parse? (Grammar.Dialect.ofPath "a.jsx")
      ("import " ++ braced " html as h, html as g " ++ " from 'kaori.js'; component;").toList).any
      (fun program =>
        (of program {}).get .html = ⟨"h", true⟩ ∧
        (of program {}).get .component = ⟨"component1", false⟩) = true := by
    decide +kernel
  obtain ⟨program, hparse, hbindings⟩ := (Option.any_eq_true _ _).1 hread
  obtain ⟨hhtml, hcomponent⟩ := of_decide_eq_true hbindings
  obtain ⟨himported, -, hfree, -⟩ := get_of_fresh program {}
  have hnew : ((of program {}).get .component).isImported = false := by rw [hcomponent]
  have hthere : ((of program {}).get .html).isImported = true := by rw [hhtml]
  exact ⟨program, hparse, hthere, (himported .html).1 hthere, hnew, (hfree .component hnew).1,
    by rw [hhtml], by rw [hcomponent]⟩

end Bindings

end JsxTemplate
