import JsxTemplate.Analysis.Attribute

namespace JsxTemplate

/-!
# The kind of an attribute says what its name is

* `AttributeKind.Names kind name` — the names of a kind: the three special ones, those of listeners,
  those in a namespace, and all others.
* `AttributeKind.names_of` — the kind of a name is one that has it, so a proof may go through the
  kinds and know the name in each case.
* `AttributeKind.of_isTextual` — the three kinds of which static attributes are.
-/

/-! ### Namespaces -/

/-- What is split at a colon was joined by it. -/
theorem splitColon_eq_some {cs space name : List Char} (h : splitColon cs = some (space, name)) :
    cs = space ++ ':' :: name := by
  fun_induction splitColon cs generalizing space with
  | case1 => cases h
  | case2 cs =>
    cases h
    rfl
  | case3 c cs hc ih =>
    obtain ⟨⟨space', name'⟩, hsplit, hpair⟩ := Option.map_eq_some_iff.1 h
    cases hpair
    rw [ih hsplit, List.cons_append]

/-- What is not split has no colon. -/
theorem splitColon_eq_none {cs : List Char} (h : splitColon cs = none) : ':' ∉ cs := by
  fun_induction splitColon cs with
  | case1 => exact List.not_mem_nil
  | case2 cs => cases h
  | case3 c cs hc ih =>
    rw [List.mem_cons, not_or]
    exact ⟨fun heq => hc heq.symm, ih (Option.map_eq_none_iff.1 h)⟩

/-! ### Kinds -/

/-- The names of the attributes of a kind. -/
inductive AttributeKind.Names : AttributeKind → String → Prop where
  | ref : Names .ref "ref"
  | style : Names .style "style"
  | classMap : Names .classMap "classMap"
  | event {name : String} {event : List Char} (h : name.toList = 'o' :: 'n' :: event) :
      Names (.event (String.ofList (Text.lowercase event))) name
  | property {name : String} {rest : List Char} (h : name.toList = "prop".toList ++ ':' :: rest) :
      Names (.property (String.ofList rest)) name
  | boolean {name : String} {rest : List Char} (h : name.toList = "bool".toList ++ ':' :: rest) :
      Names (.boolean (String.ofList rest)) name
  | namespaced {name : String} (h : ':' ∈ name.toList) : Names (.namespaced name) name
  | plain {name : String} (h : ':' ∉ name.toList) (hmap : name ≠ "classMap") :
      Names (.plain (normalName name)) name

/-- The name of an attribute tells its kind, apart from that for a map of classes. -/
theorem AttributeKind.names_ofSpace {name : String} (hmap : name ≠ "classMap") :
    (AttributeKind.ofSpace name).Names name := by
  unfold AttributeKind.ofSpace
  -- two words before a colon have a meaning of their own, any other one is a namespace
  split
  next space rest hsplit =>
    have hname := splitColon_eq_some hsplit
    split
    next hprop => exact .property (hprop ▸ hname)
    next =>
      split
      next hbool => exact .boolean (hbool ▸ hname)
      next => exact .namespaced (by simp [hname])
  next hsplit => exact .plain (splitColon_eq_none hsplit) hmap

/-- A name is one of its kind. -/
theorem AttributeKind.names_of (name : String) : (AttributeKind.of name).Names name := by
  unfold AttributeKind.of
  split
  next href => exact href ▸ .ref
  next =>
    split
    next hstyle => exact hstyle ▸ .style
    next =>
      split
      next hmap => exact hmap ▸ .classMap
      next hmap =>
        split
        next c cs hname => exact .event hname
        next => exact AttributeKind.names_ofSpace hmap

/-- An attribute that can stand as text in the document is a style, a map of classes or plain. -/
theorem AttributeKind.of_isTextual {name : String} (h : (AttributeKind.of name).isTextual = true) :
    (name = "style" ∧ AttributeKind.of name = .style) ∨
      (name = "classMap" ∧ AttributeKind.of name = .classMap) ∨
      (':' ∉ name.toList ∧ name ≠ "classMap" ∧
        AttributeKind.of name = .plain (normalName name)) := by
  have hnames := AttributeKind.names_of name
  -- what the kind says about the name is fixed before the kind is split
  generalize AttributeKind.of name = kind at h hnames ⊢
  cases hnames with
  | style => exact .inl ⟨rfl, rfl⟩
  | classMap => exact .inr (.inl ⟨rfl, rfl⟩)
  | plain hcolon hmap => exact .inr (.inr ⟨hcolon, hmap, rfl⟩)
  | ref => cases h
  | event hname => cases h
  | property hname => cases h
  | boolean hname => cases h
  | namespaced hcolon => cases h

end JsxTemplate
