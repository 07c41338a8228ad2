import JsxTemplate.Proofs.Congruence

namespace JsxTemplate

/-!
# Braces around markup

The value of an attribute may be markup as it is, `a=<b/>`, or markup between braces, `a={<b/>}`.
The one is compiled as markup, the other is copied as an expression, and then all of the copy is
replaced by the compiled markup. On elements and on components, the two come to the same.

* `splice_whole` — replacing all of a stretch leaves what it is replaced with.
* `AttributeValue.Alike.braces` — markup and an expression that is this markup are values alike.
* `Markup.braces_agree` — so the tags around them are alike.
-/

open Text

variable {options : Options} {source : List Char}

/-- Replacing all of a stretch of a text leaves the new text. -/
theorem splice_whole {span : Span} (h : span.On source) (text : List Char) :
    splice source span [⟨span, text⟩] = some text := by
  obtain ⟨start, stop⟩ := span
  obtain ⟨before, middle, after, rfl, hbefore, hmiddle⟩ :=
    h.start_place.between h.stop_place h.start_le_stop
  dsimp only at hbefore hmiddle
  have hstart : byteLength before = start := by omega
  have hslice : slice (before ++ (middle ++ after)) start stop = some middle := by
    rw [← hmiddle, ← hstart]
    exact slice_append before middle after
  -- inside of the stretch, all of it is replaced
  have hreplace : replace middle (start - start) (stop - start) text = some text := by
    have hall := replace_append [] middle [] text
    have hlength : stop - start = byteLength middle := by omega
    simpa [hlength] using hall
  show (slice _ start stop >>= fun t =>
    [(⟨⟨start, stop⟩, text⟩ : Replacement)].foldlM (replaceIn start) t) = some text
  rw [hslice]
  show (replaceIn start middle ⟨⟨start, stop⟩, text⟩ >>= fun t => some t) = some text
  rw [replaceIn, guard_eq_some ⟨Nat.le_refl _, h.start_le_stop⟩]
  show (replace middle (start - start) (stop - start) text >>= fun t => some t) = some text
  rw [hreplace]
  rfl

/-- A copy that is replaced as a whole is written as what it is replaced with. -/
theorem Code.Alike.whole (e : Expr) (h : e.span.On source) (code : Code) :
    code.Alike source (.copy e [(e.span, code)]) := by
  intro bindings
  cases hcode : code.render bindings source with
  | none =>
    -- without a text for the markup there is none for the copy either
    have hpatches : renderPatches bindings source [(e.span, code)] = none := by
      rw [renderPatches, hcode]
      rfl
    rw [render, hpatches]
    rfl
  | some text =>
    have hpatches : renderPatches bindings source [(e.span, code)] = some [⟨e.span, text⟩] := by
      rw [renderPatches, renderPatches, hcode]
      rfl
    rw [render, hpatches]
    exact (splice_whole h text).symm

/-- Markup and an expression that is this markup are alike as values of an attribute. -/
theorem AttributeValue.Alike.braces {span : Span} (h : span.On source) (node : Markup) :
    (AttributeValue.markup node).Alike options source (.expr (.markup span node)) where
  toMatches := .of_ne (by simp) (by simp) rfl
  isConstant := rfl
  needsGetter := rfl
  reads := rfl
  code := by
    -- in braces the markup is an expression that is replaced as a whole
    have hcode : (AttributeValue.expr (.markup span node)).code options =
        node.value options >>= fun code =>
          pure (.copy (.markup span node) [(span, code)]) := by
      rw [AttributeValue.code, Expr.patches, bind_assoc]
      rfl
    rw [hcode, ← bind_pure (AttributeValue.code options _)]
    refine (Emit.Same.refl (fun _ => rfl) (node.value options)).bind ?_
    rintro code _ rfl
    exact .pure (.whole (.markup span node) h code)

/-- **Braces around markup make no difference.** An attribute of any name whose value is markup, and
    one whose value is an expression that is this markup, give tags that compile alike wherever they
    stand, to the same text with the same notices and helpers, and about which the same is decided:
    what becomes a getter and what is written out as text. -/
theorem Markup.braces_agree (options : Options) (source : List Char) (inner : Span)
    (hinner : inner.isOn source = true) (node : Markup) (name : String)
    (before after : List Attribute) (span : Span) (tag : TagName) (types : List Part)
    (children : List Markup) :
    let plain := before ++ .named name (.markup node) :: after
    let braced := before ++ .named name (.expr (.markup inner node)) :: after
    (AttributeValue.markup node).needsGetter =
      (AttributeValue.expr (.markup inner node)).needsGetter ∧
    ((Markup.element span tag types plain children).Alike options source
        (.element span tag types braced children) ∧
      (Markup.element span tag types plain children).isStatic =
        (Markup.element span tag types braced children).isStatic) ∧
    (Markup.component span tag types plain children).Alike options source
        (.component span tag types braced children) ∧
      (Markup.component span tag types plain children).isStatic =
        (Markup.component span tag types braced children).isStatic := by
  intro plain braced
  have hvalue : (AttributeValue.markup node).Alike options source (.expr (.markup inner node)) :=
    .braces (Span.isOn_iff.1 hinner) node
  have hsame : ∀ attributes, List.Forall₂ (Attribute.Alike options source) attributes attributes :=
    fun attributes => List.forall₂_same.2 fun a _ => .refl a
  have hattributes : List.Forall₂ (Attribute.Alike options source) plain braced :=
    List.rel_append (hsame before) (.cons (.named name hvalue) (hsame after))
  have hchildren : Markup.AlikeAll options source children children := .refl children
  -- the attribute is no text, so neither element is static
  have hstatic : plain.all Attribute.isStatic = false := by
    simp [plain, Attribute.isStatic, AttributeValue.isConstant]
  refine ⟨hvalue.needsGetter, ⟨?_, ?_⟩, ?_, rfl⟩
  · exact .element span tag types hattributes hchildren (.inl hstatic)
  · rw [Markup.isStatic, Markup.isStatic, Attribute.Alike.all_isStatic_eq hattributes]
  · exact .component span tag types hattributes hchildren

/-- A component with an element for an attribute, in both ways of writing it. -/
theorem Markup.braces_agree_component :
    (⟨6, 14⟩ : Span).isOn ("<A b=" ++ braced "<p>x</p>" ++ " />").toList = true ∧
    ((Markup.component ⟨0, 18⟩ (.plain "A") [] [.named "b" (.markup
        (.element ⟨6, 14⟩ (.plain "p") [] [] [.text "x"]))] []).value {}).value.render
          (Bindings.of ⟨none, [], []⟩ {}) ("<A b=" ++ braced "<p>x</p>" ++ " />").toList =
      some ("html`$" ++ braced ("component(A, " ++ braced " b: html`<p>x</p>` " ++ ")") ++
          "`").toList := by
  have hinner : (⟨6, 14⟩ : Span).isOn ("<A b=" ++ braced "<p>x</p>" ++
      " />").toList = true := by decide +kernel
  obtain ⟨-, -, hcomponent, -⟩ := Markup.braces_agree {} _ _ hinner
    (.element ⟨6, 14⟩ (.plain "p") [] [] [.text "x"]) "b" [] [] ⟨0, 18⟩ (.plain "A") [] []
  exact ⟨hinner, (hcomponent.value.value _).trans (by decide +kernel)⟩

end JsxTemplate
