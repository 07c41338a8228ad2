import JsxTemplate.Proofs.ReadExpressions

namespace JsxTemplate.Grammar

/-!
# Markup is read soundly

Between tags a reader is at a place of the text, and not at a token. So what is said of the rules
for children names this place, which comes after the token that the reader still stands at.

* `gives_attributes` — attributes.
* `gives_children` — what stands between tags.
* `keepsMarkup_element` — an element or a fragment, with a property of the tags that name
  components.
-/

variable {source : List Char} {P : TagName → Prop} {r : Rules} (hr : r.Keep source P) {c : Scope}

include hr

/-! ### Attributes -/

/-- The value of an attribute. -/
theorem gives_attributeValue :
    Gives source (AttributeValue.IsSound source P) (attributeValue r c) := by
  unfold attributeValue
  refine .skip fun _ => .ite ?_ (.skip fun _ => .ite ?_ ?_)
  · refine hr.expression.gives.bind fun e he => .skip fun _ => .pure ?_
    have hsound := he e (by simp)
    exact ⟨hsound.placed, hsound.hold⟩
  · refine hr.markup.gives.bind fun given hgiven => .skip fun _ => .pure ?_
    exact ⟨hgiven.placed, hgiven.hold⟩
  · exact .skip fun text => .pure ⟨rfl, by simp [AttributeValue.Hold]⟩

/-- An attribute. -/
theorem gives_tagAttribute : Gives source (Attribute.IsSound source P) (tagAttribute r c) := by
  unfold tagAttribute
  -- after the name nothing depends on whether it had a namespace
  have hnamed : ∀ name : String, Gives source (Attribute.IsSound source P) (do
      if ← accept "=" then return .named name (← attributeValue r c)
      return .named name .bare) := by
    intro name
    refine .skip fun _ => .ite ?_ (.pure ⟨rfl, by simp [Attribute.Hold]⟩)
    exact (gives_attributeValue hr).bind fun value hvalue => .pure ⟨hvalue.placed, hvalue.hold⟩
  refine .skip fun _ => .ite ?_ (.skip fun first => .skip fun _ => .ite ?_ (hnamed first))
  · refine .skip fun _ => hr.expression.gives.bind fun e he => .skip fun _ => .pure ?_
    have hsound := he e (by simp)
    exact ⟨hsound.placed, hsound.hold⟩
  · exact .skip fun name => hnamed (first ++ ":" ++ name)

/-- The attributes of a tag. -/
theorem gives_attributes :
    Gives source (fun attributes => ∀ a ∈ attributes, a.IsSound source P) (attributes r c) := by
  unfold attributes
  exact .repeated (.skip fun _ => .ite .none (gives_tagAttribute hr).some) c.limit

/-! ### Children -/

/-- What stands in braces between tags. -/
theorem gives_hole :
    Gives source (fun given => ∀ node ∈ given, node.IsSound source P) (hole r c) := by
  unfold hole
  refine .skip fun _ => .skip fun _ => .ite .none (.skip fun spread => ?_)
  refine hr.expression.gives.bind fun e he => .skip fun _ => .skip fun _ => .pure ?_
  simpa using Markup.isSound_hole spread (he e (by simp))

/-- From a place on that comes after the current token, the reader gives a value with the property,
    which may also be one of where it stands then. -/
def GivesFrom {α : Type} (source : List Char) (place : Place) (Q : α → Cursor → Prop)
    (p : Reader α) : Prop :=
  ∀ c a c', c.IsIn source → c.token.start ≤ place.offset → p c = some (a, c') →
    c.Leads source c' ∧ Q a c'

/-- What stands between tags is sound. If there is something, the next place comes after the token
    that the reader stands at. -/
theorem givesFrom_child {place : Place} (hplace : place.IsIn source) :
    GivesFrom source place (fun given cursor => ∀ next ∈ given,
      (∀ node ∈ next.1, node.IsSound source P) ∧ next.2.IsIn source ∧
        cursor.token.start ≤ next.2.offset) (child r c place) := by
  unfold child
  split
  · -- braces
    intro cursor given cursor' hc hle heq
    have hset := Cursor.leads_at hc hplace hle
    obtain ⟨⟨node, cursor₁⟩, hread, heq⟩ := Option.bind_eq_some_iff.1 heq
    cases heq
    obtain ⟨hnode, hlead⟩ := gives_hole hr _ _ _ hset.isIn hread
    refine ⟨hset.trans hlead, fun next hnext => ?_⟩
    obtain rfl := Option.mem_some_iff.1 hnext
    exact ⟨by simpa using hnode, hlead.isIn.after, hlead.isIn.start_le_stop⟩
  · -- a tag
    intro cursor given cursor' hc hle heq
    have hset := Cursor.leads_at hc hplace hle
    replace heq : (if atClosingTag place = true then pure none else _ : Reader _)
      (Cursor.at place) = some (given, cursor') := heq
    split at heq
    · cases heq
      exact ⟨hset, by simp⟩
    · obtain ⟨⟨node, cursor₁⟩, hread, heq⟩ := Option.bind_eq_some_iff.1 heq
      cases heq
      obtain ⟨hnode, hlead⟩ := hr.markup.gives _ _ _ hset.isIn hread
      refine ⟨hset.trans hlead, fun next hnext => ?_⟩
      obtain rfl := Option.mem_some_iff.1 hnext
      exact ⟨by simpa using hnode, hlead.isIn.after, hlead.isIn.start_le_stop⟩
  · -- text up to the next of these
    intro cursor given cursor' hc hle heq
    obtain ⟨-, heq⟩ := of_require_bind heq
    cases heq
    have hreach := place.reaches_takeWhile fun c => c != '{' && c != '<' && c != '}' && c != '>'
    refine ⟨.refl hc, fun next hnext => ?_⟩
    obtain rfl := Option.mem_some_iff.1 hnext
    refine ⟨fun node hnode => ?_, hplace.reaches hreach, Nat.le_trans hle hreach.offset_le⟩
    rw [List.mem_singleton.1 hnode]
    exact Markup.isSound_text _

/-- All that stands between tags. -/
theorem givesFrom_children (n : Nat) {place : Place} (hplace : place.IsIn source) :
    GivesFrom source place (fun nodes _ => ∀ node ∈ nodes, node.IsSound source P)
      (children r c n place) := by
  induction n generalizing place with
  | zero =>
    intro cursor nodes cursor' _ _ heq
    cases heq
  | succ n ih =>
    intro cursor nodes cursor' hc hle heq
    unfold children at heq
    obtain ⟨⟨given, cursor₁⟩, hchild, heq⟩ := Option.bind_eq_some_iff.1 heq
    -- each child is read at the place where the one before it stopped
    obtain ⟨hlead, hgiven⟩ := givesFrom_child hr hplace cursor given cursor₁ hc hle hchild
    cases given with
    | none =>
      cases heq
      exact ⟨hlead, by simp⟩
    | some next =>
      obtain ⟨hnodes, hnext, hle'⟩ := hgiven next rfl
      obtain ⟨⟨rest, cursor₂⟩, hrest, heq⟩ := Option.bind_eq_some_iff.1 heq
      cases heq
      obtain ⟨hlead', hsound⟩ := ih hnext cursor₁ rest cursor' hlead.isIn hle' hrest
      exact ⟨hlead.trans hlead', List.forall_mem_append.2 ⟨hnodes, hsound⟩⟩

/-- What stands between the tags of an element. -/
theorem gives_content :
    Gives source (fun nodes => ∀ node ∈ nodes, node.IsSound source P) (content r c) := by
  intro cursor nodes cursor' hc heq
  obtain ⟨-, heq⟩ := of_require_bind (of_current_bind heq)
  obtain ⟨⟨children, cursor₁⟩, hread, heq⟩ := Option.bind_eq_some_iff.1 heq
  obtain ⟨⟨_, cursor₂⟩, hclose, heq⟩ := Option.bind_eq_some_iff.1 heq
  cases heq
  obtain ⟨hlead, hsound⟩ :=
    givesFrom_children hr c.limit hc.after cursor nodes cursor₁ hc hc.start_le_stop hread
  exact ⟨hsound, hlead.trans (Steady.leads hlead.isIn hclose)⟩

/-! ### Elements -/

/-- An element or a fragment after its first angle bracket. The tags that are read decide whether it
    is a component. -/
theorem gives_elementRest
    (htag : Gives source (fun tag => tag.isComponent = true → P tag) (tagName c)) :
    Gives source (fun node => ∀ span : Span, span.On source →
      (node span).IsSound source P ∧ (node span).isTag = true) (elementRest r c) := by
  unfold elementRest
  refine .skip fun _ => .ite ?_ ?_
  · refine (gives_content hr).bind fun nodes hnodes => .pure fun span _ => ?_
    exact ⟨Markup.isSound_fragment hnodes, rfl⟩
  refine htag.bind fun tag hcomponent => .skip fun _ => ?_
  -- in an untyped module there are no type arguments
  suffices hrest : ∀ types, (∀ e ∈ exprs types, e.IsSound source P) →
      Gives source (fun node : Span → Markup => ∀ span : Span, span.On source →
        (node span).IsSound source P ∧ (node span).isTag = true) (do
          let attrs ← attributes r c
          if ← accept "/" then return fun span => .ofTag span tag types attrs []
          let nodes ← content r c
          require ((← tagName c) == tag)
          return fun span => .ofTag span tag types attrs nodes) from
    .ite ((keeps_typeArguments hr).gives.bind hrest) (hrest [] (by simp))
  intro types htypes
  refine (gives_attributes hr).bind fun attrs hattrs => .skip fun _ => .ite ?_ ?_
  · refine .pure fun span hspan => ⟨?_, Markup.isTag_ofTag ..⟩
    exact Markup.isSound_ofTag hspan hcomponent htypes hattrs (by simp)
  refine (gives_content hr).bind fun nodes hnodes => htag.bind fun _ _ => .skip fun _ => ?_
  refine .pure fun span hspan => ⟨?_, Markup.isTag_ofTag ..⟩
  exact Markup.isSound_ofTag hspan hcomponent htypes hattrs hnodes

omit hr in
/-- A token that is an angle bracket opens a tag. -/
theorem opensTag_of_isSign {cursor : Cursor} (hc : cursor.IsIn source)
    (hsign : cursor.token.isSign "<" = true) {stop : Nat} :
    (⟨cursor.token.start, stop⟩ : Span).opensTag source = true := by
  obtain ⟨front, hcut⟩ := hc.place.cut_eq
  have htext : cursor.token.place.rest = '<' :: cursor.token.rest := hc.token.text_of_isSign hsign
  rw [htext] at hcut
  exact Span.opensTag_of_cut hcut

/-- An element or a fragment, from its first angle bracket to its last one. -/
theorem keepsMarkup_element
    (htag : Gives source (fun tag => tag.isComponent = true → P tag) (tagName c)) :
    KeepsMarkup source P (element r c) := by
  intro cursor given cursor' hc heq
  obtain ⟨⟨_, cursor₁⟩, hopen, heq⟩ := Option.bind_eq_some_iff.1 heq
  rw [expect_eq] at hopen
  split at hopen
  next hsign =>
    cases hopen
    obtain ⟨⟨node, cursor₂⟩, hread, heq⟩ := Option.bind_eq_some_iff.1 heq
    obtain ⟨-, heq⟩ := of_require_bind (of_current_bind heq)
    cases heq
    obtain ⟨hnode, hlead⟩ := gives_elementRest hr htag _ _ _ (Cursor.leads_after hc).isIn hread
    -- the first bracket is one character long, and the last one is not before its end
    have hstart : cursor.token.stop = cursor.token.start + 1 := hc.token.stop_of_isSign hsign
    have hfirst : cursor.token.stop ≤ cursor'.before := hlead.before_le
    have hlast := Nat.le_trans hlead.isIn.before_le hlead.isIn.start_le_stop
    have hlt : cursor.token.start < cursor'.token.stop := by omega
    have hon : (⟨cursor.token.start, cursor'.token.stop⟩ : Span).On source :=
      ⟨Nat.le_of_lt hlt, hc.place.placeIn, hlead.isIn.after.placeIn⟩
    obtain ⟨hsound, hisTag⟩ := hnode _ hon
    exact ⟨(Cursor.leads_after hc).trans hlead, rfl, hlt, opensTag_of_isSign hc hsign, hisTag,
      hsound⟩
  next => cases hopen

end JsxTemplate.Grammar
