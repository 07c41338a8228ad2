import JsxTemplate.Proofs.Readers
import JsxTemplate.Proofs.Sound

namespace JsxTemplate.Grammar

open Text

/-!
# Readers that give sound trees

A rule of the grammar reads one thing after another, and puts together what it has read. So what is
shown of it goes along with the reading: which expressions are read so far, and from where on they
are counted.

* `Reads source P s taken es p` — the reader `p` goes on after the expressions `es`, which lie after
  offset `s`, and what it gives holds sound expressions after `s`. There is one lemma for each way
  in which readers are put together.
* `Keeps source P p` — the same at the start of a rule, when nothing is read yet.
* `Rules.Keep source P r` — all rules that refer to each other do this.
-/

variable {source : List Char} {P : TagName → Prop}

/-! ### Readers -/

variable {α β : Type} [HasExprs α] [HasExprs β]

/-- A reader stands at a cursor after the expressions `es`, which lie after offset `s`. The flag
    tells that some token after the offset was taken. -/
structure Stands (source : List Char) (P : TagName → Prop) (s : Nat) (taken : Bool)
    (es : List Expr) (c : Cursor) : Prop where
  isIn : c.IsIn source
  place : PlaceIn 0 source s
  start_le : s ≤ c.token.start
  le_before : taken = true → s ≤ c.before
  within : Expr.Within source P s c.before es

/-- After the expressions `es`, the reader gives sound expressions from offset `s` on. -/
def Reads (source : List Char) (P : TagName → Prop) (s : Nat) (taken : Bool) (es : List Expr)
    (p : Reader α) : Prop :=
  ∀ c a c', Stands source P s taken es c → p c = some (a, c') →
    c.Leads source c' ∧ Expr.Within source P s c'.before (exprs a)

/-- The reader gives sound expressions from where it starts. -/
def Keeps (source : List Char) (P : TagName → Prop) (p : Reader α) : Prop :=
  ∀ s taken, Reads source P s taken [] p

namespace Stands

variable {s : Nat} {taken : Bool} {es : List Expr} {c c' : Cursor}

/-- A reader that starts at a cursor has read nothing. -/
theorem start (h : c.IsIn source) : Stands source P c.token.start false [] c where
  isIn := h
  place := h.place.placeIn
  start_le := Nat.le_refl _
  le_before hfalse := by cases hfalse
  within := .nil

/-- What was read stays behind. -/
theorem leads (h : Stands source P s taken es c) (hc : c.Leads source c') :
    Stands source P s taken es c' where
  isIn := hc.isIn
  place := h.place
  start_le := Nat.le_trans h.start_le hc.start_le
  le_before htaken := Nat.le_trans (h.le_before htaken) hc.before_le
  within := h.within.mono (Nat.le_refl s) hc.before_le

/-- More expressions are read, after those that were. -/
theorem append (h : Stands source P s taken es c) (hc : c.Leads source c') {es' : List Expr}
    (hes : Expr.Within source P c.token.start c'.before es') :
    Stands source P s taken (es ++ es') c' :=
  { h.leads hc with within := h.within.append hes h.start_le h.isIn.before_le hc.before_le }

end Stands

variable {s : Nat} {taken : Bool} {es : List Expr} {p q : Reader α}

/-- A reader that keeps trees sound does so from any place on. -/
theorem Keeps.reads (hp : Keeps source P p) : Reads source P s taken [] p := hp s taken

/-- What a reader gives is sound by itself. -/
theorem Keeps.gives (hp : Keeps source P p) :
    Gives source (fun a => ∀ e ∈ exprs a, e.IsSound source P) p := by
  intro c a c' hc heq
  obtain ⟨hlead, hwithin⟩ := hp _ _ c a c' (.start hc) heq
  exact ⟨hwithin.sound, hlead⟩

/-- A reader after what is read already. -/
theorem Keeps.bind {f : α → Reader β} (hp : Keeps source P p)
    (hf : ∀ a, Reads source P s taken (es ++ exprs a) (f a)) :
    Reads source P s taken es (p >>= f) := by
  intro c b c' hc heq
  obtain ⟨⟨a, c₁⟩, hfirst, hrest⟩ := Option.bind_eq_some_iff.1 heq
  obtain ⟨hlead, hwithin⟩ := hp _ _ c a c₁ (.start hc.isIn) hfirst
  obtain ⟨hmore, hresult⟩ := hf a c₁ b c' (hc.append hlead hwithin) hrest
  exact ⟨hlead.trans hmore, hresult⟩

/-- The same, if the reader takes the current token. -/
theorem Keeps.bindTaking {f : α → Reader β} (hp : Keeps source P p)
    (htakes : ∀ {c a c'}, c.IsIn source → p c = some (a, c') → c.token.start ≤ c'.before)
    (hf : ∀ a, Reads source P s true (es ++ exprs a) (f a)) :
    Reads source P s taken es (p >>= f) := by
  intro c b c' hc heq
  obtain ⟨⟨a, c₁⟩, hfirst, hrest⟩ := Option.bind_eq_some_iff.1 heq
  obtain ⟨hlead, hwithin⟩ := hp _ _ c a c₁ (.start hc.isIn) hfirst
  have hbefore := Nat.le_trans hc.start_le (htakes hc.isIn hfirst)
  obtain ⟨hmore, hresult⟩ :=
    hf a c₁ b c' { hc.append hlead hwithin with le_before := fun _ => hbefore } hrest
  exact ⟨hlead.trans hmore, hresult⟩

namespace Reads

/-- What is read is returned. -/
protected theorem pure {a : α} (h : exprs a = es) : Reads source P s taken es (pure a) := by
  intro c a' c' hc heq
  cases heq
  exact ⟨.refl hc.isIn, h ▸ hc.within⟩

/-- A reader that refuses gives nothing. -/
protected theorem refuse : Reads source P s taken es (refuse : Reader α) := by
  intro c a c' _ heq
  cases heq

/-- One of two readers. -/
protected theorem ite {condition : Prop} [Decidable condition]
    (hthen : Reads source P s taken es p) (helse : Reads source P s taken es q) :
    Reads source P s taken es (if condition then p else q) := by
  split
  · exact hthen
  · exact helse

/-- The expressions that were read, written in another way. -/
theorem of_eq {es' : List Expr} (h : es = es') (hp : Reads source P s taken es' p) :
    Reads source P s taken es p := h ▸ hp

/-- Some of what was read may be left out. -/
theorem drop {es' : List Expr} (hp : Reads source P s taken es' p) (h : es'.Sublist es) :
    Reads source P s taken es p :=
  fun c a c' hc heq => hp c a c' { hc with within := hc.within.sublist h } heq

/-- Nothing is given, whatever was read. -/
protected theorem none : Reads source P s taken es (pure (none : Option α)) :=
  .drop (.pure rfl) (List.nil_sublist es)

section Looking

variable {γ : Type} {first : Reader γ} {f : γ → Reader α}

/-- What is read first holds no expressions. -/
theorem skip [hfirst : Steady first] (hf : ∀ b, Reads source P s taken es (f b)) :
    Reads source P s taken es (first >>= f) := by
  intro c a c' hc heq
  obtain ⟨⟨b, c₁⟩, hread, hrest⟩ := Option.bind_eq_some_iff.1 heq
  have hlead := Steady.leads hc.isIn hread
  obtain ⟨hmore, hresult⟩ := hf b c₁ a c' (hc.leads hlead) hrest
  exact ⟨hlead.trans hmore, hresult⟩

/-- A value that is there already. -/
theorem given {b : γ} (hf : Reads source P s taken es (f b)) :
    Reads source P s taken es (pure b >>= f) := by
  rwa [pure_bind]

/-- What is read first is at least one token, without expressions. -/
theorem take [hfirst : Steady first] [htakes : Takes first]
    (hf : ∀ b, Reads source P s true es (f b)) : Reads source P s taken es (first >>= f) := by
  intro c a c' hc heq
  obtain ⟨⟨b, c₁⟩, hread, hrest⟩ := Option.bind_eq_some_iff.1 heq
  have hlead := Steady.leads hc.isIn hread
  have hbefore := Nat.le_trans hc.start_le (htakes.takes hc.isIn hread)
  obtain ⟨hmore, hresult⟩ :=
    hf b c₁ a c' { hc.leads hlead with le_before := fun _ => hbefore } hrest
  exact ⟨hlead.trans hmore, hresult⟩

/-- Something that may be left out, and then the same. -/
theorem optionally {condition : Prop} [Decidable condition] [Steady first]
    (hp : Reads source P s taken es p) :
    Reads source P s taken es (if condition then first >>= fun _ => p else p) :=
  .ite (.skip fun _ => hp) hp

/-- One of two things without expressions, and then the same for both. -/
theorem either {condition : Prop} [Decidable condition] {second : Reader γ} [Steady first]
    [Steady second] (hf : ∀ b, Reads source P s taken es (f b)) :
    Reads source P s taken es (if condition then first >>= f else second >>= f) :=
  .ite (.skip hf) (.skip hf)

end Looking

/-- One of two readers, and then the same for both. -/
theorem branch {γ : Type} [HasExprs γ] {condition : Prop} [Decidable condition] {first : Reader γ}
    {other : γ} {f : γ → Reader α} (hfirst : Keeps source P first) (hother : exprs other = [])
    (hf : ∀ b, Reads source P s taken (es ++ exprs b) (f b)) :
    Reads source P s taken es (if condition then first >>= f else pure other >>= f) := by
  refine .ite (hfirst.bind hf) ?_
  have hlast := hf other
  rw [hother, List.append_nil] at hlast
  rwa [pure_bind]

/-- The expressions that are read next are counted from the current token on. -/
theorem current {f : Token → Reader α} (hf : ∀ t : Token, Reads source P t.start false [] (f t)) :
    Reads source P s taken [] (current >>= f) := by
  intro c a c' hc heq
  obtain ⟨hlead, hwithin⟩ := hf c.token c a c' (.start hc.isIn) (of_current_bind heq)
  exact ⟨hlead, hwithin.mono hc.start_le (Nat.le_refl _)⟩

/-- The expressions that are read next are counted from here on. -/
theorem here {f : Nat → Reader α} (hf : ∀ start, Reads source P start false [] (f start)) :
    Reads source P s taken [] (here >>= f) := by
  intro c a c' hc heq
  obtain ⟨hlead, hwithin⟩ := hf c.token.start c a c' (.start hc.isIn) heq
  exact ⟨hlead, hwithin.mono hc.start_le (Nat.le_refl _)⟩

section Enclosing

variable {f : Span → Reader α} {form : Form} {parts : List Part}

/-- What was read becomes one expression, from the offset on that it was counted from. -/
theorem enclose (hparts : (exprs parts).Sublist es) (htaken : taken = true ∨ es ≠ [])
    (hf : ∀ span, Reads source P s true [.compound form span parts] (f span)) :
    Reads source P s taken es (spanFrom s >>= f) := by
  intro c a c' hc heq
  have hle : s ≤ c.before := htaken.elim hc.le_before hc.within.start_le_stop
  have hon : (⟨s, c.before⟩ : Span).On source := ⟨hle, hc.place, hc.isIn.placeIn_before⟩
  have hsound := (hc.within.sublist hparts).compound hon form
  refine hf ⟨s, c.before⟩ c a c' { hc with le_before := fun _ => hle, within := ?_ } heq
  exact .singleton hsound (Nat.le_refl _) (Nat.le_refl _)

/-- The same from the first expression on. -/
theorem encloseFrom {first : Expr} {more : List Expr}
    (hparts : (exprs parts).Sublist (first :: more))
    (hf : ∀ span, Reads source P s true [.compound form span parts] (f span)) :
    Reads source P s taken (first :: more) (spanFrom first.span.start >>= f) := by
  intro c a c' hc heq
  have hfirst := hc.within.sound first (by simp)
  have hinner := hc.within.fromFirst
  -- the span ends where the last token did, behind everything read so far
  have hon : (⟨first.span.start, c.before⟩ : Span).On source :=
    ⟨hinner.start_le_stop (by simp), hfirst.on.start_place, hc.isIn.placeIn_before⟩
  have hstart := hc.within.start_le first (by simp)
  have hsound := (hinner.sublist hparts).compound hon form
  refine hf ⟨first.span.start, c.before⟩ c a c'
    { hc with le_before := fun _ => ?_, within := ?_ } heq
  · exact Nat.le_trans hstart hon.start_le_stop
  · exact .singleton hsound hstart (Nat.le_refl _)

/-- The one expression that was read is put in parentheses. -/
theorem parenthesize {inner : Expr}
    (hf : ∀ span, Reads source P s true [.paren span inner] (f span)) :
    Reads source P s taken [inner] (spanFrom s >>= f) := by
  intro c a c' hc heq
  have hle : s ≤ c.before := hc.within.start_le_stop (by simp)
  have hon : (⟨s, c.before⟩ : Span).On source := ⟨hle, hc.place, hc.isIn.placeIn_before⟩
  have hwithin : inner.span.isWithin ⟨s, c.before⟩ = true :=
    Span.isWithin_iff.2 ⟨hc.within.start_le inner (by simp), hc.within.le_stop inner (by simp)⟩
  have hsound := (hc.within.sound inner (by simp)).paren hon hwithin
  refine hf ⟨s, c.before⟩ c a c' { hc with le_before := fun _ => hle, within := ?_ } heq
  exact .singleton hsound (Nat.le_refl _) (Nat.le_refl _)

end Enclosing

/-- What was read becomes one expression, from the first to the last of its parts. -/
theorem join {form : Form} {parts : List Part} {first last : Expr}
    (hp : Reads source P s taken [.compound form ⟨first.span.start, last.span.stop⟩ parts] p)
    (hparts : exprs parts = es) (hfirst : es.head? = some first)
    (hlast : es.getLast? = some last) : Reads source P s taken es p := by
  subst hparts
  exact fun c a c' hc heq =>
    hp c a c' { hc with within := hc.within.joined hfirst hlast form } heq

/-- Expressions with commas between them. -/
theorem sequence {first : Expr} {more : List Expr}
    (hp : Reads source P s taken [sequenceOf first more] p) :
    Reads source P s taken (first :: more) p := by
  unfold sequenceOf at hp
  cases hlast : more.getLast? with
  | none =>
    rw [hlast] at hp
    rw [List.getLast?_eq_none_iff.1 hlast]
    exact hp
  | some last =>
    -- the span goes from the first expression to the last one
    rw [hlast] at hp
    refine .join hp (exprs_map_expr _) rfl ?_
    rw [List.getLast?_cons, hlast]
    rfl

/-- A reader goes on with what was given to it, or with what was there before. -/
theorem andThen {f : α → Reader β} (hp : Reads source P s taken es p)
    (hf : ∀ a, Reads source P s taken (exprs a) (f a) ∨ Reads source P s taken es (f a)) :
    Reads source P s taken es (p >>= f) := by
  intro c b c' hc heq
  obtain ⟨⟨a, c₁⟩, hfirst, hrest⟩ := Option.bind_eq_some_iff.1 heq
  obtain ⟨hlead, hwithin⟩ := hp c a c₁ hc hfirst
  -- what follows is given the expressions of the first value, or those that were there before
  rcases hf a with hf | hf
  · obtain ⟨hmore, hresult⟩ := hf c₁ b c' { hc.leads hlead with within := hwithin } hrest
    exact ⟨hlead.trans hmore, hresult⟩
  · obtain ⟨hmore, hresult⟩ := hf c₁ b c' (hc.leads hlead) hrest
    exact ⟨hlead.trans hmore, hresult⟩

end Reads

/-! ### Choice, repetition and lists -/

namespace Keeps

/-- A reader that goes back if it refuses. -/
protected theorem attempt (hp : Keeps source P p) : Keeps source P (attempt p) := by
  intro s taken c given c' hc heq
  unfold attempt at heq
  cases hstep : p c with
  | none =>
    rw [hstep] at heq
    cases heq
    exact ⟨.refl hc.isIn, .nil⟩
  | some result =>
    rw [hstep] at heq
    cases heq
    exact hp s taken c result.1 result.2 hc hstep

/-- A repetition reads one thing after another. -/
protected theorem repeated {p : Reader (Option α)} (hp : Keeps source P p) (n : Nat) :
    Keeps source P (repeated n p) := by
  induction n with
  | zero => exact fun _ _ => .refuse
  | succ n ih =>
    intro s taken
    rw [repeated]
    refine hp.bind fun given => ?_
    cases given with
    | none => exact .pure rfl
    | some a => exact ih.bind fun as => .pure rfl

/-- A value that is there. -/
protected theorem some (hp : Keeps source P p) :
    Reads source P s taken [] (p >>= fun a => pure (some a)) :=
  hp.bind fun _ => .pure rfl

/-- What follows each sign of a kind. -/
theorem afterSigns (hp : Keeps source P p) (limit : Nat) (sign : String) :
    Keeps source P (Grammar.repeated limit do
      if ← accept sign then return some (← p) else return none) :=
  .repeated (fun _ _ => .skip fun _ => .ite hp.some (.pure rfl)) limit

/-- Values between commas, and the closing sign. -/
protected theorem listed (hp : Keeps source P p) (limit : Nat) (close : String) :
    Keeps source P (listed limit close p) := by
  intro s taken
  unfold Grammar.listed
  refine Keeps.bind (.repeated (fun s taken => ?_) limit) fun as => .skip fun _ => .pure rfl
  refine .skip fun _ => .ite (.pure rfl) (hp.bind fun a => .skip fun _ => ?_)
  exact .ite (.pure rfl) (.skip fun _ => .pure rfl)

/-- Values between commas, at least one. -/
protected theorem commaSeparated (hp : Keeps source P p) (limit : Nat) :
    Keeps source P (commaSeparated limit p) := by
  intro s taken
  unfold Grammar.commaSeparated
  exact hp.bind fun first => (hp.afterSigns limit ",").bind fun more => .pure rfl

end Keeps

/-! ### Markup -/

/-- What is shown of the reader of an element: it starts at an angle bracket and ends at another
    one, which is not yet taken. -/
structure MarkupAt (source : List Char) (P : TagName → Prop) (c c' : Cursor)
    (given : Span × Markup) : Prop where
  leads : c.Leads source c'
  span_eq : given.1 = ⟨c.token.start, c'.token.stop⟩
  start_lt : c.token.start < c'.token.stop
  opens : given.1.opensTag source = true
  isTag : given.2.isTag = true
  sound : given.2.IsSound source P

/-- The reader gives sound markup. -/
def KeepsMarkup (source : List Char) (P : TagName → Prop) (p : Reader (Span × Markup)) : Prop :=
  ∀ c given c', c.IsIn source → p c = some (given, c') → MarkupAt source P c c' given

namespace KeepsMarkup

variable {p : Reader (Span × Markup)} {f : Span × Markup → Reader α}

/-- What a reader of markup gives is sound. -/
theorem gives (hp : KeepsMarkup source P p) :
    Gives source (fun given => given.2.IsSound source P) p := by
  intro c given c' hc heq
  exact ⟨(hp c given c' hc heq).sound, (hp c given c' hc heq).leads⟩

/-- Markup is an expression, once its last angle bracket is taken. -/
theorem bind (hp : KeepsMarkup source P p)
    (hf : ∀ given : Span × Markup, Reads source P s true [.markup given.1 given.2] (f given)) :
    Reads source P s taken [] (p >>= fun given => advance >>= fun _ => f given) := by
  intro c a c' hc heq
  obtain ⟨⟨given, c₁⟩, hread, hrest⟩ := Option.bind_eq_some_iff.1 heq
  -- the last angle bracket is still to be taken, so the end of the span lies behind it
  have hmarkup := hp c given c₁ hc.isIn hread
  have hlead := hmarkup.leads.trans (Cursor.leads_after hmarkup.leads.isIn)
  have hon : given.1.On source := by
    rw [hmarkup.span_eq]
    exact ⟨Nat.le_of_lt hmarkup.start_lt, hc.isIn.place.placeIn, hmarkup.leads.isIn.after.placeIn⟩
  have hlt : given.1.start < given.1.stop := by
    rw [hmarkup.span_eq]
    exact hmarkup.start_lt
  have hsound := Expr.isSound_markup hon hlt hmarkup.opens hmarkup.isTag hmarkup.sound
  have hstart : s ≤ given.1.start := by
    rw [hmarkup.span_eq]
    exact hc.start_le
  have hstop : given.1.stop ≤ (Cursor.at c₁.token.after).before := by
    rw [hmarkup.span_eq]
    exact Nat.le_refl _
  obtain ⟨hmore, hresult⟩ := hf given (Cursor.at c₁.token.after) a c'
    { hc.leads hlead with
      le_before := fun _ => Nat.le_trans hstart (Nat.le_trans (Nat.le_of_lt hlt) hstop)
      within := .singleton hsound hstart hstop } hrest
  exact ⟨hlead.trans hmore, hresult⟩

end KeepsMarkup

/-! ### Rules -/

/-- The rules give sound trees. -/
structure Rules.Keep (source : List Char) (P : TagName → Prop) (r : Rules) : Prop where
  operand : ∀ {c}, Keeps source P (r.operand c)
  unary : ∀ {c}, Keeps source P (r.unary c)
  leftHandSide : ∀ {c}, Keeps source P (r.leftHandSide c)
  statement : ∀ {c}, Keeps source P (r.statement c)
  type : ∀ {c}, Keeps source P (r.type c)
  binding : ∀ {c}, Keeps source P (r.binding c)
  markup : ∀ {c}, KeepsMarkup source P (r.markup c)

namespace Rules.Keep

variable {r : Rules} {c : Scope}

/-- The rules that refuse everything. -/
theorem refusing : Rules.refusing.Keep source P where
  operand := fun _ _ => .refuse
  unary := fun _ _ => .refuse
  leftHandSide := fun _ _ => .refuse
  statement := fun _ _ => .refuse
  type := fun _ _ => .refuse
  binding := fun _ _ => .refuse
  markup := by
    intro c cursor given cursor' _ heq
    cases heq

/-- The rule for an expression without a comma keeps trees sound. -/
theorem assignment (hr : r.Keep source P) : Keeps source P (r.assignment c) := by
  intro s taken
  unfold Rules.assignment
  exact hr.operand.bind fun o => .skip fun _ => .pure rfl

/-- So does the one for expressions with commas between them. -/
theorem expression (hr : r.Keep source P) : Keeps source P (r.expression c) := by
  intro s taken
  unfold Rules.expression
  refine hr.assignment.bind fun first => (hr.assignment.afterSigns c.limit ",").bind fun more => ?_
  exact .of_eq (by simp) (.sequence (.pure rfl))

end Rules.Keep

end JsxTemplate.Grammar
